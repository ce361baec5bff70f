import PreferenceSchema.Text.GraphemeTable

/-!
# Grapheme clusters

The division of a text into extended grapheme clusters, what a reader takes for
one character.  Two neighbours are kept together or parted by their classes and
by a summary of what stands before them.
-/

namespace PreferenceSchema
namespace Text

/-- The class of a character for the division into grapheme clusters. -/
inductive GraphemeClass where
  | carriageReturn
  | lineFeed
  | control
  | extend
  | joiner
  | spacingMark
  | prepend
  | regional
  | leading
  | vowel
  | trailing
  | leadingVowel
  | leadingVowelTrailing
  | other
deriving DecidableEq, Repr

/-- The class of a character. -/
def GraphemeClass.of (c : Char) : GraphemeClass :=
  let point := c.toNat
  if point = 0x0D then .carriageReturn
  else if point = 0x0A then .lineFeed
  else if 0x20 ≤ point ∧ point < 0x7F then .other
  else if point = 0x200D then .joiner
  else if 0xAC00 ≤ point ∧ point ≤ 0xD7A3 then
    if (point - 0xAC00) % 28 = 0 then .leadingVowel else .leadingVowelTrailing
  else if 0x1F1E6 ≤ point ∧ point ≤ 0x1F1FF then .regional
  else if controlTable.contains c then .control
  else if extendTable.contains c then .extend
  else if spacingMarkTable.contains c then .spacingMark
  else if prependTable.contains c then .prepend
  else if leadingJamoTable.contains c then .leading
  else if vowelJamoTable.contains c then .vowel
  else if trailingJamoTable.contains c then .trailing
  else .other

/-- Whether a character is an extended pictograph. -/
def isPictograph (c : Char) : Bool :=
  0x80 ≤ c.toNat && pictographTable.contains c

/-- Whether a character is a consonant that takes part in conjuncts. -/
def isConjunctConsonant (c : Char) : Bool :=
  0x80 ≤ c.toNat && conjunctConsonantTable.contains c

/-- What an emoji sequence at the end of a text still needs. -/
inductive PictographState where
  | none
  | base
  | joined
deriving DecidableEq, Repr

/-- How much of a conjunct stands at the end of a text. -/
inductive ConjunctState where
  | none
  | consonant
  | linked
deriving DecidableEq, Repr

/-- The part of a text that decides whether the next character still belongs to
its last cluster. -/
structure GraphemeContext where
  /-- Class of the last character. -/
  last : GraphemeClass
  /-- Whether an odd number of regional indicators stands at the end. -/
  oddRegional : Bool
  pictograph : PictographState
  conjunct : ConjunctState

namespace GraphemeContext

/-- The context after the first character of a text. -/
def first (c : Char) : GraphemeContext where
  last := .of c
  oddRegional := GraphemeClass.of c = .regional
  pictograph := if isPictograph c then .base else .none
  conjunct := if isConjunctConsonant c then .consonant else .none

/-- The context after one more character. -/
def step
    (context : GraphemeContext)
    (c : Char) : GraphemeContext :=
  let next := GraphemeClass.of c
  { last := next
    oddRegional := next = .regional ∧ ¬ context.oddRegional
    pictograph :=
      if isPictograph c then .base
      else if next = .extend ∧ context.pictograph = .base then .base
      else if next = .joiner ∧ context.pictograph = .base then .joined
      else .none
    conjunct :=
      if isConjunctConsonant c then .consonant
      else if context.conjunct = .none then .none
      else if conjunctLinkerTable.contains c then .linked
      else if (next = .extend ∨ next = .joiner) ∧ c.toNat ≠ 0x200C then
        context.conjunct
      else .none }

/-- Whether `c` starts a new cluster after the context. -/
def breaksBefore
    (context : GraphemeContext)
    (c : Char) : Bool :=
  match context.last, GraphemeClass.of c with
  | .carriageReturn, .lineFeed => false
  | .carriageReturn, _ | .lineFeed, _ | .control, _ => true
  | _, .carriageReturn | _, .lineFeed | _, .control => true
  | .leading, .leading | .leading, .vowel => false
  | .leading, .leadingVowel | .leading, .leadingVowelTrailing => false
  | .leadingVowel, .vowel | .leadingVowel, .trailing => false
  | .vowel, .vowel | .vowel, .trailing => false
  | .leadingVowelTrailing, .trailing | .trailing, .trailing => false
  | _, .extend | _, .joiner | _, .spacingMark => false
  | .prepend, _ => false
  | .regional, .regional => !context.oddRegional
  | _, _ =>
    !(context.conjunct = .linked && isConjunctConsonant c) &&
      !(context.pictograph = .joined && isPictograph c)

end GraphemeContext

/-- The clusters of a text that continues a cluster, given reversed, in a
context. -/
def graphemesFrom
    (context : GraphemeContext)
    (cluster : List Char) : List Char → List (List Char)
  | [] => [cluster.reverse]
  | c :: rest =>
    if context.breaksBefore c then
      cluster.reverse :: graphemesFrom (context.step c) [c] rest
    else graphemesFrom (context.step c) (c :: cluster) rest

/-- The extended grapheme clusters of a text. -/
def graphemes : List Char → List (List Char)
  | [] => []
  | c :: rest => graphemesFrom (.first c) [c] rest

end Text
end PreferenceSchema
