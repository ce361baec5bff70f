import PreferenceSchema.Text.Case
import PreferenceSchema.Text.Grapheme

/-!
# Words and upper camel case

A name is cut into words where its spelling shows them: at separators, where the
case turns, at digits, and before the last capital of a run that a small letter
follows.  Upper camel case writes each word with one capital and joins them.
-/

namespace PreferenceSchema
namespace Text

/-- What a grapheme cluster contributes to the shape of a name. -/
inductive LetterKind where
  | separator
  | digit
  | capital
  | small
  | plain
deriving DecidableEq, Repr

/-- The kind of a cluster: a separator only on its own, a letter only if its two
cases differ. -/
def LetterKind.of (cluster : List Char) : LetterKind :=
  if cluster = ['_'] ∨ cluster = ['-'] ∨ cluster = [' '] then .separator
  else if cluster.all Char.isDigit then .digit
  else
    let large := upper cluster
    let little := lower cluster
    if large = little then .plain
    else if cluster = large then .capital
    else if cluster = little then .small
    else .plain

/-- Whether a word ends between clusters of kinds `left` and `right`, with
`next` after them. -/
def wordEndsBetween
    (left right : LetterKind)
    (next : Option LetterKind) : Bool :=
  match left, right with
  | .small, .capital | .small, .digit | .capital, .digit | .digit,
    .small | .digit, .capital => true
  | .capital, .capital => next == some .small
  | _, _ => false

/-- The words of a name given as clusters with their kinds, where `word` holds
the characters of the current word. -/
def wordsFrom (word : List Char) : List (List Char × LetterKind) →
  List (List Char)
  | [] => [word]
  | (cluster, kind) :: rest =>
    if kind = .separator then word :: wordsFrom [] rest
    else
      match rest with
      | [] => [word ++ cluster]
      | (_, next) :: after =>
        if wordEndsBetween kind next (after.head?.map Prod.snd) then
          (word ++ cluster) :: wordsFrom [] rest
        else wordsFrom (word ++ cluster) rest

/-- The words of a name. -/
def words (name : List Char) : List (List Char) :=
  (wordsFrom [] ((graphemes name).map fun cluster =>
    (cluster, LetterKind.of cluster))).filter
    fun word => !word.isEmpty

/-- A word with its first character in upper case and the others in lower
case. -/
def capitalize : List Char → List Char
  | [] => []
  | c :: rest => upperChar c ++ lower rest

/-- The upper camel case of a name: its capitalized words, joined. -/
def upperCamel (name : List Char) : List Char :=
  (words name).flatMap capitalize

end Text
end PreferenceSchema
