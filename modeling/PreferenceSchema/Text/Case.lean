import PreferenceSchema.Text.CaseTable

/-!
# Upper and lower case

Full case mapping of characters and texts: a character may map to several, and a
capital sigma at the end of a word becomes a final one.  ASCII letters are
mapped by a formula, all others by the tables.
-/

namespace PreferenceSchema
namespace Text

/-- Whether `point` is one of the code points of the run. -/
def CaseRun.contains
    (run : CaseRun)
    (point : Nat) : Bool :=
  run.first ≤ point && point ≤ run.last && (point - run.first) % run.step == 0

/-- The last index from `low` up to but not including `high` whose run starts at
or before `point`, found by at most `steps` bisections; `low` where there is
none. -/
def locateRun
    (runs : Array CaseRun)
    (point : Nat) : (steps low high : Nat) → Nat
  | 0, low, _ => low
  | steps + 1, low, high =>
    if high ≤ low + 1 then low
    else
      let middle := (low + high) / 2
      match runs[middle]? with
      | some run =>
        if run.first ≤ point then locateRun runs point steps middle high
        else locateRun runs point steps low middle
      | none => low

/-- The image of `c` under a table of expansions and a table of runs. -/
def mapCase
    (expansions : List (Nat × List Nat))
    (runs : Array CaseRun)
    (c : Char) : List Char :=
  let point := c.toNat
  match runs[locateRun runs point runs.size 0 runs.size]? with
  | some run =>
    if run.contains point then [Char.ofNat (Int.toNat (point + run.offset))]
    else ((expansions.lookup point).map (·.map Char.ofNat)).getD [c]
  | none => [c]

/-- The lower case of a character. -/
def lowerChar (c : Char) : List Char :=
  if c.toNat < 0x80 then
    if c.isUpper then [Char.ofNat (c.toNat + 0x20)] else [c]
  else mapCase lowerExpansions lowerRuns c

/-- The upper case of a character. -/
def upperChar (c : Char) : List Char :=
  if c.toNat < 0x80 then
    if c.isLower then [Char.ofNat (c.toNat - 0x20)] else [c]
  else mapCase upperExpansions upperRuns c

/-- Whether a cased character comes first once the case-ignorable ones are
skipped. -/
def meetsCased (text : List Char) : Bool :=
  match text.dropWhile caseIgnorableTable.contains with
  | c :: _ => casedTable.contains c
  | [] => false

/-- The capital sigma, whose lower case depends on its place in the word. -/
def capitalSigma : Char := Char.ofNat 0x3A3

/-- The lower case of a capital sigma between the characters `before` it,
nearest first, and those `after` it: final at the end of a word, medial
elsewhere. -/
def lowerSigma (before after : List Char) : Char :=
  if meetsCased before && !meetsCased after then Char.ofNat 0x3C2
  else Char.ofNat 0x3C3

/-- The lower case of a text that follows the characters `before`, nearest
first. -/
def lowerAfter (before : List Char) : List Char → List Char
  | [] => []
  | c :: rest =>
    (if c = capitalSigma then [lowerSigma before rest] else lowerChar c) ++
      lowerAfter (c :: before) rest

/-- The lower case of a text. -/
def lower (text : List Char) : List Char :=
  lowerAfter [] text

/-- The upper case of a text. -/
def upper (text : List Char) : List Char :=
  text.flatMap upperChar

end Text
end PreferenceSchema
