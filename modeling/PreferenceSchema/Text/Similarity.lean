/-!
# Similarity of names

The Jaro–Winkler similarity of two texts, a score in binary floating point: it
counts the characters that agree within a window and those of them out of order,
and rewards a common beginning.
-/

namespace PreferenceSchema
namespace Text

/-- The indices of `right`, from `low` up to but not including `high`, that hold
`c` and are not yet `taken`; the least one is the partner of `c`. -/
def partner?
    (right : List Char)
    (taken : List Nat)
    (c : Char)
    (low high : Nat) : Option Nat :=
  (List.range high).find? fun j =>
    low ≤ j && right[j]? == some c && !taken.contains j

/-- Pairs the characters of `left`, which starts at index `i`, with equal ones
of `right` that are at most `window` places away and not yet `taken`: the
partners in the order of `left`. -/
def partners
    (window : Nat)
    (right : List Char)
    (taken : List Nat)
    (i : Nat) : List Char → List (Char × Nat)
  | [] => []
  | c :: rest =>
    match partner? right taken c (i - window)
      (min right.length (i + window + 1)) with
    | some j => (c, j) :: partners window right (j :: taken) (i + 1) rest
    | none => partners window right taken (i + 1) rest

/-- The Jaro similarity of two texts, from 0 to 1. -/
def jaro (left right : List Char) : Float :=
  if left.isEmpty && right.isEmpty then 1.0
  else
    let window := max left.length right.length / 2 - 1
    let pairs := partners window right [] 0 left
    let matched := pairs.length
    if matched = 0 then 0.0
    else
      let inOrder := (pairs.map Prod.snd).mergeSort.filterMap fun j => right[j]?
      let moved :=
        ((pairs.zip inOrder).filter fun ((c, _), d) => c != d).length / 2
      (matched.toFloat / left.length.toFloat +
        matched.toFloat / right.length.toFloat +
        (matched - moved).toFloat / matched.toFloat) / 3.0

/-- The number of characters, at most four, in which two texts begin alike. -/
def commonStart (left right : List Char) : Nat :=
  (((left.take 4).zip right).takeWhile fun (c, d) => c == d).length

/-- The Jaro–Winkler similarity of two texts: a Jaro similarity above 0.7 comes
closer to 1 by a tenth for every character of the common beginning. -/
def jaroWinkler (left right : List Char) : Float :=
  let similarity := jaro left right
  if similarity > 0.7 then
    similarity + 0.1 * (commonStart left right).toFloat * (1.0 - similarity)
  else similarity

/-- Whether two names are alike enough that one may be a slip for the other. -/
def resembles (left right : List Char) : Bool :=
  jaroWinkler left right > 0.8

end Text
end PreferenceSchema
