/-!
# Pieces of a text

Cutting a text at a mark: what follows its last occurrence, what follows it at
the start, and the pieces between all its occurrences.
-/

namespace PreferenceSchema
namespace Text

/-- What follows the last occurrence of `mark`, if it occurs. -/
def afterLast? (mark : List Char) : List Char → Option (List Char)
  | [] => none
  | c :: rest => (afterLast? mark rest).or (mark.isPrefixOf? (c :: rest))

/-- What follows the last occurrence of `mark`, or the whole text where it does
not occur. -/
def afterLast (mark text : List Char) : List Char :=
  (afterLast? mark text).getD text

/-- The pieces between the occurrences of `mark`; a text without it is one
piece. -/
def splitAt (mark : Char) : List Char → List (List Char)
  | [] => [[]]
  | c :: rest =>
    if c = mark then [] :: splitAt mark rest
    else
      match splitAt mark rest with
      | [] => [[c]]
      | piece :: pieces => (c :: piece) :: pieces

/-- A text without its last character, if that is one of `marks`. -/
def dropEnding
    (marks : List Char)
    (text : List Char) : List Char :=
  match text.getLast? with
  | some c => if c ∈ marks then text.dropLast else text
  | none => text

/-- There is always at least one piece. -/
theorem splitAt_ne_nil
    (mark : Char)
    (text : List Char) :
    splitAt mark text ≠ [] := by
  cases text with
  | nil => simp [splitAt]
  | cons c rest =>
    unfold splitAt
    split
    · simp
    · split <;> simp

end Text
end PreferenceSchema
