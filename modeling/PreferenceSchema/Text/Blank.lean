/-!
# Blank characters

The characters with the Unicode property White_Space, and the removal of blanks
at the ends of a text or throughout it.
-/

namespace PreferenceSchema
namespace Text

/-- The Unicode property White_Space. -/
def isBlank (c : Char) : Bool :=
  let point := c.toNat
  (0x09 ≤ point && point ≤ 0x0D) || point == 0x20 || point ==
    0x85 || point == 0xA0 ||
    point == 0x1680 || (0x2000 ≤ point && point ≤ 0x200A) || point ==
      0x2028 || point == 0x2029 ||
    point == 0x202F || point == 0x205F || point == 0x3000

/-- A text without the blanks in front. -/
def trimStart (text : List Char) : List Char :=
  text.dropWhile isBlank

/-- A text without the blanks at its end. -/
def trimEnd (text : List Char) : List Char :=
  (trimStart text.reverse).reverse

/-- A text without the blanks at either end. -/
def trim (text : List Char) : List Char :=
  trimEnd (trimStart text)

/-- A text without any blank. -/
def compact (text : List Char) : List Char :=
  text.filter fun c => !isBlank c

/-- No blank survives compaction. -/
theorem not_isBlank_of_mem_compact
    {text : List Char}
    {c : Char}
    (h : c ∈ compact text) :
    isBlank c = false := by
  simpa using (List.mem_filter.1 h).2

end Text
end PreferenceSchema
