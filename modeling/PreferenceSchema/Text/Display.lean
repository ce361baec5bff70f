import PreferenceSchema.Text.VisibilityTable

/-!
# Displayed text

A text as a diagnostic shows it: between quotes, with the characters that could
not be told apart on the page written as escapes.
-/

namespace PreferenceSchema
namespace Text

/-- Whether a character is drawn as something of its own. -/
def isVisible (c : Char) : Bool :=
  c = ' ' || !invisibleTable.contains c && !graphemeExtendTable.contains c

/-- One character of a displayed text. -/
def displayChar (c : Char) : List Char :=
  if c.toNat = 0 then ['\\', '0']
  else if c = '\t' then ['\\', 't']
  else if c = '\r' then ['\\', 'r']
  else if c = '\n' then ['\\', 'n']
  else if c = '"' ∨ c = '\\' then ['\\', c]
  else if isVisible c then [c]
  else ['\\', 'u', '\x7b'] ++ Nat.toDigits 16 c.toNat ++ ['\x7d']

/-- A text between quotes, with escapes. -/
def display (text : List Char) : List Char :=
  '"' :: text.flatMap displayChar ++ ['"']

/-- An optional text: `None`, or `Some` with the displayed text in
parentheses. -/
def displayOption : Option (List Char) → List Char
  | none => "None".toList
  | some text => "Some(".toList ++ display text ++ [')']

end Text
end PreferenceSchema
