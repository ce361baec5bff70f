import PreferenceSchema.Text.IdentifierTable

/-!
# Identifiers

An identifier begins with a letter or an underscore and runs over letters,
digits and marks.  ASCII is decided by a formula, all other characters by the
tables.
-/

namespace PreferenceSchema
namespace Text

/-- Whether an identifier may begin with the character. -/
def startsIdentifier (c : Char) : Bool :=
  if c.toNat < 0x80 then c.isAlpha || c == '_'
  else identifierStartTable.contains c

/-- Whether an identifier may go on with the character. -/
def continuesIdentifier (c : Char) : Bool :=
  if c.toNat < 0x80 then c.isAlphanum || c == '_'
  else identifierContinueTable.contains c

/-- Whether the whole text is an identifier. -/
def isIdentifier : List Char → Bool
  | [] => false
  | c :: rest => startsIdentifier c && rest.all continuesIdentifier

end Text
end PreferenceSchema
