import PreferenceSchema.Source.Grammar.Basic

/-!
# Reading attributes

An attribute stands in brackets behind a number sign, or inside what it belongs
to behind a number sign and an exclamation mark.
-/

namespace PreferenceSchema
namespace Source
namespace Grammar

open Source.Parser

/-- Whether a value follows the path of an attribute. -/
def atAttributeValue (tokens : Tokens) : Bool :=
  tokens.atSign "=" && !tokens.atAnySign ["==", "=>"]

/-- Reads the value of an attribute.  A literal that nothing follows is taken
with its minus sign; anything else is an expression. -/
def attributeValue (g : Grammar) : Parser OptionValue := do
  sign "="
  let tokens ← ahead
  match tokens.literal? with
  | some (_, _, []) => return .literal (← literal).1
  | _ =>
    if tokens.atSign "#" && tokens.skip.atGroup .bracket then
      stop "unexpected attribute inside of attribute"
    return .expression (← g.expression true)

/-- Reads what follows the path of an attribute. -/
def attributeContent (g : Grammar) : Parser AttributeContent := do
  let tokens ← ahead
  if tokens.atAnyGroup then
    let (delimiter, content) ← anyGroup
    return .list delimiter content
  if atAttributeValue tokens then return .value (← g.attributeValue)
  return .bare

/-- Reads the path of an attribute. -/
def attributePath : Parser Path := do
  if ← word? "unsafe" then return ⟨false, [⟨"unsafe", .none⟩]⟩
  plainPath

/-- Reads the brackets of an attribute. -/
def attributeBrackets
    (g : Grammar)
    (inner : Bool) : Parser Attribute :=
  inside .bracket do
    let path ← attributePath
    return ⟨inner, path, ← g.attributeContent⟩

/-- Reads the attributes in front of something. -/
def outerAttributes (g : Grammar) : Parser (List Attribute) :=
  repeating [] fun attributes => do
    if ← sign? "#" then
      return .again (attributes ++ [← g.attributeBrackets false])
    return .done attributes

/-- Whether an attribute stands ahead that belongs to what it stands in. -/
def atInnerAttribute (tokens : Tokens) : Bool :=
  tokens.atSign "#" && tokens.skip.atSign "!"

/-- Reads the attributes inside something. -/
def innerAttributes (g : Grammar) : Parser (List Attribute) :=
  repeating [] fun attributes => do
    if atInnerAttribute (← ahead) then
      sign "#"
      sign "!"
      return .again (attributes ++ [← g.attributeBrackets true])
    return .done attributes

/-- Reads a body: attributes of what it belongs to, and statements. -/
def body (g : Grammar) : Parser (List Attribute) :=
  inside .brace do
    let attributes ← g.innerAttributes
    g.statements
    return attributes

end Grammar
end Source
end PreferenceSchema
