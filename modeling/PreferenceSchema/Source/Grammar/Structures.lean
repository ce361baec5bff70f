import PreferenceSchema.Source.Grammar.Functions

/-!
# Reading structures

Structures, enumerations and unions with their fields and variants.
-/

namespace PreferenceSchema
namespace Source
namespace Grammar

open Source.Parser

/-! ### Fields -/

/-- Whether a type without a name stands ahead. -/
def atAnonymousType (tokens : Tokens) : Bool :=
  tokens.atWord "struct" ||
    (tokens.atWord "union" && tokens.skip.atGroup .brace)

/-- Reads a type without a name, which is kept as it stands. -/
def anonymousType (g : Grammar) : Parser Ty :=
  writtenAs Ty.tokens do
    let (_, tokens) ← taken do
      let _ ← anyWord
      g.fields
    return .verbatim tokens

/-- Reads a field with a name, or with an underscore instead. -/
def namedField (g : Grammar) : Parser Field := do
  let attributes ← g.outerAttributes
  let visibility ← visibility
  let blank := (← ahead).atWord "_"
  let name ← if blank then anyWord else name
  sign ":"
  let type ← if blank && atAnonymousType (← ahead) then
    g.anonymousType else g.type true
  return ⟨attributes, visibility = .public, some name, type⟩

/-- Reads fields with names in braces. -/
def readFields (g : Grammar) : Parser (List Field) := do
  let (fields, _) ← inside .brace (commaSeparated g.namedField)
  return fields

/-- Reads a field without a name. -/
def unnamedField (g : Grammar) : Parser Field := do
  let attributes ← g.outerAttributes
  let visibility ← visibility
  return ⟨attributes, visibility = .public, none, ← g.type true⟩

/-- Reads fields without names in parentheses. -/
def unnamedFields (g : Grammar) : Parser (List Field) := do
  let (fields, _) ← inside .parenthesis (commaSeparated g.unnamedField)
  return fields

/-! ### Structures -/

/-- Reads the fields of a structure; conditions stand in front of braces and
behind parentheses. -/
def structBody (g : Grammar) : Parser Fields := do
  let early ← g.whereClause
  let tokens ← ahead
  if !early && tokens.atGroup .parenthesis then
    let fields ← g.unnamedFields
    let late ← g.whereClause
    if !(← ahead).atSign ";" then
      expected (if late then ["`;`"] else ["`where`", "`;`"])
    sign ";"
    return .unnamed fields
  if tokens.atGroup .brace then return .named (← g.readFields)
  if ← sign? ";" then return .unit
  expected
    ((if early then [] else ["`where`", "parentheses"]) ++
      ["curly braces", "`;`"])

/-- Reads a structure. -/
def struct
    (g : Grammar)
    (attributes : List Attribute) : Parser Struct := do
  word "struct"
  let name ← name
  let _ ← g.generics
  return ⟨attributes, name, ← g.structBody⟩

/-! ### Enumerations and unions -/

/-- Reads a variant of an enumeration.  Its visibility says nothing, and is not
written out. -/
def variant (g : Grammar) : Parser Unit := do
  let _ ← g.outerAttributes
  let _ ← apart visibility
  let _ ← name
  let tokens ← ahead
  if tokens.atGroup .brace then
    let _ ← g.readFields
  else if tokens.atGroup .parenthesis then
    let _ ← g.unnamedFields
  if ← sign? "=" then
    let _ ← g.expression true

/-- Reads an enumeration. -/
def enumItem (g : Grammar) : Parser Unit := do
  word "enum"
  let _ ← name
  let _ ← g.generics
  let _ ← g.whereClause
  let _ ← inside .brace (commaSeparated g.variant)

/-- Reads a union. -/
def unionItem (g : Grammar) : Parser Unit := do
  word "union"
  let _ ← name
  let _ ← g.generics
  let _ ← g.whereClause
  let _ ← g.readFields

end Grammar
end Source
end PreferenceSchema
