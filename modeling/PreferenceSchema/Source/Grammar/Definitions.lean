import PreferenceSchema.Source.Grammar.Structures

/-!
# Reading definitions

Names for types, constants, variables, uses of other names, and links.  What one
of them may lack or have depends on where it stands.
-/

namespace PreferenceSchema
namespace Source
namespace Grammar

open Source.Parser

/-! ### Names -/

/-- Reads a name, or the word `try`, which is a name where it cannot mean
anything else. -/
def nameOrTry : Parser String := do
  if (← ahead).atWord "try" then anyWord else name

/-- Reads a name or an underscore, or goes on as told where neither stands
ahead. -/
def nameOrBlank (missing : Parser Unit) : Parser Unit := do
  if (← ahead).atName || (← ahead).atWord "_" then
    let _ ← anyWord
  else missing

/-- What the name of a definition may begin with. -/
def useStarts : List String :=
  ["identifier", "`self`", "`super`", "`crate`", "`::`"]

/-- Whether the name of a definition stands ahead that is used as an item. -/
def atUse (tokens : Tokens) : Bool :=
  tokens.atName || tokens.atAnyOf ["self", "super", "crate"] ||
    tokens.atSign "::"

/-! ### Types -/

/-- Where the conditions on a type stand that has a definition. -/
inductive ConditionPlace where
  | early
  | late
  | either
deriving DecidableEq

/-- What a name for a type has. -/
structure TypeItem where
  hasBounds : Bool
  hasDefinition : Bool

namespace TypeItem

/-- Whether the name stands for a type and has no bounds. -/
def isAlias (item : TypeItem) : Bool :=
  item.hasDefinition && !item.hasBounds

/-- Whether the name is all that there is. -/
def isBare (item : TypeItem) : Bool :=
  !item.hasDefinition && !item.hasBounds

end TypeItem

/-- Reads a definition behind an equals sign, if one stands ahead, and tells
whether it does. -/
def definition? (definition : Parser Unit) : Parser Bool := do
  if ← sign? "=" then
    definition
    return true
  return false

/-- Reads a name for a type, with bounds and with a definition where it has
them. -/
def typeItem
    (g : Grammar)
    (place : ConditionPlace) : Parser TypeItem := do
  word "type"
  let _ ← name
  let _ ← g.generics
  let hasBounds ← colonList <|
    g.boundsUntil fun tokens =>
      tokens.atWord "where" || tokens.atAnySign ["=", ";"]
  let early ← if place = .late then pure false else g.whereClause
  let hasDefinition ← definition? do
    let _ ← g.type true
  if place ≠ .early && !early then
    let _ ← g.whereClause
  sign ";"
  return ⟨hasBounds, hasDefinition⟩

/-! ### Constants -/

/-- Reads the value of a constant, and tells whether it has one. -/
def initialValue (g : Grammar) : Parser Bool :=
  definition? do
    let _ ← g.expression true

/-- What a constant has. -/
structure ConstantItem where
  hasValue : Bool
  isGeneric : Bool

/-- Reads a constant. -/
def constantItem (g : Grammar) : Parser ConstantItem := do
  word "const"
  nameOrBlank (expected ["identifier", "`_`"])
  let generic ← g.generics
  sign ":"
  let _ ← g.type true
  let hasValue ← g.initialValue
  let conditional ← g.whereClause
  sign ";"
  return ⟨hasValue, generic || conditional⟩

/-- Reads a variable of the program, which may lack its type or its value, and
tells whether it has both. -/
def staticItem (g : Grammar) : Parser Bool := do
  word "static"
  let _ ← word? "mut"
  let _ ← name
  let hasType := !(← ahead).atSign "="
  if hasType then
    sign ":"
    let _ ← g.type true
  let hasValue ← g.initialValue
  sign ";"
  return hasType && hasValue

/-! ### Uses and links -/

/-- Reads what a path of a `use` goes on with behind its first word. -/
def useRest (g : Grammar) : Parser Unit := do
  if ← sign? "::" then
    let _ ← g.useTree false
  else if ← word? "as" then
    nameOrBlank (stop "expected identifier or underscore")

/-- Reads a list of what a `use` brings in, where its parts may begin at the
root or not; whether one of them does. -/
def useList
    (g : Grammar)
    (allowRoot : Bool) : Parser Bool :=
  repeating false fun rooted => do
    if (← ahead).isEmpty then return .done rooted
    let atRoot ← if allowRoot then sign? "::" else pure false
    let within ← g.useTree (allowRoot && !atRoot)
    let rooted := rooted || atRoot || within
    if (← ahead).isEmpty then return .done rooted
    sign ","
    return .again rooted

/-- Reads what a `use` brings in, where a list in braces may begin at the root
or not; whether a part of it does. -/
def readUseTree
    (g : Grammar)
    (allowRoot : Bool) : Parser Bool := do
  let tokens ← ahead
  if tokens.atName || tokens.atAnyOf ["self", "super", "crate", "try"] then
    let _ ← anyWord
    g.useRest
    return false
  else if tokens.atSign "*" then
    sign "*"
    return false
  else if tokens.atGroup .brace then inside .brace (g.useList allowRoot)
  else expected ["identifier", "`self`", "`super`", "`crate`", "`try`", "`*`",
    "curly braces"]

/-- Reads a `use`, and tells whether a part of a list in it begins at the
root. -/
def useItem (g : Grammar) : Parser Bool := do
  word "use"
  let leading ← sign? "::"
  let rooted ← g.useTree (!leading)
  sign ";"
  return rooted

/-- Reads a use of a definition as an item. -/
def expansionItem (named : Bool) : Parser Unit := do
  let _ ← plainPath
  sign "!"
  if named && ((← ahead).atName || (← ahead).atWord "try") then
    let _ ← anyWord
  let (delimiter, _) ← anyGroup
  if delimiter ≠ .brace then sign ";"

/-- Reads a definition by patterns. -/
def macroItem : Parser Unit := do
  word "macro"
  let _ ← name
  if (← ahead).atGroup .parenthesis then anyContent .parenthesis
  anyContent .brace

/-- Reads a link to another program. -/
def linkItem : Parser Unit := do
  word "extern"
  word "crate"
  if (← ahead).atWord "self" then word "self"
  else
    let _ ← name
  if ← word? "as" then
    nameOrBlank do
      let _ ← name
  sign ";"

end Grammar
end Source
end PreferenceSchema
