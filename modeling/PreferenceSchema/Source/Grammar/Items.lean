import PreferenceSchema.Source.Grammar.Members

/-!
# Reading items

Structures, traits, implementations and modules are kept with what declarations
are found in; every other item is read and left out.  An item that is no regular
one is only kept as its tokens.
-/

namespace PreferenceSchema
namespace Source
namespace Grammar

open Source.Parser

/-- Reads a module. -/
def moduleItem (g : Grammar) : Parser Item := do
  let _ ← word? "unsafe"
  word "mod"
  let name ← nameOrTry
  if ← sign? ";" then return .submodule name none
  if !(← ahead).atGroup .brace then expected ["`;`", "curly braces"]
  inside .brace do
    let _ ← g.innerAttributes
    return .submodule name (some (← untilEnd g.item))

/-- Reads a function, and tells whether it has a body. -/
def functionItem (g : Grammar) : Parser Bool := do
  let _ ← g.signature false
  if ← sign? ";" then return false
  let _ ← g.body
  return true

/-- Reads an item that no declaration is found in, and that is always
regular. -/
def otherItem (item : Parser Unit) : Parser (Option Item) := do
  item
  return some .other

/-- Reads an item that no declaration is found in; whether it is regular. -/
def otherItemIf (item : Parser Bool) : Parser (Option Item) := do
  return if ← item then some .other else none

/-- What an item may begin with that is no use of a definition. -/
def itemStarts : List String :=
  ["`fn`", "`extern`", "`use`", "`static`", "`const`", "`unsafe`", "`mod`",
    "`type`", "`struct`", "`enum`", "`union`", "`trait`", "`auto`", "`impl`",
    "`default`", "`macro`"]

/-- Reads a block of items that are defined elsewhere, which has no
visibility. -/
def foreignItem
    (g : Grammar)
    (visible : Bool) : Parser (Option Item) := do
  if visible then expected ["`extern`"]
  otherItem g.foreignBlock

/-- Reads an item that begins with `extern` and is neither a function nor a
link. -/
def linkedItem
    (g : Grammar)
    (visible : Bool) : Parser (Option Item) := do
  let next := (← ahead).skip
  if !(next.atGroup .brace || next.atString) then
    moveTo next
    expected ["`crate`", "curly braces", "string literal"]
  g.foreignItem visible

/-- Reads an item that begins with `unsafe` and is no function. -/
def uncheckedItem
    (g : Grammar)
    (attributes : List Attribute)
    (visible : Bool) : Parser (Option Item) := do
  let next := (← ahead).skip
  if next.atWord "trait" ||
      (next.atWord "auto" && next.skip.atWord "trait") then
    g.traitItem attributes
  else if next.atWord "impl" then g.implementationItem visible
  else if next.atWord "extern" then g.foreignItem visible
  else if next.atWord "mod" then g.moduleItem
  else
    moveTo next
    expected ["`trait`", "`auto`", "`impl`", "`extern`", "`mod`"]

/-- Reads a constant as an item, which has a value and is not generic if it is
regular. -/
def freeConstant (g : Grammar) : Parser Bool := do
  let item ← g.constantItem
  return item.hasValue && !item.isGeneric

/-- Reads an item that begins with one of the words for definitions; nothing
where it is only kept as its tokens. -/
def itemBehind
    (g : Grammar)
    (attributes : List Attribute)
    (visible : Bool) : Parser (Option Item) := do
  let tokens ← ahead
  let next := tokens.skip
  if atFunction false tokens then otherItemIf g.functionItem
  else if tokens.atWord "extern" then
    if next.atWord "crate" then otherItem linkItem else g.linkedItem visible
  else if tokens.atWord "use" then otherItemIf do return !(← g.useItem)
  else if tokens.atWord "static" then otherItemIf g.staticItem
  else if tokens.atWord "const" then otherItemIf g.freeConstant
  else if tokens.atWord "unsafe" then g.uncheckedItem attributes visible
  else if tokens.atWord "mod" then g.moduleItem
  else if tokens.atWord "type" then
    otherItemIf do return (← g.typeItem .early).isAlias
  else if tokens.atWord "struct" then
    return some (.struct (← g.struct attributes))
  else if tokens.atWord "enum" then otherItem g.enumItem
  else if tokens.atWord "union" && next.atName then otherItem g.unionItem
  else if tokens.atWord "trait" ||
      (tokens.atWord "auto" && next.atWord "trait") then
    g.traitItem attributes
  else if tokens.atWord "impl" ||
      (tokens.atWord "default" && !next.atSign "!") then
    g.implementationItem visible
  else if tokens.atWord "macro" then otherItemIf do
    macroItem
    return false
  else if !visible && atUse tokens then otherItem (expansionItem true)
  else expected (itemStarts ++ if visible then [] else useStarts)

/-- Reads an item. -/
def readItem (g : Grammar) : Parser Item := do
  let item? ← unchangedIf Option.isNone do
    let attributes ← g.outerAttributes
    let visibility ← visibility
    g.itemBehind attributes (visibility ≠ .inherited)
  return item?.getD .other

end Grammar
end Source
end PreferenceSchema
