import PreferenceSchema.Source.Grammar.Attributes

/-!
# Reading paths

Paths with their arguments.  A path is written out with the arguments of a
segment in one order: lifetimes first.
-/

namespace PreferenceSchema
namespace Source
namespace Grammar

open Source.Parser

/-! ### Arguments -/

/-- Whether a constant stands ahead that can be an argument as it is. -/
def atConstant (tokens : Tokens) : Bool :=
  tokens.atLiteral || tokens.atGroup .brace

/-- Reads a constant as an argument: a literal, a name or a block. -/
def constantArgument (g : Grammar) : Parser Unit := do
  let tokens ← ahead
  if tokens.atLiteral then
    let _ ← literal
  else if tokens.atName then
    let _ ← name
  else if tokens.atGroup .brace then
    let _ ← g.body
  else expected []

/-- Reads what a name stands for in an argument. -/
def associatedValue (g : Grammar) : Parser Unit := do
  if atConstant (← ahead) then g.constantArgument
  else
    let _ ← g.type true

/-- Whether a type is a single name that a value or bounds may follow. -/
def isNameType : Ty → Bool
  | .path none ⟨false, [_]⟩ => true
  | _ => false

/-- Reads an argument of a path: a lifetime, a constant, a type, or a name with
a value or with bounds.  Tells whether it is a lifetime. -/
def pathArgument (g : Grammar) : Parser Bool := do
  let tokens ← ahead
  if tokens.atLifetime && !tokens.skip.atSign "+" then
    let _ ← lifetime
    return true
  else if atConstant tokens then
    g.constantArgument
    return false
  else
    if isNameType (← g.type true) then
      if ← sign? "=" then g.associatedValue
      else if ← sign? ":" then
        let _ ← g.boundsUntil (·.atAnySign [",", ">"])
    return false

/-- Reads the arguments of a path segment in angle brackets. -/
def pathArguments (g : Grammar) : Parser PathArguments :=
  writtenAs PathArguments.tokens do
    let turbofish ← sign? "::"
    sign "<"
    let arguments ← listedParts g.pathArgument
    sign ">"
    return .angled turbofish (ListedPart.listTokens arguments)

/-! ### Segments -/

/-- Whether an angle bracket opens arguments ahead. -/
def atArguments (tokens : Tokens) : Bool :=
  tokens.atSign "<" && !tokens.atAnySign ["<=", "<<="]

/-- Whether double colons and an angle bracket stand ahead. -/
def atTurbofish (tokens : Tokens) : Bool :=
  tokens.atSign "::" && tokens.skip.skip.atSign "<"

/-- Reads a path segment.  In an expression, arguments stand behind double
colons only. -/
def pathSegment
    (g : Grammar)
    (inExpression : Bool) : Parser PathSegment := do
  if (← ahead).atAnyOf ["super", "self", "crate", "try"] then
    return ⟨← anyWord, .none⟩
  let word ← if (← ahead).atWord "Self" then anyWord else name
  let tokens ← ahead
  if (!inExpression && atArguments tokens) || atTurbofish tokens then
    return ⟨word, ← g.pathArguments⟩
  return ⟨word, .none⟩

/-- Reads the segments of a path behind its first ones. -/
def moreSegments
    (g : Grammar)
    (inExpression : Bool)
    (start : List PathSegment) : Parser (List PathSegment) :=
  repeating start fun segments => do
    let tokens ← ahead
    if tokens.atSign "::" && !tokens.skip.skip.atGroup .parenthesis then
      sign "::"
      return .again (segments ++ [← g.pathSegment inExpression])
    return .done segments

/-- Reads a path. -/
def path
    (g : Grammar)
    (inExpression : Bool) : Parser Path := do
  let leadingColon ← sign? "::"
  let first ← g.pathSegment inExpression
  return ⟨leadingColon, ← g.moreSegments inExpression [first]⟩

/-! ### Paths of types in angle brackets -/

/-- Reads the trait through which a type in angle brackets is seen. -/
def viewedTrait (g : Grammar) : Parser Unit := do
  if ← word? "as" then
    let _ ← g.path false

/-- Reads a type in angle brackets in front of a path. -/
def owner (g : Grammar) : Parser Unit := do
  sign "<"
  let _ ← g.type true
  g.viewedTrait
  sign ">"

/-- Reads the segments behind a type in angle brackets. -/
def ownedSegments
    (g : Grammar)
    (inExpression : Bool) : Parser (List PathSegment) :=
  repeating [] fun segments => do
    sign "::"
    let segments := segments ++ [← g.pathSegment inExpression]
    if (← ahead).atSign "::" then return .again segments
    else return .done segments

/-- Reads a path that may begin with a type in angle brackets: the tokens of
that type, and the path. -/
def qualifiedPath
    (g : Grammar)
    (inExpression : Bool) : Parser (Option Tokens × Path) := do
  if (← ahead).atSign "<" then
    let owner ← captured g.owner
    return (some owner, ⟨true, ← g.ownedSegments inExpression⟩)
  return (none, ← g.path inExpression)

end Grammar
end Source
end PreferenceSchema
