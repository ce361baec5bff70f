import PreferenceSchema.Source.Grammar.Bounds

/-!
# Reading types

Every form of a type.  Where pluses are allowed, a path or a parenthesized trait
goes on with further bounds and becomes a type known by its bounds.
-/

namespace PreferenceSchema
namespace Source
namespace Grammar

open Source.Parser

/-! ### Types known by their bounds -/

/-- The rules of the bounds of a trait object. -/
def objectRules : BoundRules :=
  ⟨false, false⟩

/-- Reads the bounds of a trait object, one of which has to be a trait. -/
def objectBounds
    (g : Grammar)
    (marked allowPlus : Bool) : Parser Ty := do
  let (bounds, trailing) ← g.boundList objectRules allowPlus
  if !bounds.any Bound.isTrait then
    throw (.other false "at least one trait is required for an object type")
  return .traitObject marked (bounds.map Bound.tokens) trailing

/-- Reads a trait object behind `dyn`; with a star it is kept as it stands. -/
def markedObject
    (g : Grammar)
    (allowPlus : Bool) : Parser Ty := do
  let ((type, starred), tokens) ← taken do
    word "dyn"
    let starred ← sign? "*"
    return (← g.objectBounds true allowPlus, starred)
  return if starred then .verbatim tokens else type

/-- Reads an opaque type behind `impl`, one of whose bounds has to be a
trait. -/
def someTrait
    (g : Grammar)
    (allowPlus : Bool) : Parser Ty := do
  word "impl"
  let (bounds, trailing) ← g.boundList ⟨true, true⟩ allowPlus
  if !bounds.any Bound.isTrait then
    throw (.other false "at least one trait must be specified")
  return .someTrait (bounds.map Bound.tokens) trailing

/-- Reads further bounds behind plus signs, and makes a trait object of all. -/
def growingObject
    (g : Grammar)
    (start : Tokens) : Parser Ty :=
  repeating [start] fun bounds => do
    if ← sign? "+" then
      return .again (bounds ++ [← captured (g.bound objectRules)])
    return .done (.traitObject false bounds false)

/-! ### Parentheses -/

/-- What stood in parentheses: a type, or something that may be the first bound
of a trait object: always, or only where a plus sign follows. -/
inductive Parenthesized where
  | type (type : Ty)
  | bound (tokens : Tokens)
  | single (type : Ty)

/-- Reads the elements of a tuple behind the first one. -/
def tupleElements
    (g : Grammar)
    (first : Ty) : Parser Ty := do
  sign ","
  let (elements, trailing) ← commaSeparated (g.type true)
  return .tuple (first :: elements) (elements.isEmpty || trailing)

/-- Reads what stands in parentheses. -/
def parenthesized (g : Grammar) : Parser Parenthesized := do
  let tokens ← ahead
  if tokens.isEmpty then return .type (.tuple [] false)
  if tokens.atLifetime then return .type (.paren (← g.objectBounds false true))
  if tokens.atSign "?" then
    return .bound (← captured (g.traitBound objectRules))
  let first ← g.type true
  if (← ahead).atSign "," then return .type (← g.tupleElements first)
  return .single first

/-- A bound in parentheses, of which it has no second pair. -/
def inParentheses : Tokens → Tokens
  | [.group .parenthesis content] => [.group .parenthesis content]
  | bound => [.group .parenthesis bound]

/-- Whether a type in parentheses can be the first bound of a trait object. -/
def isSingleBound : Ty → Bool
  | .path none _ => true
  | .traitObject false [_] false => true
  | _ => false

/-- Reads a type that begins with parentheses. -/
def parenthesizedType
    (g : Grammar)
    (allowPlus : Bool) : Parser Ty := do
  match ← inside .parenthesis g.parenthesized with
  | .type type => return type
  | .bound tokens => g.growingObject [.group .parenthesis tokens]
  | .single type =>
    if allowPlus && (← ahead).atSign "+" && isSingleBound type then
      g.growingObject (inParentheses type.tokens)
    else return .paren type

/-! ### Functions -/

/-- Reads the linkage of a function. -/
def linkage : Parser Unit := do
  word "extern"
  if (← ahead).atString then
    let _ ← literal

/-- Reads the linkage of a function, if one stands ahead. -/
def linkage? : Parser Unit := do
  if (← ahead).atWord "extern" then linkage

/-- Whether a name stands ahead that labels a parameter. -/
def atLabel
    (tokens : Tokens)
    (first : Bool) : Bool :=
  (tokens.atName || tokens.atWord "_" || (first && tokens.atWord "self")) &&
    tokens.skip.atSign ":" && !tokens.skip.atSign "::"

/-- Whether the rest of the parameters is open. -/
def atOpenEnd (tokens : Tokens) : Bool :=
  tokens.atSign "..." ||
    ((tokens.atName || tokens.atWord "_") && tokens.skip.atSign ":" &&
      tokens.skip.skip.atSign "...")

/-- Reads the label of a parameter. -/
def parameterLabel : Parser Unit := do
  let _ ← anyWord
  sign ":"

/-- Whether a receiver that is marked as mutable stands ahead. -/
def atMutableReceiver (tokens : Tokens) : Bool :=
  tokens.atWord "mut" && tokens.skip.atWord "self"

/-- Reads a parameter of a function type, and tells whether it is marked as a
mutable receiver, which only the first one may be. -/
def receiverOrParameter
    (g : Grammar)
    (first : Bool) : Parser Bool := do
  let marked := first && atMutableReceiver (← ahead)
  if marked then word "mut"
  let tokens ← ahead
  let labeled := atLabel tokens first
  if labeled then parameterLabel
  if first && !(labeled && tokens.atWord "self") &&
      atMutableReceiver (← ahead) then
    word "mut"
    word "self"
    return true
  else if marked && !labeled then
    word "self"
    return true
  else
    let _ ← g.type true
    return marked

/-- Reads a parameter of a function type.  A mutable receiver is kept as it
stands. -/
def functionParameter
    (g : Grammar)
    (first : Bool) : Parser Unit := do
  let _ ← unchangedIf id (g.receiverOrParameter first)

/-- Reads the open end of the parameters. -/
def openEnd : Parser Unit := do
  if (← ahead).atAnyWord then parameterLabel
  sign "..."
  let _ ← sign? ","

/-- Reads the parameters of a function type. -/
def functionParameters (g : Grammar) : Parser Unit :=
  repeating true fun first => do
    if (← ahead).isEmpty then return .done ()
    let _ ← g.outerAttributes
    if atOpenEnd (← ahead) then
      openEnd
      return .done ()
    g.functionParameter first
    if (← ahead).isEmpty then return .done ()
    sign ","
    return .again false

/-- Reads a function type behind generic parameters, which are given by their
tokens. -/
def functionType
    (g : Grammar)
    (binder : Tokens) : Parser Ty := do
  let signature ← captured do
    let _ ← word? "unsafe"
    linkage?
    word "fn"
    inside .parenthesis g.functionParameters
  return .function (binder ++ signature) (← g.plainResult?)

/-! ### Other types -/

/-- Reads a reference. -/
def referenceType (g : Grammar) : Parser Ty := do
  sign "&"
  let lifetime ← lifetime?
  let isMutable ← word? "mut"
  return .reference lifetime isMutable (← g.type false)

/-- Reads a pointer. -/
def pointerType (g : Grammar) : Parser Ty := do
  sign "*"
  if ← word? "const" then return .pointer false (← g.type false)
  if ← word? "mut" then return .pointer true (← g.type false)
  expected ["`const`", "`mut`"]

/-- Reads what stands in the brackets of an array or a slice. -/
def bracketedType (g : Grammar) : Parser Ty := do
  let element ← g.type true
  if ← sign? ";" then return .array element (← captured (g.expression true))
  return .slice element

/-- Reads a type that begins with a path, behind the tokens of generic
parameters that are bound in front of it. -/
def pathType
    (g : Grammar)
    (binder : Option Tokens)
    (allowPlus : Bool) : Parser Ty := do
  let (owner, path) ← g.qualifiedPath false
  if owner.isSome then return .path owner path
  if atExpansion (← ahead) && path.isPlain then
    let (delimiter, content) ← expansionArguments
    return .expansion path delimiter content
  if binder.isNone && !(allowPlus && (← ahead).atSign "+") then
    return .path none path
  let first := binder.getD [] ++ path.tokens
  if allowPlus then
    if ← sign? "+" then
      if atBound objectRules (← ahead) then
        let (bounds, trailing) ← g.boundList objectRules true
        return .traitObject false (first :: bounds.map Bound.tokens) trailing
      return .traitObject false [first] true
  return .traitObject false [first] false

/-- What a type may begin with. -/
def typeStarts : List String :=
  ["`for`", "parentheses", "`fn`", "`unsafe`", "`extern`", "identifier", "`::`",
    "`<`", "`dyn`", "square brackets", "`*`", "`&`", "`!`", "`impl`", "`_`",
    "lifetime"]

/-- What may stand behind the generic parameters of a `for`. -/
def boundTypeStarts : List String :=
  ["identifier", "`fn`", "`unsafe`", "`extern`", "`super`", "`self`", "`Self`",
    "`crate`"]

/-- Whether a type stands ahead that may follow the generic parameters of a
`for`. -/
def atBoundType (tokens : Tokens) : Bool :=
  atPathWord tokens || tokens.atAnyOf ["fn", "unsafe", "extern"]

/-- Reads a type behind generic parameters that are bound in front of it. -/
def typeBehind
    (g : Grammar)
    (binder : Option Tokens)
    (allowPlus : Bool) : Parser Ty := do
  let tokens ← ahead
  if tokens.atGroup .parenthesis then g.parenthesizedType allowPlus
  else if tokens.atAnyOf ["fn", "unsafe", "extern"] then
    g.functionType (binder.getD [])
  else if atPath tokens then g.pathType binder allowPlus
  else if tokens.atWord "dyn" then g.markedObject allowPlus
  else if tokens.atGroup .bracket then inside .bracket g.bracketedType
  else if tokens.atSign "*" then g.pointerType
  else if tokens.atSign "&" then g.referenceType
  else if tokens.atSign "!" && !tokens.atSign "=" then
    sign "!"
    return .never
  else if tokens.atWord "impl" then g.someTrait allowPlus
  else if ← word? "_" then return .placeholder
  else if tokens.atLifetime then g.objectBounds false true
  else expected typeStarts

/-- Reads a type.  One that is built in is kept as it stands. -/
def readType
    (g : Grammar)
    (allowPlus : Bool) : Parser Ty := do
  let (type?, tokens) ← taken do
    let (bound, binder) ← capture g.binder?
    if bound && !atBoundType (← ahead) then expected boundTypeStarts
    if atBuiltin (← ahead) then
      builtin
      return none
    return some (← g.typeBehind (if bound then some binder else none) allowPlus)
  return type?.getD (.verbatim tokens)

end Grammar
end Source
end PreferenceSchema
