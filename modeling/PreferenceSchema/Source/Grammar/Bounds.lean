import PreferenceSchema.Source.Grammar.Paths

/-!
# Reading bounds

The bounds that a type may be asked to satisfy: lifetimes, traits, and lists of
what a type captures.  A trait may stand behind generic parameters of its own.
A trait that is asked for in constants is kept as its tokens.
-/

namespace PreferenceSchema
namespace Source
namespace Grammar

open Source.Parser

/-! ### Generic parameters -/

/-- Reads parts as long as plus signs stand between them, until a condition on
the tokens ahead holds; whether there are any. -/
def whilePlus
    {α : Type}
    (finished : Tokens → Bool)
    (part : Parser α) : Parser Bool :=
  repeating false fun filled => do
    if finished (← ahead) then return .done filled
    let _ ← part
    if ← sign? "+" then return .again true
    return .done true

/-- Reads one bound, which may ask for constants. -/
def constantBound (g : Grammar) : Parser Bool :=
  g.bound ⟨false, true⟩

/-- Reads a lifetime as a parameter. -/
def lifetimeParameter : Parser Unit := do
  let _ ← lifetime
  let _ ← colonList (whilePlus (·.atAnySign [",", ">"]) lifetime)

/-- Reads a type as a parameter. -/
def typeParameter (g : Grammar) : Parser Unit := do
  let _ ← name
  let _ ← colonList (whilePlus (·.atAnySign [",", ">", "="]) g.constantBound)
  if ← sign? "=" then
    let _ ← g.type true

/-- Reads a constant as a parameter. -/
def constantParameter (g : Grammar) : Parser Unit := do
  word "const"
  let _ ← name
  sign ":"
  let _ ← g.type true
  if ← sign? "=" then g.constantArgument

/-- Reads a generic parameter behind its attributes, and tells whether it is a
lifetime; `starts` are the things that it may begin with, as diagnostics list
them. -/
def genericParameter
    (g : Grammar)
    (starts : List String) : Parser Bool := do
  let tokens ← ahead
  if tokens.atLifetime then lifetimeParameter
  else if tokens.atName then g.typeParameter
  else if tokens.atWord "const" then g.constantParameter
  else expected starts
  return tokens.atLifetime

/-- Reads a generic parameter that is bound in front of a type or bound. -/
def boundParameter (g : Grammar) : Parser Unit := do
  let _ ← g.outerAttributes
  let _ ← g.genericParameter ["identifier", "lifetime", "`const`"]

/-- Whether an angle bracket opens generic parameters ahead, and not a path. -/
def atGenericParameters (tokens : Tokens) : Bool :=
  let first := tokens.skip
  let second := first.skip
  tokens.atSign "<" && (first.atAnySign [">", "#"] || first.atWord "const" ||
    ((first.atLifetime || first.atName) &&
      (second.atAnySign [">", ",", "="] ||
        (second.atSign ":" && !second.atSign "::"))))

/-- Reads the generic parameters of a `for` in front of a type or bound. -/
def binder (g : Grammar) : Parser Unit := do
  word "for"
  sign "<"
  let _ ← separated "," (·.atSign ">") g.boundParameter
  sign ">"

/-- Reads the generic parameters of a `for`, if one stands ahead. -/
def binder? (g : Grammar) : Parser Bool := do
  if (← ahead).atWord "for" then
    g.binder
    return true
  return false

/-! ### Traits -/

/-- Reads the result of a function type, which takes no further bounds. -/
def plainResult? (g : Grammar) : Parser (Option Ty) := do
  if ← sign? "->" then return some (← g.type false) else return none

/-- Reads the parameters and the result of a function as a bound. -/
def parameterTypes (g : Grammar) : Parser Unit := do
  let _ ← inside .parenthesis (commaSeparated (g.type true))
  let _ ← g.plainResult?

/-- Whether the parameters of a function stand ahead, with double colons in
front or not. -/
def atParameterTypes (tokens : Tokens) : Bool :=
  tokens.atGroup .parenthesis ||
    (tokens.atSign "::" && tokens.skip.skip.atGroup .parenthesis)

/-- Reads the path of a trait.  The parameters of a function take the place of
angle brackets with nothing in them, and of double colons in front of them. -/
def traitPath (g : Grammar) : Parser Unit := do
  let (path, _) ← apart (g.path false)
  if path.endsBare && atParameterTypes (← ahead) then
    write path.withoutLastArguments.tokens
    let _ ← apart (sign? "::")
    g.parameterTypes
  else write path.tokens

/-- Reads `const`, alone or in brackets, in front of a trait, if it stands
ahead. -/
def constantMark (rules : BoundRules) : Parser Bool := do
  if (← ahead).atGroup .bracket then
    inside .bracket (word "const")
    if !rules.constant then stop "`[const]` is not allowed here"
    return true
  else if ← word? "const" then
    if !rules.constant then stop "`const` is not allowed here"
    return true
  else return false

/-- Reads a trait as a bound, and tells whether it is asked for in constants.
Behind a question mark no generic parameters may be bound. -/
def traitBound
    (g : Grammar)
    (rules : BoundRules) : Parser Bool := do
  let early ← g.binder?
  let constant ← constantMark rules
  let optional ← sign? "?"
  let late ← if optional && !early then g.binder? else pure false
  g.traitPath
  if optional && (early || late) then
    throw
      (.other false
        "`for<...>` binder not allowed with `?` trait polarity modifier")
  return constant

/-! ### Bounds -/

/-- Reads a parameter among those that a type captures, and tells whether it is
a lifetime. -/
def listedParameter : Parser Bool := do
  let tokens ← ahead
  if tokens.atLifetime then
    let _ ← lifetime
    return true
  else if tokens.atName || tokens.atWord "Self" then
    let _ ← anyWord
    return false
  else expected ["lifetime", "identifier", "`Self`"]

/-- Reads the list of the generic parameters that a type captures. -/
def listedBound (rules : BoundRules) : Parser Unit := do
  word "use"
  sign "<"
  let _ ← writtenAs ListedPart.listTokens (listedParts listedParameter)
  sign ">"
  if !rules.listed then
    stop "`use<...>` precise capturing syntax is not allowed here"

/-- Reads one bound, and tells whether it asks for a trait. -/
def readBound
    (g : Grammar)
    (rules : BoundRules) : Parser Bool := do
  let tokens ← ahead
  if tokens.atLifetime then
    let _ ← lifetime
    return false
  else if tokens.atWord "use" then
    listedBound rules
    return false
  else
    let _ ← unchangedIf id do
      if tokens.atGroup .parenthesis then
        inside .parenthesis (g.traitBound rules)
      else g.traitBound rules
    return true

/-- Whether a bound may begin ahead. -/
def atBound
    (rules : BoundRules)
    (tokens : Tokens) : Bool :=
  tokens.atAnyWord || tokens.atAnySign ["::", "?"] || tokens.atLifetime ||
    tokens.atGroup .parenthesis || (rules.constant && tokens.atGroup .bracket)

/-- A bound, and whether it asks for a trait. -/
structure Bound where
  isTrait : Bool
  tokens : Tokens

/-- Reads bounds with plus signs between them, or a single one, and whether a
plus sign stands behind the last one. -/
def boundList
    (g : Grammar)
    (rules : BoundRules)
    (allowPlus : Bool) : Parser (List Bound × Bool) :=
  repeating [] fun bounds => do
    let (isTrait, tokens) ← capture (g.bound rules)
    let bounds := bounds ++ [⟨isTrait, tokens⟩]
    if allowPlus then
      if ← sign? "+" then
        if atBound rules (← ahead) then return .again bounds
        return .done (bounds, true)
    return .done (bounds, false)

end Grammar
end Source
end PreferenceSchema
