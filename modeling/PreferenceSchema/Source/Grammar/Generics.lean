import PreferenceSchema.Source.Grammar.Types

/-!
# Reading generic parameters

The parameters of a definition in angle brackets, and the conditions on them
behind `where`.  Brackets without parameters and a `where` without conditions
are not written out.
-/

namespace PreferenceSchema
namespace Source
namespace Grammar

open Source.Parser

/-- Reads a generic parameter of a definition, which may be an underscore, and
tells whether it is a lifetime. -/
def definedParameter (g : Grammar) : Parser Bool := do
  let _ ← g.outerAttributes
  if ← word? "_" then return false
  g.genericParameter ["lifetime", "identifier", "`const`"]

/-- The tokens of generic parameters in angle brackets. -/
def parameterTokens (parameters : List ListedPart) : Tokens :=
  if parameters.isEmpty then []
  else TokenTree.sign "<" ++ ListedPart.listTokens parameters ++
    TokenTree.sign ">"

/-- Reads the generic parameters of a definition, and tells whether there are
any brackets. -/
def generics (g : Grammar) : Parser Bool := do
  if (← ahead).atSign "<" then
    let _ ← writtenAs parameterTokens do
      sign "<"
      let parameters ← listedParts g.definedParameter
      sign ">"
      return parameters
    return true
  return false

/-- Whether the conditions on generic parameters end ahead. -/
def atConditionsEnd (tokens : Tokens) : Bool :=
  tokens.isEmpty || tokens.atGroup .brace || tokens.atAnySign [",", ";", "="] ||
    (tokens.atSign ":" && !tokens.atSign "::")

/-- Reads a condition on generic parameters. -/
def whereCondition (g : Grammar) : Parser Unit := do
  let tokens ← ahead
  if tokens.atLifetime && tokens.skip.atSign ":" then
    let _ ← lifetime
    sign ":"
    let _ ← whilePlus atConditionsEnd lifetime
  else
    let _ ← g.binder?
    let _ ← g.type true
    sign ":"
    let _ ← whilePlus atConditionsEnd g.constantBound

/-- Reads conditions on generic parameters, and tells whether there are any. -/
def whereConditions (g : Grammar) : Parser Bool :=
  repeating false fun filled => do
    if atConditionsEnd (← ahead) then return .done filled
    g.whereCondition
    if ← sign? "," then return .again true
    return .done true

/-- Reads the conditions on generic parameters behind `where`, and tells whether
that word stands there.  Generic parameters may not follow it. -/
def whereClause (g : Grammar) : Parser Bool := do
  if (← ahead).atWord "where" then
    let (filled, tokens) ← apart do
      word "where"
      if atGenericParameters (← ahead) then
        stop "generic parameters on `where` clauses are reserved for future use"
      g.whereConditions
    if filled then write tokens
    return true
  return false

end Grammar
end Source
end PreferenceSchema
