import PreferenceSchema.Source.Grammar.Generics
import PreferenceSchema.Source.Grammar.Statements

/-!
# Reading functions

The visibility of an item, the signature of a function, and functions with their
bodies.
-/

namespace PreferenceSchema
namespace Source

/-- Where an item can be seen. -/
inductive Visibility where
  | inherited
  | «public»
  | restricted
deriving DecidableEq, Repr

/-- The name, the parameters and the result of a function. -/
structure Signature where
  /-- Whether the function is marked as safe, rather than the opposite. -/
  isSafe : Bool
  name : String
  arguments : List Argument
  result : Option Ty
deriving Repr

/-- A function with a signature. -/
def Signature.toFunction
    (signature : Signature)
    (attributes : List Attribute)
    (isPublic : Bool) : Function where
  attributes := attributes
  isPublic := isPublic
  name := signature.name
  arguments := signature.arguments
  result := signature.result

namespace Grammar

open Source.Parser

/-- Reads the place in parentheses that an item can be seen from.  Parentheses
with anything else in them belong to what follows. -/
def restriction : Parser Visibility := do
  match ← ahead with
  | .group .parenthesis content :: rest =>
    let content : Tokens := content
    if content.atAnyOf ["crate", "self", "super"] && content.skip.isEmpty then
      pass rest [.group .parenthesis content]
      return .restricted
    if content.atWord "in" then
      inside .parenthesis do
        word "in"
        let _ ← plainPath
      return .restricted
    return .public
  | _ => return .public

/-- Reads the visibility of an item. -/
def visibility : Parser Visibility := do
  if ← word? "pub" then restriction else return .inherited

/-! ### Parameters -/

/-- Reads a receiver. -/
def receiver (g : Grammar) : Parser Unit := do
  let referenced ← sign? "&"
  if referenced then
    let _ ← lifetime?
  let _ ← word? "mut"
  word "self"
  if !referenced then
    if ← sign? ":" then
      let _ ← g.type true

/-- Reads a parameter; nothing where the rest of the parameters is open.  A type
in place of a parameter has an underscore for its pattern. -/
def parameter? (g : Grammar) : Parser (Option Argument) := do
  if (← attempt g.receiver).isSome then return some .receiver
  let tokens ← ahead
  if tokens.atName && tokens.skip.atSign "<" then
    write (.word "_" :: TokenTree.sign ":")
    return some (.typed ⟨.other, [.word "_"]⟩ (← g.type true))
  let (shape, pattern) ← capture g.pattern
  sign ":"
  if ← sign? "..." then return none
  return some (.typed ⟨shape, pattern⟩ (← g.type true))

/-- Reads a parameter behind its attributes; nothing where the rest of the
parameters is open. -/
def parameterOrEnd? (g : Grammar) : Parser (Option Argument) := do
  let _ ← g.outerAttributes
  if ← sign? "..." then return none
  g.parameter?

/-- Reads the parameters of a function.  A receiver is the first of them. -/
def parameters (g : Grammar) : Parser (List Argument) :=
  repeating [] fun arguments => do
    if (← ahead).isEmpty then return .done arguments
    match ← g.parameterOrEnd? with
    | none =>
      if !(← ahead).isEmpty then sign ","
      return .done arguments
    | some argument =>
      if argument.isReceiver && !arguments.isEmpty then
        throw (.other false
          (if arguments.any Argument.isReceiver then
            "unexpected second method receiver"
          else "unexpected method receiver"))
      let arguments := arguments ++ [argument]
      if (← ahead).isEmpty then return .done arguments
      sign ","
      return .again arguments

/-! ### Signatures -/

/-- The tokens behind a word, where it stands ahead. -/
def behindWord
    (word : String)
    (tokens : Tokens) : Tokens :=
  if tokens.atWord word then tokens.skip else tokens

/-- The tokens behind the linkage of a function, where it stands ahead. -/
def behindLinkage (tokens : Tokens) : Tokens :=
  if tokens.atWord "extern" then
    if tokens.skip.atString then tokens.skip.skip else tokens.skip
  else tokens

/-- The tokens behind what tells whether a function is safe. -/
def behindSafety
    (allowSafe : Bool)
    (tokens : Tokens) : Tokens :=
  if allowSafe && tokens.atWord "safe" then tokens.skip
  else behindWord "unsafe" tokens

/-- Whether a function stands ahead. -/
def atFunction
    (allowSafe : Bool)
    (tokens : Tokens) : Bool :=
  Tokens.atWord
    (behindLinkage
      (behindSafety allowSafe (behindWord "async" (behindWord "const" tokens))))
      "fn"

/-- Reads the result of a function. -/
def result? (g : Grammar) : Parser (Option Ty) := do
  if ← sign? "->" then return some (← g.type true) else return none

/-- Reads what tells whether a function is safe, which may be said only where
that is allowed; whether it is said. -/
def safety (allowSafe : Bool) : Parser Bool := do
  if allowSafe then
    if ← word? "safe" then return true
  let _ ← word? "unsafe"
  return false

/-- Reads the signature of a function, which is marked as safe only where that
is allowed. -/
def signature
    (g : Grammar)
    (allowSafe : Bool) : Parser Signature := do
  let _ ← word? "const"
  let _ ← word? "async"
  let isSafe ← safety allowSafe
  linkage?
  word "fn"
  let name ← name
  let _ ← g.generics
  let arguments ← inside .parenthesis g.parameters
  let result ← g.result?
  let _ ← g.whereClause
  return ⟨isSafe, name, arguments, result⟩

/-- Reads a function of a type behind its attributes; nothing where it has no
body, if it may lack one. -/
def methodBehind?
    (g : Grammar)
    (attributes : List Attribute)
    (allowMissingBody : Bool) : Parser (Option Function) := do
  let visibility ← visibility
  let _ ← word? "default"
  let signature ← g.signature false
  if allowMissingBody then
    if ← sign? ";" then return none
  let inner ← g.body
  return some
    (signature.toFunction (attributes ++ inner) (visibility = .public))

/-- Reads a function of a type. -/
def method (g : Grammar) : Parser Function := do
  let attributes ← g.outerAttributes
  match ← g.methodBehind? attributes false with
  | some function => return function
  | none => expected ["curly braces"]

/-- Reads a function of a trait behind its attributes. -/
def traitFunction
    (g : Grammar)
    (attributes : List Attribute) : Parser Function := do
  let signature ← g.signature false
  if ← sign? ";" then return signature.toFunction attributes true
  if !(← ahead).atGroup .brace then expected ["curly braces", "`;`"]
  let inner ← g.body
  return signature.toFunction (attributes ++ inner) true

end Grammar
end Source
end PreferenceSchema
