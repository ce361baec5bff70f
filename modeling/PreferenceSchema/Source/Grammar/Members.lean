import PreferenceSchema.Source.Grammar.Definitions

/-!
# Reading members of items

The members of traits, of implementations, and of blocks of what is defined
elsewhere.  A member that is no regular one where it stands is kept as its
tokens.
-/

namespace PreferenceSchema
namespace Source
namespace Grammar

open Source.Parser

/-- What a member is, as far as declarations depend on it. -/
inductive MemberKind where
  | function (function : Function)
  | other
  /-- A member that is only kept as its tokens. -/
  | verbatim

namespace MemberKind

/-- A regular member in which no declaration is found, or one that is only kept
as its tokens. -/
def ofRegular (regular : Bool) : MemberKind :=
  if regular then .other else .verbatim

/-- Whether a member is only kept as its tokens. -/
def isVerbatim : MemberKind → Bool
  | .verbatim => true
  | _ => false

/-- The function that a member is. -/
def function? : MemberKind → Option Function
  | .function method => some method
  | _ => none

end MemberKind

/-- Reads a member; the tokens of one that is only kept as its tokens are
written out as they stand. -/
def keptMember (member : Parser MemberKind) : Parser MemberKind :=
  unchangedIf MemberKind.isVerbatim member

/-- What a member may begin with, behind marks in front of it or not. -/
def memberStarts (unmarked : Bool) : List String :=
  ["`fn`", "`const`", "`type`"] ++ (if unmarked then useStarts else [])

/-! ### Blocks of what is defined elsewhere -/

/-- Reads a variable that is defined elsewhere; whether it is a regular one. -/
def foreignVariable (g : Grammar) : Parser Bool := do
  let start := (← ahead).atWord "static"
  let _ ← safety true
  word "static"
  let _ ← word? "mut"
  let _ ← name
  sign ":"
  let _ ← g.type true
  let hasValue ← g.initialValue
  sign ";"
  return start && !hasValue

/-- Reads a function that is defined elsewhere; whether it is a regular one. -/
def foreignFunction (g : Grammar) : Parser Bool := do
  let signature ← g.signature true
  if (← ahead).atGroup .brace then
    let _ ← g.body
    return false
  sign ";"
  return !signature.isSafe

/-- Reads an item that is defined elsewhere. -/
def foreignMember (g : Grammar) : Parser MemberKind := do
  let _ ← g.outerAttributes
  let visibility ← visibility
  let tokens ← ahead
  if atFunction true tokens then return .ofRegular (← g.foreignFunction)
  else if (behindSafety true tokens).atWord "static" then
    return .ofRegular (← g.foreignVariable)
  else if tokens.atWord "type" then
    return .ofRegular (← g.typeItem .either).isBare
  else if visibility = .inherited && atUse tokens then
    expansionItem false
    return .other
  else
    expected
      (["`fn`", "`static`", "`type`"] ++
        (if visibility = .inherited then useStarts else []))

/-- Reads a block of items that are defined elsewhere. -/
def foreignBlock (g : Grammar) : Parser Unit := do
  let _ ← word? "unsafe"
  linkage
  inside .brace do
    let _ ← g.innerAttributes
    let _ ← untilEnd (keptMember g.foreignMember)

/-! ### Traits -/

/-- Reads a regular member of a trait behind its attributes; only one without
marks in front of it may be a use of a definition. -/
def plainTraitMember
    (g : Grammar)
    (attributes : List Attribute)
    (unmarked : Bool) : Parser MemberKind := do
  let tokens ← ahead
  if atFunction false tokens then
    return .function (← g.traitFunction attributes)
  else if tokens.atWord "const" then
    return .ofRegular !(← g.constantItem).isGeneric
  else if tokens.atWord "type" then
    let _ ← g.typeItem .late
    return .other
  else if unmarked && atUse tokens then
    expansionItem false
    return .other
  else expected (memberStarts unmarked)

/-- Reads a member of a trait.  Marks in front of it make it something that is
no regular one. -/
def traitMember (g : Grammar) : Parser MemberKind := do
  let attributes ← g.outerAttributes
  let visibility ← visibility
  let marked ← word? "default"
  let unmarked := visibility = .inherited && !marked
  let member ← g.plainTraitMember attributes unmarked
  return if unmarked then member else .verbatim

/-- Whether the bounds of a trait end ahead. -/
def atTraitBody (tokens : Tokens) : Bool :=
  tokens.atWord "where" || tokens.atGroup .brace

/-- Reads a trait behind its generic parameters. -/
def traitBody
    (g : Grammar)
    (attributes : List Attribute)
    (name : String) : Parser Item := do
  let _ ← colonList (g.boundsUntil atTraitBody)
  let _ ← g.whereClause
  inside .brace do
    let inner ← g.innerAttributes
    let members ← untilEnd (keptMember g.traitMember)
    return .trait (attributes ++ inner) name
      (members.filterMap MemberKind.function?)

/-- Reads another name for bounds behind its generic parameters. -/
def traitAlias (g : Grammar) : Parser Item := do
  sign "="
  let _ ← g.boundsUntil fun tokens => tokens.atWord "where" || tokens.atSign ";"
  let _ ← g.whereClause
  sign ";"
  return .other

/-- Reads a trait, or another name for bounds. -/
def traitItem
    (g : Grammar)
    (attributes : List Attribute) : Parser Item := do
  let unchecked ← word? "unsafe"
  let automatic ← word? "auto"
  word "trait"
  let name ← name
  let _ ← g.generics
  let tokens ← ahead
  let plain := !unchecked && !automatic
  if plain && tokens.atSign "=" then g.traitAlias
  else if plain && !(tokens.atSign ":" || atTraitBody tokens) then
    expected ["curly braces", "`:`", "`where`", "`=`"]
  else g.traitBody attributes name

/-! ### Implementations -/

/-- Reads a member of an implementation behind its attributes that is no
function; only one that is neither visible nor marked as a default may be a use
of a definition. -/
def plainImplementationMember
    (g : Grammar)
    (visible marked : Bool) : Parser MemberKind := do
  let unmarked := !visible && !marked
  let tokens ← ahead
  if tokens.atWord "const" then
    let item ← g.constantItem
    return .ofRegular (item.hasValue && !item.isGeneric)
  else if tokens.atWord "type" then
    return .ofRegular (← g.typeItem .late).isAlias
  else if unmarked && atUse tokens then
    expansionItem false
    return .other
  else expected ((if marked then [] else ["`default`"]) ++
    memberStarts unmarked)

/-- Reads a member of an implementation.  A function without a body is no
regular one. -/
def implementationMember (g : Grammar) : Parser MemberKind := do
  let attributes ← g.outerAttributes
  let (visibility, tokens) :=
    (← foresee do return (← visibility, ← ahead)).getD (.inherited, [])
  let marked := tokens.atWord "default" && !tokens.skip.atSign "!"
  if atFunction false (if marked then tokens.skip else tokens) then
    match ← g.methodBehind? attributes true with
    | some function => return .function function
    | none => return .verbatim
  let _ ← Grammar.visibility
  if marked then word "default"
  g.plainImplementationMember (visibility ≠ .inherited) marked

/-- Reads the mark of an implementation in constants, and tells whether it
stands there. -/
def constantImplementation : Parser Bool := do
  let tokens ← ahead
  if tokens.atSign "?" && tokens.skip.atWord "const" then sign "?"
  word? "const"

/-- Reads the items of a type. -/
def implementationBody (g : Grammar) : Parser (List Function) := do
  let _ ← g.whereClause
  inside .brace do
    let _ ← g.innerAttributes
    let members ← untilEnd (keptMember g.implementationMember)
    return members.filterMap MemberKind.function?

/-- Whether a type can be a trait that another one is an instance of. -/
def isTraitPath : Ty → Bool
  | .path none _ => true
  | _ => false

/-- Reads the exclamation mark of a negative implementation, and tells whether
it stands there. -/
def negativeImplementation : Parser Bool := do
  if (← ahead).skip.atGroup .brace then return false
  sign? "!"

/-- Reads an implementation behind its visibility; only one of a trait may be
negative.  One that is visible or made for constants, and one of something that
is no trait, is only kept as its tokens. -/
def implementationItem
    (g : Grammar)
    (visible : Bool) : Parser (Option Item) := do
  let _ ← word? "default"
  let _ ← word? "unsafe"
  word "impl"
  if atGenericParameters (← ahead) then
    let _ ← g.generics
  let irregular := (← constantImplementation) || visible
  let negative ← negativeImplementation
  let first ← g.type true
  if ← word? "for" then
    let type ← g.type true
    let functions ← g.implementationBody
    if irregular || !isTraitPath first then return none
    return some (.implementation true type functions)
  if negative then throw (.other false "inherent impls cannot be negative")
  let functions ← g.implementationBody
  if irregular then return none
  return some (.implementation false first functions)

end Grammar
end Source
end PreferenceSchema
