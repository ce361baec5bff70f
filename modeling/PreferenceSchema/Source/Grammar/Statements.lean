import PreferenceSchema.Source.Grammar.Operands

/-!
# Reading statements

Bindings, items, uses of definitions, and expressions.  What does not end by
itself has a semicolon behind it, unless it is the last of its block.
Attributes may stand in front of a statement.
-/

namespace PreferenceSchema
namespace Source
namespace Grammar

open Source.Parser

/-- Reads the block of a binding whose pattern may not match; none follows a
value that ends with a brace. -/
def divergence
    (g : Grammar)
    (value : Tokens) : Parser Unit := do
  let braced :=
    match value.getLast? with
    | some (.group .brace _) => true
    | _ => false
  if !braced then
    if ← word? "else" then g.block

/-- Reads a binding of names by a pattern. -/
def localBinding (g : Grammar) : Parser Unit := do
  word "let"
  let _ ← g.pattern
  if ← sign? ":" then
    let _ ← g.type true
  if ← sign? "=" then
    g.divergence (← captured (g.expression true))
  sign ";"

/-- Whether a constant stands ahead, and not a closure or a block. -/
def atConstantItem (tokens : Tokens) : Bool :=
  tokens.atWord "const" &&
    !(tokens.skip.atGroup .brace || tokens.skip.atAnyOf ["static", "move"] ||
      tokens.skip.atSign "|" ||
      (tokens.skip.atWord "async" &&
        !tokens.skip.skip.atAnyOf ["unsafe", "extern", "fn"]))

/-- Whether an item stands ahead in a block. -/
def atItem (tokens : Tokens) : Bool :=
  let next := tokens.skip
  tokens.atAnyOf ["pub", "extern", "use", "fn", "mod", "type", "struct", "enum",
    "trait", "impl",
    "macro"] ||
  (tokens.atWord "crate" && !next.atSign "::") ||
  (tokens.atWord "static" && (next.atWord "mut" || next.atName)) ||
    atConstantItem tokens ||
  (tokens.atWord "unsafe" && !next.atGroup .brace) ||
  (tokens.atWord "async" && next.atAnyOf ["unsafe", "extern", "fn"]) ||
  (tokens.atWord "union" && next.atName) ||
    (tokens.atWord "auto" && next.atWord "trait") ||
  (tokens.atWord "default" && next.atAnyOf ["unsafe", "impl"])

/-- How a definition is used that is named ahead: as an item, or with braces as
a statement. -/
inductive Use where
  | item
  | statement
deriving DecidableEq

/-- How a definition that is named at the given tokens is used in a block, if no
expression. -/
def useAt? (tokens : Tokens) : Parser (Option Use) := do
  let rest ← foresee do
    moveTo tokens
    let _ ← plainPath
    ahead
  match rest with
  | some rest =>
    let next := rest.skip
    let behind := next.skip
    if !rest.atSign "!" then return none
    if next.atName || next.atWord "try" then return some .item
    if next.atGroup .brace && !(atDot behind || behind.atSign "?") then
      return some .statement
    return none
  | none => return none

/-- Reads a use of a definition as a statement. -/
def useStatement : Parser Unit := do
  let _ ← plainPath
  let _ ← expansionArguments
  let _ ← sign? ";"

/-- Reads an expression as a statement, and tells whether a semicolon is missing
behind it. -/
def exprStatement (g : Grammar) : Parser Bool := do
  let (_, attributes) ← apart g.outerAttributes
  let (bounded, written) ← apart g.bounded
  write ((if bounded.dropsAttributes then [] else attributes) ++ written)
  if ← sign? ";" then return false
  match bounded.expr with
  | .other (.expansion true) => return false
  | expr => return !expr.endsStatement

/-- The kinds of statements. -/
inductive StatementKind where
  | binding
  | item
  | use
  | expression

/-- The kind of the statement that begins at the given tokens. -/
def statementKind (tokens : Tokens) : Parser StatementKind := do
  let use ← useAt? tokens
  if use = some .statement then return .use
  if tokens.atWord "let" then return .binding
  if atItem tokens || use = some .item then return .item
  return .expression

/-- The tokens behind the attributes at the start of some tokens. -/
def behindAttributes : Tokens → Tokens
  | .punct '#' _ :: .group .bracket _ :: rest => behindAttributes rest
  | tokens => tokens

/-- Reads a statement, and tells whether a semicolon is missing behind it. -/
def statement (g : Grammar) : Parser Bool := do
  match ← statementKind (behindAttributes (← ahead)) with
  | .item =>
    let _ ← g.item
    return false
  | .use =>
    let _ ← g.outerAttributes
    useStatement
    return false
  | .binding =>
    let _ ← g.outerAttributes
    g.localBinding
    return false
  | .expression => g.exprStatement

/-- Reads statements until the end. -/
def readStatements (g : Grammar) : Parser Unit :=
  repeating () fun () => do
    if ← sign? ";" then return .again ()
    if (← ahead).isEmpty then return .done ()
    let unfinished ← g.statement
    if (← ahead).isEmpty then return .done ()
    if unfinished then throw (.other false "unexpected token, expected `;`")
    return .again ()

end Grammar
end Source
end PreferenceSchema
