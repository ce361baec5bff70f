import PreferenceSchema.Source.Grammar.Operators
import PreferenceSchema.Source.Grammar.Patterns
import PreferenceSchema.Text.Segment

/-!
# Reading operands

Literals, paths, blocks, closures and all else that operators join, with calls,
indices and members behind them.
-/

namespace PreferenceSchema
namespace Source
namespace Grammar

open Source.Parser

/-! ### What stands behind an operand -/

/-- Reads expressions in parentheses. -/
def callArguments (g : Grammar) : Parser Unit :=
  inside .parenthesis g.expressionList

/-- The parts of a number with a point, each of which has to be the number of a
field; a point at its end has nothing behind it. -/
def fieldIndices (text : List Char) : Except Fault (List Nat) :=
  (Text.splitAt '.' (Text.dropEnding ['.'] text)).mapM fieldIndex

/-- Takes a number with a point behind the dot of a member, which names two
fields at once; whether the name of a member has to follow because the number
ends in a point. -/
def fieldNumbers? : Parser (Option Bool) := do
  match ← ahead, (← ahead).literal? with
  | .literal text :: rest, some (.float _, _, _) =>
    let open? := text.toList.getLast? == some '.'
    let written := (← fieldIndices text.toList).map fun index =>
      [.literal (toString index)]
    pass rest (List.intercalate (TokenTree.sign ".") written ++
      if open? then TokenTree.sign "." else [])
    return some open?
  | .punct _ _ :: .literal text :: _, some (.float _, _, _) =>
    throw (fieldNumberFault true (text.toList.takeWhile (· ≠ '.')))
  | _, _ => return none

/-- Reads the name of a member, with the arguments of a call of it. -/
def member (g : Grammar) : Parser Expr := do
  if ← word? "await" then return .other .await
  let named ← fieldKey
  let turbofish := named && (← ahead).atSign "::"
  if turbofish then
    let _ ← g.pathArguments
  if named && (turbofish || (← ahead).atGroup .parenthesis) then
    g.callArguments
    return .other .methodCall
  return .other .field

/-- Reads what stands behind a dot. -/
def memberAccess (g : Grammar) : Parser Expr := do
  sign "."
  match ← fieldNumbers? with
  | some false => return .other .field
  | _ => g.member

/-- Whether a single dot stands ahead. -/
def atDot (tokens : Tokens) : Bool :=
  tokens.atSign "." && !tokens.atSign ".."

/-- Reads calls, indices, members and question marks behind an operand. -/
def trailers
    (g : Grammar)
    (start : Expr) : Parser Expr :=
  repeating start fun operand => do
    let tokens ← ahead
    if tokens.atGroup .parenthesis then
      g.callArguments
      return .again (.other .call)
    else if atDot tokens && !operand.isRange then
      return .again (← g.memberAccess)
    else if tokens.atGroup .bracket then
      let _ ← inside .bracket (g.expression true)
      return .again (.other .index)
    else if tokens.atSign "?" && !operand.isRange then
      sign "?"
      return .again (.other .propagation)
    else return .done operand

/-! ### Brackets -/

/-- Reads what stands in parentheses: an expression or a tuple. -/
def parenthesizedExpr (g : Grammar) : Parser Expr := do
  if (← ahead).isEmpty then return .other .tuple
  let first ← g.expression true
  if (← ahead).isEmpty then return .paren first
  sign ","
  g.expressionList
  return .other .tuple

/-- Reads what stands in brackets: elements, or an element and how often it is
repeated. -/
def bracketedExpr (g : Grammar) : Parser Expr := do
  if (← ahead).isEmpty then return .other .array
  let _ ← g.expression true
  let tokens ← ahead
  if tokens.isEmpty then return .other .array
  if ← sign? "," then
    g.expressionList
    return .other .array
  if ← sign? ";" then
    let _ ← g.expression true
    return .other .repetition
  stop "expected `,` or `;`"

/-! ### Paths -/

/-- Reads a field of a structure in braces. -/
def fieldValue (g : Grammar) : Parser Unit := do
  let _ ← g.outerAttributes
  let named ← fieldKey
  if !named || (← ahead).atSign ":" then
    sign ":"
    let _ ← g.expression true

/-- Reads the fields of a structure in braces, behind which a structure may
stand for the others. -/
def fieldValues (g : Grammar) : Parser Unit :=
  repeating () fun () => do
    if (← ahead).isEmpty then return .done ()
    if ← sign? ".." then
      if !(← ahead).isEmpty then
        let _ ← g.expression true
      return .done ()
    g.fieldValue
    if (← ahead).isEmpty then return .done ()
    sign ","
    return .again ()

/-- Reads an operand that begins with a path. -/
def pathExpr
    (g : Grammar)
    (allowStruct : Bool) : Parser Expr := do
  let (owner, path) ← g.qualifiedPath true
  let tokens ← ahead
  if owner.isNone && atExpansion tokens && path.isPlain then
    let (delimiter, _) ← expansionArguments
    return .other (.expansion (delimiter = .brace))
  if allowStruct && tokens.atGroup .brace then
    inside .brace g.fieldValues
    return .other .construction
  return .other .path

/-! ### Blocks and branches -/

/-- Reads the condition of a branch or a loop, which no structure in braces may
end. -/
def condition (g : Grammar) : Parser Unit := do
  let _ ← g.expression false

/-- Reads a branch with all its alternatives. -/
def branch (g : Grammar) : Parser Expr :=
  repeating () fun () => do
    word "if"
    g.condition
    g.block
    if ← word? "else" then
      let tokens ← ahead
      if tokens.atWord "if" then return .again ()
      if tokens.atGroup .brace then
        g.block
        return .done (.other .conditional)
      expected ["`if`", "curly braces"]
    return .done (.other .conditional)

/-- Reads a loop with a condition. -/
def whileLoop (g : Grammar) : Parser Expr := do
  word "while"
  g.condition
  let _ ← g.body
  return .other .whileLoop

/-- Reads a loop over elements. -/
def forLoop (g : Grammar) : Parser Expr := do
  word "for"
  let _ ← g.patternChoice
  word "in"
  g.condition
  let _ ← g.body
  return .other .forLoop

/-- Reads a loop without a condition. -/
def endlessLoop (g : Grammar) : Parser Expr := do
  word "loop"
  let _ ← g.body
  return .other .loop

/-- Reads a block. -/
def blockExpr (g : Grammar) : Parser Expr := do
  let _ ← g.body
  return .other .block

/-- Reads a loop or a block behind a label. -/
def labeled (g : Grammar) : Parser Expr := do
  let _ ← lifetime
  sign ":"
  let tokens ← ahead
  if tokens.atWord "while" then g.whileLoop
  else if tokens.atWord "for" then g.forLoop
  else if tokens.atWord "loop" then g.endlessLoop
  else if tokens.atGroup .brace then g.blockExpr
  else stop "expected loop or block expression"

/-- Reads a body behind a word, as an operand of a kind. -/
def wordWithBody
    (g : Grammar)
    (mark : String)
    (kind : ExprKind) : Parser Expr := do
  word mark
  let _ ← g.body
  return .other kind

/-- Reads an asynchronous block. -/
def asyncBlock (g : Grammar) : Parser Expr := do
  word "async"
  let _ ← word? "move"
  g.block
  return .other .asyncBlock

/-- Reads a block that may be left early. -/
def tryBlock (g : Grammar) : Parser Expr := do
  word "try"
  g.block
  return .other .tryBlock

/-! ### Selections -/

/-- Reads the condition behind the pattern of an arm, if it has one. -/
def guard (g : Grammar) : Parser Unit := do
  if ← word? "if" then
    let _ ← g.expression true

/-- Reads an arm of a `match`; a comma stands behind it unless it is the last
one or its body ends by itself. -/
def arm (g : Grammar) : Parser Unit := do
  let _ ← g.outerAttributes
  let _ ← g.patternChoice
  g.guard
  sign "=>"
  let body ← g.bounded
  if !body.expr.endsStatement && !(← ahead).isEmpty then sign ","
  else
    let _ ← sign? ","

/-- Reads a `match`. -/
def selection (g : Grammar) : Parser Expr := do
  word "match"
  g.condition
  inside .brace do
    let _ ← g.innerAttributes
    let _ ← untilEnd g.arm
  return .other .selection

/-! ### Closures -/

/-- Whether the generic parameters of a closure stand ahead, and not a loop. -/
def atClosureBinder (tokens : Tokens) : Bool :=
  tokens.atWord "for" && atGenericParameters tokens.skip

/-- Whether a closure stands ahead. -/
def atClosure (tokens : Tokens) : Bool :=
  tokens.atSign "|" || tokens.atWord "move" || atClosureBinder tokens ||
    (tokens.atWord "const" && !tokens.skip.atGroup .brace) ||
    tokens.atWord "static" ||
    (tokens.atWord "async" &&
      (tokens.skip.atSign "|" || tokens.skip.atWord "move"))

/-- Reads a parameter of a closure.  A bare pattern that is kept as it stands
has no attributes. -/
def closureParameter (g : Grammar) : Parser Unit := do
  let (_, attributes) ← apart g.outerAttributes
  let boxed := (← ahead).atWord "box"
  let (_, pattern) ← apart g.pattern
  let typed := (← ahead).atSign ":"
  write ((if boxed && !typed then [] else attributes) ++ pattern)
  if typed then
    sign ":"
    let _ ← g.type true

/-- Reads a closure. -/
def closure
    (g : Grammar)
    (allowStruct : Bool) : Parser Expr := do
  let _ ← g.binder?
  for mark in ["const", "static", "async", "move"] do
    let _ ← word? mark
  sign "|"
  let _ ← separated "," (·.atSign "|") g.closureParameter
  sign "|"
  if ← sign? "->" then
    let _ ← g.type true
    g.block
  else
    let _ ← g.expression allowStruct
  return .other .closure

/-! ### Jumps -/

/-- Whether an expression begins ahead. -/
def atExpression (tokens : Tokens) : Bool :=
  (tokens.atAnyWord && !tokens.atWord "as") || tokens.atAnyGroup ||
    tokens.atLiteral ||
    (tokens.atSign "!" && !tokens.atSign "!=") ||
    (tokens.atSign "-" && !tokens.atAnySign ["-=", "->"]) ||
    (tokens.atSign "*" && !tokens.atSign "*=") ||
      (tokens.atSign "|" && !tokens.atSign "|=") ||
    (tokens.atSign "&" && !tokens.atSign "&=") || tokens.atSign ".." ||
    (tokens.atSign "<" && !tokens.atAnySign ["<=", "<<="]) ||
      tokens.atSign "::" ||
    tokens.atLifetime || tokens.atSign "#"

/-- Reads the value of a jump, if it has one. -/
def jumpValue (g : Grammar) : Parser Unit := do
  if atExpression (← ahead) then
    let _ ← g.expression true

/-- Reads a `break`. -/
def breakExpr
    (g : Grammar)
    (allowStruct : Bool) : Parser Expr := do
  word "break"
  let value ← ahead
  if (← lifetime?).isSome && (← ahead).atSign ":" then
    moveTo value
    let _ ← g.expression true
    throw (.other false "parentheses required")
  if allowStruct || !(← ahead).atGroup .brace then g.jumpValue
  return .other .breaking

/-- Reads a `continue`. -/
def continueExpr : Parser Expr := do
  word "continue"
  let _ ← lifetime?
  return .other .continuing

/-- Reads a jump behind a word. -/
def jumpExpr
    (g : Grammar)
    (mark : String)
    (kind : ExprKind) : Parser Expr := do
  word mark
  g.jumpValue
  return .other kind

/-- Reads a tail call. -/
def becomeExpr (g : Grammar) : Parser Expr := do
  word "become"
  let _ ← g.expression true
  return .other .verbatim

/-- Reads a condition that binds names by a pattern. -/
def letExpr
    (g : Grammar)
    (allowStruct : Bool) : Parser Expr := do
  word "let"
  let _ ← g.patternChoice
  sign "="
  let operand ← g.operand allowStruct
  let _ ← g.operation allowStruct .comparison operand
  return .other .binding

/-- Reads an operation that is built in. -/
def builtinExpr : Parser Expr := do
  builtin
  return .other .verbatim

/-! ### Operands -/

/-- Whether a block that ends a statement by itself stands ahead. -/
def atBlockLike (tokens : Tokens) : Bool :=
  tokens.atAnyOf ["if", "while", "loop", "match", "unsafe"] ||
    (tokens.atWord "for" && !atClosureBinder tokens) ||
    (tokens.atAnyOf ["try", "const"] && tokens.skip.atGroup .brace) ||
      tokens.atGroup .brace ||
    tokens.atLifetime

/-- Reads an operand that is a block or ends with one. -/
def blockLike (g : Grammar) : Parser Expr := do
  let tokens ← ahead
  if tokens.atWord "if" then g.branch
  else if tokens.atWord "while" then g.whileLoop
  else if tokens.atWord "for" then g.forLoop
  else if tokens.atWord "loop" then g.endlessLoop
  else if tokens.atWord "match" then g.selection
  else if tokens.atWord "unsafe" then g.wordWithBody "unsafe" .uncheckedBlock
  else if tokens.atWord "const" then g.wordWithBody "const" .constBlock
  else if tokens.atWord "try" then g.tryBlock
  else if tokens.atGroup .brace then g.blockExpr
  else g.labeled

/-- Whether an asynchronous block stands ahead. -/
def atAsyncBlock (tokens : Tokens) : Bool :=
  tokens.atWord "async" && (tokens.skip.atGroup .brace ||
    (tokens.skip.atWord "move" && tokens.skip.skip.atGroup .brace))

/-- Whether an operand begins ahead with a path. -/
def atPathExpr (tokens : Tokens) : Bool :=
  atPath tokens || (tokens.atWord "try" && tokens.skip.atAnySign ["!", "::"])

/-- Reads an operand without what may stand in front of it or behind it. -/
def atom
    (g : Grammar)
    (allowStruct : Bool) : Parser Expr := do
  let tokens ← ahead
  if tokens.atLiteral then return .literal (← literal).1
  if atAsyncBlock tokens then g.asyncBlock
  else if tokens.atWord "try" && tokens.skip.atGroup .brace then g.tryBlock
  else if atClosure tokens then g.closure allowStruct
  else if atBuiltin tokens then builtinExpr
  else if atPathExpr tokens then g.pathExpr allowStruct
  else if tokens.atGroup .parenthesis then
    inside .parenthesis g.parenthesizedExpr
  else if tokens.atWord "break" then g.breakExpr allowStruct
  else if tokens.atWord "continue" then continueExpr
  else if tokens.atWord "return" then g.jumpExpr "return" .returning
  else if tokens.atWord "become" then g.becomeExpr
  else if tokens.atGroup .bracket then inside .bracket g.bracketedExpr
  else if tokens.atWord "let" then g.letExpr allowStruct
  else if tokens.atWord "yield" then g.jumpExpr "yield" .yielding
  else if atBlockLike tokens then g.blockLike
  else if tokens.atSign ".." then g.rangeTail allowStruct
  else if ← word? "_" then return .other .infer
  else stop "expected an expression"

/-- Reads the operand of a reference, behind `&`. -/
def referenceExpr
    (g : Grammar)
    (allowStruct : Bool) : Parser Expr := do
  sign "&"
  let tokens ← ahead
  if tokens.atWord "raw" && tokens.skip.atAnyOf ["mut", "const"] then
    word "raw"
    let _ ← anyWord
    let _ ← g.operand allowStruct
    return .other .rawAddress
  let _ ← word? "mut"
  let _ ← g.operand allowStruct
  return .other .reference

/-- Reads an operand behind its attributes, if it has any: with the signs in
front of it and what stands behind it. -/
def operandBehind
    (g : Grammar)
    (attributed allowStruct : Bool) : Parser Expr := do
  let tokens ← ahead
  if tokens.atSign "&" then g.referenceExpr allowStruct
  else if ← sign? "-" then return .negation (← g.operand allowStruct)
  else if tokens.atAnySign ["*", "!"] then
    sign (if tokens.atSign "*" then "*" else "!")
    let _ ← g.operand allowStruct
    return .other .unary
  else
    let operand ← g.trailers (← g.atom allowStruct)
    if attributed && operand.isRange then
      throw (.other false
        "attributes are not allowed on range expressions starting with `..`")
    return operand

/-- Reads an operand.  One that is only kept as its tokens is written out as it
stands, with its attributes. -/
def readOperand
    (g : Grammar)
    (allowStruct : Bool) : Parser Expr :=
  unchangedIf Expr.isVerbatim do
    let attributed := (← ahead).atSign "#"
    let _ ← g.outerAttributes
    g.operandBehind attributed allowStruct

/-- Goes on behind an operand; one that ends a statement by itself ends here,
unless a dot or a question mark follows. -/
def boundedTail
    (g : Grammar)
    (operand : Expr) : Parser Expr := do
  if !operand.endsStatement then g.operation true .jump operand
  else
    let tokens ← ahead
    if atDot tokens || tokens.atSign "?" then
      g.operation true .jump (← g.trailers operand)
    else return operand

/-- Reads an expression that ends where a block does, unless a dot or a question
mark goes on with it.  An operand that is only kept as its tokens loses the
attributes in front of it. -/
def readBounded (g : Grammar) : Parser BoundedExpr := do
  let (_, attributes) ← apart g.outerAttributes
  let tokens ← ahead
  let (operand, written) ← apart
    (if atBlockLike tokens then g.blockLike else g.operand true)
  write ((if operand.isVerbatim then [] else attributes) ++ written)
  let expr ← g.boundedTail operand
  return ⟨expr, operand.isVerbatim && !expr.isRange⟩

end Grammar
end Source
end PreferenceSchema
