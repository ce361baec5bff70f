import PreferenceSchema.Source.Grammar.Types

/-!
# Reading operators

How expressions are joined by operators: what binds more strongly is read first,
comparisons do not follow each other, and a range is no left operand.
-/

namespace PreferenceSchema
namespace Source
namespace Grammar

open Source.Parser

/-- The operators between two operands, the longer ones before those that they
begin with. -/
def binaryOperators : List (String × Precedence) :=
  [("+=", .assignment), ("-=", .assignment), ("*=", .assignment),
    ("/=", .assignment), ("%=", .assignment), ("^=", .assignment),
    ("&=", .assignment), ("|=", .assignment), ("<<=", .assignment),
    (">>=", .assignment), ("&&", .conjunction), ("||", .disjunction),
    ("<<", .shift), (">>", .shift), ("==", .comparison), ("<=", .comparison),
    ("!=", .comparison), (">=", .comparison), ("+", .sum), ("-", .sum),
    ("*", .product), ("/", .product), ("%", .product), ("^", .bitXor),
    ("&", .bitAnd), ("|", .bitOr), ("<", .comparison), (">", .comparison)]

/-- The operator ahead. -/
def operator? (tokens : Tokens) : Option (String × Precedence) :=
  binaryOperators.find? fun (mark, _) => tokens.atSign mark

/-- Whether an assignment stands ahead. -/
def atAssignment (tokens : Tokens) : Bool :=
  tokens.atSign "=" && !tokens.atSign "=>"

/-- How strongly what stands ahead binds. -/
def precedenceAhead (tokens : Tokens) : Precedence :=
  match operator? tokens with
  | some (_, precedence) => precedence
  | none =>
    if atAssignment tokens then .assignment
    else if tokens.atSign ".." then .range
    else if tokens.atWord "as" then .cast
    else .jump

/-- Reads the right operand of an operator, with all that binds more
strongly. -/
def rightOperand
    (g : Grammar)
    (allowStruct : Bool)
    (precedence : Precedence) : Parser Expr := do
  repeating (← g.operand allowStruct) fun operand => do
    let tokens ← ahead
    let next := precedenceAhead tokens
    if precedence.rank < next.rank ||
        (next = precedence && precedence = .assignment) then
      let operand ← g.operation allowStruct next operand
      if (← ahead).length = tokens.length then return .done operand
      return .again operand
    return .done operand

/-- Whether an expression ends ahead, so that a range has no end. -/
def atOpenRange
    (allowStruct : Bool)
    (tokens : Tokens) : Bool :=
  tokens.isEmpty || (tokens.atSign "." && !tokens.atSign "..") ||
    (!allowStruct && tokens.atGroup .brace) || tokens.atWord "as" ||
    tokens.atAnySign [",", ";", "?", "=>", "=", "+", "/", "%", "^", ">", "<=",
      "!=", "-=", "*=",
      "&=", "|=", "<<="]

/-- Reads the dots of a range and its end, if it has one. -/
def rangeTail
    (g : Grammar)
    (allowStruct : Bool) : Parser Expr := do
  let closed ← sign? "..="
  if !closed then
    if (← ahead).atSign "..." then expected ["`..=`"]
    sign ".."
  if closed || !atOpenRange allowStruct (← ahead) then
    let _ ← g.rightOperand allowStruct .range
  return .other .range

/-- What stands behind a cast and may not. -/
def castFault? (tokens : Tokens) : Option String :=
  if tokens.atSign "." && !tokens.atSign ".." then
    let member := tokens.skip
    let call := member.skip
    if member.atWord "await" then some "`.await`"
    else if member.atName &&
        (call.atGroup .parenthesis || call.atSign "::") then
      some "a method call"
    else some "a field access"
  else if tokens.atSign "?" then some "`?`"
  else if tokens.atGroup .bracket then some "indexing"
  else if tokens.atGroup .parenthesis then some "a function call"
  else none

/-- Reads the type of a cast. -/
def castTail (g : Grammar) : Parser Expr := do
  word "as"
  let _ ← g.type false
  if let some thing := castFault? (← ahead) then
    stop ("casts cannot be followed by " ++ thing)
  return .other .cast

/-- Goes on behind an operand with an assignment, a range or a cast. -/
def operatorTail
    (g : Grammar)
    (allowStruct : Bool)
    (base : Precedence)
    (operand : Expr) : Parser (Turn Expr Expr) := do
  let tokens ← ahead
  if base.rank ≤ Precedence.assignment.rank && atAssignment tokens then
    sign "="
    let _ ← g.rightOperand allowStruct .assignment
    return .again (.other .assignment)
  if base.rank ≤ Precedence.range.rank && tokens.atSign ".." then
    return .again (← g.rangeTail allowStruct)
  if tokens.atWord "as" then return .again (← g.castTail)
  return .done operand

/-- Goes on behind an operand with operators that bind no weaker than `base`. -/
def readOperation
    (g : Grammar)
    (allowStruct : Bool)
    (base : Precedence)
    (start : Expr) : Parser Expr :=
  repeating start fun operand => do
    if operand.isRange then return .done operand
    match operator? (← ahead) with
    | some (mark, precedence) =>
      if precedence.rank < base.rank then return .done operand
      if precedence = .comparison && operand.compares then
        stop "comparison operators cannot be chained"
      sign mark
      let _ ← g.rightOperand allowStruct precedence
      return .again (.other (.binary (precedence = .comparison)))
    | none => g.operatorTail allowStruct base operand

end Grammar
end Source
end PreferenceSchema
