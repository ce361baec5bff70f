import PreferenceSchema.Source.Grammar.Items
import PreferenceSchema.Source.Lexer

/-!
# Reading source text

The readers of the grammar are stacked upon each other, as high as the text can
be nested, and read types, expressions, structures, functions and whole files.
-/

namespace PreferenceSchema
namespace Source

namespace TokenTree

mutual

/-- The number of tokens in a tree. -/
def count : TokenTree → Nat
  | .word _ => 1
  | .punct _ _ => 1
  | .literal _ => 1
  | .group _ content => listCount content + 2

/-- The number of tokens in trees. -/
def listCount : List TokenTree → Nat
  | [] => 0
  | tree :: rest => count tree + listCount rest

end

end TokenTree

namespace Grammar

/-- The readers that read nothing. -/
def lowest : Grammar where
  type _ := Parser.stop "nesting too deep"
  bound _ := Parser.stop "nesting too deep"
  operand _ := Parser.stop "nesting too deep"
  operation _ _ _ := Parser.stop "nesting too deep"
  bounded := Parser.stop "nesting too deep"
  pattern := Parser.stop "nesting too deep"
  statements := Parser.stop "nesting too deep"
  fields := Parser.stop "nesting too deep"
  item := Parser.stop "nesting too deep"
  useTree _ := Parser.stop "nesting too deep"

/-- The readers that leave nested parts to the given ones. -/
def above (g : Grammar) : Grammar where
  type allowPlus := Parser.writtenAs Ty.tokens (g.readType allowPlus)
  bound := g.readBound
  operand := g.readOperand
  operation := g.readOperation
  bounded := g.readBounded
  pattern := g.readPattern
  statements := g.readStatements
  fields := g.readFields
  item := g.readItem
  useTree := g.readUseTree

/-- The readers of what is nested up to a height. -/
def ofHeight : (height : Nat) → Grammar
  | 0 => lowest
  | height + 1 => above (ofHeight height)

/-- A height that is enough for some tokens: a reader asks at most three others
in a row before one of them takes a token. -/
def heightFor (tokens : Tokens) : Nat :=
  4 * TokenTree.listCount tokens + 8

end Grammar

/-- What a reader finds in some tokens, all of which it has to take. -/
def readAll
    {α : Type}
    (step : Grammar → Parser α)
    (tokens : Tokens) : Except Fault α :=
  (step (Grammar.ofHeight (Grammar.heightFor tokens))).run tokens

/-- What a reader finds in a text. -/
def readText?
    {α : Type}
    (step : Grammar → Parser α)
    (text : String) : Option α := do
  let tokens ← lex? text.toList
  (readAll step tokens).toOption

/-- The type that a text is. -/
def Ty.ofText? (text : String) : Option Ty :=
  readText? (fun g => g.type true) text

/-- The expression that a text is. -/
def Expr.ofText? (text : String) : Option Expr :=
  readText? (fun g => g.expression true) text

/-- Reads a structure with what stands in front of it. -/
def readStruct (g : Grammar) : Parser Struct := do
  let attributes ← g.outerAttributes
  let _ ← Grammar.visibility
  g.struct attributes

/-- The structure that a text is. -/
def Struct.ofText? (text : String) : Option Struct :=
  readText? readStruct text

/-- The function of a type that a text is. -/
def Function.ofText? (text : String) : Option Function :=
  readText? Grammar.method text

/-- Reads the items of a file behind the attributes of the file. -/
def readItems (g : Grammar) : Parser (List Item) := do
  let _ ← g.innerAttributes
  Parser.untilEnd g.item

/-- The items that a text consists of. -/
def Item.listOfText? (text : String) : Option (List Item) :=
  readText? readItems text

/-- The text of a file without its first line, where that line names the program
to run it with. -/
def dropRunLine (text : List Char) : List Char :=
  if startsWith "#!" text && !startsWith "[" (skipBlanks (text.drop 2)) then
    text.dropWhile (· ≠ '\n')
  else text

/-- The items of a file. -/
def Item.listOfFile? (text : String) : Option (List Item) :=
  Item.listOfText? (String.ofList (dropRunLine (dropByteOrderMark text.toList)))

end Source
end PreferenceSchema
