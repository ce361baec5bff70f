import PreferenceSchema.Source.Parser

/-!
# Readers of the grammar

Types, expressions, patterns, statements and items hold one another.  The reader
of each is written against the readers for what stands inside it, which are
collected here.
-/

namespace PreferenceSchema
namespace Source

/-- How strongly operators bind, from the weakest on. -/
inductive Precedence where
  | jump
  | assignment
  | range
  | disjunction
  | conjunction
  | binding
  | comparison
  | bitOr
  | bitXor
  | bitAnd
  | shift
  | sum
  | product
  | cast
deriving DecidableEq, Repr

namespace Precedence

/-- The place of a precedence among all of them. -/
def rank : Precedence → Nat
  | .jump => 0
  | .assignment => 1
  | .range => 2
  | .disjunction => 3
  | .conjunction => 4
  | .binding => 5
  | .comparison => 6
  | .bitOr => 7
  | .bitXor => 8
  | .bitAnd => 9
  | .shift => 10
  | .sum => 11
  | .product => 12
  | .cast => 13

end Precedence

/-- What a bound may be, apart from a trait or a lifetime. -/
structure BoundRules where
  /-- Whether the generic parameters that a type captures may be listed. -/
  listed : Bool
  /-- Whether a trait may be asked for in constants. -/
  constant : Bool

/-- An expression that may be a statement. -/
structure BoundedExpr where
  expr : Expr
  /-- Whether attributes in front of it are not kept, since it begins with an
  operand that is only kept as its tokens. -/
  dropsAttributes : Bool

/-- The readers for the parts of something larger. -/
structure Grammar where
  /-- Reads a type; where pluses are allowed, it may go on with further
  bounds. -/
  type : (allowPlus : Bool) → Parser Ty
  /-- Reads one bound, and tells whether it asks for a trait. -/
  bound : BoundRules → Parser Bool
  /-- Reads an operand, where a structure in braces may end it or not. -/
  operand : (allowStruct : Bool) → Parser Expr
  /-- Goes on behind an operand with operators that bind no weaker than
  `base`. -/
  operation : (allowStruct : Bool) → (base : Precedence) → Expr → Parser Expr
  /-- Reads an expression that ends where a block does, unless a dot or a
  question mark goes on with it. -/
  bounded : Parser BoundedExpr
  /-- Reads a pattern without alternatives. -/
  pattern : Parser PatternShape
  /-- Reads statements until the end. -/
  statements : Parser Unit
  /-- Reads fields with names in braces. -/
  fields : Parser (List Field)
  item : Parser Item
  /-- Reads what a `use` brings in, where a list in braces may begin at the root
  or not; whether a part of it does. -/
  useTree : (allowRoot : Bool) → Parser Bool

namespace Grammar

open Source.Parser

/-- Reads an expression. -/
def expression
    (g : Grammar)
    (allowStruct : Bool) : Parser Expr := do
  g.operation allowStruct .jump (← g.operand allowStruct)

/-- Reads expressions with commas between them until the end. -/
def expressionList (g : Grammar) : Parser Unit := do
  let _ ← commaSeparated (g.expression true)

/-- Reads a block of statements. -/
def block (g : Grammar) : Parser Unit :=
  inside .brace g.statements

end Grammar

namespace Parser

/-! ### Plain paths -/

/-- Whether a word of a plain path stands ahead. -/
def atPathWord (tokens : Tokens) : Bool :=
  tokens.atName || tokens.atAnyOf ["super", "self", "Self", "crate"]

/-- Whether a path begins ahead; one that belongs to a type begins with an angle
bracket. -/
def atPath (tokens : Tokens) : Bool :=
  atPathWord tokens || tokens.atAnySign ["::", "<"]

/-- Reads a path of words without arguments. -/
def plainPath : Parser Path := do
  let leadingColon ← sign? "::"
  let (segments, open?) ← repeating ([], false) fun (segments, open?) => do
    if atPathWord (← ahead) then
      let segments := PathSegment.mk (← anyWord) .none :: segments
      if ← sign? "::" then return .again (segments, true)
      return .done (segments, false)
    return .done (segments, open?)
  if segments.isEmpty then
    let _ ← name
  if open? then stop "expected path segment after `::`"
  return ⟨leadingColon, segments.reverse⟩

/-! ### Uses of definitions -/

/-- Reads the exclamation mark behind the name of a definition, and what it is
used with. -/
def expansionArguments : Parser (Delimiter × Tokens) := do
  sign "!"
  anyGroup

/-- Whether a single exclamation mark stands ahead. -/
def atExpansion (tokens : Tokens) : Bool :=
  tokens.atSign "!" && !tokens.atSign "!="

/-- Whether something that is built in stands ahead. -/
def atBuiltin (tokens : Tokens) : Bool :=
  tokens.atWord "builtin" && tokens.skip.atSign "#"

/-- Reads the use of something that is built in. -/
def builtin : Parser Unit := do
  word "builtin"
  sign "#"
  let _ ← name
  anyContent .parenthesis

/-! ### Lists with lifetimes -/

/-- A part of a list in which lifetimes come first, and whether a comma follows
it. -/
structure ListedPart where
  isLifetime : Bool
  tokens : Tokens
  comma : Bool

namespace ListedPart

/-- The tokens of parts, where the ones before them lack a comma or not. -/
def tokensBehind (lacking : Bool) : List ListedPart → Tokens
  | [] => []
  | part :: rest =>
    (if lacking then TokenTree.sign "," else []) ++ part.tokens ++
      (if part.comma then TokenTree.sign "," else []) ++
      tokensBehind (!part.comma) rest

/-- The tokens of all parts: the lifetimes go before the others, and a comma
stands between any two parts. -/
def listTokens (parts : List ListedPart) : Tokens :=
  let (lifetimes, others) := parts.partition ListedPart.isLifetime
  tokensBehind false (lifetimes ++ others)

end ListedPart

/-- Reads parts with commas between them, up to a closing angle bracket; a part
tells whether it is a lifetime. -/
def listedParts (part : Parser Bool) : Parser (List ListedPart) :=
  repeating [] fun parts => do
    if (← ahead).atSign ">" then return .done parts
    let (isLifetime, tokens) ← capture part
    if (← ahead).atSign ">" then
      return .done (parts ++ [⟨isLifetime, tokens, false⟩])
    sign ","
    return .again (parts ++ [⟨isLifetime, tokens, true⟩])

/-! ### Lists behind colons -/

/-- Reads a colon and a list behind it, if a colon stands ahead, and tells
whether it does.  A colon is not written out where its list is empty; `list`
tells whether it is not. -/
def colonList (list : Parser Bool) : Parser Bool := do
  if (← ahead).atSign ":" then
    let (filled, tokens) ← apart do
      sign ":"
      list
    if filled then write tokens
    return true
  return false

end Parser

namespace Grammar

open Source.Parser

/-- Reads bounds that may ask for constants, with plus signs between them, until
a condition on the tokens ahead holds; whether there are any. -/
def boundsUntil
    (g : Grammar)
    (finished : Tokens → Bool) : Parser Bool := do
  let (bounds, _) ← separated "+" finished (g.bound ⟨false, true⟩)
  return !bounds.isEmpty

end Grammar
end Source
end PreferenceSchema
