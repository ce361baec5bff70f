import PreferenceSchema.Source.Literal
import PreferenceSchema.Source.Token

/-!
# Trees of a source file

The parts of a file that declarations are found in: types, expressions,
patterns, attributes and items.  What no declaration depends on is kept as token
trees, or only by its kind.
-/

namespace PreferenceSchema
namespace Source

open TokenTree (sign lifetime)

/-- The arguments of a path segment. -/
inductive PathArguments where
  | none
  /-- What stands between angle brackets, behind double colons or not. -/
  | angled (turbofish : Bool) (content : List TokenTree)
deriving Repr

namespace PathArguments

/-- Whether there are no brackets. -/
def isNone : PathArguments → Bool
  | .none => true
  | .angled _ _ => false

/-- Whether there are no arguments; there may be brackets. -/
def isEmpty : PathArguments → Bool
  | .none => true
  | .angled _ content => content.isEmpty

/-- The tokens of arguments. -/
def tokens : PathArguments → List TokenTree
  | .none => []
  | .angled turbofish content =>
    (if turbofish then sign "::" else []) ++ sign "<" ++ content ++ sign ">"

end PathArguments

/-- One segment of a path. -/
structure PathSegment where
  name : String
  arguments : PathArguments
deriving Repr

namespace PathSegment

/-- The tokens of a segment. -/
def tokens (segment : PathSegment) : List TokenTree :=
  .word segment.name :: segment.arguments.tokens

end PathSegment

/-- A path of segments between double colons. -/
structure Path where
  leadingColon : Bool
  segments : List PathSegment
deriving Repr

namespace Path

/-- The tokens of a path, with double colons between the segments. -/
def tokens (path : Path) : List TokenTree :=
  (if path.leadingColon then sign "::" else []) ++
    List.intercalate (sign "::") (path.segments.map PathSegment.tokens)

/-- Whether the path is one bare word. -/
def isWord
    (path : Path)
    (name : String) : Bool :=
  match path.segments with
  | [segment] => !path.leadingColon && segment.name ==
    name && segment.arguments.isNone
  | _ => false

/-- The name of the last segment. -/
def lastName? (path : Path) : Option String :=
  path.segments.getLast?.map PathSegment.name

/-- The name of the last segment as text. -/
def ownName (path : Path) : String :=
  path.lastName?.getD ""

/-- Whether no segment has arguments in brackets. -/
def isPlain (path : Path) : Bool :=
  path.segments.all fun segment => segment.arguments.isNone

/-- Whether the last segment has no arguments; it may have brackets. -/
def endsBare (path : Path) : Bool :=
  path.segments.getLast?.any fun segment => segment.arguments.isEmpty

/-- The path without the arguments of its last segment. -/
def withoutLastArguments (path : Path) : Path :=
  match path.segments.getLast? with
  | some last =>
    { path with segments := path.segments.dropLast ++ [⟨last.name, .none⟩] }
  | none => path

/-- The names of the segments, with double colons between them. -/
def dotted (path : Path) : String :=
  "::".intercalate (path.segments.map PathSegment.name)

end Path

/-- A type. -/
inductive Ty where
  | reference (lifetime : Option String) (isMutable : Bool) (target : Ty)
  | paren (inner : Ty)
  /-- A type in an invisible group, as the expansion of a definition leaves
  it. -/
  | group (inner : Ty)
  /-- A path, behind the tokens of a type in angle brackets where it belongs to
  one. -/
  | path (owner : Option (List TokenTree)) (path : Path)
  | pointer (isMutable : Bool) (target : Ty)
  /-- A function type: the tokens up to its parameters, and its result. -/
  | function (signature : List TokenTree) (result : Option Ty)
  | tuple (elements : List Ty) (trailingComma : Bool)
  | array (element : Ty) (length : List TokenTree)
  | slice (element : Ty)
  | never
  | placeholder
  /-- A type known by its bounds, which may be marked as such. -/
  | traitObject (marked : Bool) (bounds : List (List TokenTree))
    (trailingPlus : Bool)
  | someTrait (bounds : List (List TokenTree)) (trailingPlus : Bool)
  | expansion (name : Path) (delimiter : Delimiter) (content : List TokenTree)
  | verbatim (tokens : List TokenTree)
deriving Repr

namespace Ty

/-- The tokens of bounds with plus signs between them, and behind the last one
where asked for. -/
def boundTokens
    (trailingPlus : Bool)
    (bounds : List (List TokenTree)) : List TokenTree :=
  List.intercalate (sign "+") bounds ++ (if trailingPlus then sign "+" else [])

mutual

/-- The tokens of a type. -/
def tokens : Ty → List TokenTree
  | .reference name isMutable target =>
    sign "&" ++ (match name with
      | some name => lifetime name
      | none => []) ++ (if isMutable then [.word "mut"] else []) ++
        tokens target
  | .paren inner => [.group .parenthesis (tokens inner)]
  | .group inner => tokens inner
  | .path owner rest => owner.getD [] ++ rest.tokens
  | .pointer isMutable target =>
    sign "*" ++ [.word (if isMutable then "mut" else "const")] ++ tokens target
  | .function signature result =>
    signature ++ (match result with
      | some type => sign "->" ++ tokens type
      | none => [])
  | .tuple elements trailingComma =>
    [.group .parenthesis (listTokens trailingComma elements)]
  | .array element length =>
    [.group .bracket (tokens element ++ sign ";" ++ length)]
  | .slice element => [.group .bracket (tokens element)]
  | .never => sign "!"
  | .placeholder => [.word "_"]
  | .traitObject marked bounds trailingPlus =>
    (if marked then [.word "dyn"] else []) ++ boundTokens trailingPlus bounds
  | .someTrait bounds trailingPlus =>
    .word "impl" :: boundTokens trailingPlus bounds
  | .expansion name delimiter content =>
    name.tokens ++ sign "!" ++ [.group delimiter content]
  | .verbatim tokens => tokens

/-- The tokens of types with commas between them, and behind the last one where
asked for. -/
def listTokens (trailingComma : Bool) : List Ty → List TokenTree
  | [] => []
  | [type] => tokens type ++ (if trailingComma then sign "," else [])
  | type :: next :: rest => tokens type ++ sign "," ++
    listTokens trailingComma (next :: rest)

end

end Ty

/-- The kinds of expressions that are neither literals nor groups nor
negations. -/
inductive ExprKind where
  | array
  | assignment
  | asyncBlock
  | await
  | binary (compares : Bool)
  | block
  | breaking
  | call
  | cast
  | closure
  | constBlock
  | continuing
  | field
  | forLoop
  | conditional
  | index
  | infer
  | binding
  | loop
  /-- The use of a definition, in braces or in other brackets. -/
  | expansion (inBraces : Bool)
  | selection
  | methodCall
  | path
  | range
  | rawAddress
  | reference
  | repetition
  | returning
  | construction
  | propagation
  | tryBlock
  | tuple
  | unary
  | uncheckedBlock
  | verbatim
  | whileLoop
  | yielding
deriving DecidableEq, Repr

namespace ExprKind

/-- The name of a kind in diagnostics. -/
def name : ExprKind → String
  | .array => "array"
  | .assignment => "assign"
  | .asyncBlock => "async"
  | .await => "await"
  | .binary _ => "binary"
  | .block => "block"
  | .breaking => "break"
  | .call => "call"
  | .cast => "cast"
  | .closure => "closure"
  | .constBlock => "const"
  | .continuing => "continue"
  | .field => "field"
  | .forLoop => "for_loop"
  | .conditional => "if"
  | .index => "index"
  | .infer => "infer"
  | .binding => "let"
  | .loop => "loop"
  | .expansion _ => "macro"
  | .selection => "match"
  | .methodCall => "method_call"
  | .path => "path"
  | .range => "range"
  | .rawAddress => "unknown"
  | .reference => "reference"
  | .repetition => "repeat"
  | .returning => "return"
  | .construction => "struct"
  | .propagation => "try"
  | .tryBlock => "try_block"
  | .tuple => "tuple"
  | .unary => "unary"
  | .uncheckedBlock => "unsafe"
  | .verbatim => "verbatim"
  | .whileLoop => "while"
  | .yielding => "yield"

/-- Whether an expression of the kind ends a statement by itself. -/
def endsStatement : ExprKind → Bool
  | .conditional | .selection | .block | .uncheckedBlock | .whileLoop | .loop |
    .forLoop
  | .tryBlock | .constBlock => true
  | _ => false

end ExprKind

/-- An expression. -/
inductive Expr where
  | literal (value : Literal)
  /-- An expression in an invisible group, as the expansion of a definition
  leaves it. -/
  | group (inner : Expr)
  | paren (inner : Expr)
  | negation (operand : Expr)
  | other (kind : ExprKind)
deriving Repr

namespace Expr

/-- Whether the expression ends a statement by itself. -/
def endsStatement : Expr → Bool
  | .other kind => kind.endsStatement
  | _ => false

/-- Whether the expression is a range. -/
def isRange : Expr → Bool
  | .other .range => true
  | _ => false

/-- Whether the expression is only kept as its tokens. -/
def isVerbatim : Expr → Bool
  | .other .verbatim => true
  | _ => false

/-- Whether the expression compares two others. -/
def compares : Expr → Bool
  | .other (.binary compares) => compares
  | _ => false

end Expr

/-- What a pattern binds or is, as far as its place depends on it. -/
inductive PatternShape where
  | name (identifier : String)
  | rest
  /-- A range that lacks one of its ends. -/
  | openRange
  | other
deriving DecidableEq, Repr

/-- A pattern. -/
structure Pattern where
  shape : PatternShape
  tokens : List TokenTree
deriving Repr

/-- The value of an attribute: a literal, which may have a minus sign, or any
other expression. -/
inductive OptionValue where
  | literal (value : Literal)
  | expression (value : Expr)
deriving Repr

/-- What follows the path of an attribute. -/
inductive AttributeContent where
  | bare
  | list (delimiter : Delimiter) (tokens : List TokenTree)
  | value (value : OptionValue)
deriving Repr

/-- An attribute, in front of what it belongs to or inside it. -/
structure Attribute where
  inner : Bool
  path : Path
  content : AttributeContent
deriving Repr

/-- A field of a structure. -/
structure Field where
  attributes : List Attribute
  isPublic : Bool
  name : Option String
  type : Ty
deriving Repr

/-- The fields of a structure. -/
inductive Fields where
  | named (fields : List Field)
  | unnamed (fields : List Field)
  | unit
deriving Repr

namespace Fields

/-- The fields, in order. -/
def toList : Fields → List Field
  | .named fields => fields
  | .unnamed fields => fields
  | .unit => []

/-- Whether the fields have no names. -/
def areUnnamed : Fields → Bool
  | .unnamed _ => true
  | _ => false

end Fields

/-- A parameter of a function. -/
inductive Argument where
  | receiver
  | typed (pattern : Pattern) (type : Ty)
deriving Repr

/-- Whether a parameter is the receiver. -/
def Argument.isReceiver : Argument → Bool
  | .receiver => true
  | .typed _ _ => false

/-- A function with the attributes in front of it and inside it. -/
structure Function where
  attributes : List Attribute
  isPublic : Bool
  name : String
  arguments : List Argument
  result : Option Ty
deriving Repr

/-- A structure with its attributes. -/
structure Struct where
  attributes : List Attribute
  name : String
  fields : Fields
deriving Repr

/-- An item of a file. -/
inductive Item where
  | struct (struct : Struct)
  /-- A trait, with the functions that are items of it as they stand. -/
  | trait (attributes : List Attribute) (name : String)
    (functions : List Function)
  /-- The functions of a type, or of a type as an instance of a trait. -/
  | implementation (ofTrait : Bool) (type : Ty) (functions : List Function)
  /-- A module, with its items where they stand in the same file. -/
  | submodule (name : String) (items : Option (List Item))
  | other
deriving Repr, Inhabited

end Source
end PreferenceSchema
