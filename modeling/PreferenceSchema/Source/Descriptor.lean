import PreferenceSchema.Declaration
import PreferenceSchema.Source.Tree
import PreferenceSchema.Text.Blank

/-!
# Types and defaults as declarations have them

A declaration names a type by its text without blanks; references and
parentheses around it do not count, except that a reference to `str` is a type
of its own.  A default is the text of a literal, together with the kind of
literal that it was.
-/

namespace PreferenceSchema
namespace Source
namespace Ty

/-- Whether the type is the bare `str`. -/
def isStr : Ty → Bool
  | .path none named => named.isWord "str"
  | _ => false

/-- The descriptor of a type. -/
def descriptor : Ty → String
  | .reference _ _ target => if target.isStr then "&str" else descriptor target
  | .paren inner => descriptor inner
  | .group inner => descriptor inner
  | type => String.ofList (Text.compact (TokenTree.listChars type.tokens))

end Ty

/-- The descriptor of the result of a function. -/
def resultDescriptor : Option Ty → String
  | some type => type.descriptor
  | none => "()"

/-- The text of a literal that can be a default, and its kind. -/
def Literal.defaultText? : Literal → Option (String × LiteralKind)
  | .string value => some (value, .text)
  | .integer value => some (toString value, .number)
  | .float digits => some (digits, .number)
  | .boolean value => some (if value then "true" else "false", .boolean)
  | _ => none

/-- The text of a number with a minus sign that can be a default, and its
kind. -/
def Literal.negatedText? : Literal → Option (String × LiteralKind)
  | .integer value => some ("-" ++ toString value, .number)
  | .float digits => some ("-" ++ digits, .number)
  | _ => none

/-- The text of an expression that can be a default, and its kind: of a literal,
or of a number directly behind a minus sign. -/
def Expr.defaultText? : Expr → Option (String × LiteralKind)
  | .literal value => value.defaultText?
  | .group inner => defaultText? inner
  | .paren inner => defaultText? inner
  | .negation (.literal value) => value.negatedText?
  | _ => none

@[simp] theorem Expr.defaultText?_group
    (inner : Expr) :
    (Expr.group inner).defaultText? = inner.defaultText? := by
  simp only [defaultText?]

@[simp] theorem Expr.defaultText?_paren
    (inner : Expr) :
    (Expr.paren inner).defaultText? = inner.defaultText? := by
  simp only [defaultText?]

end Source
end PreferenceSchema
