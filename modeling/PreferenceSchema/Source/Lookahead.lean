import PreferenceSchema.Source.Tree

/-!
# What stands ahead of a reader

Questions about the tokens that have not been read yet: which sign, word, group
or literal comes next.  An answer takes no token.
-/

namespace PreferenceSchema
namespace Source

/-- The tokens ahead of a reader. -/
abbrev Tokens : Type := List TokenTree

/-- The words that are no names. -/
def keywords : List String :=
  ["_", "abstract", "as", "async", "await", "become", "box", "break", "const",
    "continue", "crate", "do", "dyn", "else", "enum", "extern", "false",
    "final", "fn", "for", "if", "impl", "in", "let", "loop", "macro", "match",
    "mod", "move", "mut", "override", "priv", "pub", "ref", "return", "Self",
    "self", "static", "struct", "super", "trait", "true", "try", "type",
    "typeof", "unsafe", "unsized", "use", "virtual", "where", "while", "yield"]

namespace Tokens

/-- What follows a sign of the given characters: all of them but the last must
be joint. -/
def dropSign? : List Char → Tokens → Option Tokens
  | [], tokens => some tokens
  | [c], .punct mark _ :: rest => if mark = c then some rest else none
  | c :: cs, .punct mark true :: rest =>
    if mark = c then dropSign? cs rest else none
  | _, _ => none

/-- Whether a sign stands ahead. -/
def atSign
    (tokens : Tokens)
    (characters : String) : Bool :=
  (dropSign? characters.toList tokens).isSome

/-- Whether one of several signs stands ahead. -/
def atAnySign
    (tokens : Tokens)
    (signs : List String) : Bool :=
  signs.any tokens.atSign

/-- The word ahead. -/
def word? : Tokens → Option String
  | .word name :: _ => some name
  | _ => none

/-- Whether a certain word stands ahead. -/
def atWord
    (tokens : Tokens)
    (name : String) : Bool :=
  tokens.word? == some name

/-- Whether one of several words stands ahead. -/
def atAnyOf
    (tokens : Tokens)
    (names : List String) : Bool :=
  names.any tokens.atWord

/-- Whether any word stands ahead. -/
def atAnyWord (tokens : Tokens) : Bool :=
  tokens.word?.isSome

/-- Whether a name stands ahead: a word that is no keyword. -/
def atName (tokens : Tokens) : Bool :=
  match tokens.word? with
  | some name => !keywords.contains name
  | none => false

/-- Whether a group with the delimiter stands ahead. -/
def atGroup
    (tokens : Tokens)
    (delimiter : Delimiter) : Bool :=
  match tokens with
  | .group found _ :: _ => found = delimiter
  | _ => false

/-- Whether a group with any delimiter stands ahead. -/
def atAnyGroup : Tokens → Bool
  | .group _ _ :: _ => true
  | _ => false

/-- Whether a lifetime stands ahead. -/
def atLifetime : Tokens → Bool
  | .punct mark true :: .word _ :: _ => mark = TokenTree.apostrophe
  | _ => false

/-- Whether a literal token is a number. -/
def isNumber (text : String) : Bool :=
  match text.toList with
  | c :: _ => c.isDigit
  | [] => false

/-- The literal ahead, whether it has a minus sign, and what follows it. -/
def literal? : Tokens → Option (Literal × Bool × Tokens)
  | .literal text :: rest => some (.ofToken text, false, rest)
  | .word "true" :: rest => some (.boolean true, false, rest)
  | .word "false" :: rest => some (.boolean false, false, rest)
  | .punct '-' _ :: .literal text :: rest =>
    if isNumber text then some (.ofToken text, true, rest) else none
  | _ => none

/-- Whether a literal stands ahead. -/
def atLiteral (tokens : Tokens) : Bool :=
  tokens.literal?.isSome

/-- Whether a string stands ahead. -/
def atString (tokens : Tokens) : Bool :=
  match tokens.literal? with
  | some (.string _, _, _) => true
  | _ => false

/-- Whether a whole number stands ahead. -/
def atInteger (tokens : Tokens) : Bool :=
  match tokens.literal? with
  | some (.integer _, _, _) => true
  | _ => false

/-- The tokens behind the next one; a lifetime counts as one. -/
def skip (tokens : Tokens) : Tokens :=
  if tokens.atLifetime then tokens.drop 2 else tokens.drop 1

end Tokens

end Source
end PreferenceSchema
