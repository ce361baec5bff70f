/-!
# Token trees

The form in which source text is read: words, punctuation, literals, and groups
of these between delimiters.  A token tree can be written back as text.
-/

namespace PreferenceSchema
namespace Source

/-- The brackets around a group. -/
inductive Delimiter where
  | parenthesis
  | bracket
  | brace
deriving DecidableEq, Repr

namespace Delimiter

/-- The opening bracket. -/
def opening : Delimiter → Char
  | .parenthesis => '('
  | .bracket => '['
  | .brace => '\x7b'

/-- The closing bracket. -/
def closing : Delimiter → Char
  | .parenthesis => ')'
  | .bracket => ']'
  | .brace => '\x7d'

/-- All delimiters. -/
def all : List Delimiter :=
  [.parenthesis, .bracket, .brace]

/-- The delimiter that a character opens. -/
def ofOpening? (c : Char) : Option Delimiter :=
  all.find? fun delimiter => delimiter.opening == c

/-- The delimiter that a character closes. -/
def ofClosing? (c : Char) : Option Delimiter :=
  all.find? fun delimiter => delimiter.closing == c

end Delimiter

/-- One piece of source text. -/
inductive TokenTree where
  /-- A word, with its escape where it has one. -/
  | word (name : String)
  /-- A punctuation character, and whether the next one belongs to the same
  sign. -/
  | punct (mark : Char) (joint : Bool)
  /-- A literal, as it was written. -/
  | literal (text : String)
  | group (delimiter : Delimiter) (content : List TokenTree)
deriving Repr

namespace TokenTree

/-- The apostrophe, which begins a lifetime. -/
def apostrophe : Char := '\x27'

/-- The tokens of a sign of one or more punctuation characters. -/
def sign (characters : String) : List TokenTree :=
  match characters.toList.reverse with
  | [] => []
  | last :: before => before.reverse.map (.punct · true) ++ [.punct last false]

/-- The tokens of a lifetime, given without its apostrophe. -/
def lifetime (name : String) : List TokenTree :=
  [.punct apostrophe true, .word name]

/-- Whether the next token follows without a space. -/
def isJoint : TokenTree → Bool
  | .punct _ joint => joint
  | _ => false

mutual

/-- A token tree as text. -/
def chars : TokenTree → List Char
  | .word name => name.toList
  | .punct mark _ => [mark]
  | .literal text => text.toList
  | .group .brace [] => ['\x7b', ' ', '\x7d']
  | .group .brace content =>
    '\x7b' :: ' ' :: (listChars content ++ [' ', '\x7d'])
  | .group delimiter content =>
    delimiter.opening :: (listChars content ++ [delimiter.closing])

/-- Token trees as text, with a space between two of them unless the first one
is joint. -/
def listChars : List TokenTree → List Char
  | [] => []
  | [tree] => chars tree
  | tree :: next :: rest =>
    chars tree ++ (if tree.isJoint then [] else [' ']) ++
      listChars (next :: rest)

end

end TokenTree

/-- The text of token trees. -/
def tokensText (trees : List TokenTree) : String :=
  String.ofList (TokenTree.listChars trees)

end Source
end PreferenceSchema
