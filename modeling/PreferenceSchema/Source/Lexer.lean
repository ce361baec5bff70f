import PreferenceSchema.Source.LiteralScan
import PreferenceSchema.Source.Token
import PreferenceSchema.Text.Display
import PreferenceSchema.Text.Segment

/-!
# From text to token trees

Reads a source text as token trees.  A documenting comment becomes the attribute
that it stands for; a text with an unclosed group, literal or comment, or with a
character of no token, is refused.
-/

namespace PreferenceSchema
namespace Source

/-- The characters that are punctuation. -/
def punctuation : List Char :=
  "~!@#$%^&*-=+|;:,<.>/?\x27".toList

/-- The starts of literals, which no word has. -/
def literalStarts : List String :=
  ["r\"", "r#\"", "r##", "b\"", "b\x27", "br\"", "br#", "c\"", "cr\"", "cr#"]

/-- The words that cannot be escaped. -/
def unescapable : List String :=
  ["_", "super", "self", "Self", "crate"]

/-- The part of `text` in front of `rest`, which ends it. -/
def consumed (text rest : List Char) : List Char :=
  text.take (text.length - rest.length)

/-- Reads a word, which may be escaped, and what follows it. -/
def scanWord? (text : List Char) : Option (String × List Char) :=
  match after? "r#" text with
  | some bare => do
    let rest ← scanIdentifier? bare
    if unescapable.contains (String.ofList (consumed bare rest)) then none
    else some (String.ofList (consumed text rest), rest)
  | none => (scanIdentifier? text).map fun rest =>
    (String.ofList (consumed text rest), rest)

/-- Whether a punctuation character stands at the start of a text, and not a
comment. -/
def startsPunct (text : List Char) : Bool :=
  match text with
  | c :: _ => punctuation.contains c && !startsWith "//" text &&
    !startsWith "/*" text
  | [] => false

/-- Reads a punctuation character, and what follows it.  An apostrophe counts
only in front of a word, as the start of a lifetime. -/
def scanPunct? (text : List Char) : Option (TokenTree × List Char) :=
  if !startsPunct text then none
  else
    match text with
    | c :: rest =>
      if c = TokenTree.apostrophe then
        match scanWord? rest with
        | some (_, behind) =>
          if startsWith "\x27" behind || startsWith "#" behind &&
            !startsWith "r#" rest then none
          else some (.punct c true, rest)
        | none => none
      else some (.punct c (startsPunct rest), rest)
    | [] => none

/-- The delimiter of the group that a text begins with. -/
def groupAhead? (text : List Char) : Option Delimiter :=
  match text with
  | c :: _ => if startsWith faultMark text then none else Delimiter.ofOpening? c
  | [] => none

/-- Reads a token that is no group, and what follows it. -/
def scanLeaf? (text : List Char) : Option (TokenTree × List Char) :=
  match (scanLiteral? text).or (after? faultMark text) with
  | some rest => some (.literal (String.ofList (consumed text rest)), rest)
  | none =>
    match scanPunct? text with
    | some result => some result
    | none =>
      if literalStarts.any fun start => startsWith start text then none
      else (scanWord? text).map fun (name, rest) => (.word name, rest)

/-- The content of a line comment and what follows it. -/
def splitLine (text : List Char) : List Char × List Char :=
  let rest := dropLine text
  let line := consumed text rest
  if rest.isEmpty then (line, rest) else (Text.dropEnding ['\r'] line, rest)

/-- The content of a block comment, without its opening and closing marks of
three and two characters, and what follows it. -/
def splitBlock? (text : List Char) : Option (List Char × List Char) :=
  (dropBlockComment? 0 text).map fun rest =>
    let comment := consumed text rest
    ((comment.take (comment.length - 2)).drop 3, rest)

/-- Whether every carriage return stands in front of a line feed. -/
def carriageReturnsPaired : List Char → Bool
  | '\r' :: '\n' :: rest => carriageReturnsPaired rest
  | '\r' :: _ => false
  | _ :: rest => carriageReturnsPaired rest
  | [] => true

/-- The content of a documenting comment, whether it documents what it stands
in, and what follows it. -/
def scanDocComment? (text : List Char) :
    Option (List Char × Bool × List Char) :=
  if startsWith "//!" text then
    let (content, rest) := splitLine (text.drop 3)
    some (content, true, rest)
  else if startsWith "/*!" text then
    (splitBlock? text).map fun (content, rest) => (content, true, rest)
  else if startsWith "///" text then
    if startsWith "////" text then none
    else
      let (content, rest) := splitLine (text.drop 3)
      some (content, false, rest)
  else if startsWith "/**" text && !startsWith "/***" text then
    (splitBlock? text).map fun (content, rest) => (content, false, rest)
  else none

/-- The documentation as a literal: a displayed text, in which a null in front
of a digit below eight is written with two digits of its own. -/
def docLiteral : List Char → List Char
  | [] => []
  | c :: rest =>
    (if c.toNat = 0 &&
      (rest.head?.any fun next => '0' ≤ next && next ≤ '7') then "\\x00".toList
      else Text.displayChar c) ++ docLiteral rest

/-- The attribute that a documenting comment stands for. -/
def docAttribute
    (content : List Char)
    (inner : Bool) : List TokenTree :=
  .punct '#' false :: (if inner then [.punct '!' false] else []) ++
    [.group .bracket [.word "doc", .punct '=' false,
      .literal (String.ofList ('"' :: docLiteral content ++ ['"']))]]

/-- A group whose closing bracket has not been read: its delimiter, and the
trees in front of it, reversed. -/
structure OpenGroup where
  delimiter : Delimiter
  before : List TokenTree

/-- Reads token trees in at most `steps` steps, inside the open groups and
behind the trees `before`, reversed. -/
def lexFrom? : (steps : Nat) → List OpenGroup → (before : List TokenTree) →
    List Char →
    Option (List TokenTree)
  | 0, _, _, _ => none
  | steps + 1, enclosing, before, text =>
    let text := skipBlanks text
    match scanDocComment? text with
    | some (content, inner, rest) =>
      if carriageReturnsPaired content then
        lexFrom? steps enclosing
          ((docAttribute content inner).reverse ++ before) rest
      else none
    | none =>
      match text with
      | [] => if enclosing.isEmpty then some before.reverse else none
      | c :: rest =>
        match groupAhead? text with
        | some delimiter =>
          lexFrom? steps (⟨delimiter, before⟩ :: enclosing) [] rest
        | none =>
          match Delimiter.ofClosing? c, enclosing with
          | some delimiter, group :: outer =>
            if delimiter = group.delimiter then
              lexFrom? steps outer
                (.group delimiter before.reverse :: group.before) rest
            else none
          | some _, [] => none
          | none, _ =>
            match scanLeaf? text with
            | some (tree, rest) =>
              lexFrom? steps enclosing (tree :: before) rest
            | none => none

/-- The character that may mark the start of a text. -/
def byteOrderMark : Char := Char.ofNat 0xFEFF

/-- A text without the mark at its start. -/
def dropByteOrderMark : List Char → List Char
  | c :: rest => if c = byteOrderMark then rest else c :: rest
  | [] => []

/-- The token trees of a source text. -/
def lex? (text : List Char) : Option (List TokenTree) :=
  let text := dropByteOrderMark text
  lexFrom? (text.length + 1) [] [] text

end Source
end PreferenceSchema
