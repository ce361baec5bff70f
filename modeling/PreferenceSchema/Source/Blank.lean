import PreferenceSchema.Text.Blank

/-!
# Blanks and comments

The parts of a source text between its tokens: blank characters, line comments
and block comments, which nest.  A comment that documents an item is not one of
them.
-/

namespace PreferenceSchema
namespace Source

/-- Whether `mark` begins a text. -/
def startsWith
    (mark : String)
    (text : List Char) : Bool :=
  mark.toList.isPrefixOf text

/-- Whether a character separates tokens: a blank or a mark of writing
direction. -/
def separatesTokens (c : Char) : Bool :=
  Text.isBlank c || c.toNat == 0x200E || c.toNat == 0x200F

/-- The text from the end of the line on: from the line feed, also where a
carriage return stands before it. -/
def dropLine : List Char → List Char
  | [] => []
  | c :: rest => if c = '\n' then c :: rest else dropLine rest

/-- What follows a block comment that is open `depth` times, if it is closed. -/
def dropBlockComment? : (depth : Nat) → List Char → Option (List Char)
  | depth, '/' :: '*' :: rest => dropBlockComment? (depth + 1) rest
  | depth, '*' :: '/' :: rest =>
    if depth ≤ 1 then some rest else dropBlockComment? (depth - 1) rest
  | depth, _ :: rest => dropBlockComment? depth rest
  | _, [] => none

/-- Whether a text begins with a line comment that documents nothing. -/
def startsLineComment (text : List Char) : Bool :=
  startsWith "//" text && (!startsWith "///" text || startsWith "////" text) &&
    !startsWith "//!" text

/-- Whether a text begins with a block comment that documents nothing. -/
def startsBlockComment (text : List Char) : Bool :=
  startsWith "/*" text && (!startsWith "/**" text || startsWith "/***" text) &&
    !startsWith "/*!" text

/-- The text behind its leading blanks and comments, skipped in at most `steps`
parts. -/
def skipBlanksFrom : (steps : Nat) → List Char → List Char
  | 0, text => text
  | steps + 1, text =>
    if startsLineComment text then skipBlanksFrom steps (dropLine text)
    else if startsWith "/**/" text then skipBlanksFrom steps (text.drop 4)
    else if startsBlockComment text then
      match dropBlockComment? 0 text with
      | some rest => skipBlanksFrom steps rest
      | none => text
    else
      match text with
      | c :: rest => if separatesTokens c then
        skipBlanksFrom steps rest else text
      | [] => []

/-- The text behind its leading blanks and comments. -/
def skipBlanks (text : List Char) : List Char :=
  skipBlanksFrom text.length text

end Source
end PreferenceSchema
