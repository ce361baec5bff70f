/-!
# Quoted text

A text between double quotes in which a quote, a backslash, a line feed, a
carriage return and a tab are written as a backslash and one character.  Reading
a quoted text gives back the text and what follows it, so quoting loses nothing
and nothing breaks out of the quotes.
-/

namespace PreferenceSchema
namespace Text

/-- The character that stands for `c` after a backslash, where `c` needs one. -/
def escapeMark? (c : Char) : Option Char :=
  if c = '"' then some '"'
  else if c = '\\' then some '\\'
  else if c = '\n' then some 'n'
  else if c = '\r' then some 'r'
  else if c = '\t' then some 't'
  else none

/-- The character that `mark` stands for after a backslash. -/
def unescapeMark? (mark : Char) : Option Char :=
  if mark = '"' then some '"'
  else if mark = '\\' then some '\\'
  else if mark = 'n' then some '\n'
  else if mark = 'r' then some '\r'
  else if mark = 't' then some '\t'
  else none

/-- The written form of one character of a quoted text. -/
def escape (c : Char) : List Char :=
  match escapeMark? c with
  | some mark => ['\\', mark]
  | none => [c]

/-- A text between quotes. -/
def quote (text : List Char) : List Char :=
  '"' :: text.flatMap escape ++ ['"']

/-- Reads the rest of a quoted text behind its opening quote: the text, and what
follows the closing quote. -/
def unquoteTail? : List Char → Option (List Char × List Char)
  | [] => none
  | '\\' :: mark :: rest =>
    match unescapeMark? mark, unquoteTail? rest with
    | some c, some (text, after) => some (c :: text, after)
    | _, _ => none
  | c :: rest =>
    if c = '"' then some ([], rest)
    else if (escapeMark? c).isSome then none
    else (unquoteTail? rest).map fun (text, after) => (c :: text, after)

/-- Reads a quoted text: the text, and what follows it. -/
def unquote? : List Char → Option (List Char × List Char)
  | '"' :: rest => unquoteTail? rest
  | _ => none

end Text
end PreferenceSchema
