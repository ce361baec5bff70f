import PreferenceSchema.Number.Decimal

/-!
# JSON values

The data that plans are serialized to and options are read from, and the text of
such data.
-/

namespace PreferenceSchema

open Number

/-- A JSON value.  An object keeps its entries in the order in which they were
added. -/
inductive Json where
  | null
  | boolean (value : Bool)
  | integer (value : Int)
  /-- A number with a sign of its own, so that negative zero is one. -/
  | number (negative : Bool) (value : Decimal)
  | string (value : String)
  | array (values : List Json)
  | object (entries : List (String × Json))
deriving Inhabited

namespace Json

/-- A text, or null where there is none. -/
def optional : Option String → Json
  | some value => .string value
  | none => .null

/-- An array of texts. -/
def strings (values : List String) : Json :=
  .array (values.map .string)

/-- An object of one entry, which names the alternative that its value belongs
to. -/
def tagged
    (tag : String)
    (value : Json) : Json :=
  .object [(tag, value)]

/-! ### Text -/

/-- A character between quotes: quotes and backslashes stand behind a backslash,
and control characters are written by their numbers. -/
def escapeChar (c : Char) : List Char :=
  if c = '"' ∨ c = '\\' then ['\\', c]
  else if c.toNat < 0x20 then
    ['\\', 'u', '0', '0', Nat.digitChar (c.toNat / 16),
      Nat.digitChar (c.toNat % 16)]
  else [c]

/-- A text between quotes. -/
def stringChars (text : String) : List Char :=
  '"' :: text.toList.flatMap escapeChar ++ ['"']

/-- A number in full, always with a point, which tells it from an integer. -/
def numberChars
    (negative : Bool)
    (value : Decimal) : List Char :=
  (if negative then ['-'] else []) ++ value.positional ++
    (if 0 ≤ value.exponent then ['.', '0'] else [])

mutual

/-- A value as text. -/
def chars : Json → List Char
  | .null => "null".toList
  | .boolean value => (if value then "true" else "false").toList
  | .integer value => writeInteger value
  | .number negative value => numberChars negative value
  | .string value => stringChars value
  | .array values => '[' :: (listChars values ++ [']'])
  | .object entries => '\x7b' :: (entryChars entries ++ ['\x7d'])

/-- Values with commas between them. -/
def listChars : List Json → List Char
  | [] => []
  | [value] => chars value
  | value :: next :: rest => chars value ++ ',' :: listChars (next :: rest)

/-- Entries with commas between them. -/
def entryChars : List (String × Json) → List Char
  | [] => []
  | [(name, value)] => stringChars name ++ ':' :: chars value
  | (name, value) :: next :: rest =>
    stringChars name ++ ':' :: (chars value ++ ',' :: entryChars (next :: rest))

end

/-- The text of a value, on one line. -/
def text (value : Json) : String :=
  String.ofList value.chars

end Json
end PreferenceSchema
