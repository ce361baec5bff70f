import PreferenceSchema.SemanticType
import PreferenceSchema.Number.BinaryFloat
import PreferenceSchema.Text.Quoted

/-!
# Default values

The typed value that a preference has until it is written: how it is read from
the text of an initializer, and how it is written as a literal of generated
code.
-/

namespace PreferenceSchema

open Number

/-- A value of one of the semantic types. -/
inductive DefaultValue where
  | string (value : String)
  | integer (value : Int32)
  | long (value : Int64)
  | float (value : BinaryFloat .single)
  | double (value : BinaryFloat .double)
  | boolean (value : Bool)
deriving DecidableEq

namespace DefaultValue

/-- The type of a value. -/
def semanticType : DefaultValue → SemanticType
  | .string _ => .string
  | .integer _ => .integer
  | .long _ => .long
  | .float _ => .float
  | .double _ => .double
  | .boolean _ => .boolean

/-- The value of a type that nobody declared. -/
def zero : SemanticType → DefaultValue
  | .string => .string ""
  | .integer => .integer 0
  | .long => .long 0
  | .float => .float (BinaryFloat.zero .single (by decide))
  | .double => .double (BinaryFloat.zero .double (by decide))
  | .boolean => .boolean false

@[simp] theorem semanticType_zero
    (type : SemanticType) :
    (zero type).semanticType = type := by
  cases type <;> rfl

/-- Reads a truth value. -/
def readBoolean? (text : List Char) : Option Bool :=
  if text = "true".toList then some true
  else if text = "false".toList then some false
  else none

/-- Reads the text of an initializer as a value of a type.  A string is taken as
it is; around all other values blanks are ignored, and long and floating values
may end in the letter of their type. -/
def read?
    (type : SemanticType)
    (raw : String) : Option DefaultValue :=
  let text := Text.trim raw.toList
  match type with
  | .string => some (.string raw)
  | .integer => (readBounded? 32 text).map fun value => .integer (.ofInt value)
  | .long =>
    (readBounded? 64 (Text.dropEnding ['L', 'l'] text)).map fun value =>
      .long (.ofInt value)
  | .float =>
    (BinaryFloat.read? .single (Text.dropEnding ['F', 'f'] text)).map .float
  | .double =>
    (BinaryFloat.read? .double (Text.dropEnding ['D', 'd'] text)).map .double
  | .boolean => (readBoolean? text).map .boolean

/-- A number with a fraction part, so that it cannot be taken for a whole
number.  A point or an exponent tells so already. -/
def withFraction (number : List Char) : List Char :=
  if number.any ['.', 'e', 'E'].contains then number else number ++ ['.', '0']

/-- The characters of the literal of a value. -/
def literalChars : DefaultValue → List Char
  | .string value => Text.quote value.toList
  | .integer value => writeInteger value.toInt
  | .long value => writeInteger value.toInt
  | .float value => withFraction value.write ++ ['f']
  | .double value => withFraction value.write
  | .boolean value => (if value then "true" else "false").toList

/-- The literal of a value in generated code. -/
def literal (value : DefaultValue) : String :=
  String.ofList value.literalChars

/-- What is read as a value of a type has that type. -/
theorem semanticType_of_read?
    {type : SemanticType}
    {raw : String}
    {value : DefaultValue}
    (h : read? type raw = some value) :
    value.semanticType = type := by
  cases type <;>
    simp only [read?, Option.some.injEq, Option.map_eq_some_iff] at h
  case string => subst h; rfl
  all_goals
    obtain ⟨_, _, rfl⟩ := h
    rfl

end DefaultValue

/-- A text between quotes, as a literal of generated code. -/
def quoteString (text : String) : String :=
  String.ofList (Text.quote text.toList)

end PreferenceSchema
