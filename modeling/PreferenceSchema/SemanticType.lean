import PreferenceSchema.TypeName

/-!
# Semantic types

The six types that a preference may have, their names in generated code, and
their recognition from a type descriptor.
-/

namespace PreferenceSchema

/-- The type of the value kept under a key. -/
inductive SemanticType where
  | string
  | integer
  | long
  | float
  | double
  | boolean
deriving DecidableEq, Repr

namespace SemanticType

/-- All semantic types. -/
def all : List SemanticType :=
  [.string, .integer, .long, .float, .double, .boolean]

/-- The canonical name. -/
def name : SemanticType → String
  | .string => "String"
  | .integer => "Integer"
  | .long => "Long"
  | .float => "Float"
  | .double => "Double"
  | .boolean => "Boolean"

/-- The type name in generated signatures. -/
def primitiveName : SemanticType → String
  | .string => "String"
  | .integer => "int"
  | .long => "long"
  | .float => "float"
  | .double => "double"
  | .boolean => "boolean"

/-- The ending of the typed calls on the storage handle: the type name in upper
camel case. -/
def storageSuffix : SemanticType → String
  | .string => "String"
  | .integer => "Int"
  | .long => "Long"
  | .float => "Float"
  | .double => "Double"
  | .boolean => "Boolean"

/-- The simple names that stand for a type. -/
def spellings : SemanticType → List String
  | .string => ["String"]
  | .integer => ["int", "Integer", "i32"]
  | .long => ["long", "Long", "i64"]
  | .float => ["float", "Float", "f32"]
  | .double => ["double", "Double", "f64"]
  | .boolean => ["boolean", "Boolean", "bool"]

/-- The descriptors of a borrowed text, which is a string as well. -/
def borrowedText : List String :=
  ["&str", "&'staticstr"]

/-- The type with a given spelling. -/
def ofSpelling? (spelling : String) : Option SemanticType :=
  all.find? fun type => type.spellings.contains spelling

/-- The type that a descriptor stands for; blanks and qualification do not
matter. -/
def resolve? (descriptor : String) : Option SemanticType :=
  let compacted := String.ofList (Text.compact descriptor.toList)
  if borrowedText.contains compacted then some .string
  else ofSpelling? (simpleTypeName compacted)

/-- No spelling stands for two types. -/
theorem ofSpelling?_of_mem
    {type : SemanticType}
    {spelling : String}
    (h : spelling ∈ type.spellings) :
    ofSpelling? spelling = some type := by
  cases type <;> simp [spellings] at h <;> rcases h with rfl | rfl | rfl <;> rfl

end SemanticType
end PreferenceSchema
