import PreferenceSchema.Declaration
import PreferenceSchema.Naming
import PreferenceSchema.NameMap
import PreferenceSchema.SchemaError
import PreferenceSchema.Text.Case
import PreferenceSchema.Traced

/-!
# Key fields

One preference of an entity: the field that declares it, the key it is kept
under, its type and its default.  A table of key fields is searched by key.
-/

namespace PreferenceSchema

/-- A resolved preference. -/
structure KeyField where
  fieldName : String
  keyName : String
  type : SemanticType
  default : DefaultValue
deriving DecidableEq

namespace KeyField

/-- The key that a field declares: the trimmed name of its first key annotation,
unless that is blank, and else the name of the field. -/
def keyNameOf (member : Member) : String :=
  match (member.annotationNamed? Naming.keyMark).bind (·.get? "name") with
  | some name =>
    match Text.trim name.toList with
    | [] => member.name
    | trimmed => String.ofList trimmed
  | none => member.name

/-- Whether a literal of some kind may be the default of a type: text for
strings and nothing else for strings; a kind that is not known may always. -/
def kindFits (type : SemanticType) : Option LiteralKind → Bool
  | some .text => type = .string
  | some _ => type ≠ .string
  | none => true

/-- The default of a field of the given type and key. -/
def defaultOf
    (className : String)
    (member : Member)
    (type : SemanticType)
    (key : String) : Except SchemaError DefaultValue :=
  match member.initializer with
  | none => .ok (.zero type)
  | some raw =>
    match (if kindFits type member.initializerKind then
      DefaultValue.read? type raw else none) with
    | some value => .ok value
    | none => .error (.invalidDefault className key type raw)

/-- The preference that a field of a class declares. -/
def ofMember
    (className : String)
    (member : Member) : Except SchemaError KeyField :=
  match SemanticType.resolve? member.typeName with
  | none => .error (.unsupportedType className member.name member.typeName)
  | some type =>
    let key := keyNameOf member
    (defaultOf className member type key).map fun value =>
      ⟨member.name, key, type, value⟩

/-- The event that reports a resolved preference. -/
def event
    (className : String)
    (field : KeyField) : Event :=
  .resolvedKey className field.keyName field.type field.default

/-- Resolves the preference that a field of a class declares. -/
def resolve
    (className : String)
    (member : Member) : Traced SchemaError KeyField := do
  let field ← Traced.ofExcept (ofMember className member)
  Traced.report [event className field]
  return field

/-- The parameter of the setter: the key in lower case. -/
def parameterName (field : KeyField) : String :=
  String.ofList (Text.lower field.keyName.toList)

end KeyField

/-- The key fields of an entity in declaration order, with the position of every
key. -/
structure KeyTable where
  fields : List KeyField
  index : NameMap Nat
deriving DecidableEq

namespace KeyTable

/-- The table without fields. -/
def empty : KeyTable :=
  ⟨[], .empty⟩

/-- The field of a key. -/
def find?
    (table : KeyTable)
    (key : String) : Option KeyField :=
  (table.index.get? key).bind fun position => table.fields[position]?

/-- Whether some field has the key. -/
def contains
    (table : KeyTable)
    (key : String) : Bool :=
  table.index.contains key

/-- The table with one more field at the end. -/
def insert
    (table : KeyTable)
    (field : KeyField) : KeyTable where
  fields := table.fields ++ [field]
  index := table.index.insert field.keyName table.fields.length

/-- Adds a field, unless its key is taken. -/
def add
    (className : String)
    (table : KeyTable)
    (field : KeyField) : Except SchemaError KeyTable :=
  match table.find? field.keyName with
  | some owner =>
    .error (.duplicateKey className field.keyName owner.fieldName owner.type)
  | none => .ok (table.insert field)

/-- Adds the preferences that fields of a class declare. -/
def addMembers
    (className : String)
    (table : KeyTable) : List Member → Traced SchemaError KeyTable
  | [] => pure table
  | member :: rest => do
    let field ← KeyField.resolve className member
    let table ← Traced.ofExcept (table.add className field)
    addMembers className table rest

end KeyTable
end PreferenceSchema
