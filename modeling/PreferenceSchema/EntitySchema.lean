import PreferenceSchema.AccessorFunction
import PreferenceSchema.Text.Camel

/-!
# Entity schemas

The checked form of a class that declares preferences: its storage name, its
keys and its custom accessors.  A class is refused for the first fault in the
order storage name, fields, reserved names, custom accessors.
-/

namespace PreferenceSchema

/-- A name in upper camel case. -/
def upperCamel (name : String) : String :=
  String.ofList (Text.upperCamel name.toList)

/-- A checked entity. -/
structure EntitySchema where
  package : Option String
  className : String
  /-- Name of the generated storage. -/
  storageName : String
  keys : KeyTable
  overrides : Overrides
deriving DecidableEq

namespace EntitySchema

/-- The key fields, in declaration order. -/
def keyFields (schema : EntitySchema) : List KeyField :=
  schema.keys.fields

/-- The names of the keys, in declaration order. -/
def keyNames (schema : EntitySchema) : List String :=
  schema.keyFields.map KeyField.keyName

/-- The field of a key. -/
def keyField?
    (schema : EntitySchema)
    (key : String) : Option KeyField :=
  schema.keys.find? key

/-- The custom setter of a key. -/
def setter?
    (schema : EntitySchema)
    (key : String) : Option AccessorFunction :=
  schema.overrides.setters.get? key

/-- The custom getter of a key. -/
def getter?
    (schema : EntitySchema)
    (key : String) : Option AccessorFunction :=
  schema.overrides.getters.get? key

/-- The name of the generated storage class. -/
def generatedClassName (schema : EntitySchema) : String :=
  Naming.storageClassName schema.storageName

/-- The storage name that a class asks for: the name in its annotation unless
that is empty, and else its own name in upper camel case. -/
def requestedName (decl : ClassDeclaration) : String :=
  match (decl.annotationNamed? Naming.entityMark).bind (·.get? "name") with
  | some name => if name = "" then upperCamel decl.name else name
  | none => upperCamel decl.name

/-- The storage name of a class, which must not be blank. -/
def storageNameOf (decl : ClassDeclaration) : Except SchemaError String :=
  let name := requestedName decl
  if Text.trim name.toList = [] then .error (.missingName decl.name)
  else .ok name

/-- The starts of the names of generated accessors, in the order in which
collisions are sought. -/
def reservedStarts : List String :=
  ["put", "get", "contains", "remove"]

/-- The key whose generated accessor has the given name. -/
def reservedKey?
    (keys : KeyTable)
    (name : String) : Option String :=
  (reservedStarts.filterMap fun start =>
    (start.toList.isPrefixOf? name.toList).map String.ofList).find?
      keys.contains

/-- Checks that no member has the name of a generated accessor. -/
def checkReserved
    (className : String)
    (keys : KeyTable) : List Member → Except SchemaError Unit
  | [] => .ok ()
  | member :: rest =>
    match reservedKey? keys member.name with
    | some key => .error (.reservedName className member.name key)
    | none => checkReserved className keys rest

/-- Builds the schema of a class. -/
def build (decl : ClassDeclaration) : Traced SchemaError EntitySchema := do
  let storage ← Traced.ofExcept (storageNameOf decl)
  let keys ← KeyTable.addMembers decl.name .empty decl.fields
  Traced.ofExcept (checkReserved decl.name keys decl.members)
  let overrides ← Overrides.addMembers decl.name keys .empty decl.methods
  Traced.report [.builtEntity decl.name storage keys.fields.length
    overrides.setters.size overrides.getters.size]
  return {
    package := decl.package
    className := decl.name
    storageName := storage
    keys := keys
    overrides := overrides }

end EntitySchema
end PreferenceSchema
