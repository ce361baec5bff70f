import PreferenceSchema.EntitySchema

/-!
# Accessor plans

The four methods that are generated for a key: what each is called, takes and
returns, and the statement that is its body.
-/

namespace PreferenceSchema

/-- What an accessor does. -/
inductive AccessorKind where
  | getter
  | setter
  | contains
  | remove
deriving DecidableEq, Repr

namespace AccessorKind

/-- All kinds of accessors, in the order in which they are generated. -/
def all : List AccessorKind :=
  [.getter, .setter, .contains, .remove]

/-- The start of the name of the method. -/
def start : AccessorKind → String
  | .getter => "get"
  | .setter => "put"
  | .contains => "contains"
  | .remove => "remove"

end AccessorKind

/-- What an accessor returns. -/
inductive ReturnKind where
  | value (type : SemanticType)
  | flag
  | nothing
deriving DecidableEq, Repr

/-- The parameter of an accessor. -/
structure ParameterPlan where
  name : String
  type : SemanticType
deriving DecidableEq, Repr

/-- The use of the storage handle in the body of an accessor. -/
inductive StorageCall where
  /-- Reads a key, with a default literal, and hands the value to the
  wrapper. -/
  | read (method key default : String) (wrapper : Option String)
  /-- Writes an argument, as the wrapper returns it, under a key. -/
  | write (method key argument : String) (wrapper : Option String)
  | contains (key : String)
  | remove (key : String)
deriving DecidableEq, Repr

namespace StorageCall

/-- An expression, handed to a function where there is one. -/
def wrapped
    (wrapper : Option String)
    (expression : String) : String :=
  match wrapper with
  | some function => function ++ "(" ++ expression ++ ")"
  | none => expression

/-- The statement that makes the call on a handle, without a semicolon. -/
def statement (handle : String) : StorageCall → String
  | .read method key default wrapper =>
    "return " ++ wrapped wrapper
      (handle ++ "." ++ method ++ "(" ++ quoteString key ++ ", " ++
        default ++ ")")
  | .write method key argument wrapper =>
    handle ++ ".edit()." ++ method ++ "(" ++ quoteString key ++ ", " ++
      wrapped wrapper argument ++ ").apply()"
  | .contains key => "return " ++ handle ++ ".contains(" ++
    quoteString key ++ ")"
  | .remove key => handle ++ ".edit().remove(" ++ quoteString key ++ ").apply()"

end StorageCall

/-- One generated method. -/
structure AccessorPlan where
  kind : AccessorKind
  methodName : String
  parameter : Option ParameterPlan
  returns : ReturnKind
  call : StorageCall
  handle : String
deriving DecidableEq, Repr

/-- The body of a generated method. -/
def AccessorPlan.statement (plan : AccessorPlan) : String :=
  plan.call.statement plan.handle

/-- The four methods of a key. -/
structure AccessorSet where
  keyName : String
  getter : AccessorPlan
  setter : AccessorPlan
  contains : AccessorPlan
  remove : AccessorPlan
deriving DecidableEq, Repr

namespace AccessorSet

/-- The methods in the order in which they are generated. -/
def plans (set : AccessorSet) : List AccessorPlan :=
  [set.getter, set.setter, set.contains, set.remove]

/-- The methods of a key on a storage handle, with the custom accessors
given. -/
def planWith
    (handle : String)
    (field : KeyField)
    (getter setter : Option AccessorFunction) : AccessorSet :=
  let key := field.keyName
  let suffix := field.type.storageSuffix
  let parameter := field.parameterName
  let method (kind : AccessorKind) (parameter : Option ParameterPlan)
      (returns : ReturnKind)
      (call : StorageCall) : AccessorPlan :=
    ⟨kind, kind.start ++ key, parameter, returns, call, handle⟩
  { keyName := key
    getter := method .getter none (.value field.type)
      (.read ("get" ++ suffix) key field.default.literal (getter.map (·.name)))
    setter := method .setter (some ⟨parameter, field.type⟩) .nothing
      (.write ("put" ++ suffix) key parameter (setter.map (·.name)))
    contains := method .contains none .flag (.contains key)
    remove := method .remove none .nothing (.remove key) }

/-- The methods of a key without custom accessors. -/
def plan
    (handle : String)
    (field : KeyField) : AccessorSet :=
  planWith handle field none none

end AccessorSet

/-- The methods of all keys of an entity, with its custom accessors. -/
def EntitySchema.planAccessors
    (handle : String)
    (schema : EntitySchema) : List AccessorSet :=
  schema.keyFields.map fun field =>
    .planWith handle field (schema.getter? field.keyName)
      (schema.setter? field.keyName)

end PreferenceSchema
