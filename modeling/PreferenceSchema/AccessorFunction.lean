import PreferenceSchema.KeyField

/-!
# Custom accessors

A public method marked as the accessor of a key takes the place of the value
that the generated getter reads or the setter writes.  Its name tells which of
the two.
-/

namespace PreferenceSchema

/-- Which generated accessor a custom one wraps. -/
inductive AccessorRole where
  | getter
  | setter
deriving DecidableEq, Repr

/-- The role that the name of a function shows. -/
def AccessorRole.ofName? (name : String) : Option AccessorRole :=
  if "put".toList.isPrefixOf name.toList then some .setter
  else if "get".toList.isPrefixOf name.toList then some .getter
  else none

/-- A custom accessor of a key. -/
structure AccessorFunction where
  name : String
  parameterName : String
  /-- Type of the parameter and of the result. -/
  valueType : SemanticType
deriving DecidableEq, Repr

namespace AccessorFunction

/-- The key that a marked method refers to; the empty text where it names
none. -/
def keyOf (member : Member) : String :=
  ((member.annotationNamed? Naming.functionMark).bind (·.get? "keyname")).getD
    ""

/-- The custom accessor that a method with the type of its key is, and its
role. -/
def ofSignature
    (member : Member)
    (type : SemanticType) :
    Except SignatureFault (AccessorRole × AccessorFunction) :=
  match member.parameters with
  | [parameter] =>
    if SemanticType.resolve? parameter.typeName ≠ some type then
      .error (.parameterType parameter.name type)
    else if SemanticType.resolve? member.typeName ≠ some type then
      .error (.returnType type)
    else
      match AccessorRole.ofName? member.name with
      | some role => .ok (role, ⟨member.name, parameter.name, type⟩)
      | none => .error .name
  | parameters => .error (.parameterCount parameters.length)

/-- The key that a marked method overrides, its role and the custom accessor. -/
def resolve
    (className : String)
    (keys : KeyTable)
    (member : Member) :
    Except SchemaError (String × AccessorRole × AccessorFunction) :=
  let key := keyOf member
  match keys.find? key with
  | none => .error (.unknownKey className member.name key)
  | some field =>
    match ofSignature member field.type with
    | .error fault => .error (.invalidSignature className member.name fault)
    | .ok (role, function) => .ok (field.keyName, role, function)

end AccessorFunction

/-- The custom accessors of an entity by key. -/
structure Overrides where
  setters : NameMap AccessorFunction
  getters : NameMap AccessorFunction
deriving DecidableEq

namespace Overrides

/-- No custom accessors. -/
def empty : Overrides :=
  ⟨.empty, .empty⟩

/-- The custom accessors of a role. -/
def ofRole (overrides : Overrides) : AccessorRole → NameMap AccessorFunction
  | .getter => overrides.getters
  | .setter => overrides.setters

/-- Sets the custom accessor of a key in a role. -/
def insert
    (overrides : Overrides)
    (key : String)
    (role : AccessorRole)
    (function : AccessorFunction) : Overrides :=
  match role with
  | .getter =>
    { overrides with getters := overrides.getters.insert key function }
  | .setter =>
    { overrides with setters := overrides.setters.insert key function }

/-- Takes one method into account: a marked method that is not public is passed
over, one that is public replaces any earlier accessor of its key and role. -/
def addMember
    (className : String)
    (keys : KeyTable)
    (overrides : Overrides)
    (member : Member) : Traced SchemaError Overrides :=
  if (member.annotationNamed? Naming.functionMark).isNone then pure overrides
  else if !member.isPublic then do
    Traced.report [.ignoredAccessor className member.name]
    return overrides
  else do
    let (key, role, function) ← Traced.ofExcept
      (AccessorFunction.resolve className keys member)
    match (overrides.ofRole role).get? key with
    | some previous =>
      Traced.report [.replacedAccessor className member.name previous.name]
    | none => pure ()
    return overrides.insert key role function

/-- Takes methods into account, one after the other. -/
def addMembers
    (className : String)
    (keys : KeyTable)
    (overrides : Overrides) : List Member → Traced SchemaError Overrides
  | [] => pure overrides
  | member :: rest => do
    let overrides ← overrides.addMember className keys member
    addMembers className keys overrides rest

end Overrides
end PreferenceSchema
