import PreferenceSchema.SemanticType

/-!
# Schema errors

The causes for which a declaration is refused, and the text that reports each to
the developer.
-/

namespace PreferenceSchema

/-- What is wrong with the signature of a custom accessor. -/
inductive SignatureFault where
  | parameterCount (count : Nat)
  | parameterType (parameter : String) (expected : SemanticType)
  | returnType (expected : SemanticType)
  | name
deriving DecidableEq, Repr

/-- The text of a signature fault. -/
def SignatureFault.message : SignatureFault → String
  | .parameterCount count => "expected exactly one parameter, found " ++
    toString count
  | .parameterType parameter expected =>
    "parameter '" ++ parameter ++ "' type should be " ++ expected.primitiveName
  | .returnType expected => "return type should be " ++ expected.primitiveName
  | .name => "name should start with 'get' or 'put'"

/-- Why a declaration, or a set of declarations, is refused. -/
inductive SchemaError where
  /-- The type of a field is none of the semantic types. -/
  | unsupportedType (className field typeName : String)
  /-- The initializer of a field is no value of its type. -/
  | invalidDefault (className key : String) (type : SemanticType) (raw : String)
  /-- The storage name is blank. -/
  | missingName (className : String)
  /-- Two fields have one key; `owner` is the earlier one. -/
  | duplicateKey (className key owner : String) (ownerType : SemanticType)
  /-- A member has the name of a generated accessor. -/
  | reservedName (className member key : String)
  /-- A custom accessor has the wrong shape. -/
  | invalidSignature (className function : String) (fault : SignatureFault)
  /-- A custom accessor names a key that the entity does not have. -/
  | unknownKey (className function key : String)
  /-- The type of an injected field is no storage class of the component. -/
  | unresolvedInjection (component target field typeName : String)
  /-- Two entities have one storage name. -/
  | duplicateStorage (name first second : String)
  /-- A component injects into a class that was not declared. -/
  | missingTarget (component target : String)
deriving DecidableEq, Repr

/-- The text of a schema error. -/
def SchemaError.message : SchemaError → String
  | .unsupportedType className field typeName =>
    "field '" ++ field ++ "' in '" ++ className ++ "' has unsupported type '" ++
      typeName ++ "'"
  | .invalidDefault className key type raw =>
    "default value '" ++ raw ++ "' of key '" ++ key ++ "' in '" ++ className ++
      "' is not a valid " ++ type.name
  | .missingName className =>
    "preference entity '" ++ className ++ "' must specify a non-empty name"
  | .duplicateKey className key owner ownerType =>
    "'" ++ key ++ "' key is already used in '" ++ className ++ "' by '" ++
      owner ++ "' of type " ++ ownerType.name
  | .reservedName className member key =>
    "cannot use member name '" ++ member ++ "' in '" ++ className ++
      "', it collides with key '" ++ key ++ "'"
  | .invalidSignature className function fault =>
    "custom accessor '" ++ function ++ "' in '" ++ className ++
      "' is invalid: " ++ fault.message
  | .unknownKey className function key =>
    "custom accessor '" ++ function ++ "' in '" ++ className ++
      "' references unknown key '" ++ key ++ "'"
  | .unresolvedInjection component target field typeName =>
    "'" ++ typeName ++ "' type can not be injected into '" ++ field ++
      "' of '" ++ target ++ "' by component '" ++ component ++ "'"
  | .duplicateStorage name first second =>
    "preference name '" ++ name ++ "' is declared by both '" ++ first ++
      "' and '" ++ second ++ "'"
  | .missingTarget component target =>
    "component '" ++ component ++ "' injects into '" ++ target ++
      "', which was not declared"

end PreferenceSchema
