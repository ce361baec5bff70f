import PreferenceSchema.GenerationPlan
import PreferenceSchema.Json

/-!
# Serialized plans and options

The JSON form of a generation plan, and of the options of a pass.  An
alternative without content is its name, one with content an object of one
entry; the positions of the keys are left out, since the key fields determine
them.
-/

namespace PreferenceSchema

open Number

/-- The JSON form of a semantic type. -/
def SemanticType.toJson (type : SemanticType) : Json :=
  .string type.name

/-- The JSON form of a floating-point value: the number itself. -/
def Number.BinaryFloat.toJson
    {format : BinaryFormat}
    (x : BinaryFloat format) : Json :=
  .number x.negative (format.exactDecimal x.magnitude).normalize

/-- The JSON form of a default. -/
def DefaultValue.toJson (value : DefaultValue) : Json :=
  .tagged value.semanticType.name <|
    match value with
    | .string text => .string text
    | .integer n => .integer n.toInt
    | .long n => .integer n.toInt
    | .float x => x.toJson
    | .double x => x.toJson
    | .boolean b => .boolean b

/-- The JSON form of a key field. -/
def KeyField.toJson (field : KeyField) : Json :=
  .object [("field_name", .string field.fieldName),
    ("key_name", .string field.keyName),
    ("semantic_type", field.type.toJson),
    ("default_value", field.default.toJson)]

/-- The JSON form of a custom accessor. -/
def AccessorFunction.toJson (function : AccessorFunction) : Json :=
  .object
    [("name", .string function.name),
      ("parameter_name", .string function.parameterName),
      ("value_type", function.valueType.toJson)]

/-- The JSON form of the custom accessors of a role. -/
def overridesToJson (functions : NameMap AccessorFunction) : Json :=
  .object (functions.entries.map fun (key, function) => (key, function.toJson))

/-- The JSON form of an entity. -/
def EntitySchema.toJson (schema : EntitySchema) : Json :=
  .object [("package_name", .optional schema.package),
    ("source_class_name", .string schema.className),
    ("storage_name", .string schema.storageName),
    ("key_fields", .array (schema.keyFields.map KeyField.toJson)),
    ("setter_overrides", overridesToJson schema.overrides.setters),
    ("getter_overrides", overridesToJson schema.overrides.getters)]

/-- The JSON form of a kind of accessor. -/
def AccessorKind.toJson : AccessorKind → Json
  | .getter => .string "Getter"
  | .setter => .string "Setter"
  | .contains => .string "Contains"
  | .remove => .string "Remove"

/-- The JSON form of what an accessor returns. -/
def ReturnKind.toJson : ReturnKind → Json
  | .value type => .tagged "Value" type.toJson
  | .flag => .string "Boolean"
  | .nothing => .string "Void"

/-- The JSON form of a parameter. -/
def ParameterPlan.toJson (parameter : ParameterPlan) : Json :=
  .object [("name", .string parameter.name), ("ty", parameter.type.toJson)]

/-- The JSON form of a storage call. -/
def StorageCall.toJson : StorageCall → Json
  | .read method key default wrapper =>
    .tagged "Read" (.object [("method", .string method), ("key", .string key),
      ("default", .string default), ("wrapper", .optional wrapper)])
  | .write method key argument wrapper =>
    .tagged "Write" (.object [("method", .string method), ("key", .string key),
      ("argument", .string argument), ("wrapper", .optional wrapper)])
  | .contains key => .tagged "Contains" (.object [("key", .string key)])
  | .remove key => .tagged "Remove" (.object [("key", .string key)])

/-- The JSON form of a generated method. -/
def AccessorPlan.toJson (plan : AccessorPlan) : Json :=
  .object [("kind", plan.kind.toJson), ("method_name", .string plan.methodName),
    ("parameter", (plan.parameter.map ParameterPlan.toJson).getD .null),
    ("returns", plan.returns.toJson), ("call", plan.call.toJson),
    ("handle", .string plan.handle)]

/-- The JSON form of the methods of a key. -/
def AccessorSet.toJson (set : AccessorSet) : Json :=
  .object [("key_name", .string set.keyName), ("getter", set.getter.toJson),
    ("setter", set.setter.toJson), ("contains", set.contains.toJson),
    ("remove", set.remove.toJson)]

/-- The JSON form of an entity with its methods. -/
def EntityPlan.toJson (plan : EntityPlan) : Json :=
  .object [("schema", plan.schema.toJson),
    ("accessors", .array (plan.accessors.map AccessorSet.toJson))]

/-- The JSON form of a component. -/
def ComponentSchema.toJson (component : ComponentSchema) : Json :=
  .object [("package_name", .optional component.package),
    ("source_class_name", .string component.className),
    ("entity_names", .strings component.entityNames.names),
    ("inject_targets", .strings component.injectTargets)]

/-- The JSON form of an injected field. -/
def InjectionBinding.toJson (binding : InjectionBinding) : Json :=
  .object [("field_name", .string binding.fieldName),
    ("declared_type", .string binding.declaredType),
    ("entity_name", .string binding.entityName)]

/-- The JSON form of an injector. -/
def InjectionPlan.toJson (plan : InjectionPlan) : Json :=
  .object [("target_package", .optional plan.package),
    ("target_class", .string plan.targetClass),
    ("component_class", .string plan.componentClass),
    ("bindings", .array (plan.bindings.map InjectionBinding.toJson))]

/-- The JSON form of a whole plan. -/
def GenerationPlan.toJson (plan : GenerationPlan) : Json :=
  .object [("entities", .array (plan.entities.map EntityPlan.toJson)),
    ("components", .array (plan.components.map ComponentSchema.toJson)),
    ("injectors", .array (plan.injectors.map InjectionPlan.toJson))]

namespace Configuration

/-- The JSON form of the options. -/
def toJson (configuration : Configuration) : Json :=
  .object [("storage_handle", .string configuration.storageHandle)]

/-- Reads the options.  An object may leave the handle out and may have other
entries; an array gives the options in order and may stop early, but not go
on. -/
def ofJson? : Json → Option Configuration
  | .object entries =>
    match entries.lookup "storage_handle" with
    | some (.string handle) => some ⟨handle⟩
    | some _ => none
    | none => some .standard
  | .array [] => some .standard
  | .array [.string handle] => some ⟨handle⟩
  | _ => none

end Configuration
end PreferenceSchema
