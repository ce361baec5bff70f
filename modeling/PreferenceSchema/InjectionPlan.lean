import PreferenceSchema.ComponentSchema

/-!
# Injection plans

What the generated injector of a class does: it assigns every marked field from
the component.
-/

namespace PreferenceSchema

/-- One injected field. -/
structure InjectionBinding where
  fieldName : String
  declaredType : String
  /-- Storage name of the entity, and name of the component's accessor. -/
  entityName : String
deriving DecidableEq, Repr

/-- The injector of a target class. -/
structure InjectionPlan where
  package : Option String
  targetClass : String
  /-- Generated class of the component. -/
  componentClass : String
  bindings : List InjectionBinding
deriving DecidableEq, Repr

namespace InjectionPlan

/-- The fields of a class that are injected, in declaration order. -/
def injectedFields (target : ClassDeclaration) : List Member :=
  target.fields.filter fun field =>
    (field.annotationNamed? Naming.injectMark).isSome

/-- The binding of an injected field: its type must be the storage class of an
entity of the component. -/
def bind
    (component : ComponentSchema)
    (target : ClassDeclaration)
    (field : Member) : Except SchemaError InjectionBinding :=
  match (Naming.storedEntity? field.typeName).filter component.containsEntity
    with
  | some entity => .ok ⟨field.name, field.typeName, entity⟩
  | none =>
    .error (.unresolvedInjection component.className target.name field.name
      field.typeName)

/-- Builds the injector of a target class against a component. -/
def build
    (component : ComponentSchema)
    (target : ClassDeclaration) : Traced SchemaError InjectionPlan := do
  let bindings ← Traced.ofExcept
    ((injectedFields target).mapM (bind component target))
  Traced.report
    [.builtInjection target.name component.className bindings.length]
  return {
    package := target.package
    targetClass := target.name
    componentClass := component.generatedClassName
    bindings := bindings }

/-- The name of the generated injector class. -/
def injectorClassName (plan : InjectionPlan) : String :=
  Naming.injectorClassName plan.targetClass

/-- The assignment of one field. -/
def statement
    (plan : InjectionPlan)
    (binding : InjectionBinding) : String :=
  Naming.injectObject ++ "." ++ binding.fieldName ++ " = " ++
    plan.componentClass ++ ".getInstance()." ++ binding.entityName ++ "()"

/-- The assignments of all fields. -/
def statements (plan : InjectionPlan) : List String :=
  plan.bindings.map plan.statement

end InjectionPlan
end PreferenceSchema
