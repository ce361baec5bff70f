import PreferenceSchema.AccessorPlan
import PreferenceSchema.InjectionPlan

/-!
# Generation plans

A pass over all declarations: it builds the entities, then the components with
their injectors, and stops at the first error.
-/

namespace PreferenceSchema

/-- The options of a pass. -/
structure Configuration where
  storageHandle : String
deriving DecidableEq, Repr

/-- The options that hold unless others are given. -/
def Configuration.standard : Configuration :=
  ⟨Naming.defaultHandle⟩

/-- An entity with the methods of its keys. -/
structure EntityPlan where
  schema : EntitySchema
  accessors : List AccessorSet
deriving DecidableEq

/-- The result of a pass. -/
structure GenerationPlan where
  entities : List EntityPlan
  components : List ComponentSchema
  injectors : List InjectionPlan
deriving DecidableEq

namespace GenerationPlan

/-- The plan of a pass over nothing. -/
def empty : GenerationPlan :=
  ⟨[], [], []⟩

/-- The entity with a storage name. -/
def entity?
    (plan : GenerationPlan)
    (storage : String) : Option EntityPlan :=
  plan.entities.find? fun entity => entity.schema.storageName == storage

/-- Builds entities, given the classes that own the storage names so far; the
owners of all storage names and the plans. -/
def buildEntities
    (handle : String)
    (owners : NameMap String) :
    List ClassDeclaration →
      Traced SchemaError (NameMap String × List EntityPlan)
  | [] => pure (owners, [])
  | decl :: rest => do
    let schema ← EntitySchema.build decl
    match owners.get? schema.storageName with
    | some first =>
      .fail (.duplicateStorage schema.storageName first schema.className)
    | none =>
      let owners := owners.insert schema.storageName schema.className
      let (owners, plans) ← buildEntities handle owners rest
      return (owners, ⟨schema, schema.planAccessors handle⟩ :: plans)

/-- The entities that a component lists and that nobody owns, each as an
event. -/
def unmatchedEvents
    (owners : NameMap String)
    (component : ComponentSchema) : List Event :=
  (component.entityNames.names.filter fun name => !owners.contains name).map
      fun name =>
    .unmatchedEntity component.className name

/-- The first target whose name is the simple name of a type descriptor. -/
def targetOf?
    (targets : List ClassDeclaration)
    (descriptor : String) : Option ClassDeclaration :=
  targets.find? fun target => target.name == simpleTypeName descriptor

/-- Builds the injector for one type that a component injects into. -/
def buildInjector
    (component : ComponentSchema)
    (targets : List ClassDeclaration)
    (descriptor : String) : Traced SchemaError InjectionPlan :=
  match targetOf? targets descriptor with
  | some target => InjectionPlan.build component target
  | none => .fail (.missingTarget component.className descriptor)

/-- Builds a component and its injectors. -/
def buildComponent
    (owners : NameMap String)
    (targets : List ClassDeclaration)
    (decl : ClassDeclaration) :
      Traced SchemaError (ComponentSchema × List InjectionPlan) := do
  let component ← ComponentSchema.build decl
  Traced.report (unmatchedEvents owners component)
  let injectors ← component.injectTargets.mapM (buildInjector component targets)
  return (component, injectors)

/-- Runs a pass over entities, components and injection targets. -/
def build
    (configuration : Configuration)
    (entities components targets : List ClassDeclaration) :
    Traced SchemaError GenerationPlan := do
  let (owners, plans) ← buildEntities configuration.storageHandle .empty
    entities
  let groups ← components.mapM (buildComponent owners targets)
  let injectors := groups.flatMap Prod.snd
  Traced.report [.completedPass plans.length groups.length injectors.length]
  return ⟨plans, groups.map Prod.fst, injectors⟩

end GenerationPlan
end PreferenceSchema
