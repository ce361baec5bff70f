import PreferenceSchema.Proofs.Pass

/-!
# References to entities

The injectors of a plan refer to entities by their storage names.  A pass only
checks that the component lists such a name, so a plan may refer to an entity
that it does not hold: it does whenever an injected field asks for a listed name
under which no class stores preferences.
-/

namespace PreferenceSchema

open Traversal

namespace InjectionPlan

/-- The bindings of an injector are those of the injected fields. -/
theorem mem_bindings_iff
    {component : ComponentSchema}
    {target : ClassDeclaration}
    {plan : InjectionPlan}
    (built : (build component target).outcome = .ok plan)
    {binding : InjectionBinding} :
    binding ∈ plan.bindings ↔
      ∃ field ∈ injectedFields target, bind component target field =
        .ok binding := by
  obtain ⟨bindings, yields, rfl⟩ := build_eq_ok_iff.mp built
  exact yields.mem_iff

/-- An injector has a binding for every injected field. -/
theorem exists_binding_of_mem
    {component : ComponentSchema}
    {target : ClassDeclaration}
    {plan : InjectionPlan}
    (built : (build component target).outcome = .ok plan)
    {field : Member}
    (present : field ∈ injectedFields target) :
    ∃ binding ∈ plan.bindings, bind component target field = .ok binding := by
  obtain ⟨bindings, yields, -⟩ := build_eq_ok_iff.mp built
  obtain ⟨binding, bound⟩ :=
    exists_yields_iff.mp ⟨bindings, yields⟩ field present
  exact ⟨binding, (mem_bindings_iff built).mpr ⟨field, present, bound⟩, bound⟩

end InjectionPlan

namespace GenerationPlan

/-- A class stores preferences under a name. -/
def Stores
    (decl : ClassDeclaration)
    (name : String) : Prop :=
  ∃ schema, (EntitySchema.build decl).outcome = .ok schema ∧
    schema.storageName = name

/-- An injected field of a class that a component injects into has as its type
the storage class of a name. -/
def AsksFor
    (targets : List ClassDeclaration)
    (component : ComponentSchema)
    (name : String) : Prop :=
  ∃ descriptor ∈ component.injectTargets, ∃ target,
    StandsFor targets descriptor target ∧
    ∃ field ∈ InjectionPlan.injectedFields target,
      Naming.storedEntity? field.typeName = some name

/-- Every injector of a plan refers to entities of the plan only. -/
def Resolved (plan : GenerationPlan) : Prop :=
  ∀ injector ∈ plan.injectors, ∀ binding ∈ injector.bindings,
    ∃ entity ∈ plan.entities, entity.schema.storageName = binding.entityName

/-- Every injector of a plan belongs to a component that lists the names it
refers to. -/
def Listed (plan : GenerationPlan) : Prop :=
  ∀ injector ∈ plan.injectors, ∃ component ∈ plan.components,
    injector.componentClass = component.generatedClassName ∧
    ∀ binding ∈ injector.bindings,
    component.containsEntity binding.entityName = true

variable {handle : String} {entities components targets : List ClassDeclaration}
  {plan : GenerationPlan}

/-- The names of the schemas of classes are those under which the classes store
preferences. -/
theorem exists_storageName_iff
    {schemas : List EntitySchema}
    (buildsTo : BuildsTo entities schemas)
    {name : String} :
    (∃ schema ∈ schemas, schema.storageName = name) ↔
      ∃ decl ∈ entities, Stores decl name := by
  simp only [buildsTo.yields.mem_iff, Stores]
  constructor
  · rintro ⟨schema, ⟨decl, present, made⟩, named⟩
    exact ⟨decl, present, schema, made, named⟩
  · rintro ⟨decl, present, schema, made, named⟩
    exact ⟨schema, ⟨decl, present, made⟩, named⟩

/-- A plan has an entity of a name exactly when a class stores preferences under
it. -/
theorem IsPlan.exists_entity_iff
    (isPlan : IsPlan handle entities components targets plan)
    {name : String} :
    (∃ entity ∈ plan.entities, entity.schema.storageName = name) ↔
      ∃ decl ∈ entities, Stores decl name := by
  obtain ⟨schemas, buildsTo, equal⟩ :=
    exists_buildsTo_entityOf_iff.mpr
      ⟨isPlan.entitiesBuilt, isPlan.namesDistinct⟩
  rw [equal, ← exists_storageName_iff buildsTo]
  simp [entityOf]

theorem IsPlan.yields_injectorsOf
    (isPlan : IsPlan handle entities components targets plan) :
    ∃ groups, Yields (injectorsOf targets) plan.components groups ∧
      plan.injectors = groups.flatten := by
  obtain ⟨groups, injectorsBuilt, equal⟩ := isPlan.injectorsBuilt
  exact ⟨groups,
    injectorsBuilt.imp fun _ _ made => injectorsOf_eq_ok_iff.mpr made, equal⟩

/-- The components of a plan have all their injectors. -/
theorem IsPlan.injectsAll
    (isPlan : IsPlan handle entities components targets plan)
    {component : ComponentSchema}
    (present : component ∈ plan.components) : InjectsAll targets component := by
  obtain ⟨groups, yields, -⟩ := isPlan.yields_injectorsOf
  exact exists_injectorsOf_eq_ok_iff.mp
    (exists_yields_iff.mp ⟨groups, yields⟩ component present)

/-- The injectors of a plan are those of its components. -/
theorem IsPlan.mem_injectors_iff
    (isPlan : IsPlan handle entities components targets plan)
    {injector : InjectionPlan} :
    injector ∈ plan.injectors ↔
      ∃ component ∈ plan.components, ∃ descriptor ∈ component.injectTargets,
        Injects targets component descriptor injector := by
  obtain ⟨groups, yields, equal⟩ := isPlan.yields_injectorsOf
  have memGroup {component : ComponentSchema} {group : List InjectionPlan}
      (made : injectorsOf targets component = .ok group) :
      injector ∈ group ↔ ∃ descriptor ∈ component.injectTargets,
        Injects targets component descriptor injector := by
    rw [(mapM_eq_ok_iff.mp made).mem_iff]
    simp only [buildInjector_eq_ok_iff]
  rw [equal, List.mem_flatten]
  constructor
  · rintro ⟨group, groupPresent, present⟩
    obtain ⟨component, componentPresent, made⟩ := yields.mem_iff.mp groupPresent
    exact ⟨component, componentPresent, (memGroup made).mp present⟩
  · rintro ⟨component, componentPresent, injected⟩
    obtain ⟨group, made⟩ :=
      exists_yields_iff.mp ⟨groups, yields⟩ component componentPresent
    exact ⟨group, yields.mem_iff.mpr ⟨component, componentPresent, made⟩,
      (memGroup made).mpr injected⟩

/-- The injectors of a plan refer to the names that are asked for. -/
theorem IsPlan.exists_binding_iff
    (isPlan : IsPlan handle entities components targets plan)
    {name : String} :
    (∃ injector ∈ plan.injectors, ∃ binding ∈ injector.bindings,
      binding.entityName = name) ↔
      ∃ component ∈ plan.components, AsksFor targets component name := by
  constructor
  · rintro ⟨injector, injectorPresent, binding, present, rfl⟩
    obtain ⟨component, componentPresent, descriptor, isDescriptor, target,
        stands, built⟩ :=
      isPlan.mem_injectors_iff.mp injectorPresent
    obtain ⟨field, fieldPresent, bound⟩ :=
      (InjectionPlan.mem_bindings_iff built).mp present
    obtain ⟨entity, stored, -, rfl⟩ := InjectionPlan.bind_eq_ok_iff.mp bound
    exact ⟨component, componentPresent, descriptor, isDescriptor, target,
      stands, field, fieldPresent, stored⟩
  · rintro ⟨component, componentPresent, descriptor, isDescriptor, target,
      stands, field,
      fieldPresent, stored⟩
    obtain ⟨injector, injected⟩ :=
      isPlan.injectsAll componentPresent descriptor isDescriptor
    have injectorPresent := isPlan.mem_injectors_iff.mpr
      ⟨component, componentPresent, descriptor, isDescriptor, injected⟩
    obtain ⟨other, otherStands, built⟩ := injected
    obtain rfl := stands.unique otherStands
    obtain ⟨binding, present, bound⟩ :=
      InjectionPlan.exists_binding_of_mem built fieldPresent
    obtain ⟨entity, otherStored, -, rfl⟩ :=
      InjectionPlan.bind_eq_ok_iff.mp bound
    rw [stored] at otherStored
    exact ⟨injector, injectorPresent, _, present,
      (Option.some.inj otherStored).symm⟩

theorem IsPlan.listed
    (isPlan : IsPlan handle entities components targets plan) :
    plan.Listed := by
  intro injector injectorPresent
  obtain ⟨component, componentPresent, descriptor, -, target, -, built⟩ :=
    isPlan.mem_injectors_iff.mp injectorPresent
  refine ⟨component, componentPresent, ?_, ?_⟩
  · obtain ⟨bindings, -, rfl⟩ := InjectionPlan.build_eq_ok_iff.mp built
    rfl
  · intro binding present
    obtain ⟨field, -, bound⟩ :=
      (InjectionPlan.mem_bindings_iff built).mp present
    obtain ⟨entity, -, listed, rfl⟩ := InjectionPlan.bind_eq_ok_iff.mp bound
    exact listed

/-- In any plan an injector refers to names that its component lists.  These are
names of entities of the plan exactly when each name that an injected field asks
for is one under which some class stores preferences. -/
theorem resolved_iff_of_build_eq_ok
    {configuration : Configuration}
    (accepted : (build configuration entities components targets).outcome =
      .ok plan) :
    plan.Listed ∧
      (plan.Resolved ↔
        ∀ decl ∈ components, ∀ name,
        AsksFor targets (ComponentSchema.ofDeclaration decl) name →
          ∃ entity ∈ entities, Stores entity name) := by
  have isPlan := build_eq_ok_iff.mp accepted
  have componentsEqual :=
    ComponentSchema.yields_build_iff.mp isPlan.componentsBuilt
  refine ⟨isPlan.listed, ?_⟩
  simp only [← isPlan.exists_entity_iff]
  rw [← List.forall_mem_map (P :=
    fun component => ∀ name, AsksFor targets component name →
    ∃ entity ∈ plan.entities, entity.schema.storageName = name),
    ← componentsEqual]
  constructor
  · intro resolved component componentPresent name asked
    obtain ⟨injector, injectorPresent, binding, present, rfl⟩ :=
      isPlan.exists_binding_iff.mpr ⟨component, componentPresent, asked⟩
    exact resolved injector injectorPresent binding present
  · intro stored injector injectorPresent binding present
    obtain ⟨component, componentPresent, asked⟩ :=
      isPlan.exists_binding_iff.mp
        ⟨injector, injectorPresent, binding, present, rfl⟩
    exact stored component componentPresent _ asked

/-- A component that lists one name and injects into `Screen`. -/
def componentOf (name : String) : ClassDeclaration where
  name := "AppComponent"
  package := none
  annotations := [⟨Naming.componentMark, [("entities", name)]⟩]
  members := [(Member.method "inject" "void").withParameter "target" "Screen"]

/-- A screen with one injected field. -/
def screenOf (typeName : String) : ClassDeclaration where
  name := "Screen"
  package := none
  annotations := []
  members := [(Member.field "store" typeName).annotated ⟨Naming.injectMark, []⟩]

/-- An entity without keys. -/
def settings : ClassDeclaration where
  name := "Settings"
  package := none
  annotations := []
  members := []

/-- The plan of the entity, a component that lists it and a screen that asks for
it. -/
def settingsPlan : GenerationPlan where
  entities := [⟨⟨none, "Settings", "Settings", .empty, .empty⟩, []⟩]
  components := [⟨none, "AppComponent", .ofList ["Settings"], ["Screen"]⟩]
  injectors := [⟨none, "Screen", "PreferenceComponent_AppComponent",
    [⟨"store", "Preference_Settings", "Settings"⟩]⟩]

theorem settings_resolved_iff :
    (build .standard [settings] [componentOf "Settings"]
        [screenOf "Preference_Settings"]).outcome = .ok settingsPlan ∧
      settingsPlan.Listed ∧
      (settingsPlan.Resolved ↔
        ∀ decl ∈ [componentOf "Settings"], ∀ name,
          AsksFor [screenOf "Preference_Settings"]
            (ComponentSchema.ofDeclaration decl) name →
            ∃ entity ∈ [settings], Stores entity name) := by
  have accepted : (build .standard [settings] [componentOf "Settings"]
      [screenOf "Preference_Settings"]).outcome = .ok settingsPlan := by
    decide +kernel
  exact ⟨accepted, resolved_iff_of_build_eq_ok accepted⟩

/-- A plan may refer to an entity that no class declares. -/
theorem not_forall_resolved :
    ¬∀ configuration entities components targets plan,
      (build configuration entities components targets).outcome = .ok plan →
        plan.Resolved := by
  intro allResolved
  have accepted : (build .standard [] [componentOf "Ghost"]
      [screenOf "Preference_Ghost"]).outcome =
        .ok
          { entities := []
            components :=
              [⟨none, "AppComponent", .ofList ["Ghost"], ["Screen"]⟩]
            injectors := [⟨none, "Screen", "PreferenceComponent_AppComponent",
              [⟨"store", "Preference_Ghost", "Ghost"⟩]⟩] } := by
    decide +kernel
  obtain ⟨entity, present, -⟩ :=
    allResolved _ _ _ _ _ accepted _ List.mem_cons_self _ List.mem_cons_self
  simp at present

end GenerationPlan
end PreferenceSchema
