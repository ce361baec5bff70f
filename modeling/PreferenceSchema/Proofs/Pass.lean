import PreferenceSchema.Proofs.Injection
import PreferenceSchema.Proofs.StorageNames

/-!
# Passes

When a pass over entities, components and targets has a plan, what the plan
holds then, and for which fault the pass fails otherwise.  The entities come
before the components; among the entities, the components and the descriptors of
a component the first fault in their order wins.
-/

namespace PreferenceSchema

open Traversal Collection

namespace ComponentSchema

/-- The construction of a component never fails. -/
@[simp] theorem outcome_build
    (decl : ClassDeclaration) :
    (build decl).outcome = .ok (ofDeclaration decl) := by
  rw [build, Traced.outcome_bind, Traced.outcome_report]
  rfl

/-- The components of classes are built one by one. -/
theorem yields_build_iff
    {decls : List ClassDeclaration}
    {components : List ComponentSchema} :
    Yields (fun decl => (build decl).outcome) decls components ↔
      components = decls.map ofDeclaration := by
  simp only [Yields, outcome_build, Except.ok.injEq]
  rw [← List.forall₂_map_left_iff, List.forall₂_eq_eq_eq, eq_comm]

end ComponentSchema

namespace GenerationPlan

/-- A component has an injector for every descriptor it injects into. -/
def InjectsAll
    (targets : List ClassDeclaration)
    (component : ComponentSchema) : Prop :=
  ∀ descriptor ∈ component.injectTargets,
    ∃ injector, Injects targets component descriptor injector

/-- What declarations need for a plan. -/
structure Plannable (entities components targets : List ClassDeclaration) :
    Prop where
  entitiesBuild : ∀ decl ∈ entities, ∃ schema,
    (EntitySchema.build decl).outcome = .ok schema
  namesDistinct : ∀ schemas,
    Yields (fun decl => (EntitySchema.build decl).outcome) entities schemas →
    (schemas.map EntitySchema.storageName).Nodup
  componentsInject : ∀ decl ∈ components, ∀ component,
    (ComponentSchema.build decl).outcome = .ok component →
      InjectsAll targets component

/-- The plan of declarations: entities and components one by one, and the
injectors component by component and descriptor by descriptor. -/
structure IsPlan
    (handle : String)
    (entities components targets : List ClassDeclaration)
    (plan : GenerationPlan) : Prop where
  entitiesBuilt : List.Forall₂
    (fun decl entity => (EntitySchema.build decl).outcome = .ok entity.schema ∧
      entity.accessors = entity.schema.planAccessors handle)
    entities plan.entities
  namesDistinct :
    (plan.entities.map fun entity => entity.schema.storageName).Nodup
  componentsBuilt : Yields (fun decl => (ComponentSchema.build decl).outcome)
    components
    plan.components
  injectorsBuilt : ∃ groups,
    List.Forall₂
      (fun component =>
        List.Forall₂ (Injects targets component) component.injectTargets)
      plan.components groups ∧
    plan.injectors = groups.flatten

/-- The first fault of a pass without a plan, as the error that reports it. -/
inductive FirstFault (entities components targets : List ClassDeclaration) :
  SchemaError → Prop
  | entity {before after : List ClassDeclaration} {decl : ClassDeclaration}
      {schemas : List EntitySchema} {error : SchemaError} :
      entities = before ++ decl :: after →
      BuildsTo before schemas →
      (EntitySchema.build decl).outcome = .error error →
      FirstFault entities components targets error
  | storage {before after : List ClassDeclaration} {decl : ClassDeclaration}
      {schemas : List EntitySchema} {owner schema : EntitySchema} :
      entities = before ++ decl :: after →
      BuildsTo before schemas →
      (EntitySchema.build decl).outcome = .ok schema →
      owner ∈ schemas →
      owner.storageName = schema.storageName →
      FirstFault entities components targets
        (.duplicateStorage schema.storageName owner.className schema.className)
  | injection {schemas : List EntitySchema} {built : List ComponentSchema}
      {component : ComponentSchema} {descriptor : String}
        {error : SchemaError} :
      BuildsTo entities schemas →
      Yields (fun decl => (ComponentSchema.build decl).outcome)
        components built →
      Reaches (InjectsAll targets) built component →
      Reaches
        (fun earlier => ∃ injector, Injects targets component earlier injector)
        component.injectTargets descriptor →
      InjectionFault targets component descriptor error →
      FirstFault entities components targets error

/-! ## The phases -/

theorem outcome_buildComponent
    (owners : NameMap String)
    (targets : List ClassDeclaration)
    (decl : ClassDeclaration) :
    (buildComponent owners targets decl).outcome =
      (injectorsOf targets (ComponentSchema.ofDeclaration decl)).map
          fun injectors =>
        (ComponentSchema.ofDeclaration decl, injectors) := by
  rw [buildComponent, Traced.outcome_bind, ComponentSchema.outcome_build]
  simp only [Except.bind, Traced.outcome_bind, Traced.outcome_report,
    outcome_mapM]
  rw [injectorsOf]
  rfl

/-- The components and the injectors of a pass, once its entities are built.
The owners decide which names are reported as unmatched, and nothing of the
outcome. -/
theorem outcome_buildComponents
    (owners : NameMap String)
    (targets components : List ClassDeclaration) :
    ((components.mapM (buildComponent owners targets)).outcome.map fun groups =>
        (groups.map Prod.fst, groups.flatMap Prod.snd)) =
      ((components.map ComponentSchema.ofDeclaration).mapM
        (injectorsOf targets)).map
        fun groups =>
          (components.map ComponentSchema.ofDeclaration, groups.flatten) := by
  rw [outcome_mapM]
  induction components with
  | nil => rfl
  | cons first rest inductionHypothesis =>
      rw [List.map_cons, mapM_cons, mapM_cons, outcome_buildComponent]
      cases injectorsOf targets (ComponentSchema.ofDeclaration first) with
      | error error => rfl
      | ok injectors =>
          calc
            _ = ((rest.mapM fun decl =>
                    (buildComponent owners targets decl).outcome).map
                    fun groups =>
                      (groups.map Prod.fst, groups.flatMap Prod.snd)).map
                  fun later => (ComponentSchema.ofDeclaration first :: later.1,
                    injectors ++ later.2) := by
              cases rest.mapM fun decl =>
                (buildComponent owners targets decl).outcome <;> rfl
            _ = (((rest.map ComponentSchema.ofDeclaration).mapM
                    (injectorsOf targets)).map
                    fun groups =>
                      (rest.map ComponentSchema.ofDeclaration,
                        groups.flatten)).map
                  fun later => (ComponentSchema.ofDeclaration first :: later.1,
                    injectors ++ later.2) := by
              rw [inductionHypothesis]
            _ = _ := by
              cases (rest.map ComponentSchema.ofDeclaration).mapM
                (injectorsOf targets) <;> rfl

/-- A pass builds the entities, then the components. -/
theorem outcome_build
    (configuration : Configuration)
    (entities components targets : List ClassDeclaration) :
    (build configuration entities components targets).outcome =
      (collectSchemas [] entities).bind fun schemas =>
        ((components.map ComponentSchema.ofDeclaration).mapM
          (injectorsOf targets)).map
          fun groups =>
            { entities := schemas.map (entityOf configuration.storageHandle)
              components := components.map ComponentSchema.ofDeclaration
              injectors := groups.flatten } := by
  have noneHeld :
      (([] : List EntitySchema).map EntitySchema.storageName).Nodup :=
    List.nodup_nil
  rw [build, Traced.outcome_bind, ← ownersOf_nil,
    outcome_buildEntities _ noneHeld]
  cases collectSchemas [] entities with
  | error error => rfl
  | ok schemas =>
      have componentsMade :=
        outcome_buildComponents (ownersOf schemas) targets components
      simp only [Except.map, Except.bind, Traced.outcome_bind, List.nil_append]
      cases made :
        (components.mapM (buildComponent (ownersOf schemas) targets)).outcome
        with
      | error error =>
          rw [made] at componentsMade
          rw [map_eq_error_iff.mp componentsMade.symm]
      | ok groups =>
          rw [made] at componentsMade
          obtain ⟨injectors, injectorsMade, equal⟩ :=
            map_eq_ok_iff.mp componentsMade.symm
          obtain ⟨sameComponents, sameInjectors⟩ := Prod.mk.inj equal
          rw [injectorsMade]
          simp only [sameComponents, sameInjectors]
          rfl

/-! ## Plans -/

/-- A plan holds the entities of schemas that the classes build to. -/
theorem exists_buildsTo_entityOf_iff
    {handle : String}
    {decls : List ClassDeclaration}
    {entities : List EntityPlan} :
    (∃ schemas, BuildsTo decls schemas ∧
      entities = schemas.map (entityOf handle)) ↔
      List.Forall₂
          (fun decl entity => (EntitySchema.build decl).outcome =
            .ok entity.schema ∧
            entity.accessors = entity.schema.planAccessors handle)
          decls entities ∧
        (entities.map fun entity => entity.schema.storageName).Nodup := by
  constructor
  · rintro ⟨schemas, ⟨yields, distinct⟩, rfl⟩
    refine ⟨?_, ?_⟩
    · refine List.forall₂_map_right_iff.mpr ?_
      exact yields.imp fun _ _ made => ⟨made, rfl⟩
    · rw [List.map_map]
      exact distinct
  · rintro ⟨built, distinct⟩
    refine ⟨entities.map EntityPlan.schema, ⟨?_, ?_⟩, ?_⟩
    · refine List.forall₂_map_right_iff.mpr ?_
      exact built.imp fun _ _ made => made.1
    · rw [List.map_map]
      exact distinct
    · clear distinct
      induction built with
      | nil => rfl
      | cons made _ inductionHypothesis =>
          rw [List.map_cons, List.map_cons, ← inductionHypothesis, entityOf,
            ← made.2]

/-- A pass has as its result the plan of the declarations. -/
theorem build_eq_ok_iff
    {configuration : Configuration}
    {entities components targets : List ClassDeclaration}
    {plan : GenerationPlan} :
    (build configuration entities components targets).outcome = .ok plan ↔
      IsPlan configuration.storageHandle entities components targets plan := by
  rw [outcome_build, bind_eq_ok_iff]
  simp only [map_eq_ok_iff, mapM_eq_ok_iff, collect_nil_eq_ok_iff]
  constructor
  · rintro ⟨schemas, built, groups, yields, rfl⟩
    obtain ⟨entitiesBuilt, namesDistinct⟩ :=
      exists_buildsTo_entityOf_iff.mp ⟨schemas, built, rfl⟩
    refine ⟨entitiesBuilt, namesDistinct, ?_, groups, ?_, rfl⟩
    · exact ComponentSchema.yields_build_iff.mpr rfl
    · exact yields.imp fun _ _ made => injectorsOf_eq_ok_iff.mp made
  · obtain ⟨entityPlans, schemasBuilt, injectors⟩ := plan
    rintro ⟨entitiesBuilt, namesDistinct, componentsBuilt, groups,
      injectorsBuilt, rfl⟩
    obtain ⟨schemas, built, rfl⟩ :=
      exists_buildsTo_entityOf_iff.mpr ⟨entitiesBuilt, namesDistinct⟩
    obtain rfl := ComponentSchema.yields_build_iff.mp componentsBuilt
    exact ⟨schemas, built, groups,
      injectorsBuilt.imp fun _ _ made => injectorsOf_eq_ok_iff.mpr made, rfl⟩

/-- An entity of a plan is that of a class, with the methods of its keys. -/
theorem IsPlan.exists_decl_of_mem
    {handle : String}
    {entities components targets : List ClassDeclaration}
    {plan : GenerationPlan}
    (isPlan : IsPlan handle entities components targets plan)
    {entity : EntityPlan}
    (present : entity ∈ plan.entities) :
    ∃ decl ∈ entities, (EntitySchema.build decl).outcome = .ok entity.schema ∧
      entity.accessors = entity.schema.planAccessors handle := by
  obtain ⟨schemas, ⟨yields, -⟩, equal⟩ :=
    exists_buildsTo_entityOf_iff.mpr
      ⟨isPlan.entitiesBuilt, isPlan.namesDistinct⟩
  rw [equal] at present
  obtain ⟨schema, schemaPresent, rfl⟩ := List.mem_map.mp present
  obtain ⟨decl, declPresent, made⟩ := yields.mem_iff.mp schemaPresent
  exact ⟨decl, declPresent, made, rfl⟩

/-- A pass has a plan exactly when its declarations have what they need for
one. -/
theorem exists_build_eq_ok_iff
    (configuration : Configuration)
    (entities components targets : List ClassDeclaration) :
    (∃ plan,
      (build configuration entities components targets).outcome = .ok plan) ↔
      Plannable entities components targets := by
  simp only [outcome_build, bind_eq_ok_iff, map_eq_ok_iff, mapM_eq_ok_iff,
    collect_nil_eq_ok_iff]
  constructor
  · rintro ⟨plan, schemas, built, groups, yields, -⟩
    obtain ⟨entitiesBuild, namesDistinct⟩ :=
      exists_collects_iff.mp ⟨schemas, built⟩
    refine ⟨entitiesBuild, namesDistinct, ?_⟩
    intro decl present component made
    rw [ComponentSchema.outcome_build] at made
    obtain rfl := Except.ok.inj made
    exact exists_injectorsOf_eq_ok_iff.mp
      (exists_yields_iff.mp ⟨groups, yields⟩ _ (List.mem_map_of_mem present))
  · intro plannable
    obtain ⟨schemas, built⟩ :=
      exists_collects_iff.mpr ⟨plannable.entitiesBuild, plannable.namesDistinct⟩
    have allInject : ∀ component ∈ components.map ComponentSchema.ofDeclaration,
        ∃ injectors, injectorsOf targets component = .ok injectors := by
      intro component present
      obtain ⟨decl, declPresent, rfl⟩ := List.mem_map.mp present
      exact exists_injectorsOf_eq_ok_iff.mpr
        (plannable.componentsInject decl declPresent _
          (ComponentSchema.outcome_build decl))
    obtain ⟨groups, yields⟩ := exists_yields_iff.mpr allInject
    exact ⟨_, schemas, built, groups, yields, rfl⟩

/-! ## Faults -/

/-- A pass fails for its first fault. -/
theorem build_eq_error_iff
    {configuration : Configuration}
    {entities components targets : List ClassDeclaration}
    {error : SchemaError} :
    (build configuration entities components targets).outcome = .error error ↔
      FirstFault entities components targets error := by
  rw [outcome_build, bind_eq_error_iff]
  simp only [map_eq_error_iff, mapM_eq_error_iff, collect_nil_eq_ok_iff,
    collect_nil_eq_error_iff, injectorsOf_eq_error_iff,
    exists_injectorsOf_eq_ok_iff]
  constructor
  · rintro (⟨before, decl, after, schemas, split, built,
        failed | ⟨schema, owner, made, held, sameName, rfl⟩⟩ |
      ⟨schemas, built, component, reaches, descriptor, descriptorReached,
        fault⟩)
    · exact .entity split built failed
    · exact .storage split built made held sameName
    · exact .injection built (ComponentSchema.yields_build_iff.mpr rfl) reaches
        descriptorReached fault
  · intro fault
    cases fault with
    | entity split built failed =>
      exact .inl ⟨_, _, _, _, split, built, .inl failed⟩
    | storage split built made held sameName =>
        exact .inl
          ⟨_, _, _, _, split, built, .inr ⟨_, _, made, held, sameName, rfl⟩⟩
    | injection built componentsBuilt reaches descriptorReached fault =>
        obtain rfl := ComponentSchema.yields_build_iff.mp componentsBuilt
        exact .inr ⟨_, built, _, reaches, _, descriptorReached, fault⟩

/-- A pass has a plan exactly when every entity builds, the storage names are
distinct and every component has an injector for each descriptor it injects
into.  The result is then the plan of the declarations, and any other pass fails
for its first fault. -/
theorem pass_exact
    (configuration : Configuration)
    (entities components targets : List ClassDeclaration) :
    ((∃ plan,
        (build configuration entities components targets).outcome = .ok plan) ↔
      Plannable entities components targets) ∧
    (∀ plan,
      (build configuration entities components targets).outcome = .ok plan ↔
        IsPlan configuration.storageHandle entities components targets plan) ∧
    ∀ error,
      (build configuration entities components targets).outcome =
          .error error ↔
        FirstFault entities components targets error :=
  ⟨exists_build_eq_ok_iff configuration entities components targets,
    fun _ => build_eq_ok_iff, fun _ => build_eq_error_iff⟩

end GenerationPlan
end PreferenceSchema
