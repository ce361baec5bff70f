import PreferenceSchema.Proofs.EntityReferences

/-!
# Warnings of a pass

A pass warns of the names that its components list and under which no class
stores preferences: of each name once for every component, in the order of the
components and then of the names.  Nothing else that a pass builds is worth a
warning.
-/

namespace PreferenceSchema

open Traversal Collection

/-- Whether an event is a warning. -/
def Event.isWarning (event : Event) : Bool :=
  event.severity = .warn

namespace Traced

variable {ε α β : Type} {x : Traced ε α} {f : α → Traced ε β}

/-! ## Warnings of sequences -/

/-- The warnings among the events of a computation. -/
def warnings (x : Traced ε α) : List Event :=
  x.events.filter Event.isWarning

@[simp] theorem warnings_pure
    (a : α) :
    (pure a : Traced ε α).warnings = [] := rfl

/-- The warnings of a sequence are those of its parts, once the first part has
succeeded. -/
theorem warnings_bind_of_ok
    {a : α}
    (made : x.outcome = .ok a)
    (f : α → Traced ε β) :
    (x >>= f).warnings = x.warnings ++ (f a).warnings := by
  rw [warnings, events_bind_of_ok made, List.filter_append, warnings, warnings]

/-- The warnings of a traversal that succeeds are those of its steps. -/
theorem warnings_mapM_of_ok
    {step : α → Traced ε β}
    {items : List α}
    {results : List β}
    (made : (items.mapM step).outcome = .ok results) :
    (items.mapM step).warnings = items.flatMap fun item =>
      (step item).warnings := by
  induction items generalizing results with
  | nil => rfl
  | cons first rest inductionHypothesis =>
      rw [List.mapM_cons, outcome_bind] at made
      obtain ⟨result, firstMade, behind⟩ := bind_eq_ok_iff.mp made
      rw [outcome_bind] at behind
      obtain ⟨later, restMade, -⟩ := bind_eq_ok_iff.mp behind
      rw [List.mapM_cons, warnings_bind_of_ok firstMade,
        warnings_bind_of_ok restMade, inductionHypothesis restMade,
        warnings_pure, List.append_nil, List.flatMap_cons]

/-! ## Computations without warnings -/

/-- A computation warns of nothing, whether it succeeds or fails. -/
def Quiet (x : Traced ε α) : Prop :=
  x.warnings = []

theorem quiet_pure (a : α) : (pure a : Traced ε α).Quiet := rfl

theorem quiet_fail (e : ε) : (fail e : Traced ε α).Quiet := rfl

theorem quiet_ofExcept (result : Except ε α) : (ofExcept result).Quiet := rfl

/-- An event that is no warning is no warning of the run. -/
theorem quiet_report
    {event : Event}
    (harmless : event.isWarning = false) :
    (report [event] : Traced ε Unit).Quiet := by
  simp [Quiet, warnings, report, harmless]

/-- A sequence is quiet if its parts are. -/
theorem Quiet.bind
    (first : x.Quiet)
    (second : ∀ a, (f a).Quiet) : (x >>= f).Quiet := by
  cases made : x.outcome with
  | error e => rwa [Quiet, warnings, events_bind_of_error made]
  | ok a => rw [Quiet, warnings_bind_of_ok made, first, second a,
    List.nil_append]

theorem quiet_mapM
    {step : α → Traced ε β}
    (each : ∀ item, (step item).Quiet)
    (items : List α) : (items.mapM step).Quiet := by
  induction items with
  | nil => exact quiet_pure []
  | cons first rest inductionHypothesis =>
      rw [List.mapM_cons]
      exact (each first).bind fun _ => inductionHypothesis.bind fun _ =>
        quiet_pure _

end Traced

open Traced

/-! ## What is built without warnings -/

theorem KeyField.quiet_resolve
    (className : String)
    (member : Member) : (resolve className member).Quiet :=
  (quiet_ofExcept _).bind fun _ => (quiet_report rfl).bind fun _ => quiet_pure _

/-- Reading the fields of a class warns of nothing. -/
theorem KeyTable.quiet_addMembers
    (className : String)
    (table : KeyTable)
    (members : List Member) : (addMembers className table members).Quiet := by
  induction members generalizing table with
  | nil => exact quiet_pure _
  | cons first rest inductionHypothesis =>
      exact (KeyField.quiet_resolve className first).bind fun field =>
        (quiet_ofExcept _).bind fun extended => inductionHypothesis extended

/-- A custom accessor that takes the place of another is reported, but not as a
warning. -/
theorem Overrides.quiet_addMember
    (className : String)
    (keys : KeyTable)
    (overrides : Overrides)
    (member : Member) : (addMember className keys overrides member).Quiet := by
  unfold addMember
  split
  case isTrue => exact quiet_pure _
  case isFalse =>
    split
    case isTrue => exact (quiet_report rfl).bind fun _ => quiet_pure _
    case isFalse =>
      refine (quiet_ofExcept _).bind fun (key, role, function) => ?_
      dsimp only
      split
      case h_1 => exact (quiet_report rfl).bind fun _ => quiet_pure _
      case h_2 => exact quiet_pure _

theorem Overrides.quiet_addMembers
    (className : String)
    (keys : KeyTable)
    (overrides : Overrides)
    (members : List Member) :
    (addMembers className keys overrides members).Quiet := by
  induction members generalizing overrides with
  | nil => exact quiet_pure _
  | cons first rest inductionHypothesis =>
      exact (quiet_addMember className keys overrides first).bind
        inductionHypothesis

/-- Building an entity warns of nothing. -/
theorem EntitySchema.quiet_build
    (decl : ClassDeclaration) :
    (build decl).Quiet :=
  (quiet_ofExcept _).bind fun _ =>
      (KeyTable.quiet_addMembers _ _ _).bind fun _ =>
    (quiet_ofExcept _).bind fun _ =>
        (Overrides.quiet_addMembers _ _ _ _).bind fun _ =>
      (quiet_report rfl).bind fun _ => quiet_pure _

theorem ComponentSchema.quiet_build
    (decl : ClassDeclaration) :
    (build decl).Quiet :=
  (quiet_report rfl).bind fun _ => quiet_pure _

theorem InjectionPlan.quiet_build
    (component : ComponentSchema)
    (target : ClassDeclaration) : (build component target).Quiet :=
  (quiet_ofExcept _).bind fun _ => (quiet_report rfl).bind fun _ => quiet_pure _

namespace GenerationPlan

/-- The first part of a pass, which builds its entities, warns of nothing. -/
theorem quiet_buildEntities
    (handle : String)
    (owners : NameMap String)
    (decls : List ClassDeclaration) :
    (buildEntities handle owners decls).Quiet := by
  induction decls generalizing owners with
  | nil => exact quiet_pure _
  | cons first rest inductionHypothesis =>
      refine (EntitySchema.quiet_build first).bind fun schema => ?_
      split
      case h_1 => exact quiet_fail _
      case h_2 => exact (inductionHypothesis _).bind fun _ => quiet_pure _

/-- A target that is missing is an error and no warning. -/
theorem quiet_buildInjector
    (component : ComponentSchema)
    (targets : List ClassDeclaration)
    (descriptor : String) :
    (buildInjector component targets descriptor).Quiet := by
  unfold buildInjector
  split
  case h_1 => exact InjectionPlan.quiet_build component _
  case h_2 => exact quiet_fail _

/-! ## The warnings of a pass -/

/-- The events of unmatched names are warnings. -/
theorem warnings_report_unmatchedEvents
    (owners : NameMap String)
    (component : ComponentSchema) :
    (report (unmatchedEvents owners component) :
      Traced SchemaError Unit).warnings =
      unmatchedEvents owners component := by
  rw [warnings, report, List.filter_eq_self]
  intro event present
  obtain ⟨name, -, rfl⟩ := List.mem_map.mp present
  rfl

/-- A component warns of its unmatched names only, before its injectors are
built. -/
theorem warnings_buildComponent
    (owners : NameMap String)
    (targets : List ClassDeclaration)
    (decl : ClassDeclaration) :
    (buildComponent owners targets decl).warnings =
      unmatchedEvents owners (ComponentSchema.ofDeclaration decl) := by
  have injectorsQuiet (component : ComponentSchema) :
      (component.injectTargets.mapM (buildInjector component targets) >>=
        fun injectors =>
          (pure (component, injectors) : Traced SchemaError _)).Quiet :=
    (quiet_mapM (quiet_buildInjector component targets) _).bind fun _ =>
      quiet_pure _
  rw [buildComponent, warnings_bind_of_ok (ComponentSchema.outcome_build decl),
    ComponentSchema.quiet_build, List.nil_append,
    warnings_bind_of_ok (outcome_report _), warnings_report_unmatchedEvents,
    injectorsQuiet, List.append_nil]

/-- The owners of the names of schemas have an entry for each of these names. -/
theorem contains_ownersOf_iff
    {schemas : List EntitySchema}
    (distinct : (schemas.map EntitySchema.storageName).Nodup)
    {name : String} :
    (ownersOf schemas).contains name = true ↔
      ∃ schema ∈ schemas, schema.storageName = name := by
  rw [NameMap.contains, get?_ownersOf distinct, Option.isSome_map,
    List.find?_isSome]
  simp

/-- A pass with a plan warns, component by component, of the listed names that
nobody owns. -/
theorem warnings_build_of_ok
    {configuration : Configuration}
    {entities components targets : List ClassDeclaration}
    {plan : GenerationPlan}
    (accepted : (build configuration entities components targets).outcome =
      .ok plan) :
    ∃ schemas, BuildsTo entities schemas ∧
      (build configuration entities components targets).warnings =
        plan.components.flatMap (unmatchedEvents (ownersOf schemas)) := by
  have isPlan := build_eq_ok_iff.mp accepted
  obtain ⟨schemas, buildsTo, -⟩ :=
    exists_buildsTo_entityOf_iff.mpr
      ⟨isPlan.entitiesBuilt, isPlan.namesDistinct⟩
  refine ⟨schemas, buildsTo, ?_⟩
  have noneHeld :
      (([] : List EntitySchema).map EntitySchema.storageName).Nodup :=
      List.nodup_nil
  have entitiesMade :
      (buildEntities configuration.storageHandle .empty entities).outcome =
      .ok (ownersOf schemas, schemas.map
        (entityOf configuration.storageHandle)) := by
    rw [← ownersOf_nil, outcome_buildEntities _ noneHeld, collectSchemas,
      collect_nil_eq_ok_iff.mpr buildsTo]
    rfl
  rw [build, outcome_bind, entitiesMade] at accepted
  rw [build, warnings_bind_of_ok entitiesMade, quiet_buildEntities,
    List.nil_append]
  dsimp only [Except.bind] at accepted ⊢
  rw [outcome_bind] at accepted
  obtain ⟨groups, groupsMade, -⟩ := bind_eq_ok_iff.mp accepted
  have reportQuiet : (report [.completedPass (schemas.map
      (entityOf configuration.storageHandle)).length groups.length
      (groups.flatMap Prod.snd).length] : Traced SchemaError Unit).Quiet :=
        quiet_report rfl
  rw [warnings_bind_of_ok groupsMade, reportQuiet.bind fun _ => quiet_pure _,
    List.append_nil, warnings_mapM_of_ok groupsMade,
    ComponentSchema.yields_build_iff.mp isPlan.componentsBuilt,
    List.flatMap_map]
  simp only [warnings_buildComponent]

/-- The warnings for a component: one for each name that it lists and under
which no class stores preferences, in ascending order. -/
def WarnsOf
    (entities : List ClassDeclaration)
    (component : ComponentSchema)
    (events : List Event) : Prop :=
  ∃ names : List String, names.Pairwise (· < ·) ∧
    (∀ name, name ∈ names ↔
      component.containsEntity name = true ∧
      ¬∃ decl ∈ entities, Stores decl name) ∧
    events = names.map (.unmatchedEntity component.className)

/-- The names that a component warns of are those it lists and no entity has. -/
theorem warnsOf_unmatchedEvents
    {entities : List ClassDeclaration}
    {schemas : List EntitySchema}
    (buildsTo : BuildsTo entities schemas)
    (component : ComponentSchema) :
    WarnsOf entities component
      (unmatchedEvents (ownersOf schemas) component) := by
  refine ⟨_, component.entityNames.ordered.filter _, fun name => ?_, rfl⟩
  rw [List.mem_filter, ← exists_storageName_iff buildsTo,
    ← contains_ownersOf_iff buildsTo.distinct, ComponentSchema.containsEntity,
    NameSet.contains]
  simp

/-- A pass with a plan warns, component by component and in ascending order, of
exactly the names that a component lists and under which no class stores
preferences.  So there is a warning for every field that is bound to an entity
that the plan does not hold. -/
theorem warnings_exact
    {configuration : Configuration}
    {entities components targets : List ClassDeclaration}
    {plan : GenerationPlan}
    (accepted : (build configuration entities components targets).outcome =
      .ok plan) :
    (∃ groups, List.Forall₂ (WarnsOf entities) plan.components groups ∧
        (build configuration entities components targets).warnings =
          groups.flatten) ∧
      ∀ injector ∈ plan.injectors, ∀ binding ∈ injector.bindings,
        (∀ entity ∈ plan.entities,
          entity.schema.storageName ≠ binding.entityName) →
          ∃ component ∈ plan.components,
            injector.componentClass = component.generatedClassName ∧
            .unmatchedEntity component.className binding.entityName ∈
              (build configuration entities components targets).warnings := by
  obtain ⟨schemas, buildsTo, warned⟩ := warnings_build_of_ok accepted
  have isPlan := build_eq_ok_iff.mp accepted
  rw [warned]
  refine ⟨⟨plan.components.map (unmatchedEvents (ownersOf schemas)), ?_, ?_⟩,
    ?_⟩
  · rw [List.forall₂_map_right_iff, List.forall₂_same]
    exact fun component _ => warnsOf_unmatchedEvents buildsTo component
  · exact List.flatMap_def
  · intro injector injectorPresent binding present absent
    obtain ⟨component, componentPresent, sameClass, listed⟩ :=
      isPlan.listed injector injectorPresent
    refine ⟨component, componentPresent, sameClass,
      List.mem_flatMap.mpr ⟨component, componentPresent, ?_⟩⟩
    obtain ⟨names, -, unmatched, equal⟩ :=
      warnsOf_unmatchedEvents buildsTo component
    rw [equal]
    refine List.mem_map_of_mem
      ((unmatched _).mpr ⟨listed binding present, fun stored => ?_⟩)
    obtain ⟨entity, entityPresent, named⟩ := isPlan.exists_entity_iff.mpr stored
    exact absent entity entityPresent named

/-- A component that lists an entity and two names of none, one of them
twice. -/
def ghostComponent : ClassDeclaration :=
  componentOf "Spare,Settings, Ghost,Spare"

/-- The plan of the entity, the component and a screen that asks for one of the
two names. -/
def ghostPlan : GenerationPlan where
  entities := [⟨⟨none, "Settings", "Settings", .empty, .empty⟩, []⟩]
  components :=
    [⟨none, "AppComponent", .ofList ["Ghost", "Settings", "Spare"], ["Screen"]⟩]
  injectors := [⟨none, "Screen", "PreferenceComponent_AppComponent",
    [⟨"store", "Preference_Ghost", "Ghost"⟩]⟩]

/-- A component that lists two unknown names warns of both, in the order of the
names, and its injector binds one of them all the same. -/
theorem ghost_warnings_exact :
    (build .standard [settings] [ghostComponent]
        [screenOf "Preference_Ghost"]).outcome = .ok ghostPlan ∧
      (build .standard [settings] [ghostComponent]
        [screenOf "Preference_Ghost"]).warnings =
        [.unmatchedEntity "AppComponent" "Ghost",
          .unmatchedEntity "AppComponent" "Spare"] ∧
      (∃ groups, List.Forall₂ (WarnsOf [settings]) ghostPlan.components groups ∧
        (build .standard [settings] [ghostComponent]
          [screenOf "Preference_Ghost"]).warnings =
          groups.flatten) ∧
      ∀ injector ∈ ghostPlan.injectors, ∀ binding ∈ injector.bindings,
        (∀ entity ∈ ghostPlan.entities,
          entity.schema.storageName ≠ binding.entityName) →
          ∃ component ∈ ghostPlan.components,
            injector.componentClass = component.generatedClassName ∧
            .unmatchedEntity component.className binding.entityName ∈
              (build .standard [settings] [ghostComponent]
                [screenOf "Preference_Ghost"]).warnings := by
  have accepted : (build .standard [settings] [ghostComponent]
      [screenOf "Preference_Ghost"]).outcome = .ok ghostPlan := by
    decide +kernel
  exact ⟨accepted, by decide +kernel, warnings_exact accepted⟩

end GenerationPlan
end PreferenceSchema
