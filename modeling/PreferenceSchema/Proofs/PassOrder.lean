import Mathlib.Data.List.Perm.Basic
import PreferenceSchema.Proofs.InjectorClasses
import PreferenceSchema.Proofs.JoinedPasses

/-!
# Order of declarations

Whether a pass has a plan does not depend on the order of its entities or of its
components, and the plan has them in the order in which they were given;
injectors move with their components.  The order of the targets matters only
where two of them have one name.
-/

namespace PreferenceSchema

open Traversal Collection

namespace GenerationPlan

/-! ## Rearranged lists -/

/-- The items of a list in the order in which their places are named. -/
def rearrange
    {α : Type}
    (places : List Nat)
    (items : List α) : List α :=
  places.filterMap fun place => items[place]?

/-- An order names every place in a list of some length once. -/
def IsOrder
    (places : List Nat)
    (length : Nat) : Prop :=
  places.Perm (List.range length)

theorem rearrange_range
    {α : Type}
    (items : List α) :
    rearrange (List.range items.length) items = items := by
  induction items with
  | nil => rfl
  | cons first rest inductionHypothesis =>
      rw [List.length_cons, List.range_succ_eq_map, rearrange,
        List.filterMap_cons, List.filterMap_map]
      simpa [rearrange] using inductionHypothesis

/-- A rearranged list has the items of the list. -/
theorem rearrange_perm
    {α : Type}
    {places : List Nat}
    {items : List α}
    (order : IsOrder places items.length) :
    (rearrange places items).Perm items := by
  have permuted := order.filterMap fun place => items[place]?
  have whole := rearrange_range items
  rw [rearrange] at whole ⊢
  rwa [whole] at permuted

/-- Related lists stay related if both are rearranged. -/
theorem forall₂_rearrange
    {α β : Type}
    {relation : α → β → Prop}
    {items : List α}
    {results : List β}
    (related : List.Forall₂ relation items results)
    (places : List Nat) :
    List.Forall₂ relation (rearrange places items)
      (rearrange places results) := by
  have relatedAt (place : Nat) :
      Option.Rel relation items[place]? results[place]? := by
    induction related generalizing place with
    | nil => exact .none
    | cons first _ inductionHypothesis =>
        cases place with
        | zero => exact .some first
        | succ place => simpa using inductionHypothesis place
  refine List.rel_filterMap ?_
    (List.forall₂_same.mpr fun place _ => Eq.refl place)
  rintro place _ rfl
  exact relatedAt place

/-! ## Entities and components -/

variable {handle : String} {entities components targets : List ClassDeclaration}
  {plan : GenerationPlan}

/-- What declarations need for a plan they need in any order. -/
theorem Plannable.of_perm
    (plannable : Plannable entities components targets)
    {otherEntities otherComponents : List ClassDeclaration}
    (entitiesPerm : otherEntities.Perm entities)
    (componentsPerm : otherComponents.Perm components) :
    Plannable otherEntities otherComponents targets where
  entitiesBuild decl present :=
    plannable.entitiesBuild decl (entitiesPerm.mem_iff.mp present)
  namesDistinct schemas yields := by
    obtain ⟨ordered, orderedYields, permuted⟩ :=
      List.perm_comp_forall₂ entitiesPerm.symm yields
    exact (permuted.map _).nodup_iff.mp
      (plannable.namesDistinct ordered orderedYields)
  componentsInject decl present :=
    plannable.componentsInject decl (componentsPerm.mem_iff.mp present)

theorem exists_build_eq_ok_iff_of_perm
    (configuration : Configuration)
    {otherEntities otherComponents : List ClassDeclaration}
    (entitiesPerm : otherEntities.Perm entities)
    (componentsPerm : otherComponents.Perm components) :
    (∃ plan,
      (build configuration otherEntities otherComponents targets).outcome =
      .ok plan) ↔
      ∃ plan, (build configuration entities components targets).outcome =
        .ok plan := by
  rw [exists_build_eq_ok_iff, exists_build_eq_ok_iff]
  exact ⟨fun plannable =>
    plannable.of_perm entitiesPerm.symm componentsPerm.symm,
    fun plannable => plannable.of_perm entitiesPerm componentsPerm⟩

/-- The plan of rearranged entities has its entities rearranged, and all else as
it was. -/
theorem IsPlan.rearrange_entities
    (isPlan : IsPlan handle entities components targets plan)
    {places : List Nat}
    (order : IsOrder places entities.length) :
    IsPlan handle (rearrange places entities) components targets
      { plan with entities := rearrange places plan.entities } where
  entitiesBuilt := forall₂_rearrange isPlan.entitiesBuilt places
  namesDistinct := by
    rw [isPlan.entitiesBuilt.length_eq] at order
    exact ((rearrange_perm order).map _).nodup_iff.mpr isPlan.namesDistinct
  componentsBuilt := isPlan.componentsBuilt
  injectorsBuilt := isPlan.injectorsBuilt

/-- A plan has the components of another one rearranged, each with its
injectors. -/
structure RearrangesComponents
    (places : List Nat)
    (plan other : GenerationPlan) : Prop where
  entities : other.entities = plan.entities
  components : other.components = rearrange places plan.components
  injectorGroups : other.injectorGroups = rearrange places plan.injectorGroups
  flattened : plan.injectorGroups.flatten = plan.injectors
  otherFlattened : other.injectorGroups.flatten = other.injectors

/-- Rearranged components have a plan in which they are rearranged with their
injectors. -/
theorem IsPlan.rearrange_components
    (isPlan : IsPlan handle entities components targets plan)
    (places : List Nat) :
    ∃ other, IsPlan handle entities (rearrange places components)
      targets other ∧
      RearrangesComponents places plan other := by
  obtain ⟨injectorsBuilt, flattened⟩ := isPlan.injectorGroups_spec
  let other : GenerationPlan :=
    { entities := plan.entities
      components := rearrange places plan.components
      injectors := (rearrange places plan.injectorGroups).flatten }
  have otherBuilt := forall₂_rearrange injectorsBuilt places
  have otherGroups : other.injectorGroups =
      rearrange places plan.injectorGroups :=
    injectorGroups_eq otherBuilt rfl
  refine ⟨other,
    ⟨isPlan.entitiesBuilt, isPlan.namesDistinct, ?_, _, otherBuilt, rfl⟩, ?_⟩
  · exact forall₂_rearrange isPlan.componentsBuilt places
  · exact ⟨rfl, rfl, otherGroups, flattened, congrArg List.flatten otherGroups⟩

/-! ## Targets -/

/-- Among targets with distinct names a descriptor stands for the same one in
any order. -/
theorem targetOf?_eq_of_perm
    (distinct : (targets.map ClassDeclaration.name).Nodup)
    {others : List ClassDeclaration}
    (permuted : others.Perm targets)
    (descriptor : String) :
    targetOf? others descriptor = targetOf? targets descriptor := by
  have othersDistinct : (others.map ClassDeclaration.name).Nodup :=
    (permuted.map _).nodup_iff.mpr distinct
  ext target
  rw [targetOf?, targetOf?, find?_eq_some_iff othersDistinct,
    find?_eq_some_iff distinct, permuted.mem_iff]

/-- A pass goes the same way, with the same events, for targets in any order. -/
theorem build_eq_of_perm
    (configuration : Configuration)
    (entities components : List ClassDeclaration)
    (distinct : (targets.map ClassDeclaration.name).Nodup)
    {others : List ClassDeclaration}
    (permuted : others.Perm targets) :
    build configuration entities components others =
      build configuration entities components targets := by
  have sameInjector (component : ComponentSchema) :
      buildInjector component others = buildInjector component targets := by
    funext descriptor
    rw [buildInjector, buildInjector, targetOf?_eq_of_perm distinct permuted]
  have sameComponent (owners : NameMap String) :
      buildComponent owners others = buildComponent owners targets := by
    funext decl
    simp only [buildComponent, sameInjector]
  simp only [build, sameComponent]

/-! ## Passes -/

/-- The order of entities and of components decides neither whether a pass has a
plan nor what is in it: the plan has the entities or the components in their
order, the latter with their injectors.  The order of targets with distinct
names decides nothing at all. -/
theorem build_order_independent
    (configuration : Configuration)
    (entities components targets : List ClassDeclaration) :
    (∀ places, IsOrder places entities.length →
      ((∃ plan,
          (build configuration (rearrange places entities) components
            targets).outcome = .ok plan) ↔
        ∃ plan,
          (build configuration entities components targets).outcome =
            .ok plan) ∧
      ∀ plan,
        (build configuration entities components targets).outcome = .ok plan →
          (build configuration (rearrange places entities) components
            targets).outcome =
              .ok { plan with entities := rearrange places plan.entities }) ∧
    (∀ places, IsOrder places components.length →
      ((∃ plan,
          (build configuration entities (rearrange places components)
            targets).outcome = .ok plan) ↔
        ∃ plan,
          (build configuration entities components targets).outcome =
            .ok plan) ∧
      ∀ plan,
        (build configuration entities components targets).outcome = .ok plan →
          ∃ other,
            (build configuration entities (rearrange places components)
              targets).outcome = .ok other ∧
            RearrangesComponents places plan other) ∧
    ((targets.map ClassDeclaration.name).Nodup →
      ∀ others, others.Perm targets →
        build configuration entities components others =
          build configuration entities components targets) := by
  refine ⟨fun places order => ⟨?_, ?_⟩, fun places order => ⟨?_, ?_⟩, ?_⟩
  · exact exists_build_eq_ok_iff_of_perm configuration (rearrange_perm order)
      (.refl _)
  · intro plan accepted
    exact build_eq_ok_iff.mpr
      ((build_eq_ok_iff.mp accepted).rearrange_entities order)
  · exact exists_build_eq_ok_iff_of_perm configuration (.refl _)
      (rearrange_perm order)
  · intro plan accepted
    obtain ⟨other, isPlan, rearranges⟩ :=
      (build_eq_ok_iff.mp accepted).rearrange_components places
    exact ⟨other, build_eq_ok_iff.mpr isPlan, rearranges⟩
  · intro distinct others permuted
    exact build_eq_of_perm configuration entities components distinct permuted

open Source.SourceDeclarations in
/-- The declarations of two files, each with an entity, a component and a
target. -/
def twoFiles : Source.SourceDeclarations :=
  fileOf "Settings" "AppComponent" "Screen" ++
    fileOf "Account" "UserComponent" "Panel"

open Source.SourceDeclarations in
/-- The plan of the two files. -/
def twoPlans : GenerationPlan :=
  planOf "Settings" "AppComponent" "Screen" ++
    planOf "Account" "UserComponent" "Panel"

theorem twoFiles_order_independent :
    (build .standard (rearrange [1, 0] twoFiles.entities) twoFiles.components
          twoFiles.targets).outcome =
        .ok { twoPlans with entities := rearrange [1, 0] twoPlans.entities } ∧
      (∃ other,
          (build .standard twoFiles.entities
            (rearrange [1, 0] twoFiles.components)
            twoFiles.targets).outcome = .ok other ∧
          RearrangesComponents [1, 0] twoPlans other) ∧
      build .standard twoFiles.entities twoFiles.components
        twoFiles.targets.reverse =
        build .standard twoFiles.entities twoFiles.components
          twoFiles.targets := by
  have accepted : (build .standard twoFiles.entities twoFiles.components
      twoFiles.targets).outcome = .ok twoPlans := by
    decide +kernel
  have order : IsOrder [1, 0] 2 := .swap 0 1 []
  obtain ⟨ofEntities, ofComponents, ofTargets⟩ :=
    build_order_independent .standard twoFiles.entities twoFiles.components
      twoFiles.targets
  exact ⟨(ofEntities [1, 0] order).2 twoPlans accepted,
    (ofComponents [1, 0] order).2 twoPlans accepted,
    ofTargets (by decide) _ (List.reverse_perm _)⟩

end GenerationPlan
end PreferenceSchema
