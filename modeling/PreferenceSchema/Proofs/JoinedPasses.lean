import PreferenceSchema.Proofs.Pass
import PreferenceSchema.Source.SourceDeclarations

/-!
# Passes over several files

The declarations of two files that have plans of their own are joined.  Their
plans are joined as well, unless a storage name is in both files, or a target of
the first file has the simple name of a type that a component of the second one
injects into.  A shared storage name is always found.
-/

namespace PreferenceSchema

open Traversal Collection

namespace GenerationPlan

/-! ## Joined plans -/

/-- The content of a plan and that of another one behind it. -/
def append (plan more : GenerationPlan) : GenerationPlan :=
  ⟨plan.entities ++ more.entities, plan.components ++ more.components,
    plan.injectors ++ more.injectors⟩

instance : Append GenerationPlan :=
  ⟨append⟩

@[simp] theorem entities_append
    (plan more : GenerationPlan) :
    (plan ++ more).entities = plan.entities ++ more.entities := rfl

@[simp] theorem injectors_append
    (plan more : GenerationPlan) :
    (plan ++ more).injectors = plan.injectors ++ more.injectors := rfl

/-- The storage names of the entities of a plan. -/
def storageNames (plan : GenerationPlan) : List String :=
  plan.entities.map fun entity => entity.schema.storageName

/-! ## Joined targets -/

/-- A target has the simple name of a type that a component injects into. -/
def Captures (targets components : List ClassDeclaration) : Prop :=
  ∃ target ∈ targets, ∃ decl ∈ components,
    ∃ descriptor ∈ ComponentSchema.injectTargetsOf decl,
    target.name = simpleTypeName descriptor

variable {targets moreTargets : List ClassDeclaration}
  {component : ComponentSchema}
  {descriptor : String} {injector : InjectionPlan}

/-- A descriptor that stands for a target goes on to do so if there are more
targets at the end. -/
theorem Injects.append_right
    (injects : Injects targets component descriptor injector)
    (more : List ClassDeclaration) :
    Injects (targets ++ more) component descriptor injector := by
  obtain ⟨target, ⟨reaches, named⟩, built⟩ := injects
  exact ⟨target, ⟨reaches.append_right more, named⟩, built⟩

/-- A descriptor that stands for a target also does so behind targets of other
names. -/
theorem Injects.append_left
    (injects : Injects targets component descriptor injector)
    {earlier : List ClassDeclaration}
    (free : ∀ target ∈ earlier, target.name ≠ simpleTypeName descriptor) :
    Injects (earlier ++ targets) component descriptor injector := by
  obtain ⟨target, ⟨reaches, named⟩, built⟩ := injects
  exact ⟨target, ⟨reaches.append_left free, named⟩, built⟩

/-! ## Joined declarations -/

variable {handle : String} {entities components moreEntities moreComponents :
  List ClassDeclaration} {plan more : GenerationPlan}

/-- Declarations whose storage names differ have the joined plan, if no
component finds another target than before. -/
theorem IsPlan.append
    (isPlan : IsPlan handle entities components targets plan)
    (isPlanMore : IsPlan handle moreEntities moreComponents moreTargets more)
    (disjoint : plan.storageNames.Disjoint more.storageNames)
    (free : ¬Captures targets moreComponents) :
    IsPlan handle (entities ++ moreEntities) (components ++ moreComponents)
      (targets ++ moreTargets) (plan ++ more) where
  entitiesBuilt := List.rel_append isPlan.entitiesBuilt isPlanMore.entitiesBuilt
  namesDistinct := by
    rw [entities_append, List.map_append]
    exact List.Nodup.append isPlan.namesDistinct isPlanMore.namesDistinct
      disjoint
  componentsBuilt :=
    List.rel_append isPlan.componentsBuilt isPlanMore.componentsBuilt
  injectorsBuilt := by
    obtain ⟨groups, injectorsBuilt, flattened⟩ := isPlan.injectorsBuilt
    obtain ⟨moreGroups, moreBuilt, moreFlattened⟩ := isPlanMore.injectorsBuilt
    refine ⟨groups ++ moreGroups, List.rel_append ?_ ?_, ?_⟩
    · exact injectorsBuilt.imp fun _ _ made =>
        made.imp fun _ _ injects => injects.append_right moreTargets
    · refine List.forall₂_iff_zip.mpr ⟨moreBuilt.length_eq, ?_⟩
      intro component group paired
      refine List.forall₂_iff_zip.mpr
        ⟨(List.forall₂_zip moreBuilt paired).length_eq, ?_⟩
      intro descriptor injector descriptorPaired
      have injects :=
        List.forall₂_zip (List.forall₂_zip moreBuilt paired) descriptorPaired
      refine injects.append_left fun target targetPresent same => free ?_
      have present := (List.of_mem_zip paired).1
      rw [ComponentSchema.yields_build_iff.mp isPlanMore.componentsBuilt]
        at present
      obtain ⟨decl, declPresent, rfl⟩ := List.mem_map.mp present
      exact ⟨target, targetPresent, decl, declPresent, descriptor,
        (List.of_mem_zip descriptorPaired).1, same⟩
    · rw [injectors_append, flattened, moreFlattened, List.flatten_append]

/-- The first entity whose storage name is held by an earlier file is the fault
of the pass. -/
theorem IsPlan.firstFault_of_reaches
    (isPlan : IsPlan handle entities components targets plan)
    (isPlanMore : IsPlan handle moreEntities moreComponents moreTargets more)
    {owner entity : EntityPlan}
    (reaches :
      Reaches (fun earlier => earlier.schema.storageName ∉ plan.storageNames)
        more.entities
        entity)
    (held : owner ∈ plan.entities)
    (same : owner.schema.storageName = entity.schema.storageName) :
    FirstFault (entities ++ moreEntities) (components ++ moreComponents)
      (targets ++ moreTargets)
      (.duplicateStorage entity.schema.storageName owner.schema.className
        entity.schema.className) := by
  obtain ⟨before, after, split, free⟩ := reaches
  have entitiesBuilt := isPlanMore.entitiesBuilt
  rw [split] at entitiesBuilt
  obtain ⟨declsBefore, rest, rfl, beforeBuilt, restBuilt⟩ :=
    exists_append_of_forall₂ entitiesBuilt
  obtain ⟨decl, declsAfter, made, -, rfl⟩ :=
    List.forall₂_cons_right_iff.mp restBuilt
  have beforeDistinct :
      (before.map fun earlier => earlier.schema.storageName).Nodup := by
    have distinct := isPlanMore.namesDistinct
    rw [split, List.map_append] at distinct
    exact (List.nodup_append.mp distinct).1
  have built : BuildsTo (entities ++ declsBefore)
      ((plan.entities ++ before).map EntityPlan.schema) := by
    refine ⟨List.forall₂_map_right_iff.mpr (List.rel_append ?_ ?_), ?_⟩
    · exact isPlan.entitiesBuilt.imp fun _ _ pair => pair.1
    · exact beforeBuilt.imp fun _ _ pair => pair.1
    · rw [List.map_map, List.map_append]
      refine List.Nodup.append isPlan.namesDistinct beforeDistinct ?_
      intro name inPlan inBefore
      obtain ⟨earlier, present, rfl⟩ := List.mem_map.mp inBefore
      exact free earlier present inPlan
  have joined : entities ++ (declsBefore ++ decl :: declsAfter) =
      (entities ++ declsBefore) ++ decl :: declsAfter :=
    (List.append_assoc _ _ _).symm
  have ownerBuilt : owner.schema ∈
      (plan.entities ++ before).map EntityPlan.schema :=
    List.mem_map_of_mem (List.mem_append_left before held)
  exact .storage joined built made.1 ownerBuilt same

end GenerationPlan

namespace Source
namespace SourceDeclarations

open GenerationPlan

/-- Two files with plans have the joined plan if their storage names differ and
no component of the second file injects into a type with the simple name of a
target of the first.  If a storage name is in both, the pass fails for it: at
the first entity of the second file that has such a name. -/
theorem outcome_process_append
    {configuration : Configuration}
    {found more : SourceDeclarations}
    {plan planMore : GenerationPlan}
    (accepted : (found.process configuration).outcome = .ok plan)
    (acceptedMore : (more.process configuration).outcome = .ok planMore) :
    (plan.storageNames.Disjoint planMore.storageNames →
        ¬Captures found.targets more.components →
          ((found ++ more).process configuration).outcome =
            .ok (plan ++ planMore)) ∧
      (¬plan.storageNames.Disjoint planMore.storageNames →
        ∃ owner ∈ plan.entities, ∃ entity,
          Reaches
            (fun earlier => earlier.schema.storageName ∉ plan.storageNames)
            planMore.entities entity ∧
          owner.schema.storageName = entity.schema.storageName ∧
          ((found ++ more).process configuration).outcome =
            .error (.duplicateStorage entity.schema.storageName
              owner.schema.className entity.schema.className)) := by
  have isPlan := build_eq_ok_iff.mp accepted
  have isPlanMore := build_eq_ok_iff.mp acceptedMore
  constructor
  · intro disjoint free
    exact build_eq_ok_iff.mpr (isPlan.append isPlanMore disjoint free)
  · intro shared
    have notAllFree : ¬∀ entity ∈ planMore.entities,
        entity.schema.storageName ∉ plan.storageNames := fun allFree =>
      shared (List.disjoint_right.mpr (List.forall_mem_map.mpr allFree))
    obtain ⟨entity, reaches, held⟩ := exists_reaches_of_not_forall notAllFree
    obtain ⟨owner, present, same⟩ := List.mem_map.mp (not_not.mp held)
    exact ⟨owner, present, entity, reaches, same,
      build_eq_error_iff.mpr
        (isPlan.firstFault_of_reaches isPlanMore reaches present same)⟩

/-- A file with an entity, a component that lists it, and a target that the
component injects it into. -/
def fileOf (entity component target : String) : SourceDeclarations where
  entities := [⟨entity, none, [], []⟩]
  components :=
    [⟨component, none, [⟨Naming.componentMark, [("entities", entity)]⟩],
      [(Member.method "inject" "()").withParameter "target" target]⟩]
  targets :=
    [⟨target, none, [],
      [(Member.field "store" (Naming.storageClassName entity)).annotated
        ⟨Naming.injectMark, []⟩]⟩]

/-- The plan of a file with an entity, a component and a target. -/
def planOf (entity component target : String) : GenerationPlan where
  entities := [⟨⟨none, entity, entity, .empty, .empty⟩, []⟩]
  components := [⟨none, component, .ofList [entity], [target]⟩]
  injectors := [⟨none, target, Naming.componentClassName component,
    [⟨"store", Naming.storageClassName entity, entity⟩]⟩]

theorem settings_process_append :
    ((fileOf "Settings" "AppComponent" "Screen" ++
          fileOf "Account" "UserComponent" "Panel").process .standard).outcome =
        .ok (planOf "Settings" "AppComponent" "Screen" ++
          planOf "Account" "UserComponent" "Panel") ∧
      ((fileOf "Settings" "AppComponent" "Screen" ++
          fileOf "Settings" "UserComponent" "Panel").process
            .standard).outcome =
        .error (.duplicateStorage "Settings" "Settings" "Settings") := by
  have settings :
      ((fileOf "Settings" "AppComponent" "Screen").process .standard).outcome =
      .ok (planOf "Settings" "AppComponent" "Screen") := by
    decide +kernel
  have account :
      ((fileOf "Account" "UserComponent" "Panel").process .standard).outcome =
      .ok (planOf "Account" "UserComponent" "Panel") := by
    decide +kernel
  have settingsAgain :
      ((fileOf "Settings" "UserComponent" "Panel").process .standard).outcome =
      .ok (planOf "Settings" "UserComponent" "Panel") := by
    decide +kernel
  refine ⟨(outcome_process_append settings account).1 ?_ ?_, ?_⟩
  · simp [storageNames, planOf]
  · unfold Captures
    decide +kernel
  · obtain ⟨owner, ownerPresent, entity, reaches, -, failed⟩ :=
      (outcome_process_append settings settingsAgain).2
        (by simp [storageNames, planOf])
    obtain rfl := List.mem_singleton.mp ownerPresent
    obtain rfl := List.mem_singleton.mp reaches.mem
    exact failed

end SourceDeclarations
end Source
end PreferenceSchema
