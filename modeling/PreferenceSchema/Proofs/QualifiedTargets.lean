import PreferenceSchema.Proofs.InjectorClasses
import PreferenceSchema.Proofs.TypeNames

/-!
# Targets behind their packages

A component may name a type that it injects into together with its package.  The
package does not count: the descriptor stands for the first target with the last
segment as its name, so a target is only injected under its qualified name if no
other target of that name comes before it.
-/

namespace PreferenceSchema

open Traversal Text

/-! ## Qualified names -/

/-- A descriptor is the name of a class behind that of its package. -/
def Qualifies
    (descriptor : String)
    (target : ClassDeclaration) : Prop :=
  ∃ package, target.package = some package ∧
    (descriptor = package ++ "." ++ target.name ∨
      descriptor = package ++ "::" ++ target.name)

/-- A name that is the last segment of every name that qualifies it. -/
structure StaysWhole (name : String) : Prop where
  isSegment : IsSegment name.toList
  noBlankAtEnd : trimEnd name.toList = name.toList

/-- The simple name of the qualified name of a class is the name of the
class. -/
theorem Qualifies.simpleTypeName_eq
    {descriptor : String}
    {target : ClassDeclaration}
    (qualifies : Qualifies descriptor target)
    (whole : StaysWhole target.name) :
    simpleTypeName descriptor = target.name := by
  have ends : EndsQualified descriptor.toList target.name.toList := by
    obtain ⟨package, -, rfl | rfl⟩ := qualifies
    · exact .inl ⟨package.toList, by simp⟩
    · exact .inr ⟨package.toList, by simp⟩
  rw [simpleTypeName,
    simpleTypeChars_of_endsQualified ends whole.isSegment whole.noBlankAtEnd,
    String.ofList_toList]

namespace InjectionPlan

/-- An injector has the package and the class of a target and binds its injected
fields, in order. -/
structure BuiltFrom
    (component : ComponentSchema)
    (target : ClassDeclaration)
    (injector : InjectionPlan) : Prop where
  package : injector.package = target.package
  targetClass : injector.targetClass = target.name
  bindings : Yields (bind component target) (injectedFields target)
    injector.bindings

/-- An injector is built from the target that it was built for. -/
theorem builtFrom_of_build_eq_ok
    {component : ComponentSchema}
    {target : ClassDeclaration}
    {injector : InjectionPlan}
    (built : (build component target).outcome = .ok injector) :
    BuiltFrom component target injector := by
  obtain ⟨bindings, yields, rfl⟩ := build_eq_ok_iff.mp built
  exact ⟨rfl, rfl, yields⟩

end InjectionPlan

namespace GenerationPlan

open InjectionPlan

/-! ## Injectors of descriptors -/

/-- An injector of a plan is that of a component for a descriptor. -/
def HasInjector
    (plan : GenerationPlan)
    (component : ComponentSchema)
    (descriptor : String)
    (injector : InjectionPlan) : Prop :=
  ∃ group, (component, group) ∈ plan.components.zip plan.injectorGroups ∧
    (descriptor, injector) ∈ component.injectTargets.zip group

variable {handle : String} {entities components targets : List ClassDeclaration}
  {plan : GenerationPlan}

/-- There is only one injector of a component for a type. -/
theorem Injects.unique
    {component : ComponentSchema}
    {descriptor : String}
    {left right : InjectionPlan}
    (leftInjects : Injects targets component descriptor left)
    (rightInjects : Injects targets component descriptor right) :
    left = right :=
  leftInjects.eq_of_simpleTypeName_eq rightInjects rfl

/-- The injectors of a plan for a component and a type are those that inject
into its target. -/
theorem IsPlan.hasInjector_iff
    (isPlan : IsPlan handle entities components targets plan)
    {component : ComponentSchema}
    (componentPresent : component ∈ plan.components)
    {descriptor : String}
    (isDescriptor : descriptor ∈ component.injectTargets)
    {injector : InjectionPlan} :
    plan.HasInjector component descriptor injector ↔
      Injects targets component descriptor injector := by
  have groups := isPlan.injectorGroups_spec.1
  have injects {group : List InjectionPlan} {other : InjectionPlan}
      (paired : (component, group) ∈ plan.components.zip plan.injectorGroups)
      (injectorPaired : (descriptor, other) ∈
        component.injectTargets.zip group) :
      Injects targets component descriptor other :=
    (List.forall₂_iff_zip.mp ((List.forall₂_iff_zip.mp groups).2 paired)).2
      injectorPaired
  constructor
  · rintro ⟨group, paired, injectorPaired⟩
    exact injects paired injectorPaired
  · intro injected
    obtain ⟨group, paired⟩ := exists_mem_zip_of_forall₂ groups componentPresent
    obtain ⟨other, otherPaired⟩ :=
      exists_mem_zip_of_forall₂ ((List.forall₂_iff_zip.mp groups).2 paired)
        isDescriptor
    rw [injected.unique (injects paired otherPaired)]
    exact ⟨group, paired, otherPaired⟩

/-! ## Targets of qualified descriptors -/

/-- Among targets with distinct qualified names, the injector for a target is
built from no other one of its name. -/
theorem standsFor_of_builtFrom
    (apart : (targets.map fun target => (target.package, target.name)).Nodup)
    {component : ComponentSchema}
    {descriptor : String}
    {first target : ClassDeclaration}
    {injector : InjectionPlan}
    (stands : StandsFor targets descriptor first)
    (fromFirst : BuiltFrom component first injector)
    (present : target ∈ targets)
    (fromTarget : BuiltFrom component target injector) :
    StandsFor targets descriptor target := by
  have sameName : (first.package, first.name) =
      (target.package, target.name) := by
    rw [← fromFirst.package, ← fromFirst.targetClass, ← fromTarget.package,
      ← fromTarget.targetClass]
  exact List.inj_on_of_nodup_map apart stands.1.mem present sameName ▸ stands

/-- Let the targets of a pass have distinct qualified names.  A component has
one injector for the qualified name of a target, built from the first target
whose name is the last segment.  This is the injector of the qualified target
exactly when that target comes first, which for a name that stays whole means
that no target before it has the same name. -/
theorem builtFrom_iff_of_qualifies
    {configuration : Configuration}
    (accepted : (build configuration entities components targets).outcome =
      .ok plan)
    (apart : (targets.map fun target => (target.package, target.name)).Nodup)
    {component : ComponentSchema}
    (componentPresent : component ∈ plan.components)
    {descriptor : String}
    (isDescriptor : descriptor ∈ component.injectTargets)
    {target : ClassDeclaration}
    (present : target ∈ targets)
    (qualifies : Qualifies descriptor target) :
    ∃ injector, (∀ other, plan.HasInjector component descriptor other ↔
      other = injector) ∧
      (∃ first, StandsFor targets descriptor first ∧
        BuiltFrom component first injector) ∧
      (BuiltFrom component target injector ↔
        StandsFor targets descriptor target) ∧
      (StaysWhole target.name →
        (StandsFor targets descriptor target ↔
          Reaches (fun earlier => earlier.name ≠ target.name)
            targets target)) := by
  have isPlan := build_eq_ok_iff.mp accepted
  obtain ⟨injector, injects⟩ :=
    isPlan.injectsAll componentPresent descriptor isDescriptor
  obtain ⟨first, stands, built⟩ := id injects
  have fromFirst := builtFrom_of_build_eq_ok built
  refine ⟨injector, ?_, ⟨first, stands, fromFirst⟩, ?_, ?_⟩
  · intro other
    rw [isPlan.hasInjector_iff componentPresent isDescriptor]
    exact ⟨fun otherInjects => otherInjects.unique injects,
      fun same => same ▸ injects⟩
  · constructor
    · exact standsFor_of_builtFrom apart stands fromFirst present
    · intro targetStands
      exact stands.unique targetStands ▸ fromFirst
  · intro whole
    rw [StandsFor, qualifies.simpleTypeName_eq whole, and_iff_left rfl]

/-- The plan of a component that names the screens of two packages. -/
def screenOfFirstPackage : GenerationPlan :=
  screenTwice "a" "a.Screen" "b.Screen"

theorem outcome_screenOfFirstPackage :
    (build .standard [] [injectingInto "a.Screen" "b.Screen"]
      [screenIn "a", screenIn "b"]).outcome = .ok screenOfFirstPackage := by
  decide +kernel

/-- The component that names both screens. -/
def bothScreens : ComponentSchema :=
  ⟨none, "AppComponent", .empty, ["a.Screen", "b.Screen"]⟩

/-- Of two screens in different packages the first is injected into, whichever
package the type names. -/
theorem bothScreens_builtFrom_iff :
    (build .standard [] [injectingInto "a.Screen" "b.Screen"]
        [screenIn "a", screenIn "b"]).outcome = .ok screenOfFirstPackage ∧
      ([screenIn "a", screenIn "b"].map fun target =>
        (target.package, target.name)).Nodup ∧
      bothScreens ∈ screenOfFirstPackage.components ∧
      "b.Screen" ∈ bothScreens.injectTargets ∧
      screenIn "b" ∈ [screenIn "a", screenIn "b"] ∧
      Qualifies "b.Screen" (screenIn "b") ∧
      ∃ injector,
        (∀ other,
          screenOfFirstPackage.HasInjector bothScreens "b.Screen" other ↔
          other = injector) ∧
        (∃ first, StandsFor [screenIn "a", screenIn "b"] "b.Screen" first ∧
          BuiltFrom bothScreens first injector) ∧
        (BuiltFrom bothScreens (screenIn "b") injector ↔
          StandsFor [screenIn "a", screenIn "b"] "b.Screen" (screenIn "b")) ∧
        StaysWhole "Screen" ∧
        (StandsFor [screenIn "a", screenIn "b"] "b.Screen" (screenIn "b") ↔
          Reaches (fun earlier => earlier.name ≠ "Screen")
            [screenIn "a", screenIn "b"]
            (screenIn "b")) := by
  have apart : ([screenIn "a", screenIn "b"].map fun target =>
      (target.package, target.name)).Nodup := by
    decide
  have componentPresent : bothScreens ∈ screenOfFirstPackage.components :=
    List.mem_singleton_self _
  have isDescriptor : "b.Screen" ∈ bothScreens.injectTargets := by decide
  have present : screenIn "b" ∈ [screenIn "a", screenIn "b"] := by decide
  have qualifies : Qualifies "b.Screen" (screenIn "b") :=
    ⟨"b", rfl, .inl (by decide)⟩
  have whole : StaysWhole "Screen" := ⟨⟨by decide, by decide⟩, by decide⟩
  obtain ⟨injector, only, fromFirst, builtIff, reachesIff⟩ :=
    builtFrom_iff_of_qualifies outcome_screenOfFirstPackage apart
      componentPresent isDescriptor
      present qualifies
  exact ⟨outcome_screenOfFirstPackage, apart, componentPresent, isDescriptor,
    present, qualifies, injector, only, fromFirst, builtIff, whole,
    reachesIff whole⟩

/-- The injector for the qualified name of a target may be that of another
target. -/
theorem not_forall_builtFrom_of_qualifies :
    ¬∀ configuration entities components targets plan,
      (build configuration entities components targets).outcome = .ok plan →
      (targets.map fun target => (target.package, target.name)).Nodup →
      ∀ component ∈ plan.components, ∀ descriptor ∈ component.injectTargets,
        ∀ target ∈ targets, Qualifies descriptor target →
          ∀ injector, plan.HasInjector component descriptor injector →
            BuiltFrom component target injector := by
  intro allBuilt
  have built :=
    allBuilt _ _ _ _ _ outcome_screenOfFirstPackage (by decide) bothScreens
    List.mem_cons_self "b.Screen" (by decide) (screenIn "b") (by decide)
    ⟨"b", rfl, .inl (by decide)⟩ (screenInjector "a")
    ⟨[screenInjector "a", screenInjector "a"], by decide, by decide⟩
  have samePackage := built.package
  revert samePackage
  decide

end GenerationPlan
end PreferenceSchema
