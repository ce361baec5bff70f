import Mathlib.Data.List.SplitLengths
import PreferenceSchema.Proofs.EntityReferences

/-!
# Classes of injectors

A plan lists its injectors component by component, one for each descriptor that
the component injects into.  A component lists no descriptor twice, but two of
its descriptors may qualify one name in different ways.  Then they stand for the
same target, and its injector is in the plan twice.
-/

namespace PreferenceSchema

open Traversal

namespace ComponentSchema

theorem firstOccurrences_concat
    (names : List String)
    (name : String) :
    firstOccurrences (names ++ [name]) =
      if name ∈ firstOccurrences names then firstOccurrences names
      else firstOccurrences names ++ [name] := by
  rw [firstOccurrences, List.foldl_append]
  rfl

/-- A name that has been seen is not taken again. -/
theorem nodup_firstOccurrences
    (names : List String) :
    (firstOccurrences names).Nodup := by
  induction names using List.reverseRecOn with
  | nil => exact List.nodup_nil
  | append_singleton names last inductionHypothesis =>
      rw [firstOccurrences_concat]
      split
      case isTrue => exact inductionHypothesis
      case isFalse absent =>
        rw [← List.concat_eq_append]
        exact inductionHypothesis.concat absent

end ComponentSchema

namespace InjectionPlan

/-- The class that is generated for an injector, by its package and its name. -/
def generatedClass (injector : InjectionPlan) : Option String × String :=
  (injector.package, injector.injectorClassName)

end InjectionPlan

namespace GenerationPlan

/-! ## Groups -/

/-- The injectors of a plan, component by component. -/
def injectorGroups (plan : GenerationPlan) : List (List InjectionPlan) :=
  (plan.components.map fun component =>
    component.injectTargets.length).splitLengths
    plan.injectors

/-- Every class that is generated for the injectors of a component is generated
once. -/
def ClassesDistinct (plan : GenerationPlan) : Prop :=
  ∀ group ∈ plan.injectorGroups, (group.map InjectionPlan.generatedClass).Nodup

/-- Lists that were put one behind another are got back by their lengths. -/
theorem splitLengths_flatten
    {α : Type}
    (groups : List (List α)) :
    (groups.map List.length).splitLengths groups.flatten = groups := by
  induction groups with
  | nil => rfl
  | cons first rest inductionHypothesis =>
      rw [List.map_cons, List.flatten_cons, List.splitLengths_cons,
        List.take_left, List.drop_left, inductionHypothesis]

variable {handle : String} {entities components targets : List ClassDeclaration}
  {plan : GenerationPlan}

/-- Groups of the lengths that the components ask for are those of the plan. -/
theorem injectorGroups_eq
    {groups : List (List InjectionPlan)}
    (injectorsBuilt : List.Forall₂
      (fun component =>
        List.Forall₂ (Injects targets component) component.injectTargets)
      plan.components groups)
    (flattened : plan.injectors = groups.flatten) :
    plan.injectorGroups = groups := by
  have lengths :
      (plan.components.map fun component => component.injectTargets.length) =
      groups.map List.length :=
    map_eq_map_of_forall₂ injectorsBuilt fun injected => injected.length_eq
  rw [injectorGroups, lengths, flattened, splitLengths_flatten]

/-- The groups of a plan are the injectors of its components. -/
theorem IsPlan.injectorGroups_spec
    (isPlan : IsPlan handle entities components targets plan) :
    List.Forall₂
        (fun component =>
          List.Forall₂ (Injects targets component) component.injectTargets)
        plan.components plan.injectorGroups ∧
      plan.injectorGroups.flatten = plan.injectors := by
  obtain ⟨groups, injectorsBuilt, flattened⟩ := isPlan.injectorsBuilt
  rw [injectorGroups_eq injectorsBuilt flattened]
  exact ⟨injectorsBuilt, flattened.symm⟩

/-! ## Descriptors with one simple name -/

/-- The injector for a descriptor is that of a class with its simple name. -/
theorem Injects.targetClass_eq
    {component : ComponentSchema}
    {descriptor : String}
    {injector : InjectionPlan}
    (injects : Injects targets component descriptor injector) :
    injector.targetClass = simpleTypeName descriptor := by
  obtain ⟨target, stands, built⟩ := injects
  obtain ⟨bindings, -, rfl⟩ := InjectionPlan.build_eq_ok_iff.mp built
  exact stands.2

/-- Descriptors with one simple name have one injector. -/
theorem Injects.eq_of_simpleTypeName_eq
    {component : ComponentSchema}
    {left right : String}
    {leftInjector rightInjector : InjectionPlan}
    (leftInjects : Injects targets component left leftInjector)
    (rightInjects : Injects targets component right rightInjector)
    (same : simpleTypeName left = simpleTypeName right) :
    leftInjector = rightInjector := by
  obtain ⟨leftTarget, leftStands, leftBuilt⟩ := leftInjects
  obtain ⟨rightTarget, rightStands, rightBuilt⟩ := rightInjects
  rw [StandsFor, same] at leftStands
  obtain rfl := StandsFor.unique leftStands rightStands
  exact Except.ok.inj (leftBuilt.symm.trans rightBuilt)

/-- The classes for two descriptors are the same exactly when their simple names
are. -/
theorem Injects.generatedClass_eq_iff
    {component : ComponentSchema}
    {left right : String}
    {leftInjector rightInjector : InjectionPlan}
    (leftInjects : Injects targets component left leftInjector)
    (rightInjects : Injects targets component right rightInjector) :
    simpleTypeName left = simpleTypeName right ↔
      leftInjector.generatedClass = rightInjector.generatedClass := by
  constructor
  · intro same
    rw [leftInjects.eq_of_simpleTypeName_eq rightInjects same]
  · intro same
    have sameName : Naming.injectorStart ++ leftInjector.targetClass =
        Naming.injectorStart ++ rightInjector.targetClass :=
          congrArg Prod.snd same
    rw [← leftInjects.targetClass_eq, ← rightInjects.targetClass_eq]
    exact String.append_right_inj _ |>.mp sameName

/-- The injectors of a component have distinct classes exactly when its
descriptors have distinct simple names. -/
theorem nodup_generatedClass_iff
    {component : ComponentSchema}
    {group : List InjectionPlan}
    (injected : List.Forall₂ (Injects targets component)
      component.injectTargets group) :
    (group.map InjectionPlan.generatedClass).Nodup ↔
      (component.injectTargets.map simpleTypeName).Nodup :=
  (Collection.nodup_map_iff_of_forall₂ injected fun leftInjects rightInjects =>
    leftInjects.generatedClass_eq_iff rightInjects).symm

/-! ## Plans -/

/-- The injectors of a component, one for each of its descriptors.  The
descriptors are distinct, and the classes of the injectors are distinct exactly
when the simple names of the descriptors are. -/
structure InjectorsOf
    (targets : List ClassDeclaration)
    (component : ComponentSchema)
    (group : List InjectionPlan) : Prop where
  injected : List.Forall₂ (Injects targets component)
    component.injectTargets group
  descriptorsDistinct : component.injectTargets.Nodup
  classesDistinct_iff : (group.map InjectionPlan.generatedClass).Nodup ↔
    (component.injectTargets.map simpleTypeName).Nodup

theorem IsPlan.injectorsOf_injectorGroups
    (isPlan : IsPlan handle entities components targets plan) :
    List.Forall₂ (InjectorsOf targets) plan.components plan.injectorGroups := by
  have componentsEqual :=
    ComponentSchema.yields_build_iff.mp isPlan.componentsBuilt
  refine List.forall₂_iff_zip.mpr ⟨isPlan.injectorGroups_spec.1.length_eq, ?_⟩
  intro component group paired
  have injected :=
    (List.forall₂_iff_zip.mp isPlan.injectorGroups_spec.1).2 paired
  refine ⟨injected, ?_, nodup_generatedClass_iff injected⟩
  have present := (List.of_mem_zip paired).1
  rw [componentsEqual] at present
  obtain ⟨decl, -, rfl⟩ := List.mem_map.mp present
  exact ComponentSchema.nodup_firstOccurrences _

theorem IsPlan.classesDistinct_iff
    (isPlan : IsPlan handle entities components targets plan) :
    plan.ClassesDistinct ↔
      ∀ component ∈ plan.components,
      (component.injectTargets.map simpleTypeName).Nodup := by
  have groups := isPlan.injectorsOf_injectorGroups
  exact (forall_mem_iff_of_forall₂ groups fun injectors =>
    injectors.classesDistinct_iff.symm).symm

/-- A component generates every injector class once exactly when no two of the
descriptors that it injects into have one simple name; that no descriptor is
listed twice does not suffice. -/
theorem classesDistinct_iff_of_build_eq_ok
    {configuration : Configuration}
    (accepted : (build configuration entities components targets).outcome =
      .ok plan) :
    plan.injectorGroups.flatten = plan.injectors ∧
      List.Forall₂ (InjectorsOf targets) plan.components plan.injectorGroups ∧
      (plan.ClassesDistinct ↔ ∀ decl ∈ components,
        ((ComponentSchema.injectTargetsOf decl).map simpleTypeName).Nodup) := by
  have isPlan := build_eq_ok_iff.mp accepted
  refine ⟨isPlan.injectorGroups_spec.2, isPlan.injectorsOf_injectorGroups, ?_⟩
  rw [isPlan.classesDistinct_iff,
    ComponentSchema.yields_build_iff.mp isPlan.componentsBuilt,
    List.forall_mem_map]
  exact Iff.rfl

/-- A component that injects into two types. -/
def injectingInto (first second : String) : ClassDeclaration where
  name := "AppComponent"
  package := none
  annotations := []
  members := [(Member.method "inject" "void").withParameter "target" first,
    (Member.method "injectAgain" "void").withParameter "target" second]

/-- A screen of a package, without injected fields. -/
def screenIn (package : String) : ClassDeclaration where
  name := "Screen"
  package := some package
  annotations := []
  members := []

/-- The injector of a screen of a package. -/
def screenInjector (package : String) : InjectionPlan :=
  ⟨some package, "Screen", "PreferenceComponent_AppComponent", []⟩

/-- The plan of a component that injects into the screen of a package under two
descriptors. -/
def screenTwice (package first second : String) : GenerationPlan where
  entities := []
  components := [⟨none, "AppComponent", .empty, [first, second]⟩]
  injectors := [screenInjector package, screenInjector package]

/-- The plan of a component that names the screen of `app` with and without its
package. -/
def screenTwiceInApp : GenerationPlan :=
  screenTwice "app" "Screen" "app.Screen"

theorem outcome_screenTwiceInApp :
    (build .standard [] [injectingInto "Screen" "app.Screen"]
      [screenIn "app"]).outcome =
      .ok screenTwiceInApp := by
  decide +kernel

theorem screenTwiceInApp_classesDistinct_iff :
    (build .standard [] [injectingInto "Screen" "app.Screen"]
        [screenIn "app"]).outcome =
        .ok screenTwiceInApp ∧
      screenTwiceInApp.injectorGroups.flatten = screenTwiceInApp.injectors ∧
      List.Forall₂ (InjectorsOf [screenIn "app"]) screenTwiceInApp.components
        screenTwiceInApp.injectorGroups ∧
      (screenTwiceInApp.ClassesDistinct ↔
        ∀ decl ∈ [injectingInto "Screen" "app.Screen"],
        ((ComponentSchema.injectTargetsOf decl).map simpleTypeName).Nodup) :=
  ⟨outcome_screenTwiceInApp,
    classesDistinct_iff_of_build_eq_ok outcome_screenTwiceInApp⟩

/-- The injector of a target is generated twice for a component that names it
once with and once without its package. -/
theorem not_forall_classesDistinct :
    ¬∀ configuration entities components targets plan,
      (build configuration entities components targets).outcome = .ok plan →
        plan.ClassesDistinct := by
  intro allDistinct
  have distinct := allDistinct _ _ _ _ _ outcome_screenTwiceInApp
    [screenInjector "app", screenInjector "app"] List.mem_cons_self
  simp at distinct

end GenerationPlan
end PreferenceSchema
