import PreferenceSchema.GenerationPlan
import PreferenceSchema.Proofs.Traversal

/-!
# Injection

What the injector of a target binds, which target a descriptor stands for, and
which injectors a component has.
-/

namespace PreferenceSchema

open Traversal

namespace InjectionPlan

/-- A bound field has as its type the storage class of an entity that the
component lists. -/
theorem bind_eq_ok_iff
    {component : ComponentSchema}
    {target : ClassDeclaration}
    {field : Member}
    {binding : InjectionBinding} :
    bind component target field = .ok binding ↔
      ∃ entity, Naming.storedEntity? field.typeName = some entity ∧
        component.containsEntity entity = true ∧
        binding = ⟨field.name, field.typeName, entity⟩ := by
  rw [bind]
  cases found :
    (Naming.storedEntity? field.typeName).filter component.containsEntity with
  | none =>
      simp only [reduceCtorEq, false_iff, not_exists, not_and]
      intro entity stored listed
      rw [stored, Option.filter_some, if_pos listed] at found
      cases found
  | some entity =>
      obtain ⟨stored, listed⟩ := Option.filter_eq_some_iff.mp found
      constructor
      · intro bound
        exact ⟨entity, stored, listed, (Except.ok.inj bound).symm⟩
      · rintro ⟨other, otherStored, -, rfl⟩
        rw [stored] at otherStored
        obtain rfl := Option.some.inj otherStored
        rfl

/-- The injector of a target binds its injected fields, in order. -/
theorem build_eq_ok_iff
    {component : ComponentSchema}
    {target : ClassDeclaration}
    {plan : InjectionPlan} :
    (build component target).outcome = .ok plan ↔
      ∃ bindings, Yields (bind component target)
        (injectedFields target) bindings ∧
        plan =
          { package := target.package
            targetClass := target.name
            componentClass := component.generatedClassName
            bindings := bindings } := by
  rw [build, Traced.outcome_bind, Traced.outcome_ofExcept,
    Traversal.bind_eq_ok_iff]
  simp only [mapM_eq_ok_iff]
  refine exists_congr fun bindings => and_congr_right fun _ => ?_
  rw [Traced.outcome_bind, Traced.outcome_report]
  exact ⟨fun equal => (Except.ok.inj equal).symm, fun equal => equal ▸ rfl⟩

end InjectionPlan

namespace GenerationPlan

/-- A descriptor stands for the first target that has its simple name. -/
def StandsFor
    (targets : List ClassDeclaration)
    (descriptor : String)
    (target : ClassDeclaration) : Prop :=
  Reaches (fun earlier => earlier.name ≠ simpleTypeName descriptor)
    targets target ∧
    target.name = simpleTypeName descriptor

/-- The injector of a component for a descriptor is that of the target it stands
for. -/
def Injects
    (targets : List ClassDeclaration)
    (component : ComponentSchema)
    (descriptor : String)
    (injector : InjectionPlan) : Prop :=
  ∃ target, StandsFor targets descriptor target ∧
    (InjectionPlan.build component target).outcome = .ok injector

/-- Why a component has no injector for a descriptor. -/
inductive InjectionFault
    (targets : List ClassDeclaration)
    (component : ComponentSchema)
    (descriptor : String) : SchemaError → Prop
  | missingTarget :
      (∀ target ∈ targets, target.name ≠ simpleTypeName descriptor) →
      InjectionFault targets component descriptor
        (.missingTarget component.className descriptor)
  | injector {target : ClassDeclaration} {error : SchemaError} :
      StandsFor targets descriptor target →
      (InjectionPlan.build component target).outcome = .error error →
      InjectionFault targets component descriptor error

/-- The target of a type is the first class that stands for it. -/
theorem targetOf?_eq_some_iff
    {targets : List ClassDeclaration}
    {descriptor : String}
    {target : ClassDeclaration} :
    targetOf? targets descriptor = some target ↔
      StandsFor targets descriptor target := by
  rw [targetOf?, List.find?_eq_some_iff_append, StandsFor, Reaches, and_comm]
  simp

/-- A type has no target if no class has its simple name. -/
theorem targetOf?_eq_none_iff
    {targets : List ClassDeclaration}
    {descriptor : String} :
    targetOf? targets descriptor = none ↔
      ∀ target ∈ targets, target.name ≠ simpleTypeName descriptor := by
  rw [targetOf?, List.find?_eq_none]
  simp

/-- A descriptor stands for one target at most. -/
theorem StandsFor.unique
    {targets : List ClassDeclaration}
    {descriptor : String}
    {left right : ClassDeclaration}
    (leftStands : StandsFor targets descriptor left)
    (rightStands : StandsFor targets descriptor right) : left = right := by
  have leftFound := targetOf?_eq_some_iff.mpr leftStands
  rw [targetOf?_eq_some_iff.mpr rightStands] at leftFound
  exact (Option.some.inj leftFound).symm

/-- An injector is built for a type exactly if it injects into the target of the
type. -/
theorem buildInjector_eq_ok_iff
    {targets : List ClassDeclaration}
    {component : ComponentSchema}
    {descriptor : String}
    {injector : InjectionPlan} :
    (buildInjector component targets descriptor).outcome = .ok injector ↔
      Injects targets component descriptor injector := by
  rw [buildInjector]
  cases found : targetOf? targets descriptor with
  | none =>
      have missing := targetOf?_eq_none_iff.mp found
      simp only [Traced.outcome_fail, reduceCtorEq, false_iff]
      rintro ⟨target, ⟨reaches, named⟩, -⟩
      exact missing target reaches.mem named
  | some target =>
      have stands := targetOf?_eq_some_iff.mp found
      constructor
      · intro built
        exact ⟨target, stands, built⟩
      · rintro ⟨other, otherStands, built⟩
        rw [stands.unique otherStands]
        exact built

/-- An injector is refused for a missing target or for the first field that does
not resolve. -/
theorem buildInjector_eq_error_iff
    {targets : List ClassDeclaration}
    {component : ComponentSchema}
    {descriptor : String}
    {error : SchemaError} :
    (buildInjector component targets descriptor).outcome = .error error ↔
      InjectionFault targets component descriptor error := by
  rw [buildInjector]
  cases found : targetOf? targets descriptor with
  | none =>
      have missing := targetOf?_eq_none_iff.mp found
      constructor
      · intro refused
        obtain rfl := Except.error.inj refused
        exact .missingTarget missing
      · intro fault
        cases fault with
        | missingTarget => rfl
        | injector stands => exact absurd stands.2 (missing _ stands.1.mem)
  | some target =>
      have stands := targetOf?_eq_some_iff.mp found
      constructor
      · intro failed
        exact .injector stands failed
      · intro fault
        cases fault with
        | missingTarget missing =>
          exact absurd stands.2 (missing target stands.1.mem)
        | injector otherStands failed =>
            rw [stands.unique otherStands]
            exact failed

/-- The injectors of a component, one for each descriptor it injects into. -/
def injectorsOf
    (targets : List ClassDeclaration)
    (component : ComponentSchema) : Except SchemaError (List InjectionPlan) :=
  component.injectTargets.mapM fun descriptor =>
    (buildInjector component targets descriptor).outcome

/-- A component has one injector for each of its types, in their order. -/
theorem injectorsOf_eq_ok_iff
    {targets : List ClassDeclaration}
    {component : ComponentSchema}
    {injectors : List InjectionPlan} :
    injectorsOf targets component = .ok injectors ↔
      List.Forall₂ (Injects targets component)
        component.injectTargets injectors := by
  rw [injectorsOf, mapM_eq_ok_iff]
  simp only [Yields, buildInjector_eq_ok_iff]

theorem exists_injectorsOf_eq_ok_iff
    {targets : List ClassDeclaration}
    {component : ComponentSchema} :
    (∃ injectors, injectorsOf targets component = .ok injectors) ↔
      ∀ descriptor ∈ component.injectTargets,
        ∃ injector, Injects targets component descriptor injector := by
  simp only [injectorsOf, mapM_eq_ok_iff, exists_yields_iff,
    buildInjector_eq_ok_iff]

/-- A component is refused for the first of its types that has no injector. -/
theorem injectorsOf_eq_error_iff
    {targets : List ClassDeclaration}
    {component : ComponentSchema}
    {error : SchemaError} :
    injectorsOf targets component = .error error ↔
      ∃ descriptor,
        Reaches
          (fun earlier => ∃ injector,
            Injects targets component earlier injector)
          component.injectTargets descriptor ∧
        InjectionFault targets component descriptor error := by
  rw [injectorsOf, mapM_eq_error_iff]
  simp only [buildInjector_eq_ok_iff, buildInjector_eq_error_iff]

end GenerationPlan
end PreferenceSchema
