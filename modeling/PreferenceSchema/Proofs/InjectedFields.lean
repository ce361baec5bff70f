import PreferenceSchema.Proofs.Injection

/-!
# Injected fields

The injector of a target is made from those of its members that are fields and
carry the mark of injected ones.  It exists if each of them has as its type the
storage class of an entity of the component.  Otherwise the first that has not
is reported, and whatever stands behind it does not count.
-/

namespace PreferenceSchema

open Traversal

/-- A member is a field that is marked to be injected. -/
def Member.IsInjected (member : Member) : Prop :=
  member.kind = .field ∧ ∃ mark ∈ member.annotations, mark.name =
    Naming.injectMark

instance : DecidablePred Member.IsInjected := fun member =>
  inferInstanceAs (Decidable (member.kind = .field ∧
    ∃ mark ∈ member.annotations, mark.name = Naming.injectMark))

theorem ComponentSchema.containsEntity_iff
    {component : ComponentSchema}
    {entity : String} :
    component.containsEntity entity = true ↔
      entity ∈ component.entityNames.names :=
  List.contains_iff_mem

namespace InjectionPlan

/-- The type of a field is the storage class of an entity that a component
lists. -/
def Resolves
    (component : ComponentSchema)
    (field : Member)
    (entity : String) : Prop :=
  Naming.storedEntity? field.typeName = some entity ∧
    entity ∈ component.entityNames.names

/-- All injected fields among some members resolve to entities of a
component. -/
def AllResolve
    (component : ComponentSchema)
    (members : List Member) : Prop :=
  ∀ member ∈ members, member.IsInjected →
    ∃ entity, Resolves component member entity

/-- A binding has the name of a field, its type as it is declared and the entity
that the field resolves to. -/
structure IsBindingOf
    (component : ComponentSchema)
    (field : Member)
    (binding : InjectionBinding) : Prop where
  fieldName : binding.fieldName = field.name
  declaredType : binding.declaredType = field.typeName
  resolves : Resolves component field binding.entityName

/-- A statement assigns to a field, from the only instance of a component, the
entity that the field resolves to. -/
def IsAssignmentOf
    (component : ComponentSchema)
    (field : Member)
    (statement : String) : Prop :=
  ∃ entity, Resolves component field entity ∧
    statement = "injectObject." ++ field.name ++ " = " ++
      component.generatedClassName ++ ".getInstance()." ++ entity ++ "()"

/-- An injector of a target has one binding and one assignment for each injected
field, in the order of the declaration, and none for other members. -/
structure IsInjectorOf
    (component : ComponentSchema)
    (target : ClassDeclaration)
    (plan : InjectionPlan) : Prop where
  package : plan.package = target.package
  targetClass : plan.targetClass = target.name
  componentClass : plan.componentClass = component.generatedClassName
  bindings : List.Forall₂ (IsBindingOf component)
    (target.members.filter Member.IsInjected)
    plan.bindings
  statements : List.Forall₂ (IsAssignmentOf component)
    (target.members.filter Member.IsInjected)
    plan.statements

/-! ## One field -/

section

variable {component : ComponentSchema} {field : Member}

/-- A field is bound to the entity that it resolves to. -/
theorem bind_eq_ok_iff_isBindingOf
    {target : ClassDeclaration}
    {binding : InjectionBinding} :
    bind component target field = .ok binding ↔
      IsBindingOf component field binding := by
  rw [bind_eq_ok_iff]
  constructor
  · rintro ⟨entity, stored, listed, rfl⟩
    exact ⟨rfl, rfl, stored, ComponentSchema.containsEntity_iff.mp listed⟩
  · obtain ⟨fieldName, declaredType, entity⟩ := binding
    rintro ⟨rfl, rfl, stored, listed⟩
    exact ⟨entity, stored, ComponentSchema.containsEntity_iff.mpr listed, rfl⟩

theorem exists_bind_eq_ok_iff
    (target : ClassDeclaration) :
    (∃ binding, bind component target field = .ok binding) ↔
      ∃ entity, Resolves component field entity := by
  simp only [bind_eq_ok_iff_isBindingOf]
  constructor
  · rintro ⟨binding, isBinding⟩
    exact ⟨binding.entityName, isBinding.resolves⟩
  · rintro ⟨entity, resolves⟩
    exact ⟨⟨field.name, field.typeName, entity⟩, rfl, rfl, resolves⟩

/-- A field that does not resolve is reported with its type. -/
theorem bind_eq_error_iff
    {target : ClassDeclaration}
    {error : SchemaError} :
    bind component target field = .error error ↔
      (∀ entity, ¬Resolves component field entity) ∧
        error = .unresolvedInjection component.className target.name field.name
          field.typeName := by
  rw [← not_exists, ← exists_bind_eq_ok_iff target, bind]
  cases (Naming.storedEntity? field.typeName).filter component.containsEntity
    with
  | none => simp [eq_comm]
  | some entity => simp

end

/-! ## All fields of a target -/

section

variable {component : ComponentSchema} {target : ClassDeclaration}

/-- The injected fields of a target are those of its members that are
injected. -/
theorem injectedFields_eq
    (target : ClassDeclaration) :
    injectedFields target = target.members.filter Member.IsInjected := by
  rw [injectedFields, ClassDeclaration.fields, List.filter_filter]
  congr 1
  funext member
  rw [Bool.eq_iff_iff, decide_eq_true_iff, Bool.and_eq_true,
    Member.annotationNamed?, annotationNamed?, List.find?_isSome]
  simp [Member.IsInjected, Member.isField, and_comm]

/-- The assignments of an injector say what its bindings say. -/
theorem statements_of_bindings
    {plan : InjectionPlan}
    (componentClass : plan.componentClass = component.generatedClassName)
    {fields : List Member}
    (bindings : List.Forall₂ (IsBindingOf component) fields plan.bindings) :
    List.Forall₂ (IsAssignmentOf component) fields plan.statements := by
  refine List.forall₂_map_right_iff.mpr
    (bindings.imp fun field binding isBinding => ?_)
  refine ⟨binding.entityName, isBinding.resolves, ?_⟩
  rw [statement, componentClass, isBinding.fieldName]
  rfl

/-- What is built for a target is its injector. -/
theorem build_eq_ok_iff_isInjectorOf
    {plan : InjectionPlan} :
    (build component target).outcome = .ok plan ↔
      IsInjectorOf component target plan := by
  rw [build_eq_ok_iff, injectedFields_eq]
  simp only [Yields, bind_eq_ok_iff_isBindingOf]
  constructor
  · rintro ⟨bindings, isBinding, rfl⟩
    exact ⟨rfl, rfl, rfl, isBinding, statements_of_bindings rfl isBinding⟩
  · obtain ⟨package, targetClass, componentClass, bindings⟩ := plan
    rintro ⟨rfl, rfl, rfl, isBinding, -⟩
    exact ⟨bindings, isBinding, rfl⟩

/-- There is an injector for a target exactly when all its injected fields
resolve. -/
theorem exists_build_eq_ok_iff :
    (∃ plan, (build component target).outcome = .ok plan) ↔
      AllResolve component target.members := by
  have built : (∃ plan, (build component target).outcome = .ok plan) ↔
      ∃ bindings, Yields (bind component target)
        (injectedFields target) bindings := by
    simp only [build_eq_ok_iff]
    exact ⟨fun ⟨_, bindings, yields, _⟩ => ⟨bindings, yields⟩,
      fun ⟨bindings, yields⟩ => ⟨_, bindings, yields, rfl⟩⟩
  rw [built, exists_yields_iff, injectedFields_eq]
  simp only [exists_bind_eq_ok_iff, List.mem_filter, decide_eq_true_eq, and_imp]
  rfl

/-- A target is refused for the first injected field that does not resolve. -/
theorem build_eq_error_iff
    {error : SchemaError} :
    (build component target).outcome = .error error ↔
      ∃ field,
        Reaches (fun earlier => earlier.IsInjected →
          ∃ entity, Resolves component earlier entity)
          target.members field ∧
        field.IsInjected ∧ (∀ entity, ¬Resolves component field entity) ∧
        error = .unresolvedInjection component.className target.name field.name
          field.typeName := by
  have reported : (build component target).outcome = .error error ↔
      (injectedFields target).mapM (bind component target) = .error error := by
    rw [build, Traced.outcome_bind, Traced.outcome_ofExcept,
      Traversal.bind_eq_error_iff]
    refine or_iff_left ?_
    rintro ⟨bindings, -, failed⟩
    cases failed
  rw [reported, mapM_eq_error_iff, injectedFields_eq]
  simp only [exists_bind_eq_ok_iff, bind_eq_error_iff, reaches_filter_iff,
    decide_eq_true_eq, and_assoc]

/-- A target has the injector, or the error, of its injected fields alone. -/
theorem build_filter_isInjected
    (component : ComponentSchema)
    (target : ClassDeclaration) :
    build component
      { target with members := target.members.filter Member.IsInjected } =
      build component target := by
  have sameFields : injectedFields
      { target with members := target.members.filter Member.IsInjected } =
        injectedFields target := by
    rw [injectedFields_eq, injectedFields_eq, List.filter_filter]
    simp only [Bool.and_self]
  unfold build
  rw [sameFields]
  rfl

/-- A target has an injector exactly when every injected field of it resolves to
an entity of the component.  The injector then has the bindings and the
assignments of these fields in order.  Otherwise the error names the first of
them that does not resolve, with its own type.  Methods and fields without the
mark do not count. -/
theorem build_exact
    (component : ComponentSchema)
    (target : ClassDeclaration) :
    ((∃ plan, (build component target).outcome = .ok plan) ↔
        AllResolve component target.members) ∧
      (∀ plan, (build component target).outcome = .ok plan ↔
        IsInjectorOf component target plan) ∧
      (∀ error, (build component target).outcome = .error error ↔
        ∃ field,
          Reaches (fun earlier => earlier.IsInjected →
            ∃ entity, Resolves component earlier entity)
            target.members field ∧
          field.IsInjected ∧ (∀ entity, ¬Resolves component field entity) ∧
          error =
            .unresolvedInjection component.className target.name field.name
            field.typeName) ∧
      build component
        { target with members := target.members.filter Member.IsInjected } =
        build component target :=
  ⟨exists_build_eq_ok_iff, fun _ => build_eq_ok_iff_isInjectorOf,
    fun _ => build_eq_error_iff, build_filter_isInjected component target⟩

end

end InjectionPlan
end PreferenceSchema
