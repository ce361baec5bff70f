import PreferenceSchema.AccessorPlan
import PreferenceSchema.Proofs.LowerCase
import PreferenceSchema.Proofs.SchemaInvariant

/-!
# The parameters of setters

The body of a setter names the storage handle and, behind it, the value to be
written.  The handle is an option of the pass and the name of the value is the
key in lower case, and nothing keeps the two apart: a key that is the handle in
lower case makes a setter whose parameter hides the handle.
-/

namespace PreferenceSchema

/-- The setters of keys leave the storage handle visible: no parameter has its
name. -/
def LeaveVisible
    (handle : String)
    (sets : List AccessorSet) : Prop :=
  ∀ set ∈ sets, ∀ parameter, set.setter.parameter = some parameter →
    parameter.name ≠ handle

namespace EntitySchema

/-- The setters of an entity leave the handle visible if none of its keys is the
handle in lower case. -/
theorem leaveVisible_planAccessors_iff
    (handle : String)
    (schema : EntitySchema) :
    LeaveVisible handle (schema.planAccessors handle) ↔
      ∀ key ∈ schema.keyNames, lowerCase key ≠ handle := by
  simp only [LeaveVisible, planAccessors, keyNames, List.forall_mem_map]
  constructor
  · intro visible field present
    exact visible field present ⟨field.parameterName, field.type⟩ rfl
  · intro apart field present parameter planned
    obtain rfl := Option.some.inj planned
    exact apart field present

/-- A class whose only field is its only key. -/
def oneKey (key : String) : ClassDeclaration where
  name := "Settings"
  package := none
  annotations := []
  members := [.field key "String"]

/-- The preference that the field declares. -/
def oneKeyField (key : String) : KeyField :=
  ⟨key, key, .string, .string ""⟩

/-- The schema of the class. -/
def oneKeySchema (key : String) : EntitySchema where
  package := none
  className := "Settings"
  storageName := "Settings"
  keys := .ofFields [oneKeyField key]
  overrides := .ofEntries []

/-- No accessor of a key has the name of the key. -/
theorem not_reserved_oneKeyField
    (key : String) :
    ¬Reserved [oneKeyField key] key := by
  rintro ⟨start, isStart, field, present, equal⟩
  rw [List.mem_singleton.mp present] at equal
  have chars : key.toList = start.toList ++ key.toList := by
    rw [← String.toList_append]
    exact congrArg String.toList equal
  exact start_ne_nil start isStart (List.self_eq_append_left.mp chars)

theorem outcome_resolve_oneKey
    (key : String) :
    (KeyField.resolve "Settings" (.field key "String")).outcome =
      .ok (oneKeyField key) := by
  have typed : SemanticType.resolve? (Member.field key "String").typeName =
      some .string := by
    change SemanticType.resolve? "String" = some .string
    decide +kernel
  rw [KeyField.outcome_resolve_of_resolve?_eq_some typed]
  rfl

/-- Every text is the key of some accepted class. -/
theorem outcome_build_oneKey
    (key : String) :
    (build (oneKey key)).outcome = .ok (oneKeySchema key) := by
  have accepts : Accepts (oneKey key) [oneKeyField key] := by
    refine ⟨?_, ⟨.cons (outcome_resolve_oneKey key) .nil, by simp⟩, ?_, ?_⟩
    · change ∃ c ∈ (upperCamel "Settings").toList, Text.isBlank c = false
      exact ⟨'S', by decide +kernel, by decide⟩
    · intro member present
      rw [List.mem_singleton.mp present]
      exact not_reserved_oneKeyField key
    · intro method present
      cases present
  have named : requestedName (oneKey key) = "Settings" := by
    change upperCamel "Settings" = "Settings"
    decide +kernel
  refine build_eq_ok_iff.mpr ⟨_, [], accepts, .nil, ?_⟩
  rw [named]
  rfl

/-- The setters of an accepted class leave the handle visible exactly when the
handle is the lower case of none of its keys.  So the handles that every class
leaves visible are those that are not in lower case. -/
theorem setters_leave_handle_visible_iff
    (handle : String) :
    (∀ decl schema, (build decl).outcome = .ok schema →
      (LeaveVisible handle (schema.planAccessors handle) ↔
        ∀ member ∈ decl.fields,
          lowerCase (KeyField.keyNameOf member) ≠ handle)) ∧
      ((∀ decl schema, (build decl).outcome = .ok schema →
        LeaveVisible handle (schema.planAccessors handle)) ↔
          lowerCase handle ≠ handle) := by
  constructor
  · intro decl schema accepted
    rw [leaveVisible_planAccessors_iff, keyNames_of_build_eq_ok accepted,
      List.forall_mem_map]
  constructor
  · intro visible
    have apart :=
      (leaveVisible_planAccessors_iff handle (oneKeySchema handle)).mp
      (visible (oneKey handle) (oneKeySchema handle)
        (outcome_build_oneKey handle))
    exact apart handle
      (by simp [keyNames, keyFields, oneKeySchema, oneKeyField])
  · intro changes decl schema _
    rw [leaveVisible_planAccessors_iff]
    rintro key - rfl
    exact changes (lowerCase_lowerCase key)

/-- With the handle that holds unless another is given, the key of that name
hides the handle. -/
theorem not_forall_leaveVisible :
    ¬∀ (handle : String) (decl : ClassDeclaration) (schema : EntitySchema),
      (build decl).outcome = .ok schema →
      LeaveVisible handle (schema.planAccessors handle) := by
  intro always
  have visible :=
    always Naming.defaultHandle (oneKey "preference")
      (oneKeySchema "preference")
    (outcome_build_oneKey "preference")
  rw [leaveVisible_planAccessors_iff] at visible
  exact visible "preference" (by decide) (by decide +kernel)

end EntitySchema
end PreferenceSchema
