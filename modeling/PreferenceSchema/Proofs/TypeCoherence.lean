import PreferenceSchema.Proofs.KeyResolution
import PreferenceSchema.Proofs.OverrideRouting
import PreferenceSchema.Proofs.Pass

/-!
# The types of a plan

The type of a key is found once, from the descriptor of its field.  Its default,
its custom accessors, the signatures of its generated accessors and the storage
calls in them all agree with that type.
-/

namespace PreferenceSchema

open Traversal EntitySchema

/-- The key that a call is about. -/
def StorageCall.key : StorageCall → String
  | .read _ key _ _ => key
  | .write _ key _ _ => key
  | .contains key => key
  | .remove key => key

/-- The accessors of a key field, together with its default and its custom
accessors, agree on its key and on its type. -/
structure Coherent
    (overrides : Overrides)
    (field : KeyField)
    (set : AccessorSet) : Prop where
  keyName_eq : set.keyName = field.keyName
  callKey_eq : ∀ method ∈ set.plans, method.call.key = field.keyName
  getter_returns : set.getter.returns = .value field.type
  getter_reads : ∃ wrapper,
    set.getter.call =
      .read ("get" ++ field.type.storageSuffix)
        field.keyName field.default.literal wrapper
  setter_writes : ∃ parameter wrapper,
    set.setter.parameter = some parameter ∧ parameter.type = field.type ∧
      set.setter.call =
        .write ("put" ++ field.type.storageSuffix)
          field.keyName parameter.name wrapper
  default_type : field.default.semanticType = field.type
  default_finite : field.default.IsFinite
  wrapper_type : ∀ role wrapper,
    (set.ofRole role).call.wrapper? = some wrapper →
      ∃ function, (overrides.ofRole role).get? field.keyName = some function ∧
        function.name = wrapper
  override_type : ∀ role function,
    (overrides.ofRole role).get? field.keyName = some function →
      function.valueType = field.type

namespace EntitySchema

/-- The default of a key of an accepted class has the type of the key. -/
theorem semanticType_default_of_mem_keyFields
    {decl : ClassDeclaration}
    {schema : EntitySchema}
    (accepted : (build decl).outcome = .ok schema)
    {field : KeyField}
    (present : field ∈ schema.keyFields) :
    field.default.semanticType = field.type := by
  obtain ⟨member, -, resolved⟩ :=
    (resolvesTo_of_build_eq_ok accepted).yields.mem_iff.mp present
  exact KeyField.semanticType_default_of_resolve_eq_ok resolved

/-- A custom accessor that an accepted class keeps for a key has the type of the
key. -/
theorem valueType_of_mem_keyFields
    {decl : ClassDeclaration}
    {schema : EntitySchema}
    (accepted : (build decl).outcome = .ok schema)
    {field : KeyField}
    (present : field ∈ schema.keyFields)
    {role : AccessorRole}
    {function : AccessorFunction}
    (kept : (schema.overrides.ofRole role).get? field.keyName = some function) :
    function.valueType = field.type := by
  obtain ⟨-, -, -, -, -, -, owner, ownerPresent, sameKey, sameType⟩ :=
    override_of_build_eq_ok accepted kept
  have distinct : (schema.keyFields.map KeyField.keyName).Nodup :=
    (resolvesTo_of_build_eq_ok accepted).distinct
  rw [sameType, List.inj_on_of_nodup_map distinct ownerPresent present sameKey]

theorem coherent_planWith
    {decl : ClassDeclaration}
    {schema : EntitySchema}
    (accepted : (build decl).outcome = .ok schema)
    (handle : String)
    {field : KeyField}
    (present : field ∈ schema.keyFields) :
    Coherent schema.overrides field
      (.planWith handle field (schema.getter? field.keyName)
        (schema.setter? field.keyName)) where
  keyName_eq := rfl
  callKey_eq := by
    intro method planned
    simp only [AccessorSet.plans, AccessorSet.planWith, List.mem_cons,
      List.not_mem_nil, or_false] at planned
    rcases planned with rfl | rfl | rfl | rfl <;> rfl
  getter_returns := rfl
  getter_reads := ⟨_, rfl⟩
  setter_writes := ⟨_, _, rfl, rfl, rfl⟩
  default_type := semanticType_default_of_mem_keyFields accepted present
  default_finite := field.default.isFinite
  wrapper_type := by
    intro role wrapper wraps
    rw [wrapper?_planWith] at wraps
    exact Option.map_eq_some_iff.mp wraps
  override_type := fun _ _ kept =>
    valueType_of_mem_keyFields accepted present kept

end EntitySchema

namespace GenerationPlan

/-- In the plan of a pass every entity has one set of accessors for each of its
key fields, in their order, and the set agrees with the key field on its
type. -/
theorem accessors_coherent
    {configuration : Configuration}
    {entities components targets : List ClassDeclaration}
    {plan : GenerationPlan}
    (accepted : (build configuration entities components targets).outcome =
      .ok plan) :
    ∀ entity ∈ plan.entities,
      entity.accessors.length = entity.schema.keyFields.length ∧
        ∀ (index : Nat) (field : KeyField),
          entity.schema.keyFields[index]? = some field →
            ∃ set, entity.accessors[index]? = some set ∧
              Coherent entity.schema.overrides field set := by
  intro entity present
  obtain ⟨decl, -, built, planned⟩ :=
    (build_eq_ok_iff.mp accepted).exists_decl_of_mem present
  rw [planned, planAccessors]
  refine ⟨List.length_map _, ?_⟩
  intro index field fieldAt
  rw [List.getElem?_map, fieldAt]
  exact ⟨_, rfl, coherent_planWith built _ (List.mem_of_getElem? fieldAt)⟩

/-- A class with a floating default, a custom getter that spells the type of its
key in another way, and a key without a default. -/
def gauge : ClassDeclaration where
  name := "Gauge"
  package := none
  annotations := []
  members := [
    (Member.field "rate" "float").initialized "1.5f",
    customMethod "getRounded" "java.lang.Float" "rate",
    .field "visits" "i64"]

/-- The plan of the class alone. -/
def gaugePlan : GenerationPlan where
  entities := [entityOf "preference"
    { package := none
      className := "Gauge"
      storageName := "Gauge"
      keys := .ofFields
        [⟨"rate", "rate", .float, .float ⟨false, 0x3fc00000, by decide⟩⟩,
          ⟨"visits", "visits", .long, .long 0⟩]
      overrides := .ofEntries
        [("rate", .getter, ⟨"getRounded", "value", .float⟩)] }]
  components := []
  injectors := []

theorem gauge_accessors_coherent :
    (build .standard [gauge] [] []).outcome = .ok gaugePlan ∧
      ∀ entity ∈ gaugePlan.entities,
        entity.accessors.length = entity.schema.keyFields.length ∧
          ∀ (index : Nat) (field : KeyField),
            entity.schema.keyFields[index]? = some field →
              ∃ set, entity.accessors[index]? = some set ∧
                Coherent entity.schema.overrides field set := by
  have accepted : (build .standard [gauge] [] []).outcome = .ok gaugePlan := by
    decide +kernel
  exact ⟨accepted, accessors_coherent accepted⟩

end GenerationPlan
end PreferenceSchema
