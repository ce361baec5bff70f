import PreferenceSchema.AccessorPlan
import PreferenceSchema.Proofs.EntityConstruction

/-!
# The names of generated accessors

The accessors that are generated for an entity have names that differ from each
other and from the names of all members of the class.  A custom accessor is a
member, so no generated accessor is called where a custom one is meant.
-/

namespace PreferenceSchema

open EntitySchema

/-- The function that a call hands its value to. -/
def StorageCall.wrapper? : StorageCall → Option String
  | .read _ _ _ wrapper => wrapper
  | .write _ _ _ wrapper => wrapper
  | .contains _ => none
  | .remove _ => none

/-- All methods that are generated for an entity, in order. -/
def EntitySchema.generatedMethods
    (handle : String)
    (schema : EntitySchema) : List AccessorPlan :=
  (schema.planAccessors handle).flatMap AccessorSet.plans

namespace AccessorKind

/-- The names of the four accessors of a key. -/
def namesOf (key : String) : List String :=
  all.map fun kind => kind.start ++ key

/-- The names of all generated methods begin as reserved names do. -/
theorem start_mem_reservedStarts
    (kind : AccessorKind) :
    kind.start ∈ reservedStarts := by
  cases kind <;> decide

/-- The name of an accessor tells its kind and its key. -/
theorem accessorName_inj
    {left right : AccessorKind}
    {leftKey rightKey : String}
    (equal : left.start ++ leftKey = right.start ++ rightKey) :
    left = right ∧ leftKey = rightKey := by
  obtain ⟨sameStart, sameKey⟩ := start_append_inj left.start_mem_reservedStarts
    right.start_mem_reservedStarts equal
  refine ⟨?_, sameKey⟩
  cases left <;> cases right <;> simp [start] at sameStart ⊢

/-- The names for a key are the key behind the start of each kind of method. -/
theorem mem_namesOf_iff
    {key name : String} :
    name ∈ namesOf key ↔ ∃ kind : AccessorKind, name = kind.start ++ key := by
  rw [namesOf, List.mem_map]
  constructor
  · rintro ⟨kind, -, rfl⟩
    exact ⟨kind, rfl⟩
  · rintro ⟨kind, rfl⟩
    exact ⟨kind, by cases kind <;> decide, rfl⟩

theorem nodup_namesOf (key : String) : (namesOf key).Nodup := by
  refine List.Nodup.map_on ?_ (by decide)
  intro left _ right _ equal
  exact (accessorName_inj equal).1

/-- Distinct keys have accessors of distinct names. -/
theorem nodup_flatMap_namesOf
    {keys : List String}
    (distinct : keys.Nodup) : (keys.flatMap namesOf).Nodup := by
  rw [List.nodup_flatMap]
  refine ⟨fun key _ => nodup_namesOf key, distinct.imp ?_⟩
  intro leftKey rightKey different name inLeft inRight
  obtain ⟨left, rfl⟩ := mem_namesOf_iff.mp inLeft
  obtain ⟨right, equal⟩ := mem_namesOf_iff.mp inRight
  exact different (accessorName_inj equal).2

end AccessorKind

namespace EntitySchema

/-- The generated methods have the four names for each key, key by key. -/
theorem map_methodName_generatedMethods
    (handle : String)
    (schema : EntitySchema) :
    (schema.generatedMethods handle).map AccessorPlan.methodName =
      schema.keyNames.flatMap AccessorKind.namesOf := by
  rw [generatedMethods, planAccessors, keyNames, List.flatMap_map,
    List.flatMap_map, List.map_flatMap]
  rfl

theorem length_generatedMethods
    (handle : String)
    (schema : EntitySchema) :
    (schema.generatedMethods handle).length = 4 * schema.keyNames.length := by
  rw [← List.length_map AccessorPlan.methodName,
    map_methodName_generatedMethods, List.length_flatMap]
  simp [AccessorKind.namesOf, AccessorKind.all, Nat.mul_comm]

theorem mem_generatedMethods_iff
    {handle : String}
    {schema : EntitySchema}
    {method : AccessorPlan} :
    method ∈ schema.generatedMethods handle ↔
      ∃ field ∈ schema.keyFields,
        method ∈
          (AccessorSet.planWith handle field (schema.getter? field.keyName)
            (schema.setter? field.keyName)).plans := by
  rw [generatedMethods, planAccessors, List.flatMap_map, List.mem_flatMap]

/-- A generated accessor has the name of an accessor of some key. -/
theorem reserved_of_mem_generatedMethods
    {handle : String}
    {schema : EntitySchema}
    {method : AccessorPlan}
    (generated : method ∈ schema.generatedMethods handle) :
    Reserved schema.keyFields method.methodName := by
  have named : method.methodName ∈
      (schema.generatedMethods handle).map AccessorPlan.methodName :=
    List.mem_map_of_mem generated
  rw [map_methodName_generatedMethods, List.mem_flatMap] at named
  obtain ⟨key, isKey, inNames⟩ := named
  obtain ⟨field, present, rfl⟩ := List.mem_map.mp isKey
  obtain ⟨kind, equal⟩ := AccessorKind.mem_namesOf_iff.mp inNames
  exact ⟨kind.start, kind.start_mem_reservedStarts, field, present, equal⟩

/-- What a generated accessor hands its value to is a custom accessor of the
entity. -/
theorem override_of_wrapper?_eq_some
    {handle : String}
    {schema : EntitySchema}
    {method : AccessorPlan}
    {wrapper : String}
    (generated : method ∈ schema.generatedMethods handle)
    (wraps : method.call.wrapper? = some wrapper) :
    ∃ role key function,
      (schema.overrides.ofRole role).get? key = some function ∧
      function.name = wrapper := by
  obtain ⟨field, -, planned⟩ := mem_generatedMethods_iff.mp generated
  simp only [AccessorSet.plans, AccessorSet.planWith, List.mem_cons,
    List.not_mem_nil, or_false] at planned
  rcases planned with rfl | rfl | rfl | rfl
  · obtain ⟨function, kept, rfl⟩ := Option.map_eq_some_iff.mp wraps
    exact ⟨.getter, field.keyName, function, kept, rfl⟩
  · obtain ⟨function, kept, rfl⟩ := Option.map_eq_some_iff.mp wraps
    exact ⟨.setter, field.keyName, function, kept, rfl⟩
  · cases wraps
  · cases wraps

/-- The methods that are generated for a class have names of their own: they
collide neither with each other nor with a member, and no call in them goes back
to one of them. -/
structure CollisionFree
    (members : List Member)
    (methods : List AccessorPlan) : Prop where
  distinct : (methods.map AccessorPlan.methodName).Nodup
  apart : ∀ method ∈ methods, ∀ member ∈ members,
    method.methodName ≠ member.name
  noSelfCall : ∀ caller ∈ methods, ∀ wrapper,
    caller.call.wrapper? = some wrapper →
      ∀ method ∈ methods, method.methodName ≠ wrapper

/-- For an accepted class with `n` keys the `4 * n` accessors of its keys are
generated, under names of their own, on any handle. -/
theorem generated_accessors_collision_free
    {decl : ClassDeclaration}
    {schema : EntitySchema}
    (accepted : (build decl).outcome = .ok schema)
    (handle : String) :
    (schema.generatedMethods handle).map AccessorPlan.methodName =
        schema.keyNames.flatMap AccessorKind.namesOf ∧
      (schema.generatedMethods handle).length = 4 * schema.keyNames.length ∧
      CollisionFree decl.members (schema.generatedMethods handle) := by
  obtain ⟨fields, entries, accepts, -, equal⟩ := build_eq_ok_iff.mp accepted
  have sameFields : schema.keyFields = fields := by
    rw [equal, keyFields, KeyTable.fields_ofFields]
  have apart : ∀ method ∈ schema.generatedMethods handle,
      ∀ member ∈ decl.members,
      method.methodName ≠ member.name := by
    intro method generated member present sameName
    apply accepts.noReserved member present
    rw [← sameFields, ← sameName]
    exact reserved_of_mem_generatedMethods generated
  refine ⟨map_methodName_generatedMethods handle schema,
    length_generatedMethods handle schema, ?_, apart, ?_⟩
  · rw [map_methodName_generatedMethods]
    apply AccessorKind.nodup_flatMap_namesOf
    rw [keyNames, sameFields]
    exact accepts.resolvesTo.distinct
  · intro caller callerGenerated wrapper wraps method generated
    obtain ⟨role, key, function, kept, rfl⟩ :=
      override_of_wrapper?_eq_some callerGenerated wraps
    obtain ⟨custom, isMethod, -, -, sameName, -⟩ :=
      override_of_build_eq_ok accepted kept
    rw [sameName]
    exact apart method generated custom (List.mem_of_mem_filter isMethod)

/-- A class with the keys `name` and `putname`, and a custom setter for the
first of them. -/
def profile : ClassDeclaration where
  name := "Profile"
  package := none
  annotations := []
  members := [
    .field "name" "String",
    (Member.field "alias" "int").annotated
      ⟨Naming.keyMark, [("name", "putname")]⟩,
    (((Member.method "putUpper" "String").withModifier .public).withParameter
      "text"
      "String").annotated ⟨Naming.functionMark, [("keyname", "name")]⟩]

/-- The schema of the class. -/
def profileSchema : EntitySchema where
  package := none
  className := "Profile"
  storageName := "Profile"
  keys := .ofFields [⟨"name", "name", .string, .string ""⟩,
    ⟨"alias", "putname", .integer, .integer 0⟩]
  overrides := .ofEntries [("name", .setter, ⟨"putUpper", "text", .string⟩)]

theorem profile_accessors_collision_free :
    (build profile).outcome = .ok profileSchema ∧
      (profileSchema.generatedMethods "preference").map
        AccessorPlan.methodName =
        profileSchema.keyNames.flatMap AccessorKind.namesOf ∧
      (profileSchema.generatedMethods "preference").length =
        4 * profileSchema.keyNames.length ∧
      CollisionFree profile.members
        (profileSchema.generatedMethods "preference") := by
  have accepted : (build profile).outcome = .ok profileSchema := by
    decide +kernel
  exact ⟨accepted, generated_accessors_collision_free accepted "preference"⟩

end EntitySchema
end PreferenceSchema
