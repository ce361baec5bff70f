import PreferenceSchema.Proofs.KeyReferences

/-!
# Accessors added to a class

A custom accessor at the end of an entity that fits one of its keys changes the
plan of that key in the role of the accessor, and nothing else: the value of
this one generated method goes through the accessor, in place of any earlier
one.
-/

namespace PreferenceSchema

open Traversal Collection AccessorFunction

/-! ## Calls through another function -/

/-- The call, with its value handed to the given function. -/
def StorageCall.through (function : String) : StorageCall → StorageCall
  | .read method key default _ => .read method key default (some function)
  | .write method key argument _ => .write method key argument (some function)
  | .contains key => .contains key
  | .remove key => .remove key

/-- The method, with its value handed to the given function. -/
def AccessorPlan.through
    (plan : AccessorPlan)
    (function : String) : AccessorPlan :=
  { plan with call := plan.call.through function }

/-- The methods of a key, with the value of one role handed to the given
function. -/
def AccessorSet.through
    (set : AccessorSet)
    (role : AccessorRole)
    (function : String) : AccessorSet :=
  match role with
  | .getter => { set with getter := set.getter.through function }
  | .setter => { set with setter := set.setter.through function }

namespace Overrides

theorem ofEntries_concat
    (entries : List Entry)
    (last : Entry) :
    ofEntries (entries ++ [last]) = (ofEntries entries).insertEntry last := by
  simp [ofEntries]

end Overrides

namespace EntitySchema

/-- The schema with one more custom accessor. -/
def withOverride
    (schema : EntitySchema)
    (key : String)
    (role : AccessorRole)
    (function : AccessorFunction) : EntitySchema :=
  { schema with overrides := schema.overrides.insert key role function }

theorem get?_withOverride
    (schema : EntitySchema)
    (key : String)
    (role : AccessorRole)
    (function : AccessorFunction)
    (otherRole : AccessorRole)
    (otherKey : String) :
    ((schema.withOverride key role function).overrides.ofRole otherRole).get?
      otherKey =
      if key = otherKey ∧ role = otherRole then some function
      else (schema.overrides.ofRole otherRole).get? otherKey :=
  schema.overrides.get?_insertEntry (key, role, function) otherRole otherKey

/-- One more custom accessor changes the methods of its key, and of these the
one of its role. -/
theorem planAccessors_withOverride
    (schema : EntitySchema)
    (key : String)
    (role : AccessorRole)
    (function : AccessorFunction)
    (handle : String) :
    (schema.withOverride key role function).planAccessors handle =
      (schema.planAccessors handle).map fun set =>
        if set.keyName = key then set.through role function.name else set := by
  rw [planAccessors, planAccessors, List.map_map]
  apply List.map_congr_left
  intro field _
  have getter :
      (schema.withOverride key role function).getter? field.keyName = _ :=
    schema.get?_withOverride key role function .getter field.keyName
  have setter :
      (schema.withOverride key role function).setter? field.keyName = _ :=
    schema.get?_withOverride key role function .setter field.keyName
  change _ = if field.keyName = key then
    AccessorSet.through _ role function.name else _
  rw [getter, setter]
  by_cases sameKey : field.keyName = key
  · rw [if_pos sameKey]
    cases role with
    | getter =>
        rw [if_pos ⟨sameKey.symm, rfl⟩, if_neg (by simp)]
        rfl
    | setter =>
        rw [if_neg (by simp), if_pos ⟨sameKey.symm, rfl⟩]
        rfl
  · have otherKey (otherRole : AccessorRole) :
        ¬(key = field.keyName ∧ role = otherRole) :=
      fun both => sameKey both.1.symm
    rw [if_neg sameKey, if_neg (otherKey .getter), if_neg (otherKey .setter)]
    rfl

/-- What a planned method hands its value to is what the schema keeps for its
key and role. -/
theorem wrapper?_of_mem_planAccessors
    {schema : EntitySchema}
    {handle : String}
    {set : AccessorSet}
    (planned : set ∈ schema.planAccessors handle)
    (role : AccessorRole) :
    (set.ofRole role).call.wrapper? =
      ((schema.overrides.ofRole role).get? set.keyName).map
        AccessorFunction.name := by
  obtain ⟨field, -, rfl⟩ := List.mem_map.mp planned
  exact wrapper?_planWith handle schema field role

/-- The method of the key and role of one more accessor hands its value to this
accessor. -/
theorem wrapper?_planAccessors_withOverride
    {schema : EntitySchema}
    {key : String}
    {role : AccessorRole}
    {function : AccessorFunction}
    {handle : String}
    {set : AccessorSet}
    (planned :
      set ∈ (schema.withOverride key role function).planAccessors handle)
    (sameKey : set.keyName = key) :
    (set.ofRole role).call.wrapper? = some function.name := by
  rw [wrapper?_of_mem_planAccessors planned, sameKey, get?_withOverride,
    if_pos ⟨rfl, rfl⟩]
  rfl

section

variable {decl : ClassDeclaration} {schema : EntitySchema} {field : KeyField}
  {role : AccessorRole} {method : Member} {parameter : Parameter}
  (accepted : (build decl).outcome = .ok schema)
  (present : field ∈ schema.keyFields)
  (accesses : AccessesBy role field.keyName field.type method parameter)
  (free : ¬Reserved schema.keyFields method.name)

include accepted present accesses free

/-- An entity with one more accessor at its end has the same schema but for that
accessor. -/
theorem outcome_build_withMethod_of_accessesBy :
    (build (withMethod decl decl.members method [])).outcome =
      .ok (schema.withOverride field.keyName role
        ⟨method.name, parameter.name, field.type⟩) := by
  obtain ⟨fields, entries, accepts, yields, rfl⟩ := build_eq_ok_iff.mp accepted
  rw [keyFields, KeyTable.fields_ofFields] at present free
  have members : decl.members = decl.members ++ [] := (List.append_nil _).symm
  have notField := accesses.customizes.isMethod
  have counts : isCustom method = true :=
    (customizes_iff_keyOf.mp accesses.customizes).2.1
  have resolved : resolve decl.name (KeyTable.ofFields fields) method =
      .ok (field.keyName, role, ⟨method.name, parameter.name, field.type⟩) :=
    (resolve_eq_ok_iff accepts.resolvesTo.distinct).mpr
      ⟨accesses.customizes.keyOf_eq.symm, field, present,
        accesses.customizes.keyOf_eq.symm, accesses.ofSignature_eq⟩
  have customs :
      (withMethod decl decl.members method []).methods.filter isCustom =
      decl.methods.filter isCustom ++ [method] := by
    simp [ClassDeclaration.methods, notField, counts]
  have extendedYields : Yields (resolve decl.name (KeyTable.ofFields fields))
      ((withMethod decl decl.members method []).methods.filter isCustom)
      (entries ++
        [(field.keyName, role,
          ⟨method.name, parameter.name, field.type⟩)]) := by
    rw [customs]
    exact List.rel_append yields (.cons resolved .nil)
  refine build_eq_ok_iff.mpr ⟨fields, _, ?_, extendedYields, ?_⟩
  · exact accepts_withMethod members notField accepts free
      ⟨field, present, accesses.fits rfl rfl⟩
  · rw [Overrides.ofEntries_concat]
    rfl

/-- Let an accessor that fits a key be added at the end of an accepted entity.
The entity is still accepted, with the same keys and the same storage name.  Its
plans are those from before, one for each key and in the same order, but for the
generated method of the key in the role of the accessor.  The plan of the key is
among them, and this method now hands its value to the accessor. -/
theorem accessor_changes_one_plan :
    ∃ extended,
      (build (withMethod decl decl.members method [])).outcome = .ok extended ∧
      extended.keyFields = schema.keyFields ∧
      extended.storageName = schema.storageName ∧
      ∀ handle,
        (schema.planAccessors handle).map AccessorSet.keyName =
          schema.keyNames ∧
        (extended.planAccessors handle).map AccessorSet.keyName =
          schema.keyNames ∧
        schema.keyNames.Nodup ∧
        (extended.planAccessors handle =
          (schema.planAccessors handle).map fun set =>
            if set.keyName = field.keyName then set.through role method.name
            else set) ∧
        (∀ set ∈ extended.planAccessors handle, set.keyName = field.keyName →
          (set.ofRole role).call.wrapper? = some method.name) ∧
        ∃ set ∈ extended.planAccessors handle, set.keyName = field.keyName ∧
          (set.ofRole role).call.wrapper? = some method.name := by
  have built :=
    outcome_build_withMethod_of_accessesBy accepted present accesses free
  refine ⟨_, built, rfl, rfl, ?_⟩
  intro handle
  have isKey : field.keyName ∈ schema.keyNames := List.mem_map_of_mem present
  obtain ⟨set, planned, sameKey⟩ : ∃ set ∈
      (schema.withOverride field.keyName role
        ⟨method.name, parameter.name, field.type⟩).planAccessors handle,
      set.keyName = field.keyName :=
    exists_mem_planAccessors handle isKey
  exact ⟨map_keyName_planAccessors handle schema,
    map_keyName_planAccessors handle _,
    (resolvesTo_of_build_eq_ok accepted).distinct,
    planAccessors_withOverride schema field.keyName role _ handle,
    fun _ => wrapper?_planAccessors_withOverride,
    set, planned, sameKey, wrapper?_planAccessors_withOverride planned sameKey⟩

end

/-- An accessor for a key that has a setter already. -/
def putLower : Member :=
  customMethod "putLower" "String" "name"

theorem putLower_accessesBy :
    AccessesBy .setter "name" .string putLower ⟨"value", "String"⟩ where
  customizes :=
    ⟨rfl, rfl, ⟨⟨Naming.functionMark, [("keyname", "name")]⟩, rfl, rfl⟩,
      "Lower", rfl⟩
  parameters := rfl
  parameterType := resolve?_string
  returnType := resolve?_string

/-- The class has a setter for its first key.  The added one takes its place,
and the plan of the other key stays as it is. -/
theorem putLower_changes_one_plan :
    (build account).outcome = .ok accountSchema ∧
      (accountSchema.planAccessors "preference").map
          (fun set =>
            (set.keyName, set.getter.call.wrapper?, set.setter.call.wrapper?)) =
        [("name", none, some "putUpper"), ("visits", none, none)] ∧
      ∃ extended,
        (build (withMethod account account.members putLower [])).outcome =
        .ok extended ∧
        (extended.planAccessors "preference").map
            (fun set =>
              (set.keyName, set.getter.call.wrapper?,
                set.setter.call.wrapper?)) =
          [("name", none, some "putLower"), ("visits", none, none)] ∧
        ∀ handle, extended.planAccessors handle =
          (accountSchema.planAccessors handle).map fun set =>
            if set.keyName = "name" then set.through .setter "putLower"
            else set := by
  have accepted : (build account).outcome = .ok accountSchema := by
    decide +kernel
  have present : (⟨"name", "name", .string, .string ""⟩ : KeyField) ∈
      accountSchema.keyFields := by
    decide +kernel
  have free : ¬Reserved accountSchema.keyFields putLower.name := by
    decide +kernel
  obtain ⟨extended, built, -, -, plans⟩ :=
    accessor_changes_one_plan accepted present putLower_accessesBy free
  have extendedPlans (handle : String) := (plans handle).2.2.2.1
  refine ⟨accepted, by decide +kernel, extended, built, ?_, extendedPlans⟩
  rw [extendedPlans]
  decide +kernel

end EntitySchema
end PreferenceSchema
