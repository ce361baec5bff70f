import PreferenceSchema.Proofs.AccessorNames

/-!
# Overrides of generated accessors

The custom accessor that a generated getter or setter hands its value to is
found by a search of the class from its end: the last public method that is
marked for the key and named for the role.
-/

namespace PreferenceSchema

open Traversal Collection AccessorFunction

namespace AccessorFunction

/-- A member is a public method that is marked for a key, a missing key counting
as the empty text, and its name starts as those of a role do. -/
structure Customizes
    (role : AccessorRole)
    (key : String)
    (member : Member) : Prop where
  isMethod : member.isField = false
  isPublic : member.isPublic = true
  marked : ∃ mark, member.annotationNamed? Naming.functionMark = some mark ∧
    (mark.get? "keyname").getD "" = key
  named : ∃ rest, member.name = role.start ++ rest

/-- Whether a custom accessor that counts has the key and the role. -/
def refersTo
    (role : AccessorRole)
    (key : String)
    (member : Member) : Bool :=
  keyOf member == key && AccessorRole.ofName? member.name == some role

/-- Whether a member is a custom accessor of a key in a role. -/
def customizes
    (role : AccessorRole)
    (key : String)
    (member : Member) : Bool :=
  !member.isField && (isCustom member && refersTo role key member)

theorem customizes_iff
    {role : AccessorRole}
    {key : String}
    {member : Member} :
    customizes role key member = true ↔ Customizes role key member := by
  have named : AccessorRole.ofName? member.name = some role ↔
      ∃ rest, member.name = role.start ++ rest :=
        AccessorRole.ofName?_eq_some_iff
  simp only [customizes, isCustom, refersTo, keyOf, Bool.and_eq_true,
    Bool.not_eq_true', beq_iff_eq, named]
  constructor
  · rintro ⟨isMethod, ⟨hasMark, isPublic⟩, key_eq, startsSo⟩
    obtain ⟨mark, found⟩ := Option.isSome_iff_exists.mp hasMark
    rw [found] at key_eq
    exact ⟨isMethod, isPublic, ⟨mark, found, key_eq⟩, startsSo⟩
  · rintro ⟨isMethod, isPublic, ⟨mark, found, key_eq⟩, startsSo⟩
    rw [found]
    exact ⟨isMethod, ⟨rfl, isPublic⟩, key_eq, startsSo⟩

theorem Customizes.keyOf_eq
    {role : AccessorRole}
    {key : String}
    {member : Member}
    (customizes : Customizes role key member) : keyOf member = key := by
  obtain ⟨mark, marked, equal⟩ := customizes.marked
  rw [keyOf, marked]
  exact equal

/-- An entry has the key, the role and the name of its method. -/
theorem entry_of_resolve_eq_ok
    {className : String}
    {fields : List KeyField}
    {method : Member}
    {entry : Overrides.Entry}
    (distinct : (fields.map KeyField.keyName).Nodup)
    (resolved : resolve className (KeyTable.ofFields fields) method =
      .ok entry) :
    keyOf method = entry.1 ∧ AccessorRole.ofName? method.name = some entry.2.1 ∧
      method.name = entry.2.2.name := by
  obtain ⟨key, role, function⟩ := entry
  obtain ⟨rfl, field, -, -, signed⟩ := (resolve_eq_ok_iff distinct).mp resolved
  obtain ⟨parameter, -, -, -, startsSo, rfl⟩ := ofSignature_eq_ok_iff.mp signed
  exact ⟨rfl, AccessorRole.ofName?_eq_some_iff.mpr startsSo, rfl⟩

end AccessorFunction

namespace EntitySchema

/-- The methods that count are searched as all members are. -/
theorem find?_refersTo
    (decl : ClassDeclaration)
    (role : AccessorRole)
    (key : String) :
    (decl.methods.filter isCustom).reverse.find? (refersTo role key) =
      decl.members.reverse.find? (customizes role key) := by
  rw [ClassDeclaration.methods, ← List.filter_reverse, ← List.filter_reverse,
    List.find?_filter, List.find?_filter]
  simp only [Bool.decide_and, Bool.decide_eq_true]
  rfl

/-- The custom accessor that an accepted class keeps for a key and a role is the
last member that is one. -/
theorem map_name_get?_overrides
    {decl : ClassDeclaration}
    {schema : EntitySchema}
    (accepted : (build decl).outcome = .ok schema)
    (role : AccessorRole)
    (key : String) :
    ((schema.overrides.ofRole role).get? key).map AccessorFunction.name =
      (decl.members.reverse.find? (customizes role key)).map Member.name := by
  obtain ⟨fields, entries, accepts, yields, rfl⟩ := build_eq_ok_iff.mp accepted
  have distinct := accepts.resolvesTo.distinct
  calc
    _ = (entries.reverse.find? fun entry =>
          entry.1 == key && entry.2.1 == role).map
          fun entry => entry.2.2.name := by
      rw [Overrides.get?_ofEntries, Option.map_map]
      rfl
    _ = ((decl.methods.filter isCustom).reverse.find? (refersTo role key)).map
        Member.name := by
      refine map_find?_of_forall₂ (List.forall₂_reverse_iff.mpr yields) ?_ ?_
      · intro method entry resolved
        obtain ⟨sameKey, sameRole, -⟩ :=
          entry_of_resolve_eq_ok distinct resolved
        rw [refersTo, sameKey, sameRole]
        rfl
      · intro method entry resolved
        exact (entry_of_resolve_eq_ok distinct resolved).2.2
    _ = (decl.members.reverse.find? (customizes role key)).map Member.name := by
      rw [find?_refersTo]

end EntitySchema

/-- The accessor that a custom one of the role takes the place of. -/
def AccessorSet.ofRole (set : AccessorSet) : AccessorRole → AccessorPlan
  | .getter => set.getter
  | .setter => set.setter

/-- The accessors that no custom one takes the place of. -/
def AccessorSet.uncustomized (set : AccessorSet) : List AccessorPlan :=
  [set.contains, set.remove]

/-- The getter and the setter of a key hand their value to the last custom
accessor for them among the members of a class, and to nothing where there is
none. -/
structure RoutesOverrides
    (members : List Member)
    (set : AccessorSet) : Prop where
  wrapper_iff : ∀ role name, (set.ofRole role).call.wrapper? = some name ↔
    ∃ member, IsLast (Customizes role set.keyName) members member ∧
      member.name = name
  noWrapper_iff : ∀ role, (set.ofRole role).call.wrapper? = none ↔
    ∀ member ∈ members, ¬Customizes role set.keyName member

namespace EntitySchema

/-- The planned getter and setter of a key wrap what the schema keeps for it. -/
theorem wrapper?_planWith
    (handle : String)
    (schema : EntitySchema)
    (field : KeyField)
    (role : AccessorRole) :
    ((AccessorSet.planWith handle field (schema.getter? field.keyName)
        (schema.setter? field.keyName)).ofRole role).call.wrapper? =
      ((schema.overrides.ofRole role).get? field.keyName).map
        AccessorFunction.name := by
  cases role <;> rfl

theorem routesOverrides_planWith
    {decl : ClassDeclaration}
    {schema : EntitySchema}
    (accepted : (build decl).outcome = .ok schema)
    (handle : String)
    (field : KeyField) :
    RoutesOverrides decl.members
      (.planWith handle field (schema.getter? field.keyName)
        (schema.setter? field.keyName)) := by
  constructor
  · intro role name
    rw [wrapper?_planWith, map_name_get?_overrides accepted,
      Option.map_eq_some_iff]
    simp only [find?_reverse_eq_some_iff, customizes_iff]
    rfl
  · intro role
    rw [wrapper?_planWith, map_name_get?_overrides accepted,
      Option.map_eq_none_iff, List.find?_eq_none]
    simp only [List.mem_reverse, customizes_iff]
    rfl

/-- There is one set of accessors for each key, in the order of the keys. -/
theorem map_keyName_planAccessors
    (handle : String)
    (schema : EntitySchema) :
    (schema.planAccessors handle).map AccessorSet.keyName =
      schema.keyNames := by
  rw [planAccessors, keyNames, List.map_map]
  rfl

/-- Every key has a set of accessors. -/
theorem exists_mem_planAccessors
    (handle : String)
    {schema : EntitySchema}
    {key : String}
    (isKey : key ∈ schema.keyNames) :
    ∃ set ∈ schema.planAccessors handle, set.keyName = key := by
  rw [← map_keyName_planAccessors handle] at isKey
  exact List.mem_map.mp isKey

/-- For an accepted class every key has one set of accessors.  Its getter and
its setter hand their value to the last custom accessor for them, and custom
accessors change nothing else: the other two methods are those of a schema
without any. -/
theorem overrides_routed_to_last
    {decl : ClassDeclaration}
    {schema : EntitySchema}
    (accepted : (build decl).outcome = .ok schema)
    (handle : String) :
    (schema.planAccessors handle).map AccessorSet.keyName = schema.keyNames ∧
      schema.keyNames.Nodup ∧
      (∀ set ∈ schema.planAccessors handle, RoutesOverrides decl.members set) ∧
      (schema.planAccessors handle).map AccessorSet.uncustomized =
        ({ schema with overrides := .empty }.planAccessors handle).map
          AccessorSet.uncustomized := by
  refine ⟨map_keyName_planAccessors handle schema, ?_, ?_, ?_⟩
  · exact (resolvesTo_of_build_eq_ok accepted).distinct
  · intro set planned
    obtain ⟨field, -, rfl⟩ := List.mem_map.mp planned
    exact routesOverrides_planWith accepted handle field
  · rw [planAccessors, planAccessors, List.map_map, List.map_map]
    rfl

/-- A public method from a type to itself that is marked for a key. -/
def customMethod (name typeName key : String) : Member :=
  (((Member.method name typeName).withModifier .public).withParameter "value"
    typeName).annotated
    ⟨Naming.functionMark, [("keyname", key)]⟩

/-- A class with two setters for one of its keys, a marked field, and a marked
method that is not public. -/
def account : ClassDeclaration where
  name := "Account"
  package := none
  annotations := []
  members := [
    .field "name" "String",
    customMethod "putTrimmed" "String" "name",
    (Member.field "visits" "int").annotated
      ⟨Naming.functionMark, [("keyname", "name")]⟩,
    customMethod "putUpper" "String" "name",
    ((Member.method "getDoubled" "int").withParameter "count" "int").annotated
      ⟨Naming.functionMark, [("keyname", "visits")]⟩]

/-- The schema of the class: the later setter is kept. -/
def accountSchema : EntitySchema where
  package := none
  className := "Account"
  storageName := "Account"
  keys := .ofFields [⟨"name", "name", .string, .string ""⟩,
    ⟨"visits", "visits", .integer, .integer 0⟩]
  overrides := .ofEntries [("name", .setter, ⟨"putUpper", "value", .string⟩)]

theorem account_overrides_routed :
    (build account).outcome = .ok accountSchema ∧
      (accountSchema.planAccessors "preference").map AccessorSet.keyName =
        accountSchema.keyNames ∧
      accountSchema.keyNames.Nodup ∧
      (∀ set ∈ accountSchema.planAccessors "preference",
        RoutesOverrides account.members set) ∧
      (accountSchema.planAccessors "preference").map AccessorSet.uncustomized =
        ({ accountSchema with overrides :=
          .empty }.planAccessors "preference").map
          AccessorSet.uncustomized := by
  have accepted : (build account).outcome = .ok accountSchema := by
    decide +kernel
  exact ⟨accepted, overrides_routed_to_last accepted "preference"⟩

end EntitySchema
end PreferenceSchema
