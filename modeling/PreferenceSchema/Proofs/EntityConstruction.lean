import PreferenceSchema.Proofs.CustomAccessors
import PreferenceSchema.Proofs.ReservedNames
import PreferenceSchema.Proofs.TextPieces

/-!
# The construction of entities

When a class is accepted as an entity, what schema it has then, and for which
fault it is refused otherwise.  The faults are sought in the order storage name,
fields, reserved names, custom accessors, and among the members in the order of
their declaration.
-/

namespace PreferenceSchema
namespace EntitySchema

open Traversal Collection AccessorFunction

/-- The storage name that a class asks for is not blank. -/
def HasName (decl : ClassDeclaration) : Prop :=
  ∃ c ∈ (requestedName decl).toList, Text.isBlank c = false

/-- Fields resolve, one by one, to key fields with distinct keys. -/
abbrev ResolvesTo
    (className : String)
    (members : List Member)
    (fields : List KeyField) : Prop :=
  Collects (fun member => (KeyField.resolve className member).outcome)
    KeyField.keyName members
    fields

/-- What makes a class an entity with the given key fields. -/
structure Accepts
    (decl : ClassDeclaration)
    (fields : List KeyField) : Prop where
  hasName : HasName decl
  resolvesTo : ResolvesTo decl.name decl.fields fields
  noReserved : ∀ member ∈ decl.members, ¬Reserved fields member.name
  accessorsFit : ∀ method ∈ decl.methods, isCustom method = true →
    ∃ field ∈ fields, Fits method field

/-- The first fault of a class that is no entity, as the error that reports
it. -/
inductive FirstFault (decl : ClassDeclaration) : SchemaError → Prop
  | name :
      ¬HasName decl →
      FirstFault decl (.missingName decl.name)
  | field {before after : List Member} {member : Member}
      {fields : List KeyField}
      {error : SchemaError} :
      HasName decl →
      decl.fields = before ++ member :: after →
      ResolvesTo decl.name before fields →
      (KeyField.resolve decl.name member).outcome = .error error →
      FirstFault decl error
  | key {before after : List Member} {member : Member} {fields : List KeyField}
      {field owner : KeyField} :
      HasName decl →
      decl.fields = before ++ member :: after →
      ResolvesTo decl.name before fields →
      (KeyField.resolve decl.name member).outcome = .ok field →
      owner ∈ fields →
      owner.keyName = field.keyName →
      FirstFault decl
        (.duplicateKey decl.name field.keyName owner.fieldName owner.type)
  | reserved {fields : List KeyField} {member : Member} {start : String}
      {field : KeyField} :
      HasName decl →
      ResolvesTo decl.name decl.fields fields →
      Reaches (fun earlier => ¬Reserved fields earlier.name)
        decl.members member →
      start ∈ reservedStarts →
      field ∈ fields →
      member.name = start ++ field.keyName →
      FirstFault decl (.reservedName decl.name member.name field.keyName)
  | accessor {fields : List KeyField} {method : Member} {error : SchemaError} :
      HasName decl →
      ResolvesTo decl.name decl.fields fields →
      (∀ member ∈ decl.members, ¬Reserved fields member.name) →
      Reaches (fun earlier => isCustom earlier = true →
        ∃ field ∈ fields, Fits earlier field)
        decl.methods method →
      isCustom method = true →
      Misfits decl.name fields method error →
      FirstFault decl error

/-! ## The phases -/

theorem hasName_iff
    (decl : ClassDeclaration) :
    HasName decl ↔ Text.trim (requestedName decl).toList ≠ [] := by
  rw [ne_eq, Text.trim_eq_nil_iff, HasName]
  simp

theorem storageNameOf_eq_ok_iff
    {decl : ClassDeclaration}
    {name : String} :
    storageNameOf decl = .ok name ↔
      HasName decl ∧ requestedName decl = name := by
  rw [storageNameOf, hasName_iff]
  split
  case isTrue blank => simp [blank]
  case isFalse named => simp [named]

theorem storageNameOf_eq_error_iff
    {decl : ClassDeclaration}
    {error : SchemaError} :
    storageNameOf decl = .error error ↔
      ¬HasName decl ∧ error = .missingName decl.name := by
  rw [storageNameOf, hasName_iff]
  split
  case isTrue blank => simp [blank, eq_comm]
  case isFalse named => simp [named]

/-- The key fields of members, none of which may have a key that an earlier one
has. -/
abbrev collectKeys
    (className : String)
    (members : List Member) : Except SchemaError (List KeyField) :=
  collect (fun member => (KeyField.resolve className member).outcome)
    KeyField.keyName
    (KeyTable.clash className) [] members

/-- A construction runs through its phases in order. -/
theorem outcome_build
    (decl : ClassDeclaration) :
    (build decl).outcome =
      (storageNameOf decl).bind fun storage =>
        (collectKeys decl.name decl.fields).bind fun fields =>
          (checkReserved decl.name (KeyTable.ofFields fields) decl.members).bind
              fun _ =>
            ((decl.methods.filter isCustom).mapM
                (resolve decl.name (KeyTable.ofFields fields))).map
                  fun entries =>
              { package := decl.package
                className := decl.name
                storageName := storage
                keys := KeyTable.ofFields fields
                overrides := Overrides.ofEntries entries } := by
  have noneHeld : (([] : List KeyField).map KeyField.keyName).Nodup :=
    List.nodup_nil
  have keysCollected :
      (KeyTable.addMembers decl.name .empty decl.fields).outcome =
      (collectKeys decl.name decl.fields).map KeyTable.ofFields :=
    KeyTable.outcome_addMembers decl.name noneHeld decl.fields
  rw [build, Traced.outcome_bind, Traced.outcome_ofExcept]
  cases storageNameOf decl with
  | error error => rfl
  | ok storage =>
      simp only [Except.bind, Traced.outcome_bind]
      rw [keysCollected]
      cases collectKeys decl.name decl.fields with
      | error error => rfl
      | ok fields =>
          simp only [Except.map, Traced.outcome_ofExcept]
          cases checkReserved decl.name (KeyTable.ofFields fields) decl.members
            with
          | error error => rfl
          | ok _ =>
              dsimp only
              rw [Overrides.outcome_addMembers]
              cases (decl.methods.filter isCustom).mapM
                (resolve decl.name (KeyTable.ofFields fields)) <;> rfl

/-! ## Acceptance -/

/-- A schema holds the key fields that the fields resolve to and what the
methods that count leave of their custom accessors. -/
theorem build_eq_ok_iff
    {decl : ClassDeclaration}
    {schema : EntitySchema} :
    (build decl).outcome = .ok schema ↔
      ∃ fields entries, Accepts decl fields ∧
        Yields (resolve decl.name (KeyTable.ofFields fields))
          (decl.methods.filter isCustom)
          entries ∧
        schema =
          { package := decl.package
            className := decl.name
            storageName := requestedName decl
            keys := KeyTable.ofFields fields
            overrides := Overrides.ofEntries entries } := by
  rw [outcome_build, bind_eq_ok_iff]
  simp only [bind_eq_ok_iff, map_eq_ok_iff, storageNameOf_eq_ok_iff,
    collect_nil_eq_ok_iff, mapM_eq_ok_iff]
  constructor
  · rintro ⟨name, ⟨named, rfl⟩, fields, resolved, ⟨⟩, free, entries,
      yields, rfl⟩
    refine ⟨fields, entries, ⟨named, resolved, ?_, ?_⟩, yields, rfl⟩
    · exact (checkReserved_eq_ok_iff resolved.distinct).mp free
    · intro method present counts
      have accepted := exists_yields_iff.mp ⟨entries, yields⟩ method
        (List.mem_filter.mpr ⟨present, counts⟩)
      exact (exists_resolve_eq_ok_iff resolved.distinct).mp accepted
  · rintro ⟨fields, entries, accepts, yields, rfl⟩
    exact ⟨_, ⟨accepts.hasName, rfl⟩, fields, accepts.resolvesTo, (),
      (checkReserved_eq_ok_iff accepts.resolvesTo.distinct).mpr
        accepts.noReserved,
      entries, yields, rfl⟩

/-- A class is accepted exactly when it is an entity with some key fields. -/
theorem exists_build_eq_ok_iff
    (decl : ClassDeclaration) :
    (∃ schema, (build decl).outcome = .ok schema) ↔
      ∃ fields, Accepts decl fields := by
  simp only [build_eq_ok_iff]
  constructor
  · rintro ⟨schema, fields, entries, accepts, -⟩
    exact ⟨fields, accepts⟩
  · rintro ⟨fields, accepts⟩
    have accepted : ∀ method ∈ decl.methods.filter isCustom,
        ∃ entry, resolve decl.name (KeyTable.ofFields fields) method =
          .ok entry := by
      intro method present
      obtain ⟨isMethod, counts⟩ := List.mem_filter.mp present
      exact (exists_resolve_eq_ok_iff accepts.resolvesTo.distinct).mpr
        (accepts.accessorsFit method isMethod counts)
    obtain ⟨entries, yields⟩ := exists_yields_iff.mpr accepted
    exact ⟨_, fields, entries, accepts, yields, rfl⟩

/-- An accepted class is an entity with the key fields of its schema. -/
theorem accepts_of_build_eq_ok
    {decl : ClassDeclaration}
    {schema : EntitySchema}
    (accepted : (build decl).outcome = .ok schema) :
    Accepts decl schema.keyFields := by
  obtain ⟨fields, entries, accepts, -, rfl⟩ := build_eq_ok_iff.mp accepted
  rw [keyFields, KeyTable.fields_ofFields]
  exact accepts

/-- The key fields of an accepted class are what its fields resolve to, in
order. -/
theorem resolvesTo_of_build_eq_ok
    {decl : ClassDeclaration}
    {schema : EntitySchema}
    (accepted : (build decl).outcome = .ok schema) :
    ResolvesTo decl.name decl.fields schema.keyFields :=
  (accepts_of_build_eq_ok accepted).resolvesTo

/-- The custom accessors of an accepted class are methods of it that count, each
kept under its key and the role that its name shows, with the type of the
key. -/
theorem override_of_build_eq_ok
    {decl : ClassDeclaration}
    {schema : EntitySchema}
    (accepted : (build decl).outcome = .ok schema)
    {role : AccessorRole}
    {key : String}
    {function : AccessorFunction}
    (kept : (schema.overrides.ofRole role).get? key = some function) :
    ∃ method ∈ decl.methods, isCustom method = true ∧ keyOf method = key ∧
      function.name = method.name ∧ (∃ rest, method.name = role.start ++ rest) ∧
      ∃ field ∈ schema.keyFields, field.keyName = key ∧
      function.valueType = field.type := by
  obtain ⟨fields, entries, accepts, yields, rfl⟩ := build_eq_ok_iff.mp accepted
  have entered := Overrides.mem_of_get?_ofEntries kept
  obtain ⟨method, present, resolved⟩ := yields.mem_iff.mp entered
  obtain ⟨isMethod, counts⟩ := List.mem_filter.mp present
  obtain ⟨rfl, field, fieldPresent, fieldKey, signed⟩ :=
    (resolve_eq_ok_iff accepts.resolvesTo.distinct).mp resolved
  obtain ⟨parameter, -, -, -, startsSo, rfl⟩ := ofSignature_eq_ok_iff.mp signed
  refine ⟨method, isMethod, counts, rfl, rfl, startsSo, field, ?_, fieldKey,
    rfl⟩
  rw [keyFields, KeyTable.fields_ofFields]
  exact fieldPresent

/-! ## Refusal -/

theorem resolveCustom_eq_error_iff
    {className : String}
    {fields : List KeyField}
    {methods : List Member}
    {error : SchemaError}
    (distinct : (fields.map KeyField.keyName).Nodup) :
    (methods.filter isCustom).mapM
        (resolve className (KeyTable.ofFields fields)) =
        .error error ↔
      ∃ method,
        Reaches (fun earlier => isCustom earlier = true →
          ∃ field ∈ fields, Fits earlier field)
          methods method ∧
        isCustom method = true ∧ Misfits className fields method error := by
  rw [mapM_eq_error_iff]
  simp only [exists_resolve_eq_ok_iff distinct, resolve_eq_error_iff distinct,
    reaches_filter_iff, and_assoc]

/-- A class is refused for its first fault. -/
theorem build_eq_error_iff
    {decl : ClassDeclaration}
    {error : SchemaError} :
    (build decl).outcome = .error error ↔ FirstFault decl error := by
  rw [outcome_build, bind_eq_error_iff]
  simp only [bind_eq_error_iff, map_eq_error_iff, storageNameOf_eq_ok_iff,
    storageNameOf_eq_error_iff, collect_nil_eq_ok_iff, collect_nil_eq_error_iff]
  constructor
  · rintro (⟨unnamed, rfl⟩ | ⟨name, ⟨named, -⟩,
      ⟨before, member, after, fields, split, resolved,
        failed | ⟨field, owner, made, held, sameKey, rfl⟩⟩ |
      ⟨fields, resolved, reserved | ⟨⟨⟩, free, refused⟩⟩⟩)
    · exact .name unnamed
    · exact .field named split resolved failed
    · exact .key named split resolved made held sameKey
    · obtain ⟨member, reaches, start, isStart, field, present, equal, rfl⟩ :=
        (checkReserved_eq_error_iff resolved.distinct).mp reserved
      exact .reserved named resolved reaches isStart present equal
    · have noReserved := (checkReserved_eq_ok_iff resolved.distinct).mp free
      obtain ⟨method, reaches, counts, misfits⟩ :=
        (resolveCustom_eq_error_iff resolved.distinct).mp refused
      exact .accessor named resolved noReserved reaches counts misfits
  · intro fault
    cases fault with
    | name unnamed => exact .inl ⟨unnamed, rfl⟩
    | field named split resolved failed =>
        exact .inr
          ⟨_, ⟨named, rfl⟩, .inl ⟨_, _, _, _, split, resolved, .inl failed⟩⟩
    | key named split resolved made held sameKey =>
        exact .inr ⟨_, ⟨named, rfl⟩,
          .inl
            ⟨_, _, _, _, split, resolved,
              .inr ⟨_, _, made, held, sameKey, rfl⟩⟩⟩
    | reserved named resolved reaches isStart present equal =>
        refine .inr ⟨_, ⟨named, rfl⟩, .inr ⟨_, resolved, .inl ?_⟩⟩
        exact (checkReserved_eq_error_iff resolved.distinct).mpr
          ⟨_, reaches, _, isStart, _, present, equal, rfl⟩
    | accessor named resolved noReserved reaches counts misfits =>
        refine .inr ⟨_, ⟨named, rfl⟩, .inr ⟨_, resolved, .inr ⟨(), ?_, ?_⟩⟩⟩
        · exact (checkReserved_eq_ok_iff resolved.distinct).mpr noReserved
        · exact (resolveCustom_eq_error_iff resolved.distinct).mpr
            ⟨_, reaches, counts, misfits⟩

/-- A class is accepted exactly when its storage name is not blank, its fields
resolve to distinct keys, no member has a reserved name and all custom accessors
that count fit a field.  Any other class is refused for its first fault. -/
theorem construction_exact
    (decl : ClassDeclaration) :
    ((∃ schema, (build decl).outcome = .ok schema) ↔
      ∃ fields, Accepts decl fields) ∧
      ∀ error, (build decl).outcome = .error error ↔ FirstFault decl error :=
  ⟨exists_build_eq_ok_iff decl, fun _ => build_eq_error_iff⟩

/-- The first of all names in the entity annotations of a class that is not
empty. -/
def firstNonEmptyName? (decl : ClassDeclaration) : Option String :=
  let marks := decl.annotations.filter fun mark =>
    mark.name == Naming.entityMark
  let names := marks.flatMap fun mark => mark.values.filter fun value =>
    value.1 == "name"
  (names.map Prod.snd).find? fun name => name != ""

/-- A class whose annotation has a name behind an empty one. -/
def renamed : ClassDeclaration where
  name := "_"
  package := none
  annotations := [⟨Naming.entityMark, [("name", ""), ("name", "Settings")]⟩]
  members := []

/-- A name behind an empty one does not count, so acceptance is not a matter of
the first name that is not empty. -/
theorem not_forall_accepted_iff_firstNonEmptyName :
    ¬∀ decl, (∃ schema, (build decl).outcome = .ok schema) ↔
      (∃ c ∈ ((firstNonEmptyName? decl).getD (upperCamel decl.name)).toList,
        Text.isBlank c = false) ∧
      ∃ fields, ResolvesTo decl.name decl.fields fields ∧
        (∀ member ∈ decl.members, ¬Reserved fields member.name) ∧
        ∀ method ∈ decl.methods, isCustom method = true →
          ∃ field ∈ fields, Fits method field := by
  intro accepted
  have refused : (build renamed).outcome = .error (.missingName "_") := by
    decide +kernel
  have found : firstNonEmptyName? renamed = some "Settings" := by
    decide +kernel
  have named :
      ∃ c ∈
      ((firstNonEmptyName? renamed).getD (upperCamel renamed.name)).toList,
      Text.isBlank c = false := by
    rw [found]
    exact ⟨'S', by decide +kernel, by decide +kernel⟩
  have noMember : ∀ member ∈ renamed.members, ¬Reserved [] member.name := nofun
  have noMethod : ∀ method ∈ renamed.methods, isCustom method = true →
      ∃ field ∈ ([] : List KeyField), Fits method field := nofun
  obtain ⟨schema, built⟩ := (accepted renamed).mpr
    ⟨named, [], ⟨.nil, List.nodup_nil⟩, noMember, noMethod⟩
  rw [refused] at built
  cases built

end EntitySchema
end PreferenceSchema
