import Mathlib.Logic.Relation
import PreferenceSchema.Proofs.KeyResolution
import PreferenceSchema.Proofs.OverrideRouting

/-!
# The invariant of schemas

A schema keeps its key fields in a list and their positions in an index.  The
two are filled together by a loop over the fields of a class that may stop at
any of them.  Whatever table the loop holds, its index is the graph of the
positions of the keys, so no search in it goes out of bounds, whether or not the
class is accepted in the end.
-/

namespace PreferenceSchema

open Traversal Collection AccessorFunction

namespace KeyTable

/-! ## The loop over the fields -/

/-- One turn of the loop: the first of the members that are left is added to the
table. -/
inductive Step (className : String) : KeyTable × List Member →
  KeyTable × List Member → Prop
  | mk {table next : KeyTable} {member : Member} {rest : List Member}
      {field : KeyField} :
      (KeyField.resolve className member).outcome = .ok field →
      table.add className field = .ok next →
      Step className (table, member :: rest) (next, rest)

/-- The loop over some members holds a table while others are left. -/
def Run
    (className : String)
    (members : List Member)
    (table : KeyTable)
    (rest : List Member) : Prop :=
  Relation.ReflTransGen (Step className) (.empty, members) (table, rest)

/-- A table holds fields under distinct keys, as it does when they are entered
one by one. -/
def Holds
    (table : KeyTable)
    (fields : List KeyField) : Prop :=
  table = ofFields fields ∧ (fields.map KeyField.keyName).Nodup

/-- A turn adds one field at the end, under a key that nobody has. -/
theorem Holds.step
    {className : String}
    {state next : KeyTable × List Member}
    {fields : List KeyField}
    (holds : Holds state.1 fields)
    (step : Step className state next) :
    ∃ field, Holds next.1 (fields ++ [field]) := by
  cases step with
  | @mk table next member rest field resolved added =>
      obtain ⟨rfl, distinct⟩ := holds
      refine ⟨field, ?_⟩
      rw [add, find?_ofFields distinct] at added
      cases found : fields.find? fun owner =>
        owner.keyName == field.keyName with
      | some owner =>
          rw [found] at added
          cases added
      | none =>
          rw [found] at added
          obtain rfl := Except.ok.inj added
          exact ⟨(ofFields_concat fields field).symm,
            (nodup_concat_iff distinct).mpr (by simpa using found)⟩

/-- Whatever table the loop holds has its fields under distinct keys. -/
theorem Run.holds
    {className : String}
    {members rest : List Member}
    {table : KeyTable}
    (run : Run className members table rest) :
    ∃ fields, Holds table fields := by
  have states (state : KeyTable × List Member)
      (reached : Relation.ReflTransGen (Step className)
        (.empty, members) state) :
      ∃ fields, Holds state.1 fields := by
    induction reached with
    | refl => exact ⟨[], rfl, List.nodup_nil⟩
    | tail _ step inductionHypothesis =>
        obtain ⟨fields, holds⟩ := inductionHypothesis
        obtain ⟨field, nextHolds⟩ := holds.step step
        exact ⟨fields ++ [field], nextHolds⟩
  exact states (table, rest) run

/-- A loop that comes to its end has the table that it returns. -/
theorem run_of_addMembers_eq_ok
    {className : String}
    {start table : KeyTable}
    {members : List Member}
    (added : (addMembers className start members).outcome = .ok table) :
    Relation.ReflTransGen (Step className) (start, members) (table, []) := by
  induction members generalizing start with
  | nil =>
      obtain rfl := Except.ok.inj added
      exact .refl
  | cons first rest inductionHypothesis =>
      rw [addMembers, Traced.outcome_bind, bind_eq_ok_iff] at added
      obtain ⟨field, resolved, added⟩ := added
      rw [Traced.outcome_bind, Traced.outcome_ofExcept, bind_eq_ok_iff] at added
      obtain ⟨next, nextAdded, added⟩ := added
      exact .head (.mk resolved nextAdded) (inductionHypothesis added)

/-- A position that is stored in the index is that of a field with the key. -/
theorem Holds.fieldAt
    {table : KeyTable}
    {fields : List KeyField}
    (holds : Holds table fields)
    {key : String}
    {position : Nat}
    (stored : table.index.get? key = some position) :
    ∃ field, table.fields[position]? = some field ∧ field.keyName = key := by
  obtain ⟨rfl, distinct⟩ := holds
  rw [fields_ofFields]
  exact (index_ofFields_eq_some_iff distinct).mp stored

end KeyTable

namespace EntitySchema

open KeyTable

/-- The searches for a key that are made in the table of a class: for a key that
may be taken, while fields are left; for the key of a custom accessor, when all
fields are added; and for any key, in the table of the schema. -/
inductive Searches (decl : ClassDeclaration) : KeyTable → String → Prop
  | taken {table : KeyTable} {member : Member} {rest : List Member}
      {field : KeyField} :
      Run decl.name decl.fields table (member :: rest) →
      (KeyField.resolve decl.name member).outcome = .ok field →
      Searches decl table field.keyName
  | override {table : KeyTable} {method : Member} :
      Run decl.name decl.fields table [] →
      method ∈ decl.methods →
      Searches decl table (keyOf method)
  | lookup {schema : EntitySchema} {key : String} :
      (build decl).outcome = .ok schema →
      Searches decl schema.keys key

/-- The table of an accepted class is the one that the loop over its fields ends
with. -/
theorem run_of_build_eq_ok
    {decl : ClassDeclaration}
    {schema : EntitySchema}
    (accepted : (build decl).outcome = .ok schema) :
    Run decl.name decl.fields schema.keys [] := by
  rw [build, Traced.outcome_bind, bind_eq_ok_iff] at accepted
  obtain ⟨storage, -, accepted⟩ := accepted
  rw [Traced.outcome_bind, bind_eq_ok_iff] at accepted
  obtain ⟨keys, added, accepted⟩ := accepted
  rw [Traced.outcome_bind, bind_eq_ok_iff] at accepted
  obtain ⟨-, -, accepted⟩ := accepted
  rw [Traced.outcome_bind, bind_eq_ok_iff] at accepted
  obtain ⟨overrides, -, accepted⟩ := accepted
  obtain rfl := Except.ok.inj accepted
  exact run_of_addMembers_eq_ok added

theorem Searches.run
    {decl : ClassDeclaration}
    {table : KeyTable}
    {key : String}
    (searches : Searches decl table key) :
    ∃ rest, Run decl.name decl.fields table rest := by
  cases searches with
  | taken run => exact ⟨_, run⟩
  | override run => exact ⟨_, run⟩
  | lookup accepted => exact ⟨_, run_of_build_eq_ok accepted⟩

/-- What a schema keeps of a class: its keys, distinct and in the order of its
fields; a search that finds exactly the field of a key; and custom accessors of
these keys only, each with the type of its key and a name for its role. -/
structure Represents
    (decl : ClassDeclaration)
    (schema : EntitySchema) : Prop where
  keysDistinct : schema.keyNames.Nodup
  keysInOrder : schema.keyNames = decl.fields.map KeyField.keyNameOf
  keyField?_eq_some_iff : ∀ key field, schema.keyField? key = some field ↔
    field ∈ schema.keyFields ∧ field.keyName = key
  keyField?_eq_none_iff : ∀ key, schema.keyField? key = none ↔
    ∀ field ∈ schema.keyFields, field.keyName ≠ key
  overridesFit : ∀ role, ∀ entry ∈ (schema.overrides.ofRole role).entries,
    ∃ field ∈ schema.keyFields, field.keyName = entry.1 ∧
    entry.2.valueType = field.type ∧
      ∃ rest, entry.2.name = role.start ++ rest

/-- Fields resolve to the keys that they declare. -/
theorem map_keyName_of_resolvesTo
    {className : String}
    {members : List Member}
    {fields : List KeyField}
    (resolved : ResolvesTo className members fields) :
    fields.map KeyField.keyName = members.map KeyField.keyNameOf := by
  refine (map_eq_map_of_forall₂ resolved.yields ?_).symm
  intro member field made
  exact (KeyField.resolve_eq_ok_iff.mp made).2.2.1.symm

/-- Every key is declared by a field. -/
theorem exists_keyNameOf_eq
    {className : String}
    {members : List Member}
    {fields : List KeyField}
    (resolved : ResolvesTo className members fields)
    {keyField : KeyField}
    (present : keyField ∈ fields) :
    ∃ field ∈ members, KeyField.keyNameOf field = keyField.keyName := by
  rw [← List.mem_map, ← map_keyName_of_resolvesTo resolved]
  exact List.mem_map_of_mem present

/-- The keys of an accepted class are those that its fields declare. -/
theorem keyNames_of_build_eq_ok
    {decl : ClassDeclaration}
    {schema : EntitySchema}
    (accepted : (build decl).outcome = .ok schema) :
    schema.keyNames = decl.fields.map KeyField.keyNameOf :=
  map_keyName_of_resolvesTo (resolvesTo_of_build_eq_ok accepted)

theorem represents_of_build_eq_ok
    {decl : ClassDeclaration}
    {schema : EntitySchema}
    (accepted : (build decl).outcome = .ok schema) :
    Represents decl schema := by
  obtain ⟨fields, sameTable, distinct⟩ := (run_of_build_eq_ok accepted).holds
  have sameFields : schema.keyFields = fields := by
    rw [keyFields, sameTable, fields_ofFields]
  refine ⟨?_, keyNames_of_build_eq_ok accepted, ?_, ?_, ?_⟩
  · rw [keyNames, sameFields]
    exact distinct
  · intro key field
    rw [keyField?, sameFields, sameTable]
    exact find?_ofFields_eq_some_iff distinct
  · intro key
    rw [keyField?, sameFields, sameTable]
    exact find?_ofFields_eq_none_iff distinct
  · rintro role ⟨key, function⟩ present
    obtain ⟨method, -, -, -, named, ⟨rest, startsSo⟩, field, fieldPresent,
        fieldKey, sameType⟩ :=
      override_of_build_eq_ok accepted
        (NameMap.get?_eq_some_iff_mem.mpr present)
    exact ⟨field, fieldPresent, fieldKey, sameType, rest, named.trans startsSo⟩

/-- The schema of an accepted class represents the class.  On the way to it, and
also where the class is refused, every position in the index of a table is below
the number of its fields, and a search that finds a position finds a field of
the key there. -/
theorem representation_invariant
    (decl : ClassDeclaration) :
    (∀ schema, (build decl).outcome = .ok schema → Represents decl schema) ∧
      (∀ table rest, Run decl.name decl.fields table rest →
        ∀ entry ∈ table.index.entries, entry.2 < table.fields.length) ∧
      ∀ table key, Searches decl table key →
        ∀ position, table.index.get? key = some position →
        ∃ field, table.fields[position]? = some field ∧
          field.keyName = key := by
  refine ⟨fun _ => represents_of_build_eq_ok, ?_, ?_⟩
  · rintro table rest run ⟨key, position⟩ present
    obtain ⟨fields, holds⟩ := run.holds
    obtain ⟨field, fieldAt, -⟩ :=
      holds.fieldAt (NameMap.get?_eq_some_iff_mem.mpr present)
    exact (List.getElem?_eq_some_iff.mp fieldAt).1
  · intro table key searches position stored
    obtain ⟨rest, run⟩ := searches.run
    obtain ⟨fields, holds⟩ := run.holds
    exact holds.fieldAt stored

/-- A field of another name with the key `name`. -/
def aliasField : Member :=
  (Member.field "alias" "int").annotated ⟨Naming.keyMark, [("name", "name")]⟩

/-- A class of which two fields declare one key. -/
def twins : ClassDeclaration where
  name := "Twins"
  package := none
  annotations := []
  members := [.field "name" "String", aliasField]

/-- The table that holds the first of the two fields. -/
def twinsTable : KeyTable :=
  .ofFields [⟨"name", "name", .string, .string ""⟩]

/-- A class that is accepted, and one that is refused for what the search for a
taken key finds. -/
theorem account_twins_invariant :
    (build account).outcome = .ok accountSchema ∧
      Represents account accountSchema ∧
      (build twins).outcome =
        .error (.duplicateKey "Twins" "name" "name" .string) ∧
      Searches twins twinsTable "name" ∧
      ∃ field, twinsTable.fields[0]? = some field ∧ field.keyName = "name" := by
  have accepted : (build account).outcome = .ok accountSchema := by
    decide +kernel
  have refused : (build twins).outcome =
      .error (.duplicateKey "Twins" "name" "name" .string) := by
    decide +kernel
  have firstResolved :
      (KeyField.resolve twins.name (.field "name" "String")).outcome =
      .ok ⟨"name", "name", .string, .string ""⟩ := by
    decide +kernel
  have firstAdded : KeyTable.empty.add twins.name
      ⟨"name", "name", .string, .string ""⟩ =
      .ok twinsTable := by
    decide +kernel
  have aliasResolved : (KeyField.resolve twins.name aliasField).outcome =
      .ok ⟨"alias", "name", .integer, .integer 0⟩ := by
    decide +kernel
  have run : Run twins.name twins.fields twinsTable [aliasField] :=
    .single (.mk firstResolved firstAdded)
  have searched : Searches twins twinsTable "name" := .taken run aliasResolved
  exact ⟨accepted, (representation_invariant account).1 _ accepted, refused,
    searched,
    (representation_invariant twins).2.2 _ _ searched 0 (by decide +kernel)⟩

end EntitySchema
end PreferenceSchema
