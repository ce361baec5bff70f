import Mathlib.Data.List.Induction
import PreferenceSchema.KeyField
import PreferenceSchema.Proofs.Collection

/-!
# The table of keys

A table of key fields keeps the fields in order and, beside them, the position
of every key.  As long as the keys are distinct the index is the graph of the
positions, so a search finds exactly the field of a key.  The fields of a class
are collected into such a table.
-/

namespace PreferenceSchema

open Traversal Collection

namespace KeyTable

/-- The table of a list of fields. -/
def ofFields (fields : List KeyField) : KeyTable :=
  fields.foldl insert empty

@[simp] theorem ofFields_nil : ofFields [] = empty := rfl

theorem ofFields_concat
    (fields : List KeyField)
    (field : KeyField) :
    ofFields (fields ++ [field]) = (ofFields fields).insert field := by
  simp [ofFields]

@[simp] theorem fields_ofFields
    (fields : List KeyField) :
    (ofFields fields).fields = fields := by
  induction fields using List.reverseRecOn with
  | nil => rfl
  | append_singleton fields field inductionHypothesis =>
      rw [ofFields_concat]
      change (ofFields fields).fields ++ [field] = _
      rw [inductionHypothesis]

/-- The index of a table is the graph of the positions of its keys. -/
theorem index_ofFields_eq_some_iff
    {fields : List KeyField}
    {key : String}
    {position : Nat}
    (distinct : (fields.map KeyField.keyName).Nodup) :
    (ofFields fields).index.get? key = some position ↔
      ∃ field, fields[position]? = some field ∧ field.keyName = key := by
  induction fields using List.reverseRecOn with
  | nil => simp [empty]
  | append_singleton fields last inductionHypothesis =>
      have earlierDistinct : (fields.map KeyField.keyName).Nodup :=
        distinct.sublist (by simp)
      have free := (nodup_concat_iff earlierDistinct).mp distinct
      have earlier := inductionHypothesis earlierDistinct
      rw [ofFields_concat]
      change ((ofFields fields).index.insert last.keyName
        (ofFields fields).fields.length).get? key = some position ↔ _
      rw [NameMap.get?_insert, fields_ofFields]
      constructor
      · intro found
        split at found
        case isTrue same =>
          obtain rfl := Option.some.inj found
          exact ⟨last, by simp, same.symm⟩
        case isFalse =>
          obtain ⟨field, atPosition, fieldKey⟩ := earlier.mp found
          obtain ⟨bound, -⟩ := List.getElem?_eq_some_iff.mp atPosition
          exact ⟨field, by rw [List.getElem?_append_left bound, atPosition],
            fieldKey⟩
      · rintro ⟨field, atPosition, rfl⟩
        rcases Nat.lt_or_ge position fields.length with bound | bound
        · rw [List.getElem?_append_left bound] at atPosition
          have different : field.keyName ≠ last.keyName :=
            free field (List.mem_of_getElem? atPosition)
          rw [if_neg different]
          exact earlier.mpr ⟨field, atPosition, rfl⟩
        · rw [List.getElem?_append_right bound] at atPosition
          have isLast : position - fields.length = 0 ∧ last = field := by
            simpa [List.getElem?_singleton] using atPosition
          obtain ⟨offset, rfl⟩ := isLast
          rw [if_pos rfl]
          exact congrArg some (by omega)

/-- A search in a table of distinct keys finds the field of a key. -/
theorem find?_ofFields_eq_some_iff
    {fields : List KeyField}
    {key : String}
    {field : KeyField}
    (distinct : (fields.map KeyField.keyName).Nodup) :
    (ofFields fields).find? key = some field ↔
      field ∈ fields ∧ field.keyName = key := by
  rw [find?, Option.bind_eq_some_iff, fields_ofFields]
  simp only [index_ofFields_eq_some_iff distinct]
  constructor
  · rintro ⟨position, ⟨other, otherAt, otherKey⟩, fieldAt⟩
    rw [otherAt] at fieldAt
    obtain rfl := Option.some.inj fieldAt
    exact ⟨List.mem_of_getElem? otherAt, otherKey⟩
  · rintro ⟨present, fieldKey⟩
    obtain ⟨position, fieldAt⟩ := List.mem_iff_getElem?.mp present
    exact ⟨position, ⟨field, fieldAt, fieldKey⟩, fieldAt⟩

/-- A key is not found exactly if no field has it. -/
theorem find?_ofFields_eq_none_iff
    {fields : List KeyField}
    {key : String}
    (distinct : (fields.map KeyField.keyName).Nodup) :
    (ofFields fields).find? key = none ↔
      ∀ field ∈ fields, field.keyName ≠ key := by
  rw [Option.eq_none_iff_forall_ne_some]
  simp only [ne_eq, find?_ofFields_eq_some_iff distinct, not_and]

/-- A search in a table is a search in the list of its fields. -/
theorem find?_ofFields
    {fields : List KeyField}
    (distinct : (fields.map KeyField.keyName).Nodup)
    (key : String) :
    (ofFields fields).find? key = fields.find? fun field =>
      field.keyName == key := by
  ext field
  rw [find?_ofFields_eq_some_iff distinct, find?_eq_some_iff distinct]

theorem contains_ofFields_iff
    {fields : List KeyField}
    {key : String}
    (distinct : (fields.map KeyField.keyName).Nodup) :
    (ofFields fields).contains key = true ↔
      ∃ field ∈ fields, field.keyName = key := by
  rw [contains, NameMap.contains, Option.isSome_iff_exists]
  simp only [index_ofFields_eq_some_iff distinct]
  constructor
  · rintro ⟨position, field, fieldAt, fieldKey⟩
    exact ⟨field, List.mem_of_getElem? fieldAt, fieldKey⟩
  · rintro ⟨field, present, fieldKey⟩
    obtain ⟨position, fieldAt⟩ := List.mem_iff_getElem?.mp present
    exact ⟨position, field, fieldAt, fieldKey⟩

/-- The error for a field whose key an earlier field has. -/
def clash
    (className : String)
    (owner field : KeyField) : SchemaError :=
  .duplicateKey className field.keyName owner.fieldName owner.type

/-- Adding the fields of a class collects them under distinct keys. -/
theorem outcome_addMembers
    (className : String)
    {held : List KeyField}
    (distinct : (held.map KeyField.keyName).Nodup)
    (members : List Member) :
    (addMembers className (ofFields held) members).outcome =
      (collect (fun member => (KeyField.resolve className member).outcome)
        KeyField.keyName
        (clash className) held members).map fun made =>
          ofFields (held ++ made) := by
  induction members generalizing held with
  | nil => simp [addMembers, collect, Except.map]
  | cons first rest inductionHypothesis =>
      rw [addMembers, collect, accept, Traced.outcome_bind]
      cases (KeyField.resolve className first).outcome with
      | error error => rfl
      | ok field =>
          simp only [Except.bind, Traced.outcome_bind, Traced.outcome_ofExcept,
            add, find?_ofFields distinct]
          cases found : held.find? fun owner =>
            owner.keyName == field.keyName with
          | some owner => rfl
          | none =>
              have free : ((held ++ [field]).map KeyField.keyName).Nodup :=
                (nodup_concat_iff distinct).mpr (by simpa using found)
              rw [← ofFields_concat]
              dsimp only
              rw [inductionHypothesis free]
              cases collect (fun member =>
                (KeyField.resolve className member).outcome)
                KeyField.keyName (clash className) (held ++ [field]) rest <;>
                  simp [Except.map]

end KeyTable
end PreferenceSchema
