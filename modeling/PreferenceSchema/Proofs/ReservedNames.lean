import PreferenceSchema.EntitySchema
import PreferenceSchema.Proofs.KeyTable

/-!
# Reserved names

A member may not have the name of a generated accessor, which is the start of an
accessor followed by a key.  No start begins another, so a name splits into a
start and a key in one way at most, however the keys are spelled, and the
refusal of a member names the one key it collides with.
-/

namespace PreferenceSchema

open Traversal

namespace EntitySchema

/-- A name is reserved if some field has an accessor of that name. -/
def Reserved
    (fields : List KeyField)
    (name : String) : Prop :=
  ∃ start ∈ reservedStarts, ∃ field ∈ fields, name = start ++ field.keyName

instance
    (fields : List KeyField)
    (name : String) : Decidable (Reserved fields name) :=
  inferInstanceAs (Decidable (∃ start ∈ reservedStarts, ∃ field ∈ fields,
    name = start ++ field.keyName))

/-- The starts of accessors differ in their first characters already. -/
theorem start_eq_of_head?_eq :
    ∀ left ∈ reservedStarts, ∀ right ∈ reservedStarts,
      left.toList.head? = right.toList.head? → left = right := by
  decide

theorem start_ne_nil : ∀ start ∈ reservedStarts, start.toList ≠ [] := by
  decide

/-- A name splits into the start of an accessor and a key in one way. -/
theorem start_append_inj
    {left right leftKey rightKey : String}
    (leftStart : left ∈ reservedStarts)
    (rightStart : right ∈ reservedStarts)
    (equal : left ++ leftKey = right ++ rightKey) :
    left = right ∧ leftKey = rightKey := by
  have sameChars := congrArg String.toList equal
  rw [String.toList_append, String.toList_append] at sameChars
  have sameHead := congrArg List.head? sameChars
  rw [List.head?_append_of_ne_nil _ (start_ne_nil left leftStart),
    List.head?_append_of_ne_nil _ (start_ne_nil right rightStart)] at sameHead
  obtain rfl := start_eq_of_head?_eq left leftStart right rightStart sameHead
  exact ⟨rfl, String.toList_inj.mp (List.append_cancel_left sameChars)⟩

/-- What stands behind a start of a name is the rest of the name. -/
theorem afterStart_eq_some_iff
    {start name key : String} :
    (start.toList.isPrefixOf? name.toList).map String.ofList = some key ↔
      name = start ++ key := by
  rw [Option.map_eq_some_iff, ← String.toList_inj, String.toList_append]
  constructor
  · rintro ⟨rest, split, rfl⟩
    rw [String.toList_ofList]
    exact (List.isPrefixOf?_eq_some_iff_append_eq.mp split).symm
  · intro split
    exact ⟨key.toList, List.isPrefixOf?_eq_some_iff_append_eq.mpr split.symm,
      String.ofList_toList⟩

/-- The key with which a name collides is the one behind its start. -/
theorem reservedKey?_eq_some_iff
    {fields : List KeyField}
    {name key : String}
    (distinct : (fields.map KeyField.keyName).Nodup) :
    reservedKey? (KeyTable.ofFields fields) name = some key ↔
      ∃ start ∈ reservedStarts, ∃ field ∈ fields,
        name = start ++ field.keyName ∧ field.keyName = key := by
  have candidate (rest : String) :
      rest ∈ reservedStarts.filterMap (fun start =>
        (start.toList.isPrefixOf? name.toList).map String.ofList) ↔
        ∃ start ∈ reservedStarts, name = start ++ rest := by
    rw [List.mem_filterMap]
    simp only [afterStart_eq_some_iff]
  constructor
  · intro found
    obtain ⟨start, isStart, split⟩ :=
      (candidate key).mp (List.mem_of_find?_eq_some found)
    obtain ⟨field, present, rfl⟩ :=
      (KeyTable.contains_ofFields_iff distinct).mp (List.find?_some found)
    exact ⟨start, isStart, field, present, split, rfl⟩
  · rintro ⟨start, isStart, field, present, split, rfl⟩
    cases found : reservedKey? (KeyTable.ofFields fields) name with
    | none =>
        have absent := List.find?_eq_none.mp found field.keyName
          ((candidate _).mpr ⟨start, isStart, split⟩)
        exact absurd
          ((KeyTable.contains_ofFields_iff distinct).mpr ⟨field, present, rfl⟩)
          absent
    | some other =>
        obtain ⟨otherStart, otherIsStart, otherSplit⟩ :=
          (candidate other).mp (List.mem_of_find?_eq_some found)
        have same :=
          start_append_inj otherIsStart isStart (otherSplit.symm.trans split)
        rw [same.2]

theorem reservedKey?_eq_none_iff
    {fields : List KeyField}
    {name : String}
    (distinct : (fields.map KeyField.keyName).Nodup) :
    reservedKey? (KeyTable.ofFields fields) name = none ↔
      ¬Reserved fields name := by
  rw [Option.eq_none_iff_forall_ne_some]
  simp only [ne_eq, reservedKey?_eq_some_iff distinct]
  constructor
  · rintro free ⟨start, isStart, field, present, split⟩
    exact free field.keyName ⟨start, isStart, field, present, split, rfl⟩
  · rintro notReserved key ⟨start, isStart, field, present, split, rfl⟩
    exact notReserved ⟨start, isStart, field, present, split⟩

/-- The check passes exactly if no member has a reserved name. -/
theorem checkReserved_eq_ok_iff
    {className : String}
    {fields : List KeyField}
    {members : List Member}
    (distinct : (fields.map KeyField.keyName).Nodup) :
    checkReserved className (KeyTable.ofFields fields) members = .ok () ↔
      ∀ member ∈ members, ¬Reserved fields member.name := by
  induction members with
  | nil => simp [checkReserved]
  | cons first rest inductionHypothesis =>
      rw [checkReserved, List.forall_mem_cons,
        ← reservedKey?_eq_none_iff distinct]
      cases reservedKey? (KeyTable.ofFields fields) first.name with
      | some key => simp
      | none => simp [inductionHypothesis]

/-- The check fails for the first member with a reserved name, and tells the
key. -/
theorem checkReserved_eq_error_iff
    {className : String}
    {fields : List KeyField}
    {members : List Member}
    {error : SchemaError}
    (distinct : (fields.map KeyField.keyName).Nodup) :
    checkReserved className (KeyTable.ofFields fields) members = .error error ↔
      ∃ member, Reaches (fun earlier => ¬Reserved fields earlier.name)
        members member ∧
        ∃ start ∈ reservedStarts, ∃ field ∈ fields,
          member.name = start ++ field.keyName ∧
          error = .reservedName className member.name field.keyName := by
  induction members with
  | nil =>
      rw [checkReserved]
      constructor
      · intro equal
        cases equal
      · rintro ⟨member, reaches, -⟩
        exact absurd reaches not_reaches_nil
  | cons first rest inductionHypothesis =>
      rw [checkReserved]
      simp only [reaches_cons_iff]
      cases found : reservedKey? (KeyTable.ofFields fields) first.name with
      | some key =>
          obtain ⟨start, isStart, field, present, split, rfl⟩ :=
            (reservedKey?_eq_some_iff distinct).mp found
          constructor
          · intro equal
            obtain rfl := Except.error.inj equal
            exact ⟨first, .inl rfl, start, isStart, field, present, split, rfl⟩
          · rintro ⟨member, rfl | ⟨free, -⟩, other, otherIsStart, otherField, -,
              otherSplit, rfl⟩
            · have same :=
                start_append_inj isStart otherIsStart
                  (split.symm.trans otherSplit)
              rw [same.2]
            · exact absurd ⟨start, isStart, field, present, split⟩ free
      | none =>
          have free := (reservedKey?_eq_none_iff distinct).mp found
          dsimp only
          rw [inductionHypothesis]
          constructor
          · rintro ⟨member, reaches, collision⟩
            exact ⟨member, .inr ⟨free, reaches⟩, collision⟩
          · rintro ⟨member, rfl | ⟨-, reaches⟩, start, isStart, field, present,
              split, refused⟩
            · exact absurd ⟨start, isStart, field, present, split⟩ free
            · exact ⟨member, reaches, start, isStart, field, present, split,
                refused⟩

end EntitySchema
end PreferenceSchema
