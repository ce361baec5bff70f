import PreferenceSchema.Json
import PreferenceSchema.NameMap
import PreferenceSchema.Proofs.Decimals
import Mathlib.Data.List.Forall2

/-!
# Equality of JSON values

Two JSON values are the same when their content is: numbers are compared by
their value, however they are written, and objects name by name, in whatever
order their entries stand.  A form of some data is faithful when data with the
same form is equal.
-/

namespace PreferenceSchema
namespace Json

open Number

/-- The value of a number. -/
def number? : Json → Option ℚ
  | .integer value => some value
  | .number negative value =>
    some (if negative then -value.value else value.value)
  | _ => none

/-- Equality of JSON values. -/
inductive Same : Json → Json → Prop
  | null : Same .null .null
  | boolean (value : Bool) : Same (.boolean value) (.boolean value)
  | number {left right : Json} {value : ℚ} :
      left.number? = some value →
      right.number? = some value →
      Same left right
  | string (value : String) : Same (.string value) (.string value)
  | array {left right : List Json} :
      left.length = right.length →
      (∀ (index : Nat) (held other : Json),
        left[index]? = some held → right[index]? = some other →
        Same held other) →
      Same (.array left) (.array right)
  | object {left right : List (String × Json)} :
      (∀ name, (left.lookup name).isSome = (right.lookup name).isSome) →
      (∀ name held other,
        left.lookup name = some held → right.lookup name = some other →
        Same held other) →
      Same (.object left) (.object right)

/-- Entries have the same values, one after the other, as a conjunction that the
entries of a record spell out. -/
def ValuesSame : List (String × Json) → List (String × Json) → Prop
  | (_, held) :: left, (_, other) :: right =>
    Same held other ∧ ValuesSame left right
  | _, _ => True

/-- Data with the same form is equal. -/
def Faithful
    {α : Type}
    (form : α → Json) : Prop :=
  ∀ ⦃left right : α⦄, Same (form left) (form right) → left = right

/-- Lists with the same images agree on them element by element. -/
theorem forall₂_of_map_eq_map
    {α β γ : Type}
    {function : α → γ}
    {other : β → γ}
    {left : List α}
    {right : List β}
    (equal : left.map function = right.map other) :
    List.Forall₂ (fun first second => function first = other second)
      left right := by
  rw [← List.forall₂_eq_eq_eq] at equal
  exact List.forall₂_map_right_iff.mp (List.forall₂_map_left_iff.mp equal)

theorem mem_of_lookup_eq_some
    {entries : List (String × Json)}
    {name : String}
    {value : Json}
    (found : entries.lookup name = some value) : (name, value) ∈ entries := by
  obtain ⟨before, after, rfl, -⟩ := List.lookup_eq_some_iff.mp found
  exact List.mem_append_right before List.mem_cons_self

theorem lookup_eq_some_of_mem
    {entries : List (String × Json)}
    (distinct : (entries.map Prod.fst).Nodup)
    {entry : String × Json}
    (present : entry ∈ entries) : entries.lookup entry.1 = some entry.2 := by
  induction entries with
  | nil => cases present
  | cons first rest inductionHypothesis =>
      obtain ⟨fresh, distinct⟩ := List.nodup_cons.mp distinct
      rw [NameMap.lookup_entry]
      rcases List.mem_cons.mp present with rfl | later
      · exact if_pos rfl
      · have different : entry.1 ≠ first.1 := fun sameName =>
          fresh (sameName ▸ List.mem_map_of_mem later)
        rw [if_neg different]
        exact inductionHypothesis distinct later

namespace Same

/-- Every value is the same as itself. -/
theorem refl : ∀ value : Json, Same value value
  | .null => .null
  | .boolean value => .boolean value
  | .integer _ => .number rfl rfl
  | .number _ _ => .number rfl rfl
  | .string value => .string value
  | .array values => by
      refine .array rfl fun index held other heldAt otherAt => ?_
      obtain rfl := Option.some.inj (heldAt.symm.trans otherAt)
      have smaller : sizeOf held < sizeOf values :=
        List.sizeOf_lt_of_mem (List.mem_of_getElem? heldAt)
      exact refl held
  | .object entries => by
      refine .object (fun _ => rfl) fun name held other heldAt otherAt => ?_
      obtain rfl := Option.some.inj (heldAt.symm.trans otherAt)
      have smaller : sizeOf (name, held) < sizeOf entries :=
        List.sizeOf_lt_of_mem (mem_of_lookup_eq_some heldAt)
      have inside : sizeOf held < sizeOf (name, held) := by simp
      exact refl held

theorem eq_null_of_left
    {value : Json}
    (same : Same .null value) : value = .null := by
  cases same with
  | null => rfl
  | number leftValue => cases leftValue

theorem eq_null_of_right
    {value : Json}
    (same : Same value .null) : value = .null := by
  cases same with
  | null => rfl
  | number _ rightValue => cases rightValue

theorem eq_of_string
    {left right : String}
    (same : Same (.string left) (.string right)) : left = right := by
  cases same with
  | number leftValue => cases leftValue
  | string => rfl

/-- Arrays are the same element by element. -/
theorem forall₂_of_array
    {left right : List Json}
    (same : Same (.array left) (.array right)) :
    List.Forall₂ Same left right := by
  cases same with
  | number leftValue => cases leftValue
  | array sameLength elements =>
      refine List.forall₂_iff_get.mpr
        ⟨sameLength, fun index leftBound rightBound => ?_⟩
      exact elements index _ _ (List.getElem?_eq_getElem leftBound)
        (List.getElem?_eq_getElem rightBound)

/-- Objects that are the same have the same names. -/
theorem isSome_lookup_eq
    {left right : List (String × Json)}
    (same : Same (.object left) (.object right))
    (name : String) :
    (left.lookup name).isSome = (right.lookup name).isSome := by
  cases same with
  | number leftValue => cases leftValue
  | object names _ => exact names name

/-- Objects that are the same have the same value under every name. -/
theorem of_lookup_eq_some
    {left right : List (String × Json)}
    (same : Same (.object left) (.object right))
    {name : String}
    {held other : Json}
    (heldUnder : left.lookup name = some held)
    (otherUnder : right.lookup name = some other) : Same held other := by
  cases same with
  | number leftValue => cases leftValue
  | object _ values => exact values name held other heldUnder otherUnder

/-- Objects with one list of names are the same entry by entry. -/
theorem forall₂_of_object
    {left right : List (String × Json)}
    (same : Same (.object left) (.object right))
    (sameNames : left.map Prod.fst = right.map Prod.fst)
    (distinct : (left.map Prod.fst).Nodup) :
    List.Forall₂ (fun held other => Same held.2 other.2) left right := by
  have distinctRight : (right.map Prod.fst).Nodup := sameNames ▸ distinct
  have aligned : List.Forall₂ (fun held other => held.1 = other.1) left right :=
    forall₂_of_map_eq_map sameNames
  refine List.forall₂_iff_zip.mpr
    ⟨aligned.length_eq, fun {held other} zipped => ?_⟩
  obtain ⟨inLeft, inRight⟩ := List.of_mem_zip zipped
  have sameName : held.1 = other.1 := List.forall₂_zip aligned zipped
  refine same.of_lookup_eq_some (lookup_eq_some_of_mem distinct inLeft) ?_
  rw [sameName]
  exact lookup_eq_some_of_mem distinctRight inRight

/-- Records of one kind are the same value by value. -/
theorem values_of_object
    {left right : List (String × Json)}
    (same : Same (.object left) (.object right))
    (sameNames : left.map Prod.fst = right.map Prod.fst)
    (distinct : (left.map Prod.fst).Nodup) : ValuesSame left right := by
  have values := same.forall₂_of_object sameNames distinct
  clear same sameNames distinct
  induction values with
  | nil => trivial
  | cons first _ inductionHypothesis => exact ⟨first, inductionHypothesis⟩

/-- Values under a tag are the same only under one tag. -/
theorem of_tagged
    {leftTag rightTag : String}
    {left right : Json}
    (same : Same (.tagged leftTag left) (.tagged rightTag right)) :
    leftTag = rightTag ∧ Same left right := by
  have sameTag : leftTag = rightTag := by
    have names := same.isSome_lookup_eq leftTag
    by_contra different
    simp [NameMap.lookup_entry, different] at names
  subst sameTag
  have under (value : Json) : [(leftTag, value)].lookup leftTag =
      some value := by
    simp
  exact ⟨rfl, same.of_lookup_eq_some (under left) (under right)⟩

/-- Lists whose elements have forms that give them back have such a form, as an
array. -/
theorem eq_of_array_map
    {α : Type}
    {form : α → Json}
    {left right : List α}
    (recovers : ∀ first ∈ left, ∀ second ∈ right,
      Same (form first) (form second) → first = second)
    (same : Same (.array (left.map form)) (.array (right.map form))) :
    left = right := by
  have elements := same.forall₂_of_array
  rw [List.forall₂_map_left_iff, List.forall₂_map_right_iff] at elements
  rw [← List.forall₂_eq_eq_eq]
  refine List.forall₂_iff_zip.mpr ⟨elements.length_eq, fun zipped => ?_⟩
  obtain ⟨inLeft, inRight⟩ := List.of_mem_zip zipped
  exact recovers _ inLeft _ inRight (List.forall₂_zip elements zipped)

end Same

theorem faithful_string : Faithful Json.string :=
  fun _ _ => Same.eq_of_string

/-- A faithful form that is never null is one of optional data. -/
theorem Faithful.option
    {α : Type}
    {form : α → Json}
    (faithful : Faithful form)
    (notNull : ∀ value, form value ≠ .null) :
    Faithful fun value : Option α => (value.map form).getD .null := by
  rintro (_ | left) (_ | right) same
  · rfl
  · exact absurd same.eq_null_of_left (notNull right)
  · exact absurd same.eq_null_of_right (notNull left)
  · exact congrArg some (faithful same)

theorem faithful_optional : Faithful optional := by
  have form : optional = fun value => (value.map Json.string).getD .null := by
    funext value
    cases value <;> rfl
  rw [form]
  exact faithful_string.option fun _ => Json.noConfusion

/-- A faithful form of elements is one of lists. -/
theorem Faithful.array
    {α : Type}
    {form : α → Json}
    (faithful : Faithful form) :
    Faithful fun values : List α => .array (values.map form) :=
  fun _ _ same => same.eq_of_array_map fun _ _ _ _ elements => faithful elements

theorem faithful_strings : Faithful strings :=
  faithful_string.array

end Json
end PreferenceSchema
