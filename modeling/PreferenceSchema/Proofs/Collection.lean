import Mathlib.Data.List.Nodup
import PreferenceSchema.Proofs.Traversal

/-!
# Collections of distinct names

A traversal that keeps what it has made so far and refuses a result whose name
is taken.  The keys of an entity and the entities of a pass are both collected
in this way.  The step laws say when one item is accepted or refused, the run
laws what follows for a whole list.
-/

namespace PreferenceSchema
namespace Collection

open Traversal

variable {ε α β : Type}

/-- Makes the result of an item, unless its name is that of a result already
held. -/
def accept
    (make : α → Except ε β)
    (name : β → String)
    (clash : β → β → ε)
    (held : List β)
    (item : α) : Except ε β :=
  (make item).bind fun result =>
    match held.find? fun owner => name owner == name result with
    | some owner => .error (clash owner result)
    | none => .ok result

/-- Makes the results of a list of items, none of which may have a name that is
taken. -/
def collect
    (make : α → Except ε β)
    (name : β → String)
    (clash : β → β → ε)
    (held : List β) : List α → Except ε (List β)
  | [] => .ok []
  | item :: rest =>
      (accept make name clash held item).bind fun result =>
        (collect make name clash (held ++ [result]) rest).map (result :: ·)

/-- The error for which an item is refused: its own, or the clash with the
result that holds its name. -/
def Refuses
    (make : α → Except ε β)
    (name : β → String)
    (clash : β → β → ε)
    (held : List β)
    (item : α)
    (error : ε) : Prop :=
  make item = .error error ∨
    ∃ result owner, make item = .ok result ∧ owner ∈ held ∧
    name owner = name result ∧
      error = clash owner result

/-- Items make, one by one, results with distinct names. -/
structure Collects
    (make : α → Except ε β)
    (name : β → String)
    (items : List α)
    (results : List β) : Prop where
  yields : Yields make items results
  distinct : (results.map name).Nodup

variable {make : α → Except ε β} {name : β → String} {clash : β → β → ε}

/-- Among distinct names a new one stays distinct exactly when nobody holds
it. -/
theorem nodup_concat_iff
    {held : List β}
    {result : β}
    (distinct : (held.map name).Nodup) :
    ((held ++ [result]).map name).Nodup ↔
      ∀ owner ∈ held, name owner ≠ name result := by
  rw [List.map_append, List.nodup_append]
  constructor
  · rintro ⟨-, -, apart⟩ owner present
    exact apart _ (List.mem_map_of_mem present) _ (by simp)
  · intro free
    refine ⟨distinct, by simp, ?_⟩
    intro held heldPresent taken takenPresent
    obtain ⟨owner, present, rfl⟩ := List.mem_map.mp heldPresent
    have same : taken = name result := by simpa using takenPresent
    exact same ▸ free owner present

/-- Among distinct names a search finds the holder of a name. -/
theorem find?_eq_some_iff
    {held : List β}
    {key : String}
    {owner : β}
    (distinct : (held.map name).Nodup) :
    held.find? (fun other => name other == key) = some owner ↔
      owner ∈ held ∧ name owner = key := by
  constructor
  · intro found
    exact ⟨List.mem_of_find?_eq_some found,
      by simpa using List.find?_some found⟩
  · rintro ⟨present, rfl⟩
    cases found : held.find? fun other => name other == name owner with
    | some other =>
        have same : name other = name owner := by
          simpa using List.find?_some found
        rw [List.inj_on_of_nodup_map distinct (List.mem_of_find?_eq_some found)
          present same]
    | none =>
        have absent := List.find?_eq_none.mp found owner present
        simp at absent

/-- Related items have distinct names in two ways at once if two of them share
their names in both ways or in neither. -/
theorem nodup_map_iff_of_forall₂
    {γ δ : Type}
    {relation : α → β → Prop}
    {items : List α}
    {results : List β}
    {itemName : α → γ}
    {resultName : β → δ}
    (related : List.Forall₂ relation items results)
    (sameNames : ∀ {left right : α} {leftResult rightResult : β},
      relation left leftResult →
      relation right rightResult →
        (itemName left = itemName right ↔
          resultName leftResult = resultName rightResult)) :
    (items.map itemName).Nodup ↔ (results.map resultName).Nodup := by
  induction related with
  | nil => simp
  | @cons item result items results first rest inductionHypothesis =>
      have taken : itemName item ∈ items.map itemName ↔
          resultName result ∈ results.map resultName := by
        clear inductionHypothesis
        induction rest with
        | nil => simp
        | cons next _ inductionHypothesis =>
            rw [List.map_cons, List.map_cons, List.mem_cons, List.mem_cons,
              sameNames first next, inductionHypothesis]
      rw [List.map_cons, List.map_cons, List.nodup_cons, List.nodup_cons, taken,
        inductionHypothesis]

/-! ## One item -/

/-- A result is accepted exactly if it can be made and none that is held has its
name. -/
theorem accept_eq_ok_iff
    {held : List β}
    {item : α}
    {result : β}
    (distinct : (held.map name).Nodup) :
    accept make name clash held item = .ok result ↔
      make item = .ok result ∧ ((held ++ [result]).map name).Nodup := by
  rw [accept, bind_eq_ok_iff, nodup_concat_iff distinct]
  constructor
  · rintro ⟨value, made, accepted⟩
    cases found : held.find? fun owner => name owner == name value with
    | some owner =>
        rw [found] at accepted
        cases accepted
    | none =>
        rw [found] at accepted
        cases accepted
        exact ⟨made, by simpa using found⟩
  · rintro ⟨made, free⟩
    refine ⟨result, made, ?_⟩
    have none : (held.find? fun owner => name owner == name result) = none := by
      simpa using free
    rw [none]

theorem accept_eq_error_iff
    {held : List β}
    {item : α}
    {error : ε}
    (distinct : (held.map name).Nodup) :
    accept make name clash held item = .error error ↔
      Refuses make name clash held item error := by
  rw [accept, bind_eq_error_iff, Refuses]
  refine or_congr_right ⟨?_, ?_⟩
  · rintro ⟨result, made, refused⟩
    cases found : held.find? fun owner => name owner == name result with
    | some owner =>
        rw [found] at refused
        obtain ⟨present, same⟩ := (find?_eq_some_iff distinct).mp found
        exact ⟨result, owner, made, present, same,
          (Except.error.inj refused).symm⟩
    | none =>
        rw [found] at refused
        cases refused
  · rintro ⟨result, owner, made, present, same, rfl⟩
    refine ⟨result, made, ?_⟩
    rw [(find?_eq_some_iff distinct).mpr ⟨present, same⟩]

/-! ## Whole lists -/

/-- Items are collected exactly if all results can be made and have distinct
names. -/
theorem collect_eq_ok_iff
    {held made : List β}
    {items : List α}
    (distinct : (held.map name).Nodup) :
    collect make name clash held items = .ok made ↔
      Yields make items made ∧ ((held ++ made).map name).Nodup := by
  induction items generalizing held made with
  | nil =>
      rw [collect, yields_nil_iff]
      constructor
      · intro equal
        cases equal
        exact ⟨rfl, by simpa using distinct⟩
      · rintro ⟨rfl, -⟩
        rfl
  | cons first rest inductionHypothesis =>
      rw [collect, bind_eq_ok_iff, yields_cons_iff]
      simp only [map_eq_ok_iff, accept_eq_ok_iff distinct]
      constructor
      · rintro ⟨result, ⟨madeFirst, free⟩, later, collected, rfl⟩
        obtain ⟨laterYields, laterDistinct⟩ :=
          (inductionHypothesis free).mp collected
        exact ⟨⟨result, later, madeFirst, laterYields, rfl⟩,
          by simpa using laterDistinct⟩
      · rintro ⟨⟨result, later, madeFirst, laterYields, rfl⟩, allDistinct⟩
        have grouped : ((held ++ [result] ++ later).map name).Nodup := by
          simpa using allDistinct
        have free : ((held ++ [result]).map name).Nodup := by
          rw [List.map_append] at grouped
          exact (List.nodup_append.mp grouped).1
        exact ⟨result, ⟨madeFirst, free⟩, later,
          (inductionHypothesis free).mpr ⟨laterYields, grouped⟩, rfl⟩

/-- Collecting stops at the first item that is refused. -/
theorem collect_eq_error_iff
    {held : List β}
    {items : List α}
    {error : ε}
    (distinct : (held.map name).Nodup) :
    collect make name clash held items = .error error ↔
      ∃ before item after made, items = before ++ item :: after ∧
      Yields make before made ∧
        ((held ++ made).map name).Nodup ∧
        Refuses make name clash (held ++ made) item error := by
  induction items generalizing held with
  | nil =>
      rw [collect]
      constructor
      · intro equal
        cases equal
      · rintro ⟨before, item, after, made, equal, -⟩
        simp at equal
  | cons first rest inductionHypothesis =>
      rw [collect, bind_eq_error_iff]
      simp only [map_eq_error_iff, accept_eq_ok_iff distinct,
        accept_eq_error_iff distinct]
      constructor
      · rintro (refused | ⟨result, ⟨madeFirst, free⟩, failed⟩)
        · exact ⟨[], first, rest, [], rfl, .nil, by simpa using distinct,
            by simpa using refused⟩
        · obtain ⟨before, item, after, made, rfl, beforeYields, beforeDistinct,
              refused⟩ :=
            (inductionHypothesis free).mp failed
          exact ⟨first :: before, item, after, result :: made, rfl,
            .cons madeFirst beforeYields, by simpa using beforeDistinct,
            by simpa using refused⟩
      · rintro ⟨before, item, after, made, equal, beforeYields, beforeDistinct,
          refused⟩
        rcases List.cons_eq_append_iff.mp equal
          with ⟨rfl, same⟩ | ⟨tail, rfl, rfl⟩
        · obtain rfl := yields_nil_iff.mp beforeYields
          obtain ⟨rfl, -⟩ := List.cons.inj same
          exact .inl (by simpa using refused)
        · obtain ⟨result, later, madeFirst, laterYields, rfl⟩ :=
            yields_cons_iff.mp beforeYields
          have grouped : ((held ++ [result] ++ later).map name).Nodup := by
            simpa using beforeDistinct
          have free : ((held ++ [result]).map name).Nodup := by
            rw [List.map_append] at grouped
            exact (List.nodup_append.mp grouped).1
          exact .inr ⟨result, ⟨madeFirst, free⟩, (inductionHypothesis free).mpr
            ⟨tail, item, after, later, rfl, laterYields, grouped,
              by simpa using refused⟩⟩

theorem collect_nil_eq_ok_iff
    {items : List α}
    {made : List β} :
    collect make name clash [] items = .ok made ↔
      Collects make name items made := by
  rw [collect_eq_ok_iff (by simp), List.nil_append]
  exact ⟨fun ⟨yields, distinct⟩ => ⟨yields, distinct⟩,
    fun ⟨yields, distinct⟩ => ⟨yields, distinct⟩⟩

theorem collect_nil_eq_error_iff
    {items : List α}
    {error : ε} :
    collect make name clash [] items = .error error ↔
      ∃ before item after made, items = before ++ item :: after ∧
        Collects make name before made ∧
        Refuses make name clash made item error := by
  rw [collect_eq_error_iff (by simp)]
  simp only [List.nil_append]
  constructor
  · rintro ⟨before, item, after, made, split, yields, distinct, refused⟩
    exact ⟨before, item, after, made, split, ⟨yields, distinct⟩, refused⟩
  · rintro ⟨before, item, after, made, split, ⟨yields, distinct⟩, refused⟩
    exact ⟨before, item, after, made, split, yields, distinct, refused⟩

/-- Items make results with distinct names exactly when each makes a result and
no two of these share their name. -/
theorem exists_collects_iff
    {items : List α} :
    (∃ results, Collects make name items results) ↔
      (∀ item ∈ items, ∃ result, make item = .ok result) ∧
        ∀ results, Yields make items results → (results.map name).Nodup := by
  rw [← exists_yields_iff]
  constructor
  · rintro ⟨results, yields, distinct⟩
    refine ⟨⟨results, yields⟩, ?_⟩
    intro others othersYield
    rw [othersYield.unique yields]
    exact distinct
  · rintro ⟨⟨results, yields⟩, allDistinct⟩
    exact ⟨results, yields, allDistinct results yields⟩

end Collection
end PreferenceSchema
