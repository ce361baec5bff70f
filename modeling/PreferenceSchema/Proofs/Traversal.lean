import Mathlib.Data.List.Forall2
import PreferenceSchema.Traced

/-!
# Traversals

Sequences of steps that may fail.  A traversal of a list succeeds exactly when
every step does, with the results in order, and it fails with the error of the
first step that fails.
-/

namespace PreferenceSchema
namespace Traversal

variable {ε α β : Type}

/-! ## Two steps -/

/-- A sequence succeeds exactly if its second part does with the value of the
first. -/
theorem bind_eq_ok_iff
    {first : Except ε α}
    {second : α → Except ε β}
    {result : β} :
    first.bind second = .ok result ↔
      ∃ value, first = .ok value ∧ second value = .ok result := by
  cases first <;> simp [Except.bind]

theorem bind_eq_error_iff
    {first : Except ε α}
    {second : α → Except ε β}
    {error : ε} :
    first.bind second = .error error ↔
      first = .error error ∨
        ∃ value, first = .ok value ∧ second value = .error error := by
  cases first <;> simp [Except.bind]

theorem map_eq_ok_iff
    {outcome : Except ε α}
    {function : α → β}
    {result : β} :
    outcome.map function = .ok result ↔
      ∃ value, outcome = .ok value ∧ function value = result := by
  cases outcome <;> simp [Except.map]

theorem map_eq_error_iff
    {outcome : Except ε α}
    {function : α → β}
    {error : ε} :
    outcome.map function = .error error ↔ outcome = .error error := by
  cases outcome <;> simp [Except.map]

/-! ## Walks that stop at the first item of some kind -/

/-- A walk that goes on past the items with a property, and stops at any other,
reaches `item`. -/
def Reaches
    (passes : α → Prop)
    (items : List α)
    (item : α) : Prop :=
  ∃ before after, items = before ++ item :: after ∧
    ∀ earlier ∈ before, passes earlier

theorem not_reaches_nil
    {passes : α → Prop}
    {item : α} :
    ¬Reaches passes [] item := by
  rintro ⟨before, after, equal, -⟩
  simp at equal

/-- A search reaches the first item, and the others once the first has
passed. -/
theorem reaches_cons_iff
    {passes : α → Prop}
    {first item : α}
    {rest : List α} :
    Reaches passes (first :: rest) item ↔
      item = first ∨ passes first ∧ Reaches passes rest item := by
  constructor
  · rintro ⟨before, after, equal, passed⟩
    rcases List.cons_eq_append_iff.mp equal with ⟨rfl, same⟩ | ⟨tail, rfl, same⟩
    · rw [List.cons.injEq] at same
      exact .inl same.1
    · exact .inr ⟨passed first List.mem_cons_self, tail, after, same,
        fun earlier present => passed earlier (List.mem_cons_of_mem _ present)⟩
  · rintro (rfl | ⟨firstPasses, before, after, rfl, passed⟩)
    · exact ⟨[], rest, rfl, by simp⟩
    · exact ⟨first :: before, after, rfl, by simpa using ⟨firstPasses, passed⟩⟩

theorem Reaches.mem
    {passes : α → Prop}
    {items : List α}
    {item : α}
    (reaches : Reaches passes items item) : item ∈ items := by
  obtain ⟨before, after, rfl, -⟩ := reaches
  simp

/-- What a walk reaches it also reaches if there are more items at the end. -/
theorem Reaches.append_right
    {passes : α → Prop}
    {items : List α}
    {item : α}
    (reaches : Reaches passes items item)
    (more : List α) : Reaches passes (items ++ more) item := by
  obtain ⟨before, after, rfl, passed⟩ := reaches
  exact ⟨before, after ++ more, by simp, passed⟩

/-- What a walk reaches it also reaches behind items that it goes past. -/
theorem Reaches.append_left
    {passes : α → Prop}
    {items earlier : List α}
    {item : α}
    (reaches : Reaches passes items item)
    (earlierPass : ∀ first ∈ earlier, passes first) :
    Reaches passes (earlier ++ items) item := by
  obtain ⟨before, after, rfl, passed⟩ := reaches
  refine ⟨earlier ++ before, after, by simp, ?_⟩
  intro first present
  rcases List.mem_append.mp present with inEarlier | inBefore
  · exact earlierPass first inEarlier
  · exact passed first inBefore

/-- A walk among items that do not all have the property stops at one without
it. -/
theorem exists_reaches_of_not_forall
    {passes : α → Prop}
    {items : List α}
    (stops : ¬∀ item ∈ items, passes item) :
    ∃ item, Reaches passes items item ∧ ¬passes item := by
  induction items with
  | nil => simp at stops
  | cons first rest inductionHypothesis =>
      simp only [reaches_cons_iff]
      by_cases firstPasses : passes first
      · obtain ⟨item, reaches, stopped⟩ := inductionHypothesis fun restPass =>
          stops (List.forall_mem_cons.mpr ⟨firstPasses, restPass⟩)
        exact ⟨item, .inr ⟨firstPasses, reaches⟩, stopped⟩
      · exact ⟨first, .inl rfl, firstPasses⟩

/-- A walk over the items of some kind is a walk over all items that goes past
the others. -/
theorem reaches_filter_iff
    {kind : α → Bool}
    {passes : α → Prop}
    {items : List α}
    {item : α} :
    Reaches passes (items.filter kind) item ↔
      Reaches (fun earlier => kind earlier = true → passes earlier) items item ∧
        kind item = true := by
  induction items with
  | nil =>
      rw [List.filter_nil]
      exact ⟨fun reaches => absurd reaches not_reaches_nil,
        fun reaches => absurd reaches.1 not_reaches_nil⟩
  | cons first rest inductionHypothesis =>
      rw [List.filter_cons, reaches_cons_iff]
      split
      case isTrue ofKind =>
        rw [reaches_cons_iff, inductionHypothesis]
        constructor
        · rintro (rfl | ⟨firstPasses, reaches, itemKind⟩)
          · exact ⟨.inl rfl, ofKind⟩
          · exact ⟨.inr ⟨fun _ => firstPasses, reaches⟩, itemKind⟩
        · rintro ⟨rfl | ⟨firstPasses, reaches⟩, itemKind⟩
          · exact .inl rfl
          · exact .inr ⟨firstPasses ofKind, reaches, itemKind⟩
      case isFalse otherKind =>
        rw [inductionHypothesis]
        constructor
        · rintro ⟨reaches, itemKind⟩
          exact ⟨.inr ⟨fun ofKind => absurd ofKind otherKind, reaches⟩,
            itemKind⟩
        · rintro ⟨rfl | ⟨-, reaches⟩, itemKind⟩
          · exact absurd itemKind otherKind
          · exact ⟨reaches, itemKind⟩

/-! ## The last item of some kind -/

/-- The last item of a list that has a property. -/
def IsLast
    (property : α → Prop)
    (items : List α)
    (item : α) : Prop :=
  property item ∧
    ∃ before after, items = before ++ item :: after ∧
    ∀ later ∈ after, ¬property later

theorem IsLast.mem
    {property : α → Prop}
    {items : List α}
    {item : α}
    (last : IsLast property items item) : item ∈ items := by
  obtain ⟨-, before, after, rfl, -⟩ := last
  exact List.mem_append_right _ List.mem_cons_self

/-- A search from the end finds the last item. -/
theorem find?_reverse_eq_some_iff
    {test : α → Bool}
    {items : List α}
    {item : α} :
    items.reverse.find? test = some item ↔
      IsLast (fun other => test other = true) items item := by
  rw [List.find?_eq_some_iff_append, IsLast]
  refine and_congr_right fun _ => ?_
  constructor
  · rintro ⟨after, before, split, failed⟩
    refine ⟨before.reverse, after.reverse, ?_, ?_⟩
    · simpa using List.reverse_eq_append_iff.mp split
    · intro later present
      simpa using failed later (List.mem_reverse.mp present)
  · rintro ⟨before, after, rfl, failed⟩
    refine ⟨after.reverse, before.reverse, by simp, ?_⟩
    intro later present
    simpa using failed later (List.mem_reverse.mp present)

/-- Where an item at the end of a list has a property, the last item that has it
is there too. -/
theorem exists_isLast_of_mem
    {property : α → Prop}
    (before : List α)
    {items : List α}
    {item : α}
    (present : item ∈ items)
    (holds : property item) :
    ∃ last ∈ items, IsLast property (before ++ items) last := by
  induction items generalizing before item with
  | nil => cases present
  | cons first rest inductionHypothesis =>
      by_cases inRest : ∃ later ∈ rest, property later
      · obtain ⟨later, laterPresent, laterHolds⟩ := inRest
        obtain ⟨last, lastPresent, isLast⟩ :=
          inductionHypothesis (before ++ [first]) laterPresent laterHolds
        rw [List.append_assoc] at isLast
        exact ⟨last, List.mem_cons_of_mem _ lastPresent, isLast⟩
      · have noneLater : ∀ later ∈ rest, ¬property later :=
          fun later laterPresent laterHolds =>
            inRest ⟨later, laterPresent, laterHolds⟩
        obtain rfl | itemInRest := List.mem_cons.mp present
        · exact ⟨item, List.mem_cons_self, holds, before, rest, rfl, noneLater⟩
        · exact absurd holds (noneLater item itemInRest)

/-! ## Traversals of lists -/

/-- The items of a list yield the results of another, one by one. -/
abbrev Yields
    (step : α → Except ε β)
    (items : List α)
    (results : List β) : Prop :=
  List.Forall₂ (fun item result => step item = .ok result) items results

theorem yields_nil_iff
    {step : α → Except ε β}
    {results : List β} :
    Yields step [] results ↔ results = [] :=
  List.forall₂_nil_left_iff

/-- A traversal yields the result of its first step and those of the rest. -/
theorem yields_cons_iff
    {step : α → Except ε β}
    {first : α}
    {rest : List α}
    {results : List β} :
    Yields step (first :: rest) results ↔
      ∃ result later, step first = .ok result ∧ Yields step rest later ∧
        results = result :: later :=
  List.forall₂_cons_left_iff

/-- A list has at most one list of results. -/
theorem Yields.unique
    {step : α → Except ε β}
    {items : List α}
    {left right : List β}
    (leftYields : Yields step items left)
    (rightYields : Yields step items right) : left = right := by
  refine List.right_unique_forall₂' ?_ leftYields rightYields
  intro item first second firstMade secondMade
  exact Except.ok.inj (firstMade.symm.trans secondMade)

/-- The results are those of the items. -/
theorem Yields.mem_iff
    {step : α → Except ε β}
    {items : List α}
    {results : List β}
    (yields : Yields step items results)
    {result : β} :
    result ∈ results ↔ ∃ item ∈ items, step item = .ok result := by
  induction yields with
  | nil => simp
  | cons made _ inductionHypothesis =>
      rw [List.mem_cons, inductionHypothesis]
      constructor
      · rintro (rfl | ⟨item, present, itemMade⟩)
        · exact ⟨_, List.mem_cons_self, made⟩
        · exact ⟨item, List.mem_cons_of_mem _ present, itemMade⟩
      · rintro ⟨item, present, itemMade⟩
        rcases List.mem_cons.mp present with rfl | later
        · exact .inl (Except.ok.inj (itemMade.symm.trans made))
        · exact .inr ⟨item, later, itemMade⟩

/-- A search among the results is a search among the items, where the tests
agree. -/
theorem map_find?_of_forall₂
    {γ : Type}
    {relation : α → β → Prop}
    {items : List α}
    {results : List β}
    {itemTest : α → Bool}
    {resultTest : β → Bool}
    {itemName : α → γ}
    {resultName : β → γ}
    (related : List.Forall₂ relation items results)
    (sameTest : ∀ item result, relation item result →
      itemTest item = resultTest result)
    (sameName : ∀ item result, relation item result →
      itemName item = resultName result) :
    (results.find? resultTest).map resultName =
      (items.find? itemTest).map itemName := by
  induction related with
  | nil => rfl
  | @cons item result _ _ first _ inductionHypothesis =>
      rw [List.find?_cons, List.find?_cons, sameTest item result first]
      cases resultTest result with
      | true => simp [sameName item result first]
      | false => exact inductionHypothesis

/-- What related items have in common is the same list for the items and for the
results. -/
theorem map_eq_map_of_forall₂
    {γ : Type}
    {relation : α → β → Prop}
    {items : List α}
    {results : List β}
    {ofItem : α → γ}
    {ofResult : β → γ}
    (related : List.Forall₂ relation items results)
    (same : ∀ {item : α} {result : β}, relation item result →
      ofItem item = ofResult result) :
    items.map ofItem = results.map ofResult := by
  rw [← List.forall₂_eq_eq_eq, List.forall₂_map_left_iff,
    List.forall₂_map_right_iff]
  exact related.imp fun _ _ pair => same pair

/-- All items have a property exactly when all results have one that goes with
it. -/
theorem forall_mem_iff_of_forall₂
    {relation : α → β → Prop}
    {items : List α}
    {results : List β}
    {itemProperty : α → Prop}
    {resultProperty : β → Prop}
    (related : List.Forall₂ relation items results)
    (sameProperty : ∀ {item : α} {result : β}, relation item result →
      (itemProperty item ↔ resultProperty result)) :
    (∀ item ∈ items, itemProperty item) ↔
      ∀ result ∈ results, resultProperty result := by
  induction related with
  | nil => simp
  | cons first _ inductionHypothesis =>
      rw [List.forall_mem_cons, List.forall_mem_cons, sameProperty first,
        inductionHypothesis]

/-- Every item is paired with a result. -/
theorem exists_mem_zip_of_forall₂
    {relation : α → β → Prop}
    {items : List α}
    {results : List β}
    (related : List.Forall₂ relation items results)
    {item : α}
    (present : item ∈ items) :
    ∃ result, (item, result) ∈ items.zip results := by
  induction related with
  | nil => cases present
  | @cons first result _ _ _ _ inductionHypothesis =>
      rcases List.mem_cons.mp present with rfl | later
      · exact ⟨result, List.mem_cons_self⟩
      · obtain ⟨paired, found⟩ := inductionHypothesis later
        exact ⟨paired, List.mem_cons_of_mem _ found⟩

/-- Items that are related to a list in two parts are in two parts
themselves. -/
theorem exists_append_of_forall₂
    {relation : α → β → Prop}
    {items : List α}
    {before after : List β}
    (related : List.Forall₂ relation items (before ++ after)) :
    ∃ itemsBefore itemsAfter, items = itemsBefore ++ itemsAfter ∧
      List.Forall₂ relation itemsBefore before ∧
      List.Forall₂ relation itemsAfter after :=
  ⟨items.take before.length, items.drop before.length,
    (List.take_append_drop _ _).symm,
    List.forall₂_take_append items before after related,
    List.forall₂_drop_append items before after related⟩

/-- All items yield results exactly when each of them does. -/
theorem exists_yields_iff
    {step : α → Except ε β}
    {items : List α} :
    (∃ results, Yields step items results) ↔
      ∀ item ∈ items, ∃ result, step item = .ok result := by
  induction items with
  | nil => simp
  | cons first rest inductionHypothesis =>
      rw [List.forall_mem_cons, ← inductionHypothesis]
      constructor
      · rintro ⟨results, yields⟩
        obtain ⟨result, later, made, laterYields, rfl⟩ :=
          yields_cons_iff.mp yields
        exact ⟨⟨result, made⟩, later, laterYields⟩
      · rintro ⟨⟨result, made⟩, later, laterYields⟩
        exact ⟨result :: later, .cons made laterYields⟩

theorem mapM_cons
    (step : α → Except ε β)
    (first : α)
    (rest : List α) :
    (first :: rest).mapM step =
      (step first).bind fun result => (rest.mapM step).map (result :: ·) := by
  rw [List.mapM_cons]
  change Except.bind _ _ = _
  congr 1

theorem mapError_eq_ok_iff
    {δ : Type}
    {function : ε → δ}
    {result : Except ε α}
    {value : α} :
    result.mapError function = .ok value ↔ result = .ok value := by
  cases result <;> simp [Except.mapError]

/-- Errors of a traversal can be changed in each of its steps. -/
theorem mapError_mapM
    {δ : Type}
    (step : α → Except ε β)
    (function : ε → δ)
    (items : List α) :
    (items.mapM step).mapError function =
      items.mapM fun item => (step item).mapError function := by
  induction items with
  | nil => rfl
  | cons first rest inductionHypothesis =>
      rw [mapM_cons, mapM_cons, ← inductionHypothesis]
      cases step first with
      | error error => rfl
      | ok result => cases rest.mapM step <;> rfl

/-- A traversal succeeds exactly if each step does. -/
theorem mapM_eq_ok_iff
    {step : α → Except ε β}
    {items : List α}
    {results : List β} :
    items.mapM step = .ok results ↔ Yields step items results := by
  induction items generalizing results with
  | nil =>
      rw [List.mapM_nil, yields_nil_iff]
      exact ⟨fun equal => (Except.ok.inj equal).symm, fun equal => equal ▸ rfl⟩
  | cons first rest inductionHypothesis =>
      rw [mapM_cons, bind_eq_ok_iff, yields_cons_iff]
      simp only [map_eq_ok_iff, inductionHypothesis]
      constructor
      · rintro ⟨result, made, later, laterYields, rfl⟩
        exact ⟨result, later, made, laterYields, rfl⟩
      · rintro ⟨result, later, made, laterYields, rfl⟩
        exact ⟨result, made, later, laterYields, rfl⟩

/-- A traversal fails at the first step that does. -/
theorem mapM_eq_error_iff
    {step : α → Except ε β}
    {items : List α}
    {error : ε} :
    items.mapM step = .error error ↔
      ∃ item, Reaches (fun earlier => ∃ result, step earlier = .ok result)
        items item ∧
        step item = .error error := by
  induction items with
  | nil =>
      rw [List.mapM_nil]
      constructor
      · intro equal
        cases equal
      · rintro ⟨item, reaches, -⟩
        exact absurd reaches not_reaches_nil
  | cons first rest inductionHypothesis =>
      rw [mapM_cons, bind_eq_error_iff]
      simp only [map_eq_error_iff, inductionHypothesis, reaches_cons_iff]
      constructor
      · rintro (failed | ⟨result, made, item, reaches, failed⟩)
        · exact ⟨first, .inl rfl, failed⟩
        · exact ⟨item, .inr ⟨⟨result, made⟩, reaches⟩, failed⟩
      · rintro ⟨item, rfl | ⟨⟨result, made⟩, reaches⟩, failed⟩
        · exact .inl failed
        · exact .inr ⟨result, made, item, reaches, failed⟩

/-- The outcome of a traversal depends on the outcomes of its steps only. -/
theorem outcome_mapM
    (step : α → Traced ε β)
    (items : List α) :
    (items.mapM step).outcome = items.mapM fun item => (step item).outcome := by
  induction items with
  | nil => rfl
  | cons first rest inductionHypothesis =>
      rw [mapM_cons, List.mapM_cons, Traced.outcome_bind]
      simp only [Traced.outcome_bind, inductionHypothesis, Traced.outcome_pure]
      congr 1

end Traversal
end PreferenceSchema
