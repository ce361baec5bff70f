import Mathlib.Algebra.Order.Group.Multiset
import PreferenceSchema.Proofs.MalformedAttributes

/-!
# Balances of faults

Which errors of attributes are reported and which are not, counted by their
faults.  What is reported and what is hidden are, together, what cannot be read
and what has no name.  Balances of parts add up, so those of fields, functions
and attributes make those of items and files.  Faults of fields without names
are no faults of attributes; this is why a balance tells what is hidden from
what is reported besides.
-/

namespace PreferenceSchema
namespace Source

/-! ## Faults of several errors -/

/-- The faults of some errors, in no order. -/
def faultsIn (errors : List AttributeError) :
    Multiset (AttributeFault × Option String) :=
  errors.flatMap AttributeError.faults

@[simp] theorem faultsIn_nil : faultsIn [] = 0 := rfl

@[simp] theorem faultsIn_append
    (first second : List AttributeError) :
    faultsIn (first ++ second) = faultsIn first + faultsIn second := by
  rw [faultsIn, List.flatMap_append, ← Multiset.coe_add]
  rfl

theorem faultsIn_cons
    (error : AttributeError)
    (rest : List AttributeError) :
    faultsIn (error :: rest) = error.faults + faultsIn rest :=
  faultsIn_append [error] rest |>.trans
    (by rw [faultsIn, List.flatMap_singleton])

/-- The order of errors does not matter to their faults. -/
theorem faultsIn_eq_of_perm
    {left right : List AttributeError}
    (same : left.Perm right) : faultsIn left = faultsIn right :=
  Multiset.coe_eq_coe.mpr (same.flatMap_right _)

theorem mem_faultsIn_iff
    {errors : List AttributeError}
    {entry : AttributeFault × Option String} :
    entry ∈ faultsIn errors ↔ ∃ error ∈ errors, entry ∈ error.faults := by
  rw [faultsIn, Multiset.mem_coe, List.mem_flatMap]

/-- Errors that each have some fault have none together only if there are no
errors. -/
theorem faultsIn_eq_zero_iff
    {errors : List AttributeError}
    (proper : ∀ error ∈ errors, error.faults ≠ []) :
    faultsIn errors = 0 ↔ errors = [] := by
  rw [faultsIn, Multiset.coe_eq_zero, List.flatMap_eq_nil_iff]
  constructor
  · exact fun noFaults => List.eq_nil_iff_forall_not_mem.mpr
        fun error present =>
      proper error present (noFaults error present)
  · rintro rfl error present
    cases present

/-! ## Balances -/

/-- What is reported and what is hidden are together what is malformed and what
has no name.  Only errors of attributes are hidden, and all that is reported has
some fault. -/
structure Balances (reported hidden malformed nameless : List AttributeError) :
    Prop where
  faults : faultsIn reported + faultsIn hidden =
    faultsIn malformed + faultsIn nameless
  hidden_subset : hidden ⊆ malformed
  reports : ∀ error ∈ malformed, error.IsReport
  nameless : ∀ error ∈ nameless, error.IsNameless
  proper : ∀ error ∈ reported, error.faults ≠ []

namespace Balances

variable {reported hidden malformed nameless : List AttributeError}

theorem nothing : Balances [] [] [] [] where
  faults := rfl
  hidden_subset := List.Subset.refl _
  reports := by simp
  nameless := by simp
  proper := by simp

/-- Errors balance if what is reported and hidden is a rearrangement of what is
wrong. -/
theorem of_perm
    (same : (reported ++ hidden).Perm (malformed ++ nameless))
    (hidden_subset : hidden ⊆ malformed)
    (reports : ∀ error ∈ malformed, error.IsReport)
    (areNameless : ∀ error ∈ nameless, error.IsNameless) :
    Balances reported hidden malformed nameless where
  faults := by
    rw [← faultsIn_append, ← faultsIn_append]
    exact faultsIn_eq_of_perm same
  hidden_subset := hidden_subset
  reports := reports
  nameless := areNameless
  proper := by
    intro error present
    rcases List.mem_append.mp (same.subset (List.mem_append_left _ present))
      with inner | outer
    · exact (reports error inner).faults_ne_nil
    · exact (areNameless error outer).faults_ne_nil

/-- The error of a field without a name balances by itself. -/
theorem unnamed
    {error : AttributeError}
    (isNameless : error.IsNameless) : Balances [error] [] [] [error] := by
  refine .of_perm (.refl _) (List.Subset.refl _) (by simp) ?_
  rwa [List.forall_mem_singleton]

/-- Errors balance if the reported ones come first and the hidden ones are the
rest. -/
theorem of_append_eq
    (equal : reported ++ hidden = malformed)
    (reports : ∀ error ∈ malformed, error.IsReport) :
    Balances reported hidden malformed [] := by
  refine .of_perm (by rw [equal, List.append_nil]) ?_ reports (by simp)
  rw [← equal]
  exact List.subset_append_right _ _

theorem append
    {moreReported moreHidden moreMalformed moreNameless : List AttributeError}
    (first : Balances reported hidden malformed nameless)
    (second : Balances moreReported moreHidden moreMalformed moreNameless) :
    Balances (reported ++ moreReported) (hidden ++ moreHidden)
      (malformed ++ moreMalformed)
      (nameless ++ moreNameless) where
  faults := by
    simp only [faultsIn_append]
    rw [add_add_add_comm, first.faults, second.faults, add_add_add_comm]
  hidden_subset := List.append_subset.mpr
    ⟨List.subset_append_of_subset_left _ first.hidden_subset,
      List.subset_append_of_subset_right _ second.hidden_subset⟩
  reports := List.forall_mem_append.mpr ⟨first.reports, second.reports⟩
  nameless := List.forall_mem_append.mpr ⟨first.nameless, second.nameless⟩
  proper := List.forall_mem_append.mpr ⟨first.proper, second.proper⟩

/-- A list balances if each of its items does. -/
theorem flatMap
    {α : Type}
    {reported hidden malformed nameless : α → List AttributeError}
    (each : ∀ item, Balances (reported item) (hidden item) (malformed item)
      (nameless item))
    (items : List α) :
    Balances (items.flatMap reported) (items.flatMap hidden)
      (items.flatMap malformed)
      (items.flatMap nameless) := by
  induction items with
  | nil => exact nothing
  | cons first rest inductionHypothesis =>
      simp only [List.flatMap_cons]
      exact (each first).append inductionHypothesis

/-- What is not looked at is hidden. -/
theorem hide
    (balances : Balances reported hidden malformed nameless) :
    Balances [] malformed malformed [] :=
  .of_append_eq rfl balances.reports

/-- The order of what is reported does not matter. -/
theorem of_reported_perm
    {other : List AttributeError}
    (balances : Balances reported hidden malformed nameless)
    (same : other.Perm reported) : Balances other hidden malformed nameless :=
  { balances with
    faults := by rw [faultsIn_eq_of_perm same, balances.faults]
    proper := fun error present => balances.proper error (same.subset present) }

variable (balances : Balances reported hidden malformed nameless)
include balances

/-- Nothing that is hidden is a fault of a field without a name. -/
theorem notMem_nameless
    {entry : AttributeFault × Option String}
    (inHidden : entry ∈ faultsIn hidden) : entry ∉ faultsIn nameless := by
  intro inNameless
  obtain ⟨error, present, inError⟩ := mem_faultsIn_iff.mp inHidden
  have named :=
    (balances.reports error (balances.hidden_subset present)).notNameless
      entry inError
  obtain ⟨other, otherPresent, inOther⟩ := mem_faultsIn_iff.mp inNameless
  obtain ⟨fault, isNameless, rfl⟩ := balances.nameless other otherPresent
  rw [AttributeError.faults_ofFault, List.mem_singleton] at inOther
  rw [inOther, isNameless] at named
  cases named

/-- All faults of attributes are reported exactly if none is hidden.  What is
hidden would otherwise be among the faults of fields without names, and is none
of them. -/
theorem le_reported_iff :
    faultsIn malformed ≤ faultsIn reported ↔ hidden = [] := by
  have total := balances.faults
  constructor
  · intro complete
    obtain ⟨rest, split⟩ := Multiset.le_iff_exists_add.mp complete
    rw [split, add_assoc] at total
    have inNameless : rest + faultsIn hidden = faultsIn nameless :=
      add_left_cancel total
    have noFaults : faultsIn hidden = 0 :=
      Multiset.eq_zero_of_forall_notMem fun entry inHidden =>
      balances.notMem_nameless inHidden
        (inNameless ▸ Multiset.mem_add.mpr (.inr inHidden))
    refine (faultsIn_eq_zero_iff fun error present => ?_).mp noFaults
    exact (balances.reports error
      (balances.hidden_subset present)).faults_ne_nil
  · rintro rfl
    rw [faultsIn_nil, add_zero] at total
    exact total ▸ Multiset.le_add_right _ _

/-- Nothing is reported exactly if all faults of attributes are hidden and all
fields have names. -/
theorem reported_eq_nil_iff :
    reported = [] ↔ faultsIn hidden = faultsIn malformed ∧ nameless = [] := by
  have total := balances.faults
  constructor
  · rintro rfl
    rw [faultsIn_nil, zero_add] at total
    have noFaults : faultsIn nameless = 0 :=
      Multiset.eq_zero_of_forall_notMem fun entry inNameless =>
        balances.notMem_nameless
          (total ▸ Multiset.mem_add.mpr (.inr inNameless)) inNameless
    rw [noFaults, add_zero] at total
    refine ⟨total, (faultsIn_eq_zero_iff fun error present => ?_).mp noFaults⟩
    exact (balances.nameless error present).faults_ne_nil
  · rintro ⟨allHidden, rfl⟩
    rw [allHidden, faultsIn_nil, add_zero] at total
    exact (faultsIn_eq_zero_iff balances.proper).mp (add_eq_right.mp total)

end Balances

end Source
end PreferenceSchema
