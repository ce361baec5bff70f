import Mathlib.Data.Nat.ModEq
import PreferenceSchema.Text.Case

/-!
# Lower case

A text in lower case is its own lower case.  The images of the tables of case
mappings are no points that the tables map: this is checked run against run,
from bounds and remainders, and not point by point.
-/

namespace PreferenceSchema
namespace Text

/-! ## Runs -/

namespace CaseRun

/-- The point that a point of a run is mapped to. -/
def image
    (run : CaseRun)
    (point : Nat) : Nat :=
  Int.toNat (point + run.offset)

/-- Whether the images of a run can be seen to lie outside another run: they end
before it, they start behind it, or they are all on one remainder and its points
on another. -/
def misses (run other : CaseRun) : Bool :=
  Nat.blt (run.image run.last) other.first ||
    (Nat.blt other.last (run.image run.first) ||
      ((Nat.beq run.first run.last || Nat.beq (run.step % other.step) 0) &&
        (decide (0 ≤ run.first + run.offset) &&
          !Nat.beq (run.image run.first % other.step)
            (other.first % other.step))))

theorem contains_iff
    {run : CaseRun}
    {point : Nat} :
    run.contains point = true ↔
      run.first ≤ point ∧ point ≤ run.last ∧
        (point - run.first) % run.step = 0 := by
  simp [contains, and_assoc]

/-- The images of points on one remainder are on one remainder. -/
theorem image_mod_eq
    {run : CaseRun}
    {point modulus : Nat}
    (contained : run.contains point = true)
    (aligned : run.first = run.last ∨ run.step % modulus = 0)
    (natural : 0 ≤ run.first + run.offset) :
    run.image point % modulus = run.image run.first % modulus := by
  obtain ⟨above, below, onStep⟩ := contains_iff.mp contained
  have ahead : run.image point = run.image run.first + (point - run.first) := by
    simp only [image]
    omega
  have multiple : (point - run.first) % modulus = 0 := by
    rcases aligned with single | divides
    · have atFirst : point - run.first = 0 := by omega
      rw [atFirst, Nat.zero_mod]
    · exact Nat.mod_eq_zero_of_dvd
        ((Nat.dvd_of_mod_eq_zero divides).trans (Nat.dvd_of_mod_eq_zero onStep))
  rw [ahead, Nat.add_mod, multiple, Nat.add_zero, Nat.mod_mod]

theorem not_contains_image
    {run other : CaseRun}
    (misses : run.misses other = true)
    {point : Nat}
    (contained : run.contains point = true) :
    other.contains (run.image point) = false := by
  obtain ⟨above, below, -⟩ := contains_iff.mp contained
  rw [Bool.eq_false_iff]
  intro hit
  obtain ⟨otherAbove, otherBelow, otherOnStep⟩ := contains_iff.mp hit
  simp only [CaseRun.misses, Bool.or_eq_true, Bool.and_eq_true, Nat.blt_eq,
    Nat.beq_eq, decide_eq_true_eq, Bool.not_eq_true'] at misses
  rcases misses with before | behind | ⟨aligned, natural, apart⟩
  · have bounded : run.image point ≤ run.image run.last := by
      simp only [image]
      omega
    omega
  · have bounded : run.image run.first ≤ run.image point := by
      simp only [image]
      omega
    omega
  · have sameRemainder : run.image point % other.step =
        other.first % other.step :=
      ((Nat.modEq_iff_dvd' otherAbove).mpr
        (Nat.dvd_of_mod_eq_zero otherOnStep)).symm
    exact Nat.ne_of_beq_eq_false apart
      ((image_mod_eq contained aligned natural).symm.trans sameRemainder)

end CaseRun

/-! ## Characters -/

/-- The capital letters of ASCII. -/
def asciiRun : CaseRun :=
  ⟨0x41, 0x5A, 1, 32⟩

/-- The runs of all points with another lower case of one character. -/
def loweredRuns : List CaseRun :=
  asciiRun :: lowerRuns.toList

/-- The only point with a lower case of several characters. -/
def dottedRun : CaseRun :=
  ⟨0x130, 0x130, 1, 0⟩

/-- No image is mapped itself. -/
theorem misses_of_mem_loweredRuns :
    ∀ run ∈ loweredRuns, ∀ other ∈ dottedRun :: loweredRuns,
      run.misses other = true := by
  have table :
      (loweredRuns.all fun run => (dottedRun :: loweredRuns).all run.misses) =
      true := by
    decide +kernel
  intro run present other otherPresent
  exact List.all_eq_true.mp (List.all_eq_true.mp table run present)
    other otherPresent

theorem contains_asciiRun
    (c : Char) :
    asciiRun.contains c.toNat = c.isUpper := by
  have upper : c.isUpper = decide ('A'.val ≤ c.val ∧ c.val ≤ 'Z'.val) := rfl
  rw [Bool.eq_iff_iff, CaseRun.contains_iff, upper, decide_eq_true_eq,
    UInt32.le_iff_toNat_le, UInt32.le_iff_toNat_le]
  simp [asciiRun, Nat.mod_one]

/-- A character outside all runs is its own lower case. -/
theorem lowerChar_eq_of_outside
    {c : Char}
    (outside : ∀ run ∈ dottedRun :: loweredRuns, run.contains c.toNat = false) :
    lowerChar c = [c] := by
  have notDotted := outside dottedRun (by simp)
  have notUpper : c.isUpper = false := by
    rw [← contains_asciiRun]
    exact outside asciiRun (by simp [loweredRuns])
  rw [lowerChar, notUpper]
  split
  · rfl
  rw [mapCase]
  split
  case h_2 => rfl
  case h_1 run located =>
    have notContained := outside run (by
      simp [loweredRuns, Array.mem_of_getElem? located])
    have notExpanded : lowerExpansions.lookup c.toNat = none := by
      rw [List.lookup_eq_none_iff]
      intro entry present
      rw [List.mem_singleton.mp present, bne_iff_ne]
      intro dotted
      rw [dotted] at notDotted
      exact absurd notDotted (by decide)
    simp [notContained, notExpanded]

/-- An image is its own lower case. -/
theorem lowerChar_ofNat_image
    {run : CaseRun}
    (present : run ∈ loweredRuns)
    {point : Nat}
    (contained : run.contains point = true) :
    lowerChar (Char.ofNat (run.image point)) =
      [Char.ofNat (run.image point)] := by
  by_cases valid : (run.image point).isValidChar
  · apply lowerChar_eq_of_outside
    intro other otherPresent
    rw [Char.ofNat, dif_pos valid]
    exact CaseRun.not_contains_image
      (misses_of_mem_loweredRuns run present other otherPresent)
      contained
  · rw [Char.ofNat, dif_neg valid]
    rfl

theorem lowerChar_of_mem_dotted :
    ∀ d ∈ [0x69, 0x307].map Char.ofNat, lowerChar d = [d] := by
  rw [List.forall_mem_map]
  decide +kernel

/-- Whatever is the lower case of a character, or a part of it, is its own lower
case. -/
theorem lowerChar_of_mem_lowerChar
    {c d : Char}
    (lowered : d ∈ lowerChar c) : lowerChar d = [d] := by
  have unchanged : lowerChar c = [c] → lowerChar d = [d] := by
    intro same
    rw [same] at lowered
    rw [List.mem_singleton.mp lowered, same]
  by_cases ascii : c.toNat < 0x80
  · rw [lowerChar, if_pos ascii] at lowered unchanged
    split at lowered
    case isTrue upper =>
      have image : d = Char.ofNat (asciiRun.image c.toNat) :=
        List.mem_singleton.mp lowered
      rw [image]
      exact lowerChar_ofNat_image List.mem_cons_self
        ((contains_asciiRun c).trans upper)
    case isFalse notUpper => exact unchanged (if_neg notUpper)
  · rw [lowerChar, if_neg ascii, mapCase] at lowered unchanged
    cases located :
      lowerRuns[locateRun lowerRuns c.toNat lowerRuns.size 0 lowerRuns.size]?
      with
    | none =>
        rw [located] at unchanged
        exact unchanged rfl
    | some run =>
        rw [located] at lowered unchanged
        dsimp only at lowered unchanged
        by_cases contained : run.contains c.toNat = true
        · rw [if_pos contained] at lowered
          have image : d = Char.ofNat (run.image c.toNat) :=
            List.mem_singleton.mp lowered
          have present : run ∈ loweredRuns :=
            List.mem_cons_of_mem _ (Array.mem_of_getElem? located).val
          rw [image]
          exact lowerChar_ofNat_image present contained
        · rw [if_neg contained] at lowered unchanged
          cases expanded : lowerExpansions.lookup c.toNat with
          | none =>
              rw [expanded] at unchanged
              exact unchanged rfl
          | some points =>
              obtain ⟨before, after, split, -⟩ :=
                List.lookup_eq_some_iff.mp expanded
              have entry : (c.toNat, points) ∈ lowerExpansions := by
                rw [split]
                exact List.mem_append_right before List.mem_cons_self
              obtain ⟨-, rfl⟩ := Prod.mk.inj (List.mem_singleton.mp entry)
              rw [expanded] at lowered
              exact lowerChar_of_mem_dotted d lowered

/-! ## Texts -/

/-- A text of characters that are their own lower case is its own lower case. -/
theorem lowerAfter_eq_self
    {text : List Char}
    (lowered : ∀ c ∈ text, lowerChar c = [c])
    (before : List Char) : lowerAfter before text = text := by
  induction text generalizing before with
  | nil => rfl
  | cons c rest inductionHypothesis =>
      have notSigma : c ≠ capitalSigma := by
        rintro rfl
        exact absurd (lowered capitalSigma List.mem_cons_self)
          (by decide +kernel)
      rw [lowerAfter, if_neg notSigma, lowered c List.mem_cons_self,
        inductionHypothesis fun d later =>
          lowered d (List.mem_cons_of_mem c later)]
      rfl

/-- The characters of a text in lower case are their own lower case, a final
sigma among them. -/
theorem lowerChar_of_mem_lowerAfter
    {text : List Char}
    {before : List Char}
    {d : Char}
    (present : d ∈ lowerAfter before text) : lowerChar d = [d] := by
  induction text generalizing before with
  | nil => cases present
  | cons c rest inductionHypothesis =>
      rw [lowerAfter] at present
      obtain here | later := List.mem_append.mp present
      · split at here
        case isTrue =>
          rw [List.mem_singleton.mp here, lowerSigma]
          split <;> decide +kernel
        case isFalse => exact lowerChar_of_mem_lowerChar here
      · exact inductionHypothesis later

/-- A text in lower case is its own lower case. -/
theorem lower_lower (text : List Char) : lower (lower text) = lower text :=
  lowerAfter_eq_self (fun _ present => lowerChar_of_mem_lowerAfter present) []

end Text

/-- A text in lower case. -/
def lowerCase (text : String) : String :=
  String.ofList (Text.lower text.toList)

theorem lowerCase_lowerCase
    (text : String) :
    lowerCase (lowerCase text) = lowerCase text := by
  rw [lowerCase, lowerCase, String.toList_ofList, Text.lower_lower]

end PreferenceSchema
