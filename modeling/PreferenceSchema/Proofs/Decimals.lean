import Mathlib.Algebra.Order.Field.Power
import Mathlib.Algebra.Order.Ring.Rat
import Mathlib.Data.List.TakeWhile
import Mathlib.Tactic.Ring
import PreferenceSchema.Number.Decimal
import PreferenceSchema.Proofs.Numerals

/-!
# Decimal fractions

The number that a decimal fraction denotes lies between two powers of ten that
are next to each other, and the upper one is known from the digits.  Dropping
zeros keeps the number, and so does writing it in full and reading it back, with
a point or without.
-/

namespace PreferenceSchema
namespace Number
namespace Decimal

/-- The number that a decimal fraction denotes. -/
def value (d : Decimal) : ℚ :=
  d.digits * 10 ^ d.exponent

/-- Only the digits decide whether a decimal fraction is zero. -/
theorem value_eq_zero_iff (d : Decimal) : d.value = 0 ↔ d.digits = 0 := by
  have power : (10 : ℚ) ^ d.exponent ≠ 0 := zpow_ne_zero _ (by norm_num)
  simp [value, power]

/-! ## The number as a quotient -/

theorem fraction_den_pos (d : Decimal) : 0 < d.fraction.2 := by
  rw [fraction]
  split
  · exact Nat.one_pos
  · exact Nat.pow_pos (by decide)

theorem value_mul_den
    (d : Decimal) :
    d.value * d.fraction.2 = d.fraction.1 := by
  rw [fraction, value]
  split
  case isTrue whole =>
    obtain ⟨places, equal⟩ := Int.eq_ofNat_of_zero_le whole
    simp [equal]
  case isFalse below =>
    obtain ⟨places, equal⟩ : ∃ places : Nat, d.exponent = -places :=
      ⟨(-d.exponent).toNat, by omega⟩
    have power : (10 : ℚ) ^ places ≠ 0 := pow_ne_zero _ (by norm_num)
    simp [equal, power]

/-- Fractions that denote the same number are equal crosswise. -/
theorem fraction_mul_eq_of_value_eq
    {first second : Decimal}
    (same : first.value = second.value) :
    first.fraction.1 * second.fraction.2 =
      second.fraction.1 * first.fraction.2 := by
  have crosswise : (first.fraction.1 * second.fraction.2 : ℚ) =
      second.fraction.1 * first.fraction.2 := by
    rw [← value_mul_den, ← value_mul_den, same]
    ring
  exact_mod_cast crosswise

/-! ## Powers of ten around a number -/

/-- A decimal fraction is below the power of ten above its first digit. -/
theorem value_lt (d : Decimal) : d.value < 10 ^ d.top := by
  have below : (d.digits : ℚ) < 10 ^ (naturalDigits d.digits).length := by
    exact_mod_cast lt_pow_length_naturalDigits d.digits
  have positive : (0 : ℚ) < 10 ^ d.exponent := zpow_pos (by norm_num) _
  rw [top, zpow_add₀ (by norm_num), zpow_natCast, value]
  exact mul_lt_mul_of_pos_right below positive

/-- A decimal fraction that is not zero reaches the power of ten of its first
digit. -/
theorem pow_le_value
    {d : Decimal}
    (notZero : d.digits ≠ 0) : 10 ^ (d.top - 1) ≤ d.value := by
  have above : (10 : ℚ) ^ ((naturalDigits d.digits).length - 1) ≤ d.digits := by
    exact_mod_cast pow_length_naturalDigits_le (Nat.pos_of_ne_zero notZero)
  have length : ((naturalDigits d.digits).length : ℤ) - 1 =
      ((naturalDigits d.digits).length - 1 : Nat) := by
    have := length_naturalDigits_pos d.digits
    omega
  have split : d.top - 1 = ((naturalDigits d.digits).length - 1 : Nat) +
      d.exponent := by
    rw [top, ← length]
    ring
  have positive : (0 : ℚ) < 10 ^ d.exponent := zpow_pos (by norm_num) _
  rw [split, zpow_add₀ (by norm_num), zpow_natCast, value]
  exact mul_le_mul_of_nonneg_right above positive.le

theorem lt_of_pow_le_of_lt
    {first second : ℤ}
    {number : ℚ}
    (above : 10 ^ first ≤ number)
    (below : number < 10 ^ second) : first < second :=
  (zpow_lt_zpow_iff_right₀ (by norm_num)).mp (above.trans_lt below)

/-- The number alone decides between which powers of ten it lies. -/
theorem top_eq_of_value_eq
    {first second : Decimal}
    (same : first.value = second.value)
    (notZero : first.digits ≠ 0) : first.top = second.top := by
  have secondNotZero : second.digits ≠ 0 := by
    rwa [ne_eq, ← value_eq_zero_iff, ← same, value_eq_zero_iff]
  have firstAbove := pow_le_value notZero
  have secondAbove := pow_le_value secondNotZero
  have upTo := lt_of_pow_le_of_lt firstAbove (same ▸ value_lt second)
  have downTo := lt_of_pow_le_of_lt secondAbove (same ▸ value_lt first)
  omega

/-! ## Zeros at the end -/

/-- A zero at the end of the digits can be dropped if the exponent grows by
one. -/
theorem value_div_ten
    {d : Decimal}
    (endsInZero : d.digits % 10 = 0) :
    (Decimal.mk (d.digits / 10) (d.exponent + 1)).value = d.value := by
  obtain ⟨tenth, equal⟩ := Nat.dvd_of_mod_eq_zero endsInZero
  have tenthEqual : d.digits / 10 = tenth := by omega
  rw [value, value, zpow_add_one₀ (by norm_num), tenthEqual, equal]
  push_cast
  ring

/-- Dropping zeros at the end does not change the number. -/
@[simp] theorem value_stripZeros
    (count : Nat)
    (d : Decimal) : (stripZeros count d).value = d.value := by
  induction count generalizing d with
  | zero => rfl
  | succ count inductionHypothesis =>
      rw [stripZeros]
      split
      case isTrue endsInZero =>
        rw [inductionHypothesis, value_div_ten endsInZero]
      case isFalse => rfl

@[simp] theorem value_normalize
    (d : Decimal) :
    d.normalize.value = d.value := by
  rw [normalize]
  split
  case isTrue zero => simp [value, zero]
  case isFalse => exact value_stripZeros _ d

/-! ## Reading -/

theorem takeWhile_isDigit_append
    {digits : List Char}
    (isDigits : ∀ c ∈ digits, c.isDigit = true)
    (rest : List Char) :
    (digits ++ '.' :: rest).takeWhile Char.isDigit = digits := by
  rw [List.takeWhile_append_of_pos isDigits,
    List.takeWhile_cons_of_neg (by decide), List.append_nil]

theorem dropWhile_isDigit_append
    {digits : List Char}
    (isDigits : ∀ c ∈ digits, c.isDigit = true)
    (rest : List Char) :
    (digits ++ '.' :: rest).dropWhile Char.isDigit = '.' :: rest := by
  rw [List.dropWhile_append_of_pos isDigits,
    List.dropWhile_cons_of_neg (by decide)]

/-- Digits without a point are read as a whole number. -/
theorem read?_digits
    {digits : List Char}
    (isDigits : ∀ c ∈ digits, c.isDigit = true)
    (some : digits ≠ []) : read? digits = .some ⟨digitsValue digits, 0⟩ := by
  have all : digits.takeWhile Char.isDigit = digits :=
    List.takeWhile_eq_self_iff.mpr isDigits
  have nothing : digits.dropWhile Char.isDigit = [] :=
    List.dropWhile_eq_nil_iff.mpr isDigits
  simp [read?, all, nothing, some, readExponent?]

/-- Digits with a point behind the first of them are read as a fraction. -/
theorem read?_point
    {whole places : List Char}
    (wholeDigits : ∀ c ∈ whole, c.isDigit = true)
    (placesDigits : ∀ c ∈ places, c.isDigit = true)
    (some : whole ≠ []) :
    read? (whole ++ '.' :: places) =
      .some ⟨digitsValue (whole ++ places), -places.length⟩ := by
  have all : places.takeWhile Char.isDigit = places :=
    List.takeWhile_eq_self_iff.mpr placesDigits
  have nothing : places.dropWhile Char.isDigit = [] :=
    List.dropWhile_eq_nil_iff.mpr placesDigits
  simp [read?, takeWhile_isDigit_append wholeDigits,
    dropWhile_isDigit_append wholeDigits, all, nothing, some, readExponent?]

/-! ## Writing -/

/-- A number is written as digits, or as digits with a point behind the first of
them. -/
inductive WrittenAs (number : ℚ) : List Char → Prop
  | whole {digits : List Char} :
      (∀ c ∈ digits, c.isDigit = true) →
      digits ≠ [] →
      number = digitsValue digits →
      WrittenAs number digits
  | point {whole places : List Char} :
      (∀ c ∈ whole, c.isDigit = true) →
      (∀ c ∈ places, c.isDigit = true) →
      whole ≠ [] →
      number =
        (⟨digitsValue (whole ++ places), -places.length⟩ : Decimal).value →
      WrittenAs number (whole ++ '.' :: places)

/-- What is written is read back as the same number. -/
theorem WrittenAs.exists_read?_eq
    {number : ℚ}
    {text : List Char}
    (written : WrittenAs number text) :
    ∃ d, read? text = some d ∧ d.value = number := by
  cases written with
  | whole isDigits some equal =>
      exact ⟨_, read?_digits isDigits some, by simp [equal, value]⟩
  | point wholeDigits placesDigits some equal =>
      exact ⟨_, read?_point wholeDigits placesDigits some, equal.symm⟩

/-- What is written has no sign. -/
theorem WrittenAs.readSign_eq
    {number : ℚ}
    {text : List Char}
    (written : WrittenAs number text) : readSign text = (false, text) := by
  cases written with
  | whole isDigits some =>
      obtain ⟨first, rest, rfl⟩ := List.exists_cons_of_ne_nil some
      exact readSign_of_isDigit (isDigits first List.mem_cons_self) rest
  | @point whole places wholeDigits _ some =>
      obtain ⟨first, rest, rfl⟩ := List.exists_cons_of_ne_nil some
      exact readSign_of_isDigit (wholeDigits first List.mem_cons_self) _

theorem writtenAs_positional
    (d : Decimal) :
    WrittenAs d.value d.positional := by
  have isDigits : ∀ c ∈ naturalDigits d.digits, c.isDigit = true :=
    fun c => isDigit_of_mem_naturalDigits
  have zeros {count : Nat} : ∀ c ∈ List.replicate count '0',
      c.isDigit = true := by
    intro c present
    rw [List.eq_of_mem_replicate present]
    decide
  rw [positional]
  split
  case isTrue whole =>
    split
    case isTrue zero =>
      have nothing : digitsValue ['0'] = 0 := digitsValue_zeros 1
      exact .whole (by simp) (by decide) (by simp [value, zero, nothing])
    case isFalse =>
      refine .whole ?_ (by simp [naturalDigits_ne_nil]) ?_
      · exact List.forall_mem_append.mpr ⟨isDigits, zeros⟩
      · obtain ⟨count, equal⟩ := Int.eq_ofNat_of_zero_le whole
        rw [digitsValue_append]
        simp [value, equal, mul_comm]
  case isFalse below =>
    obtain ⟨places, equal⟩ : ∃ places : Nat, d.exponent = -places :=
      ⟨(-d.exponent).toNat, by omega⟩
    rw [equal]
    simp only [neg_neg, Int.toNat_natCast]
    split
    case isTrue inside =>
      refine .point ?_ ?_ ?_ ?_
      · exact fun c present => isDigits c (List.mem_of_mem_take present)
      · exact fun c present => isDigits c (List.mem_of_mem_drop present)
      · simp [naturalDigits_ne_nil]
        omega
      · rw [List.take_append_drop, digitsValue_naturalDigits, List.length_drop]
        rw [value, equal]
        congr 2
        push_cast
        omega
    case isFalse before =>
      have shape : WrittenAs d.value
          (['0'] ++ '.' ::
            (List.replicate (places - (naturalDigits d.digits).length) '0' ++
              naturalDigits d.digits)) := by
        refine .point (by simp) (List.forall_mem_append.mpr ⟨zeros, isDigits⟩)
          (by decide) ?_
        rw [digitsValue_append, digitsValue_append, digitsValue_naturalDigits,
          digitsValue_zeros]
        have length :
            (List.replicate (places - (naturalDigits d.digits).length) '0' ++
              naturalDigits d.digits).length = places := by
          rw [List.length_append, List.length_replicate]
          omega
        have nothing : digitsValue ['0'] = 0 := digitsValue_zeros 1
        rw [length, nothing]
        simp [value, equal]
      exact shape

end Decimal
end Number
end PreferenceSchema
