import Mathlib.Algebra.Order.Field.Basic
import Mathlib.Tactic.FieldSimp
import PreferenceSchema.Number.BinaryFloat
import PreferenceSchema.Proofs.Decimals

/-!
# Writing and reading binary floating-point numbers

Rounding sees the number that a fraction denotes and not how the fraction is
written, and it keeps the values of the format.  What is written for a value
therefore rounds back to it, so the text of a value, in full or with a point
added, is read as that value.
-/

namespace PreferenceSchema
namespace Number
namespace BinaryFormat

variable {format : BinaryFormat}

/-! ## Rounding quotients -/

theorem roundHalfEven_mul_right
    {factor : Nat}
    (positive : 0 < factor)
    (num den : Nat) :
    roundHalfEven (num * factor) (den * factor) = roundHalfEven num den := by
  have below : 2 * (num % den * factor) < den * factor ↔
      2 * (num % den) < den := by
    rw [← Nat.mul_assoc, Nat.mul_lt_mul_right positive]
  have above : den * factor < 2 * (num % den * factor) ↔
      den < 2 * (num % den) := by
    rw [← Nat.mul_assoc, Nat.mul_lt_mul_right positive]
  simp only [roundHalfEven, Nat.mul_div_mul_right _ _ positive,
    Nat.mul_mod_mul_right, below, above]

/-- A whole number is not changed. -/
theorem roundHalfEven_mul_self
    {den : Nat}
    (positive : 0 < den)
    (n : Nat) : roundHalfEven (n * den) den = n := by
  simp [roundHalfEven, Nat.mul_div_cancel _ positive, positive]

theorem nearest_mul_right
    {factor : Nat}
    (positive : 0 < factor)
    (num den : Nat) :
    format.nearest (num * factor) (den * factor) = format.nearest num den := by
  have scaled : num * factor * format.denominator =
      num * format.denominator * factor :=
    Nat.mul_right_comm ..
  simp only [nearest, scaled, Nat.mul_div_mul_right _ _ positive,
    Nat.mul_right_comm den factor, roundHalfEven_mul_right positive]

/-- Fractions that are equal crosswise are rounded to the same value. -/
theorem nearest_eq_of_mul_eq
    {firstNum firstDen secondNum secondDen : Nat}
    (firstPositive : 0 < firstDen)
    (secondPositive : 0 < secondDen)
    (crosswise : firstNum * secondDen = secondNum * firstDen) :
    format.nearest firstNum firstDen = format.nearest secondNum secondDen :=
  calc format.nearest firstNum firstDen
      = format.nearest (firstNum * secondDen) (firstDen * secondDen) :=
        (nearest_mul_right secondPositive _ _).symm
    _ = format.nearest (secondNum * firstDen) (secondDen * firstDen) := by
        rw [crosswise, Nat.mul_comm firstDen]
    _ = format.nearest secondNum secondDen :=
      nearest_mul_right firstPositive _ _

/-- Which value a decimal fraction is read as depends on the number it denotes
alone. -/
theorem ofDecimal?_eq_of_value_eq
    {first second : Decimal}
    (same : first.value = second.value) :
    format.ofDecimal? first = format.ofDecimal? second := by
  have zero : first.digits = 0 ↔ second.digits = 0 := by
    rw [← Decimal.value_eq_zero_iff, same, Decimal.value_eq_zero_iff]
  by_cases firstZero : first.digits = 0
  · simp only [ofDecimal?, firstZero, zero.mp firstZero, true_or, if_true]
  · have top := Decimal.top_eq_of_value_eq same firstZero
    have nearest : format.nearest first.fraction.1 first.fraction.2 =
        format.nearest second.fraction.1 second.fraction.2 :=
      nearest_eq_of_mul_eq first.fraction_den_pos second.fraction_den_pos
        (Decimal.fraction_mul_eq_of_value_eq same)
    simp only [ofDecimal?, zero, top, nearest]

/-! ## The values of a format -/

theorem leadingBit_pos (format : BinaryFormat) : 0 < format.leadingBit :=
  Nat.pow_pos (by decide)

/-- The exponent field of a finite magnitude is not all ones. -/
theorem div_leadingBit_lt
    (format : BinaryFormat)
    {magnitude : Nat}
    (finite : magnitude < format.limit) :
    magnitude / format.leadingBit < Nat.pow 2 format.exponentBits - 1 :=
  (Nat.div_lt_iff_lt_mul format.leadingBit_pos).mpr finite

theorem denominator_pos (format : BinaryFormat) : 0 < format.denominator :=
  Nat.pow_pos (by decide)

/-- Below the first leading bit a magnitude is its own number of units. -/
theorem units_of_lt
    {magnitude : Nat}
    (below : magnitude < format.leadingBit) :
    format.units magnitude = magnitude := by
  have noExponent : magnitude / format.leadingBit = 0 := Nat.div_eq_of_lt below
  simp [units, significand, noExponent]

theorem units_of_le
    {magnitude : Nat}
    (above : format.leadingBit ≤ magnitude) :
    format.units magnitude =
      (format.leadingBit + magnitude % format.leadingBit) *
        2 ^ (magnitude / format.leadingBit - 1) := by
  have exponent : magnitude / format.leadingBit ≠ 0 :=
    (Nat.div_pos above format.leadingBit_pos).ne'
  simp [units, significand, exponent]

/-- From the first leading bit on the exponent field tells the place of the
leading bit. -/
theorem log2_units
    {magnitude : Nat}
    (above : format.leadingBit ≤ magnitude) :
    Nat.log2 (format.units magnitude) =
      format.fractionBits + (magnitude / format.leadingBit - 1) := by
  have fraction : magnitude % format.leadingBit < format.leadingBit :=
    Nat.mod_lt _ format.leadingBit_pos
  have power : 0 < 2 ^ (magnitude / format.leadingBit - 1) :=
    Nat.pow_pos (by decide)
  have leadingBit : 2 ^ format.fractionBits = format.leadingBit := rfl
  have notZero : format.units magnitude ≠ 0 := by
    rw [units_of_le above]
    exact (Nat.mul_pos (Nat.add_pos_left format.leadingBit_pos _) power).ne'
  rw [Nat.log2_eq_iff notZero, units_of_le above, Nat.pow_succ, Nat.pow_add,
    leadingBit]
  constructor
  · exact Nat.mul_le_mul_right _ (Nat.le_add_right _ _)
  · rw [Nat.mul_right_comm]
    exact Nat.mul_lt_mul_of_pos_right (by omega) power

/-- The number of a magnitude, as a multiple of the least positive one, is
rounded to it. -/
theorem nearest_units
    (magnitude : Nat) :
    format.nearest (format.units magnitude) format.denominator = magnitude := by
  have scaled : format.units magnitude *
      format.denominator / format.denominator =
      format.units magnitude := Nat.mul_div_cancel _ format.denominator_pos
  rw [nearest, scaled]
  by_cases above : format.leadingBit ≤ magnitude
  · have exponent : 0 < magnitude / format.leadingBit :=
      Nat.div_pos above format.leadingBit_pos
    have rearranged : format.units magnitude * format.denominator =
        (format.leadingBit + magnitude % format.leadingBit) *
          (format.denominator * 2 ^ (magnitude / format.leadingBit - 1)) := by
      rw [units_of_le above, Nat.mul_assoc, Nat.mul_comm (2 ^ _)]
    have positive : 0 < format.denominator * 2 ^
        (magnitude / format.leadingBit - 1) :=
      Nat.mul_pos format.denominator_pos (Nat.pow_pos (by decide))
    rw [log2_units above, Nat.add_sub_cancel_left, rearranged]
    have parts := Nat.div_add_mod' magnitude format.leadingBit
    calc (magnitude / format.leadingBit - 1) * format.leadingBit +
          roundHalfEven _
            (format.denominator * 2 ^ (magnitude / format.leadingBit - 1))
        = (magnitude / format.leadingBit - 1) * format.leadingBit +
            (format.leadingBit + magnitude % format.leadingBit) := by
          rw [roundHalfEven_mul_self positive]
      _ = (magnitude / format.leadingBit - 1 + 1) * format.leadingBit +
            magnitude % format.leadingBit := by ring
      _ = magnitude := by rw [Nat.sub_add_cancel exponent, parts]
  · have below : magnitude < format.leadingBit := Nat.lt_of_not_le above
    have shift : Nat.log2 magnitude - format.fractionBits = 0 := by
      by_cases zero : magnitude = 0
      · simp [zero]
      · have := (Nat.log2_lt zero).mpr below
        omega
    rw [units_of_lt below, shift]
    simp [roundHalfEven_mul_self format.denominator_pos]

theorem units_pos
    {magnitude : Nat}
    (positive : 0 < magnitude) : 0 < format.units magnitude := by
  by_cases above : format.leadingBit ≤ magnitude
  · rw [units_of_le above]
    exact Nat.mul_pos (Nat.add_pos_left format.leadingBit_pos _)
      (Nat.pow_pos (by decide))
  · rwa [units_of_lt (Nat.lt_of_not_le above)]

/-- No finite magnitude has more units than the square of the denominator, four
times. -/
theorem units_lt
    {magnitude : Nat}
    (finite : magnitude < format.limit) :
    format.units magnitude < 2 ^ (2 * format.scale + 2) := by
  have scale : format.scale = 2 ^ (format.exponentBits - 1) - 2 +
      format.fractionBits := rfl
  by_cases above : format.leadingBit ≤ magnitude
  · have exponent : magnitude / format.leadingBit <
        2 ^ format.exponentBits - 1 :=
      format.div_leadingBit_lt finite
    have doubled : 2 ^ format.exponentBits ≤
        2 * 2 ^ (format.exponentBits - 1) := by
      rw [← Nat.pow_succ']
      exact Nat.pow_le_pow_right (by decide) (by omega)
    have notZero : 0 < format.units magnitude :=
      units_pos (format.leadingBit_pos.trans_le above)
    refine (Nat.log2_lt notZero.ne').mp ?_
    rw [log2_units above]
    omega
  · have below : magnitude < 2 ^ format.fractionBits := Nat.lt_of_not_le above
    rw [units_of_lt (Nat.lt_of_not_le above)]
    exact below.trans_le (Nat.pow_le_pow_right (by decide) (by omega))

/-! ## Decimal fractions of values -/

theorem cast_denominator
    (format : BinaryFormat) :
    (format.denominator : ℚ) = 2 ^ format.scale := by
  simp [denominator]

theorem value_exactDecimal
    (magnitude : Nat) :
    (format.exactDecimal magnitude).value =
      format.units magnitude / format.denominator := by
  have ten : (10 : ℚ) ^ format.scale = 2 ^ format.scale * 5 ^ format.scale := by
    rw [← mul_pow]
    norm_num
  rw [exactDecimal, Decimal.value, zpow_neg, zpow_natCast, ten,
    cast_denominator, Nat.pow_eq]
  push_cast
  field_simp

theorem digits_exactDecimal_ne_zero
    {magnitude : Nat}
    (positive : 0 < magnitude) : (format.exactDecimal magnitude).digits ≠ 0 :=
  (Nat.mul_pos (units_pos positive) (Nat.pow_pos (by decide))).ne'

/-- Two to some power is at most ten to that power. -/
theorem two_pow_le_ten_pow
    (exponent : Nat) :
    (2 : ℚ) ^ exponent ≤ 10 ^ exponent :=
  pow_le_pow_left₀ (by norm_num) (by norm_num) exponent

/-- A value is no smaller than the power of ten that bounds what is looked at
for rounding. -/
theorem pow_le_value_exactDecimal
    {magnitude : Nat}
    (positive : 0 < magnitude) :
    (10 : ℚ) ^ (-format.scale : ℤ) ≤ (format.exactDecimal magnitude).value := by
  have least : (1 : ℚ) ≤ format.units magnitude := by
    exact_mod_cast units_pos positive
  rw [value_exactDecimal, cast_denominator, zpow_neg, zpow_natCast, ← one_div]
  exact div_le_div₀ (by positivity) least (by positivity) (two_pow_le_ten_pow _)

/-- A finite value is below the power of ten that bounds what is looked at for
rounding. -/
theorem value_exactDecimal_lt
    {magnitude : Nat}
    (finite : magnitude < format.limit) :
    (format.exactDecimal magnitude).value < 10 ^ (format.scale + 2 : ℤ) := by
  have greatest : (format.units magnitude : ℚ) <
      2 ^ (2 * format.scale + 2) := by
    exact_mod_cast units_lt finite
  have split : (2 : ℚ) ^ (2 * format.scale + 2) =
      2 ^ (format.scale + 2) * 2 ^ format.scale := by
    ring
  have exponent : (format.scale + 2 : ℤ) = (format.scale + 2 : Nat) := by simp
  rw [value_exactDecimal, cast_denominator, exponent, zpow_natCast,
    div_lt_iff₀ (by positivity)]
  calc (format.units magnitude : ℚ)
      < 2 ^ (format.scale + 2) * 2 ^ format.scale := split ▸ greatest
    _ ≤ 10 ^ (format.scale + 2) * 2 ^ format.scale :=
        mul_le_mul_of_nonneg_right (two_pow_le_ten_pow _) (by positivity)

/-- The decimal fraction of a value, in full, is rounded to that value. -/
theorem nearest_fraction_exactDecimal
    (magnitude : Nat) :
    format.nearest (format.exactDecimal magnitude).fraction.1
      (format.exactDecimal magnitude).fraction.2 = magnitude := by
  have crosswise : (format.exactDecimal magnitude).fraction.1 *
      format.denominator =
      format.units magnitude * (format.exactDecimal magnitude).fraction.2 := by
    have notZero : (format.denominator : ℚ) ≠ 0 := by
      exact_mod_cast format.denominator_pos.ne'
    have number := Decimal.value_mul_den (format.exactDecimal magnitude)
    rw [value_exactDecimal, div_mul_eq_mul_div, div_eq_iff notZero] at number
    exact_mod_cast number.symm
  rw [nearest_eq_of_mul_eq (Decimal.fraction_den_pos _)
    format.denominator_pos crosswise,
    nearest_units]

theorem ofDecimal?_exactDecimal
    {magnitude : Nat}
    (positive : 0 < magnitude)
    (finite : magnitude < format.limit) :
    format.ofDecimal? (format.exactDecimal magnitude) = some magnitude := by
  have notZero : (format.exactDecimal magnitude).digits ≠ 0 :=
    digits_exactDecimal_ne_zero positive
  have above : (-format.scale : ℤ) < (format.exactDecimal magnitude).top :=
    Decimal.lt_of_pow_le_of_lt (pow_le_value_exactDecimal positive)
      (Decimal.value_lt _)
  have below : (format.exactDecimal magnitude).top - 1 < format.scale + 2 :=
    Decimal.lt_of_pow_le_of_lt (Decimal.pow_le_value notZero)
      (value_exactDecimal_lt finite)
  have inRange : ¬ ((format.exactDecimal magnitude).digits = 0 ∨
      (format.exactDecimal magnitude).top < -(format.scale + 2 : ℤ)) := by
    omega
  have notTooLarge : ¬ (format.scale + 2 : ℤ) <
      (format.exactDecimal magnitude).top := by
    omega
  simp only [ofDecimal?, if_neg inRange, if_neg notTooLarge,
    nearest_fraction_exactDecimal, if_pos finite]

/-- The fewest digits of a value are rounded to that value: either the search
for them found some, or they are all that the value has. -/
theorem ofDecimal?_shortest
    {magnitude : Nat}
    (finite : magnitude < format.limit) :
    format.ofDecimal? (format.shortest magnitude) = some magnitude := by
  rw [shortest]
  split
  case isTrue zero => simp [ofDecimal?, zero]
  case isFalse notZero =>
    rw [ofDecimal?_eq_of_value_eq (Decimal.value_normalize _)]
    cases found : List.find? _ _ with
    | some d => simpa using List.find?_some found
    | none => exact ofDecimal?_exactDecimal (Nat.pos_of_ne_zero notZero) finite

/-- What a number is rounded to is finite. -/
theorem lt_limit_of_ofDecimal?_eq_some
    (positive : 0 < format.limit)
    {d : Decimal}
    {magnitude : Nat}
    (rounded : format.ofDecimal? d = some magnitude) :
    magnitude < format.limit := by
  unfold ofDecimal? at rounded
  dsimp only at rounded
  split at rounded
  case isTrue =>
    cases rounded
    exact positive
  case isFalse =>
    split at rounded
    case isTrue => cases rounded
    case isFalse =>
      split at rounded
      case isTrue finite =>
        cases rounded
        exact finite
      case isFalse => cases rounded

end BinaryFormat

namespace BinaryFloat

variable {format : BinaryFormat}

/-! ## Texts of values -/

/-- A number with a sign is read as the value that it is rounded to, where that
is finite. -/
theorem read?_signed_eq_some_iff
    (positive : 0 < format.limit)
    {negative : Bool}
    {text : List Char}
    (unsigned : readSign text = (false, text))
    {d : Decimal}
    (number : Decimal.read? text = some d)
    {x : BinaryFloat format} :
    read? format (signed negative text) = some x ↔
      format.ofDecimal? d = some x.magnitude ∧ x.negative = negative := by
  unfold read?
  rw [readSign_signed unsigned]
  simp only [number, Option.bind_eq_bind, Option.bind_some]
  cases rounded : format.ofDecimal? d with
  | none => simp
  | some magnitude =>
      have finite :=
        BinaryFormat.lt_limit_of_ofDecimal?_eq_some positive rounded
      obtain ⟨otherNegative, otherMagnitude, otherFinite⟩ := x
      simp [finite, and_comm, eq_comm]

/-- A text that denotes the number written for a value is read as that value. -/
theorem read?_signed_of_writtenAs
    {x : BinaryFloat format}
    {text : List Char}
    (written : Decimal.WrittenAs (format.shortest x.magnitude).value text) :
    read? format (signed x.negative text) = some x := by
  obtain ⟨d, read, value⟩ := written.exists_read?_eq
  have rounded : format.ofDecimal? d = some x.magnitude :=
    (BinaryFormat.ofDecimal?_eq_of_value_eq value).trans
      (BinaryFormat.ofDecimal?_shortest x.magnitude_lt)
  simp [read?, readSign_signed written.readSign_eq, read, rounded,
    x.magnitude_lt]

end BinaryFloat
end Number
end PreferenceSchema
