import Mathlib.Data.Nat.Digits.Defs
import PreferenceSchema.Number.Numeral

/-!
# Decimal numerals

Reading a whole number gives back what was written, so a whole number has only
one written form.  The value of digits behind others, and the number of digits
of a number, are what decimal fractions are built from.
-/

namespace PreferenceSchema
namespace Number

/-! ## Values of digits -/

theorem digitsValue_eq_ofDigitChars
    (digits : List Char) :
    digitsValue digits = Nat.ofDigitChars 10 digits 0 :=
  Nat.ofDigitChars_eq_foldl.symm

@[simp] theorem digitsValue_naturalDigits
    (n : Nat) :
    digitsValue (naturalDigits n) = n := by
  rw [digitsValue_eq_ofDigitChars, naturalDigits, Nat.ofDigitChars_ten_toDigits]

/-- Digits behind others move these to the left. -/
theorem digitsValue_append
    (first second : List Char) :
    digitsValue (first ++ second) =
      10 ^ second.length * digitsValue first + digitsValue second := by
  simp only [digitsValue_eq_ofDigitChars]
  rw [Nat.ofDigitChars_append, Nat.ofDigitChars_eq_ofDigitChars_zero]

@[simp] theorem digitsValue_zeros
    (count : Nat) :
    digitsValue (List.replicate count '0') = 0 := by
  rw [digitsValue_eq_ofDigitChars, Nat.ofDigitChars_replicate_zero,
    Nat.mul_zero]

/-! ## Digits of numbers -/

theorem toNat_of_isDigit
    {c : Char}
    (digit : c.isDigit = true) : 0x30 ≤ c.toNat ∧ c.toNat ≤ 0x39 := by
  simpa [Char.isDigit, UInt32.le_iff_toNat_le] using digit

theorem isDigit_of_mem_naturalDigits
    {n : Nat}
    {c : Char}
    (present : c ∈ naturalDigits n) : c.isDigit = true :=
  Nat.isDigit_of_mem_toDigits (by decide) (by decide) present

theorem naturalDigits_ne_nil (n : Nat) : naturalDigits n ≠ [] :=
  Nat.toDigits_ne_nil

theorem length_naturalDigits_pos (n : Nat) : 0 < (naturalDigits n).length :=
  Nat.length_toDigits_pos

/-- A number lies below the power of ten that its digits reach up to. -/
theorem lt_pow_length_naturalDigits
    (n : Nat) :
    n < 10 ^ (naturalDigits n).length :=
  (Nat.length_toDigits_le_iff (by decide) (length_naturalDigits_pos n)).mp
    (le_refl _)

/-- A positive number has no digits that it does not need. -/
theorem pow_length_naturalDigits_le
    {n : Nat}
    (positive : 0 < n) : 10 ^ ((naturalDigits n).length - 1) ≤ n := by
  by_cases single : (naturalDigits n).length = 1
  · rw [single]
    exact positive
  · have atLeastOne := length_naturalDigits_pos n
    by_contra below
    have shorter : (naturalDigits n).length ≤ (naturalDigits n).length - 1 :=
      (Nat.length_toDigits_le_iff (by decide) (by omega)).mpr
        (Nat.lt_of_not_le below)
    omega

/-! ## Signs -/

/-- A text that begins with a digit has no sign. -/
theorem readSign_of_isDigit
    {c : Char}
    (digit : c.isDigit = true)
    (rest : List Char) : readSign (c :: rest) = (false, c :: rest) := by
  unfold readSign
  split
  case h_1 equal =>
    obtain ⟨rfl, rfl⟩ := List.cons.inj equal
    cases digit
  case h_2 equal =>
    obtain ⟨rfl, rfl⟩ := List.cons.inj equal
    cases digit
  case h_3 => rfl

/-- Digits have no sign. -/
theorem readSign_append
    {digits : List Char}
    (isDigits : ∀ c ∈ digits, c.isDigit = true)
    (some : digits ≠ [])
    (rest : List Char) :
    readSign (digits ++ rest) = (false, digits ++ rest) := by
  obtain ⟨first, others, rfl⟩ := List.exists_cons_of_ne_nil some
  exact readSign_of_isDigit (isDigits first List.mem_cons_self) (others ++ rest)

/-! ## Whole numbers -/

/-- The text of a natural number with or without a minus sign in front. -/
def signed
    (negative : Bool)
    (digits : List Char) : List Char :=
  if negative then '-' :: digits else digits

/-- A number with a sign. -/
def signedValue
    (negative : Bool)
    (n : Nat) : Int :=
  if negative then -n else n

theorem readSign_signed
    {digits : List Char}
    (unsigned : readSign digits = (false, digits))
    (negative : Bool) :
    readSign (signed negative digits) = (negative, digits) := by
  cases negative with
  | false => exact unsigned
  | true => rfl

/-- Digits behind a sign are read as the number with this sign. -/
theorem readInteger?_signed
    {digits : List Char}
    (isDigits : ∀ c ∈ digits, c.isDigit = true)
    (some : digits ≠ [])
    (negative : Bool) :
    readInteger? (signed negative digits) =
      .some (signedValue negative (digitsValue digits)) := by
  have unsigned : readSign digits = (false, digits) := by
    simpa using readSign_append isDigits some []
  have all : digits.all Char.isDigit = true := List.all_eq_true.mpr isDigits
  rw [readInteger?, readSign_signed unsigned]
  simp [all, some, signedValue]

theorem readInteger?_signed_naturalDigits
    (negative : Bool)
    (n : Nat) :
    readInteger? (signed negative (naturalDigits n)) =
      some (signedValue negative n) := by
  rw [readInteger?_signed (fun _ => isDigit_of_mem_naturalDigits)
    (naturalDigits_ne_nil n),
    digitsValue_naturalDigits]

/-- A whole number is written as its sign and the digits of its absolute
value. -/
theorem writeInteger_eq_signed
    (n : Int) :
    writeInteger n = signed (decide (n < 0)) (naturalDigits n.natAbs) := by
  simp [writeInteger, signed]

/-- A whole number is read as it was written. -/
theorem readInteger?_writeInteger
    (n : Int) :
    readInteger? (writeInteger n) = some n := by
  rw [writeInteger_eq_signed, readInteger?_signed_naturalDigits, signedValue,
    Option.some.injEq]
  simp only [decide_eq_true_eq]
  split <;> omega

end Number
end PreferenceSchema
