import Mathlib.Data.List.Induction
import Mathlib.Data.Nat.Digits.Defs
import Mathlib.Data.Set.List
import PreferenceSchema.Proofs.DefaultLiterals

/-!
# Whole numbers as defaults

Which texts are read as whole numbers, and as which: digits of the base ten with
at most one sign in front of them, without blanks inside and, for long values,
with at most one letter behind them.  The number that the digits denote has to
be one of the type, so none is cut off or wraps.
-/

namespace PreferenceSchema
namespace Number

/-! ## Numerals -/

/-- Digits of the base ten, the most significant one first, denote a number.
There is at least one digit, and zeros may be in front. -/
def IsNumeral
    (text : List Char)
    (number : Nat) : Prop :=
  ∃ digits : List (Fin 10), digits ≠ [] ∧
    text = digits.map (fun digit => digit.val.digitChar) ∧
    number = Nat.ofDigits 10 (digits.map Fin.val).reverse

/-- A numeral with at most one sign in front of it denotes a whole number. -/
inductive IsWhole : List Char → Int → Prop
  | unsigned {text : List Char} {number : Nat} :
      IsNumeral text number →
      IsWhole text number
  | positive {text : List Char} {number : Nat} :
      IsNumeral text number →
      IsWhole ('+' :: text) number
  | negative {text : List Char} {number : Nat} :
      IsNumeral text number →
      IsWhole ('-' :: text) (-number)

/-- Digits are the characters of the numbers below ten. -/
theorem isDigit_iff_exists_digitChar
    {c : Char} :
    c.isDigit = true ↔ ∃ digit : Fin 10, digit.val.digitChar = c := by
  constructor
  · intro isDigit
    have range := toNat_of_isDigit isDigit
    have each : ∀ digit : Fin 10, digit.val.digitChar =
        Char.ofNat (0x30 + digit.val) := by
      decide
    refine ⟨⟨c.toNat - 0x30, by omega⟩, ?_⟩
    rw [each, Nat.add_sub_cancel' range.1, Char.ofNat_toNat]
  · rintro ⟨digit, rfl⟩
    revert digit
    decide

/-- Digits have the value that they have in base ten, counted from the last
one. -/
theorem digitsValue_map_digitChar
    (digits : List (Fin 10)) :
    digitsValue (digits.map fun digit => digit.val.digitChar) =
      Nat.ofDigits 10 (digits.map Fin.val).reverse := by
  induction digits using List.reverseRecOn with
  | nil => rfl
  | append_singleton digits last inductionHypothesis =>
      have single : digitsValue [last.val.digitChar] = last := by
        revert last
        decide
      rw [List.map_append, List.map_singleton, digitsValue_append,
        inductionHypothesis, single, List.map_append, List.map_singleton,
        List.reverse_append, List.reverse_singleton, List.singleton_append,
        Nat.ofDigits_cons]
      simp [add_comm]

/-- Numerals are the rows of digits. -/
theorem isNumeral_iff
    {text : List Char}
    {number : Nat} :
    IsNumeral text number ↔
      (∀ c ∈ text, c.isDigit = true) ∧ text ≠ [] ∧
        digitsValue text = number := by
  have spelled : (∀ c ∈ text, c.isDigit = true) ↔
      ∃ digits : List (Fin 10), digits.map (fun digit => digit.val.digitChar) =
        text := by
    simp only [isDigit_iff_exists_digitChar]
    exact (Set.ext_iff.mp (Set.range_list_map _) text).symm
  rw [spelled]
  constructor
  · rintro ⟨digits, some, rfl, rfl⟩
    exact ⟨⟨digits, rfl⟩, by simpa using some, digitsValue_map_digitChar digits⟩
  · rintro ⟨⟨digits, rfl⟩, some, rfl⟩
    exact ⟨digits, by simpa using some, rfl, digitsValue_map_digitChar digits⟩

/-! ## Signs -/

theorem IsNumeral.readSign_eq
    {text : List Char}
    {number : Nat}
    (numeral : IsNumeral text number) : readSign text = (false, text) := by
  obtain ⟨isDigits, some, -⟩ := isNumeral_iff.mp numeral
  simpa using readSign_append isDigits some []

/-- What is left of a whole number behind its sign is a numeral. -/
theorem isWhole_iff
    {text : List Char}
    {n : Int} :
    IsWhole text n ↔
      ∃ number, IsNumeral (readSign text).2 number ∧
        n = signedValue (readSign text).1 number := by
  constructor
  · intro whole
    cases whole with
    | unsigned numeral =>
        rw [numeral.readSign_eq]
        exact ⟨_, numeral, rfl⟩
    | positive numeral => exact ⟨_, numeral, rfl⟩
    | negative numeral => exact ⟨_, numeral, rfl⟩
  · rintro ⟨number, numeral, rfl⟩
    unfold readSign at numeral ⊢
    split at numeral
    case h_1 => exact .positive numeral
    case h_2 => exact .negative numeral
    case h_3 => exact .unsigned numeral

/-- A text is read as the whole number that it denotes. -/
theorem readInteger?_eq_some_iff
    {text : List Char}
    {n : Int} : readInteger? text = some n ↔ IsWhole text n := by
  rw [isWhole_iff, readInteger?]
  simp only [isNumeral_iff]
  generalize readSign text = parts
  obtain ⟨negative, digits⟩ := parts
  split
  case isTrue refused =>
    simp only [reduceCtorEq, false_iff]
    rintro ⟨number, ⟨isDigits, some, -⟩, -⟩
    have all := List.all_eq_true.mpr isDigits
    simp [some, all] at refused
  case isFalse taken =>
    obtain ⟨some, isDigits⟩ : digits ≠ [] ∧ ∀ c ∈ digits, c.isDigit = true := by
      simpa using taken
    rw [Option.some_inj]
    constructor
    · rintro rfl
      exact ⟨_, ⟨isDigits, some, rfl⟩, rfl⟩
    · rintro ⟨number, ⟨-, -, rfl⟩, rfl⟩
      rfl

/-- A whole number is read if it has a place among those of some bits with a
sign. -/
theorem readBounded?_eq_some_iff
    {bits : Nat}
    {text : List Char}
    {n : Int} :
    readBounded? bits text = some n ↔
      IsWhole text n ∧ -2 ^ (bits - 1) ≤ n ∧ n < 2 ^ (bits - 1) := by
  rw [readBounded?, Option.filter_eq_some_iff, readInteger?_eq_some_iff]
  simp [signedBound]

/-- Nothing is read within bounds exactly if the text is no whole number within
them. -/
theorem readBounded?_eq_none_iff
    {bits : Nat}
    {text : List Char} :
    readBounded? bits text = none ↔
      ∀ n, IsWhole text n → ¬(-2 ^ (bits - 1) ≤ n ∧ n < 2 ^ (bits - 1)) := by
  simp only [Option.eq_none_iff_forall_ne_some, ne_eq, readBounded?_eq_some_iff,
    not_and]

/-! ## Letters behind numbers -/

/-- A whole number with at most one of some marks behind it. -/
def IsMarkedWhole
    (marks text : List Char)
    (n : Int) : Prop :=
  ∃ whole, IsWhole whole n ∧
    (text = whole ∨ ∃ mark ∈ marks, text = whole ++ [mark])

theorem IsNumeral.isDigit_of_mem
    {text : List Char}
    {number : Nat}
    (numeral : IsNumeral text number)
    {c : Char}
    (present : c ∈ text) : c.isDigit = true :=
  (isNumeral_iff.mp numeral).1 c present

theorem IsWhole.isDigit_or_mem
    {text : List Char}
    {n : Int}
    (whole : IsWhole text n)
    {c : Char}
    (present : c ∈ text) : c.isDigit = true ∨ c ∈ ['+', '-'] := by
  cases whole with
  | unsigned numeral => exact .inl (numeral.isDigit_of_mem present)
  | positive numeral =>
      rcases List.mem_cons.mp present with rfl | behind
      · exact .inr (by simp)
      · exact .inl (numeral.isDigit_of_mem behind)
  | negative numeral =>
      rcases List.mem_cons.mp present with rfl | behind
      · exact .inr (by simp)
      · exact .inl (numeral.isDigit_of_mem behind)

/-- A mark behind a number is dropped, if it is neither a digit nor a sign. -/
theorem isWhole_dropEnding_iff
    {marks text : List Char}
    {n : Int}
    (apart : ∀ mark ∈ marks, mark.isDigit = false ∧ mark ∉ ['+', '-']) :
    IsWhole (Text.dropEnding marks text) n ↔ IsMarkedWhole marks text n := by
  constructor
  · intro whole
    refine ⟨_, whole, ?_⟩
    unfold Text.dropEnding
    split
    case h_1 c last =>
      split
      case isTrue isMark =>
        obtain ⟨front, rfl⟩ := List.getLast?_eq_some_iff.mp last
        exact .inr ⟨c, isMark, by simp⟩
      case isFalse => exact .inl rfl
    case h_2 => exact .inl rfl
  · rintro ⟨front, whole, rfl | ⟨mark, isMark, rfl⟩⟩
    · rwa [Text.dropEnding_of_forall]
      intro c present isMark
      obtain ⟨noDigit, noSign⟩ := apart c isMark
      rcases whole.isDigit_or_mem present with digit | sign
      · rw [noDigit] at digit
        cases digit
      · exact noSign sign
    · rwa [Text.dropEnding_append_singleton isMark]

end Number

namespace DefaultValue

open Number

/-! ## Values -/

/-- What a bounded number is as a value of its width is that number. -/
theorem exists_toInt_eq_iff
    {α : Type}
    {bits : Nat}
    {text : List Char}
    {n : Int}
    {toInt : α → Int}
    {ofInt : Int → α}
    {wrap : α → DefaultValue}
    (injective : Function.Injective wrap)
    (toInt_ofInt : ∀ {m : Int}, -2 ^ (bits - 1) ≤ m → m < 2 ^ (bits - 1) →
      toInt (ofInt m) = m) :
    (∃ value, toInt value = n ∧
        (readBounded? bits text).map (fun m => wrap (ofInt m)) =
          some (wrap value)) ↔
      IsWhole text n ∧ -2 ^ (bits - 1) ≤ n ∧ n < 2 ^ (bits - 1) := by
  rw [← readBounded?_eq_some_iff]
  simp only [Option.map_eq_some_iff]
  constructor
  · rintro ⟨value, rfl, m, read, equal⟩
    obtain ⟨-, above, below⟩ := readBounded?_eq_some_iff.mp read
    rw [← injective equal, toInt_ofInt above below, read]
  · intro read
    obtain ⟨-, above, below⟩ := readBounded?_eq_some_iff.mp read
    exact ⟨ofInt n, toInt_ofInt above below, n, read, rfl⟩

/-- Without the blanks around it, a text is read as an integer exactly when it
denotes a whole number of 32 bits, and as a long value exactly when it denotes
one of 64 bits, possibly with one letter behind it.  The value is then that
number, and no other text is read as one. -/
theorem whole_defaults_exact
    (raw : String) :
    (∀ n : Int,
        (∃ value : Int32, value.toInt = n ∧
          read? .integer raw = some (.integer value)) ↔
          IsWhole (Text.trim raw.toList) n ∧ -2 ^ 31 ≤ n ∧ n < 2 ^ 31) ∧
      (∀ n : Int,
        (∃ value : Int64, value.toInt = n ∧
          read? .long raw = some (.long value)) ↔
          IsMarkedWhole ['L', 'l'] (Text.trim raw.toList) n ∧ -2 ^ 63 ≤ n ∧
          n < 2 ^ 63) ∧
      (read? .integer raw = none ↔
        ∀ n, IsWhole (Text.trim raw.toList) n → ¬(-2 ^ 31 ≤ n ∧ n < 2 ^ 31)) ∧
      (read? .long raw = none ↔
        ∀ n, IsMarkedWhole ['L', 'l'] (Text.trim raw.toList) n →
          ¬(-2 ^ 63 ≤ n ∧ n < 2 ^ 63)) := by
  have marked (n : Int) :
      IsWhole (Text.dropEnding ['L', 'l'] (Text.trim raw.toList)) n ↔
        IsMarkedWhole ['L', 'l'] (Text.trim raw.toList) n :=
    isWhole_dropEnding_iff (by simp)
  simp only [← marked, read?]
  refine ⟨fun n => ?_, fun n => ?_, ?_, ?_⟩
  · exact exists_toInt_eq_iff (fun _ _ => integer.inj) Int32.toInt_ofInt_of_le
  · exact exists_toInt_eq_iff (fun _ _ => long.inj) Int64.toInt_ofInt_of_le
  · rw [Option.map_eq_none_iff, readBounded?_eq_none_iff]
  · rw [Option.map_eq_none_iff, readBounded?_eq_none_iff]

example :
    read? .integer "+007" = some (.integer 7) ∧
      read? .integer "2147483648" = none ∧
      read? .long "\u00A0-9223372036854775808L\n" =
        some (.long Int64.minValue) ∧
      read? .long "1LL" = none ∧ read? .long "1 L" = none ∧
      read? .long "-L" = none := by
  decide +kernel

end DefaultValue
end PreferenceSchema
