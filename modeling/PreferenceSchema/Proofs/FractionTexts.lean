import PreferenceSchema.Proofs.Decimals

/-!
# Texts of fractions

The digits of a number with a fraction, an exponent or both.  They are read as a
decimal fraction, whatever their sign, and never as a whole number.
-/

namespace PreferenceSchema
namespace Number

/-- A row of digits, which may be empty. -/
abbrev IsDigits (text : List Char) : Prop :=
  ∀ c ∈ text, c.isDigit = true

/-- Nothing, or a point with the digits behind it. -/
inductive IsPlaces : List Char → Prop
  | nothing : IsPlaces []
  | point {digits : List Char} : IsDigits digits → IsPlaces ('.' :: digits)

/-- Nothing, or a mark with the exponent behind it. -/
inductive IsPower : List Char → Prop
  | nothing : IsPower []
  | mark {negative : Bool} {digits : List Char} :
      IsDigits digits →
      digits ≠ [] →
      IsPower ('e' :: signed negative digits)

/-- Digits with a point, an exponent or both behind the first of them. -/
def IsFractionText (text : List Char) : Prop :=
  ∃ whole places power, IsDigits whole ∧ IsPlaces places ∧ IsPower power ∧
    whole ≠ [] ∧
    places ++ power ≠ [] ∧ text = whole ++ (places ++ power)

/-- What does not begin with a digit ends the digits in front of it. -/
theorem takeWhile_isDigit_append_of_head?
    {digits : List Char}
    (isDigits : IsDigits digits)
    {rest : List Char}
    (noDigit : ∀ c ∈ rest.head?, c.isDigit = false) :
    (digits ++ rest).takeWhile Char.isDigit = digits ∧
      (digits ++ rest).dropWhile Char.isDigit = rest := by
  rw [List.takeWhile_append_of_pos isDigits,
    List.dropWhile_append_of_pos isDigits]
  cases rest with
  | nil => simp
  | cons c others =>
      have notDigit : ¬c.isDigit = true := by simpa using noDigit c rfl
      rw [List.takeWhile_cons_of_neg notDigit,
        List.dropWhile_cons_of_neg notDigit]
      simp

theorem IsPower.exists_readExponent?_eq
    {power : List Char}
    (isPower : IsPower power) :
    ∃ exponent, Decimal.readExponent? power = some exponent := by
  cases isPower with
  | nothing => exact ⟨0, rfl⟩
  | @mark negative digits isDigits some => exact ⟨_,
    readInteger?_signed isDigits some negative⟩

theorem IsPower.head?_not_isDigit
    {power : List Char}
    (isPower : IsPower power) : ∀ c ∈ power.head?, c.isDigit = false := by
  cases isPower with
  | nothing => nofun
  | mark => simp

theorem IsPlaces.head?_append_not_isDigit
    {places power : List Char}
    (isPlaces : IsPlaces places)
    (isPower : IsPower power) :
    ∀ c ∈ (places ++ power).head?, c.isDigit = false := by
  cases isPlaces with
  | nothing => exact isPower.head?_not_isDigit
  | point => simp

namespace IsFractionText

variable {text : List Char}

/-- A fraction has no sign of its own. -/
theorem readSign_eq
    (fraction : IsFractionText text) :
    readSign text = (false, text) := by
  obtain ⟨whole, places, power, isWhole, -, -, some, -, rfl⟩ := fraction
  exact readSign_append isWhole some _

/-- A fraction is no whole number. -/
theorem readInteger?_signed_eq_none
    (fraction : IsFractionText text)
    (negative : Bool) : readInteger? (signed negative text) = none := by
  rw [readInteger?, readSign_signed fraction.readSign_eq]
  obtain ⟨whole, places, power, isWhole, isPlaces, isPower, some, more, rfl⟩ :=
    fraction
  obtain ⟨c, rest, behind⟩ := List.exists_cons_of_ne_nil more
  have notDigit : c.isDigit = false := by
    apply isPlaces.head?_append_not_isDigit isPower
    rw [behind]
    rfl
  have notAll : (whole ++ (places ++ power)).all Char.isDigit = false := by
    rw [behind, List.all_append, List.all_cons, notDigit, Bool.false_and,
      Bool.and_false]
  simp only [notAll, Bool.not_false, Bool.or_true, if_true]

/-- The text of a fraction is read as a number. -/
theorem exists_read?_eq
    (fraction : IsFractionText text) : ∃ d, Decimal.read? text = some d := by
  obtain ⟨whole, places, power, isWhole, isPlaces, isPower, some, -, rfl⟩ :=
    fraction
  obtain ⟨exponent, read⟩ := isPower.exists_readExponent?_eq
  obtain ⟨taken, dropped⟩ := takeWhile_isDigit_append_of_head? isWhole
    (isPlaces.head?_append_not_isDigit isPower)
  unfold Decimal.read?
  rw [taken, dropped]
  cases isPlaces with
  | nothing =>
      cases isPower with
      | nothing => simp [some, Decimal.readExponent?]
      | mark => simp [some, read]
  | point isDigits =>
      obtain ⟨placesTaken, placesDropped⟩ :=
        takeWhile_isDigit_append_of_head? isDigits isPower.head?_not_isDigit
      simp [some, placesTaken, placesDropped, read]

/-- What a fraction consists of. -/
theorem isDigit_or_mem
    (fraction : IsFractionText text)
    {c : Char}
    (present : c ∈ text) : c.isDigit = true ∨ c ∈ ['.', '-', 'e'] := by
  obtain ⟨whole, places, power, isWhole, isPlaces, isPower, -, -, rfl⟩ :=
    fraction
  have ofPlaces : ∀ c ∈ places, c.isDigit = true ∨ c ∈ ['.', '-', 'e'] := by
    cases isPlaces with
    | nothing => nofun
    | point isDigits =>
        exact List.forall_mem_cons.mpr
          ⟨by simp, fun c inDigits => .inl (isDigits c inDigits)⟩
  have ofPower : ∀ c ∈ power, c.isDigit = true ∨ c ∈ ['.', '-', 'e'] := by
    cases isPower with
    | nothing => nofun
    | @mark negative digits isDigits =>
        have ofDigits : ∀ c ∈ digits, c.isDigit = true ∨ c ∈ ['.', '-', 'e'] :=
          fun c inDigits => .inl (isDigits c inDigits)
        refine List.forall_mem_cons.mpr ⟨by simp, ?_⟩
        cases negative with
        | false => exact ofDigits
        | true => exact List.forall_mem_cons.mpr ⟨by simp, ofDigits⟩
  rcases List.mem_append.mp present with inWhole | behind
  · exact .inl (isWhole c inWhole)
  · exact (List.mem_append.mp behind).elim (ofPlaces c) (ofPower c)

end IsFractionText
end Number
end PreferenceSchema
