import PreferenceSchema.DefaultValue
import PreferenceSchema.Proofs.BinaryFloats
import PreferenceSchema.Proofs.QuotedText
import PreferenceSchema.Proofs.TextPieces

/-!
# Literals of default values

The literal of a number or of a truth value is an initializer that is read as
the value it was written for, also with blanks around it.  So a literal,
together with the type of its value, tells the value.
-/

namespace PreferenceSchema

open Number

namespace Text

theorem dropEnding_of_forall
    {marks text : List Char}
    (others : ∀ c ∈ text, c ∉ marks) : dropEnding marks text = text := by
  rw [dropEnding]
  split
  case h_1 c last => rw [if_neg (others c (List.mem_of_getLast? last))]
  case h_2 => rfl

theorem dropEnding_append_singleton
    {marks : List Char}
    {mark : Char}
    (isMark : mark ∈ marks)
    (text : List Char) : dropEnding marks (text ++ [mark]) = text := by
  simp [dropEnding, isMark]

end Text

/-! ## Characters of numbers -/

/-- What the text of a number without an exponent consists of. -/
def IsNumberText (text : List Char) : Prop :=
  ∀ c ∈ text, c.isDigit = true ∨ c = '.' ∨ c = '-'

namespace IsNumberText

variable {text : List Char}

theorem signed
    (number : IsNumberText text)
    (negative : Bool) : IsNumberText (Number.signed negative text) := by
  cases negative with
  | false => exact number
  | true => exact List.forall_mem_cons.mpr ⟨.inr (.inr rfl), number⟩

theorem naturalDigits (n : Nat) : IsNumberText (Number.naturalDigits n) :=
  fun _ present => .inl (isDigit_of_mem_naturalDigits present)

theorem writeInteger (n : Int) : IsNumberText (Number.writeInteger n) := by
  rw [writeInteger_eq_signed]
  exact (naturalDigits _).signed _

/-- A written decimal fraction is the text of a number. -/
theorem writtenAs
    {number : ℚ}
    (written : Decimal.WrittenAs number text) : IsNumberText text := by
  cases written with
  | whole isDigits => exact fun c present => .inl (isDigits c present)
  | point wholeDigits placesDigits =>
      refine List.forall_mem_append.mpr
        ⟨fun c present => .inl (wholeDigits c present), ?_⟩
      exact List.forall_mem_cons.mpr
        ⟨.inr (.inl rfl), fun c present => .inl (placesDigits c present)⟩

/-- The text of a number has no blanks. -/
theorem isBlank_eq_false
    (number : IsNumberText text)
    {c : Char}
    (present : c ∈ text) : Text.isBlank c = false := by
  rcases number c present with digit | rfl | rfl
  · have range := toNat_of_isDigit digit
    simp [Text.isBlank]
    omega
  · decide
  · decide

/-- No letter ends the text of a number. -/
theorem dropEnding_eq
    (number : IsNumberText text)
    {marks : List Char}
    (letters : ∀ c ∈ marks, 0x39 < c.toNat) :
    Text.dropEnding marks text = text := by
  refine Text.dropEnding_of_forall fun c present isMark => ?_
  have above := letters c isMark
  rcases number c present with digit | rfl | rfl
  · have range := toNat_of_isDigit digit
    omega
  · exact absurd above (by decide)
  · exact absurd above (by decide)

end IsNumberText

/-- There are singles. -/
theorem limit_single_pos : 0 < BinaryFormat.single.limit := by
  decide

namespace DefaultValue

/-! ## Fractions -/

/-- A sign is neither a point nor the mark of an exponent, so the fraction is
put behind it alike. -/
theorem withFraction_signed
    (negative : Bool)
    (text : List Char) :
    withFraction (signed negative text) =
      signed negative (withFraction text) := by
  cases negative with
  | false => rfl
  | true =>
      have sign : ['.', 'e', 'E'].contains '-' = false := by decide
      have marks : ('-' :: text).any ['.', 'e', 'E'].contains =
          text.any ['.', 'e', 'E'].contains := by
        rw [List.any_cons, sign, Bool.false_or]
      simp only [signed, withFraction, if_true, marks]
      split <;> rfl

/-- A point and a zero do not change what a text denotes. -/
theorem writtenAs_withFraction
    {number : ℚ}
    {text : List Char}
    (written : Decimal.WrittenAs number text) :
    Decimal.WrittenAs number (withFraction text) := by
  cases written with
  | whole isDigits some equal =>
      have noMark : ¬text.any ['.', 'e', 'E'].contains = true := by
        intro marked
        obtain ⟨c, present, isMark⟩ := List.any_eq_true.mp marked
        obtain rfl | rfl | rfl : c = '.' ∨ c = 'e' ∨ c = 'E' := by
          simpa using isMark
        all_goals exact absurd (isDigits _ present) (by decide)
      have zero : digitsValue ['0'] = 0 := digitsValue_zeros 1
      rw [withFraction, if_neg noMark]
      refine .point isDigits (by simp) some ?_
      rw [equal, digitsValue_append, zero]
      simp [Decimal.value, mul_comm]
  | point wholeDigits placesDigits some equal =>
      rw [withFraction, if_pos (by simp)]
      exact .point wholeDigits placesDigits some equal

/-- What is written for a value, with a fraction part, is a sign in front of a
text that denotes its magnitude. -/
theorem exists_withFraction_write_eq
    {format : BinaryFormat}
    (x : BinaryFloat format) :
    ∃ text, Decimal.WrittenAs (format.shortest x.magnitude).value text ∧
      withFraction x.write = signed x.negative text :=
  ⟨_, writtenAs_withFraction (Decimal.writtenAs_positional _),
    withFraction_signed _ _⟩

/-- What is written for a value, with a fraction part, is the text of a
number. -/
theorem isNumberText_withFraction_write
    {format : BinaryFormat}
    (x : BinaryFloat format) : IsNumberText (withFraction x.write) := by
  obtain ⟨text, written, equal⟩ := exists_withFraction_write_eq x
  rw [equal]
  exact (IsNumberText.writtenAs written).signed _

/-- A fraction part does not change which value is read. -/
theorem read?_withFraction_write
    {format : BinaryFormat}
    (x : BinaryFloat format) :
    BinaryFloat.read? format (withFraction x.write) = some x := by
  obtain ⟨text, written, equal⟩ := exists_withFraction_write_eq x
  rw [equal]
  exact BinaryFloat.read?_signed_of_writtenAs written

/-! ## Reading literals -/

/-- A whole number in range is read as it was written. -/
theorem readBounded?_writeInteger
    {bits : Nat}
    {n : Int}
    (above : -signedBound bits ≤ n)
    (below : n < signedBound bits) :
    readBounded? bits (writeInteger n) = some n := by
  rw [readBounded?, readInteger?_writeInteger]
  simp [above, below]

/-- A literal without blanks is not cut. -/
theorem trim_toList_literal
    {value : DefaultValue}
    (solid : ∀ c ∈ value.literalChars, Text.isBlank c = false) :
    Text.trim value.literal.toList = value.literalChars := by
  rw [literal, String.toList_ofList, Text.trim_eq_self_of_forall solid]

theorem read?_literal_integer
    (n : Int32) :
    read? .integer (integer n).literal = some (integer n) := by
  have number : IsNumberText (integer n).literalChars := .writeInteger n.toInt
  have read : readBounded? 32 (integer n).literalChars = some n.toInt :=
    readBounded?_writeInteger n.le_toInt n.toInt_lt
  simp only [read?, trim_toList_literal fun _ => number.isBlank_eq_false, read,
    Option.map_some, Int32.ofInt_toInt]

theorem read?_literal_long
    (n : Int64) :
    read? .long (long n).literal = some (long n) := by
  have number : IsNumberText (long n).literalChars := .writeInteger n.toInt
  have whole : Text.dropEnding ['L', 'l'] (long n).literalChars =
      (long n).literalChars :=
    number.dropEnding_eq (by simp)
  have read : readBounded? 64 (long n).literalChars = some n.toInt :=
    readBounded?_writeInteger n.le_toInt n.toInt_lt
  simp only [read?, trim_toList_literal fun _ => number.isBlank_eq_false, whole,
    read, Option.map_some, Int64.ofInt_toInt]

/-- The letter behind the literal of a single is dropped again, and the single
is read. -/
theorem read?_literal_float
    (x : BinaryFloat .single) :
    read? .float (float x).literal = some (float x) := by
  have number := isNumberText_withFraction_write x
  have solid : ∀ c ∈ (float x).literalChars, Text.isBlank c = false := by
    refine List.forall_mem_append.mpr ⟨fun _ => number.isBlank_eq_false, ?_⟩
    simp [Text.isBlank]
  have whole : Text.dropEnding ['F', 'f'] (float x).literalChars =
      withFraction x.write :=
    Text.dropEnding_append_singleton (by decide) _
  simp only [read?, trim_toList_literal solid, whole, read?_withFraction_write,
    Option.map_some]

/-- The literal of a double has no letter behind it, and is read as the
double. -/
theorem read?_literal_double
    (x : BinaryFloat .double) :
    read? .double (double x).literal = some (double x) := by
  have number : IsNumberText (double x).literalChars :=
    isNumberText_withFraction_write x
  have whole : Text.dropEnding ['D', 'd'] (double x).literalChars =
      (double x).literalChars :=
    number.dropEnding_eq (by simp)
  have read : BinaryFloat.read? .double (double x).literalChars = some x :=
    read?_withFraction_write x
  simp only [read?, trim_toList_literal fun _ => number.isBlank_eq_false, whole,
    read, Option.map_some]

/-- The literal of any value but a text is read as that value. -/
theorem read?_literal
    {value : DefaultValue}
    (notText : value.semanticType ≠ .string) :
    read? value.semanticType value.literal = some value := by
  cases value with
  | string text => exact absurd rfl notText
  | integer n => exact read?_literal_integer n
  | long n => exact read?_literal_long n
  | float x => exact read?_literal_float x
  | double x => exact read?_literal_double x
  | boolean b => cases b <;> rfl

/-- Blanks around the text of an initializer make no difference, unless it is
taken as it is. -/
theorem read?_append_append_of_blank
    {type : SemanticType}
    (notText : type ≠ .string)
    {before after : String}
    (blankBefore : ∀ c ∈ before.toList, Text.isBlank c = true)
    (blankAfter : ∀ c ∈ after.toList, Text.isBlank c = true)
    (raw : String) : read? type (before ++ raw ++ after) = read? type raw := by
  have trimmed : Text.trim (before ++ raw ++ after).toList =
      Text.trim raw.toList := by
    rw [String.toList_append, String.toList_append]
    exact Text.trim_append_append_of_blank blankBefore blankAfter raw.toList
  cases type with
  | string => exact absurd rfl notText
  | _ => rw [read?, read?, trimmed]

/-- The literal of any value but a text is read as that value, whatever blanks
stand around it. -/
theorem literal_reads_back
    {value : DefaultValue}
    (notText : value.semanticType ≠ .string) :
    read? value.semanticType value.literal = some value ∧
      ∀ before after : String,
        (∀ c ∈ before.toList, Text.isBlank c = true) →
        (∀ c ∈ after.toList, Text.isBlank c = true) →
        read? value.semanticType (before ++ value.literal ++ after) =
          some value := by
  have bare := read?_literal notText
  refine ⟨bare, ?_⟩
  intro before after blankBefore blankAfter
  rw [read?_append_append_of_blank notText blankBefore blankAfter, bare]

/-- The single that is the negative zero. -/
def negativeZero : DefaultValue :=
  .float ⟨true, 0, limit_single_pos⟩

/-- Zero keeps its sign in the literal, also between blanks. -/
theorem negativeZero_literal_reads_back :
    negativeZero.literal = "-0.0f" ∧
      read? .float "-0.0f" = some negativeZero ∧
      read? .float "\t\u00A0-0.0f\n" = some negativeZero := by
  have written : negativeZero.literal = "-0.0f" := by
    decide +kernel
  have notText : negativeZero.semanticType ≠ .string := by
    decide
  obtain ⟨bare, padded⟩ := literal_reads_back notText
  rw [written] at bare padded
  refine ⟨written, bare, padded "\t\u00A0" "\n" ?_ ?_⟩
  · simp [Text.isBlank]
  · simp [Text.isBlank]

/-- Values of one type with the same literal are equal. -/
theorem literal_inj_of_semanticType_eq
    {first second : DefaultValue}
    (sameType : first.semanticType = second.semanticType)
    (sameLiteral : first.literal = second.literal) : first = second := by
  by_cases text : first.semanticType = .string
  · cases first with
    | string firstText =>
        cases second with
        | string secondText =>
            have quoted : Text.quote firstText.toList =
                Text.quote secondText.toList :=
              String.ofList_injective sameLiteral
            rw [String.toList_injective (Text.quote_injective quoted)]
        | _ => cases sameType
    | _ => cases text
  · have read := read?_literal text
    rw [sameLiteral, sameType, read?_literal (sameType ▸ text)] at read
    exact (Option.some.inj read).symm

end DefaultValue
end PreferenceSchema
