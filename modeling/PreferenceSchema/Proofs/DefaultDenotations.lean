import PreferenceSchema.Proofs.DefaultLiterals
import PreferenceSchema.Proofs.FractionTexts
import PreferenceSchema.KeyField

/-!
# Values of default literals

A default is a literal of the source, with or without a minus sign, and it
denotes a text, a truth value or a number.  Which types may have it depends on
its kind and, for numbers, on the range of the type; the text that it has in a
declaration is read as the value that it denotes.
-/

namespace PreferenceSchema

open Number

/-- A literal that may be the default of a field. -/
inductive DefaultLiteral where
  | string (value : String)
  | boolean (value : Bool)
  | whole (negative : Bool) (number : Nat)
  /-- A number with a fraction or an exponent, by its decimal digits. -/
  | fraction (negative : Bool) (digits : String)
deriving DecidableEq, Repr

namespace DefaultLiteral

/-- Digits behind a minus sign, or without one. -/
def withSign
    (negative : Bool)
    (digits : String) : String :=
  if negative then "-" ++ digits else digits

/-- The text that stands for a literal in a declaration. -/
def text : DefaultLiteral → String
  | .string value => value
  | .boolean value => if value then "true" else "false"
  | .whole negative number => withSign negative (toString number)
  | .fraction negative digits => withSign negative digits

/-- The kind of a literal in a declaration. -/
def kind : DefaultLiteral → LiteralKind
  | .string _ => .text
  | .boolean _ => .boolean
  | .whole _ _ => .number
  | .fraction _ _ => .number

/-- The literal is that of a number with a sign. -/
inductive IsNumber : DefaultLiteral → Bool → Decimal → Prop
  | whole {negative number} : IsNumber (.whole negative number) negative
    ⟨number, 0⟩
  | fraction {negative digits number} :
      Decimal.read? digits.toList = some number →
      IsNumber (.fraction negative digits) negative number

/-- The values that a literal denotes; a floating-point number is the one that
the literal is rounded to. -/
inductive Denotes : DefaultLiteral → DefaultValue → Prop
  | string {value} : Denotes (.string value) (.string value)
  | boolean {value} : Denotes (.boolean value) (.boolean value)
  | integer {negative number} {value : Int32} :
      value.toInt = signedValue negative number →
      Denotes (.whole negative number) (.integer value)
  | long {negative number} {value : Int64} :
      value.toInt = signedValue negative number →
      Denotes (.whole negative number) (.long value)
  | float {literal} {number : Decimal} {value : BinaryFloat .single} :
      IsNumber literal value.negative number →
      BinaryFormat.single.ofDecimal? number = some value.magnitude →
      Denotes literal (.float value)
  | double {literal} {number : Decimal} {value : BinaryFloat .double} :
      IsNumber literal value.negative number →
      BinaryFormat.double.ofDecimal? number = some value.magnitude →
      Denotes literal (.double value)

/-- A whole number has a place among those of some bits with a sign. -/
def InRange
    (bits : Nat)
    (n : Int) : Prop :=
  -2 ^ (bits - 1) ≤ n ∧ n < 2 ^ (bits - 1)

/-- The literal is that of a number that is not too large to be rounded. -/
def IsFinite
    (format : BinaryFormat)
    (literal : DefaultLiteral) : Prop :=
  ∃ negative number magnitude, literal.IsNumber negative number ∧
    format.ofDecimal? number = some magnitude

/-- The types whose fields may have a literal as their default. -/
def Fits (literal : DefaultLiteral) : SemanticType → Prop
  | .string => ∃ value, literal = .string value
  | .boolean => ∃ value, literal = .boolean value
  | .integer => ∃ negative number, literal = .whole negative number ∧
      InRange 32 (signedValue negative number)
  | .long => ∃ negative number, literal = .whole negative number ∧
      InRange 64 (signedValue negative number)
  | .float => literal.IsFinite .single
  | .double => literal.IsFinite .double

/-- The digits of a fraction are those of a fraction of the source. -/
def Proper : DefaultLiteral → Prop
  | .fraction _ digits => IsFractionText digits.toList
  | _ => True

/-! ## Values of types -/

/-- A literal denotes a value of a type exactly when a field of the type may
have it. -/
theorem exists_denotes_iff
    {literal : DefaultLiteral}
    {type : SemanticType} :
    (∃ value, literal.Denotes value ∧ value.semanticType = type) ↔
      literal.Fits type := by
  constructor
  · rintro ⟨value, denotes, rfl⟩
    cases denotes with
    | string => exact ⟨_, rfl⟩
    | boolean => exact ⟨_, rfl⟩
    | @integer negative number value equal =>
        exact ⟨negative, number, rfl, equal ▸ ⟨value.le_toInt, value.toInt_lt⟩⟩
    | @long negative number value equal =>
        exact ⟨negative, number, rfl, equal ▸ ⟨value.le_toInt, value.toInt_lt⟩⟩
    | @float _ number value isNumber rounded =>
        exact ⟨value.negative, number, value.magnitude, isNumber, rounded⟩
    | @double _ number value isNumber rounded =>
        exact ⟨value.negative, number, value.magnitude, isNumber, rounded⟩
  · intro fits
    cases type with
    | string =>
        obtain ⟨value, rfl⟩ := fits
        exact ⟨.string value, .string, rfl⟩
    | boolean =>
        obtain ⟨value, rfl⟩ := fits
        exact ⟨.boolean value, .boolean, rfl⟩
    | integer =>
        obtain ⟨negative, number, rfl, above, below⟩ := fits
        exact ⟨.integer (.ofInt _),
          .integer (Int32.toInt_ofInt_of_le above below), rfl⟩
    | long =>
        obtain ⟨negative, number, rfl, above, below⟩ := fits
        exact ⟨.long (.ofInt _), .long (Int64.toInt_ofInt_of_le above below),
          rfl⟩
    | float =>
        obtain ⟨negative, number, magnitude, isNumber, rounded⟩ := fits
        have finite :=
          BinaryFormat.lt_limit_of_ofDecimal?_eq_some (by decide) rounded
        exact ⟨.float ⟨negative, magnitude, finite⟩, .float isNumber rounded,
          rfl⟩
    | double =>
        obtain ⟨negative, number, magnitude, isNumber, rounded⟩ := fits
        have finite :=
          BinaryFormat.lt_limit_of_ofDecimal?_eq_some (by decide) rounded
        exact ⟨.double ⟨negative, magnitude, finite⟩, .double isNumber rounded,
          rfl⟩

/-! ## Reading -/

/-- What the text of a number consists of. -/
def IsPlain (text : List Char) : Prop :=
  ∀ c ∈ text, c.isDigit = true ∨ c ∈ ['.', '-', 'e']

namespace IsPlain

variable {text : List Char}

theorem signed
    (plain : IsPlain text)
    (negative : Bool) : IsPlain (Number.signed negative text) := by
  cases negative with
  | false => exact plain
  | true => exact List.forall_mem_cons.mpr ⟨by simp, plain⟩

theorem trim_eq (plain : IsPlain text) : Text.trim text = text := by
  apply Text.trim_eq_self_of_forall
  intro c present
  rcases plain c present with digit | sign
  · have range := toNat_of_isDigit digit
    simp [Text.isBlank]
    omega
  · have notBlank : ∀ d ∈ ['.', '-', 'e'], Text.isBlank d = false := by
      simp [Text.isBlank]
    exact notBlank c sign

theorem dropEnding_eq
    (plain : IsPlain text)
    {marks : List Char}
    (letters : ∀ c ∈ marks, c.isDigit = false ∧ c ∉ ['.', '-', 'e']) :
    Text.dropEnding marks text = text := by
  apply Text.dropEnding_of_forall
  intro c present isMark
  obtain ⟨noDigit, noSign⟩ := letters c isMark
  rcases plain c present with digit | sign
  · rw [noDigit] at digit
    cases digit
  · exact noSign sign

end IsPlain

/-- The literal is that of a number, and its text has the digits of the number
behind the sign. -/
structure WritesNumber
    (literal : DefaultLiteral)
    (negative : Bool)
    (digits : List Char)
    (number : Decimal) : Prop where
  kind : literal.kind = .number
  text : literal.text.toList = signed negative digits
  plain : IsPlain digits
  unsigned : readSign digits = (false, digits)
  read : Decimal.read? digits = some number
  isNumber_iff : ∀ other d, literal.IsNumber other d ↔
    other = negative ∧ d = number

theorem toList_withSign
    (negative : Bool)
    (digits : String) :
    (withSign negative digits).toList = signed negative digits.toList := by
  cases negative <;> simp [withSign, signed]

theorem toList_toString
    (number : Nat) :
    (toString number).toList = naturalDigits number :=
  String.toList_ofList

theorem writesNumber_whole
    (negative : Bool)
    (number : Nat) :
    WritesNumber (.whole negative number) negative (naturalDigits number)
      ⟨number, 0⟩ where
  kind := rfl
  text := by
    rw [← toList_toString]
    exact toList_withSign negative (toString number)
  plain := fun _ present => .inl (isDigit_of_mem_naturalDigits present)
  unsigned := by
    simpa using readSign_append (fun _ => isDigit_of_mem_naturalDigits)
      (naturalDigits_ne_nil number) []
  read := by
    rw [Decimal.read?_digits (fun _ => isDigit_of_mem_naturalDigits)
      (naturalDigits_ne_nil number),
      digitsValue_naturalDigits]
  isNumber_iff := by
    intro other d
    constructor
    · rintro ⟨⟩
      exact ⟨rfl, rfl⟩
    · rintro ⟨rfl, rfl⟩
      exact .whole

theorem exists_writesNumber_fraction
    {negative : Bool}
    {digits : String}
    (fraction : IsFractionText digits.toList) :
    ∃ number, WritesNumber (.fraction negative digits)
      negative digits.toList number := by
  obtain ⟨number, read⟩ := fraction.exists_read?_eq
  refine ⟨number, rfl, toList_withSign negative digits,
    fun _ => fraction.isDigit_or_mem, fraction.readSign_eq, read, ?_⟩
  intro other d
  constructor
  · rintro ⟨⟩
    rename_i otherRead
    rw [read] at otherRead
    exact ⟨rfl, (Option.some.inj otherRead).symm⟩
  · rintro ⟨rfl, rfl⟩
    exact .fraction read

namespace WritesNumber

variable {literal : DefaultLiteral} {negative : Bool} {digits : List Char}
  {number : Decimal}

/-- The text of a literal is its sign and its digits, and is not cut. -/
theorem trim_text
    (writes : literal.WritesNumber negative digits number) :
    Text.trim literal.text.toList = signed negative digits := by
  rw [writes.text]
  exact (writes.plain.signed negative).trim_eq

/-- No type takes a letter off the end of a number. -/
theorem dropEnding_text
    (writes : literal.WritesNumber negative digits number)
    {marks : List Char}
    (letters : ∀ c ∈ marks, c.isDigit = false ∧ c ∉ ['.', '-', 'e']) :
    Text.dropEnding marks (Text.trim literal.text.toList) =
      signed negative digits := by
  rw [writes.trim_text]
  exact (writes.plain.signed negative).dropEnding_eq letters

/-- The text of a number is read as the value that the number is rounded to. -/
theorem readFloat?_eq_some_iff
    (writes : literal.WritesNumber negative digits number)
    {format : BinaryFormat}
    (positive : 0 < format.limit)
    {x : BinaryFloat format} :
    BinaryFloat.read? format (signed negative digits) = some x ↔
      ∃ d, literal.IsNumber x.negative d ∧
        format.ofDecimal? d = some x.magnitude := by
  rw [BinaryFloat.read?_signed_eq_some_iff positive writes.unsigned writes.read]
  simp only [writes.isNumber_iff]
  constructor
  · rintro ⟨rounded, sign⟩
    exact ⟨number, ⟨sign, rfl⟩, rounded⟩
  · rintro ⟨_, ⟨sign, rfl⟩, rounded⟩
    exact ⟨rounded, sign⟩

/-- A literal is read as the single that it denotes. -/
theorem read?_float_eq_some_iff
    (writes : literal.WritesNumber negative digits number)
    {value : DefaultValue} :
    DefaultValue.read? .float literal.text = some value ↔
      literal.Denotes value ∧ value.semanticType = .float := by
  have positive : 0 < BinaryFormat.single.limit := by decide
  have whole : Text.dropEnding ['F', 'f'] (Text.trim literal.text.toList) =
      signed negative digits := writes.dropEnding_text (by simp)
  unfold DefaultValue.read?
  simp only [whole, Option.map_eq_some_iff,
    writes.readFloat?_eq_some_iff positive]
  constructor
  · rintro ⟨x, ⟨d, isNumber, rounded⟩, rfl⟩
    exact ⟨.float isNumber rounded, rfl⟩
  · rintro ⟨denotes, hasType⟩
    cases denotes with
    | @float _ d x isNumber rounded => exact ⟨x, ⟨d, isNumber, rounded⟩, rfl⟩
    | _ => cases hasType

theorem read?_double_eq_some_iff
    (writes : literal.WritesNumber negative digits number)
    {value : DefaultValue} :
    DefaultValue.read? .double literal.text = some value ↔
      literal.Denotes value ∧ value.semanticType = .double := by
  have positive : 0 < BinaryFormat.double.limit := by decide
  have whole : Text.dropEnding ['D', 'd'] (Text.trim literal.text.toList) =
      signed negative digits := writes.dropEnding_text (by simp)
  unfold DefaultValue.read?
  simp only [whole, Option.map_eq_some_iff,
    writes.readFloat?_eq_some_iff positive]
  constructor
  · rintro ⟨x, ⟨d, isNumber, rounded⟩, rfl⟩
    exact ⟨.double isNumber rounded, rfl⟩
  · rintro ⟨denotes, hasType⟩
    cases denotes with
    | @double _ d x isNumber rounded => exact ⟨x, ⟨d, isNumber, rounded⟩, rfl⟩
    | _ => cases hasType

/-- A number is no truth value. -/
theorem read?_boolean_eq_none
    (writes : literal.WritesNumber negative digits number) :
    DefaultValue.read? .boolean literal.text = none := by
  have plain := writes.plain.signed negative
  have noWord {word : List Char}
      (letter : ∃ c ∈ word, c.isDigit = false ∧ c ∉ ['.', '-', 'e']) :
      signed negative digits ≠ word := by
    rintro rfl
    obtain ⟨c, present, noDigit, noSign⟩ := letter
    rcases plain c present with digit | sign
    · rw [noDigit] at digit
      cases digit
    · exact noSign sign
  unfold DefaultValue.read? DefaultValue.readBoolean?
  simp only [writes.trim_text]
  rw [if_neg (noWord ⟨'t', by decide⟩), if_neg (noWord ⟨'f', by decide⟩)]
  rfl

end WritesNumber

/-- A whole number is read within bounds exactly if it is read and within
them. -/
theorem readBounded?_eq_some_iff
    {bits : Nat}
    {text : List Char}
    {n : Int} :
    readBounded? bits text = some n ↔
      readInteger? text = some n ∧ InRange bits n := by
  have bound : (signedBound bits : Int) = 2 ^ (bits - 1) := by
    simp [signedBound]
  unfold readBounded? InRange
  rw [Option.filter_eq_some_iff, bound, Bool.and_eq_true, decide_eq_true_eq,
    decide_eq_true_eq]

/-- A whole literal is read as the integer that it denotes. -/
theorem read?_integer_whole_eq_some_iff
    {negative : Bool}
    {number : Nat}
    {value : DefaultValue} :
    DefaultValue.read? .integer (whole negative number).text = some value ↔
      (whole negative number).Denotes value ∧
        value.semanticType = .integer := by
  have writes := writesNumber_whole negative number
  unfold DefaultValue.read?
  simp only [writes.trim_text, Option.map_eq_some_iff, readBounded?_eq_some_iff,
    readInteger?_signed_naturalDigits, Option.some.injEq]
  constructor
  · rintro ⟨_, ⟨rfl, above, below⟩, rfl⟩
    exact ⟨.integer (Int32.toInt_ofInt_of_le above below), rfl⟩
  · rintro ⟨denotes, hasType⟩
    cases denotes with
    | @integer _ _ value equal =>
        exact ⟨value.toInt, ⟨equal.symm, value.le_toInt, value.toInt_lt⟩,
          by rw [Int32.ofInt_toInt]⟩
    | _ => cases hasType

theorem read?_long_whole_eq_some_iff
    {negative : Bool}
    {number : Nat}
    {value : DefaultValue} :
    DefaultValue.read? .long (whole negative number).text = some value ↔
      (whole negative number).Denotes value ∧ value.semanticType = .long := by
  have writes := writesNumber_whole negative number
  have whole :
      Text.dropEnding ['L', 'l']
      (Text.trim (whole negative number).text.toList) =
      signed negative (naturalDigits number) := writes.dropEnding_text (by simp)
  unfold DefaultValue.read?
  simp only [whole, Option.map_eq_some_iff, readBounded?_eq_some_iff,
    readInteger?_signed_naturalDigits, Option.some.injEq]
  constructor
  · rintro ⟨_, ⟨rfl, above, below⟩, rfl⟩
    exact ⟨.long (Int64.toInt_ofInt_of_le above below), rfl⟩
  · rintro ⟨denotes, hasType⟩
    cases denotes with
    | @long _ _ value equal =>
        exact ⟨value.toInt, ⟨equal.symm, value.le_toInt, value.toInt_lt⟩,
          by rw [Int64.ofInt_toInt]⟩
    | _ => cases hasType

/-- A fraction is no whole number, of whatever value. -/
theorem read?_fraction_eq_none
    {negative : Bool}
    {digits : String}
    (isFraction : IsFractionText digits.toList)
    {type : SemanticType}
    (isWhole : type = .integer ∨ type = .long) :
    DefaultValue.read? type (fraction negative digits).text = none := by
  obtain ⟨number, writes⟩ := exists_writesNumber_fraction isFraction
  have noWhole {bits : Nat} : readBounded? bits
      (signed negative digits.toList) = none := by
    unfold readBounded?
    rw [isFraction.readInteger?_signed_eq_none]
    rfl
  have ending : Text.dropEnding ['L', 'l']
      (Text.trim (fraction negative digits).text.toList) =
      signed negative digits.toList := writes.dropEnding_text (by simp)
  unfold DefaultValue.read?
  rcases isWhole with rfl | rfl
  · simp only [writes.trim_text, noWhole, Option.map_none]
  · simp only [ending, noWhole, Option.map_none]

/-! ## Defaults of types -/

/-- The value of a type that the text of a literal is taken for. -/
def valueOf?
    (literal : DefaultLiteral)
    (type : SemanticType) : Option DefaultValue :=
  if KeyField.kindFits type literal.kind then
    DefaultValue.read? type literal.text else none

/-- Any type but that of texts may have a number, as far as the kind of a
literal goes. -/
theorem WritesNumber.valueOf?_eq_some_iff
    {literal : DefaultLiteral}
    {negative : Bool}
    {digits : List Char}
    {number : Decimal}
    (writes : literal.WritesNumber negative digits number)
    {value : DefaultValue}
    (ofWhole : ∀ type, type = .integer ∨ type = .long →
      (DefaultValue.read? type literal.text = some value ↔
        literal.Denotes value ∧ value.semanticType = type))
    {type : SemanticType} :
    literal.valueOf? type = some value ↔
      literal.Denotes value ∧ value.semanticType = type := by
  have notOther : ¬(literal.Denotes value ∧
      (value.semanticType = .string ∨ value.semanticType = .boolean)) := by
    rintro ⟨denotes, hasType⟩
    cases denotes with
    | string => cases writes.kind
    | boolean => cases writes.kind
    | _ => rcases hasType with impossible | impossible <;> cases impossible
  unfold valueOf?
  rw [writes.kind]
  cases type with
  | string =>
      constructor
      · nofun
      · rintro ⟨denotes, hasType⟩
        exact absurd ⟨denotes, .inl hasType⟩ notOther
  | boolean =>
      rw [writes.read?_boolean_eq_none]
      constructor
      · nofun
      · rintro ⟨denotes, hasType⟩
        exact absurd ⟨denotes, .inr hasType⟩ notOther
  | integer => exact ofWhole .integer (.inl rfl)
  | long => exact ofWhole .long (.inr rfl)
  | float => exact writes.read?_float_eq_some_iff
  | double => exact writes.read?_double_eq_some_iff

/-- A text is taken for itself, and by the type of texts only. -/
theorem valueOf?_string_eq_some_iff
    {text : String}
    {type : SemanticType}
    {value : DefaultValue} :
    (string text).valueOf? type = some value ↔
      (string text).Denotes value ∧ value.semanticType = type := by
  constructor
  · intro read
    cases type with
    | string =>
        cases read
        exact ⟨.string, rfl⟩
    | _ => cases read
  · rintro ⟨denotes, rfl⟩
    cases denotes with
    | string => rfl
    | float isNumber => cases isNumber
    | double isNumber => cases isNumber

/-- A truth value is taken for itself, and by the type of truth values only. -/
theorem valueOf?_boolean_eq_some_iff
    {truth : Bool}
    {type : SemanticType}
    {value : DefaultValue} :
    (boolean truth).valueOf? type = some value ↔
      (boolean truth).Denotes value ∧ value.semanticType = type := by
  have read : (boolean truth).valueOf? type =
      if type = .boolean then some (.boolean truth) else none := by
    cases truth <;> cases type <;> rfl
  rw [read]
  constructor
  · intro taken
    split at taken
    case isTrue isBoolean =>
      cases taken
      exact ⟨.boolean, isBoolean.symm⟩
    case isFalse => cases taken
  · rintro ⟨denotes, rfl⟩
    cases denotes with
    | boolean => rfl
    | float isNumber => cases isNumber
    | double isNumber => cases isNumber

/-- A literal is taken for what it denotes. -/
theorem valueOf?_eq_some_iff
    {literal : DefaultLiteral}
    (proper : literal.Proper)
    {type : SemanticType}
    {value : DefaultValue} :
    literal.valueOf? type = some value ↔
      literal.Denotes value ∧ value.semanticType = type := by
  cases literal with
  | string text => exact valueOf?_string_eq_some_iff
  | boolean truth => exact valueOf?_boolean_eq_some_iff
  | whole negative number =>
      apply (writesNumber_whole negative number).valueOf?_eq_some_iff
      rintro _ (rfl | rfl)
      · exact read?_integer_whole_eq_some_iff
      · exact read?_long_whole_eq_some_iff
  | fraction negative digits =>
      obtain ⟨number, writes⟩ := exists_writesNumber_fraction proper
      apply writes.valueOf?_eq_some_iff
      intro type isWhole
      rw [read?_fraction_eq_none proper isWhole]
      constructor
      · nofun
      · rintro ⟨denotes, hasType⟩
        cases denotes with
        | _ => rcases isWhole with rfl | rfl <;> cases hasType

/-- A literal is taken for nothing exactly by the types that do not fit it. -/
theorem valueOf?_eq_none_iff
    {literal : DefaultLiteral}
    (proper : literal.Proper)
    {type : SemanticType} :
    literal.valueOf? type = none ↔ ¬literal.Fits type := by
  rw [Option.eq_none_iff_forall_ne_some, ← exists_denotes_iff]
  simp only [ne_eq, valueOf?_eq_some_iff proper, not_exists]

end DefaultLiteral
end PreferenceSchema
