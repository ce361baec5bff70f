import PreferenceSchema.Proofs.FractionTexts
import PreferenceSchema.Proofs.SourceWords
import PreferenceSchema.Source.Literal

/-!
# Tokens of numbers

A number of a source that is no whole number has digits with a fraction, an
exponent or both, once its underscores and its suffix are left out.
-/

namespace PreferenceSchema
namespace Source

open Number

/-! ## Characters -/

/-- Digits may have underscores as gaps between them. -/
theorem isDigitOrGap_iff
    {c : Char} :
    isDigitOrGap c = true ↔ c.isDigit = true ∨ c = '_' := by
  simp [isDigitOrGap]

theorem isDigitOrGap_eq_false_iff
    {c : Char} :
    isDigitOrGap c = false ↔ c.isDigit = false ∧ c ≠ '_' := by
  simp [isDigitOrGap]

/-- The code points of the signs and of the point of a number. -/
def signPoints : List Nat :=
  [0x2B, 0x2D, 0x2E]

/-- A character that goes on neither a row of digits nor a number. -/
structure EndsDigits (c : Char) : Prop where
  noDigitOrGap : isDigitOrGap c = false
  noPoint : c ≠ '.'
  noMinus : c ≠ '-'
  noPlus : c ≠ '+'

theorem endsDigits_of_continuesIdentifier
    {c : Char}
    (continues : Text.continuesIdentifier c = true)
    (noDigitOrGap : isDigitOrGap c = false) : EndsDigits c := by
  have noSign : c.toNat ∉ signPoints :=
    Text.notMem_of_forall (by decide +kernel) continues
  refine ⟨noDigitOrGap, ?_, ?_, ?_⟩
  all_goals
    rintro rfl
    exact noSign (by decide)

theorem endsDigits_of_startsIdentifier
    {c : Char}
    (starts : Text.startsIdentifier c = true)
    (noGap : c ≠ '_') : EndsDigits c := by
  have noSign : c.toNat ∉ signPoints ++ List.range' 0x30 10 :=
    Text.notMem_of_forall (by decide +kernel) starts
  have noDigit : c.isDigit = false := by
    rw [← Bool.not_eq_true]
    intro digit
    have range := toNat_of_isDigit digit
    apply noSign
    apply List.mem_append_right
    rw [List.mem_range'_1]
    omega
  refine ⟨by simp [isDigitOrGap, noDigit, noGap], ?_, ?_, ?_⟩
  all_goals
    rintro rfl
    exact noSign (by decide)

/-! ## Rows of digits -/

/-- The digits of a row, without the gaps between them. -/
def digitsOf (run : List Char) : List Char :=
  run.filter Char.isDigit

theorem isDigits_digitsOf (run : List Char) : IsDigits (digitsOf run) :=
  fun _ present => (List.mem_filter.mp present).2

theorem digitsOf_ne_nil
    {run : List Char}
    (valued : ∃ c ∈ run, c.isDigit = true) : digitsOf run ≠ [] := by
  obtain ⟨c, present, digit⟩ := valued
  exact List.ne_nil_of_mem (List.mem_filter.mpr ⟨present, digit⟩)

/-- The digits of a run are kept, and its gaps are dropped. -/
theorem readFloatDigits_append
    {run : List Char}
    (isRun : ∀ c ∈ run, isDigitOrGap c = true)
    (marked : Bool)
    (rest : List Char) :
    readFloatDigits marked (run ++ rest) =
      digitsOf run ++ readFloatDigits marked rest := by
  induction run with
  | nil => rfl
  | cons c others inductionHypothesis =>
      obtain ⟨first, later⟩ := List.forall_mem_cons.mp isRun
      rw [List.cons_append, readFloatDigits, inductionHypothesis later]
      unfold digitsOf
      rcases isDigitOrGap_iff.mp first with digit | rfl
      · have noGap : c ≠ '_' := by
          rintro rfl
          cases digit
        simp [noGap, digit]
      · simp

/-- What does not go on with an exponent ends the digits of a number. -/
theorem readFloatDigits_eq_nil
    {text : List Char}
    (ends : ∀ c ∈ text.head?, EndsDigits c)
    {marked : Bool}
    (noExponent : ∀ c rest, text = c :: rest → c = 'e' ∨ c = 'E' →
      marked = true ∨ exponentFollows rest = false) :
    readFloatDigits marked text = [] := by
  cases text with
  | nil => rfl
  | cons c rest =>
      obtain ⟨noDigitOrGap, noPoint, noMinus, noPlus⟩ := ends c rfl
      obtain ⟨noDigit, noGap⟩ := isDigitOrGap_eq_false_iff.mp noDigitOrGap
      rw [readFloatDigits, if_neg noGap,
        if_neg (by simp [noDigit, noPoint, noMinus]), if_neg noPlus, if_neg]
      simp only [Bool.and_eq_true, Bool.or_eq_true, decide_eq_true_eq,
        Bool.not_eq_true']
      rintro ⟨⟨isMark, unmarked⟩, follows⟩
      rcases noExponent c rest rfl isMark with marked | noFollow
      · rw [unmarked] at marked
        cases marked
      · rw [noFollow] at follows
        cases follows

/-- At least one digit, with gaps among the digits. -/
structure IsRow (run : List Char) : Prop where
  isRun : ∀ c ∈ run, isDigitOrGap c = true
  valued : ∃ c ∈ run, c.isDigit = true

theorem head?_dropWhile_isDigitOrGap
    (text : List Char) :
    ∀ c ∈ (text.dropWhile isDigitOrGap).head?, isDigitOrGap c = false := by
  intro c isHead
  have noDigitOrGap := List.head?_dropWhile_not isDigitOrGap text
  rw [isHead] at noDigitOrGap
  exact noDigitOrGap

theorem isRow_takeWhile
    {text : List Char}
    (valued : ∃ c ∈ text.takeWhile isDigitOrGap, c.isDigit = true) :
    IsRow (text.takeWhile isDigitOrGap) :=
  ⟨fun _ present => List.mem_takeWhile_imp present, valued⟩

/-! ## Exponents -/

/-- What stands behind the mark of an exponent: gaps, a sign or none, and a row
of digits. -/
inductive IsExponent : List Char → Bool → List Char → Prop
  | plain {run} : IsRow run → IsExponent run false run
  | plus {run} : IsRow run → IsExponent ('+' :: run) false run
  | minus {run} : IsRow run → IsExponent ('-' :: run) true run
  | gap {text negative run} : IsExponent text negative run →
    IsExponent ('_' :: text) negative run

/-- A row of digits can be an exponent. -/
theorem IsRow.exponentFollows
    {run : List Char}
    (row : IsRow run)
    (rest : List Char) : exponentFollows (run ++ rest) = true := by
  obtain ⟨isRun, d, present, digit⟩ := row
  induction run with
  | nil => cases present
  | cons c others inductionHypothesis =>
      obtain ⟨first, later⟩ := List.forall_mem_cons.mp isRun
      unfold Source.exponentFollows
      rcases isDigitOrGap_iff.mp first with isDigit | rfl
      · have noGap : ¬(c == '_') = true := by
          rw [beq_iff_eq]
          rintro rfl
          cases isDigit
        have dropped : (c :: (others ++ rest)).dropWhile
            (fun other => other == '_') =
            c :: (others ++ rest) := List.dropWhile_cons_of_neg noGap
        rw [List.cons_append, dropped]
        simp [isDigit]
      · rcases List.mem_cons.mp present with rfl | inOthers
        · cases digit
        · exact inductionHypothesis later inOthers

namespace IsExponent

variable {exponent run : List Char} {negative : Bool}

theorem isRow (isExponent : IsExponent exponent negative run) : IsRow run := by
  induction isExponent with
  | plain row => exact row
  | plus row => exact row
  | minus row => exact row
  | gap _ inductionHypothesis => exact inductionHypothesis

theorem exponentFollows
    (isExponent : IsExponent exponent negative run)
    (rest : List Char) : exponentFollows (exponent ++ rest) = true := by
  induction isExponent with
  | plain row => exact row.exponentFollows rest
  | plus => rfl
  | minus => rfl
  | gap _ inductionHypothesis => exact inductionHypothesis

theorem readFloatDigits_append
    (isExponent : IsExponent exponent negative run)
    (rest : List Char) :
    readFloatDigits true (exponent ++ rest) =
      signed negative (digitsOf run) ++ readFloatDigits true rest := by
  induction isExponent with
  | plain row => exact Source.readFloatDigits_append row.isRun true rest
  | plus row => exact Source.readFloatDigits_append row.isRun true rest
  | minus row =>
    exact congrArg (List.cons '-')
      (Source.readFloatDigits_append row.isRun true rest)
  | gap _ inductionHypothesis => exact inductionHypothesis

end IsExponent

/-- Once there is a digit the exponent goes on to the end of its row. -/
theorem scanExponent?_valued
    (signed : Bool)
    (text : List Char) :
    scanExponent? signed true text =
      some (text.dropWhile isDigitOrGap, true) := by
  induction text with
  | nil => rfl
  | cons c rest inductionHypothesis =>
      rw [scanExponent?, inductionHypothesis]
      split
      case isTrue sign => rcases sign with rfl | rfl <;> rfl
      case isFalse =>
        split
        case isTrue digit =>
          rw [List.dropWhile_cons_of_pos (isDigitOrGap_iff.mpr (.inl digit))]
        case isFalse noDigit =>
          split
          case isTrue gap =>
            rw [List.dropWhile_cons_of_pos (isDigitOrGap_iff.mpr (.inr gap))]
          case isFalse noGap =>
            rw [List.dropWhile_cons_of_neg]
            rw [isDigitOrGap_iff]
            exact fun either => either.elim noDigit noGap

/-- Behind its sign an exponent is a row of digits. -/
theorem of_scanExponent?_signed
    {text after : List Char}
    (scanned : scanExponent? true false text = some (after, true)) :
    after = text.dropWhile isDigitOrGap ∧
      IsRow (text.takeWhile isDigitOrGap) := by
  suffices valued : after = text.dropWhile isDigitOrGap ∧
      ∃ c ∈ text.takeWhile isDigitOrGap, c.isDigit = true from
    ⟨valued.1, isRow_takeWhile valued.2⟩
  induction text with
  | nil => cases scanned
  | cons c rest inductionHypothesis =>
      rw [scanExponent?] at scanned
      split at scanned
      case isTrue => cases scanned
      case isFalse =>
        split at scanned
        case isTrue digit =>
          have inRun : isDigitOrGap c = true :=
            isDigitOrGap_iff.mpr (.inl digit)
          rw [scanExponent?_valued] at scanned
          cases scanned
          rw [List.dropWhile_cons_of_pos inRun,
            List.takeWhile_cons_of_pos inRun]
          exact ⟨rfl, c, List.mem_cons_self, digit⟩
        case isFalse =>
          split at scanned
          case isTrue gap =>
            have inRun : isDigitOrGap c = true :=
              isDigitOrGap_iff.mpr (.inr gap)
            obtain ⟨equal, d, present, digit⟩ := inductionHypothesis scanned
            rw [List.dropWhile_cons_of_pos inRun,
              List.takeWhile_cons_of_pos inRun]
            exact ⟨equal, d, List.mem_cons_of_mem _ present, digit⟩
          case isFalse => cases scanned

/-- A scanned exponent is gaps, a sign or none, and a row of digits up to its
end. -/
theorem exists_isExponent_of_scanExponent?
    {text after : List Char}
    (scanned : scanExponent? false false text = some (after, true)) :
    (∃ exponent negative run, IsExponent exponent negative run ∧
      text = exponent ++ after) ∧
      ∀ c ∈ after.head?, isDigitOrGap c = false := by
  induction text with
  | nil => cases scanned
  | cons c rest inductionHypothesis =>
      rw [scanExponent?] at scanned
      split at scanned
      case isTrue sign =>
        obtain ⟨rfl, row⟩ := of_scanExponent?_signed scanned
        refine ⟨⟨c :: rest.takeWhile isDigitOrGap, ?_⟩,
          head?_dropWhile_isDigitOrGap rest⟩
        rw [List.cons_append, List.takeWhile_append_dropWhile]
        rcases sign with rfl | rfl
        · exact ⟨false, _, .plus row, rfl⟩
        · exact ⟨true, _, .minus row, rfl⟩
      case isFalse =>
        split at scanned
        case isTrue digit =>
          have inRun : isDigitOrGap c = true :=
            isDigitOrGap_iff.mpr (.inl digit)
          rw [scanExponent?_valued] at scanned
          cases scanned
          refine
            ⟨⟨(c :: rest).takeWhile isDigitOrGap, false, _,
                .plain (isRow_takeWhile ?_), ?_⟩,
              head?_dropWhile_isDigitOrGap rest⟩
          · rw [List.takeWhile_cons_of_pos inRun]
            exact ⟨c, List.mem_cons_self, digit⟩
          · rw [List.takeWhile_cons_of_pos inRun, List.cons_append,
              List.takeWhile_append_dropWhile]
        case isFalse =>
          split at scanned
          case isTrue gap =>
            obtain ⟨⟨exponent, negative, run, isExponent, rfl⟩, ends⟩ :=
              inductionHypothesis scanned
            exact ⟨⟨c :: exponent, negative, run, gap ▸ isExponent.gap, rfl⟩,
              ends⟩
          case isFalse => cases scanned

/-! ## Suffixes -/

/-- The suffix of a literal: an identifier or nothing. -/
def IsSuffix (suffix : List Char) : Prop :=
  suffix = [] ∨ Text.isIdentifier suffix = true

theorem exists_isSuffix_of_scanNumberEnd?
    {text rest : List Char}
    (scanned : scanNumberEnd? text = some rest) :
    ∃ suffix, text = suffix ++ rest ∧ IsSuffix suffix := by
  have equal : scanSuffix text = rest := by
    simp only [scanNumberEnd?] at scanned
    split at scanned
    case h_1 c others behind =>
      split at scanned
      case isTrue => cases scanned
      case isFalse => exact Option.some.inj scanned
    case h_2 behind =>
      rw [behind]
      exact Option.some.inj scanned
  unfold scanSuffix at equal
  cases found : scanIdentifier? text with
  | none =>
      rw [found] at equal
      exact ⟨[], equal, .inl rfl⟩
  | some after =>
      rw [found] at equal
      obtain ⟨identifier, split, isIdentifier⟩ :=
        exists_of_scanIdentifier?_eq_some found
      obtain rfl : after = rest := equal
      exact ⟨identifier, split, .inr isIdentifier⟩

/-- What stands behind a row of digits and begins a suffix ends the number. -/
theorem IsSuffix.endsDigits
    {suffix rest : List Char}
    (isSuffix : IsSuffix suffix)
    (noDigitOrGap : ∀ c ∈ (suffix ++ rest).head?, isDigitOrGap c = false) :
    ∀ c ∈ suffix.head?, EndsDigits c := by
  rcases isSuffix with rfl | identifier
  · nofun
  · cases suffix with
    | nil => cases identifier
    | cons first others =>
        rintro c ⟨⟩
        unfold Text.isIdentifier at identifier
        apply endsDigits_of_startsIdentifier
          (Bool.and_eq_true_iff.mp identifier).1
        rintro rfl
        exact absurd (noDigitOrGap '_' rfl) (by decide)

theorem IsSuffix.continues
    {c : Char}
    {others : List Char}
    (isSuffix : IsSuffix (c :: others)) :
    ∀ d ∈ others, Text.continuesIdentifier d = true := by
  rcases isSuffix with nothing | identifier
  · cases nothing
  · unfold Text.isIdentifier at identifier
    exact List.all_eq_true.mp (Bool.and_eq_true_iff.mp identifier).2

/-! ## Powers -/

/-- The mark of an exponent. -/
def IsMark (c : Char) : Prop :=
  c = 'e' ∨ c = 'E'

/-- What an exponent with its mark is read as. -/
theorem IsExponent.readFloatDigits_cons
    {exponent run suffix : List Char}
    {negative : Bool}
    (isExponent : IsExponent exponent negative run)
    {mark : Char}
    (isMark : IsMark mark)
    (ends : ∀ c ∈ suffix.head?, EndsDigits c) :
    IsPower (readFloatDigits false (mark :: (exponent ++ suffix))) ∧
      readFloatDigits false (mark :: (exponent ++ suffix)) ≠ [] := by
  have behind : readFloatDigits true suffix = [] :=
    readFloatDigits_eq_nil ends fun _ _ _ _ => .inl rfl
  have power : readFloatDigits false (mark :: (exponent ++ suffix)) =
      'e' :: signed negative (digitsOf run) := by
    have follows := isExponent.exponentFollows suffix
    rw [readFloatDigits, isExponent.readFloatDigits_append, behind,
      List.append_nil]
    rcases isMark with rfl | rfl <;> simp [follows]
  rw [power]
  exact ⟨.mark (isDigits_digitsOf run)
    (digitsOf_ne_nil isExponent.isRow.valued),
    List.cons_ne_nil _ _⟩

/-- An exponent that the scan of a number takes, or nothing where it takes
none. -/
theorem scanWithExponent?_eq_some
    {whole : Option (List Char)}
    {text after : List Char}
    (scanned : scanWithExponent? whole text = some after) :
    (∃ mark rest, text = mark :: rest ∧ IsMark mark ∧
        scanExponent? false false rest = some (after, true)) ∨
      (whole = some after ∧ ∀ mark rest, text = mark :: rest → IsMark mark →
        ∀ behind, scanExponent? false false rest ≠ some (behind, true)) := by
  cases text with
  | nil => exact .inr ⟨scanned, nofun⟩
  | cons c rest =>
      rw [scanWithExponent?] at scanned
      split at scanned
      case isTrue isMark =>
        split at scanned
        case h_1 behind found =>
          cases scanned
          exact .inl ⟨c, rest, rfl, isMark, found⟩
        case h_2 none =>
          refine .inr ⟨scanned, ?_⟩
          rintro mark others ⟨⟩ - behind found
          exact none behind found
      case isFalse noMark =>
        refine .inr ⟨scanned, ?_⟩
        rintro mark others ⟨⟩ isMark
        exact absurd isMark noMark

/-- A suffix that looks like an exponent is scanned as one. -/
theorem exists_scanExponent?_eq_some
    {text : List Char}
    (continues : ∀ c ∈ text, Text.continuesIdentifier c = true)
    (follows : exponentFollows text = true)
    (rest : List Char) :
    ∃ behind, scanExponent? false false (text ++ rest) =
      some (behind, true) := by
  induction text with
  | nil => cases follows
  | cons c others inductionHypothesis =>
      obtain ⟨first, later⟩ := List.forall_mem_cons.mp continues
      by_cases gap : c = '_'
      · subst gap
        exact inductionHypothesis later follows
      · have noSign : c.toNat ∉ signPoints :=
          Text.notMem_of_forall (by decide +kernel) first
        have digit : c.isDigit = true := by
          have dropped : (c :: others).dropWhile (fun other => other == '_') =
              c :: others :=
            List.dropWhile_cons_of_neg (by simpa using gap)
          unfold exponentFollows at follows
          rw [dropped] at follows
          simp only [Bool.or_eq_true, beq_iff_eq] at follows
          rcases follows with (digit | rfl) | rfl
          · exact digit
          · exact absurd (by decide) noSign
          · exact absurd (by decide) noSign
        have unsigned : ¬(c = '+' ∨ c = '-') := by
          rintro (rfl | rfl) <;> cases digit
        rw [List.cons_append, scanExponent?, if_neg unsigned, if_pos digit,
          scanExponent?_valued]
        exact ⟨_, rfl⟩

/-! ## Numbers with a point or an exponent -/

/-- A number that begins with a row of digits, in front of what ends the row. -/
theorem isRow_takeWhile_cons
    {c : Char}
    (digit : c.isDigit = true)
    (rest : List Char) : IsRow ((c :: rest).takeWhile isDigitOrGap) := by
  apply isRow_takeWhile
  rw [List.takeWhile_cons_of_pos (isDigitOrGap_iff.mpr (.inl digit))]
  exact ⟨c, List.mem_cons_self, digit⟩

/-- What the scan of an exponent leaves of a number in front of its suffix. -/
theorem power_of_scanWithExponent?
    {whole : Option (List Char)}
    {text suffix rest : List Char}
    (scanned : scanWithExponent? whole text = some (suffix ++ rest))
    (wholeText : ∀ other, whole = some other → other = text)
    (noDigitOrGap : ∀ c ∈ text.head?, isDigitOrGap c = false)
    (isSuffix : IsSuffix suffix) :
    ∃ taken, text = taken ++ rest ∧ IsPower (readFloatDigits false taken) ∧
      (whole = none → readFloatDigits false taken ≠ []) := by
  rcases scanWithExponent?_eq_some scanned
    with ⟨mark, behind, rfl, isMark, found⟩ | ⟨equal, none⟩
  · obtain ⟨⟨exponent, negative, run, isExponent, rfl⟩, ends⟩ :=
      exists_isExponent_of_scanExponent? found
    obtain ⟨isPower, some⟩ :=
      isExponent.readFloatDigits_cons isMark (isSuffix.endsDigits ends)
    exact ⟨mark :: (exponent ++ suffix), by simp, isPower, fun _ => some⟩
  · obtain rfl := wholeText _ equal
    have nothing : readFloatDigits false suffix = [] := by
      apply readFloatDigits_eq_nil (isSuffix.endsDigits noDigitOrGap)
      rintro c others rfl isMark
      right
      rw [← Bool.not_eq_true]
      intro follows
      obtain ⟨behind, found⟩ :=
        exists_scanExponent?_eq_some isSuffix.continues follows rest
      exact none c (others ++ rest) rfl isMark behind found
    refine ⟨suffix, rfl, ?_, ?_⟩
    · rw [nothing]
      exact .nothing
    · rw [equal]
      nofun

/-- A number with a point or an exponent is scanned as the text of a
fraction. -/
theorem isFractionText_of_scanFloatDigits?
    {text suffix rest : List Char}
    (scanned : scanFloatDigits? text = some (suffix ++ rest))
    (isSuffix : IsSuffix suffix) :
    ∃ token, text = token ++ rest ∧
      IsFractionText (readFloatDigits false token) := by
  unfold scanFloatDigits? at scanned
  split at scanned
  case h_1 c others =>
    split at scanned
    case isTrue => cases scanned
    case isFalse isDigit =>
      have digit : c.isDigit = true := by simpa using isDigit
      have row := isRow_takeWhile_cons digit others
      have split : (c :: others).takeWhile isDigitOrGap ++
          (c :: others).dropWhile isDigitOrGap =
          c :: others := List.takeWhile_append_dropWhile
      have ends := head?_dropWhile_isDigitOrGap (c :: others)
      generalize (c :: others).takeWhile isDigitOrGap = run at row split
      generalize (c :: others).dropWhile isDigitOrGap = tail
        at scanned split ends
      rw [← split]
      split at scanned
      case h_1 behind =>
        split at scanned
        case isTrue => cases scanned
        case isFalse =>
          obtain ⟨taken, equal, isPower, -⟩ :=
            power_of_scanWithExponent? scanned
            (fun _ whole => (Option.some.inj whole).symm)
              (head?_dropWhile_isDigitOrGap behind)
            isSuffix
          have placesRun : ∀ c ∈ behind.takeWhile isDigitOrGap,
              isDigitOrGap c = true :=
            fun _ present => List.mem_takeWhile_imp present
          refine ⟨run ++ '.' :: (behind.takeWhile isDigitOrGap ++ taken), ?_,
            ?_⟩
          · rw [List.append_assoc, List.cons_append, List.append_assoc, ← equal,
              List.takeWhile_append_dropWhile]
          · have point : readFloatDigits false
                ('.' :: (behind.takeWhile isDigitOrGap ++ taken)) =
                '.' :: readFloatDigits false
                  (behind.takeWhile isDigitOrGap ++ taken) := rfl
            rw [readFloatDigits_append row.isRun, point,
              readFloatDigits_append placesRun]
            exact ⟨digitsOf run, '.' :: digitsOf _, _, isDigits_digitsOf run,
              .point (isDigits_digitsOf _), isPower, digitsOf_ne_nil row.valued,
              List.cons_ne_nil _ _, rfl⟩
      case h_2 noPoint =>
        obtain ⟨taken, rfl, isPower, some⟩ :=
          power_of_scanWithExponent? scanned nofun ends isSuffix
        refine ⟨run ++ taken, (List.append_assoc ..).symm, ?_⟩
        rw [readFloatDigits_append row.isRun]
        exact ⟨digitsOf run, [], _, isDigits_digitsOf run, .nothing, isPower,
          digitsOf_ne_nil row.valued, some rfl, rfl⟩
  case h_2 => cases scanned

/-! ## Whole numbers -/

/-- A character that may stand among the digits of a whole number. -/
def IsDigitIn
    (base : Nat)
    (c : Char) : Prop :=
  c = '_' ∨ isHexDigit c = true ∧ hexDigitValue c < base

theorem isHexDigit_of_isDigit
    {c : Char}
    (digit : c.isDigit = true) : isHexDigit c = true := by
  simp [isHexDigit, digit]

theorem ten_le_hexDigitValue
    {c : Char}
    (noDigit : c.isDigit = false) : 10 ≤ hexDigitValue c := by
  unfold hexDigitValue
  rw [noDigit]
  split
  case isTrue => contradiction
  case isFalse => split <;> omega

theorem hexDigitValue_lt
    {c : Char}
    (hexDigit : isHexDigit c = true) : hexDigitValue c < 16 := by
  unfold hexDigitValue
  by_cases digit : c.isDigit = true
  · have range := toNat_of_isDigit digit
    rw [if_pos digit]
    omega
  · have point (d e : Char) : d ≤ e ↔ d.toNat ≤ e.toNat := by
      rw [Char.le_def, UInt32.le_iff_toNat_le]
      rfl
    simp only [isHexDigit, digit, Bool.false_or, Bool.or_eq_true,
      Bool.and_eq_true, decide_eq_true_eq, point] at hexDigit
    change 97 ≤ c.toNat ∧ c.toNat ≤ 102 ∨ 65 ≤ c.toNat ∧
      c.toNat ≤ 70 at hexDigit
    rw [if_neg digit]
    split
    case isTrue lower =>
      change c.toNat - 97 + 10 < 16
      omega
    case isFalse upper =>
      rw [point] at upper
      change ¬97 ≤ c.toNat at upper
      change c.toNat - 65 + 10 < 16
      omega

/-- The digits of base ten are the decimal ones. -/
theorem isDigitOrGap_of_isDigitIn
    {c : Char}
    (isDigit : IsDigitIn 10 c) : isDigitOrGap c = true := by
  rw [isDigitOrGap_iff]
  rcases isDigit with gap | ⟨-, below⟩
  · exact .inr gap
  · left
    by_contra noDigit
    have above := ten_le_hexDigitValue (Bool.not_eq_true _ ▸ noDigit)
    omega

/-- The scan of a whole number takes its digits; in base ten the first of them
is no gap. -/
theorem exists_digits_of_scanDigits?
    {base : Nat}
    {empty : Bool}
    {text after : List Char}
    (scanned : scanDigits? base empty text = some after) :
    ∃ run, text = run ++ after ∧ (∀ c ∈ run, IsDigitIn base c) ∧
      (∀ c ∈ after.head?, ¬IsDigitIn base c) ∧
      (base = 10 → empty = true → ∃ c ∈ run, c ≠ '_') := by
  induction text generalizing empty with
  | nil =>
      cases empty with
      | true => cases scanned
      | false =>
          cases scanned
          exact ⟨[], rfl, nofun, nofun, nofun⟩
  | cons c rest inductionHypothesis =>
      have taken {later : Bool} (isDigit : IsDigitIn base c)
          (noGap : base = 10 → empty = true → c ≠ '_')
          (found : scanDigits? base later rest = some after) :
          ∃ run, c :: rest = run ++ after ∧ (∀ d ∈ run, IsDigitIn base d) ∧
            (∀ d ∈ after.head?, ¬IsDigitIn base d) ∧
            (base = 10 → empty = true → ∃ d ∈ run, d ≠ '_') := by
        obtain ⟨run, rfl, isRun, ends, -⟩ := inductionHypothesis found
        refine ⟨c :: run, rfl, List.forall_mem_cons.mpr ⟨isDigit, isRun⟩, ends,
          ?_⟩
        exact fun isTen isEmpty => ⟨c, List.mem_cons_self, noGap isTen isEmpty⟩
      rw [scanDigits?] at scanned
      split at scanned
      case isTrue gap =>
        split at scanned
        case isTrue => cases scanned
        case isFalse notFirst =>
          refine taken (.inl gap) ?_ scanned
          intro isTen isEmpty
          simp [isTen, isEmpty] at notFirst
      case isFalse noGap =>
        split at scanned
        case isTrue digit =>
          split at scanned
          case isTrue => cases scanned
          case isFalse below =>
            exact taken
              (.inr ⟨isHexDigit_of_isDigit digit, Nat.lt_of_not_le below⟩)
              (fun _ _ => noGap) scanned
        case isFalse noDigit =>
          split at scanned
          case isTrue hexDigit =>
            simp only [Bool.and_eq_true, decide_eq_true_eq] at hexDigit
            exact taken (.inr hexDigit) (fun _ _ => noGap) scanned
          case isFalse noHexDigit =>
            simp only [Bool.and_eq_true, decide_eq_true_eq] at noHexDigit
            cases empty with
            | true => cases scanned
            | false =>
                cases scanned
                refine ⟨[], rfl, nofun, ?_, nofun⟩
                rintro d ⟨⟩ (gap | isDigit)
                · exact noGap gap
                · exact noHexDigit isDigit

/-- Digits of a whole number are read up to what stands behind them. -/
theorem readWholeFrom?_append
    {base : Nat}
    {run : List Char}
    (isRun : ∀ c ∈ run, IsDigitIn base c)
    (value : Nat)
    (rest : List Char) :
    ∃ other, readWholeFrom? base value (run ++ rest) =
      readWholeFrom? base other rest := by
  induction run generalizing value with
  | nil => exact ⟨value, rfl⟩
  | cons c others inductionHypothesis =>
      obtain ⟨first, later⟩ := List.forall_mem_cons.mp isRun
      rw [List.cons_append, readWholeFrom?]
      split
      case isTrue => exact inductionHypothesis later value
      case isFalse noGap =>
        rcases first with gap | ⟨hexDigit, below⟩
        · exact absurd gap noGap
        · have isDigit : (c.isDigit || decide (10 < base) && isHexDigit c) =
              true := by
            rw [hexDigit, Bool.and_true, Bool.or_eq_true, decide_eq_true_eq]
            by_contra neither
            rw [not_or, Bool.not_eq_true] at neither
            have above := ten_le_hexDigitValue neither.1
            omega
          rw [if_pos isDigit, if_pos below]
          exact inductionHypothesis later _

/-- A suffix behind the digits of a whole number makes it a fraction only as an
exponent. -/
theorem of_readWholeFrom?_eq_none
    {base value : Nat}
    {suffix : List Char}
    (isSuffix : IsSuffix suffix)
    (isBase : base ≤ 10 ∨ base = 16)
    (noDigit : ∀ c ∈ suffix.head?, ¬IsDigitIn base c)
    (noWhole : readWholeFrom? base value suffix = none) :
    base = 10 ∧ ∃ mark rest, suffix = mark :: rest ∧ IsMark mark ∧
      hasExponent false rest = true := by
  cases suffix with
  | nil => cases noWhole
  | cons c rest =>
      have notIn := noDigit c rfl
      have noGap : c ≠ '_' := fun gap => notIn (.inl gap)
      have ends : EndsDigits c := by
        rcases isSuffix with nothing | identifier
        · cases nothing
        · unfold Text.isIdentifier at identifier
          exact endsDigits_of_startsIdentifier
            (Bool.and_eq_true_iff.mp identifier).1 noGap
      have noMember : ¬(c.isDigit || decide (10 < base) && isHexDigit c) =
          true := by
        obtain ⟨noDigit, -⟩ := isDigitOrGap_eq_false_iff.mp ends.noDigitOrGap
        rw [noDigit, Bool.false_or, Bool.and_eq_true, decide_eq_true_eq]
        rintro ⟨above, hexDigit⟩
        have below := hexDigitValue_lt hexDigit
        apply notIn
        exact .inr ⟨hexDigit, by omega⟩
      rw [readWholeFrom?, if_neg noGap, if_neg noMember,
        if_neg (by simp [ends.noPoint])] at noWhole
      split at noWhole
      case isTrue exponent =>
        simp only [Bool.and_eq_true, Bool.or_eq_true,
          decide_eq_true_eq] at exponent
        obtain ⟨⟨isTen, isMark⟩, exponent⟩ := exponent
        exact ⟨isTen, c, rest, rfl, isMark, exponent⟩
      case isFalse => cases noWhole

/-- An exponent in a suffix is a row of digits. -/
theorem isRow_of_hasExponent
    {text : List Char}
    (continues : ∀ c ∈ text, Text.continuesIdentifier c = true)
    (exponent : hasExponent false text = true) :
    IsRow (text.takeWhile isDigitOrGap) := by
  apply isRow_takeWhile
  induction text with
  | nil => cases exponent
  | cons c rest inductionHypothesis =>
      obtain ⟨first, later⟩ := List.forall_mem_cons.mp continues
      rw [hasExponent] at exponent
      split at exponent
      case isTrue gap =>
        obtain ⟨d, present, digit⟩ := inductionHypothesis later exponent
        rw [List.takeWhile_cons_of_pos (isDigitOrGap_iff.mpr (.inr gap))]
        exact ⟨d, List.mem_cons_of_mem _ present, digit⟩
      case isFalse =>
        split at exponent
        case isTrue sign =>
          have noSign : c.toNat ∉ signPoints :=
            Text.notMem_of_forall (by decide +kernel) first
          rcases sign with rfl | rfl <;> exact absurd (by decide) noSign
        case isFalse =>
          split at exponent
          case isTrue digit =>
            rw [List.takeWhile_cons_of_pos (isDigitOrGap_iff.mpr (.inl digit))]
            exact ⟨c, List.mem_cons_self, digit⟩
          case isFalse => cases exponent

/-- A text whose digits end early has the same base up to there. -/
theorem numberBase_of_append
    {base : Nat}
    {text digits taken rest : List Char}
    (found : numberBase text = (base, digits))
    (split : digits = taken ++ rest) :
    (base ≤ 10 ∨ base = 16) ∧
      ∃ token, text = token ++ rest ∧ numberBase token = (base, taken) ∧
        (base = 10 → token = taken) := by
  unfold numberBase at found
  split at found
  case h_1 =>
    cases found
    exact ⟨by decide, '0' :: 'x' :: taken, by rw [split]; rfl, rfl, nofun⟩
  case h_2 =>
    cases found
    exact ⟨by decide, '0' :: 'o' :: taken, by rw [split]; rfl, rfl, nofun⟩
  case h_3 =>
    cases found
    exact ⟨by decide, '0' :: 'b' :: taken, by rw [split]; rfl, rfl, nofun⟩
  case h_4 noHex noOctal noBinary =>
    cases found
    refine ⟨by decide, taken, split, ?_, fun _ => rfl⟩
    unfold numberBase
    split
    case h_1 => exact absurd split (noHex _)
    case h_2 => exact absurd split (noOctal _)
    case h_3 => exact absurd split (noBinary _)
    case h_4 => rfl

/-- A whole number with a suffix is a fraction only where the suffix is read as
an exponent. -/
theorem isFractionText_of_scanDigits?
    {base : Nat}
    {text digits suffix rest : List Char}
    (found : numberBase text = (base, digits))
    (scanned : scanDigits? base true digits = some (suffix ++ rest))
    (isSuffix : IsSuffix suffix) :
    ∃ token, text = token ++ rest ∧
      (readWhole? token = none →
        IsFractionText (readFloatDigits false token)) := by
  obtain ⟨run, split, isRun, ends, firstDigit⟩ :=
    exists_digits_of_scanDigits? scanned
  rw [← List.append_assoc] at split
  obtain ⟨isBase, token, rfl, tokenBase, isTaken⟩ :=
    numberBase_of_append found split
  refine ⟨token, rfl, ?_⟩
  intro noWhole
  unfold readWhole? at noWhole
  rw [tokenBase] at noWhole
  obtain ⟨value, behind⟩ := readWholeFrom?_append isRun 0 suffix
  have suffixEnds : ∀ c ∈ suffix.head?, ¬IsDigitIn base c := by
    cases suffix with
    | nil => nofun
    | cons c others => exact ends
  obtain ⟨rfl, mark, others, rfl, isMark, exponent⟩ :=
    of_readWholeFrom?_eq_none isSuffix isBase suffixEnds
      (behind.symm.trans noWhole)
  obtain rfl := isTaken rfl
  have row : IsRow run := by
    obtain ⟨c, present, noGap⟩ := firstDigit rfl rfl
    have inRun (d : Char) (inDigits : d ∈ run) : isDigitOrGap d = true :=
      isDigitOrGap_of_isDigitIn (isRun d inDigits)
    exact ⟨inRun, c, present,
      (isDigitOrGap_iff.mp (inRun c present)).resolve_right noGap⟩
  have exponentRow := isRow_of_hasExponent isSuffix.continues exponent
  have exponentEnds : ∀ c ∈ (others.dropWhile isDigitOrGap).head?,
      EndsDigits c := by
    intro c isHead
    apply endsDigits_of_continuesIdentifier _
      (head?_dropWhile_isDigitOrGap others c isHead)
    exact isSuffix.continues c
      (List.dropWhile_subset _ (List.mem_of_head? isHead))
  obtain ⟨isPower, some⟩ :=
    (IsExponent.plain exponentRow).readFloatDigits_cons isMark exponentEnds
  rw [List.takeWhile_append_dropWhile] at isPower some
  rw [readFloatDigits_append row.isRun]
  exact ⟨digitsOf run, [], _, isDigits_digitsOf run, .nothing, isPower,
    digitsOf_ne_nil row.valued, some, rfl⟩

/-! ## Tokens -/

theorem isFractionText_of_scanNumber?
    {text rest : List Char}
    (scanned : scanNumber? text = some rest)
    (noWhole : readWhole? (consumed text rest) = none) :
    IsFractionText (readFloatDigits false (consumed text rest)) := by
  unfold scanNumber? at scanned
  split at scanned
  case h_1 found =>
    obtain rfl := Option.some.inj scanned
    obtain ⟨after, digits, ended⟩ := Option.bind_eq_some_iff.mp found
    obtain ⟨suffix, rfl, isSuffix⟩ := exists_isSuffix_of_scanNumberEnd? ended
    obtain ⟨token, rfl, fraction⟩ :=
      isFractionText_of_scanFloatDigits? digits isSuffix
    rwa [consumed_append]
  case h_2 =>
    obtain ⟨after, digits, ended⟩ := Option.bind_eq_some_iff.mp scanned
    obtain ⟨suffix, rfl, isSuffix⟩ := exists_isSuffix_of_scanNumberEnd? ended
    obtain ⟨token, rfl, fraction⟩ :=
      isFractionText_of_scanDigits? rfl digits isSuffix
    rw [consumed_append] at noWhole ⊢
    exact fraction noWhole

/-- A token that denotes a number with a fraction is no whole number, and has
the digits of the token. -/
theorem of_ofToken_eq_float
    {token digits : String}
    (denotes : Literal.ofToken token = .float digits) :
    readWhole? token.toList = none ∧
      digits.toList = readFloatDigits false token.toList := by
  simp only [Literal.ofToken] at denotes
  repeat'
    split at denotes
    · cases denotes
  case h_2 noWhole =>
    cases denotes
    exact ⟨noWhole, String.toList_ofList⟩

/-- The characters that literals other than numbers begin with. -/
def literalMarks : List Char :=
  ['"', 'r', 'b', 'c', TokenTree.apostrophe]

theorem after?_eq_none
    {mark : String}
    {c : Char}
    {text : List Char}
    (isMark : mark.toList.head? ∈ literalMarks.map some)
    (noMark : c ∉ literalMarks) : after? mark (c :: text) = none := by
  obtain ⟨first, present, isFirst⟩ := List.mem_map.mp isMark
  obtain ⟨others, letters⟩ := List.head?_eq_some_iff.mp isFirst.symm
  have differs : first ≠ c := by
    rintro rfl
    exact noMark present
  simp [after?, letters, List.isPrefixOf?, differs]

/-- A literal that begins with no mark of another one is a number. -/
theorem scanNumber?_of_scanLiteral?
    {c : Char}
    {text rest : List Char}
    (scanned : scanLiteral? (c :: text) = some rest)
    (noMark : c ∉ literalMarks) : scanNumber? (c :: text) = some rest := by
  have noText : after? "\"" (c :: text) = none :=
    after?_eq_none (by decide) noMark
  have noRaw : after? "r" (c :: text) = none :=
    after?_eq_none (by decide) noMark
  have noBytes : after? "b\"" (c :: text) = none :=
    after?_eq_none (by decide) noMark
  have noRawBytes : after? "br" (c :: text) = none :=
    after?_eq_none (by decide) noMark
  have noTerminated : after? "c\"" (c :: text) = none :=
    after?_eq_none (by decide) noMark
  have noRawTerminated : after? "cr" (c :: text) = none :=
    after?_eq_none (by decide) noMark
  have noByte : after? "b\x27" (c :: text) = none :=
    after?_eq_none (by decide) noMark
  have noCharacter : after? "\x27" (c :: text) = none :=
    after?_eq_none (by decide) noMark
  unfold scanLiteral? literalScans scanCooked? scanSingle? at scanned
  simpa [noText, noRaw, noBytes, noRawBytes, noTerminated, noRawTerminated,
    noByte, noCharacter]
    using scanned

/-- A token that is read off a text as a literal. -/
def IsLiteralToken (token : String) : Prop :=
  ∃ text rest, scanLeaf? text = some (.literal token, rest)

/-- What denotes a number with a fraction begins with no mark of another
literal.  Behind `b` the next character tells a single byte from a row of
them. -/
theorem exists_cons_of_ofToken_eq_float
    {token digits : String}
    (denotes : Literal.ofToken token = .float digits) :
    token ≠ faultMark ∧ ∃ c rest, token.toList = c :: rest ∧
      c ∉ literalMarks := by
  unfold Literal.ofToken at denotes
  simp only at denotes
  constructor
  · intro isFault
    rw [if_pos isFault] at denotes
    cases denotes
  · cases letters : token.toList with
    | nil =>
        have isEmpty : token = "" := String.toList_eq_nil_iff.mp letters
        subst isEmpty
        cases denotes
    | cons c rest =>
        refine ⟨c, rest, rfl, ?_⟩
        intro isMark
        rw [letters] at denotes
        split at denotes
        case isTrue => cases denotes
        case isFalse =>
          simp only [literalMarks, List.mem_cons, List.not_mem_nil,
            or_false] at isMark
          rcases isMark with rfl | rfl | rfl | rfl | rfl
          all_goals simp [startsWith, TokenTree.apostrophe] at denotes
          split at denotes <;> cases denotes

/-- A literal of a text that denotes a number with a fraction is read off as a
number. -/
theorem IsLiteralToken.exists_scanNumber?_eq_some
    {token digits : String}
    (isLiteral : IsLiteralToken token)
    (denotes : Literal.ofToken token = .float digits) :
    ∃ text rest, scanNumber? text = some rest ∧
      token = String.ofList (consumed text rest) := by
  obtain ⟨text, rest, scanned⟩ := isLiteral
  obtain ⟨noFault, c, others, letters, noMark⟩ :=
    exists_cons_of_ofToken_eq_float denotes
  unfold scanLeaf? at scanned
  split at scanned
  case h_1 after found =>
    cases scanned
    refine ⟨text, rest, ?_, rfl⟩
    rw [String.toList_ofList] at letters
    rcases Option.or_eq_some_iff.mp found with number | ⟨-, fault⟩
    · cases text with
      | nil =>
          rw [consumed, List.take_nil] at letters
          cases letters
      | cons first behind =>
          have isFirst : first = c := by
            have head := congrArg List.head? letters
            rw [consumed, List.head?_take] at head
            split at head
            case isTrue => cases head
            case isFalse => exact Option.some.inj head
          exact scanNumber?_of_scanLiteral? number (isFirst ▸ noMark)
    · have split := List.isPrefixOf?_eq_some_iff_append_eq.mp fault
      apply absurd _ noFault
      rw [← split, consumed_append, String.ofList_toList]
  case h_2 =>
    split at scanned
    case h_1 result punct =>
      obtain rfl := Option.some.inj scanned
      obtain ⟨mark, joint, isPunct⟩ := exists_punct_of_scanPunct?_eq_some punct
      cases isPunct
    case h_2 =>
      split at scanned
      case isTrue => cases scanned
      case isFalse =>
        obtain ⟨word, found, equal⟩ := Option.map_eq_some_iff.mp scanned
        cases equal

/-- The digits of a number that is no whole one are those of a fraction. -/
theorem IsLiteralToken.isFractionText
    {token digits : String}
    (isLiteral : IsLiteralToken token)
    (denotes : Literal.ofToken token = .float digits) :
    IsFractionText digits.toList := by
  obtain ⟨text, rest, scanned, rfl⟩ :=
    isLiteral.exists_scanNumber?_eq_some denotes
  obtain ⟨noWhole, equal⟩ := of_ofToken_eq_float denotes
  rw [String.toList_ofList] at noWhole equal
  rw [equal]
  exact isFractionText_of_scanNumber? scanned noWhole

end Source
end PreferenceSchema
