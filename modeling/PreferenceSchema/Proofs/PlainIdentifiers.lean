import PreferenceSchema.Proofs.LowerCase
import PreferenceSchema.Text.Identifier

/-!
# Plain identifiers

An identifier that any language takes for one: a letter or an underscore, and
then letters, digits and underscores, all of ASCII.  Within ASCII these are all
identifiers, and they stay such when they are joined or put into lower case.
-/

namespace PreferenceSchema

namespace Text

/-- Whether a plain identifier may begin with the character. -/
def startsPlain (c : Char) : Bool :=
  c.isAlpha || c == '_'

/-- Whether a plain identifier may go on with the character. -/
def continuesPlain (c : Char) : Bool :=
  c.isAlphanum || c == '_'

/-- Whether a text is a plain identifier: a letter or an underscore, and then
letters, digits and underscores, all of ASCII. -/
def isPlainIdentifier : List Char → Bool
  | [] => false
  | c :: rest => startsPlain c && rest.all continuesPlain

/-- All characters of a text are of ASCII. -/
def IsAscii (text : List Char) : Prop :=
  ∀ c ∈ text, c.toNat < 0x80

/-- A property of all characters of ASCII, by their code points. -/
theorem forall_ascii
    (property : Char → Prop)
    (holds : ∀ point < 0x80, property (Char.ofNat point))
    {c : Char}
    (ascii : c.toNat < 0x80) : property c := by
  have atPoint := holds c.toNat ascii
  rwa [Char.ofNat_toNat] at atPoint

theorem toNat_lt_of_continuesPlain
    {c : Char}
    (continues : continuesPlain c = true) : c.toNat < 0x80 := by
  have alpha : c.isAlpha = (c.isUpper || c.isLower) := rfl
  have upper : c.isUpper = decide ('A'.val ≤ c.val ∧ c.val ≤ 'Z'.val) := rfl
  have lower : c.isLower =
      (decide ('a'.val ≤ c.val) && decide (c.val ≤ 'z'.val)) := rfl
  simp only [continuesPlain, Char.isAlphanum, Char.isDigit, alpha, upper, lower,
    Bool.or_eq_true, Bool.and_eq_true, decide_eq_true_eq, beq_iff_eq, ge_iff_le,
    UInt32.le_iff_toNat_le] at continues
  obtain alphanumeric | rfl := continues
  · have code : c.toNat = c.val.toNat := rfl
    have lastUpper : 'Z'.val.toNat = 90 := rfl
    have lastLower : 'z'.val.toNat = 122 := rfl
    have lastDigit : '9'.val.toNat = 57 := rfl
    omega
  · decide

theorem continuesPlain_of_startsPlain
    {c : Char}
    (starts : startsPlain c = true) : continuesPlain c = true := by
  simp only [startsPlain, continuesPlain, Char.isAlphanum,
    Bool.or_eq_true] at starts ⊢
  tauto

/-- A plain identifier has plain characters only. -/
theorem continuesPlain_of_mem
    {text : List Char}
    (plain : isPlainIdentifier text = true)
    {c : Char}
    (present : c ∈ text) : continuesPlain c = true := by
  cases text with
  | nil => cases present
  | cons first rest =>
      rw [isPlainIdentifier, Bool.and_eq_true, List.all_eq_true] at plain
      obtain rfl | later := List.mem_cons.mp present
      · exact continuesPlain_of_startsPlain plain.1
      · exact plain.2 c later

/-- Within ASCII all identifiers are plain. -/
theorem isPlainIdentifier_of_isIdentifier
    {text : List Char}
    (ascii : IsAscii text)
    (identifier : isIdentifier text = true) :
    isPlainIdentifier text = true := by
  cases text with
  | nil => cases identifier
  | cons first rest =>
      obtain ⟨firstAscii, restAscii⟩ := List.forall_mem_cons.mp ascii
      rw [isIdentifier, Bool.and_eq_true, List.all_eq_true, startsIdentifier,
        if_pos firstAscii]
        at identifier
      rw [isPlainIdentifier, Bool.and_eq_true, List.all_eq_true]
      refine ⟨identifier.1, fun c present => ?_⟩
      have continues := identifier.2 c present
      rwa [continuesIdentifier, if_pos (restAscii c present)] at continues

/-- Plain identifiers can be put together. -/
theorem isPlainIdentifier_append
    {first second : List Char}
    (firstPlain : isPlainIdentifier first = true)
    (secondPlain : isPlainIdentifier second = true) :
    isPlainIdentifier (first ++ second) = true := by
  cases first with
  | nil => cases firstPlain
  | cons c rest =>
      rw [isPlainIdentifier, Bool.and_eq_true, List.all_eq_true] at firstPlain
      rw [List.cons_append, isPlainIdentifier, Bool.and_eq_true,
        List.all_eq_true]
      refine ⟨firstPlain.1, List.forall_mem_append.mpr ⟨firstPlain.2, ?_⟩⟩
      exact fun d present => continuesPlain_of_mem secondPlain present

/-! ## Lower case -/

theorem lowerChar_of_ascii
    {c : Char}
    (ascii : c.toNat < 0x80) : c ≠ capitalSigma ∧ lowerChar c = [c.toLower] :=
  forall_ascii (fun c => c ≠ capitalSigma ∧ lowerChar c = [c.toLower])
    (by decide +kernel) ascii

/-- ASCII text is put in lower case character by character, whatever stands in
front of it. -/
theorem lowerAfter_of_ascii
    {text : List Char}
    (ascii : IsAscii text)
    (before : List Char) : lowerAfter before text = text.map Char.toLower := by
  induction text generalizing before with
  | nil => rfl
  | cons c rest inductionHypothesis =>
      obtain ⟨firstAscii, restAscii⟩ := List.forall_mem_cons.mp ascii
      obtain ⟨notSigma, lowered⟩ := lowerChar_of_ascii firstAscii
      rw [lowerAfter, if_neg notSigma, lowered, inductionHypothesis restAscii]
      rfl

theorem continuesPlain_toLower
    {c : Char}
    (continues : continuesPlain c = true) : continuesPlain c.toLower = true :=
  forall_ascii (fun c => continuesPlain c = true →
    continuesPlain c.toLower = true)
    (by decide +kernel) (toNat_lt_of_continuesPlain continues) continues

theorem startsPlain_toLower
    {c : Char}
    (starts : startsPlain c = true) : startsPlain c.toLower = true :=
  forall_ascii (fun c => startsPlain c = true → startsPlain c.toLower = true)
    (by decide +kernel)
      (toNat_lt_of_continuesPlain (continuesPlain_of_startsPlain starts)) starts

/-- The lower case of a plain identifier is a plain identifier. -/
theorem isPlainIdentifier_lower
    {text : List Char}
    (plain : isPlainIdentifier text = true) :
    isPlainIdentifier (lower text) = true := by
  have ascii : IsAscii text := fun c present =>
    toNat_lt_of_continuesPlain (continuesPlain_of_mem plain present)
  rw [lower, lowerAfter_of_ascii ascii]
  cases text with
  | nil => cases plain
  | cons c rest =>
      rw [isPlainIdentifier, Bool.and_eq_true, List.all_eq_true] at plain
      rw [List.map_cons, isPlainIdentifier, Bool.and_eq_true, List.all_map,
        List.all_eq_true]
      exact ⟨startsPlain_toLower plain.1,
        fun d present => continuesPlain_toLower (plain.2 d present)⟩

end Text

/-- A name that is a plain identifier. -/
def IsPlain (name : String) : Prop :=
  Text.isPlainIdentifier name.toList = true

instance (name : String) : Decidable (IsPlain name) :=
  inferInstanceAs (Decidable (_ = true))

theorem isPlain_lowerCase
    {key : String}
    (plain : IsPlain key) : IsPlain (lowerCase key) := by
  rw [IsPlain, lowerCase, String.toList_ofList]
  exact Text.isPlainIdentifier_lower plain

end PreferenceSchema
