import PreferenceSchema.Text.Quoted

/-!
# Reading quoted text

What stands between quotes is given by a grammar, in which a backslash stands in
front of five marks and nothing else.  A quoted text is read back together with
what follows it, whatever that is: the closing quote is the first one that no
backslash marks.  So two texts that begin with quoted texts are equal only where
these are and what follows them is.
-/

namespace PreferenceSchema
namespace Text

/-! ## Marks -/

/-- The marks that stand behind a backslash, each with the character that it
stands for. -/
def escapes : List (Char × Char) :=
  [('"', '"'), ('\\', '\\'), ('n', '\n'), ('r', '\r'), ('t', '\t')]

/-- The mark that a character is written with stands in the table of marks. -/
theorem escapeMark?_eq_some_iff
    {c mark : Char} :
    escapeMark? c = some mark ↔ (mark, c) ∈ escapes := by
  unfold escapeMark? escapes
  grind

theorem escapeMark?_eq_none_iff
    {c : Char} :
    escapeMark? c = none ↔ c ∉ escapes.map Prod.snd := by
  unfold escapeMark? escapes
  grind

/-- A mark is read as the character of the table that is written with it. -/
theorem unescapeMark?_eq_some_iff
    {c mark : Char} :
    unescapeMark? mark = some c ↔ (mark, c) ∈ escapes := by
  unfold unescapeMark? escapes
  grind

/-! ## What stands between quotes -/

/-- `Spells body text` says that `body` stands between quotes for `text`: a
character without a mark for itself, and a backslash with a mark for the
character of the mark. -/
inductive Spells : List Char → List Char → Prop where
  | nothing : Spells [] []
  | plain {c : Char} {body text : List Char} :
      c ∉ escapes.map Prod.snd → Spells body text →
        Spells (c :: body) (c :: text)
  | escaped {mark c : Char} {body text : List Char} :
      (mark, c) ∈ escapes → Spells body text →
        Spells ('\\' :: mark :: body) (c :: text)

/-- A text is spelled by its characters, escaped one by one. -/
theorem spells_flatMap_escape
    (text : List Char) :
    Spells (text.flatMap escape) text := by
  induction text with
  | nil => exact .nothing
  | cons c rest inductionHypothesis =>
      rw [List.flatMap_cons, escape]
      split
      case h_1 mark written =>
        exact .escaped (escapeMark?_eq_some_iff.mp written) inductionHypothesis
      case h_2 plain =>
        exact .plain (escapeMark?_eq_none_iff.mp plain) inductionHypothesis

/-- A character that has a mark and is none does not stand between quotes. -/
theorem Spells.notMem
    {body text : List Char}
    (spells : Spells body text)
    {c : Char}
    (marked : c ∈ escapes.map Prod.snd)
    (noMark : c ∉ escapes.map Prod.fst) : c ∉ body := by
  have notBackslash : c ≠ '\\' := by
    rintro rfl
    exact noMark (by decide)
  induction spells with
  | nothing => exact List.not_mem_nil
  | plain unmarked _ inductionHypothesis =>
      have different : c ≠ _ := ne_of_mem_of_not_mem marked unmarked
      exact List.not_mem_cons_of_ne_of_not_mem different inductionHypothesis
  | escaped present _ inductionHypothesis =>
      have isMark := List.mem_map_of_mem (f := Prod.fst) present
      have different : c ≠ _ := (ne_of_mem_of_not_mem isMark noMark).symm
      exact List.not_mem_cons_of_ne_of_not_mem notBackslash
        (List.not_mem_cons_of_ne_of_not_mem different inductionHypothesis)

/-! ## Reading -/

theorem unquoteTail?_backslash
    {c mark : Char}
    {rest text after : List Char}
    (marked : (mark, c) ∈ escapes)
    (read : unquoteTail? rest = some (text, after)) :
    unquoteTail? ('\\' :: mark :: rest) = some (c :: text, after) := by
  simp [unquoteTail?, unescapeMark?_eq_some_iff.mpr marked, read]

theorem unquoteTail?_plain
    {c : Char}
    {rest text after : List Char}
    (unmarked : c ∉ escapes.map Prod.snd)
    (read : unquoteTail? rest = some (text, after)) :
    unquoteTail? (c :: rest) = some (c :: text, after) := by
  have notQuote : c ≠ '"' := (ne_of_mem_of_not_mem (by decide) unmarked).symm
  have notBackslash : c ≠ '\\' :=
    (ne_of_mem_of_not_mem (by decide) unmarked).symm
  rw [unquoteTail?]
  · simp [notQuote, escapeMark?_eq_none_iff.mpr unmarked, read]
  · intro _ _ isBackslash
    exact absurd isBackslash notBackslash

/-- What is spelled is read up to the closing quote, whatever follows. -/
theorem Spells.unquoteTail?_append
    {body text : List Char}
    (spells : Spells body text)
    (after : List Char) :
    unquoteTail? (body ++ '"' :: after) = some (text, after) := by
  induction spells with
  | nothing => rfl
  | plain unmarked _ inductionHypothesis =>
    exact unquoteTail?_plain unmarked inductionHypothesis
  | escaped marked _ inductionHypothesis =>
    exact unquoteTail?_backslash marked inductionHypothesis

/-- Nothing is read but what is spelled. -/
theorem exists_spells_of_unquoteTail?
    {input text after : List Char}
    (read : unquoteTail? input = some (text, after)) :
    ∃ body, Spells body text ∧ input = body ++ '"' :: after := by
  fun_induction unquoteTail? input generalizing text with
  | case1 => cases read
  | case2 mark rest c inner innerAfter readRest marked inductionHypothesis =>
      obtain ⟨rfl, rfl⟩ := Prod.mk.inj (Option.some.inj read)
      obtain ⟨body, spells, rfl⟩ := inductionHypothesis readRest
      exact ⟨_, .escaped (unescapeMark?_eq_some_iff.mp marked) spells, rfl⟩
  | case3 => cases read
  | case4 =>
      obtain ⟨rfl, rfl⟩ := Prod.mk.inj (Option.some.inj read)
      exact ⟨[], .nothing, rfl⟩
  | case5 => cases read
  | case6 c rest _ _ unmarked inductionHypothesis =>
      obtain ⟨⟨inner, innerAfter⟩, readRest, equal⟩ :=
        Option.map_eq_some_iff.mp read
      obtain ⟨rfl, rfl⟩ := Prod.mk.inj equal
      obtain ⟨body, spells, rfl⟩ := inductionHypothesis readRest
      rw [Option.not_isSome_iff_eq_none, escapeMark?_eq_none_iff] at unmarked
      exact ⟨_, .plain unmarked spells, rfl⟩

/-- What is read as a quoted text is what the grammar spells, between quotes. -/
theorem unquote?_eq_some_iff
    {input text after : List Char} :
    unquote? input = some (text, after) ↔
      ∃ body, Spells body text ∧ input = '"' :: body ++ '"' :: after := by
  constructor
  · intro read
    unfold unquote? at read
    split at read
    case h_1 rest =>
      obtain ⟨body, spells, rfl⟩ := exists_spells_of_unquoteTail? read
      exact ⟨body, spells, rfl⟩
    case h_2 => cases read
  · rintro ⟨body, spells, rfl⟩
    exact spells.unquoteTail?_append after

/-- A quoted text is read back, and so is what follows it. -/
theorem unquote?_quote_append
    (text after : List Char) :
    unquote? (quote text ++ after) = some (text, after) := by
  apply unquote?_eq_some_iff.mpr
  exact ⟨text.flatMap escape, spells_flatMap_escape text, by simp [quote]⟩

/-- A quoted text tells where it ends. -/
theorem quote_append_inj
    {first second firstAfter secondAfter : List Char}
    (equal : quote first ++ firstAfter = quote second ++ secondAfter) :
    first = second ∧ firstAfter = secondAfter := by
  have read := unquote?_quote_append first firstAfter
  rw [equal, unquote?_quote_append] at read
  exact Prod.mk.inj (Option.some.inj read.symm)

theorem quote_injective : Function.Injective quote := by
  intro first second equal
  exact (quote_append_inj (congrArg (· ++ []) equal)).1

end Text
end PreferenceSchema
