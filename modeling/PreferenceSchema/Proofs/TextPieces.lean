import Mathlib.Data.List.DropRight
import Mathlib.Data.List.TakeWhile
import PreferenceSchema.Text.Blank
import PreferenceSchema.Text.Segment

/-!
# Pieces of texts

What is left of a text between its blanks, behind the last occurrence of a mark,
and between all occurrences of one.  Each of these is a part of the text, and
the whole text exactly when there is nothing to cut off.
-/

namespace PreferenceSchema
namespace Text

/-! ## Blanks -/

/-- Nothing is left of a text between its blanks exactly when it is all
blank. -/
theorem trim_eq_nil_iff
    {text : List Char} :
    trim text = [] ↔ ∀ c ∈ text, isBlank c = true := by
  have start (chars : List Char) : trimStart chars = [] ↔
      ∀ c ∈ chars, isBlank c = true :=
    List.dropWhile_eq_nil_iff
  have split : text.takeWhile isBlank ++ trimStart text = text :=
    List.takeWhile_append_dropWhile
  rw [trim, trimEnd, List.reverse_eq_nil_iff, start]
  constructor
  · intro blank c present
    rw [← split, List.mem_append] at present
    rcases present with front | rest
    · exact List.mem_takeWhile_imp front
    · exact blank c (List.mem_reverse.mpr rest)
  · intro blank c present
    exact blank c (List.dropWhile_subset _ (List.mem_reverse.mp present))

theorem trimStart_suffix (text : List Char) : trimStart text <:+ text :=
  List.dropWhile_suffix isBlank

theorem trimEnd_prefix_self (text : List Char) : trimEnd text <+: text :=
  List.rdropWhile_prefix isBlank text

theorem trim_infix_self (text : List Char) : trim text <:+: text :=
  (trimEnd_prefix_self _).isInfix.trans (trimStart_suffix text).isInfix

/-- Nothing is cut off in front exactly when the first character is not
blank. -/
theorem trimStart_eq_self_iff
    {text : List Char} :
    trimStart text = text ↔ ∀ c ∈ text.head?, isBlank c = false := by
  rw [trimStart, List.dropWhile_eq_self_iff]
  cases text <;> simp

/-- Nothing is cut off at the end exactly when the last character is not
blank. -/
theorem trimEnd_eq_self_iff
    {text : List Char} :
    trimEnd text = text ↔ ∀ c ∈ text.getLast?, isBlank c = false := by
  have reversed : trimEnd text = text ↔
      trimStart text.reverse = text.reverse := by
    rw [trimEnd, List.reverse_eq_iff]
  rw [reversed, trimStart_eq_self_iff, List.head?_reverse]

/-- A text begins with a blank. -/
def BeginsBlank (text : List Char) : Prop :=
  ∃ c ∈ text.head?, isBlank c = true

/-- A text ends in a blank. -/
def EndsBlank (text : List Char) : Prop :=
  ∃ c ∈ text.getLast?, isBlank c = true

/-- A text begins with a blank exactly if its start is cut. -/
theorem not_beginsBlank_iff
    {text : List Char} :
    ¬BeginsBlank text ↔ trimStart text = text := by
  rw [trimStart_eq_self_iff]
  simp [BeginsBlank]

/-- A text ends in a blank exactly if its end is cut. -/
theorem not_endsBlank_iff
    {text : List Char} :
    ¬EndsBlank text ↔ trimEnd text = text := by
  rw [trimEnd_eq_self_iff]
  simp [EndsBlank]

/-- What is cut off at the end does not depend on what stands in front. -/
theorem trimEnd_append_eq_self_iff
    {front text : List Char}
    (nonempty : text ≠ []) :
    trimEnd (front ++ text) = front ++ text ↔ trimEnd text = text := by
  rw [trimEnd_eq_self_iff, trimEnd_eq_self_iff,
    List.getLast?_append_of_ne_nil _ nonempty]

/-- Where a text ends in no blank, no end of it does. -/
theorem trimEnd_eq_self_of_suffix
    {text after : List Char}
    (isEnd : after <:+ text)
    (whole : trimEnd text = text) : trimEnd after = after := by
  obtain ⟨front, rfl⟩ := isEnd
  by_cases empty : after = []
  · rw [empty]
    rfl
  · exact (trimEnd_append_eq_self_iff empty).mp whole

/-- Nothing is cut off exactly when nothing is at either end. -/
theorem trim_eq_self_iff
    {text : List Char} :
    trim text = text ↔ trimStart text = text ∧ trimEnd text = text := by
  constructor
  · intro whole
    have front : trimStart text = text := by
      refine (trimStart_suffix text).eq_of_length_le ?_
      have shorter := (trimEnd_prefix_self (trimStart text)).length_le
      rw [← trim, whole] at shorter
      exact shorter
    rw [trim, front] at whole
    exact ⟨front, whole⟩
  · rintro ⟨front, back⟩
    rw [trim, front, back]

theorem trimStart_trimStart
    (text : List Char) :
    trimStart (trimStart text) = trimStart text :=
  List.dropWhile_idempotent isBlank text

/-- Nothing more is cut off of what is left between the blanks. -/
theorem trim_trim (text : List Char) : trim (trim text) = trim text := by
  rw [trim_eq_self_iff]
  constructor
  · rw [trimStart_eq_self_iff]
    intro c first
    obtain ⟨rest, split⟩ : trim text <+: trimStart text := trimEnd_prefix_self _
    have notEmpty : trim text ≠ [] :=
      List.ne_nil_of_mem (List.mem_of_head? first)
    refine trimStart_eq_self_iff.mp (trimStart_trimStart text) c ?_
    rw [← split, List.head?_append_of_ne_nil _ notEmpty]
    exact first
  · rw [trim, trimEnd, trimEnd, List.reverse_reverse, trimStart_trimStart]

/-- A text without blanks has none to cut off. -/
theorem trim_compact
    (text : List Char) :
    trim (compact text) = compact text := by
  rw [trim_eq_self_iff, trimStart_eq_self_iff, trimEnd_eq_self_iff]
  exact ⟨fun c first => not_isBlank_of_mem_compact (List.mem_of_head? first),
    fun c last => not_isBlank_of_mem_compact (List.mem_of_getLast? last)⟩

/-- A text none of whose characters is blank has none at its ends. -/
theorem trim_eq_self_of_forall
    {text : List Char}
    (solid : ∀ c ∈ text, isBlank c = false) : trim text = text := by
  have compacted : compact text = text :=
    List.filter_eq_self.mpr fun c present => by simp [solid c present]
  rw [← compacted, trim_compact]

/-- Blanks around a text change nothing in what is left between them. -/
theorem trim_append_append_of_blank
    {before after : List Char}
    (blankBefore : ∀ c ∈ before, isBlank c = true)
    (blankAfter : ∀ c ∈ after, isBlank c = true)
    (text : List Char) : trim (before ++ text ++ after) = trim text := by
  have front : trimStart (before ++ text ++ after) =
      trimStart (text ++ after) := by
    rw [List.append_assoc]
    exact List.dropWhile_append_of_pos blankBefore
  have back (chars : List Char) : trimEnd (chars ++ after) = trimEnd chars := by
    rw [trimEnd, trimEnd, List.reverse_append]
    congr 1
    exact List.dropWhile_append_of_pos fun c present =>
      blankAfter c (List.mem_reverse.mp present)
  rw [trim, trim, front, trimStart, List.dropWhile_append]
  split
  case isTrue empty =>
    have allBlank : trimStart text = [] := List.isEmpty_iff.mp empty
    have noneLeft : List.dropWhile isBlank after = [] :=
      List.dropWhile_eq_nil_iff.mpr blankAfter
    rw [allBlank, noneLeft]
  case isFalse => exact back (trimStart text)

theorem trimEnd_cons_eq_self
    {text : List Char}
    {c : Char}
    (solid : isBlank c = false)
    (whole : trimEnd text = text) : trimEnd (c :: text) = c :: text := by
  rw [trimEnd_eq_self_iff] at whole ⊢
  cases text with
  | nil => simpa using solid
  | cons d rest => simpa using whole

/-- An end of a text that begins and ends with no blank is an end of what is
left. -/
theorem suffix_trim
    {text after : List Char}
    {c : Char}
    (isEnd : c :: after <:+ text)
    (solid : isBlank c = false)
    (whole : trimEnd after = after) : c :: after <:+ trim text := by
  have start : c :: after <:+ trimStart text := by
    induction text with
    | nil => simp at isEnd
    | cons d rest inductionHypothesis =>
        rcases List.suffix_cons_iff.mp isEnd with whole | later
        · obtain ⟨rfl, rfl⟩ := List.cons.inj whole
          have unchanged : trimStart (c :: after) = c :: after :=
            trimStart_eq_self_iff.mpr (by simpa using solid)
          exact ⟨[], unchanged.symm⟩
        · rw [trimStart, List.dropWhile_cons]
          split
          · exact inductionHypothesis later
          · exact isEnd
  obtain ⟨before, split⟩ := start
  have ends : trimEnd (trimStart text) = trimStart text := by
    rw [← split, trimEnd_append_eq_self_iff (List.cons_ne_nil _ _)]
    exact trimEnd_cons_eq_self solid whole
  rw [trim, ends]
  exact ⟨before, split⟩

/-! ## The last piece -/

/-- A mark none of whose characters is in front occurs in the rest only. -/
theorem infix_append_iff_of_apart
    {mark front text : List Char}
    (apart : ∀ c ∈ mark, c ∉ front) :
    mark <:+: front ++ text ↔ mark <:+: text := by
  constructor
  · intro occurs
    rcases List.infix_append_iff.mp occurs with
      inFront | inText | ⟨left, right, rfl, isLeft, isRight⟩
    · have empty : mark = [] := List.eq_nil_iff_forall_not_mem.mpr
          fun c present =>
        apart c present (inFront.subset present)
      exact empty ▸ List.nil_infix
    · exact inText
    · have empty : left = [] := List.eq_nil_iff_forall_not_mem.mpr
          fun c present =>
        apart c (List.mem_append_left _ present) (isLeft.subset present)
      rw [empty]
      exact isRight.isInfix
  · intro occurs
    exact occurs.trans (List.suffix_append front text).isInfix

/-- An end that begins with a character that is not in front is an end of the
rest. -/
theorem cons_suffix_append_iff
    {front text after : List Char}
    {c : Char}
    (apart : c ∉ front) :
    c :: after <:+ front ++ text ↔ c :: after <:+ text := by
  induction front with
  | nil => rfl
  | cons d others inductionHypothesis =>
      rw [List.mem_cons, not_or] at apart
      rw [List.cons_append, List.suffix_cons_iff, inductionHypothesis apart.2]
      refine or_iff_right ?_
      intro whole
      exact apart.1 (List.cons.inj whole).1

/-- An end without the character in front of the rest is an end of the rest. -/
theorem suffix_append_cons_iff
    {front text after : List Char}
    {c : Char}
    (absent : c ∉ after) : after <:+ front ++ c :: text ↔ after <:+ text := by
  have behind : c :: text <:+ front ++ c :: text := List.suffix_append front _
  constructor
  · intro isEnd
    rcases List.suffix_or_suffix_of_suffix isEnd behind with shorter | longer
    · rcases List.suffix_cons_iff.mp shorter with whole | later
      · exact absurd (whole ▸ List.mem_cons_self) absent
      · exact later
    · exact absurd (longer.subset List.mem_cons_self) absent
  · intro isEnd
    exact (isEnd.trans (List.suffix_cons c text)).trans behind

theorem isPrefixOf?_eq_none_iff
    {mark text : List Char} :
    mark.isPrefixOf? text = none ↔ ¬mark <+: text := by
  rw [Option.eq_none_iff_forall_ne_some]
  simp only [ne_eq, List.isPrefixOf?_eq_some_iff_append_eq]
  constructor
  · rintro absent ⟨rest, split⟩
    exact absent rest split
  · intro absent rest split
    exact absent ⟨rest, split⟩

theorem afterLast?_eq_none_iff
    {mark text : List Char}
    (nonempty : mark ≠ []) :
    afterLast? mark text = none ↔ ¬mark <:+: text := by
  induction text with
  | nil => simp [afterLast?, nonempty]
  | cons c rest inductionHypothesis =>
      rw [afterLast?, Option.or_eq_none_iff, inductionHypothesis,
        isPrefixOf?_eq_none_iff, List.infix_cons_iff, not_or, and_comm]

/-- What follows the last occurrence of a mark is the end of the text, and the
mark does not occur there. -/
theorem afterLast?_eq_some
    {mark text after : List Char}
    (nonempty : mark ≠ [])
    (found : afterLast? mark text = some after) :
    mark ++ after <:+ text ∧ ¬mark <:+: after := by
  induction text with
  | nil => cases found
  | cons c rest inductionHypothesis =>
      rw [afterLast?, Option.or_eq_some_iff] at found
      rcases found with later | ⟨absent, atStart⟩
      · obtain ⟨isEnd, noFurther⟩ := inductionHypothesis later
        exact ⟨isEnd.trans (List.suffix_cons c rest), noFurther⟩
      · have split := List.isPrefixOf?_eq_some_iff_append_eq.mp atStart
        refine ⟨split ▸ List.suffix_rfl, ?_⟩
        intro occurs
        obtain ⟨first, others, rfl⟩ := List.exists_cons_of_ne_nil nonempty
        rw [List.cons_append, List.cons.injEq] at split
        apply (afterLast?_eq_none_iff nonempty).mp absent
        exact occurs.trans (split.2 ▸ (List.suffix_append others after).isInfix)

theorem afterLast_eq_self
    {mark text : List Char}
    (nonempty : mark ≠ [])
    (absent : ¬mark <:+: text) : afterLast mark text = text := by
  rw [afterLast, (afterLast?_eq_none_iff nonempty).mpr absent]
  rfl

theorem afterLast_suffix
    {mark text : List Char}
    (nonempty : mark ≠ []) : afterLast mark text <:+ text := by
  rw [afterLast]
  cases found : afterLast? mark text with
  | none => exact List.suffix_rfl
  | some after =>
    exact (List.suffix_append _ _).trans (afterLast?_eq_some nonempty found).1

theorem not_infix_afterLast
    {mark text : List Char}
    (nonempty : mark ≠ []) : ¬mark <:+: afterLast mark text := by
  rw [afterLast]
  cases found : afterLast? mark text with
  | none => exact (afterLast?_eq_none_iff nonempty).mp found
  | some after => exact (afterLast?_eq_some nonempty found).2

theorem afterLast_eq_self_or_suffix
    {mark : List Char}
    (nonempty : mark ≠ [])
    (text : List Char) :
    afterLast mark text = text ∨ mark ++ afterLast mark text <:+ text := by
  rw [afterLast]
  cases found : afterLast? mark text with
  | none => exact .inl rfl
  | some after => exact .inr (afterLast?_eq_some nonempty found).1

/-- What follows an occurrence of a mark behind which there is no other one. -/
theorem afterLast_of_suffix
    {text others after : List Char}
    {first : Char}
    (isEnd : first :: others ++ after <:+ text)
    (noFurther : ¬first :: others <:+: others ++ after) :
    afterLast (first :: others) text = after := by
  have nonempty : first :: others ≠ [] := List.cons_ne_nil _ _
  have found : afterLast? (first :: others) text = some after := by
    induction text with
    | nil => simp at isEnd
    | cons c rest inductionHypothesis =>
        rw [afterLast?]
        rcases List.suffix_cons_iff.mp isEnd with whole | later
        · have behind : rest = others ++ after := (List.cons.inj whole).2.symm
          rw [← whole, List.isPrefixOf?_eq_some_iff_append_eq.mpr rfl, behind,
            (afterLast?_eq_none_iff nonempty).mpr noFurther, Option.none_or]
        · rw [inductionHypothesis later, Option.some_or]
  rw [afterLast, found, Option.getD_some]

/-- An end of a text in which a mark does not occur, and which begins with none
of its characters, is an end of what follows the mark. -/
theorem suffix_afterLast
    {mark text after : List Char}
    {c : Char}
    (isEnd : c :: after <:+ text)
    (apart : c ∉ mark)
    (absent : ¬mark <:+: c :: after) : c :: after <:+ afterLast mark text := by
  have nonempty : mark ≠ [] := fun empty => absent (empty ▸ List.nil_infix)
  rcases afterLast_eq_self_or_suffix nonempty text with whole | behind
  · rw [whole]
    exact isEnd
  · rcases List.suffix_or_suffix_of_suffix isEnd behind with shorter | longer
    · exact (cons_suffix_append_iff apart).mp shorter
    · exact absurd ((List.prefix_append mark _).isInfix.trans longer.isInfix)
        absent

/-! ## All pieces -/

/-- A text without the mark is one piece. -/
theorem splitAt_eq_singleton
    {mark : Char}
    {text : List Char}
    (absent : mark ∉ text) : splitAt mark text = [text] := by
  induction text with
  | nil => rfl
  | cons c rest inductionHypothesis =>
      rw [List.mem_cons, not_or] at absent
      rw [splitAt, if_neg (Ne.symm absent.1), inductionHypothesis absent.2]

/-- The first piece ends at the first mark. -/
theorem splitAt_append_cons
    {mark : Char}
    {front : List Char}
    (absent : mark ∉ front)
    (text : List Char) :
    splitAt mark (front ++ mark :: text) = front :: splitAt mark text := by
  induction front with
  | nil => rw [List.nil_append, splitAt, if_pos rfl]
  | cons c others inductionHypothesis =>
      rw [List.mem_cons, not_or] at absent
      rw [List.cons_append, splitAt, if_neg (Ne.symm absent.1),
        inductionHypothesis absent.2]

/-- Pieces without the mark that are joined by it are got back. -/
theorem splitAt_intercalate
    {mark : Char}
    {pieces : List (List Char)}
    (nonempty : pieces ≠ [])
    (absent : ∀ piece ∈ pieces, mark ∉ piece) :
    splitAt mark ([mark].intercalate pieces) = pieces := by
  induction pieces with
  | nil => exact absurd rfl nonempty
  | cons first rest inductionHypothesis =>
      obtain ⟨firstAbsent, restAbsent⟩ := List.forall_mem_cons.mp absent
      cases rest with
      | nil =>
          rw [List.intercalate_singleton]
          exact splitAt_eq_singleton firstAbsent
      | cons second others =>
          rw [List.intercalate_cons_cons, List.append_assoc,
            List.singleton_append, splitAt_append_cons firstAbsent,
            inductionHypothesis (List.cons_ne_nil second others) restAbsent]

/-- The first piece is the start of the text. -/
theorem prefix_of_splitAt_eq_cons
    {mark : Char}
    {text piece : List Char}
    {pieces : List (List Char)}
    (split : splitAt mark text = piece :: pieces) : piece <+: text := by
  induction text generalizing piece pieces with
  | nil =>
      obtain ⟨rfl, -⟩ := List.cons.inj split
      exact List.prefix_rfl
  | cons c rest inductionHypothesis =>
      unfold splitAt at split
      split at split
      case isTrue =>
        obtain ⟨rfl, -⟩ := List.cons.inj split
        exact List.nil_prefix
      case isFalse =>
        split at split
        case h_1 none => exact absurd none (splitAt_ne_nil mark rest)
        case h_2 first others restSplit =>
          obtain ⟨rfl, -⟩ := List.cons.inj split
          exact List.cons_prefix_cons.mpr ⟨rfl, inductionHypothesis restSplit⟩

/-- The mark is in no piece, and every piece is a part of the text. -/
theorem of_mem_splitAt
    {mark : Char}
    {text piece : List Char}
    (present : piece ∈ splitAt mark text) : mark ∉ piece ∧ piece <:+: text := by
  induction text generalizing piece with
  | nil =>
      obtain rfl := List.mem_singleton.mp present
      exact ⟨List.not_mem_nil, List.infix_rfl⟩
  | cons c rest inductionHypothesis =>
      unfold splitAt at present
      split at present
      case isTrue =>
        rcases List.mem_cons.mp present with rfl | later
        · exact ⟨List.not_mem_nil, List.nil_infix⟩
        · obtain ⟨noMark, isPart⟩ := inductionHypothesis later
          exact ⟨noMark, isPart.trans (List.suffix_cons c rest).isInfix⟩
      case isFalse different =>
        split at present
        case h_1 none => exact absurd none (splitAt_ne_nil mark rest)
        case h_2 first others restSplit =>
          rw [restSplit] at inductionHypothesis
          rcases List.mem_cons.mp present with rfl | later
          · obtain ⟨noMark, -⟩ := inductionHypothesis List.mem_cons_self
            have isStart : first <+: rest := prefix_of_splitAt_eq_cons restSplit
            refine ⟨?_, (List.cons_prefix_cons.mpr ⟨rfl, isStart⟩).isInfix⟩
            rw [List.mem_cons, not_or]
            exact ⟨Ne.symm different, noMark⟩
          · obtain ⟨noMark, isPart⟩ :=
              inductionHypothesis (List.mem_cons_of_mem _ later)
            exact ⟨noMark, isPart.trans (List.suffix_cons c rest).isInfix⟩

end Text
end PreferenceSchema
