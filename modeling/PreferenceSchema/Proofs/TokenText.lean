import PreferenceSchema.Proofs.TypeNames
import PreferenceSchema.Source.Tree

/-!
# Texts of tokens without blanks

The text of some tokens without blanks is the text of one token after the other.
A closing bracket ends the text of a group, and the name of its last segment
that of a path, unless the segment has arguments.
-/

namespace PreferenceSchema
namespace Source

open Text

/-! ## Tokens -/

/-- The text of some tokens without blanks. -/
def compactText (tokens : List TokenTree) : List Char :=
  compact (TokenTree.listChars tokens)

theorem compactText_eq_flatMap
    (tokens : List TokenTree) :
    compactText tokens = tokens.flatMap fun tree => compact tree.chars := by
  induction tokens with
  | nil => rfl
  | cons tree rest inductionHypothesis =>
      rw [List.flatMap_cons, ← inductionHypothesis, compactText, compactText]
      cases rest with
      | nil => simp [TokenTree.listChars, compact]
      | cons next others =>
          have noSpace : compact (if tree.isJoint then [] else [' ']) = [] := by
            split <;> decide
          rw [TokenTree.listChars, compact, List.filter_append,
            List.filter_append, ← compact, ← compact, ← compact, noSpace,
            List.append_nil]

/-- The text of tokens without blanks is put together from that of its parts. -/
@[simp] theorem compactText_append
    (first second : List TokenTree) :
    compactText (first ++ second) =
      compactText first ++ compactText second := by
  simp only [compactText_eq_flatMap, List.flatMap_append]

@[simp] theorem compactText_cons
    (tree : TokenTree)
    (rest : List TokenTree) :
    compactText (tree :: rest) = compact tree.chars ++ compactText rest := by
  simp only [compactText_eq_flatMap, List.flatMap_cons]

/-- The characters of a group end in its closing bracket. -/
theorem exists_chars_group
    (delimiter : Delimiter)
    (content : List TokenTree) :
    ∃ inside, (TokenTree.group delimiter content).chars =
      inside ++ [delimiter.closing] := by
  cases delimiter with
  | parenthesis =>
      exact ⟨'(' :: TokenTree.listChars content,
        by simp [TokenTree.chars, Delimiter.opening]⟩
  | bracket =>
      exact ⟨'[' :: TokenTree.listChars content,
        by simp [TokenTree.chars, Delimiter.opening]⟩
  | brace =>
      cases content with
      | nil => exact ⟨['\x7b', ' '],
        by simp [TokenTree.chars, Delimiter.closing]⟩
      | cons tree rest =>
          exact ⟨'\x7b' :: ' ' :: (TokenTree.listChars (tree :: rest) ++ [' ']),
            by simp [TokenTree.chars, Delimiter.closing]⟩

/-- The text of tokens that end in a group ends in its closing bracket. -/
theorem getLast?_compactText_group
    (before : List TokenTree)
    (delimiter : Delimiter)
    (content : List TokenTree) :
    (compactText (before ++ [.group delimiter content])).getLast? =
      some delimiter.closing := by
  obtain ⟨inside, chars⟩ := exists_chars_group delimiter content
  have solid : isBlank delimiter.closing = false := by
    cases delimiter <;> decide
  rw [compactText_append, compactText_cons, chars]
  simp [compact, solid, compactText, TokenTree.listChars]

/-! ## Words and paths -/

/-- A name as a word of the source is: without blanks and without the signs that
separate names or stand in front of a type. -/
def IsWord (name : String) : Prop :=
  ∀ c ∈ name.toList, c ∉ ['.', ':', '&'] ∧ isBlank c = false

instance : DecidablePred IsWord := fun name => List.decidableBAll _ name.toList

/-- A word holds none of the signs that take a type apart. -/
theorem IsWord.not_mem
    {name : String}
    (word : IsWord name)
    {c : Char}
    (isSign : c ∈ ['.', ':', '&']) : c ∉ name.toList :=
  fun present => (word c present).1 isSign

theorem IsWord.isSegment
    {name : String}
    (word : IsWord name) : IsSegment name.toList :=
  isSegment_of_not_mem (word.not_mem (by decide)) (word.not_mem (by decide))

theorem IsWord.compactText_word
    {name : String}
    (word : IsWord name) : compactText [.word name] = name.toList := by
  rw [compactText, TokenTree.listChars, TokenTree.chars, compact,
    List.filter_eq_self]
  intro c present
  rw [(word c present).2]
  rfl

/-- Of pieces between separators, the last one stands alone or behind a
separator. -/
theorem exists_intercalate_concat
    {α : Type}
    (separator : List α)
    (pieces : List (List α))
    (last : List α) :
    ∃ front, List.intercalate separator (pieces ++ [last]) = front ++ last ∧
      (front = [] ∨ ∃ before, front = before ++ separator) := by
  induction pieces with
  | nil => exact ⟨[], by simp [List.intercalate], .inl rfl⟩
  | cons first rest inductionHypothesis =>
      obtain ⟨front, joined, ends⟩ := inductionHypothesis
      refine ⟨first ++ separator ++ front, ?_, .inr ?_⟩
      · rw [List.cons_append, List.intercalate_cons_of_ne_nil (by simp), joined]
        simp
      · rcases ends with rfl | ⟨before, rfl⟩
        · exact ⟨first, by simp⟩
        · exact ⟨first ++ separator ++ before, by simp⟩

namespace Path

/-- The tokens of a path end in its last segment, which stands alone or behind
double colons. -/
theorem exists_tokens_eq
    {path : Path}
    {last : PathSegment}
    (isLast : path.segments.getLast? = some last) :
    ∃ front, path.tokens = front ++ last.tokens ∧
      (front = [] ∨ ∃ before, front = before ++ TokenTree.sign "::") := by
  obtain ⟨leadingColon, segments⟩ := path
  obtain ⟨earlier, rfl⟩ := List.getLast?_eq_some_iff.mp isLast
  obtain ⟨front, joined, ends⟩ :=
    exists_intercalate_concat (TokenTree.sign "::")
    (earlier.map PathSegment.tokens) last.tokens
  have tokens_eq : (Path.mk leadingColon (earlier ++ [last])).tokens =
      (if leadingColon then TokenTree.sign "::" else []) ++ front ++
        last.tokens := by
    simp [Path.tokens, joined]
  refine ⟨_, tokens_eq, ?_⟩
  cases leadingColon with
  | false => simpa using ends
  | true =>
      rcases ends with rfl | ⟨before, rfl⟩
      · exact .inr ⟨[], by simp⟩
      · exact .inr ⟨TokenTree.sign "::" ++ before, by simp⟩

/-- A path without arguments behind its last segment ends in the name of that
segment. -/
theorem endsInSegment_lastName
    {path : Path}
    {last : PathSegment}
    (isLast : path.segments.getLast? = some last)
    (bare : last.arguments = .none)
    (word : IsWord last.name) :
    EndsInSegment (compactText path.tokens) last.name.toList := by
  have lastText : compactText last.tokens = last.name.toList := by
    rw [PathSegment.tokens, bare]
    exact word.compactText_word
  obtain ⟨front, tokens_eq, rfl | ⟨before, rfl⟩⟩ := exists_tokens_eq isLast
  · exact .inl (by rw [tokens_eq, List.nil_append, lastText])
  · refine .inr (.inr ⟨compactText before, ?_⟩)
    rw [tokens_eq, compactText_append, compactText_append, lastText]
    have colons : compactText (TokenTree.sign "::") = [':', ':'] := by decide
    simp [colons]

/-- Behind a leading separator the name of the last segment is a qualified
one. -/
theorem endsQualified_lastName
    {path : Path}
    {last : PathSegment}
    (leading : path.leadingColon = true)
    (isLast : path.segments.getLast? = some last)
    (bare : last.arguments = .none)
    (word : IsWord last.name) :
    EndsQualified (compactText path.tokens) last.name.toList := by
  rcases endsInSegment_lastName isLast bare word with whole | qualified
  · have colons : compactText (TokenTree.sign "::") = [':', ':'] := by decide
    refine absurd (whole ▸ ?_) (word.not_mem (c := ':') (by decide))
    rw [tokens, leading, if_pos rfl, compactText_append, colons]
    simp
  · exact qualified

/-- A path with arguments behind its last segment ends in an angle bracket. -/
theorem getLast?_compactText_tokens
    {path : Path}
    {last : PathSegment}
    (isLast : path.segments.getLast? = some last)
    (turbofish : Bool)
    (content : List TokenTree)
    (angled : last.arguments = .angled turbofish content) :
    (compactText path.tokens).getLast? = some '>' := by
  obtain ⟨front, tokens_eq, -⟩ := exists_tokens_eq isLast
  have closes : compactText (TokenTree.sign ">") = ['>'] := by decide
  rw [tokens_eq, PathSegment.tokens, angled, PathArguments.tokens]
  simp [closes]

end Path

end Source
end PreferenceSchema
