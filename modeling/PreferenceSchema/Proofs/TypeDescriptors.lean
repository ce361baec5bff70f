import PreferenceSchema.Proofs.KeyResolution
import PreferenceSchema.Proofs.SourceMembers
import PreferenceSchema.Proofs.TokenText

/-!
# Types of the source as semantic types

A field of an entity has a semantic type if its type is borrowed text, or a path
that ends in a spelling of a semantic type.  Only the text of the type is looked
at, behind its last separator, so a pointer to a qualified path, a function with
one as its result and some other types that are no paths pass for semantic types
as well.
-/

namespace PreferenceSchema

open Text

namespace SemanticType

/-! ## Spellings -/

theorem ofSpelling?_eq_some_iff
    {spelling : String}
    {type : SemanticType} :
    ofSpelling? spelling = some type ↔ spelling ∈ type.spellings := by
  constructor
  · intro found
    simpa using List.find?_some found
  · exact ofSpelling?_of_mem

variable {type : SemanticType} {spelling : String}

/-- Spellings have letters and digits only. -/
theorem isAlphanum_of_mem_spellings
    (spells : spelling ∈ type.spellings) :
    ∀ c ∈ spelling.toList, c.isAlphanum = true := by
  have all : ∀ other ∈ type.spellings,
      other.toList.all Char.isAlphanum = true := by
    cases type <;> decide
  exact List.all_eq_true.mp (all spelling spells)

theorem toList_ne_nil_of_mem_spellings
    (spells : spelling ∈ type.spellings) : spelling.toList ≠ [] := by
  have all : ∀ other ∈ type.spellings, other.toList ≠ [] := by
    cases type <;> decide
  exact all spelling spells

theorem not_mem_of_mem_spellings
    (spells : spelling ∈ type.spellings)
    {c : Char}
    (isSign : c.isAlphanum = false) : c ∉ spelling.toList := by
  intro present
  have alphanumeric := isAlphanum_of_mem_spellings spells c present
  rw [isSign] at alphanumeric
  cases alphanumeric

theorem isWord_of_mem_spellings
    (spells : spelling ∈ type.spellings) : Source.IsWord spelling := by
  have all : ∀ other ∈ type.spellings, Source.IsWord other := by
    cases type <;> decide
  exact all spelling spells

theorem isSegment_of_mem_spellings
    (spells : spelling ∈ type.spellings) : IsSegment spelling.toList :=
  isSegment_of_not_mem (not_mem_of_mem_spellings spells (by decide))
    (not_mem_of_mem_spellings spells (by decide))

/-- A text that ends in a sign ends in no spelling. -/
theorem not_endsInSegment_of_getLast?
    (spells : spelling ∈ type.spellings)
    {text : List Char}
    {c : Char}
    (last : text.getLast? = some c)
    (isSign : c.isAlphanum = false) : ¬EndsInSegment text spelling.toList := by
  intro ends
  obtain ⟨front, rfl⟩ := ends.suffix
  rw [List.getLast?_append_of_ne_nil _
    (toList_ne_nil_of_mem_spellings spells)] at last
  exact not_mem_of_mem_spellings spells isSign (List.mem_of_getLast? last)

/-! ## Resolution -/

/-- The descriptors of borrowed text hold no separator. -/
theorem of_mem_borrowedText
    {text : List Char}
    (borrowed : String.ofList text ∈ borrowedText) :
    IsSegment text ∧ '&' ∈ text ∧ text.getLast? = some 'r' := by
  rw [← String.toList_ofList (l := text)]
  rw [borrowedText, List.mem_cons, List.mem_singleton] at borrowed
  rcases borrowed with equal | equal <;>
    · rw [equal]
      exact ⟨⟨by decide, by decide⟩, by decide, by decide⟩

/-- What borrowed text is written as ends in no spelling. -/
theorem not_endsInSegment_of_mem_borrowedText
    {text : List Char}
    (borrowed : String.ofList text ∈ borrowedText)
    (spells : spelling ∈ type.spellings) :
    ¬EndsInSegment text spelling.toList := by
  obtain ⟨isSegment, ampersand, -⟩ := of_mem_borrowedText borrowed
  intro ends
  rw [EndsInSegment.unique (.inl rfl) ends isSegment
    (isSegment_of_mem_spellings spells)]
    at ampersand
  exact not_mem_of_mem_spellings spells (by decide) ampersand

/-- A descriptor stands for a semantic type if it is that of borrowed text, or
ends in a spelling of the type; blanks do not count. -/
theorem resolve?_eq_some_iff
    {descriptor : String} :
    resolve? descriptor = some type ↔
      String.ofList (compact descriptor.toList) ∈ borrowedText ∧
        type = .string ∨
        ∃ spelling ∈ type.spellings,
          EndsInSegment (compact descriptor.toList) spelling.toList := by
  rw [resolve?]
  split
  case isTrue borrowed =>
    have present := List.contains_iff_mem.mp borrowed
    constructor
    · intro equal
      exact .inl ⟨present, (Option.some.inj equal).symm⟩
    · rintro (⟨-, rfl⟩ | ⟨spelling, spells, ends⟩)
      · rfl
      · exact absurd ends (not_endsInSegment_of_mem_borrowedText present spells)
  case isFalse other =>
    rw [List.contains_iff_mem] at other
    rw [ofSpelling?_eq_some_iff, simpleTypeName, String.toList_ofList]
    have simple {spelling : String} (spells : spelling ∈ type.spellings) :
        String.ofList (simpleTypeChars (compact descriptor.toList)) = spelling ↔
          EndsInSegment (compact descriptor.toList) spelling.toList := by
      rw [← afterLast_afterLast_eq_iff (isSegment_of_mem_spellings spells),
        simpleTypeChars, trim_compact, ← String.toList_inj,
        String.toList_ofList]
    constructor
    · intro spells
      exact .inr ⟨_, spells, (simple spells).mp rfl⟩
    · rintro (⟨present, -⟩ | ⟨spelling, spells, ends⟩)
      · exact absurd present other
      · rw [(simple spells).mpr ends]
        exact spells

end SemanticType

namespace Source
namespace Ty

/-! ## Shapes of types -/

/-- A type without the references, parentheses and invisible groups around
it. -/
def core : Ty → Ty
  | .reference _ _ target => core target
  | .paren inner => core inner
  | .group inner => core inner
  | type => type

/-- Whether a type without what is around it is a bare `str` directly behind a
reference. -/
def isBorrowedStr : Ty → Bool
  | .reference _ _ target => target.isStr || isBorrowedStr target
  | .paren inner => isBorrowedStr inner
  | .group inner => isBorrowedStr inner
  | _ => false

/-- The text of a type without blanks. -/
def text (type : Ty) : List Char :=
  compactText type.tokens

/-- A path of its own, the last segment of which is named by a word. -/
def IsPlainPath (type : Ty) : Prop :=
  ∃ path last, type = .path none path ∧ path.segments.getLast? = some last ∧
    IsWord last.name

/-- A type denotes a semantic type: it is borrowed text, or a path that ends in
a spelling without arguments. -/
def Denotes
    (type : Ty)
    (semantic : SemanticType) : Prop :=
  type.isBorrowedStr = true ∧ semantic = .string ∨
    ∃ path last, type.core = .path none path ∧
    path.segments.getLast? = some last ∧
      last.arguments = .none ∧ last.name ∈ semantic.spellings

/-- The text of a type ends in a segment, as far as its shape allows for that:
it cannot where a bracket or a sign ends the type, and behind a pointer or in a
result the segment has to be a qualified one. -/
def ShowsAtEnd (segment : List Char) : Ty → Prop
  | .pointer _ target => EndsQualified target.text segment
  | .function _ (some result) => EndsQualified result.text segment
  | .path owner named =>
    (∀ last ∈ named.segments.getLast?, last.arguments = .none) ∧
      EndsInSegment (Ty.path owner named).text segment
  | .tuple _ _ | .array _ _ | .slice _ | .never | .placeholder | .expansion _ _
    _ => False
  | type => EndsInSegment type.text segment

/-- A type passes for a semantic type: it is no plain path, but its text ends in
a spelling or is that of borrowed text. -/
def PassesFor
    (type : Ty)
    (semantic : SemanticType) : Prop :=
  ¬type.core.IsPlainPath ∧
    (String.ofList type.core.text ∈ SemanticType.borrowedText ∧
      semantic = .string ∨
      ∃ spelling ∈ semantic.spellings, type.core.ShowsAtEnd spelling.toList)

/-! ## Ends of texts -/

theorem text_pointer
    (isMutable : Bool)
    (target : Ty) :
    (Ty.pointer isMutable target).text =
      (if isMutable then "*mut" else "*const").toList ++ target.text := by
  cases isMutable <;> rw [text, tokens, compactText_append] <;> congr 1

theorem text_function
    (signature : List TokenTree)
    (result : Ty) :
    (Ty.function signature (some result)).text =
      (compactText signature ++ ['-']) ++ '>' :: result.text := by
  have arrow : compactText (TokenTree.sign "->") = ['-', '>'] := by decide
  simp [text, tokens, arrow]

section Ends

variable {semantic : SemanticType} {spelling : String}

/-- Behind something in front of it that is no name, a text ends in a spelling
if it ends in a qualified one. -/
theorem endsInSegment_append_iff
    (spells : spelling ∈ semantic.spellings)
    {front back : List Char}
    {c : Char}
    (present : c ∈ front)
    (isSign : c.isAlphanum = false)
    (noDot : '.' ∉ front)
    (noColon : ':' ∉ front) :
    EndsInSegment (front ++ back) spelling.toList ↔
      EndsQualified back spelling.toList := by
  rw [EndsInSegment, EndsQualified, EndsQualified, cons_suffix_append_iff noDot,
    cons_suffix_append_iff noColon]
  refine or_iff_right fun whole => ?_
  exact SemanticType.not_mem_of_mem_spellings spells isSign
    (whole ▸ List.mem_append_left back present)

/-- Behind a sign that separates no names, a text ends in a spelling if it ends
in a qualified one. -/
theorem endsInSegment_append_cons_iff
    (spells : spelling ∈ semantic.spellings)
    {front back : List Char}
    {c : Char}
    (isSign : c.isAlphanum = false)
    (apart : c ∉ ['.', ':']) :
    EndsInSegment (front ++ c :: back) spelling.toList ↔
      EndsQualified back spelling.toList := by
  have absent := SemanticType.not_mem_of_mem_spellings spells isSign
  obtain ⟨noDot, noColon⟩ : c ≠ '.' ∧ c ≠ ':' := by simpa using apart
  rw [EndsInSegment, EndsQualified, EndsQualified,
    suffix_append_cons_iff (by simp [absent, noDot]),
    suffix_append_cons_iff (by simp [absent, noColon])]
  refine or_iff_right fun whole => absent ?_
  rw [← whole]
  simp

/-- The text of a type ends in a spelling as its shape shows.  Most types end in
a sign of their own, and no spelling ends in one. -/
theorem endsInSegment_text_iff
    (spells : spelling ∈ semantic.spellings)
    (type : Ty) :
    EndsInSegment type.text spelling.toList ↔
      type.ShowsAtEnd spelling.toList := by
  have closed {c : Char} (last : type.text.getLast? = some c)
      (isSign : c.isAlphanum = false) :=
    SemanticType.not_endsInSegment_of_getLast? spells last isSign
  cases type with
  | pointer isMutable target =>
      rw [text_pointer]
      cases isMutable <;>
        exact endsInSegment_append_iff spells (c := '*') (by decide) (by decide)
          (by decide)
          (by decide)
  | function signature result =>
      cases result with
      | none => exact Iff.rfl
      | some result =>
          rw [text_function]
          exact endsInSegment_append_cons_iff spells (by decide) (by decide)
  | path owner named =>
      refine ⟨fun ends => ⟨fun last isLast => ?_, ends⟩, And.right⟩
      cases arguments : last.arguments with
      | none => rfl
      | angled turbofish content =>
          have closes :=
            Path.getLast?_compactText_tokens isLast turbofish content arguments
          refine absurd ends (closed (c := '>') ?_ (by decide))
          simp [text, tokens, closes]
  | tuple elements trailingComma =>
      exact iff_of_false
        (closed (getLast?_compactText_group [] _ _) (by decide)) id
  | array element length =>
      exact iff_of_false
        (closed (getLast?_compactText_group [] _ _) (by decide)) id
  | slice element =>
      exact iff_of_false
        (closed (getLast?_compactText_group [] _ _) (by decide)) id
  | expansion name delimiter content =>
      refine iff_of_false
        (closed (getLast?_compactText_group _ delimiter content) ?_) id
      cases delimiter <;> decide
  | never => exact iff_of_false (closed (c := '!') (by decide) (by decide)) id
  | placeholder =>
    exact iff_of_false (closed (c := '_') (by decide) (by decide)) id
  | _ => exact Iff.rfl

end Ends

/-! ## Descriptors -/

/-- The descriptor of a type is the text of what is inside, unless that is
borrowed text. -/
theorem descriptor_eq
    (type : Ty) :
    type.descriptor = if type.isBorrowedStr then
      "&str" else String.ofList type.core.text := by
  fun_induction descriptor type with
  | case1 _ _ target isStr => simp [isBorrowedStr, isStr]
  | case2 _ _ target notStr inductionHypothesis =>
      rw [inductionHypothesis, isBorrowedStr, Bool.not_eq_true _ |>.mp notStr,
        Bool.false_or, core]
  | case3 inner inductionHypothesis => exact inductionHypothesis
  | case4 inner inductionHypothesis => exact inductionHypothesis
  | case5 type noReference noParen noGroup =>
      cases type with
      | reference lifetime isMutable target =>
        exact absurd rfl (noReference _ _ _)
      | paren inner => exact absurd rfl (noParen _)
      | group inner => exact absurd rfl (noGroup _)
      | _ => rfl

/-! ## Plain paths -/

/-- Behind the separators of a plain path stands the name of its last
segment. -/
theorem exists_endsInSegment_path_iff
    {semantic : SemanticType}
    {named : Path}
    {last : PathSegment}
    (isLast : named.segments.getLast? = some last)
    (word : IsWord last.name) :
    (∃ spelling ∈ semantic.spellings,
        EndsInSegment (Ty.path none named).text spelling.toList) ↔
      last.arguments = .none ∧ last.name ∈ semantic.spellings := by
  constructor
  · rintro ⟨spelling, spells, ends⟩
    have bare : last.arguments = .none :=
      ((endsInSegment_text_iff spells _).mp ends).1 last isLast
    have endsInName := Path.endsInSegment_lastName isLast bare word
    have same : last.name.toList = spelling.toList :=
      endsInName.unique ends word.isSegment
      (SemanticType.isSegment_of_mem_spellings spells)
    rw [String.toList_inj.mp same]
    exact ⟨bare, spells⟩
  · rintro ⟨bare, spells⟩
    exact ⟨last.name, spells, Path.endsInSegment_lastName isLast bare word⟩

/-- A plain path does not look like borrowed text. -/
theorem IsPlainPath.not_mem_borrowedText
    {type : Ty}
    (plain : type.IsPlainPath) :
    String.ofList type.text ∉ SemanticType.borrowedText := by
  obtain ⟨named, last, rfl, isLast, word⟩ := plain
  intro borrowed
  obtain ⟨isSegment, ampersand, lastChar⟩ :=
    SemanticType.of_mem_borrowedText borrowed
  cases arguments : last.arguments with
  | none =>
      have endsInName := Path.endsInSegment_lastName isLast arguments word
      have same : (Ty.path none named).text = last.name.toList :=
        EndsInSegment.unique (.inl rfl) endsInName isSegment word.isSegment
      exact word.not_mem (by decide) (same ▸ ampersand)
  | angled turbofish content =>
      have closes :=
        Path.getLast?_compactText_tokens isLast turbofish content arguments
      have twice : some '>' = some 'r' := closes.symm.trans lastChar
      exact absurd twice (by decide)

theorem eq_of_isStr
    {type : Ty}
    (isStr : type.isStr = true) :
    type = .path none ⟨false, [⟨"str", .none⟩]⟩ := by
  unfold Ty.isStr at isStr
  split at isStr
  case h_1 named =>
    unfold Path.isWord at isStr
    split at isStr
    case h_1 segment single =>
      obtain ⟨leadingColon, segments⟩ := named
      obtain ⟨name, arguments⟩ := segment
      cases arguments <;> simp_all [PathArguments.isNone]
    case h_2 => cases isStr
  case h_2 => cases isStr

/-- Inside of borrowed text is the path `str`. -/
theorem core_eq_of_isBorrowedStr
    {type : Ty}
    (borrowed : type.isBorrowedStr = true) :
    type.core = .path none ⟨false, [⟨"str", .none⟩]⟩ := by
  fun_induction isBorrowedStr type with
  | case1 _ _ target inductionHypothesis =>
      rcases Bool.or_eq_true _ _ |>.mp borrowed with isStr | inside
      · rw [eq_of_isStr isStr]
        rfl
      · exact inductionHypothesis inside
  | case2 inner inductionHypothesis => exact inductionHypothesis borrowed
  | case3 inner inductionHypothesis => exact inductionHypothesis borrowed
  | case4 => cases borrowed

/-! ## Semantic types -/

/-- Only plain paths denote a semantic type. -/
theorem Denotes.isPlainPath
    {type : Ty}
    {semantic : SemanticType}
    (denotes : type.Denotes semantic) : type.core.IsPlainPath := by
  rcases denotes with ⟨borrowed, -⟩ | ⟨named, last, isPath, isLast, -, spells⟩
  · exact ⟨_, ⟨"str", .none⟩, core_eq_of_isBorrowedStr borrowed, rfl, by decide⟩
  · exact ⟨named, last, isPath, isLast,
      SemanticType.isWord_of_mem_spellings spells⟩

theorem PassesFor.not_denotes
    {type : Ty}
    {semantic : SemanticType}
    (passes : type.PassesFor semantic) : ¬type.Denotes semantic :=
  fun denotes => passes.1 denotes.isPlainPath

/-- Borrowed text denotes a string only. -/
theorem denotes_iff_of_isBorrowedStr
    {type : Ty}
    (borrowed : type.isBorrowedStr = true)
    {semantic : SemanticType} : type.Denotes semantic ↔ semantic = .string := by
  constructor
  · rintro (⟨-, isString⟩ | ⟨named, last, isPath, isLast, -, spells⟩)
    · exact isString
    · rw [core_eq_of_isBorrowedStr borrowed] at isPath
      cases isPath
      cases isLast
      cases semantic <;> exact absurd spells (by decide)
  · intro isString
    exact .inl ⟨borrowed, isString⟩

/-- The semantic type of a descriptor is one that the type denotes or passes
for.  Plain paths only denote, and all other types only pass for what they are
not. -/
theorem resolve?_descriptor_eq_some_iff
    {type : Ty}
    {semantic : SemanticType} :
    SemanticType.resolve? type.descriptor = some semantic ↔
      type.Denotes semantic ∨ type.PassesFor semantic := by
  rw [descriptor_eq]
  split
  case isTrue borrowed =>
    have isString : SemanticType.resolve? "&str" = some .string := by decide
    have plain := ((denotes_iff_of_isBorrowedStr borrowed).mpr rfl).isPlainPath
    rw [isString, Option.some_inj, denotes_iff_of_isBorrowedStr borrowed,
      PassesFor, or_iff_left (fun passes => passes.1 plain), eq_comm]
  case isFalse other =>
    have noBlanks : compact type.core.text = type.core.text := by
      simp [text, compactText, compact]
    rw [SemanticType.resolve?_eq_some_iff, String.toList_ofList, noBlanks]
    by_cases plain : type.core.IsPlainPath
    · have noPass : ¬type.PassesFor semantic := fun passes => passes.1 plain
      rw [or_iff_left noPass,
        or_iff_right fun borrowed => plain.not_mem_borrowedText borrowed.1,
        Denotes, or_iff_right fun borrowed => other borrowed.1]
      obtain ⟨named, last, isPath, isLast, word⟩ := plain
      rw [isPath, exists_endsInSegment_path_iff isLast word]
      simp [isLast]
    · have noDenote : ¬type.Denotes semantic :=
        fun denotes => plain denotes.isPlainPath
      rw [or_iff_right noDenote, PassesFor, and_iff_right plain]
      refine or_congr_right (exists_congr fun spelling =>
        and_congr_right fun spells => ?_)
      exact endsInSegment_text_iff spells _

/-! ## Fields -/

/-- A type has the semantic types that it denotes, and those that it passes for
without denoting them; a field with a type of neither kind is refused for its
type. -/
theorem semantic_types_exact
    (type : Ty) :
    (∀ semantic, SemanticType.resolve? type.descriptor = some semantic ↔
        type.Denotes semantic ∨ type.PassesFor semantic) ∧
      (∀ semantic, type.PassesFor semantic → ¬type.Denotes semantic) ∧
      ∀ (field : Field) (className : String) (member : Member),
        field.type = type → field.toMember = .ok member →
          ((KeyField.resolve className member).outcome =
              .error (.unsupportedType className member.name type.descriptor) ↔
            ∀ semantic, ¬type.Denotes semantic ∧ ¬type.PassesFor semantic) := by
  refine ⟨fun semantic => resolve?_descriptor_eq_some_iff,
    fun semantic => PassesFor.not_denotes, ?_⟩
  rintro field className member rfl made
  obtain ⟨name, -, outline⟩ := Field.outline_of_toMember_eq_ok made
  have typeName : member.typeName = field.type.descriptor :=
    congrArg (fun parts => parts.2.2) outline
  rw [← typeName, KeyField.resolve_eq_unsupportedType_iff, typeName,
    Option.eq_none_iff_forall_ne_some]
  simp only [ne_eq, resolve?_descriptor_eq_some_iff, not_or]

/-- A constant pointer to the library string. -/
def stringPointer : Ty :=
  .pointer false
    (.path none ⟨false, [⟨"std", .none⟩, ⟨"string", .none⟩, ⟨"String", .none⟩]⟩)

/-- A field with a constant pointer to the library string. -/
def stringPointerField : Field :=
  ⟨[], true, some "name", stringPointer⟩

/-- The member of a field with a constant pointer to the library string. -/
def stringPointerMember : Member :=
  stringPointerField.plainMember "name"

/-- A pointer to the library string has the semantic types that it denotes or
passes for, and is refused only if there are none. -/
theorem stringPointer_semantic_types :
    stringPointerField.toMember = .ok stringPointerMember ∧
      (∀ semantic,
        SemanticType.resolve? stringPointer.descriptor = some semantic ↔
        stringPointer.Denotes semantic ∨ stringPointer.PassesFor semantic) ∧
      ((KeyField.resolve "Settings" stringPointerMember).outcome =
          .error (.unsupportedType "Settings" "name" stringPointer.descriptor) ↔
        ∀ semantic, ¬stringPointer.Denotes semantic ∧
          ¬stringPointer.PassesFor semantic) :=
  ⟨rfl, (semantic_types_exact stringPointer).1,
    (semantic_types_exact stringPointer).2.2 stringPointerField "Settings"
      stringPointerMember rfl
      rfl⟩

/-- A pointer to a qualified path has a semantic type that it does not
denote. -/
theorem not_forall_denotes :
    ¬∀ (type : Ty) (semantic : SemanticType),
      SemanticType.resolve? type.descriptor = some semantic →
        type.Denotes semantic := by
  intro allDenote
  have resolved : SemanticType.resolve? stringPointer.descriptor =
      some .string := by
    decide +kernel
  obtain ⟨named, last, isPath, -⟩ := (allDenote _ _ resolved).isPlainPath
  cases isPath

end Ty
end Source
end PreferenceSchema
