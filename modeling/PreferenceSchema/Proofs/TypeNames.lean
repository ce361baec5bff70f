import Mathlib.Data.List.Infix
import PreferenceSchema.Naming
import PreferenceSchema.Proofs.TextPieces

/-!
# Names behind a qualification

The simple name of a type is the end of its descriptor that holds no separator.
The storage class that a descriptor names tells its entity, and the storage
class of a name tells that name again unless it looks like a qualified name or
ends in a blank.
-/

namespace PreferenceSchema

open Text

/-! ## Simple names -/

theorem toList_simpleTypeName
    (descriptor : String) :
    (simpleTypeName descriptor).toList = simpleTypeChars descriptor.toList :=
  String.toList_ofList

/-- A simple name is an end of the cut descriptor. -/
theorem simpleTypeChars_suffix
    (descriptor : List Char) :
    simpleTypeChars descriptor <:+ trim descriptor :=
  (afterLast_suffix (by simp)).trans (afterLast_suffix (by simp))

theorem dot_not_mem_simpleTypeChars
    (descriptor : List Char) :
    '.' ∉ simpleTypeChars descriptor := by
  rw [← List.singleton_infix_iff]
  exact not_infix_afterLast (by simp)

theorem not_path_infix_simpleTypeChars
    (descriptor : List Char) :
    ¬[':', ':'] <:+: simpleTypeChars descriptor := by
  intro occurs
  have occursBefore : [':', ':'] <:+: afterLast [':', ':'] (trim descriptor) :=
    occurs.trans (afterLast_suffix (by simp)).isInfix
  exact not_infix_afterLast (by simp) occursBefore

/-- A text in which no separator of qualified names occurs. -/
structure Unqualified (text : List Char) : Prop where
  noDot : '.' ∉ text
  noPath : ¬[':', ':'] <:+: text

/-- A simple name has no separators. -/
theorem unqualified_simpleTypeChars
    (descriptor : List Char) :
    Unqualified (simpleTypeChars descriptor) :=
  ⟨dot_not_mem_simpleTypeChars descriptor,
    not_path_infix_simpleTypeChars descriptor⟩

theorem Unqualified.of_part
    {text part : List Char}
    (unqualified : Unqualified text)
    (isPart : part <:+: text) : Unqualified part :=
  ⟨fun present => unqualified.noDot (isPart.subset present),
    fun occurs => unqualified.noPath (occurs.trans isPart)⟩

/-- Of a text without separators only the blanks around it are cut off. -/
theorem Unqualified.simpleTypeChars_eq
    {name : List Char}
    (unqualified : Unqualified name) : simpleTypeChars name = trim name := by
  have trimmed := unqualified.of_part (trim_infix_self name)
  have noDotMark : ¬['.'] <:+: trim name := by
    rw [List.singleton_infix_iff]
    exact trimmed.noDot
  rw [simpleTypeChars, afterLast_eq_self (by simp) trimmed.noPath]
  exact afterLast_eq_self (by simp) noDotMark

/-- The simple names are those without separators and blanks around them. -/
theorem simpleTypeChars_eq_self_iff
    {name : List Char} :
    simpleTypeChars name = name ↔
      trim name = name ∧ '.' ∉ name ∧ ¬[':', ':'] <:+: name := by
  constructor
  · intro simple
    have noDot := dot_not_mem_simpleTypeChars name
    have noPath := not_path_infix_simpleTypeChars name
    have isEnd := simpleTypeChars_suffix name
    rw [simple] at noDot noPath isEnd
    exact ⟨(trim_infix_self name).eq_of_length_le isEnd.length_le, noDot,
      noPath⟩
  · rintro ⟨noBlanks, noDot, noPath⟩
    exact (Unqualified.mk noDot noPath).simpleTypeChars_eq.trans noBlanks

theorem trimEnd_simpleTypeChars
    (descriptor : List Char) :
    trimEnd (simpleTypeChars descriptor) = simpleTypeChars descriptor :=
  trimEnd_eq_self_of_suffix (simpleTypeChars_suffix descriptor)
    (trim_eq_self_iff.mp (trim_trim descriptor)).2

/-- Of a simple name only the blanks in front are cut off. -/
theorem simpleTypeChars_simpleTypeChars
    (descriptor : List Char) :
    simpleTypeChars (simpleTypeChars descriptor) =
      trimStart (simpleTypeChars descriptor) := by
  rw [(unqualified_simpleTypeChars descriptor).simpleTypeChars_eq, trim]
  exact trimEnd_eq_self_of_suffix (trimStart_suffix _)
    (trimEnd_simpleTypeChars descriptor)

/-! ## Last segments -/

/-- A text ends in a segment behind a separator. -/
def EndsQualified (text segment : List Char) : Prop :=
  '.' :: segment <:+ text ∨ ':' :: ':' :: segment <:+ text

/-- A text ends in a segment: it is nothing else, or the segment stands behind a
separator. -/
def EndsInSegment (text segment : List Char) : Prop :=
  text = segment ∨ EndsQualified text segment

/-- A text that stays whole behind a separator. -/
structure IsSegment (segment : List Char) : Prop where
  noDot : '.' ∉ segment
  noPath : ¬[':', ':'] <:+: ':' :: segment

/-- A text without the characters of separators is a segment. -/
theorem isSegment_of_not_mem
    {segment : List Char}
    (noDot : '.' ∉ segment)
    (noColon : ':' ∉ segment) : IsSegment segment := by
  refine ⟨noDot, ?_⟩
  rintro ⟨before, after, split⟩
  cases before with
  | nil => exact noColon ((List.cons.inj split).2 ▸ by simp)
  | cons c rest => exact noColon ((List.cons.inj split).2 ▸ by simp)

theorem IsSegment.unqualified
    {segment : List Char}
    (isSegment : IsSegment segment) : Unqualified segment :=
  ⟨isSegment.noDot, fun occurs =>
    isSegment.noPath (occurs.trans (List.suffix_cons ':' segment).isInfix)⟩

/-- A text ends in the segment behind its last separators. -/
theorem endsInSegment_afterLast_afterLast
    (text : List Char) :
    EndsInSegment text (afterLast ['.'] (afterLast [':', ':'] text)) := by
  have someColons : [':', ':'] ≠ [] := by simp
  have someDot : ['.'] ≠ [] := by simp
  rcases afterLast_eq_self_or_suffix someDot (afterLast [':', ':'] text)
    with whole | behindDot
  · rw [whole]
    exact (afterLast_eq_self_or_suffix someColons text).imp Eq.symm .inr
  · exact .inr (.inl (behindDot.trans (afterLast_suffix someColons)))

/-- The trimmed descriptor of a type ends in its simple name. -/
theorem endsInSegment_simpleTypeChars
    (descriptor : List Char) :
    EndsInSegment (trim descriptor) (simpleTypeChars descriptor) :=
  endsInSegment_afterLast_afterLast (trim descriptor)

/-- What stands behind the separators of a text is the segment that the text
ends in. -/
theorem afterLast_afterLast_eq_iff
    {text segment : List Char}
    (isSegment : IsSegment segment) :
    afterLast ['.'] (afterLast [':', ':'] text) = segment ↔
      EndsInSegment text segment := by
  have noPath : ¬[':', ':'] <:+: segment := isSegment.unqualified.noPath
  have noDot : ¬['.'] <:+: segment := by
    rw [List.singleton_infix_iff]
    exact isSegment.noDot
  have someColons : [':', ':'] ≠ [] := by simp
  have someDot : ['.'] ≠ [] := by simp
  constructor
  · rintro rfl
    exact endsInSegment_afterLast_afterLast text
  · rintro (rfl | behindDot | behindPath)
    · rw [afterLast_eq_self someColons noPath, afterLast_eq_self someDot noDot]
    · have apart : ∀ c ∈ [':', ':'], c ∉ ['.'] := by simp
      have noPathBehind : ¬[':', ':'] <:+: ['.'] ++ segment := fun occurs =>
        noPath ((infix_append_iff_of_apart apart).mp occurs)
      have isEnd : ['.'] ++ segment <:+ afterLast [':', ':'] text :=
        suffix_afterLast behindDot (by simp) noPathBehind
      exact afterLast_of_suffix isEnd noDot
    · have isEnd : [':', ':'] ++ segment <:+ text := behindPath
      rw [afterLast_of_suffix isEnd isSegment.noPath,
        afterLast_eq_self someDot noDot]

/-- The simple name of a type is the segment that its descriptor ends in. -/
theorem simpleTypeChars_eq_iff
    {descriptor segment : List Char}
    (isSegment : IsSegment segment) :
    simpleTypeChars descriptor = segment ↔
      EndsInSegment (trim descriptor) segment :=
  afterLast_afterLast_eq_iff isSegment

/-- A segment behind a separator, with no blank at its end, is the simple
name. -/
theorem simpleTypeChars_of_endsQualified
    {descriptor segment : List Char}
    (ends : EndsQualified descriptor segment)
    (isSegment : IsSegment segment)
    (noBlankAtEnd : trimEnd segment = segment) :
    simpleTypeChars descriptor = segment := by
  rw [simpleTypeChars_eq_iff isSegment]
  refine .inr ?_
  rcases ends with behindDot | behindPath
  · exact .inl (suffix_trim behindDot (by decide) noBlankAtEnd)
  · exact .inr (suffix_trim behindPath (by decide)
      (trimEnd_cons_eq_self (by decide) noBlankAtEnd))

/-- A text ends in one segment only. -/
theorem EndsInSegment.unique
    {text left right : List Char}
    (endsInLeft : EndsInSegment text left)
    (endsInRight : EndsInSegment text right)
    (leftSegment : IsSegment left)
    (rightSegment : IsSegment right) : left = right := by
  rw [← (afterLast_afterLast_eq_iff leftSegment).mpr endsInLeft]
  exact (afterLast_afterLast_eq_iff rightSegment).mpr endsInRight

theorem EndsInSegment.suffix
    {text segment : List Char}
    (ends : EndsInSegment text segment) : segment <:+ text := by
  rcases ends with rfl | behindDot | behindPath
  · exact List.suffix_rfl
  · exact (List.suffix_cons _ _).trans behindDot
  · exact (List.suffix_append [':', ':'] segment).trans behindPath

/-- A text that ends in a segment behind a separator does so behind anything
else, too. -/
theorem EndsQualified.append
    {text segment : List Char}
    (ends : EndsQualified text segment)
    (front : List Char) : EndsQualified (front ++ text) segment :=
  ends.imp (·.trans (List.suffix_append _ _)) (·.trans (List.suffix_append _ _))

/-- The last segment of a text that ends in a character that separates nothing
ends in that character, too. -/
theorem mem_simpleTypeChars_of_getLast?
    {text : List Char}
    {c : Char}
    (noBlanks : trim text = text)
    (last : text.getLast? = some c)
    (apart : c ∉ ['.', ':']) : c ∈ simpleTypeChars text := by
  obtain ⟨noDot, noColon⟩ : c ≠ '.' ∧ c ≠ ':' := by simpa using apart
  have suffix := simpleTypeChars_suffix text
  rw [noBlanks] at suffix
  have notEmpty : simpleTypeChars text ≠ [] := by
    intro empty
    have ends := endsInSegment_simpleTypeChars text
    rw [noBlanks, empty] at ends
    rcases ends with rfl | ⟨before, rfl⟩ | ⟨before, rfl⟩
    · cases last
    · exact noDot (by simpa using last.symm)
    · exact noColon (by simpa using last.symm)
  obtain ⟨front, split⟩ := suffix
  rw [← split, List.getLast?_append_of_ne_nil _ notEmpty] at last
  exact List.mem_of_getLast? last

/-! ## Storage classes -/

namespace Naming

theorem toList_storageClassName
    (name : String) :
    (storageClassName name).toList = storageStart.toList ++ name.toList :=
  String.toList_append

/-- A descriptor names the storage class of an entity if that is its simple
name. -/
theorem storedEntity?_eq_some_iff
    {descriptor entity : String} :
    storedEntity? descriptor = some entity ↔
      entity ≠ "" ∧
        simpleTypeChars descriptor.toList =
          storageStart.toList ++ entity.toList := by
  rw [storedEntity?]
  constructor
  · intro stored
    split at stored
    case h_1 => cases stored
    case h_2 chars nonempty split =>
      obtain rfl := Option.some.inj stored
      rw [String.toList_ofList]
      refine ⟨?_, (List.isPrefixOf?_eq_some_iff_append_eq.mp split).symm⟩
      intro empty
      have noChars := congrArg String.toList empty
      rw [String.toList_ofList] at noChars
      exact nonempty noChars
    case h_3 => cases stored
  · rintro ⟨nonempty, simple⟩
    rw [List.isPrefixOf?_eq_some_iff_append_eq.mpr simple.symm]
    cases chars : entity.toList with
    | nil => exact absurd (String.toList_eq_nil_iff.mp chars) nonempty
    | cons c rest =>
        dsimp only
        rw [← chars, String.ofList_toList]

/-- A name behind the start of storage classes is a segment exactly when no
separator occurs in it. -/
theorem isSegment_storageClassName_iff
    {name : String} :
    IsSegment (storageClassName name).toList ↔ Unqualified name.toList := by
  have isEnd : name.toList <:+ (storageClassName name).toList := by
    rw [toList_storageClassName]
    exact List.suffix_append _ _
  constructor
  · intro isSegment
    exact isSegment.unqualified.of_part isEnd.isInfix
  · rintro ⟨noDot, noPath⟩
    have start : storageStart.toList =
        ['P', 'r', 'e', 'f', 'e', 'r', 'e', 'n', 'c', 'e', '_'] := by
      decide
    have apart : ∀ c ∈ [':', ':'], c ∉ storageStart.toList := by simp [start]
    refine ⟨?_, ?_⟩ <;> rw [toList_storageClassName]
    · simpa [start] using noDot
    · rw [List.infix_cons_iff, infix_append_iff_of_apart apart, not_or]
      refine ⟨?_, noPath⟩
      simp [start]

/-- The descriptors that name the storage class of an entity are those that,
without the blanks around them, end in it as their last segment. -/
theorem storedEntity?_eq_some_iff_endsInSegment
    {descriptor entity : String} :
    storedEntity? descriptor = some entity ↔
      entity ≠ "" ∧ Unqualified entity.toList ∧
        EndsInSegment (trim descriptor.toList)
          (storageClassName entity).toList := by
  rw [storedEntity?_eq_some_iff, ← toList_storageClassName]
  refine and_congr_right fun _ => ?_
  constructor
  · intro simple
    have isPart : entity.toList <:+: simpleTypeChars descriptor.toList := by
      rw [simple, toList_storageClassName]
      exact (List.suffix_append _ _).isInfix
    refine ⟨(unqualified_simpleTypeChars descriptor.toList).of_part isPart, ?_⟩
    rw [← simple]
    exact endsInSegment_simpleTypeChars descriptor.toList
  · rintro ⟨unqualified, ends⟩
    exact (simpleTypeChars_eq_iff
      (isSegment_storageClassName_iff.mpr unqualified)).mpr ends

/-- A name is read back from its storage class exactly when it holds no
separator and does not end in a blank.  The start of storage classes is solid in
front and holds no separator. -/
theorem storedEntity?_storageClassName_iff
    {name : String} :
    storedEntity? (storageClassName name) = some name ↔
      name ≠ "" ∧ '.' ∉ name.toList ∧ ¬[':', ':'] <:+: name.toList ∧
        trimEnd name.toList = name.toList := by
  rw [storedEntity?_eq_some_iff, toList_storageClassName,
    simpleTypeChars_eq_self_iff]
  refine and_congr_right fun nonempty => ?_
  have solid : trimStart (storageStart.toList ++ name.toList) =
      storageStart.toList ++ name.toList := by
    have first : storageStart.toList.head? = some 'P' := by decide
    rw [trimStart_eq_self_iff, List.head?_append_of_ne_nil _ (by decide), first]
    rintro c ⟨⟩
    decide
  have noDot : '.' ∉ storageStart.toList := by decide
  have noColon : ':' ∉ storageStart.toList := by decide
  have apart : ∀ c ∈ [':', ':'], c ∉ storageStart.toList := by
    simpa using noColon
  have nonemptyChars : name.toList ≠ [] :=
    mt String.toList_eq_nil_iff.mp nonempty
  rw [trim_eq_self_iff, and_iff_right solid,
    trimEnd_append_eq_self_iff nonemptyChars, List.mem_append,
    or_iff_right noDot, infix_append_iff_of_apart apart, and_comm, and_assoc]

end Naming
end PreferenceSchema
