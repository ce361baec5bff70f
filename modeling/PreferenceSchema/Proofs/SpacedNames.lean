import PreferenceSchema.Proofs.Injection
import PreferenceSchema.Proofs.TypeNames

/-!
# Blanks in qualified names

A qualified name may be written with blanks around its separators.  Its simple
name is cut off behind the last separator once the blanks around the whole name
are gone.  So the blanks directly behind the last separator stay in the simple
name and keep the name from being found, and no other blanks count.
-/

namespace PreferenceSchema

open Text

/-! ## Qualified names -/

/-- What stands between the segments of a qualified name. -/
inductive Separator
  | dot
  | path

namespace Separator

/-- The characters of a separator. -/
def chars : Separator → List Char
  | .dot => ['.']
  | .path => [':', ':']

theorem endsQualified
    (separator : Separator)
    (front segment : List Char) :
    EndsQualified (front ++ (separator.chars ++ segment)) segment := by
  cases separator with
  | dot => exact .inl (List.suffix_append front _)
  | path => exact .inr (List.suffix_append front _)

end Separator

/-- A part of a qualified name in front of its last segment: a text, and the
separator behind it with the blanks on both sides of the separator. -/
structure Qualifier where
  text : List Char
  before : List Char
  separator : Separator
  behind : List Char
  blankBefore : ∀ c ∈ before, isBlank c = true
  blankBehind : ∀ c ∈ behind, isBlank c = true

namespace Qualifier

/-- The characters of a qualifier. -/
def chars (qualifier : Qualifier) : List Char :=
  qualifier.text ++ qualifier.before ++ qualifier.separator.chars ++
    qualifier.behind

/-- A qualifier without blanks around its separator. -/
def closed (qualifier : Qualifier) : Qualifier where
  text := qualifier.text
  before := []
  separator := qualifier.separator
  behind := []
  blankBefore := List.forall_mem_nil _
  blankBehind := List.forall_mem_nil _

end Qualifier

/-- The name that ends in a segment behind its qualifiers. -/
def qualifiedName
    (qualifiers : List Qualifier)
    (last : String) : String :=
  String.ofList (qualifiers.flatMap Qualifier.chars ++ last.toList)

/-- The blanks behind the last separator. -/
def lastGap (qualifiers : List Qualifier) : List Char :=
  (qualifiers.getLast?.map Qualifier.behind).getD []

/-- A name that can be the last segment of a qualified name: it is not empty, it
stays whole behind a separator, and there are no blanks around it. -/
structure IsLastSegment (name : String) : Prop where
  nonempty : name ≠ ""
  isSegment : IsSegment name.toList
  noBlanks : trim name.toList = name.toList

theorem IsLastSegment.simpleTypeChars_eq
    {name : String}
    (isLast : IsLastSegment name) :
    simpleTypeChars name.toList = name.toList := by
  rw [isLast.isSegment.unqualified.simpleTypeChars_eq, isLast.noBlanks]

theorem lastGap_concat
    (qualifiers : List Qualifier)
    (qualifier : Qualifier) :
    lastGap (qualifiers ++ [qualifier]) = qualifier.behind := by
  rw [lastGap, List.getLast?_concat]
  rfl

theorem isBlank_of_mem_lastGap
    {qualifiers : List Qualifier}
    {c : Char}
    (present : c ∈ lastGap qualifiers) : isBlank c = true := by
  rw [lastGap] at present
  cases found : qualifiers.getLast? with
  | none =>
      rw [found] at present
      cases present
  | some qualifier =>
      rw [found] at present
      exact qualifier.blankBehind c present

theorem lastGap_map_closed
    (qualifiers : List Qualifier) :
    lastGap (qualifiers.map Qualifier.closed) = [] := by
  rw [lastGap, List.getLast?_map]
  cases qualifiers.getLast? <;> rfl

/-! ## Their simple names -/

/-- A segment stays whole behind blanks, too. -/
theorem IsSegment.append_blanks
    {segment blanks : List Char}
    (isSegment : IsSegment segment)
    (blank : ∀ c ∈ blanks, isBlank c = true) :
    IsSegment (blanks ++ segment) := by
  have noSign {c : Char} (sign : isBlank c = false) : c ∉ blanks := by
    intro present
    rw [blank c present] at sign
    cases sign
  have noColon : ':' ∉ blanks := noSign (by decide)
  have apart : ∀ c ∈ [':', ':'], c ∉ blanks := by simpa using noColon
  refine ⟨?_, ?_⟩
  · rw [List.mem_append, not_or]
    exact ⟨noSign (by decide), isSegment.noDot⟩
  · cases blanks with
    | nil => exact isSegment.noPath
    | cons c rest =>
        rw [List.infix_cons_iff, infix_append_iff_of_apart apart, not_or]
        refine ⟨?_, isSegment.unqualified.noPath⟩
        have different : ':' ≠ c :=
          fun same => noColon (same ▸ List.mem_cons_self)
        simp [different]

variable {qualifiers : List Qualifier} {last : String}

/-- The simple name of a qualified name is its last segment, behind the blanks
that the last separator has behind it. -/
theorem simpleTypeChars_qualifiedName
    (isLast : IsLastSegment last) :
    simpleTypeChars (qualifiedName qualifiers last).toList =
      lastGap qualifiers ++ last.toList := by
  rw [qualifiedName, String.toList_ofList]
  cases qualifiers using List.reverseRecOn with
  | nil => exact isLast.simpleTypeChars_eq
  | append_singleton others qualifier =>
      have nonempty : last.toList ≠ [] :=
        mt String.toList_eq_nil_iff.mp isLast.nonempty
      have noBlankAtEnd := (trim_eq_self_iff.mp isLast.noBlanks).2
      have ends := qualifier.separator.endsQualified
        (others.flatMap Qualifier.chars ++ qualifier.text ++ qualifier.before)
        (qualifier.behind ++ last.toList)
      rw [lastGap_concat, List.flatMap_append, List.flatMap_singleton,
        Qualifier.chars]
      simp only [List.append_assoc] at ends ⊢
      exact simpleTypeChars_of_endsQualified ends
        (isLast.isSegment.append_blanks qualifier.blankBehind)
        ((trimEnd_append_eq_self_iff nonempty).mpr noBlankAtEnd)

/-- Without blanks around the separators the simple name is the last segment
itself. -/
theorem simpleTypeChars_qualifiedName_closed
    (isLast : IsLastSegment last) :
    simpleTypeChars
      (qualifiedName (qualifiers.map Qualifier.closed) last).toList =
      last.toList := by
  rw [simpleTypeChars_qualifiedName isLast, lastGap_map_closed, List.nil_append]

/-! ## Where simple names are compared -/

/-- Descriptors stand for the same targets, whatever targets there are, exactly
when their simple names are the same. -/
theorem GenerationPlan.targetOf?_eq_iff
    {left right : String} :
    (∀ targets, targetOf? targets left = targetOf? targets right) ↔
      simpleTypeName left = simpleTypeName right := by
  constructor
  · intro sameTargets
    let target : ClassDeclaration := ⟨simpleTypeName left, none, [], []⟩
    have found : targetOf? [target] left = some target := by
      simp [targetOf?, target]
    rw [sameTargets] at found
    exact (targetOf?_eq_some_iff.mp found).2
  · intro same targets
    rw [targetOf?, targetOf?, same]

/-- A descriptor whose simple name begins with a blank names no storage
class. -/
theorem Naming.storedEntity?_eq_none_of_beginsBlank
    {descriptor : String}
    (begins : BeginsBlank (simpleTypeChars descriptor.toList)) :
    storedEntity? descriptor = none := by
  rw [Option.eq_none_iff_forall_ne_some]
  intro entity stored
  rw [(storedEntity?_eq_some_iff.mp stored).2] at begins
  obtain ⟨c, first, blank⟩ := begins
  have start : storageStart.toList.head? = some 'P' := by decide
  rw [List.head?_append_of_ne_nil _ (by decide), start] at first
  cases first
  revert blank
  decide

/-- The storage class that a descriptor names depends on its simple name
only. -/
theorem Naming.storedEntity?_congr
    {left right : String}
    (same : simpleTypeChars left.toList = simpleTypeChars right.toList) :
    storedEntity? left = storedEntity? right := by
  rw [storedEntity?, storedEntity?, same]

/-- A qualified name stands for the same targets with and without blanks around
its separators exactly when there are none behind the last one. -/
theorem GenerationPlan.targetOf?_qualifiedName_iff
    (isLast : IsLastSegment last) :
    (∀ targets, targetOf? targets (qualifiedName qualifiers last) =
        targetOf? targets
          (qualifiedName (qualifiers.map Qualifier.closed) last)) ↔
      lastGap qualifiers = [] := by
  rw [targetOf?_eq_iff, simpleTypeName, simpleTypeName, String.ofList_inj,
    simpleTypeChars_qualifiedName isLast,
    simpleTypeChars_qualifiedName_closed isLast, List.append_left_eq_self]

/-- A qualified name names the same storage class with and without blanks around
its separators exactly when there are none behind the last one, or when its last
segment names no storage class. -/
theorem Naming.storedEntity?_qualifiedName_iff
    (isLast : IsLastSegment last) :
    storedEntity? (qualifiedName qualifiers last) =
        storedEntity? (qualifiedName (qualifiers.map Qualifier.closed) last) ↔
      lastGap qualifiers = [] ∨ storedEntity? last = none := by
  have spaced : simpleTypeChars (qualifiedName qualifiers last).toList =
      lastGap qualifiers ++ last.toList :=
    simpleTypeChars_qualifiedName isLast
  have closed :
      storedEntity? (qualifiedName (qualifiers.map Qualifier.closed) last) =
      storedEntity? last :=
    storedEntity?_congr
      ((simpleTypeChars_qualifiedName_closed isLast).trans
        isLast.simpleTypeChars_eq.symm)
  rw [closed]
  cases gap : lastGap qualifiers with
  | nil =>
      rw [gap, List.nil_append, ← isLast.simpleTypeChars_eq] at spaced
      simp [storedEntity?_congr spaced]
  | cons c others =>
      have begins :
          BeginsBlank
          (simpleTypeChars (qualifiedName qualifiers last).toList) := by
        rw [spaced, gap]
        exact ⟨c, rfl, isBlank_of_mem_lastGap (gap ▸ List.mem_cons_self)⟩
      rw [storedEntity?_eq_none_of_beginsBlank begins]
      simp [eq_comm]

/-- No separator occurs in the simple name of a descriptor, and the trimmed
descriptor ends in it.  To take the simple name again only cuts off the blanks
in front, so that changes nothing exactly when there are none.  In a qualified
name they are the blanks behind the last separator: the name is looked up, and
taken for a storage class, as it is without blanks around its separators exactly
when there are none behind the last one or, for storage classes, when it names
none in any case. -/
theorem simple_names_exact
    (descriptor : String) :
    Unqualified (simpleTypeName descriptor).toList ∧
      EndsInSegment (trim descriptor.toList)
        (simpleTypeName descriptor).toList ∧
      (simpleTypeName (simpleTypeName descriptor)).toList =
        trimStart (simpleTypeName descriptor).toList ∧
      (simpleTypeName (simpleTypeName descriptor) = simpleTypeName descriptor ↔
        ¬BeginsBlank (simpleTypeName descriptor).toList) ∧
      ∀ qualifiers last, IsLastSegment last →
        descriptor = qualifiedName qualifiers last →
        (simpleTypeName descriptor).toList = lastGap qualifiers ++ last.toList ∧
          ((∀ targets, GenerationPlan.targetOf? targets descriptor =
              GenerationPlan.targetOf? targets
                (qualifiedName (qualifiers.map Qualifier.closed) last)) ↔
            lastGap qualifiers = []) ∧
          (Naming.storedEntity? descriptor =
              Naming.storedEntity?
                (qualifiedName (qualifiers.map Qualifier.closed) last) ↔
            lastGap qualifiers = [] ∨ Naming.storedEntity? last = none) := by
  have twice : (simpleTypeName (simpleTypeName descriptor)).toList =
      trimStart (simpleTypeName descriptor).toList := by
    simp only [toList_simpleTypeName, simpleTypeChars_simpleTypeChars]
  refine ⟨?_, ?_, twice, ?_, ?_⟩
  · rw [toList_simpleTypeName]
    exact unqualified_simpleTypeChars descriptor.toList
  · rw [toList_simpleTypeName]
    exact endsInSegment_simpleTypeChars descriptor.toList
  · rw [← String.toList_inj, twice, not_beginsBlank_iff]
  · rintro qualifiers last isLast rfl
    refine ⟨?_, GenerationPlan.targetOf?_qualifiedName_iff isLast,
      Naming.storedEntity?_qualifiedName_iff isLast⟩
    rw [toList_simpleTypeName, simpleTypeChars_qualifiedName isLast]

theorem isBlank_of_mem_space : ∀ c ∈ [' '], isBlank c = true :=
  List.forall_mem_singleton.mpr (by decide)

/-- A package with a blank in front of its first separator and one behind its
last. -/
def spacedPackage : List Qualifier :=
  [⟨['c', 'o', 'm'], [' '], .dot, [], isBlank_of_mem_space,
    List.forall_mem_nil _⟩,
    ⟨['a', 'p', 'p'], [], .path, [' '], List.forall_mem_nil _,
      isBlank_of_mem_space⟩]

theorem isLastSegment_settingsClass : IsLastSegment "Preference_Settings" :=
  ⟨by decide, isSegment_of_not_mem (by decide) (by decide), by decide⟩

/-- A descriptor of a storage class behind a package, with blanks around the
separators. -/
def spacedSettings : String :=
  "com .app:: Preference_Settings"

theorem spacedSettings_simple_names :
    IsLastSegment "Preference_Settings" ∧
      spacedSettings = qualifiedName spacedPackage "Preference_Settings" ∧
      (simpleTypeName spacedSettings).toList =
        lastGap spacedPackage ++ "Preference_Settings".toList ∧
      ((∀ targets, GenerationPlan.targetOf? targets spacedSettings =
          GenerationPlan.targetOf? targets
            (qualifiedName (spacedPackage.map Qualifier.closed)
              "Preference_Settings")) ↔
        lastGap spacedPackage = []) ∧
      (Naming.storedEntity? spacedSettings =
          Naming.storedEntity?
            (qualifiedName (spacedPackage.map Qualifier.closed)
              "Preference_Settings") ↔
        lastGap spacedPackage = [] ∨
          Naming.storedEntity? "Preference_Settings" = none) := by
  have spelled : spacedSettings =
      qualifiedName spacedPackage "Preference_Settings" := by
    decide
  obtain ⟨-, -, -, -, spaced⟩ := simple_names_exact spacedSettings
  exact ⟨isLastSegment_settingsClass, spelled,
    spaced spacedPackage _ isLastSegment_settingsClass spelled⟩

/-- The package `app` with a blank behind its separator. -/
def spacedApp : Qualifier :=
  ⟨['a', 'p', 'p'], [], .dot, [' '], List.forall_mem_nil _,
    isBlank_of_mem_space⟩

/-- A blank behind the last separator stays in the simple name, so the name is
neither found among the targets nor taken for a storage class. -/
theorem not_forall_simple_names :
    (¬∀ descriptor,
      simpleTypeName (simpleTypeName descriptor) = simpleTypeName descriptor) ∧
      (¬∀ qualifiers last, IsLastSegment last → ∀ targets,
        GenerationPlan.targetOf? targets (qualifiedName qualifiers last) =
          GenerationPlan.targetOf? targets
            (qualifiedName (qualifiers.map Qualifier.closed) last)) ∧
      ¬∀ qualifiers last, IsLastSegment last →
        Naming.storedEntity? (qualifiedName qualifiers last) =
          Naming.storedEntity?
            (qualifiedName (qualifiers.map Qualifier.closed) last) := by
  refine ⟨?_, ?_, ?_⟩
  · intro allSame
    have same := allSame "app. Screen"
    revert same
    decide +kernel
  · intro allSame
    have isLast : IsLastSegment "Screen" :=
      ⟨by decide, isSegment_of_not_mem (by decide) (by decide), by decide⟩
    have same := allSame [spacedApp] _ isLast [⟨"Screen", some "app", [], []⟩]
    revert same
    decide +kernel
  · intro allSame
    have same := allSame [spacedApp] _ isLastSegment_settingsClass
    revert same
    decide +kernel

end PreferenceSchema
