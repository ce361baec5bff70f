import Mathlib.Data.List.Sort
import PreferenceSchema.Proofs.OptionForms
import PreferenceSchema.Proofs.ReferableNames
import PreferenceSchema.Proofs.SourceClasses
import PreferenceSchema.Proofs.SourceWords

/-!
# Names in component options

A component annotation has the names that its options list as one text, with
commas between them, and the schema takes the text apart again.  Words of a
source have neither commas nor blanks, so the last words of the paths in an
option come back as they were.
-/

namespace PreferenceSchema

open Traversal

namespace Text

/-- Solid characters are neither cut off at the ends nor taken apart at
commas. -/
theorem trim_eq_self_of_solid
    {text : List Char}
    (solid : ∀ c ∈ text, IsSolid c) : trim text = text := by
  apply trim_eq_self_of_forall
  intro c present
  exact (solid c present).2

theorem notMem_of_solid
    {text : List Char}
    (solid : ∀ c ∈ text, IsSolid c) : ',' ∉ text := by
  intro present
  exact (solid ',' present).1 rfl

end Text

namespace NameSet

/-- Two sets with the same names are one. -/
theorem eq_of_contains_eq
    {left right : NameSet}
    (same : ∀ name, left.contains name = true ↔ right.contains name = true) :
    left = right := by
  obtain ⟨leftNames, leftOrdered⟩ := left
  obtain ⟨rightNames, rightOrdered⟩ := right
  have sameNames : leftNames = rightNames := by
    have irreflexive : Std.Irrefl (α := String) (· < ·) := ⟨String.lt_irrefl⟩
    apply leftOrdered.eq_of_mem_iff rightOrdered
    intro name
    simpa [contains] using same name
  subst sameNames
  rfl

end NameSet

/-- Names that were joined are those that the text is taken apart into. -/
theorem ComponentSchema.splitNames_intercalate
    {names : List String}
    (solid : ∀ name ∈ names, name.toList ≠ [] ∧
      ∀ c ∈ name.toList, Text.IsSolid c) :
    splitNames (",".intercalate names) = names := by
  cases names with
  | nil => rfl
  | cons first rest =>
      have pieces : Text.splitAt ',' (",".intercalate (first :: rest)).toList =
          (first :: rest).map String.toList := by
        rw [String.toList_intercalate]
        apply Text.splitAt_intercalate
        · exact List.cons_ne_nil _ _
        · rw [List.forall_mem_map]
          intro name present
          exact Text.notMem_of_solid (solid name present).2
      unfold splitNames
      rw [pieces, List.map_map, List.filterMap_map]
      have kept : ∀ name ∈ first :: rest,
          (if Text.trim name.toList = [] then none
            else some (String.ofList (Text.trim name.toList))) = some name := by
        intro name present
        obtain ⟨nonempty, characters⟩ := solid name present
        rw [Text.trim_eq_self_of_solid characters, if_neg nonempty,
          String.ofList_toList]
      exact (List.filterMap_congr kept).trans List.filterMap_some

namespace Source

/-! ## Words of options -/

theorem hasSourceWords_cons_iff
    {tree : TokenTree}
    {rest : List TokenTree} :
    HasSourceWords (tree :: rest) ↔
      (∀ name ∈ tree.words, IsSourceWord name) ∧ HasSourceWords rest := by
  unfold HasSourceWords
  rw [TokenTree.listWords, List.forall_mem_append]

/-- A path whose last word is a word of the source. -/
def Path.EndsInWord (path : Path) : Prop :=
  ∃ name, path.lastName? = some name ∧ IsSourceWord name

/-- The last of some words ahead is a word of the source. -/
theorem WordsAhead.words
    {tokens rest : Tokens}
    {names : List String}
    (ahead : WordsAhead tokens names rest)
    (hasWords : HasSourceWords tokens) :
    (∃ name, names.getLast? = some name ∧ IsSourceWord name) ∧
      HasSourceWords rest := by
  induction ahead with
  | @last name rest _ =>
      obtain ⟨isWord, restWords⟩ := hasSourceWords_cons_iff.mp hasWords
      exact ⟨⟨name, rfl, isWord name (List.mem_singleton_self name)⟩, restWords⟩
  | @cons name joint middle names rest later inductionHypothesis =>
      simp only [hasSourceWords_cons_iff] at hasWords
      obtain ⟨-, -, -, middleWords⟩ := hasWords
      obtain ⟨⟨last, isLast, isWord⟩, restWords⟩ :=
        inductionHypothesis middleWords
      refine ⟨⟨last, ?_, isWord⟩, restWords⟩
      rw [List.getLast?_cons, isLast]
      rfl

theorem PathAhead.endsInWord
    {tokens rest : Tokens}
    {path : Path}
    (ahead : PathAhead tokens path rest)
    (hasWords : HasSourceWords tokens) :
    path.EndsInWord ∧ HasSourceWords rest := by
  have ofWords {rooted : Bool} {tokens : Tokens} {names : List String}
      (words : WordsAhead tokens names rest)
        (hasWords : HasSourceWords tokens) :
      Path.EndsInWord ⟨rooted, names.map .ofWord⟩ ∧ HasSourceWords rest := by
    obtain ⟨⟨name, isLast, isWord⟩, restWords⟩ := words.words hasWords
    refine ⟨⟨name, ?_, isWord⟩, restWords⟩
    simp [Path.lastName?, isLast, PathSegment.ofWord]
  cases ahead with
  | plain words => exact ofWords words hasWords
  | rooted words =>
      simp only [hasSourceWords_cons_iff] at hasWords
      exact ofWords words hasWords.2.2

/-- What holds of each element that is read off words of the source holds of all
in a list. -/
theorem Listed.forall_mem
    {α : Type}
    {element : Tokens → α → Tokens → Prop}
    {property : α → Prop}
    {tokens : Tokens}
    {values : List α}
    (listed : Listed element tokens values)
    (hasWords : HasSourceWords tokens)
    (each : ∀ {tokens value rest}, element tokens value rest →
      HasSourceWords tokens →
      property value ∧ HasSourceWords rest) : ∀ value ∈ values,
      property value := by
  induction listed with
  | last found => exact List.forall_mem_singleton.mpr (each found hasWords).1
  | trailing found =>
    exact List.forall_mem_singleton.mpr (each found hasWords).1
  | cons found _ inductionHypothesis =>
      obtain ⟨holds, restWords⟩ := each found hasWords
      have laterWords := (hasSourceWords_cons_iff.mp restWords).2
      exact List.forall_mem_cons.mpr ⟨holds, inductionHypothesis laterWords⟩

namespace ComponentOption

/-- An option whose paths end in words of the source. -/
def EndsInWords : ComponentOption → Prop
  | .text _ _ => True
  | .paths _ entities => ∀ path ∈ entities, path.EndsInWord

/-- The names that an option lists: what stands between the commas of its text,
without blanks around it and unless it is empty, or the last words of its
paths. -/
def Names : ComponentOption → String → Prop
  | .text _ value, name =>
    name ≠ "" ∧ ∃ piece ∈ Text.splitAt ',' value.toList, Text.trim piece =
      name.toList
  | .paths _ entities, name => ∃ path ∈ entities, path.lastName? = some name

/-- The names in the value that an option stands for are those that it lists. -/
theorem mem_splitNames_value_iff
    {option : ComponentOption}
    (endsInWords : option.EndsInWords)
    {name : String} :
    name ∈ ComponentSchema.splitNames option.value.2 ↔ option.Names name := by
  cases option with
  | text _ value => exact ComponentSchema.mem_splitNames_iff
  | paths _ entities =>
      have ownName {path : Path} (present : path ∈ entities) {name : String} :
          path.ownName = name ↔ path.lastName? = some name := by
        obtain ⟨last, isLast, -⟩ := endsInWords path present
        rw [Path.ownName, isLast, Option.getD_some, Option.some.injEq]
      have solid : ∀ name ∈ entities.map Path.ownName,
          name.toList ≠ [] ∧ ∀ c ∈ name.toList, Text.IsSolid c := by
        rw [List.forall_mem_map]
        intro path present
        obtain ⟨last, isLast, isWord⟩ := endsInWords path present
        rw [(ownName present).mpr isLast]
        exact isWord.solid
      change name ∈ ComponentSchema.splitNames
        (",".intercalate (entities.map Path.ownName)) ↔ _
      rw [ComponentSchema.splitNames_intercalate solid, List.mem_map]
      apply exists_congr
      intro path
      apply and_congr_right
      intro present
      exact ownName present

end ComponentOption

/-- The paths of an option ahead end in words of the source. -/
theorem ComponentOptionAhead.endsInWords
    {tokens rest : Tokens}
    {option : ComponentOption}
    (ahead : ComponentOptionAhead tokens option rest)
    (hasWords : HasSourceWords tokens) :
    option.EndsInWords ∧ HasSourceWords rest := by
  cases ahead with
  | text path _ =>
      have behind := (path.endsInWord hasWords).2
      simp only [hasSourceWords_cons_iff] at behind
      exact ⟨trivial, behind.2.2⟩
  | @paths _ _ _ entities path listed =>
      have behind := (path.endsInWord hasWords).2
      obtain ⟨contentWords, restWords⟩ := hasSourceWords_cons_iff.mp behind
      rw [TokenTree.words] at contentWords
      have entityWords : ∀ path ∈ entities, path.EndsInWord :=
        listed.forall_mem contentWords PathAhead.endsInWord
      exact ⟨entityWords, restWords⟩

/-! ## Options of a class -/

/-- The words in the parentheses of the component attributes of a class are
words of the source. -/
def SourceClass.HasOptionWords (source : SourceClass) : Prop :=
  ∀ mark ∈ source.attributes, mark.isNamed componentAttribute = true →
    ∀ delimiter tokens, mark.content = .list delimiter tokens →
    HasSourceWords tokens

/-- An option stands in one of the component attributes of a class. -/
def SourceClass.HasOption
    (source : SourceClass)
    (option : ComponentOption) : Prop :=
  ∃ mark ∈ source.attributes, mark.isNamed componentAttribute = true ∧
    ∃ options, mark.WritesOptions options ∧ option ∈ options

theorem Attribute.WritesOptions.endsInWords
    {mark : Attribute}
    {options : List ComponentOption}
    (writes : mark.WritesOptions options)
    (hasWords : ∀ delimiter tokens, mark.content = .list delimiter tokens →
      HasSourceWords tokens) :
    ∀ option ∈ options, option.EndsInWords := by
  obtain ⟨delimiter, tokens, content, ⟨-, rfl⟩ | listed⟩ := writes
  · exact List.forall_mem_nil _
  · exact listed.forall_mem (hasWords delimiter tokens content)
      ComponentOptionAhead.endsInWords

/-- The paths of all options of a class end in words of its source. -/
theorem SourceClass.endsInWords_of_hasOption
    {source : SourceClass}
    {option : ComponentOption}
    (words : source.HasOptionWords)
    (hasOption : source.HasOption option) : option.EndsInWords := by
  obtain ⟨mark, present, isNamed, options, writes, inOptions⟩ := hasOption
  exact writes.endsInWords (words mark present isNamed) option inOptions

/-- The component annotation has the values of the options of all component
attributes. -/
theorem readComponentMark_eq_ok_iff
    {attributes : List Attribute}
    {result : Annotation} :
    readComponentMark attributes = .ok result ↔
      ∃ lists, List.Forall₂ Attribute.WritesOptions
          (attributes.filter (Attribute.isNamed componentAttribute)) lists ∧
        result =
          ⟨Naming.componentMark, lists.flatten.map ComponentOption.value⟩ := by
  unfold readComponentMark
  apply bind_eq_ok_iff.trans
  apply exists_congr
  intro lists
  apply and_congr
  · rw [mapM_eq_ok_iff]
    unfold Yields
    simp only [mapError_eq_ok_iff, Attribute.options_componentOption_eq_ok_iff]
  · exact (Except.ok.injEq _ _).to_iff.trans eq_comm

theorem SourceClass.hasOption_iff_mem_flatten
    {source : SourceClass}
    {lists : List (List ComponentOption)}
    (written : List.Forall₂ Attribute.WritesOptions
      (source.attributes.filter (Attribute.isNamed componentAttribute)) lists)
    {option : ComponentOption} :
    source.HasOption option ↔ option ∈ lists.flatten := by
  have yields : Yields (fun mark : Attribute => mark.options componentOption)
      (source.attributes.filter (Attribute.isNamed componentAttribute)) lists :=
    written.imp fun _ _ writes =>
      Attribute.options_componentOption_eq_ok_iff.mpr writes
  unfold SourceClass.HasOption
  rw [List.mem_flatten]
  simp only [yields.mem_iff, List.mem_filter,
    Attribute.options_componentOption_eq_ok_iff]
  constructor
  · rintro ⟨mark, present, isNamed, options, writes, inOptions⟩
    exact ⟨options, ⟨mark, ⟨present, isNamed⟩, writes⟩, inOptions⟩
  · rintro ⟨options, ⟨mark, ⟨present, isNamed⟩, writes⟩, inOptions⟩
    exact ⟨mark, present, isNamed, options, writes, inOptions⟩

end Source
end PreferenceSchema
