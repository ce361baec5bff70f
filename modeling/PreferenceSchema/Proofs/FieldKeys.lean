import PreferenceSchema.KeyField
import PreferenceSchema.Proofs.SourceMembers
import PreferenceSchema.Proofs.TextPieces

/-!
# Keys of fields

The key of a field is the last key option in the first of its attributes that
has one, without the blanks around it.  A field without key options, or with a
blank key, has its name as its key.
-/

namespace PreferenceSchema

open Traversal

namespace Source

/-! ## Options -/

/-- The text of a key option. -/
def FieldOption.key? : FieldOption → Option String
  | .key text => some text
  | .default _ _ => none

/-- The texts of the key options in an attribute of a field. -/
def FieldMark.keys : FieldMark → List String
  | .options list => list.filterMap FieldOption.key?
  | .injected => []
  | .nothing => []

/-- The texts of the key options in the attributes of a field. -/
def Field.keyTexts (field : Field) : List String :=
  field.attributes.flatMap fun mark =>
    match FieldMark.ofAttribute mark with
    | .ok said => said.keys
    | .error _ => []

/-- Of options that are repeated the last key holds. -/
theorem FieldOptions.key_ofList
    (list : List FieldOption) :
    (ofList list).key = (list.filterMap FieldOption.key?).getLast? := by
  have step (options : FieldOptions) (option : FieldOption) :
      (options.add option).key = option.key?.or options.key := by
    cases option <;> rfl
  rw [ofList, FieldOptions.last_foldl_add step]
  exact Option.or_none

/-! ## Annotations -/

/-- The annotation that gives a field a key. -/
def keyMarking (key : String) : Annotation :=
  ⟨Naming.keyMark, [("name", key)]⟩

/-- The annotations that an attribute of a field stands for. -/
def FieldMark.annotations : FieldMark → List Annotation
  | .options list =>
    ((list.filterMap FieldOption.key?).getLast?.map keyMarking).toList
  | .injected => [⟨Naming.injectMark, []⟩]
  | .nothing => []

theorem FieldMark.annotations_addTo
    (member : Member)
    (mark : FieldMark) :
    (mark.addTo member).annotations =
      member.annotations ++ mark.annotations := by
  cases mark with
  | options list =>
      rw [addTo, annotations, ← FieldOptions.key_ofList]
      obtain ⟨key, default⟩ := FieldOptions.ofList list
      cases key <;> cases default <;>
        simp [FieldOptions.applyTo, Member.annotated, Member.initializedAs,
          keyMarking]
  | injected => rfl
  | nothing => exact (List.append_nil _).symm

/-- The attributes of a field add their annotations to its member, in order. -/
theorem FieldMark.annotations_foldl_addTo
    (member : Member)
    (marks : List FieldMark) :
    (marks.foldl addTo member).annotations =
      member.annotations ++ marks.flatMap annotations := by
  induction marks generalizing member with
  | nil => exact (List.append_nil _).symm
  | cons first rest inductionHypothesis =>
      rw [List.foldl_cons, inductionHypothesis, annotations_addTo,
        List.flatMap_cons, List.append_assoc]

theorem FieldMark.find?_keyMark_annotations
    (mark : FieldMark) :
    mark.annotations.find? (fun annotation =>
      annotation.name == Naming.keyMark) =
      mark.keys.getLast?.map keyMarking := by
  cases mark with
  | options list =>
      rw [annotations, keys]
      cases (list.filterMap FieldOption.key?).getLast? <;> rfl
  | injected => rfl
  | nothing => rfl

/-- The first attribute with a key gives a member its key. -/
theorem FieldMark.annotationNamed?_keyMark_foldl_addTo
    (member : Member)
    (marks : List FieldMark) :
    (marks.foldl addTo member).annotationNamed? Naming.keyMark =
      (member.annotationNamed? Naming.keyMark).or
        ((marks.findSome? fun mark => mark.keys.getLast?).map keyMarking) := by
  rw [Member.annotationNamed?, annotationNamed?, annotations_foldl_addTo,
    List.find?_append, List.find?_flatMap, List.map_findSome?]
  simp only [find?_keyMark_annotations]
  rfl

/-! ## Keys -/

theorem Field.keyTexts_of_yields
    {field : Field}
    {marks : List FieldMark}
    (yields : Yields FieldMark.ofAttribute field.attributes marks) :
    field.keyTexts = marks.flatMap FieldMark.keys := by
  rw [keyTexts]
  generalize field.attributes = attributes at yields
  induction yields with
  | nil => rfl
  | cons made _ inductionHypothesis =>
      rw [List.flatMap_cons, List.flatMap_cons, inductionHypothesis, made]

theorem Field.annotationNamed?_plainMember
    (field : Field)
    (name : String) :
    (field.plainMember name).annotationNamed? Naming.keyMark = none := by
  rw [plainMember]
  cases field.isPublic <;> rfl

/-- The first key of marks is one of their keys. -/
theorem FieldMark.mem_keys_of_findSome?_eq_some
    {marks : List FieldMark}
    {key : String}
    (found : (marks.findSome? fun mark => mark.keys.getLast?) = some key) :
    key ∈ marks.flatMap keys := by
  obtain ⟨mark, present, last⟩ := List.exists_of_findSome?_eq_some found
  exact List.mem_flatMap_of_mem present (List.mem_of_getLast? last)

/-- The key that the text of a key option gives a field with a name. -/
def keyOfText (name text : String) : String :=
  match Text.trim text.toList with
  | [] => name
  | trimmed => String.ofList trimmed

/-- The first attribute of a field with a key gives its member the key. -/
theorem Field.keyNameOf_foldl_addTo
    (field : Field)
    (name : String)
    (marks : List FieldMark) :
    KeyField.keyNameOf (marks.foldl FieldMark.addTo (field.plainMember name)) =
      (marks.findSome? fun mark => mark.keys.getLast?).elim name
        (keyOfText name) := by
  obtain ⟨-, memberName, -⟩ :=
    Member.outline_eq_iff.mp (outline_foldl_addTo field name marks)
  rw [KeyField.keyNameOf, FieldMark.annotationNamed?_keyMark_foldl_addTo,
    annotationNamed?_plainMember, Option.none_or, memberName]
  cases marks.findSome? fun mark => mark.keys.getLast? <;> rfl

/-- The key of a field is its name unless it has key options, and else what the
text of one of these gives it. -/
theorem Field.keyNameOf_of_toMember_eq_ok
    {field : Field}
    {member : Member}
    (made : field.toMember = .ok member) :
    ∃ name, field.name = some name ∧
      ((field.keyTexts = [] ∧ KeyField.keyNameOf member = name) ∨
        ∃ text ∈ field.keyTexts, KeyField.keyNameOf member =
          keyOfText name text) := by
  obtain ⟨name, marks, named, yields, rfl⟩ := toMember_eq_ok_iff.mp made
  refine ⟨name, named, ?_⟩
  rw [keyTexts_of_yields yields, keyNameOf_foldl_addTo]
  cases found : marks.findSome? fun mark => mark.keys.getLast? with
  | none =>
      left
      refine ⟨List.flatMap_eq_nil_iff.mpr fun mark present => ?_, rfl⟩
      exact List.getLast?_eq_none_iff.mp
        (List.findSome?_eq_none_iff.mp found mark present)
  | some text =>
      right
      exact ⟨text, FieldMark.mem_keys_of_findSome?_eq_some found, rfl⟩

end Source
end PreferenceSchema
