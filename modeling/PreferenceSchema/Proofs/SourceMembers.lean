import PreferenceSchema.Proofs.Traversal
import PreferenceSchema.Source.Members

/-!
# Members from source items

A field of a structure becomes a field with its name and the descriptor of its
type, and a function a method with its name and the descriptor of its result.
Attributes and parameters add to such a member, but change nothing of this.
-/

namespace PreferenceSchema

open Traversal

/-- The kind, the name and the type of a member. -/
def Member.outline (member : Member) : MemberKind × String × String :=
  (member.kind, member.name, member.typeName)

theorem Member.outline_eq_iff
    {member : Member}
    {kind : MemberKind}
    {name typeName : String} :
    member.outline = (kind, name, typeName) ↔
      member.kind = kind ∧ member.name = name ∧ member.typeName = typeName := by
  rw [outline, Prod.mk.injEq, Prod.mk.injEq]

@[simp] theorem Member.outline_withModifier
    (member : Member)
    (modifier : Modifier) :
    (member.withModifier modifier).outline = member.outline := by
  rw [withModifier]
  split <;> rfl

/-- Steps that keep the outline keep it together. -/
theorem Member.outline_foldl
    {α : Type}
    {step : Member → α → Member}
    (keeps : ∀ member item, (step member item).outline = member.outline)
    (member : Member)
    (items : List α) : (items.foldl step member).outline = member.outline := by
  induction items generalizing member with
  | nil => rfl
  | cons first rest inductionHypothesis =>
      rw [List.foldl_cons, inductionHypothesis, keeps]

namespace Source

/-! ## Fields -/

/-- Of options that are repeated the last one holds, whichever kind of option it
is. -/
theorem FieldOptions.last_foldl_add
    {α : Type}
    {held : FieldOptions → Option α}
    {given : FieldOption → Option α}
    (step : ∀ options option,
      held (options.add option) = (given option).or (held options))
    (options : FieldOptions)
    (list : List FieldOption) :
    held (list.foldl add options) =
      (list.filterMap given).getLast?.or (held options) := by
  induction list generalizing options with
  | nil => rfl
  | cons first rest inductionHypothesis =>
      rw [List.foldl_cons, inductionHypothesis, step, List.filterMap_cons]
      cases given first with
      | none => rfl
      | some value =>
          rw [List.getLast?_cons]
          cases (rest.filterMap given).getLast? <;> rfl

theorem FieldOptions.outline_applyTo
    (options : FieldOptions)
    (member : Member) : (options.applyTo member).outline = member.outline := by
  obtain ⟨key, default⟩ := options
  cases key <;> cases default <;> rfl

theorem FieldMark.outline_addTo
    (member : Member)
    (mark : FieldMark) : (mark.addTo member).outline = member.outline := by
  cases mark with
  | options list => exact FieldOptions.outline_applyTo _ member
  | injected => rfl
  | nothing => rfl

/-- The options of an attribute that has some. -/
def FieldMark.options? : FieldMark → Option (List FieldOption)
  | .options list => some list
  | .injected => none
  | .nothing => none

theorem FieldMark.ofAttribute_of_isNamed
    {mark : Attribute}
    {list : List FieldOption}
    (isNamed : mark.isNamed fieldAttribute = true)
    (read : mark.options fieldOption = .ok list) :
    ofAttribute mark = .ok (.options list) := by
  rw [ofAttribute, if_pos isNamed, read]
  rfl

/-- An attribute of another name has no options. -/
theorem FieldMark.exists_ofAttribute_of_not_isNamed
    {mark : Attribute}
    (other : ¬mark.isNamed fieldAttribute = true) :
    ∃ said, ofAttribute mark = .ok said ∧ said.options? = none := by
  rw [ofAttribute, if_neg other]
  split
  case isTrue => exact ⟨.injected, rfl, rfl⟩
  case isFalse => exact ⟨.nothing, rfl, rfl⟩

/-- Attributes that have options say these, whatever other attributes stand
between them. -/
theorem FieldMark.exists_yields_of_options
    {attributes : List Attribute}
    {groups : List (List FieldOption)}
    (yields : Yields (fun mark : Attribute => mark.options fieldOption)
      (attributes.filter (Attribute.isNamed fieldAttribute)) groups) :
    ∃ marks, Yields ofAttribute attributes marks ∧
      marks.filterMap options? = groups := by
  induction attributes generalizing groups with
  | nil =>
      obtain rfl := yields_nil_iff.mp yields
      exact ⟨[], .nil, rfl⟩
  | cons mark rest inductionHypothesis =>
      by_cases isNamed : mark.isNamed fieldAttribute = true
      · rw [List.filter_cons_of_pos isNamed, yields_cons_iff] at yields
        obtain ⟨list, others, read, restYields, rfl⟩ := yields
        obtain ⟨marks, marksYield, rfl⟩ := inductionHypothesis restYields
        exact ⟨.options list :: marks,
          .cons (ofAttribute_of_isNamed isNamed read) marksYield, rfl⟩
      · rw [List.filter_cons_of_neg isNamed] at yields
        obtain ⟨marks, marksYield, equal⟩ := inductionHypothesis yields
        obtain ⟨said, made, noOptions⟩ :=
          exists_ofAttribute_of_not_isNamed isNamed
        refine ⟨said :: marks, .cons made marksYield, ?_⟩
        rw [List.filterMap_cons_none noOptions, equal]

/-- The member of a field holds what its attributes say, one after the other. -/
theorem Field.toMember_eq_ok_iff
    {field : Field}
    {member : Member} :
    field.toMember = .ok member ↔
      ∃ name marks, field.name = some name ∧
        Yields FieldMark.ofAttribute field.attributes marks ∧
        member = marks.foldl FieldMark.addTo (field.plainMember name) := by
  rw [toMember]
  cases field.name with
  | none => simp
  | some name =>
      constructor
      · intro made
        obtain ⟨marks, marksMade, equal⟩ := bind_eq_ok_iff.mp made
        exact ⟨name, marks, rfl, mapM_eq_ok_iff.mp marksMade,
          (Except.ok.inj equal).symm⟩
      · rintro ⟨_, marks, ⟨⟩, yields, rfl⟩
        exact bind_eq_ok_iff.mpr ⟨marks, mapM_eq_ok_iff.mpr yields, rfl⟩

/-- Attributes do not change that a member is a field with its name and the
descriptor of its type. -/
theorem Field.outline_foldl_addTo
    (field : Field)
    (name : String)
    (marks : List FieldMark) :
    (marks.foldl FieldMark.addTo (field.plainMember name)).outline =
      (.field, name, field.type.descriptor) := by
  rw [Member.outline_foldl FieldMark.outline_addTo, plainMember,
    Member.outline_withModifier]
  rfl

/-- The member of a field is a field with its name and the descriptor of its
type. -/
theorem Field.outline_of_toMember_eq_ok
    {field : Field}
    {member : Member}
    (made : field.toMember = .ok member) :
    ∃ name, field.name = some name ∧
      member.outline = (.field, name, field.type.descriptor) := by
  obtain ⟨name, marks, named, -, rfl⟩ := toMember_eq_ok_iff.mp made
  exact ⟨name, named, outline_foldl_addTo field name marks⟩

/-! ## Functions -/

namespace Function

variable {α : Type}

@[simp] theorem errorsOf_nil :
    errorsOf ([] : List (Except AttributeError α)) = [] := rfl

@[simp] theorem errorsOf_cons_ok
    (value : α)
    (rest : List (Except AttributeError α)) :
    errorsOf (.ok value :: rest) = errorsOf rest := rfl

@[simp] theorem errorsOf_cons_error
    (error : AttributeError)
    (rest : List (Except AttributeError α)) :
    errorsOf (.error error :: rest) = error :: errorsOf rest := rfl

@[simp] theorem errorsOf_append
    (first second : List (Except AttributeError α)) :
    errorsOf (first ++ second) = errorsOf first ++ errorsOf second :=
  List.filterMap_append

@[simp] theorem valuesOf_cons_ok
    (value : α)
    (rest : List (Except AttributeError α)) :
    valuesOf (.ok value :: rest) = value :: valuesOf rest := rfl

@[simp] theorem valuesOf_cons_error
    (error : AttributeError)
    (rest : List (Except AttributeError α)) :
    valuesOf (.error error :: rest) = valuesOf rest := rfl

@[simp] theorem valuesOf_append
    (first second : List (Except AttributeError α)) :
    valuesOf (first ++ second) = valuesOf first ++ valuesOf second :=
  List.filterMap_append

end Function

/-- Without errors the values of some outcomes are the results of the items. -/
theorem yields_valuesOf
    {α β : Type}
    {step : α → Except AttributeError β}
    {items : List α}
    (noErrors : Function.errorsOf (items.map step) = []) :
    Yields step items (Function.valuesOf (items.map step)) := by
  induction items with
  | nil => exact .nil
  | cons first rest inductionHypothesis =>
      cases made : step first with
      | error error => simp [made] at noErrors
      | ok value =>
          rw [List.map_cons, made, Function.errorsOf_cons_ok] at noErrors
          rw [List.map_cons, made, Function.valuesOf_cons_ok]
          exact .cons made (inductionHypothesis noErrors)

/-- Where each item has a result there are no errors. -/
theorem errorsOf_of_yields
    {α β : Type}
    {step : α → Except AttributeError β}
    {items : List α}
    {results : List β}
    (yields : Yields step items results) :
    Function.errorsOf (items.map step) = [] := by
  induction yields with
  | nil => rfl
  | cons made _ inductionHypothesis =>
      rw [List.map_cons, made, Function.errorsOf_cons_ok, inductionHypothesis]

/-- The parameter that an argument is, unless it is a receiver. -/
def Argument.parameter? : Argument → Option Parameter
  | .receiver => none
  | .typed pattern type => some ⟨pattern.parameterName, type.descriptor⟩

/-- The parameters of a function, without its receiver. -/
def Function.parameters (function : Function) : List Parameter :=
  function.arguments.filterMap Argument.parameter?

/-- Adding arguments adds parameters and changes nothing else. -/
theorem foldl_addArgument
    (member : Member)
    (arguments : List Argument) :
    arguments.foldl addArgument member =
      { member with parameters :=
        member.parameters ++ arguments.filterMap Argument.parameter? } := by
  induction arguments generalizing member with
  | nil => simp
  | cons first rest inductionHypothesis =>
      rw [List.foldl_cons, inductionHypothesis]
      cases first with
      | receiver => rfl
      | typed pattern type => simp [addArgument, Member.withParameter,
        Argument.parameter?]

theorem foldl_annotated
    (member : Member)
    (marks : List Annotation) :
    marks.foldl Member.annotated member =
      { member with annotations := member.annotations ++ marks } := by
  induction marks generalizing member with
  | nil => simp
  | cons first rest inductionHypothesis =>
      rw [List.foldl_cons, inductionHypothesis]
      simp [Member.annotated]

namespace Function

/-- The signature of a function gives a method its visibility, its parameters
and, unless it has a receiver, the mark of a static method. -/
theorem signatureMember_eq
    (function : Function)
    (isPublic : Bool) :
    function.signatureMember isPublic =
      { Member.method function.name (resultDescriptor function.result) with
        modifiers := (if isPublic then .public else .private) ::
          (if function.hasReceiver then [] else [.static])
        parameters := function.parameters } := by
  rw [signatureMember, foldl_addArgument]
  cases isPublic <;> cases function.hasReceiver <;> rfl

/-- The member of a function has its signature, and its function attributes as
annotations. -/
theorem toMember_eq_ok_iff
    {function : Function}
    {isPublic : Bool}
    {member : Member} :
    function.toMember isPublic = .ok member ↔
      ∃ marks, Yields readFunctionMark
          (function.attributes.filter (Attribute.isNamed functionAttribute))
            marks ∧
        member =
          { function.signatureMember isPublic with annotations := marks } := by
  have unmarked : (function.signatureMember isPublic).annotations = [] := by
    rw [signatureMember_eq]
    rfl
  rw [toMember, AttributeError.unlessAny_eq_ok_iff, foldl_annotated, unmarked,
    List.nil_append]
  constructor
  · rintro ⟨noErrors, rfl⟩
    exact ⟨_, yields_valuesOf noErrors, rfl⟩
  · rintro ⟨annotations, yields, rfl⟩
    have noErrors : errorsOf function.marks = [] := errorsOf_of_yields yields
    have values : valuesOf function.marks = annotations :=
      (yields_valuesOf noErrors).unique yields
    exact ⟨noErrors, by rw [values]⟩

/-- The member of a function is a method with its name and the descriptor of its
result. -/
theorem outline_of_toMember_eq_ok
    {function : Function}
    {isPublic : Bool}
    {member : Member}
    (made : function.toMember isPublic = .ok member) :
    member.outline =
      (.method, function.name, resultDescriptor function.result) := by
  obtain ⟨marks, -, rfl⟩ := toMember_eq_ok_iff.mp made
  rw [signatureMember_eq]
  rfl

end Function
end Source
end PreferenceSchema
