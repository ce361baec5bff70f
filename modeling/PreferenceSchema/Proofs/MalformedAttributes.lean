import Mathlib.Data.Multiset.AddSub
import PreferenceSchema.Proofs.AttributeFaults
import PreferenceSchema.Proofs.SourceMembers

/-!
# Malformed attributes

The errors of the attributes that cannot be read, and which of these errors are
reported where the attributes stand.  A function reports all of them.  A field
and a component stop at the first one, an entity looks at its first attribute
only, and a field without a name reports that instead.
-/

namespace PreferenceSchema
namespace Source

open Traversal

/-! ## Errors of single attributes -/

/-- Whether a fault is not about an attribute but about a field that has no
name. -/
def AttributeFault.isNameless : AttributeFault → Bool
  | .unnamedField => true
  | .unnamedEntity => true
  | _ => false

/-- An error of an attribute: it has faults, and they are all about
attributes. -/
structure AttributeError.IsReport (error : AttributeError) : Prop where
  faults_ne_nil : error.faults ≠ []
  notNameless : ∀ entry ∈ error.faults, entry.1.isNameless = false

/-- An error that is a fault of a field without a name. -/
def AttributeError.IsNameless (error : AttributeError) : Prop :=
  ∃ fault, fault.isNameless = true ∧ error = .ofFault fault

namespace AttributeError

theorem IsNameless.faults_ne_nil
    {error : AttributeError}
    (isNameless : error.IsNameless) : error.faults ≠ [] := by
  obtain ⟨fault, -, rfl⟩ := isNameless
  exact List.cons_ne_nil _ _

/-- An error with one fault is a report unless the fault is that a name is
missing. -/
theorem isReport_single
    {fault : AttributeFault}
    (notNameless : fault.isNameless = false)
    (option : Option String) : (single fault option).IsReport := by
  refine ⟨List.cons_ne_nil _ _, ?_⟩
  intro entry present
  rw [List.mem_singleton.mp present]
  exact notNameless

/-- Errors of attributes make an error of attributes. -/
theorem isReport_gather
    {errors : List AttributeError}
    (some : errors ≠ [])
    (reports : ∀ error ∈ errors, error.IsReport) :
    (gather errors).IsReport := by
  constructor
  · obtain ⟨first, rest, rfl⟩ := List.exists_cons_of_ne_nil some
    have firstFaults := (reports first List.mem_cons_self).faults_ne_nil
    rw [faults_gather, List.flatMap_cons]
    exact List.append_ne_nil_of_left_ne_nil firstFaults _
  · intro entry present
    rw [faults_gather] at present
    obtain ⟨error, errorPresent, inError⟩ := List.mem_flatMap.mp present
    exact (reports error errorPresent).notNameless entry inError

/-- Reports that are gathered make a report. -/
theorem isReport_of_unlessAny_eq_error
    {α : Type}
    {errors : List AttributeError}
    {value : α}
    {error : AttributeError}
    (refused : unlessAny errors value = .error error)
    (reports : ∀ error ∈ errors, error.IsReport) : error.IsReport := by
  rw [unlessAny] at refused
  split at refused
  case isTrue => cases refused
  case isFalse some =>
    obtain rfl := Except.error.inj refused
    exact isReport_gather (by simpa using some) reports

end AttributeError

theorem Literal.isNameless_of_text_eq_error
    {value : Literal}
    {fault : AttributeFault}
    (refused : value.text = .error fault) : fault.isNameless = false := by
  cases value <;> cases refused <;> rfl

theorem Expr.isNameless_of_text_eq_error
    {value : Expr}
    {fault : AttributeFault}
    (refused : value.text = .error fault) : fault.isNameless = false := by
  induction value with
  | literal value => exact Literal.isNameless_of_text_eq_error refused
  | group inner inductionHypothesis => exact inductionHypothesis refused
  | paren => cases refused; rfl
  | negation => cases refused; rfl
  | other => cases refused; rfl

theorem OptionValue.isNameless_of_text_eq_error
    {value : OptionValue}
    {fault : AttributeFault}
    (refused : value.text = .error fault) : fault.isNameless = false := by
  cases value with
  | literal value => exact Literal.isNameless_of_text_eq_error refused
  | expression value => exact Expr.isNameless_of_text_eq_error refused

/-- A list of options is never refused for a missing name. -/
theorem isNameless_of_optionEntries_eq_error
    {tokens : List TokenTree}
    {fault : AttributeFault}
    (refused : optionEntries tokens = .error fault) :
    fault.isNameless = false := by
  rw [optionEntries] at refused
  split at refused <;> cases refused
  rfl

theorem isNameless_of_optionText_eq_error
    {content : AttributeContent}
    {fault : AttributeFault}
    (refused : optionText content = .error fault) :
    fault.isNameless = false := by
  cases content with
  | bare => cases refused; rfl
  | value value => exact OptionValue.isNameless_of_text_eq_error refused
  | list delimiter tokens =>
      rw [optionText] at refused
      rcases bind_eq_error_iff.mp refused with unreadable | ⟨entries, -, form⟩
      · exact isNameless_of_optionEntries_eq_error unreadable
      · cases form
        rfl

namespace TextOption

/-- What one entry adds to the errors are errors of attributes. -/
theorem isReport_step
    (known : String)
    {state : TextOption}
    (reports : ∀ error ∈ state.errors, error.IsReport)
    (entry : OptionEntry) :
    ∀ error ∈ (step known state entry).errors, error.IsReport := by
  have reported
      {fault : AttributeFault}
      (notNameless : fault.isNameless = false)
      (option : Option String) :
      ∀ error ∈ state.errors ++ [.single fault option], error.IsReport := by
    intro error present
    rcases List.mem_append.mp present with earlier | last
    · exact reports error earlier
    · rw [List.mem_singleton.mp last]
      exact AttributeError.isReport_single notNameless option
  cases entry with
  | literal => exact reported rfl .none
  | named name content =>
      rw [step]
      split
      case isTrue =>
        rw [take]
        split
        case isTrue => exact reported rfl .none
        case isFalse =>
          split
          case h_1 => exact reports
          case h_2 fault refused =>
            exact reported (isNameless_of_optionText_eq_error refused)
              (some known)
      case isFalse => exact reported rfl .none

/-- Reading one option after the other gathers nothing but reports. -/
theorem isReport_foldl
    (known : String)
    (entries : List OptionEntry)
    {state : TextOption}
    (reports : ∀ error ∈ state.errors, error.IsReport) :
    ∀ error ∈ (entries.foldl (step known) state).errors, error.IsReport := by
  induction entries generalizing state with
  | nil => exact reports
  | cons entry rest inductionHypothesis =>
      exact inductionHypothesis (isReport_step known reports entry)

/-- That an option is missing is reported like all other faults. -/
theorem isReport_allErrors
    (known : String)
    (required : Bool)
    {state : TextOption}
    (reports : ∀ error ∈ state.errors, error.IsReport) :
    ∀ error ∈ state.allErrors known required, error.IsReport := by
  intro error present
  rw [allErrors] at present
  split at present
  case isTrue =>
    rcases List.mem_append.mp present with earlier | last
    · exact reports error earlier
    · rw [List.mem_singleton.mp last]
      exact AttributeError.isReport_single rfl .none
  case isFalse => exact reports error present

end TextOption

namespace Attribute

variable {mark : Attribute} {error : AttributeError}

/-- What a mark with one option is refused for is a report. -/
theorem isReport_of_textOption_eq_error
    {known : String}
    {required : Bool}
    (refused : mark.textOption known required = .error error) :
    error.IsReport := by
  rw [textOption] at refused
  split at refused
  case h_1 =>
    cases refused
    exact AttributeError.isReport_single rfl none
  case h_2 value _ =>
    split at refused <;> cases refused
    case h_1 => exact AttributeError.isReport_single rfl none
    case h_2 fault text =>
      exact AttributeError.isReport_single
        (OptionValue.isNameless_of_text_eq_error text) none
  case h_3 tokens _ =>
    split at refused
    case h_1 entries _ =>
      exact AttributeError.isReport_of_unlessAny_eq_error refused
        (TextOption.isReport_allErrors known required
          (TextOption.isReport_foldl known entries (by simp [TextOption.none])))
    case h_2 fault unreadable =>
      cases refused
      exact AttributeError.isReport_single
        (isNameless_of_optionEntries_eq_error unreadable) none

/-- The options of an attribute that has a list of them, or its error. -/
def readOptions
    {α : Type}
    (option : Grammar → Path → Parser α)
    (mark : Attribute) : Except AttributeError (List α) :=
  (mark.options option).mapError .ofFault

theorem isReport_of_readOptions_eq_error
    {α : Type}
    {option : Grammar → Path → Parser α}
    (refused : mark.readOptions option = .error error) : error.IsReport := by
  rw [readOptions] at refused
  cases read : mark.options option with
  | ok options =>
      rw [read] at refused
      cases refused
  | error fault =>
      rw [read] at refused
      cases refused
      refine AttributeError.isReport_single ?_ none
      rw [options] at read
      split at read
      case h_1 => cases read; rfl
      case h_2 => cases read; rfl
      case h_3 => cases read
      case h_4 tokens _ _ =>
        cases unreadable : readAll (fun g => someOptions (option g)) tokens with
        | ok options =>
            rw [unreadable] at read
            cases read
        | error fault =>
            rw [unreadable] at read
            cases read
            rfl

end Attribute

theorem isReport_of_entityOptions_eq_error
    {mark : Attribute}
    {error : AttributeError}
    (refused : entityOptions mark = .error error) : error.IsReport := by
  rw [entityOptions] at refused
  split at refused
  case h_1 => cases refused
  case h_2 => exact Attribute.isReport_of_textOption_eq_error refused

theorem isReport_of_readFunctionMark_eq_error
    {mark : Attribute}
    {error : AttributeError}
    (refused : readFunctionMark mark = .error error) : error.IsReport := by
  rcases bind_eq_error_iff.mp refused with unread | ⟨key, -, made⟩
  · exact Attribute.isReport_of_textOption_eq_error unread
  · cases made

/-! ## Errors of all attributes with a name -/

/-- The errors of the attributes with a name that cannot be read, in order. -/
def malformed
    {α : Type}
    (name : String)
    (read : Attribute → Except AttributeError α)
    (attributes : List Attribute) : List AttributeError :=
  Function.errorsOf ((attributes.filter (Attribute.isNamed name)).map read)

/-- Without a mark there is none that is wrong. -/
theorem malformed_eq_nil
    {α : Type}
    {name : String}
    {read : Attribute → Except AttributeError α}
    {attributes : List Attribute}
    (unmarked : hasAttribute attributes name = false) :
    malformed name read attributes = [] := by
  have none : attributes.filter (Attribute.isNamed name) = [] := by
    rw [hasAttribute, List.any_eq_false] at unmarked
    exact List.filter_eq_nil_iff.mpr unmarked
  rw [malformed, none]
  rfl

/-- The errors of all entity attributes. -/
def entityErrors (attributes : List Attribute) : List AttributeError :=
  malformed entityAttribute entityOptions attributes

/-- The errors of the entity attributes behind the first one. -/
def laterEntityErrors (attributes : List Attribute) : List AttributeError :=
  Function.errorsOf
    (((attributes.filter (Attribute.isNamed entityAttribute)).drop 1).map
      entityOptions)

/-- The errors of all component attributes. -/
def componentErrors (attributes : List Attribute) : List AttributeError :=
  malformed componentAttribute (Attribute.readOptions componentOption)
    attributes

/-- The errors of all attributes of a field with options. -/
def Field.optionErrors (field : Field) : List AttributeError :=
  malformed fieldAttribute (Attribute.readOptions fieldOption) field.attributes

/-- The errors of all function attributes of a function. -/
def Function.markErrors (function : Function) : List AttributeError :=
  malformed functionAttribute readFunctionMark function.attributes

namespace Function

variable {α β : Type}

theorem mem_errorsOf_iff
    {results : List (Except AttributeError α)}
    {error : AttributeError} :
    error ∈ errorsOf results ↔ .error error ∈ results := by
  rw [errorsOf, List.mem_filterMap]
  constructor
  · rintro ⟨result | result, present, same⟩
    · obtain rfl := Option.some.inj same
      exact present
    · cases same
  · exact fun present => ⟨.error error, present, rfl⟩

/-- A function of the values leaves the errors as they are. -/
theorem errorsOf_map_map
    (results : List (Except AttributeError α))
    (function : α → β) :
    errorsOf (results.map (Except.map function)) = errorsOf results := by
  induction results with
  | nil => rfl
  | cons first rest inductionHypothesis =>
      cases first with
      | error error => exact congrArg (error :: ·) inductionHypothesis
      | ok value => exact inductionHypothesis

theorem errorsOf_singleton_map
    (result : Except AttributeError α)
    (function : α → β) : errorsOf [result.map function] = errorsOf [result] :=
  errorsOf_map_map [result] function

/-- The errors of some outcomes are gathered outcome by outcome. -/
theorem errorsOf_eq_flatMap
    (results : List (Except AttributeError α)) :
    errorsOf results = results.flatMap fun result => errorsOf [result] := by
  induction results with
  | nil => rfl
  | cons first rest inductionHypothesis =>
      rw [List.flatMap_cons, ← inductionHypothesis, ← errorsOf_append,
        List.singleton_append]

/-- A traversal has the error of the first step that fails. -/
theorem errorsOf_singleton_mapM
    (step : α → Except AttributeError β)
    (items : List α) :
    errorsOf [items.mapM step] = (errorsOf (items.map step)).take 1 := by
  induction items with
  | nil => rfl
  | cons first rest inductionHypothesis =>
      rw [mapM_cons, List.map_cons]
      cases step first with
      | error error => rfl
      | ok result =>
          rw [Except.bind, errorsOf_singleton_map, inductionHypothesis,
            errorsOf_cons_ok]

end Function

/-- The errors of wrong marks are reports if reading a mark fails with reports
only. -/
theorem isReport_of_mem_malformed
    {α : Type}
    {name : String}
    {read : Attribute → Except AttributeError α}
    (reports : ∀ {mark error}, read mark = .error error → error.IsReport)
    {attributes : List Attribute}
    {error : AttributeError}
    (present : error ∈ malformed name read attributes) : error.IsReport := by
  obtain ⟨mark, -, refused⟩ :=
    List.mem_map.mp (Function.mem_errorsOf_iff.mp present)
  exact reports refused

theorem isReport_of_mem_entityErrors
    {attributes : List Attribute}
    {error : AttributeError}
    (present : error ∈ entityErrors attributes) : error.IsReport :=
  isReport_of_mem_malformed isReport_of_entityOptions_eq_error present

theorem isReport_of_mem_componentErrors
    {attributes : List Attribute}
    {error : AttributeError}
    (present : error ∈ componentErrors attributes) : error.IsReport :=
  isReport_of_mem_malformed Attribute.isReport_of_readOptions_eq_error present

theorem Field.isReport_of_mem_optionErrors
    {field : Field}
    {error : AttributeError}
    (present : error ∈ field.optionErrors) : error.IsReport :=
  isReport_of_mem_malformed Attribute.isReport_of_readOptions_eq_error present

theorem Function.isReport_of_mem_markErrors
    {function : Function}
    {error : AttributeError}
    (present : error ∈ function.markErrors) : error.IsReport :=
  isReport_of_mem_malformed isReport_of_readFunctionMark_eq_error present

/-! ## What is reported -/

/-- All function attributes of a function are looked at. -/
theorem Function.faultsOf_toMember
    (function : Function)
    (isPublic : Bool) :
    faultsOf (function.toMember isPublic) =
      function.markErrors.flatMap AttributeError.faults :=
  faultsOf_unlessAny _ _

/-- A function is refused with a report. -/
theorem Function.isReport_of_toMember_eq_error
    {function : Function}
    {isPublic : Bool}
    {error : AttributeError}
    (refused : function.toMember isPublic = .error error) : error.IsReport :=
  AttributeError.isReport_of_unlessAny_eq_error refused fun _ =>
    isReport_of_mem_markErrors

/-- Of the component attributes the first one that cannot be read is
reported. -/
theorem errorsOf_readComponentMark
    (attributes : List Attribute) :
    Function.errorsOf [readComponentMark attributes] =
      (componentErrors attributes).take 1 := by
  rw [componentErrors, malformed, ← Function.errorsOf_singleton_mapM]
  exact Function.errorsOf_singleton_map _ _

/-- Only the first one of the entity attributes is looked at. -/
theorem errorsOf_readEntityMark_append
    (attributes : List Attribute) :
    Function.errorsOf [readEntityMark attributes] ++
      laterEntityErrors attributes =
      entityErrors attributes := by
  rw [laterEntityErrors, entityErrors, malformed, readEntityMark,
    ← List.head?_filter]
  cases attributes.filter (Attribute.isNamed entityAttribute) with
  | nil => rfl
  | cons mark rest =>
      rw [List.head?_cons, List.drop_one, List.tail_cons, List.map_cons]
      cases read : entityOptions mark with
      | ok name => simp only [read, Function.errorsOf_cons_ok]; rfl
      | error error => simp only [read, Function.errorsOf_cons_error]; rfl

namespace Field

/-- What a field reports besides its attributes: that it has no name. -/
def namelessErrors (field : Field) : List AttributeError :=
  if field.name.isNone then [.ofFault .unnamedField] else []

/-- The errors of attributes that a field does not report: all if it has no
name, else all but the first one. -/
def hiddenErrors (field : Field) : List AttributeError :=
  if field.name.isNone then field.optionErrors else field.optionErrors.drop 1

theorem isNameless_of_mem_namelessErrors
    {field : Field}
    {error : AttributeError}
    (present : error ∈ field.namelessErrors) : error.IsNameless := by
  rw [namelessErrors] at present
  split at present
  case isTrue => exact ⟨.unnamedField, rfl, List.mem_singleton.mp present⟩
  case isFalse => cases present

/-- What a field hides are errors of its options. -/
theorem hiddenErrors_subset
    (field : Field) :
    field.hiddenErrors ⊆ field.optionErrors := by
  rw [hiddenErrors]
  split
  case isTrue => exact List.Subset.refl _
  case isFalse => exact List.drop_subset 1 _

/-- Of the attributes of a field only those with options can be wrong. -/
theorem errorsOf_fieldMarks
    (attributes : List Attribute) :
    Function.errorsOf (attributes.map fun mark =>
      (FieldMark.ofAttribute mark).mapError .ofFault) =
      malformed fieldAttribute (Attribute.readOptions fieldOption)
        attributes := by
  rw [malformed]
  induction attributes with
  | nil => rfl
  | cons mark rest inductionHypothesis =>
      rw [List.map_cons, FieldMark.ofAttribute]
      by_cases named : mark.isNamed fieldAttribute = true
      · rw [if_pos named, List.filter_cons_of_pos named, List.map_cons,
          Attribute.readOptions]
        cases mark.options fieldOption with
        | ok options => exact inductionHypothesis
        | error fault => exact congrArg (_ :: ·) inductionHypothesis
      · rw [if_neg named, List.filter_cons_of_neg named]
        split <;> exact inductionHypothesis

/-- A field with a name reports the first of its attributes that cannot be
read. -/
theorem errorsOf_toMember
    {field : Field}
    {name : String}
    (named : field.name = some name) :
    Function.errorsOf [field.toMember.mapError .ofFault] =
      field.optionErrors.take 1 := by
  have made : field.toMember.mapError AttributeError.ofFault =
      ((field.attributes.mapM FieldMark.ofAttribute).mapError
        AttributeError.ofFault).map
        fun marks => marks.foldl FieldMark.addTo (field.plainMember name) := by
    rw [toMember, named]
    cases field.attributes.mapM FieldMark.ofAttribute <;> rfl
  rw [made, Function.errorsOf_singleton_map, mapError_mapM,
    Function.errorsOf_singleton_mapM, errorsOf_fieldMarks, optionErrors]

/-- What a field reports and what it hides are the errors of its attributes, and
that it has no name. -/
theorem errorsOf_toMember_append_perm
    (field : Field) :
    (Function.errorsOf [field.toMember.mapError .ofFault] ++
      field.hiddenErrors).Perm
      (field.optionErrors ++ field.namelessErrors) := by
  cases named : field.name with
  | none =>
      rw [hiddenErrors, namelessErrors, toMember, named]
      exact List.perm_append_comm
  | some name =>
      rw [errorsOf_toMember named, hiddenErrors, namelessErrors, named,
        Option.isNone_some, if_neg Bool.false_ne_true,
        if_neg Bool.false_ne_true, List.take_append_drop, List.append_nil]

end Field

end Source
end PreferenceSchema
