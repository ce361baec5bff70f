import PreferenceSchema.Proofs.FaultBalance
import PreferenceSchema.Proofs.SplitFiles

/-!
# What a file reports

The balance of a file: the faults that it reports, together with those that it
hides, are the faults of all attributes that cannot be read, together with those
of the fields without names.  So a file reports every attribute that cannot be
read exactly if it hides none.

Attributes are hidden behind others on the same field and on the same item,
behind the component attribute of a trait, and wherever a name is missing
instead: on fields without names, and in entities with such fields.  Entity
attributes of traits, and the functions of types that are no paths, are not
looked at.
-/

namespace PreferenceSchema
namespace Source

/-! ## Fields and functions -/

/-- The faults of the errors of one outcome are those that it reports. -/
theorem faultsIn_errorsOf_singleton
    {α : Type}
    (result : Except AttributeError α) :
    faultsIn (Function.errorsOf [result]) = faultsOf result := by
  cases result with
  | ok value => rfl
  | error error => exact (faultsIn_cons error []).trans (add_zero _)

/-- A function reports the errors of all its marks and hides none. -/
theorem Function.balances
    (function : Function)
    (isPublic : Bool) :
    Balances (errorsOf [function.toMember isPublic]) [] function.markErrors
      [] where
  faults := by
    rw [faultsIn_errorsOf_singleton, faultsOf_toMember]
    rfl
  proper := by
    intro error present
    have refused := List.mem_singleton.mp (mem_errorsOf_iff.mp present)
    exact (isReport_of_toMember_eq_error refused.symm).faults_ne_nil
  hidden_subset := List.nil_subset _
  reports := fun _ => isReport_of_mem_markErrors
  nameless := by simp

/-- Functions hide nothing. -/
theorem balances_functions
    (functions : List Function)
    (isPublic : Function → Bool) :
    Balances
      (Function.errorsOf (functions.map fun function =>
        function.toMember (isPublic function)))
      [] (functions.flatMap Function.markErrors) [] := by
  have each :=
    Balances.flatMap (fun function => function.balances (isPublic function))
      functions
  have nothing : functions.flatMap (fun _ => ([] : List AttributeError)) = [] :=
    List.flatMap_eq_nil_iff.mpr fun _ _ => rfl
  rw [Function.errorsOf_eq_flatMap, List.flatMap_map]
  rwa [nothing] at each

/-- A field without a name reports that and hides all errors of its options; any
other field reports the first of them. -/
theorem Field.balances
    (field : Field) :
    Balances (Function.errorsOf [field.toMember.mapError .ofFault])
      field.hiddenErrors
      field.optionErrors field.namelessErrors :=
  .of_perm field.errorsOf_toMember_append_perm field.hiddenErrors_subset
    (fun _ => isReport_of_mem_optionErrors)
      (fun _ => isNameless_of_mem_namelessErrors)

/-- The errors of the fields of a structure balance field by field. -/
theorem Harvest.balances_fieldResults
    (item : Struct) :
    Balances (Function.errorsOf (fieldResults item))
      (item.fields.toList.flatMap Field.hiddenErrors)
      (item.fields.toList.flatMap Field.optionErrors)
      (item.fields.toList.flatMap Field.namelessErrors) := by
  rw [fieldResults, Function.errorsOf_eq_flatMap, List.flatMap_map]
  exact Balances.flatMap Field.balances item.fields.toList

/-! ## Items -/

/-- Whether a structure is an entity, a component or an injection target. -/
def Struct.hasRole (item : Struct) : Bool :=
  Harvest.isEntity item || Harvest.isComponent item.attributes ||
    Harvest.isTarget item

/-- Whether a structure is to be an entity although its fields have no names. -/
def Struct.isNamelessEntity (item : Struct) : Bool :=
  Harvest.isEntity item && item.fields.areUnnamed

namespace Item

/-- The errors of the attributes of an item that cannot be read: of its entity
attributes and its component attributes, of the fields of a structure with a
role, and of the functions of a component trait and of an implementation of no
trait. -/
def malformedErrors : Item → List AttributeError
  | .struct item =>
    (if item.hasRole then item.fields.toList.flatMap Field.optionErrors
      else []) ++
      entityErrors item.attributes ++ componentErrors item.attributes
  | .trait attributes _ functions =>
    entityErrors attributes ++ componentErrors attributes ++
      if Harvest.isComponent attributes then
        functions.flatMap Function.markErrors else []
  | .implementation false _ functions => functions.flatMap Function.markErrors
  | _ => []

/-- The errors among these that are not reported. -/
def hiddenErrors : Item → List AttributeError
  | .struct item =>
    if item.isNamelessEntity then malformedErrors (.struct item)
    else
      (if item.hasRole then item.fields.toList.flatMap Field.hiddenErrors
        else []) ++
        laterEntityErrors item.attributes ++
        (componentErrors item.attributes).drop 1
  | .trait attributes _ functions =>
    entityErrors attributes ++ (componentErrors attributes).drop 1 ++
      if (componentErrors attributes).isEmpty then []
      else functions.flatMap Function.markErrors
  | .implementation false type functions =>
    if (inherentOwner? (.implementation false type functions)).isNone then
      functions.flatMap Function.markErrors
    else []
  | _ => []

/-- What is reported besides: fields that have no names. -/
def namelessErrors : Item → List AttributeError
  | .struct item =>
    if item.isNamelessEntity then [.ofFault .unnamedEntity]
    else if item.hasRole then item.fields.toList.flatMap Field.namelessErrors
    else []
  | _ => []

end Item

namespace Harvest

/-- A condition does not count where there are no errors without it. -/
theorem errors_when_eq
    {condition : Bool}
    {harvest : Harvest}
    (none : condition = false → harvest.errors = []) :
    (when condition harvest).errors = harvest.errors := by
  cases condition with
  | false => exact (none rfl).symm
  | true => rfl

/-- The role of an entity adds the error of its mark and no other. -/
theorem errors_asEntity
    (package : Option String)
    (marks : List Attribute)
    (decl : ClassDeclaration) :
    (asEntity package marks decl).errors =
      Function.errorsOf [readEntityMark marks] := by
  rw [asEntity]
  rcases readEntityMark marks with _ | _ | _ <;> rfl

theorem errors_asComponent
    (package : Option String)
    (marks : List Attribute)
    (decl : ClassDeclaration) :
    (asComponent package marks decl).errors =
      Function.errorsOf [readComponentMark marks] := by
  rw [asComponent]
  cases readComponentMark marks <;> rfl

theorem errorsOf_readEntityMark_eq_nil
    {attributes : List Attribute}
    (unmarked : hasAttribute attributes entityAttribute = false) :
    Function.errorsOf [readEntityMark attributes] = [] := by
  have together := errorsOf_readEntityMark_append attributes
  rw [entityErrors, malformed_eq_nil unmarked] at together
  exact (List.append_eq_nil_iff.mp together).1

theorem errorsOf_readComponentMark_eq_nil
    {attributes : List Attribute}
    (unmarked : hasAttribute attributes componentAttribute = false) :
    Function.errorsOf [readComponentMark attributes] = [] := by
  rw [errorsOf_readComponentMark, componentErrors, malformed_eq_nil unmarked,
    List.take_nil]

/-- A structure without named fields reports that alone, if it is marked as an
entity.  Any other one reports its fields, if it has a role, and then its
marks. -/
theorem errors_ofStruct
    (package : Option String)
    (methods : List (String × Member))
    (item : Struct) :
    (ofStruct package methods item).errors =
      if item.isNamelessEntity then [.ofFault .unnamedEntity]
      else
        (if item.hasRole then Function.errorsOf (fieldResults item) else []) ++
          Function.errorsOf [readEntityMark item.attributes] ++
          Function.errorsOf [readComponentMark item.attributes] := by
  have ofEntity (decl : ClassDeclaration) :
      (when (isEntity item) (asEntity package item.attributes decl)).errors =
        Function.errorsOf [readEntityMark item.attributes] := by
    rw [← errors_asEntity package _ decl]
    exact errors_when_eq fun unmarked =>
      (errors_asEntity _ _ _).trans (errorsOf_readEntityMark_eq_nil unmarked)
  have ofComponent (decl : ClassDeclaration) :
      (when (isComponent item.attributes)
        (asComponent package item.attributes decl)).errors =
        Function.errorsOf [readComponentMark item.attributes] := by
    rw [← errors_asComponent package _ decl]
    exact errors_when_eq fun unmarked =>
      (errors_asComponent _ _ _).trans
        (errorsOf_readComponentMark_eq_nil unmarked)
  have ofTarget (decl : ClassDeclaration) :
      (when (isTarget item) (ofTarget package decl)).errors = [] :=
    errors_when_eq fun _ => rfl
  rw [ofStruct, ← Struct.hasRole, ← Struct.isNamelessEntity]
  split
  case isTrue =>
    split
    case isTrue => rfl
    case isFalse =>
      simp only [errors_append, ofEntity, ofComponent, ofTarget,
        List.append_nil]
      rfl
  case isFalse noRole =>
    obtain ⟨⟨noEntity, noComponent⟩, -⟩ :
        (isEntity item = false ∧ isComponent item.attributes = false) ∧
          isTarget item = false := by
      simpa [Struct.hasRole] using noRole
    rw [Struct.isNamelessEntity, noEntity,
      errorsOf_readEntityMark_eq_nil noEntity,
      errorsOf_readComponentMark_eq_nil noComponent]
    rfl

/-- A trait reports its functions only where it is marked as a component and the
mark is right. -/
theorem errors_ofTrait
    (package : Option String)
    (attributes : List Attribute)
    (name : String)
    (functions : List Function) :
    (ofTrait package attributes name functions).errors =
      Function.errorsOf [readComponentMark attributes] ++
        if isComponent attributes && (componentErrors attributes).isEmpty then
          Function.errorsOf (traitResults functions)
        else [] := by
  have read := errorsOf_readComponentMark attributes
  rw [ofTrait]
  cases component : isComponent attributes with
  | false =>
      rw [errorsOf_readComponentMark_eq_nil component]
      rfl
  | true =>
      cases errors : componentErrors attributes with
      | nil =>
          cases made : readComponentMark attributes with
          | ok mark => exact List.append_nil _
          | error error => simp [made, errors] at read
      | cons first rest =>
          cases made : readComponentMark attributes with
          | ok mark => simp [made, errors] at read
          | error error => rfl

end Harvest

/-! ## Balances of items -/

/-- Of several marks of entities the first one is read, so the errors of the
others are hidden. -/
theorem balances_entityErrors
    (attributes : List Attribute) :
    Balances (Function.errorsOf [readEntityMark attributes])
      (laterEntityErrors attributes)
      (entityErrors attributes) [] :=
  .of_append_eq (errorsOf_readEntityMark_append attributes)
    fun _ => isReport_of_mem_entityErrors

/-- Of the errors of component marks the first one is reported, and the others
are hidden. -/
theorem balances_componentErrors
    (attributes : List Attribute) :
    Balances (Function.errorsOf [readComponentMark attributes])
      ((componentErrors attributes).drop 1)
        (componentErrors attributes) [] := by
  refine .of_append_eq ?_ fun _ => isReport_of_mem_componentErrors
  rw [errorsOf_readComponentMark, List.take_append_drop]

namespace Item

/-- The errors of a structure balance. -/
theorem balances_struct
    (package : Option String)
    (methods : List (String × Member))
    (item : Struct) :
    Balances (Harvest.ofStruct package methods item).errors
      (hiddenErrors (.struct item))
      (malformedErrors (.struct item)) (namelessErrors (.struct item)) := by
  have fields : Balances
      (if item.hasRole then Function.errorsOf (Harvest.fieldResults item)
        else [])
      (if item.hasRole then item.fields.toList.flatMap Field.hiddenErrors
        else [])
      (if item.hasRole then item.fields.toList.flatMap Field.optionErrors
        else [])
      (if item.hasRole then item.fields.toList.flatMap Field.namelessErrors
        else []) := by
    split
    case isTrue => exact Harvest.balances_fieldResults item
    case isFalse => exact .nothing
  have whole := (fields.append (balances_entityErrors item.attributes)).append
    (balances_componentErrors item.attributes)
  rw [Harvest.errors_ofStruct, hiddenErrors, namelessErrors]
  split
  case isTrue =>
    exact (Balances.unnamed ⟨.unnamedEntity, rfl, rfl⟩).append whole.hide
  case isFalse => rwa [List.append_nil, List.append_nil] at whole

/-- The errors of a trait balance; those of its functions are hidden behind an
error of its mark. -/
theorem balances_trait
    (package : Option String)
    (attributes : List Attribute)
    (name : String)
    (functions : List Function) :
    Balances (Harvest.ofTrait package attributes name functions).errors
      (hiddenErrors (.trait attributes name functions))
      (malformedErrors (.trait attributes name functions)) [] := by
  have marks := (balances_entityErrors attributes).hide.append
    (balances_componentErrors attributes)
  have whole := balances_functions functions fun _ => true
  rw [Harvest.errors_ofTrait]
  refine marks.append ?_
  cases component : Harvest.isComponent attributes with
  | false =>
      rw [componentErrors, malformed_eq_nil component]
      exact .nothing
  | true =>
      cases (componentErrors attributes).isEmpty with
      | false => exact whole.hide
      | true => exact whole

/-- The functions of an implementation belong to the type that it names at its
end, if it names one. -/
theorem ownedFunctions_implementation
    (type : Ty)
    (functions : List Function) :
    Harvest.ownedFunctions (.implementation false type functions) =
      match inherentOwner? (.implementation false type functions) with
      | some name => functions.map fun function => (name, function)
      | none => [] := by
  cases type <;> rfl

/-- The functions of a type with a name are looked at, those of other types are
not. -/
theorem errorsOf_methodResults_implementation
    (type : Ty)
    (functions : List Function) :
    Function.errorsOf
      (Harvest.methodResults [.implementation false type functions]) =
      if (inherentOwner? (.implementation false type functions)).isNone then []
      else Function.errorsOf (functions.map fun function =>
        function.toMember function.isPublic) := by
  rw [Harvest.methodResults, List.flatMap_singleton,
    ownedFunctions_implementation]
  cases inherentOwner? (.implementation false type functions) with
  | none => rfl
  | some name =>
      rw [List.map_map]
      have whole := Function.errorsOf_map_map
        (functions.map fun function => function.toMember function.isPublic)
        fun member => (name, member)
      rwa [List.map_map] at whole

/-- The errors of an implementation balance; those of one that names no type are
hidden. -/
theorem balances_implementation
    (type : Ty)
    (functions : List Function) :
    Balances
      (Function.errorsOf
        (Harvest.methodResults [.implementation false type functions]))
      (hiddenErrors (.implementation false type functions))
      (malformedErrors (.implementation false type functions)) [] := by
  have whole := balances_functions functions Function.isPublic
  rw [errorsOf_methodResults_implementation, hiddenErrors]
  split
  case isTrue => exact whole.hide
  case isFalse => exact whole

end Item

/-! ## Files -/

namespace Item

mutual

/-- The item itself, or the items of a module. -/
def walked : Item → List Item
  | .submodule _ (some items) => listWalked items
  | item => [item]

/-- All items of a file: those at its top level and in the modules inside it, at
any depth. -/
def listWalked : List Item → List Item
  | [] => []
  | item :: rest => walked item ++ listWalked rest

end

end Item

namespace Harvest

mutual

/-- The errors in an item balance with those of its own functions.  The
functions of a type are reported with the items next to it, so the methods of an
item belong to its balance. -/
theorem balances_ofItem
    (package : Option String)
    (methods : List (String × Member)) :
    (item : Item) →
      Balances
        (Function.errorsOf (methodResults [item]) ++
          (ofItem package methods item).errors)
        (item.walked.flatMap Item.hiddenErrors)
          (item.walked.flatMap Item.malformedErrors)
        (item.walked.flatMap Item.namelessErrors)
  | .struct item => by
      simp only [Item.walked, List.flatMap_singleton]
      exact Item.balances_struct package methods item
  | .trait attributes name functions => by
      simp only [Item.walked, List.flatMap_singleton]
      exact Item.balances_trait package attributes name functions
  | .implementation false type functions => by
      simp only [Item.walked, List.flatMap_singleton]
      have own := Item.balances_implementation type functions
      rwa [← List.append_nil (Function.errorsOf _)] at own
  | .implementation true _ _ => .nothing
  | .submodule _ none => .nothing
  | .submodule _ (some items) => balances_ofItems _ _ items
  | .other => .nothing

/-- The errors in items and in the methods next to them balance.  The methods of
all items are reported first, and only then all else. -/
theorem balances_ofItems
    (package : Option String)
    (methods : List (String × Member)) :
    (items : List Item) →
      Balances
        (Function.errorsOf (methodResults items) ++
          (ofItems package methods items).errors)
        ((Item.listWalked items).flatMap Item.hiddenErrors)
        ((Item.listWalked items).flatMap Item.malformedErrors)
        ((Item.listWalked items).flatMap Item.namelessErrors)
  | [] => .nothing
  | item :: rest => by
      have first := balances_ofItem package methods item
      have later := balances_ofItems package methods rest
      rw [← List.singleton_append, errorsOf_methodResults_append,
        List.singleton_append, ofItems, errors_append, Item.listWalked,
        List.flatMap_append, List.flatMap_append, List.flatMap_append]
      exact (first.append later).of_reported_perm
        (perm_append_append_comm _ _ _ _)

end

end Harvest

namespace Item

/-- The errors of all attributes of a file that cannot be read. -/
def malformedIn (items : List Item) : List AttributeError :=
  (listWalked items).flatMap malformedErrors

/-- Those among them that are not reported. -/
def hiddenIn (items : List Item) : List AttributeError :=
  (listWalked items).flatMap hiddenErrors

/-- What is reported of the fields without names. -/
def namelessIn (items : List Item) : List AttributeError :=
  (listWalked items).flatMap namelessErrors

end Item

theorem Harvest.balances_ofModule
    (package : Option String)
    (items : List Item) :
    Balances (ofModule package items).errors (Item.hiddenIn items)
      (Item.malformedIn items)
      (Item.namelessIn items) :=
  balances_ofItems _ _ _

/-! ## Complete reports -/

/-- There are entries of some errors, one of each, among the entries that are
reported. -/
def HasEntryOfEach
    (reported : Multiset (AttributeFault × Option String))
    (errors : List AttributeError) : Prop :=
  ∃ entries : List (AttributeFault × Option String),
    List.Forall₂ (fun error entry => entry ∈ error.faults) errors entries ∧
      entries ≤ reported

/-- There are no more errors than faults that hold an entry of each. -/
theorem HasEntryOfEach.length_le
    {reported : Multiset (AttributeFault × Option String)}
    {errors : List AttributeError}
    (hasEntries : HasEntryOfEach reported errors) :
    errors.length ≤ reported.card := by
  obtain ⟨entries, fromEach, present⟩ := hasEntries
  rw [fromEach.length_eq]
  exact Multiset.card_le_card present

/-- Where all faults of some reports are among the reported ones, each report
has its entry there. -/
theorem hasEntryOfEach_of_le
    {errors : List AttributeError}
    {reported : Multiset (AttributeFault × Option String)}
    (reports : ∀ error ∈ errors, error.IsReport)
    (all : faultsIn errors ≤ reported) : HasEntryOfEach reported errors := by
  suffices chosen : HasEntryOfEach (faultsIn errors) errors by
    obtain ⟨entries, fromEach, present⟩ := chosen
    exact ⟨entries, fromEach, present.trans all⟩
  clear all
  induction errors with
  | nil => exact ⟨[], .nil, le_refl _⟩
  | cons error rest inductionHypothesis =>
      obtain ⟨report, restReports⟩ := List.forall_mem_cons.mp reports
      obtain ⟨entry, inError⟩ :=
        List.exists_mem_of_ne_nil _ report.faults_ne_nil
      obtain ⟨entries, fromEach, present⟩ := inductionHypothesis restReports
      refine ⟨entry :: entries, .cons inError fromEach, ?_⟩
      rw [faultsIn_cons, ← Multiset.cons_coe, ← Multiset.singleton_add]
      exact add_le_add (Multiset.singleton_le.mpr inError) present

namespace SourceDeclarations

/-- A file reports every attribute that cannot be read: its error has an entry
for each of them, and there is an error if there is such an attribute. -/
def ReportsEvery
    (items : List Item)
    (package : Option String) : Prop :=
  (∀ error, (ofItems items package).outcome = .error error →
    HasEntryOfEach error.faults (Item.malformedIn items)) ∧
  (Item.malformedIn items ≠ [] →
    ∃ error, (ofItems items package).outcome = .error error)

/-- What a file reports and what it hides are all attributes that cannot be read
and all fields without names.  It is accepted exactly if all the former are
hidden and there are none of the latter, and reports everything exactly if it
hides nothing. -/
theorem report_exact
    (items : List Item)
    (package : Option String) :
    faultsOf (ofItems items package).outcome + faultsIn (Item.hiddenIn items) =
        faultsIn (Item.malformedIn items) + faultsIn (Item.namelessIn items) ∧
      ((∃ found, (ofItems items package).outcome = .ok found) ↔
        faultsIn (Item.hiddenIn items) = faultsIn (Item.malformedIn items) ∧
          Item.namelessIn items = []) ∧
      (faultsIn (Item.malformedIn items) ≤
        faultsOf (ofItems items package).outcome ↔
        Item.hiddenIn items = []) ∧
      (Item.hiddenIn items = [] → ReportsEvery items package) := by
  have balances := Harvest.balances_ofModule package items
  have reported : (faultsOf (ofItems items package).outcome : Multiset _) =
      faultsIn (Harvest.ofModule package items).errors := by
    rw [outcome_ofItems, faultsOf_unlessAny]
    rfl
  have complete : faultsIn (Item.malformedIn items) ≤
      faultsOf (ofItems items package).outcome ↔
      Item.hiddenIn items = [] := by
    rw [reported, balances.le_reported_iff]
  refine ⟨reported ▸ balances.faults, ?_, complete, ?_⟩
  · simp only [ofItems_eq_ok_iff, exists_and_left, exists_eq', and_true]
    exact balances.reported_eq_nil_iff
  · intro noneHidden
    have all := complete.mpr noneHidden
    constructor
    · intro error refused
      rw [refused] at all
      exact hasEntryOfEach_of_le balances.reports all
    · intro some
      cases outcome : (ofItems items package).outcome with
      | error error => exact ⟨error, rfl⟩
      | ok found =>
          rw [outcome] at all
          have none := (hasEntryOfEach_of_le balances.reports all).length_le
          exact absurd (List.length_eq_zero_iff.mp (Nat.le_zero.mp none)) some

/-- A component trait whose attribute has a value instead of options, and whose
function has an attribute without its key. -/
def faultyComponent : List Item :=
  [.trait
    [⟨false, wordPath componentAttribute,
      .value (.literal (.string "Settings"))⟩]
    "AppComponent"
    [⟨[⟨false, wordPath functionAttribute, .bare⟩], false, "inject",
      [.receiver], none⟩]]

/-- Behind a faulty component attribute the functions of a trait are not looked
at. -/
theorem not_forall_reportsEvery :
    ¬∀ (items : List Item) (package : Option String),
      ReportsEvery items package := by
  intro always
  obtain ⟨complete, -⟩ := always faultyComponent none
  have atMostOne := (complete _ (by rfl)).length_le
  exact absurd atMostOne (by decide)

end SourceDeclarations
end Source
end PreferenceSchema
