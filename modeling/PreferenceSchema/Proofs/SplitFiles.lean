import Mathlib.Data.List.Perm.Basic
import PreferenceSchema.Proofs.AttributeFaults
import PreferenceSchema.Proofs.SourceClasses

/-!
# Files in two parts

What is found in a file is what is found in its first part and in its second
part, as long as no part implements functions of a structure in the other one.
Errors in one part hide nothing of the other: all errors of both are reported.
-/

namespace PreferenceSchema
namespace Source

namespace Item

/-- The name of the type whose functions an item implements, of no trait. -/
def inherentOwner? : Item → Option String
  | .implementation false (.path _ owner) _ => owner.lastName?
  | _ => none

/-- Some items implement no functions of a structure among some others. -/
def LeaveAlone (items others : List Item) : Prop :=
  ∀ item ∈ items, ∀ owned, .struct owned ∈ others →
    item.inherentOwner? ≠ some owned.name

theorem inherentFunctions_eq_nil
    {item : Item}
    {name : String}
    (foreign : item.inherentOwner? ≠ some name) :
    item.inherentFunctions name = [] := by
  fun_cases inherentFunctions name item with
  | case1 generics owner functions own => exact absurd own foreign
  | case2 => rfl
  | case3 => rfl

end Item

/-- Of two lists in two parts each, the first parts may come first. -/
theorem perm_append_append_comm
    {α : Type}
    (first second third fourth : List α) :
    (first ++ second ++ (third ++ fourth)).Perm
      (first ++ third ++ (second ++ fourth)) := by
  rw [List.append_assoc, List.append_assoc]
  exact List.Perm.append_left _ (List.perm_append_comm_assoc _ _ _)

namespace Harvest

/-! ## Methods -/

/-- The methods of a type are made of its functions alone. -/
theorem methodsOf_valuesOf
    (pairs : List (String × Function))
    (name : String) :
    methodsOf (Function.valuesOf (pairs.map fun (owner, function) =>
        (function.toMember function.isPublic).map fun member =>
          (owner, member))) name =
      Function.valuesOf ((pairs.filterMap fun (owner, function) =>
        if owner = name then some function else none).map fun function =>
          function.toMember function.isPublic) := by
  induction pairs with
  | nil => rfl
  | cons pair rest inductionHypothesis =>
      obtain ⟨owner, function⟩ := pair
      rw [methodsOf] at inductionHypothesis ⊢
      by_cases same : owner = name <;>
        cases made : function.toMember function.isPublic <;>
        simpa [same, made, Except.map] using inductionHypothesis

/-- The methods of a type are those of the proper functions in its
implementations. -/
theorem methodsOf_methodResults
    (items : List Item)
    (name : String) :
    methodsOf (Function.valuesOf (methodResults items)) name =
      Function.valuesOf
        ((items.flatMap (Item.inherentFunctions name)).map fun function =>
          function.toMember function.isPublic) := by
  rw [methodResults, methodsOf_valuesOf, List.filterMap_flatMap]
  simp only [filterMap_ownedFunctions]

theorem errorsOf_methodResults_append
    (first second : List Item) :
    Function.errorsOf (methodResults (first ++ second)) =
      Function.errorsOf (methodResults first) ++
        Function.errorsOf (methodResults second) := by
  rw [methodResults, List.flatMap_append, List.map_append,
    Function.errorsOf_append]
  rfl

/-- Items that leave the structures of a part alone add no methods to them. -/
theorem methodsOf_eq_nil
    {items others : List Item}
    (alone : Item.LeaveAlone items others)
    {owned : Struct}
    (present : .struct owned ∈ others) :
    methodsOf (Function.valuesOf (methodResults items)) owned.name = [] := by
  have noFunctions : items.flatMap (Item.inherentFunctions owned.name) = [] :=
    List.flatMap_eq_nil_iff.mpr fun item itemPresent =>
      Item.inherentFunctions_eq_nil (alone item itemPresent owned present)
  rw [methodsOf_methodResults, noFunctions]
  rfl

/-- The methods of a type add up over the parts of a file. -/
theorem methodsOf_append
    (first second : List Item)
    (name : String) :
    methodsOf (Function.valuesOf (methodResults (first ++ second))) name =
      methodsOf (Function.valuesOf (methodResults first)) name ++
        methodsOf (Function.valuesOf (methodResults second)) name := by
  rw [methodsOf_methodResults, methodsOf_methodResults, methodsOf_methodResults,
    List.flatMap_append, List.map_append, Function.valuesOf_append]

/-! ## Items -/

/-- What is found in items depends on the methods of their structures only. -/
theorem ofItems_congr
    {package : Option String}
    {left right : List (String × Member)}
    {items : List Item}
    (same : ∀ owned, .struct owned ∈ items →
      methodsOf left owned.name = methodsOf right owned.name) :
    ofItems package left items = ofItems package right items := by
  induction items with
  | nil => rfl
  | cons item rest inductionHypothesis =>
      have sameItem : ofItem package left item = ofItem package right item := by
        cases item with
        | struct item =>
            simp only [ofItem, ofStruct, structClass,
              same item List.mem_cons_self]
        | trait => rfl
        | implementation => rfl
        | submodule name items => cases items <;> rfl
        | other => rfl
      rw [ofItems, ofItems, sameItem,
        inductionHypothesis fun owned present =>
          same owned (List.mem_cons_of_mem _ present)]

variable {first second : List Item}

/-- What is found in two parts of a file is found in each part by itself. -/
theorem ofItems_append_of_leaveAlone
    (package : Option String)
    (firstAlone : Item.LeaveAlone first second)
    (secondAlone : Item.LeaveAlone second first) :
    ofItems package (Function.valuesOf (methodResults (first ++ second)))
      (first ++ second) =
      ofItems package (Function.valuesOf (methodResults first)) first ++
        ofItems package (Function.valuesOf (methodResults second)) second := by
  rw [ofItems_append]
  congr 1
  · refine ofItems_congr fun owned present => ?_
    rw [methodsOf_append, methodsOf_eq_nil secondAlone present, List.append_nil]
  · refine ofItems_congr fun owned present => ?_
    rw [methodsOf_append, methodsOf_eq_nil firstAlone present, List.nil_append]

/-- The declarations of a file are those of its first part and those of its
second part. -/
theorem found_ofModule_append
    (package : Option String)
    (firstAlone : Item.LeaveAlone first second)
    (secondAlone : Item.LeaveAlone second first) :
    (ofModule package (first ++ second)).found =
      (ofModule package first).found ++ (ofModule package second).found := by
  simp only [ofModule, found_append,
    ofItems_append_of_leaveAlone package firstAlone secondAlone]
  rfl

/-- The errors of a file are those of its parts; the errors of methods of both
come first. -/
theorem errors_ofModule_append_perm
    (package : Option String)
    (firstAlone : Item.LeaveAlone first second)
    (secondAlone : Item.LeaveAlone second first) :
    (ofModule package (first ++ second)).errors.Perm
      ((ofModule package first).errors ++
        (ofModule package second).errors) := by
  simp only [ofModule, errors_append,
    ofItems_append_of_leaveAlone package firstAlone secondAlone, ofErrors,
    errorsOf_methodResults_append]
  exact perm_append_append_comm _ _ _ _

end Harvest

/-- The number of faults that an outcome reports. -/
def faultCount {α : Type} : Except AttributeError α → Nat
  | .ok _ => 0
  | .error error => error.count

theorem length_faultsOf
    {α : Type}
    (outcome : Except AttributeError α) :
    (faultsOf outcome).length = faultCount outcome := by
  cases outcome with
  | ok value => rfl
  | error error => exact error.length_faults

namespace SourceDeclarations

/-- A file in two parts, neither of which implements functions of a structure in
the other, is accepted exactly when both parts are, and has the declarations of
both.  All faults of both parts are reported, so their numbers add up. -/
theorem outcome_ofItems_append
    {first second : List Item}
    (firstAlone : Item.LeaveAlone first second)
    (secondAlone : Item.LeaveAlone second first)
    (package : Option String) :
    ((∃ found, (ofItems (first ++ second) package).outcome = .ok found) ↔
        (∃ found, (ofItems first package).outcome = .ok found) ∧
          ∃ more, (ofItems second package).outcome = .ok more) ∧
      (∀ found more, (ofItems first package).outcome = .ok found →
        (ofItems second package).outcome = .ok more →
          (ofItems (first ++ second) package).outcome = .ok (found ++ more)) ∧
      (faultsOf (ofItems (first ++ second) package).outcome).Perm
        (faultsOf (ofItems first package).outcome ++
          faultsOf (ofItems second package).outcome) ∧
      faultCount (ofItems (first ++ second) package).outcome =
        faultCount (ofItems first package).outcome +
          faultCount (ofItems second package).outcome := by
  have errors :=
    Harvest.errors_ofModule_append_perm package firstAlone secondAlone
  have found := Harvest.found_ofModule_append package firstAlone secondAlone
  have noErrors : (Harvest.ofModule package (first ++ second)).errors = [] ↔
      (Harvest.ofModule package first).errors = [] ∧
        (Harvest.ofModule package second).errors = [] := by
    rw [← List.append_eq_nil_iff]
    exact ⟨fun none => (none ▸ errors).symm.eq_nil,
      fun none => (none ▸ errors).eq_nil⟩
  have faults : (faultsOf (ofItems (first ++ second) package).outcome).Perm
      (faultsOf (ofItems first package).outcome ++
        faultsOf (ofItems second package).outcome) := by
    simp only [outcome_ofItems, faultsOf_unlessAny, ← List.flatMap_append]
    exact errors.flatMap_right _
  refine ⟨?_, ?_, faults, ?_⟩
  · simp only [ofItems_eq_ok_iff, exists_and_left, exists_eq', and_true]
    exact noErrors
  · intro firstFound secondFound firstAccepted secondAccepted
    obtain ⟨firstProper, rfl⟩ := ofItems_eq_ok_iff.mp firstAccepted
    obtain ⟨secondProper, rfl⟩ := ofItems_eq_ok_iff.mp secondAccepted
    exact ofItems_eq_ok_iff.mpr
      ⟨noErrors.mpr ⟨firstProper, secondProper⟩, found⟩
  · simp only [← length_faultsOf, faults.length_eq, List.length_append]

/-- A file with an entity and with a function of it that has some attributes. -/
def entityFile
    (name : String)
    (marks : List Attribute) : List Item :=
  [.struct ⟨[⟨false, wordPath entityAttribute, .bare⟩], name, .named []⟩,
    .implementation false (.path none (wordPath name))
      [⟨marks, true, "reset", [.receiver], none⟩]]

/-- The declarations of a file with an entity. -/
def entityDeclarations (name : String) : SourceDeclarations where
  entities := [⟨name, none, [⟨Naming.entityMark, []⟩],
    [(Member.method "reset" "()").withModifier .public]⟩]
  components := []
  targets := []

theorem leaveAlone_entityFile
    {name other : String}
    (different : name ≠ other)
    (marks otherMarks : List Attribute) :
    Item.LeaveAlone (entityFile name marks) (entityFile other otherMarks) := by
  intro item itemPresent owned ownedPresent
  have owner : owned.name = other := by
    simp only [entityFile, List.mem_cons, Item.struct.injEq, List.not_mem_nil,
      or_false, reduceCtorEq] at ownedPresent
    rw [ownedPresent]
  simp only [entityFile, List.mem_cons, List.not_mem_nil,
    or_false] at itemPresent
  rcases itemPresent with rfl | rfl
  · simp [Item.inherentOwner?]
  · simpa [Item.inherentOwner?, wordPath, Path.lastName?, owner] using different

/-- Two files with an entity each are found as their entities together, and
their faults are counted together. -/
theorem outcome_entityFile_append :
    (ofItems (entityFile "Settings" [] ++ entityFile "Account" [])
        none).outcome =
        .ok (entityDeclarations "Settings" ++ entityDeclarations "Account") ∧
      faultCount
        (ofItems
          (entityFile "Settings" [⟨false, wordPath functionAttribute, .bare⟩] ++
            entityFile "Account" [⟨false, wordPath functionAttribute, .bare⟩])
          none).outcome = 2 := by
  have firstAlone := leaveAlone_entityFile (by decide : "Settings" ≠ "Account")
  have secondAlone := leaveAlone_entityFile (by decide : "Account" ≠ "Settings")
  constructor
  · exact (outcome_ofItems_append (firstAlone _ _) (secondAlone _ _) none).2.1 _
      _ (by rfl) (by rfl)
  · exact (outcome_ofItems_append (firstAlone _ _) (secondAlone _ _) none).2.2.2

end SourceDeclarations
end Source
end PreferenceSchema
