import PreferenceSchema.Proofs.SourceMembers
import PreferenceSchema.Source.Harvest

/-!
# Classes of source files

The classes of a file are the structures and the traits at its top level and in
the modules inside it, in the order of the source.  What is found in a file
without errors are its classes with a role: one list for each role, in which
every class has all its members, and the mark of that role only.
-/

namespace PreferenceSchema
namespace Source

open Traversal

/-! ## Classes -/

/-- A structure or a trait of a file, with all that it is declared by. -/
structure SourceClass where
  package : Option String
  name : String
  isTrait : Bool
  attributes : List Attribute
  fields : List Field
  functions : List Function

/-- The functions of an implementation, of no trait, of the type with a name. -/
def Item.inherentFunctions (name : String) : Item → List Function
  | .implementation false (.path _ owner) functions =>
    if owner.lastName? = some name then functions else []
  | _ => []

namespace SourceClass

/-- A structure as a class; its functions are in the implementations next to
it. -/
def ofStruct
    (package : Option String)
    (siblings : List Item)
    (item : Struct) : SourceClass where
  package := package
  name := item.name
  isTrait := false
  attributes := item.attributes
  fields := item.fields.toList
  functions := siblings.flatMap (Item.inherentFunctions item.name)

/-- A trait as a class. -/
def ofTrait
    (package : Option String)
    (attributes : List Attribute)
    (name : String)
    (functions : List Function) : SourceClass where
  package := package
  name := name
  isTrait := true
  attributes := attributes
  fields := []
  functions := functions

/-- Whether a class is a structure with the attribute of entities. -/
def isEntity (source : SourceClass) : Bool :=
  !source.isTrait && hasAttribute source.attributes entityAttribute

/-- Whether a class has the attribute of components. -/
def isComponent (source : SourceClass) : Bool :=
  hasAttribute source.attributes componentAttribute

/-- Whether a class has injected fields. -/
def isTarget (source : SourceClass) : Bool :=
  source.fields.any Field.isInjected

/-- The member that a function of a class is; those of a trait are public. -/
def methodMember
    (source : SourceClass)
    (function : Function) : Except AttributeError Member :=
  function.toMember (source.isTrait || function.isPublic)

end SourceClass

namespace Item

mutual

/-- The classes of an item, next to which there are some others. -/
def classes
    (package : Option String)
    (siblings : List Item) : Item → List SourceClass
  | .struct item => [.ofStruct package siblings item]
  | .trait attributes name functions =>
    [.ofTrait package attributes name functions]
  | .submodule name (some items) =>
    listClasses (some (Harvest.submodulePackage package name)) items items
  | _ => []

/-- The classes of items, next to which there are some others. -/
def listClasses
    (package : Option String)
    (siblings : List Item) : List Item → List SourceClass
  | [] => []
  | item :: rest => classes package siblings item ++
    listClasses package siblings rest

end

end Item

/-! ## Declarations of classes -/

namespace SourceClass

/-- The kinds, the names and the types of the members of a class. -/
def outlines (source : SourceClass) : List (MemberKind × String × String) :=
  (source.fields.map fun field =>
    (.field, field.name.getD "", field.type.descriptor)) ++
    source.functions.map fun function =>
      (.method, function.name, resultDescriptor function.result)

/-- A declaration of a class with some annotations: its members are those of all
its fields, and behind them those of all its functions. -/
structure Declares
    (source : SourceClass)
    (annotations : List Annotation)
    (decl : ClassDeclaration) : Prop where
  name : decl.name = source.name
  package : decl.package = Harvest.declaredPackage source.package
  annotations : decl.annotations = annotations
  members : ∃ ofFields ofFunctions,
    Yields Field.toMember source.fields ofFields ∧
      Yields source.methodMember source.functions ofFunctions ∧
        decl.members = ofFields ++ ofFunctions
  outlines : decl.members.map Member.outline = source.outlines

/-- A declaration of a class as an entity. -/
def DeclaresEntity
    (source : SourceClass)
    (decl : ClassDeclaration) : Prop :=
  ∃ mark, readEntityMark source.attributes = .ok (some mark) ∧
    mark.name = Naming.entityMark ∧
    source.Declares [mark] decl

/-- A declaration of a class as a component. -/
def DeclaresComponent
    (source : SourceClass)
    (decl : ClassDeclaration) : Prop :=
  ∃ mark, readComponentMark source.attributes = .ok mark ∧
    mark.name = Naming.componentMark ∧
    source.Declares [mark] decl

/-- A declaration of a class as an injection target. -/
def DeclaresTarget
    (source : SourceClass)
    (decl : ClassDeclaration) : Prop :=
  source.Declares [] decl

/-- The members of a class are outlined as its fields and functions are. -/
theorem map_outline_of_yields
    {source : SourceClass}
    {ofFields ofFunctions : List Member}
    (fieldsMade : Yields Field.toMember source.fields ofFields)
    (functionsMade : Yields source.methodMember source.functions ofFunctions) :
    (ofFields ++ ofFunctions).map Member.outline = source.outlines := by
  rw [List.map_append, outlines]
  congr 1
  · refine (map_eq_map_of_forall₂ fieldsMade fun made => ?_).symm
    obtain ⟨name, named, outline⟩ := Field.outline_of_toMember_eq_ok made
    rw [outline, named]
    rfl
  · refine (map_eq_map_of_forall₂ functionsMade fun made => ?_).symm
    exact (Function.outline_of_toMember_eq_ok made).symm

/-- A declaration that gets its only annotation. -/
theorem Declares.annotated
    {source : SourceClass}
    {decl : ClassDeclaration}
    (declares : source.Declares [] decl)
    (mark : Annotation) : source.Declares [mark] (decl.annotated mark) where
  name := declares.name
  package := declares.package
  annotations := by
    rw [ClassDeclaration.annotated, declares.annotations]
    rfl
  members := declares.members
  outlines := declares.outlines

end SourceClass

/-! ## Results without errors -/

namespace Harvest

/-- A result adds no errors exactly if it is a value that adds none. -/
theorem errors_ofResult_eq_nil_iff
    {α : Type}
    {result : Except AttributeError α}
    {harvest : α → Harvest} :
    (ofResult result harvest).errors = [] ↔
      ∃ value, result = .ok value ∧ (harvest value).errors = [] := by
  cases result <;> simp [ofResult, ofErrors]

/-! ## Members -/

theorem yields_fieldResults
    {item : Struct}
    (noErrors : Function.errorsOf (fieldResults item) = []) :
    Yields Field.toMember item.fields.toList
      (Function.valuesOf (fieldResults item)) := by
  refine (yields_valuesOf noErrors).imp fun field member made => ?_
  cases result : field.toMember with
  | error fault => simp [result, Except.mapError] at made
  | ok value => simpa [result, Except.mapError] using made

/-- The functions of an owner in an item are those of its implementations of no
trait. -/
theorem filterMap_ownedFunctions
    (name : String)
    (item : Item) :
    ((ownedFunctions item).filterMap fun (owner, function) =>
      if owner = name then some function else none) =
        item.inherentFunctions name := by
  fun_cases ownedFunctions item with
  | case1 generics owner functions other named =>
      by_cases same : other = name <;>
        simp [Item.inherentFunctions, named, same]
  | case2 generics owner functions unnamed =>
      simp [Item.inherentFunctions, unnamed]
  | case3 => simp [Item.inherentFunctions]

/-- The methods of a type are those of the functions in its implementations. -/
theorem yields_methodsOf
    {pairs : List (String × Function)}
    {methods : List (String × Member)}
    (made : Yields (fun (owner, function) =>
      (function.toMember function.isPublic).map fun member => (owner, member))
        pairs methods)
    (name : String) :
    Yields (fun function => function.toMember function.isPublic)
      (pairs.filterMap fun (owner, function) =>
        if owner = name then some function else none)
      (methodsOf methods name) := by
  induction made with
  | nil => exact .nil
  | @cons pair result _ _ first _ inductionHypothesis =>
      obtain ⟨owner, function⟩ := pair
      obtain ⟨member, memberMade, rfl⟩ := map_eq_ok_iff.mp first
      rw [methodsOf] at inductionHypothesis ⊢
      by_cases same : owner = name
      · simpa [same] using ⟨memberMade, inductionHypothesis⟩
      · simpa [same] using inductionHypothesis

/-- The methods of a type next to some items are those of the functions in its
implementations. -/
theorem yields_methodsOf_methodResults
    {siblings : List Item}
    (noErrors : Function.errorsOf (methodResults siblings) = [])
    (name : String) :
    Yields (fun function => function.toMember function.isPublic)
      (siblings.flatMap (Item.inherentFunctions name))
      (methodsOf (Function.valuesOf (methodResults siblings)) name) := by
  have methods := yields_methodsOf (yields_valuesOf noErrors) name
  rw [List.filterMap_flatMap] at methods
  simp only [filterMap_ownedFunctions] at methods
  exact methods

/-- A structure whose members are all proper is declared with them. -/
theorem declares_structClass
    {package : Option String}
    {siblings : List Item}
    {item : Struct}
    (methodsProper : Function.errorsOf (methodResults siblings) = [])
    (fieldsProper : Function.errorsOf (fieldResults item) = []) :
    (SourceClass.ofStruct package siblings item).Declares []
      (structClass package (Function.valuesOf (methodResults siblings)) item) :=
  have ofFields := yields_fieldResults fieldsProper
  have ofFunctions := yields_methodsOf_methodResults methodsProper item.name
  ⟨rfl, rfl, rfl, ⟨_, _, ofFields, ofFunctions, rfl⟩,
    SourceClass.map_outline_of_yields ofFields ofFunctions⟩

/-- A trait whose functions are all proper is declared with them. -/
theorem declares_traitClass
    {package : Option String}
    {attributes : List Attribute}
    {name : String}
    {functions : List Function}
    (functionsProper : Function.errorsOf (traitResults functions) = []) :
    (SourceClass.ofTrait package attributes name functions).Declares []
      (classOf package name (Function.valuesOf (traitResults functions))) :=
  let source := SourceClass.ofTrait package attributes name functions
  have ofFields : Yields Field.toMember source.fields [] := .nil
  have ofFunctions : Yields source.methodMember source.functions
      (Function.valuesOf (traitResults functions)) :=
        yields_valuesOf functionsProper
  ⟨rfl, rfl, rfl, ⟨_, _, ofFields, ofFunctions, rfl⟩,
    SourceClass.map_outline_of_yields ofFields ofFunctions⟩

end Harvest

/-! ## Annotations -/

/-- An entity attribute stands for an annotation. -/
theorem exists_mark_of_readEntityMark_eq_ok
    {attributes : List Attribute}
    {found : Option Annotation}
    (marked : hasAttribute attributes entityAttribute = true)
    (read : readEntityMark attributes = .ok found) :
    ∃ mark, found = some mark ∧ mark.name = Naming.entityMark := by
  rw [readEntityMark] at read
  split at read
  case h_1 absent =>
    rw [hasAttribute, List.any_eq_true] at marked
    obtain ⟨mark, present, isNamed⟩ := marked
    exact absurd isNamed (List.find?_eq_none.mp absent mark present)
  case h_2 mark _ =>
    obtain ⟨name, -, equal⟩ := bind_eq_ok_iff.mp read
    obtain rfl := Except.ok.inj equal
    exact ⟨_, rfl, rfl⟩

/-- The mark that is read for a component is named as one. -/
theorem name_of_readComponentMark_eq_ok
    {attributes : List Attribute}
    {mark : Annotation}
    (read : readComponentMark attributes = .ok mark) :
    mark.name = Naming.componentMark := by
  obtain ⟨options, -, equal⟩ := bind_eq_ok_iff.mp read
  rw [← Except.ok.inj equal]

/-! ## Roles -/

/-- The declarations of some entities, components and targets. -/
structure Lists
    (entities components targets : List SourceClass)
    (found : SourceDeclarations) : Prop where
  entities : List.Forall₂ SourceClass.DeclaresEntity entities found.entities
  components :
    List.Forall₂ SourceClass.DeclaresComponent components found.components
  targets : List.Forall₂ SourceClass.DeclaresTarget targets found.targets

namespace Lists

theorem empty : Lists [] [] [] .empty :=
  ⟨.nil, .nil, .nil⟩

theorem append
    {entities moreEntities components moreComponents targets moreTargets :
      List SourceClass}
    {found more : SourceDeclarations}
    (lists : Lists entities components targets found)
    (listsMore : Lists moreEntities moreComponents moreTargets more) :
    Lists (entities ++ moreEntities) (components ++ moreComponents)
      (targets ++ moreTargets)
      (found ++ more) :=
  ⟨List.rel_append lists.entities listsMore.entities,
    List.rel_append lists.components listsMore.components,
    List.rel_append lists.targets listsMore.targets⟩

end Lists

namespace Harvest

section Roles

variable {package : Option String} {source : SourceClass}
  {decl : ClassDeclaration}

/-- The role of an entity adds to the list of entities and to no other. -/
theorem lists_asEntity
    (declares : source.Declares [] decl)
    (isStruct : source.isTrait = false)
    (noErrors :
      (when source.isEntity (asEntity package source.attributes decl)).errors =
      []) :
    Lists ([source].filter SourceClass.isEntity) [] []
      (when source.isEntity
        (asEntity package source.attributes decl)).found := by
  cases isEntity : source.isEntity with
  | false => simpa [isEntity, when, Harvest.empty] using Lists.empty
  | true =>
      rw [isEntity] at noErrors
      obtain ⟨found, read, -⟩ := errors_ofResult_eq_nil_iff.mp noErrors
      have marked : hasAttribute source.attributes entityAttribute = true := by
        simpa [SourceClass.isEntity, isStruct] using isEntity
      obtain ⟨mark, rfl, named⟩ :=
        exists_mark_of_readEntityMark_eq_ok marked read
      rw [List.filter_cons_of_pos isEntity, List.filter_nil, when, if_pos rfl,
        asEntity, read]
      exact ⟨.cons ⟨mark, read, named, declares.annotated mark⟩ .nil, .nil,
        .nil⟩

theorem lists_asComponent
    (declares : source.Declares [] decl)
    (noErrors :
      (when source.isComponent
        (asComponent package source.attributes decl)).errors = []) :
    Lists [] ([source].filter SourceClass.isComponent) []
      (when source.isComponent
        (asComponent package source.attributes decl)).found := by
  cases isComponent : source.isComponent with
  | false => simpa [isComponent, when, Harvest.empty] using Lists.empty
  | true =>
      rw [isComponent] at noErrors
      obtain ⟨mark, read, -⟩ := errors_ofResult_eq_nil_iff.mp noErrors
      have named := name_of_readComponentMark_eq_ok read
      rw [List.filter_cons_of_pos isComponent, List.filter_nil, when,
        if_pos rfl, asComponent, read]
      exact ⟨.nil, .cons ⟨mark, read, named, declares.annotated mark⟩ .nil,
        .nil⟩

/-- The role of a target adds to the list of targets and to no other. -/
theorem lists_ofTarget
    (package : Option String)
    (declares : source.Declares [] decl) :
    Lists [] [] ([source].filter SourceClass.isTarget)
      (when source.isTarget (ofTarget package decl)).found := by
  cases isTarget : source.isTarget with
  | false => simpa [isTarget, when, Harvest.empty] using Lists.empty
  | true =>
      rw [List.filter_cons_of_pos isTarget]
      exact ⟨.nil, .nil, .cons declares .nil⟩

end Roles

/-! ## Items -/

/-- The declarations of classes, by their roles. -/
abbrev ListsRoles
    (classes : List SourceClass)
    (found : SourceDeclarations) : Prop :=
  Lists (classes.filter SourceClass.isEntity)
    (classes.filter SourceClass.isComponent)
    (classes.filter SourceClass.isTarget) found

variable {package : Option String} {siblings : List Item}

theorem listsRoles_empty
    {source : SourceClass}
    (noEntity : source.isEntity = false)
    (noComponent : source.isComponent = false)
    (noTarget : source.isTarget = false) : ListsRoles [source] .empty := by
  simpa [ListsRoles, noEntity, noComponent, noTarget] using Lists.empty

/-- A structure is in the list of each of its roles. -/
theorem listsRoles_ofStruct
    {item : Struct}
    (methodsProper : Function.errorsOf (methodResults siblings) = [])
    (noErrors :
      (ofStruct package (Function.valuesOf (methodResults siblings))
        item).errors = []) :
    ListsRoles [.ofStruct package siblings item]
      (ofStruct package (Function.valuesOf (methodResults siblings))
        item).found := by
  rw [ofStruct] at noErrors ⊢
  split
  case isTrue hasRole =>
    rw [if_pos hasRole] at noErrors
    split
    case isTrue unnamed =>
      rw [if_pos unnamed] at noErrors
      cases noErrors
    case isFalse named =>
      rw [if_neg named] at noErrors
      simp only [errors_append, List.append_eq_nil_iff] at noErrors
      obtain ⟨⟨⟨fieldsProper, entityProper⟩, componentProper⟩, -⟩ := noErrors
      have declares :
          (SourceClass.ofStruct package siblings item).Declares [] _ :=
        declares_structClass methodsProper fieldsProper
      have ofRoles := ((lists_asEntity declares rfl entityProper).append
        (lists_asComponent declares componentProper)).append
          (lists_ofTarget package declares)
      simp only [List.append_nil, List.nil_append] at ofRoles
      exact ofRoles
  case isFalse noRole =>
    simp only [Bool.or_eq_true, not_or, Bool.not_eq_true] at noRole
    obtain ⟨⟨noEntity, noComponent⟩, noTarget⟩ := noRole
    exact listsRoles_empty noEntity noComponent noTarget

/-- A trait is in the list of components if it is marked as one, and in no other
list. -/
theorem listsRoles_ofTrait
    {attributes : List Attribute}
    {name : String}
    {functions : List Function}
    (noErrors : (ofTrait package attributes name functions).errors = []) :
    ListsRoles [.ofTrait package attributes name functions]
      (ofTrait package attributes name functions).found := by
  rw [ofTrait] at noErrors ⊢
  cases isComponent : isComponent attributes with
  | false => exact listsRoles_empty rfl isComponent rfl
  | true =>
      rw [isComponent] at noErrors
      obtain ⟨mark, read, proper⟩ := errors_ofResult_eq_nil_iff.mp noErrors
      have functionsProper := (List.append_eq_nil_iff.mp proper).1
      have declares :
          (SourceClass.ofTrait package attributes name functions).Declares
          [] _ :=
        declares_traitClass functionsProper
      have marked :
          (SourceClass.ofTrait package attributes name functions).isComponent =
          true :=
        isComponent
      rw [when, if_pos rfl, read, ListsRoles, List.filter_cons_of_pos marked]
      refine ⟨.nil, ?_, .nil⟩
      have named := name_of_readComponentMark_eq_ok read
      exact .cons ⟨mark, read, named, declares.annotated mark⟩ .nil

mutual

/-- The classes of an item are in the lists of their roles.  The induction is on
the tree of items: inside a module the methods are those next to its own items,
so the siblings change there, and the module has to be free of errors in methods
itself. -/
theorem listsRoles_ofItem
    {siblings : List Item}
    (methodsProper : Function.errorsOf (methodResults siblings) = [])
    (package : Option String) :
    (item : Item) →
      (ofItem package (Function.valuesOf (methodResults siblings))
        item).errors = [] →
        ListsRoles (item.classes package siblings)
          (ofItem package (Function.valuesOf (methodResults siblings))
            item).found
  | .struct item, noErrors => listsRoles_ofStruct methodsProper noErrors
  | .trait attributes name functions, noErrors => listsRoles_ofTrait noErrors
  | .submodule name (some items), noErrors => by
      rw [ofItem, errors_append, List.append_eq_nil_iff] at noErrors
      exact listsRoles_ofItems noErrors.1 _ items noErrors.2
  | .submodule name none, _ => Lists.empty
  | .implementation _ _ _, _ => Lists.empty
  | .other, _ => Lists.empty

theorem listsRoles_ofItems
    {siblings : List Item}
    (methodsProper : Function.errorsOf (methodResults siblings) = [])
    (package : Option String) :
    (items : List Item) →
      (ofItems package (Function.valuesOf (methodResults siblings))
        items).errors = [] →
        ListsRoles (Item.listClasses package siblings items)
          (ofItems package (Function.valuesOf (methodResults siblings))
            items).found
  | [], _ => Lists.empty
  | item :: rest, noErrors => by
      rw [ofItems, errors_append, List.append_eq_nil_iff] at noErrors
      have first := listsRoles_ofItem methodsProper package item noErrors.1
      have others := listsRoles_ofItems methodsProper package rest noErrors.2
      have both := first.append others
      rw [← List.filter_append, ← List.filter_append,
        ← List.filter_append] at both
      exact both

end

end Harvest

namespace SourceDeclarations

/-- A file has the declarations that were found in it unless there are
errors. -/
theorem outcome_ofItems
    (items : List Item)
    (package : Option String) :
    (ofItems items package).outcome =
      AttributeError.unlessAny (Harvest.ofModule package items).errors
        (Harvest.ofModule package items).found := by
  rw [ofItems, Traced.outcome_bind, Traced.outcome_report, Except.bind,
    Traced.outcome_bind, Traced.outcome_ofExcept]
  cases AttributeError.unlessAny (Harvest.ofModule package items).errors
    (Harvest.ofModule package items).found <;> rfl

/-- A file is accepted exactly when nothing in it is wrong. -/
theorem ofItems_eq_ok_iff
    {items : List Item}
    {package : Option String}
    {found : SourceDeclarations} :
    (ofItems items package).outcome = .ok found ↔
      (Harvest.ofModule package items).errors = [] ∧
        (Harvest.ofModule package items).found = found := by
  rw [outcome_ofItems, AttributeError.unlessAny_eq_ok_iff]

/-- A file without errors is found to declare its classes with a role and
nothing else: by role, in the order of the source, with all members and the mark
of the role. -/
theorem lists_of_ofItems_eq_ok
    {items : List Item}
    {package : Option String}
    {found : SourceDeclarations}
    (accepted : (ofItems items package).outcome = .ok found) :
    Lists ((Item.listClasses package items items).filter SourceClass.isEntity)
      ((Item.listClasses package items items).filter SourceClass.isComponent)
      ((Item.listClasses package items items).filter SourceClass.isTarget)
        found := by
  obtain ⟨noErrors, rfl⟩ := ofItems_eq_ok_iff.mp accepted
  rw [Harvest.ofModule, Harvest.errors_append,
    List.append_eq_nil_iff] at noErrors
  exact Harvest.listsRoles_ofItems noErrors.1 package items noErrors.2

/-- A path of one word. -/
def wordPath (name : String) : Path :=
  ⟨false, [⟨name, .none⟩]⟩

/-- A file with an entity, and with a component and a target in a module. -/
def settingsFile : List Item :=
  [.struct ⟨[⟨false, wordPath entityAttribute, .bare⟩], "Settings",
      .named [⟨[], true, some "volume", .path none (wordPath "i32")⟩]⟩,
    .implementation false (.path none (wordPath "Settings"))
      [⟨[], true, "reset", [.receiver], none⟩],
    .submodule "app" (some [
      .trait [⟨false, wordPath componentAttribute, .list .parenthesis []⟩]
        "AppComponent" [],
      .struct ⟨[], "Screen",
        .named
          [⟨[⟨false, wordPath injectAttribute, .bare⟩], false, some "store",
            .path none (wordPath "Preference_Settings")⟩]⟩])]

/-- The declarations of the file with an entity, a component and a target. -/
def settingsDeclarations : SourceDeclarations where
  entities := [⟨"Settings", none, [⟨Naming.entityMark, []⟩],
    [(Member.field "volume" "i32").withModifier .public,
      (Member.method "reset" "()").withModifier .public]⟩]
  components := [⟨"AppComponent", some "app", [⟨Naming.componentMark, []⟩], []⟩]
  targets := [⟨"Screen", some "app", [],
    [((Member.field "store" "Preference_Settings").withModifier
      .private).annotated
      ⟨Naming.injectMark, []⟩]⟩]

/-- A file with an entity, and with a component and a target in a module, has
each of them in its list. -/
theorem settingsFile_lists :
    (ofItems settingsFile none).outcome = .ok settingsDeclarations ∧
      Lists
        ((Item.listClasses none settingsFile settingsFile).filter
          SourceClass.isEntity)
        ((Item.listClasses none settingsFile settingsFile).filter
          SourceClass.isComponent)
        ((Item.listClasses none settingsFile settingsFile).filter
          SourceClass.isTarget)
        settingsDeclarations :=
  have accepted : (ofItems settingsFile none).outcome =
      .ok settingsDeclarations := by rfl
  ⟨accepted, lists_of_ofItems_eq_ok accepted⟩

end SourceDeclarations
end Source
end PreferenceSchema
