import PreferenceSchema.Source.Members
import PreferenceSchema.Source.SourceDeclarations

/-!
# Finding declarations

The declarations among the items of a file and of the modules inside it.  A
structure may have several roles at once; its methods come from the
implementations next to it in the same module.  Errors are gathered in the order
of the source, those of methods before all others of a module; a file with
errors has no declarations.
-/

namespace PreferenceSchema
namespace Source

/-- What has been found: errors, declarations and events, each in order. -/
structure Harvest where
  errors : List AttributeError
  found : SourceDeclarations
  events : List Event

namespace Harvest

/-- Nothing. -/
def empty : Harvest :=
  ⟨[], .empty, []⟩

/-- What has been found first, and what has been found behind it. -/
def append (first second : Harvest) : Harvest :=
  ⟨first.errors ++ second.errors, first.found ++ second.found,
    first.events ++ second.events⟩

instance : Append Harvest :=
  ⟨append⟩

@[simp] theorem errors_append
    (first second : Harvest) :
    (first ++ second).errors = first.errors ++ second.errors := rfl

@[simp] theorem found_append
    (first second : Harvest) :
    (first ++ second).found = first.found ++ second.found := rfl

@[simp] theorem empty_append
    (harvest : Harvest) :
    empty ++ harvest = harvest := rfl

theorem append_assoc
    (first second third : Harvest) :
    first ++ second ++ third = first ++ (second ++ third) := by
  show append (append first second) third = append first (append second third)
  simp only [append, List.append_assoc, SourceDeclarations.append_assoc]

/-- Errors and nothing else. -/
def ofErrors (errors : List AttributeError) : Harvest :=
  ⟨errors, .empty, []⟩

/-- What an annotation makes of an item, unless there is an error instead. -/
def ofResult
    {α : Type}
    (result : Except AttributeError α)
    (harvest : α → Harvest) : Harvest :=
  match result with
  | .ok value => harvest value
  | .error error => ofErrors [error]

/-- A harvest that is taken only under a condition. -/
def when
    (condition : Bool)
    (harvest : Harvest) : Harvest :=
  if condition then harvest else empty

/-- An entity, found in a package. -/
def ofEntity
    (package : Option String)
    (decl : ClassDeclaration) : Harvest :=
  ⟨[], ⟨[decl], [], []⟩, [.foundEntity decl.name package]⟩

/-- A component, found in a package. -/
def ofComponent
    (package : Option String)
    (decl : ClassDeclaration) : Harvest :=
  ⟨[], ⟨[], [decl], []⟩, [.foundComponent decl.name package]⟩

/-- An injection target, found in a package. -/
def ofTarget
    (package : Option String)
    (decl : ClassDeclaration) : Harvest :=
  ⟨[], ⟨[], [], [decl]⟩, [.foundTarget decl.name package]⟩

/-! ### Methods of types -/

/-- The functions of an implementation of no trait, each with the name of the
type. -/
def ownedFunctions : Item → List (String × Function)
  | .implementation false (.path _ owner) functions =>
    match owner.lastName? with
    | some name => functions.map fun function => (name, function)
    | none => []
  | _ => []

/-- The methods of all types of a module, in order, each with the name of its
type, or errors. -/
def methodResults (items : List Item) :
    List (Except AttributeError (String × Member)) :=
  (items.flatMap ownedFunctions).map fun (owner, function) =>
    (function.toMember function.isPublic).map fun member => (owner, member)

/-- The methods of one type. -/
def methodsOf
    (methods : List (String × Member))
    (owner : String) : List Member :=
  methods.filterMap fun (name, member) =>
    if name = owner then some member else none

/-! ### Items with roles -/

/-- The package of declarations that are found in a package; an empty name is
none. -/
def declaredPackage (package : Option String) : Option String :=
  package.filter fun name => !name.isEmpty

/-- A class of a package, without annotations. -/
def classOf
    (package : Option String)
    (name : String)
    (members : List Member) : ClassDeclaration where
  name := name
  package := declaredPackage package
  annotations := []
  members := members

/-- The class as an entity, if it has a proper entity attribute. -/
def asEntity
    (package : Option String)
    (marks : List Attribute)
    (decl : ClassDeclaration) : Harvest :=
  ofResult (readEntityMark marks) fun
    | some mark => ofEntity package (decl.annotated mark)
    | none => empty

/-- The class as a component, if its component attributes are proper. -/
def asComponent
    (package : Option String)
    (marks : List Attribute)
    (decl : ClassDeclaration) : Harvest :=
  ofResult (readComponentMark marks) fun mark =>
    ofComponent package (decl.annotated mark)

/-- Whether a structure is an entity. -/
def isEntity (item : Struct) : Bool :=
  hasAttribute item.attributes entityAttribute

/-- Whether an item with some attributes is a component. -/
def isComponent (marks : List Attribute) : Bool :=
  hasAttribute marks componentAttribute

/-- Whether a structure has injected fields. -/
def isTarget (item : Struct) : Bool :=
  item.fields.toList.any Field.isInjected

/-- The fields of a structure as members, or errors. -/
def fieldResults (item : Struct) : List (Except AttributeError Member) :=
  item.fields.toList.map fun field => field.toMember.mapError .ofFault

/-- The class that a structure is, with its proper fields and with the methods
of its type. -/
def structClass
    (package : Option String)
    (methods : List (String × Member))
    (item : Struct) : ClassDeclaration :=
  classOf package item.name
    (Function.valuesOf (fieldResults item) ++ methodsOf methods item.name)

/-- What is found in a structure, which may have several roles. -/
def ofStruct
    (package : Option String)
    (methods : List (String × Member))
    (item : Struct) : Harvest :=
  if isEntity item || isComponent item.attributes || isTarget item then
    if isEntity item && item.fields.areUnnamed then
      ofErrors [.ofFault .unnamedEntity]
    else
      let decl := structClass package methods item
      ofErrors (Function.errorsOf (fieldResults item)) ++
        when (isEntity item) (asEntity package item.attributes decl) ++
        when (isComponent item.attributes)
          (asComponent package item.attributes decl) ++
        when (isTarget item) (ofTarget package decl)
  else empty

/-- The functions of a trait as members, or errors. -/
def traitResults (functions : List Function) :
    List (Except AttributeError Member) :=
  functions.map fun function => function.toMember true

/-- What is found in a trait; the functions of one whose component attributes
are wrong are not looked at. -/
def ofTrait
    (package : Option String)
    (marks : List Attribute)
    (name : String)
    (functions : List Function) : Harvest :=
  when (isComponent marks) <|
    ofResult (readComponentMark marks) fun mark =>
      ofErrors (Function.errorsOf (traitResults functions)) ++
        ofComponent package
          ((classOf package name
            (Function.valuesOf (traitResults functions))).annotated mark)

/-! ### Modules -/

/-- The package of a module inside a package. -/
def submodulePackage
    (package : Option String)
    (name : String) : String :=
  match declaredPackage package with
  | some base => base ++ "::" ++ name
  | none => name

mutual

/-- What is found in an item, next to which there are some methods. -/
def ofItem
    (package : Option String)
    (methods : List (String × Member)) : Item → Harvest
  | .struct item => ofStruct package methods item
  | .trait marks name functions => ofTrait package marks name functions
  | .submodule name (some items) =>
    ofErrors (Function.errorsOf (methodResults items)) ++
      ofItems (some (submodulePackage package name))
        (Function.valuesOf (methodResults items)) items
  | _ => empty

/-- What is found in items, next to which there are some methods. -/
def ofItems
    (package : Option String)
    (methods : List (String × Member)) : List Item → Harvest
  | [] => empty
  | item :: rest => ofItem package methods item ++ ofItems package methods rest

end

/-- What is found in two lists of items next to each other is found in the first
one, then in the second one. -/
theorem ofItems_append
    (package : Option String)
    (methods : List (String × Member))
    (first second : List Item) :
    ofItems package methods (first ++ second) =
      ofItems package methods first ++ ofItems package methods second := by
  induction first with
  | nil => simp [ofItems]
  | cons item rest ih => simp [ofItems, ih, append_assoc]

/-- What is found in the items of a module: the errors of methods, then all
else. -/
def ofModule
    (package : Option String)
    (items : List Item) : Harvest :=
  ofErrors (Function.errorsOf (methodResults items)) ++
    ofItems package (Function.valuesOf (methodResults items)) items

end Harvest

namespace SourceDeclarations

/-- The event at the end of a file. -/
def collectedEvent (found : SourceDeclarations) : Event :=
  .collectedSource found.entities.length found.components.length
    found.targets.length

/-- The declarations among the items of a file in a package, unless there are
errors. -/
def ofItems
    (items : List Item)
    (package : Option String) : Traced AttributeError SourceDeclarations := do
  let harvest := Harvest.ofModule package items
  Traced.report harvest.events
  let found ← Traced.ofExcept
    (AttributeError.unlessAny harvest.errors harvest.found)
  Traced.report [found.collectedEvent]
  return found

end SourceDeclarations
end Source
end PreferenceSchema
