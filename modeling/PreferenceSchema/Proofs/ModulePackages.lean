import PreferenceSchema.Proofs.SourceClasses

/-!
# Packages of modules

A walk through the modules of a file carries the package along as one text, in
which an empty name counts as none.  In the end every class is in the package of
the file followed by the names of the modules around it, and a file that is read
in another package declares the same classes, all moved into that package.
-/

namespace PreferenceSchema

/-- A class with its package replaced by another one. -/
def ClassDeclaration.mapPackage
    (function : Option String → Option String)
    (decl : ClassDeclaration) : ClassDeclaration :=
  { decl with package := function decl.package }

namespace Source

open Harvest

/-! ## Names of packages -/

/-- The package of modules with some names, each inside the one before it, in a
base package. -/
def modulePackage
    (base : Option String)
    (modules : List String) : Option String :=
  match (declaredPackage base).toList ++ modules with
  | [] => none
  | names => some ("::".intercalate names)

/-- The package of a module in some package or in none. -/
def packageWithin
    (package : Option String)
    (name : String) : String :=
  match package with
  | some base => base ++ "::" ++ name
  | none => name

/-- Where a package, or the lack of one, is when everything is moved into a base
package. -/
def movedPackage
    (base : String)
    (package : Option String) : Option String :=
  match package with
  | some inner => some (base ++ "::" ++ inner)
  | none => some base

theorem declaredPackage_some
    {name : String}
    (named : name ≠ "") : declaredPackage (some name) = some name := by
  simp [declaredPackage, named]

/-- Leaving out an empty name once is enough. -/
theorem declaredPackage_declaredPackage
    (package : Option String) :
    declaredPackage (declaredPackage package) = declaredPackage package := by
  simp [declaredPackage, Option.filter_filter]

/-- The package of a module with a name has a name. -/
theorem packageWithin_ne_empty
    {name : String}
    (named : name ≠ "")
    (package : Option String) : packageWithin package name ≠ "" := by
  cases package with
  | none => exact named
  | some base => simp [packageWithin]

/-- The package that the walk enters a module with declares the package within
the one around it. -/
theorem declaredPackage_submodulePackage
    {name : String}
    (named : name ≠ "")
    (package : Option String) :
    declaredPackage (some (submodulePackage package name)) =
      some (packageWithin (declaredPackage package) name) :=
  declaredPackage_some (packageWithin_ne_empty named _)

/-- At the top a class has the package of the file. -/
@[simp] theorem modulePackage_nil
    (base : Option String) :
    modulePackage base [] = declaredPackage base := by
  cases package : declaredPackage base with
  | none => simp [modulePackage, package]
  | some name => simp [modulePackage, package, String.intercalate_singleton]

/-- One more module inside all others adds its name at the end. -/
theorem modulePackage_concat
    (base : Option String)
    (modules : List String)
    (name : String) :
    modulePackage base (modules ++ [name]) =
      some (packageWithin (modulePackage base modules) name) := by
  unfold modulePackage
  rw [← List.append_assoc]
  cases names : (declaredPackage base).toList ++ modules with
  | nil => simp [packageWithin, String.intercalate_singleton]
  | cons first rest =>
      have joined : "::".intercalate (first :: rest ++ [name]) =
          "::".intercalate (first :: rest) ++ "::" ++ name := by
        rw [String.intercalate_append_of_ne_nil (List.cons_ne_nil first rest)
          (List.cons_ne_nil name []), String.intercalate_singleton]
      rw [List.cons_append] at joined ⊢
      exact congrArg some joined

/-! ## Classes inside modules -/

/-- A class, apart from its package, with the names of the modules around it
from the outermost on. -/
structure PlacedClass where
  modules : List String
  source : SourceClass

/-- A class in a package of its own. -/
def SourceClass.inPackage
    (source : SourceClass)
    (package : Option String) : SourceClass :=
  { source with package := package }

/-- A class in the package that the modules around it have in a base package. -/
def PlacedClass.within
    (base : Option String)
    (placed : PlacedClass) : SourceClass :=
  placed.source.inPackage (modulePackage base placed.modules)

namespace Item

mutual

/-- The names of the modules in an item, at any depth. -/
def moduleNames : Item → List String
  | .submodule name (some items) => name :: listModuleNames items
  | .submodule name none => [name]
  | _ => []

/-- The names of the modules in items, at any depth. -/
def listModuleNames : List Item → List String
  | [] => []
  | item :: rest => moduleNames item ++ listModuleNames rest

end

mutual

/-- The classes of an item that is inside some modules, next to some others. -/
def placedClasses
    (modules : List String)
    (siblings : List Item) : Item → List PlacedClass
  | .struct item => [⟨modules, .ofStruct none siblings item⟩]
  | .trait attributes name functions =>
    [⟨modules, .ofTrait none attributes name functions⟩]
  | .submodule name (some items) =>
    listPlacedClasses (modules ++ [name]) items items
  | _ => []

/-- The classes of items that are inside some modules, next to some others. -/
def listPlacedClasses
    (modules : List String)
    (siblings : List Item) : List Item → List PlacedClass
  | [] => []
  | item :: rest =>
    placedClasses modules siblings item ++
      listPlacedClasses modules siblings rest

end

mutual

/-- The classes of an item have the packages of the modules that they are placed
in.  The package that the walk carries is only known up to an empty name, which
is what it may be at the top; inside a module it is the text that
`modulePackage_concat` speaks of. -/
theorem map_classes
    {base package : Option String}
    {modules : List String}
    (carried : declaredPackage package = modulePackage base modules)
    (siblings : List Item) :
    (item : Item) → "" ∉ moduleNames item →
      (classes package siblings item).map
          (fun source => source.inPackage (declaredPackage source.package)) =
        (placedClasses modules siblings item).map (PlacedClass.within base)
  | .struct item, _ => by
      rw [classes, placedClasses, List.map_singleton, List.map_singleton,
        PlacedClass.within, ← carried]
      rfl
  | .trait attributes name functions, _ => by
      rw [classes, placedClasses, List.map_singleton, List.map_singleton,
        PlacedClass.within, ← carried]
      rfl
  | .submodule name (some items), named => by
      rw [moduleNames, List.mem_cons, not_or] at named
      have carriedInside :
          declaredPackage (some (submodulePackage package name)) =
          modulePackage base (modules ++ [name]) := by
        rw [declaredPackage_submodulePackage (Ne.symm named.1), carried,
          modulePackage_concat]
      exact map_listClasses carriedInside items items named.2
  | .submodule name none, _ => rfl
  | .implementation _ _ _, _ => rfl
  | .other, _ => rfl

theorem map_listClasses
    {base package : Option String}
    {modules : List String}
    (carried : declaredPackage package = modulePackage base modules)
    (siblings : List Item) :
    (items : List Item) → "" ∉ listModuleNames items →
      (listClasses package siblings items).map
          (fun source => source.inPackage (declaredPackage source.package)) =
        (listPlacedClasses modules siblings items).map (PlacedClass.within base)
  | [], _ => rfl
  | item :: rest, named => by
      rw [listModuleNames, List.mem_append, not_or] at named
      rw [listClasses, listPlacedClasses, List.map_append, List.map_append,
        map_classes carried siblings item named.1,
        map_listClasses carried siblings rest named.2]

end

end Item

/-! ## Declarations inside modules -/

/-- A declaration of a class tells the package only up to an empty name. -/
theorem SourceClass.Declares.inPackage
    {source : SourceClass}
    {annotations : List Annotation}
    {decl : ClassDeclaration}
    (declares : source.Declares annotations decl)
    {package : Option String}
    (same : declaredPackage package = declaredPackage source.package) :
    (source.inPackage package).Declares annotations decl where
  name := declares.name
  package := declares.package.trans same.symm
  annotations := declares.annotations
  members := declares.members
  outlines := declares.outlines

/-- The declarations of classes with a role, in order: each of them declares its
class, in the package that the modules around the class have in the base
package. -/
def DeclaredInModules
    (base : Option String)
    (declares : SourceClass → ClassDeclaration → Prop)
    (classes : List PlacedClass)
    (decls : List ClassDeclaration) : Prop :=
  List.Forall₂
    (fun placed decl => declares (placed.within base) decl ∧
      decl.package = modulePackage base placed.modules)
    classes decls

/-- The declarations of a file are those of its classes with a role, in the
packages of their modules. -/
structure FollowModules
    (base : Option String)
    (classes : List PlacedClass)
    (found : SourceDeclarations) : Prop where
  entities : DeclaredInModules base SourceClass.DeclaresEntity
    (classes.filter fun placed => placed.source.isEntity) found.entities
  components : DeclaredInModules base SourceClass.DeclaresComponent
    (classes.filter fun placed => placed.source.isComponent) found.components
  targets : DeclaredInModules base SourceClass.DeclaresTarget
    (classes.filter fun placed => placed.source.isTarget) found.targets

/-- A relation between classes and their declarations that tells the package of
a class only up to an empty name, and gives it to the declaration. -/
def TellsPackage (declares : SourceClass → ClassDeclaration → Prop) : Prop :=
  ∀ source decl, declares source decl →
    declares (source.inPackage (declaredPackage source.package)) decl ∧
      decl.package = declaredPackage source.package

/-- A declaration tells the package of its class, an empty name counting as
none. -/
theorem SourceClass.Declares.tells
    {source : SourceClass}
    {annotations : List Annotation}
    {decl : ClassDeclaration}
    (declares : source.Declares annotations decl) :
    (source.inPackage (declaredPackage source.package)).Declares
      annotations decl ∧
      decl.package = declaredPackage source.package :=
  ⟨declares.inPackage (declaredPackage_declaredPackage _), declares.package⟩

theorem tellsPackage_declaresEntity :
    TellsPackage SourceClass.DeclaresEntity := by
  rintro source decl ⟨mark, read, named, declares⟩
  exact ⟨⟨mark, read, named, declares.tells.1⟩, declares.tells.2⟩

theorem tellsPackage_declaresComponent :
    TellsPackage SourceClass.DeclaresComponent := by
  rintro source decl ⟨mark, read, named, declares⟩
  exact ⟨⟨mark, read, named, declares.tells.1⟩, declares.tells.2⟩

theorem tellsPackage_declaresTarget : TellsPackage SourceClass.DeclaresTarget :=
  fun _ _ declares => declares.tells

/-- Classes that are placed in modules are declared in the packages of these
modules. -/
theorem declaredInModules_of_forall₂
    {declares : SourceClass → ClassDeclaration → Prop}
    (tells : TellsPackage declares)
    {role : SourceClass → Bool}
    (free : ∀ source package, role (source.inPackage package) = role source)
    {base : Option String}
    {classes : List SourceClass}
    {placed : List PlacedClass}
    (same :
      classes.map (fun source =>
        source.inPackage (declaredPackage source.package)) =
      placed.map (PlacedClass.within base))
    {decls : List ClassDeclaration}
    (declared : List.Forall₂ declares (classes.filter role) decls) :
    DeclaredInModules base declares
      (placed.filter fun inside => role inside.source) decls := by
  have moved : List.Forall₂
      (fun source decl => declares source decl ∧ decl.package = source.package)
      ((classes.filter role).map fun source =>
        source.inPackage (declaredPackage source.package))
      decls :=
    List.forall₂_map_left_iff.mpr (declared.imp tells)
  have filtered := congrArg (List.filter role) same
  simp only [List.filter_map, Function.comp_def, PlacedClass.within,
    free] at filtered
  rw [filtered] at moved
  exact List.forall₂_map_left_iff.mp moved

/-! ## Declarations in another package -/

/-- Declarations with all their packages replaced by others. -/
def SourceDeclarations.mapPackages
    (function : Option String → Option String)
    (found : SourceDeclarations) : SourceDeclarations :=
  ⟨found.entities.map (ClassDeclaration.mapPackage function),
    found.components.map (ClassDeclaration.mapPackage function),
    found.targets.map (ClassDeclaration.mapPackage function)⟩

theorem SourceDeclarations.mapPackages_id
    (found : SourceDeclarations) :
    found.mapPackages id = found := by
  have same : ClassDeclaration.mapPackage id = id := rfl
  simp [mapPackages, same]

theorem SourceDeclarations.mapPackages_append
    (function : Option String → Option String)
    (found more : SourceDeclarations) :
    (found ++ more).mapPackages function =
      found.mapPackages function ++ more.mapPackages function := by
  unfold mapPackages
  rw [entities_append, components_append, targets_append, List.map_append,
    List.map_append, List.map_append]
  rfl

namespace Harvest

/-- What is found the second time has the same errors as the first time, and the
same declarations in other packages. -/
structure Moved
    (function : Option String → Option String)
    (first second : Harvest) : Prop where
  errors : second.errors = first.errors
  found : second.found = first.found.mapPackages function

/-- Packages of modules inside two packages are related as these packages
are. -/
def KeepsModules (function : Option String → Option String) : Prop :=
  ∀ package other name, name ≠ "" →
    declaredPackage other = function (declaredPackage package) →
    declaredPackage (some (submodulePackage other name)) =
      function (declaredPackage (some (submodulePackage package name)))

namespace Moved

variable {function : Option String → Option String}

theorem ofErrors
    (errors : List AttributeError) :
    Moved function (Harvest.ofErrors errors) (Harvest.ofErrors errors) :=
  ⟨rfl, rfl⟩

theorem empty : Moved function Harvest.empty Harvest.empty :=
  ofErrors []

theorem append
    {first second more moreSecond : Harvest}
    (moved : Moved function first second)
    (movedMore : Moved function more moreSecond) :
    Moved function (first ++ more) (second ++ moreSecond) where
  errors := by rw [errors_append, errors_append, moved.errors, movedMore.errors]
  found := by
    rw [found_append, found_append, moved.found, movedMore.found,
      SourceDeclarations.mapPackages_append]

theorem when
    {first second : Harvest}
    (condition : Bool)
    (moved : Moved function first second) :
    Moved function (Harvest.when condition first)
      (Harvest.when condition second) := by
  cases condition with
  | false => exact empty
  | true => exact moved

/-- What is harvested from the value of a result moves if it does for each
value. -/
theorem ofResult
    {α : Type}
    {first second : α → Harvest}
    (result : Except AttributeError α)
    (moved : ∀ value, Moved function (first value) (second value)) :
    Moved function (Harvest.ofResult result first)
      (Harvest.ofResult result second) := by
  cases result with
  | error error => exact ofErrors [error]
  | ok value => exact moved value

section Items

variable {package other : Option String}

theorem asEntity
    (marks : List Attribute)
    (decl : ClassDeclaration) :
    Moved function (Harvest.asEntity package marks decl)
      (Harvest.asEntity other marks (decl.mapPackage function)) :=
  ofResult _ fun found =>
    match found with
    | some _ => ⟨rfl, rfl⟩
    | none => empty

theorem asComponent
    (marks : List Attribute)
    (decl : ClassDeclaration) :
    Moved function (Harvest.asComponent package marks decl)
      (Harvest.asComponent other marks (decl.mapPackage function)) :=
  ofResult _ fun _ => ⟨rfl, rfl⟩

theorem ofTarget
    (decl : ClassDeclaration) :
    Moved function (Harvest.ofTarget package decl)
      (Harvest.ofTarget other (decl.mapPackage function)) :=
  ⟨rfl, rfl⟩

variable (moves : declaredPackage other = function (declaredPackage package))

include moves

/-- A class in another package is the same class but for the package. -/
theorem classOf
    (name : String)
    (members : List Member) :
    Harvest.classOf other name members =
      (Harvest.classOf package name members).mapPackage function := by
  unfold Harvest.classOf
  rw [moves]
  rfl

theorem ofStruct
    (methods : List (String × Member))
    (item : Struct) :
    Moved function (Harvest.ofStruct package methods item)
      (Harvest.ofStruct other methods item) := by
  have sameClass : structClass other methods item =
      (structClass package methods item).mapPackage function :=
        classOf moves _ _
  unfold Harvest.ofStruct
  rw [sameClass]
  split
  · split
    · exact ofErrors _
    · exact (((ofErrors _).append (when _ (asEntity _ _))).append
        (when _ (asComponent _ _))).append (when _ (ofTarget _))
  · exact empty

theorem ofTrait
    (marks : List Attribute)
    (name : String)
    (functions : List Function) :
    Moved function (Harvest.ofTrait package marks name functions)
      (Harvest.ofTrait other marks name functions) := by
  unfold Harvest.ofTrait
  rw [classOf moves]
  exact when _ (ofResult _ fun _ => (ofErrors _).append ⟨rfl, rfl⟩)

end Items

mutual

/-- What is found in an item moves with it, and so does what is found in the
modules inside it. -/
theorem ofItem
    (keeps : KeepsModules function)
    {package other : Option String}
    (moves : declaredPackage other = function (declaredPackage package))
    (methods : List (String × Member)) :
    (item : Item) → "" ∉ item.moduleNames →
      Moved function (Harvest.ofItem package methods item)
        (Harvest.ofItem other methods item)
  | .struct item, _ => ofStruct moves methods item
  | .trait marks name functions, _ => ofTrait moves marks name functions
  | .submodule name (some items), named => by
      rw [Item.moduleNames, List.mem_cons, not_or] at named
      have movesInside := keeps package other name (Ne.symm named.1) moves
      exact (ofErrors _).append (ofItems keeps movesInside _ items named.2)
  | .submodule name none, _ => empty
  | .implementation _ _ _, _ => empty
  | .other, _ => empty

theorem ofItems
    (keeps : KeepsModules function)
    {package other : Option String}
    (moves : declaredPackage other = function (declaredPackage package))
    (methods : List (String × Member)) :
    (items : List Item) → "" ∉ Item.listModuleNames items →
      Moved function (Harvest.ofItems package methods items)
        (Harvest.ofItems other methods items)
  | [], _ => empty
  | item :: rest, named => by
      rw [Item.listModuleNames, List.mem_append, not_or] at named
      exact (ofItem keeps moves methods item named.1).append
        (ofItems keeps moves methods rest named.2)

end

theorem ofModule
    (keeps : KeepsModules function)
    {package other : Option String}
    (moves : declaredPackage other = function (declaredPackage package))
    {items : List Item}
    (named : "" ∉ Item.listModuleNames items) :
    Moved function (Harvest.ofModule package items)
      (Harvest.ofModule other items) :=
  (ofErrors _).append (ofItems keeps moves _ items named)

end Moved

theorem keepsModules_id : KeepsModules id := by
  intro package other name named moves
  rw [declaredPackage_submodulePackage named,
    declaredPackage_submodulePackage named, moves]
  rfl

/-- A package in front of all others keeps the modules inside them. -/
theorem keepsModules_movedPackage
    (base : String) :
    KeepsModules (movedPackage base) := by
  intro package other name named moves
  rw [declaredPackage_submodulePackage named,
    declaredPackage_submodulePackage named, moves]
  cases declaredPackage package with
  | none => rfl
  | some inner => simp [movedPackage, packageWithin, String.append_assoc]

end Harvest

namespace SourceDeclarations

/-- Read in another package, a file has the same errors, and the same
declarations in other packages. -/
theorem outcome_ofItems_eq_map
    {function : Option String → Option String}
    (keeps : KeepsModules function)
    {package other : Option String}
    (moves : declaredPackage other = function (declaredPackage package))
    {items : List Item}
    (named : "" ∉ Item.listModuleNames items) :
    (ofItems items other).outcome =
      (ofItems items package).outcome.map (mapPackages function) := by
  have moved := Moved.ofModule keeps moves named
  rw [outcome_ofItems, outcome_ofItems, moved.errors, moved.found]
  unfold AttributeError.unlessAny
  split <;> rfl

/-- The declarations of a file without errors are in the packages of the modules
around them. -/
theorem followModules_of_ofItems_eq_ok
    {items : List Item}
    (named : "" ∉ Item.listModuleNames items)
    {base : Option String}
    {found : SourceDeclarations}
    (accepted : (ofItems items base).outcome = .ok found) :
    FollowModules base (Item.listPlacedClasses [] items items) found := by
  have lists := lists_of_ofItems_eq_ok accepted
  have same :=
    Item.map_listClasses (modulePackage_nil base).symm items items named
  exact ⟨declaredInModules_of_forall₂ tellsPackage_declaresEntity
      (fun _ _ => rfl) same
      lists.entities,
    declaredInModules_of_forall₂ tellsPackage_declaresComponent
      (fun _ _ => rfl) same
      lists.components,
    declaredInModules_of_forall₂ tellsPackage_declaresTarget
      (fun _ _ => rfl) same
      lists.targets⟩

/-- The declarations of a file are in the packages that are named for the
modules around them.  An empty base package is none, and any other one moves all
declarations into it, with the same errors where there are some.  The name of a
module is an identifier, so no module has an empty one. -/
theorem packages_follow_modules
    {items : List Item}
    (named : "" ∉ Item.listModuleNames items) :
    (∀ base found, (ofItems items base).outcome = .ok found →
        FollowModules base (Item.listPlacedClasses [] items items) found) ∧
      (ofItems items (some "")).outcome = (ofItems items none).outcome ∧
      ∀ base, base ≠ "" → (ofItems items (some base)).outcome =
        (ofItems items none).outcome.map (mapPackages (movedPackage base)) := by
  refine ⟨fun _ _ => followModules_of_ofItems_eq_ok named, ?_, ?_⟩
  · have same : mapPackages id = id := funext mapPackages_id
    have noBase : declaredPackage (some "") = id (declaredPackage none) := rfl
    rw [outcome_ofItems_eq_map keepsModules_id noBase named, same,
      Except.map_id, id]
  · intro base notEmpty
    exact outcome_ofItems_eq_map (keepsModules_movedPackage base)
      (declaredPackage_some notEmpty)
      named

/-- A file with all its declarations in a module, some of them in one more
module. -/
def nestedFile : List Item :=
  [.submodule "store" (some settingsFile)]

/-- Declarations in a module are in its package; an empty base package is none,
and another one moves them. -/
theorem nestedFile_packages :
    "" ∉ Item.listModuleNames nestedFile ∧
      (ofItems nestedFile none).outcome =
        .ok (settingsDeclarations.mapPackages (movedPackage "store")) ∧
      FollowModules none (Item.listPlacedClasses [] nestedFile nestedFile)
        (settingsDeclarations.mapPackages (movedPackage "store")) ∧
      (ofItems nestedFile (some "")).outcome =
        (ofItems nestedFile none).outcome ∧
      (ofItems nestedFile (some "lib")).outcome =
        (ofItems nestedFile none).outcome.map
          (mapPackages (movedPackage "lib")) := by
  have named : "" ∉ Item.listModuleNames nestedFile := by decide
  have accepted : (ofItems nestedFile none).outcome =
      .ok (settingsDeclarations.mapPackages (movedPackage "store")) := by rfl
  obtain ⟨follow, noBase, moved⟩ := packages_follow_modules named
  exact ⟨named, accepted, follow none _ accepted, noBase,
    moved "lib" (by decide)⟩

end SourceDeclarations
end Source
end PreferenceSchema
