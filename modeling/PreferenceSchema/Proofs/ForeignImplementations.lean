import Mathlib.Data.List.Flatten
import PreferenceSchema.Proofs.SourceClasses

/-!
# Implementations of foreign types

A structure gets the functions of every implementation next to it whose type has
its name as the last one, whatever module the names in front of it lead to.  So
the declarations of a file have the functions of their own implementations only,
exactly when no class with a role has functions from implementations of types of
other modules.  This holds for every notion of which types those are.
-/

namespace PreferenceSchema
namespace Source

/-- Which types belong to other modules, as they are named in a module with a
package and items. -/
abbrev ForeignTypes := Option String → List Item → Ty → Bool

/-- Whether an item implements, of no trait, a type that is foreign. -/
def Item.isForeign (foreign : Ty → Bool) : Item → Bool
  | .implementation false type _ => foreign type
  | _ => false

/-- A structure or a trait at its place in a file. -/
inductive ClassSite where
  | struct (package : Option String) (siblings : List Item) (item : Struct)
  | trait (package : Option String) (attributes : List Attribute)
      (name : String)
      (functions : List Function)

namespace ClassSite

/-! ## Functions of a class -/

/-- The class as it is declared. -/
def source : ClassSite → SourceClass
  | .struct package siblings item => .ofStruct package siblings item
  | .trait package attributes name functions =>
    .ofTrait package attributes name functions

/-- Whether the class is an entity, a component or an injection target. -/
def hasRole (site : ClassSite) : Bool :=
  site.source.isEntity || site.source.isComponent || site.source.isTarget

section Foreign

variable (foreign : ForeignTypes)

/-- The class without the functions that are in implementations of foreign
types. -/
def ownSource : ClassSite → SourceClass
  | .struct package siblings item =>
    .ofStruct package (siblings.filter fun sibling =>
      !sibling.isForeign (foreign package siblings))
      item
  | .trait package attributes name functions =>
    .ofTrait package attributes name functions

/-- The functions of the class that are in implementations of foreign types. -/
def foreignFunctions : ClassSite → List Function
  | .struct package siblings item =>
    (siblings.filter (Item.isForeign (foreign package siblings))).flatMap
      (Item.inherentFunctions item.name)
  | .trait _ _ _ _ => []

theorem isEntity_ownSource
    (site : ClassSite) :
    (site.ownSource foreign).isEntity = site.source.isEntity := by
  cases site <;> rfl

theorem isComponent_ownSource
    (site : ClassSite) :
    (site.ownSource foreign).isComponent = site.source.isComponent := by
  cases site <;> rfl

theorem isTarget_ownSource
    (site : ClassSite) :
    (site.ownSource foreign).isTarget = site.source.isTarget := by
  cases site <;> rfl

theorem fields_ownSource
    (site : ClassSite) :
    (site.ownSource foreign).fields = site.source.fields := by
  cases site <;> rfl

/-- Each function of a class is either one of its own or a foreign one. -/
theorem length_functions
    (site : ClassSite) :
    (site.foreignFunctions foreign).length +
      (site.ownSource foreign).functions.length =
      site.source.functions.length := by
  cases site with
  | struct package siblings item =>
      let isForeign := Item.isForeign (foreign package siblings)
      have parts :
          (siblings.filter isForeign ++ siblings.filter (!isForeign ·)).Perm
          siblings :=
        List.filter_append_perm isForeign siblings
      have functions :=
        (parts.flatMap_right (Item.inherentFunctions item.name)).length_eq
      rw [List.flatMap_append, List.length_append] at functions
      exact functions
  | trait => exact Nat.zero_add _

end Foreign

variable {foreign : ForeignTypes}

/-- Without foreign functions a class is what it is by its own
implementations. -/
theorem ownSource_eq
    {site : ClassSite}
    (noForeign : site.foreignFunctions foreign = []) :
    site.ownSource foreign = site.source := by
  have lengths := length_functions foreign site
  rw [noForeign, List.length_nil, Nat.zero_add] at lengths
  cases site with
  | struct package siblings item =>
      have kept :
          ((siblings.filter
            (!Item.isForeign (foreign package siblings) ·)).flatMap
              (Item.inherentFunctions item.name)).Sublist
            (siblings.flatMap (Item.inherentFunctions item.name)) :=
        List.filter_sublist.flatMap _
      have same := kept.eq_of_length lengths
      simp only [ownSource, source, SourceClass.ofStruct, same]
  | trait => rfl

/-- A declaration can have the members both of a class and of what the class is
by its own implementations only if there are no foreign functions. -/
theorem foreignFunctions_eq_nil_of_outlines_eq
    {site : ClassSite}
    (same : site.source.outlines = (site.ownSource foreign).outlines) :
    site.foreignFunctions foreign = [] := by
  have lengths := congrArg List.length same
  simp only [SourceClass.outlines, List.length_append, List.length_map,
    fields_ownSource]
    at lengths
  have functions := length_functions foreign site
  exact List.eq_nil_of_length_eq_zero (by omega)

/-! ## Classes of a role -/

section Role

variable {role : SourceClass → Bool} {sites : List ClassSite}

/-- Among classes of a role that have no foreign functions, the foreign
implementations make no difference. -/
theorem filter_map_ownSource
    (sameRole : ∀ site : ClassSite,
      role (site.ownSource foreign) = role site.source)
    (noForeign : ∀ site ∈ sites, role site.source = true →
      site.foreignFunctions foreign = []) :
    (sites.map (ownSource foreign)).filter role =
      (sites.map source).filter role := by
  have sameRoles : role ∘ ownSource foreign = role ∘ source := funext sameRole
  rw [List.filter_map, List.filter_map, sameRoles]
  refine List.map_congr_left fun site ofRole => ?_
  obtain ⟨present, hasRole⟩ := List.mem_filter.mp ofRole
  exact ownSource_eq (noForeign site present hasRole)

/-- Classes of a role that are declared by their own implementations have no
foreign functions. -/
theorem foreignFunctions_eq_nil_of_forall₂
    {Declares : SourceClass → ClassDeclaration → Prop}
    {decls : List ClassDeclaration}
    (outlined : ∀ source decl, Declares source decl →
      decl.members.map Member.outline = source.outlines)
    (sameRole : ∀ site : ClassSite,
      role (site.ownSource foreign) = role site.source)
    (declared : List.Forall₂ Declares ((sites.map source).filter role) decls)
    (declaredOwn : List.Forall₂ Declares
      ((sites.map (ownSource foreign)).filter role) decls) :
    ∀ site ∈ sites, role site.source = true →
      site.foreignFunctions foreign = [] := by
  have sameRoles : role ∘ ownSource foreign = role ∘ source := funext sameRole
  rw [List.filter_map, List.forall₂_map_left_iff] at declared declaredOwn
  rw [sameRoles] at declaredOwn
  have both :
      List.Forall₂ (fun site _ => site.foreignFunctions foreign = [] ∧ True)
      (sites.filter (role ∘ source)) decls := by
    refine declared.mp (fun site decl isDeclared isOwn => ⟨?_, trivial⟩)
      declaredOwn
    apply foreignFunctions_eq_nil_of_outlines_eq
    rw [← outlined _ _ isDeclared, outlined _ _ isOwn]
  intro site present hasRole
  exact ((List.forall₂_and_left _ _).mp both).1 site
    (List.mem_filter.mpr ⟨present, hasRole⟩)

end Role

end ClassSite

/-! ## Classes of a file -/

namespace Item

mutual

/-- The classes of an item at their places; next to it there are some others. -/
def sites
    (package : Option String)
    (siblings : List Item) : Item → List ClassSite
  | .struct item => [.struct package siblings item]
  | .trait attributes name functions =>
    [.trait package attributes name functions]
  | .submodule name (some items) =>
    listSites (some (Harvest.submodulePackage package name)) items items
  | _ => []

/-- The classes of items at their places; next to them there are some others. -/
def listSites
    (package : Option String)
    (siblings : List Item) : List Item → List ClassSite
  | [] => []
  | item :: rest => sites package siblings item ++
    listSites package siblings rest

end

mutual

theorem map_source_sites
    (package : Option String)
    (siblings : List Item) :
    (item : Item) → (sites package siblings item).map ClassSite.source =
      classes package siblings item
  | .struct _ => rfl
  | .trait _ _ _ => rfl
  | .submodule _ (some items) => map_source_listSites _ items items
  | .submodule _ none => rfl
  | .implementation _ _ _ => rfl
  | .other => rfl

theorem map_source_listSites
    (package : Option String)
    (siblings : List Item) :
    (items : List Item) →
      (listSites package siblings items).map ClassSite.source =
      listClasses package siblings items
  | [] => rfl
  | item :: rest => by
      rw [listSites, listClasses, List.map_append,
        map_source_sites package siblings item,
        map_source_listSites package siblings rest]

end

end Item

namespace SourceDeclarations

/-- The declarations of the classes of a file, each with the functions of its
own implementations and with no others. -/
def DeclaresOwn
    (foreign : ForeignTypes)
    (items : List Item)
    (package : Option String)
    (found : SourceDeclarations) : Prop :=
  Harvest.ListsRoles
    ((Item.listSites package items items).map (ClassSite.ownSource foreign))
    found

/-- Where classes have their own functions only, no place has a foreign one. -/
theorem foreignFunctions_eq_nil_of_declaresOwn
    {foreign : ForeignTypes}
    {items : List Item}
    {package : Option String}
    {found : SourceDeclarations}
    (accepted : (ofItems items package).outcome = .ok found)
    (own : DeclaresOwn foreign items package found) :
    ∀ site ∈ Item.listSites package items items, site.hasRole = true →
      site.foreignFunctions foreign = [] := by
  have lists := lists_of_ofItems_eq_ok accepted
  rw [← Item.map_source_listSites] at lists
  intro site present hasRole
  simp only [ClassSite.hasRole, Bool.or_eq_true] at hasRole
  rcases hasRole with (isEntity | isComponent) | isTarget
  · refine ClassSite.foreignFunctions_eq_nil_of_forall₂ ?_
      (ClassSite.isEntity_ownSource foreign)
      lists.entities own.entities site present isEntity
    exact fun _ _ ⟨_, _, _, declares⟩ => declares.outlines
  · refine ClassSite.foreignFunctions_eq_nil_of_forall₂ ?_
      (ClassSite.isComponent_ownSource foreign)
        lists.components own.components site present
      isComponent
    exact fun _ _ ⟨_, _, _, declares⟩ => declares.outlines
  · refine ClassSite.foreignFunctions_eq_nil_of_forall₂ ?_
      (ClassSite.isTarget_ownSource foreign)
      lists.targets own.targets site present isTarget
    exact fun _ _ declares => declares.outlines

/-- Where no place has foreign functions, classes have their own functions
only. -/
theorem declaresOwn_of_foreignFunctions_eq_nil
    {foreign : ForeignTypes}
    {items : List Item}
    {package : Option String}
    {found : SourceDeclarations}
    (accepted : (ofItems items package).outcome = .ok found)
    (noForeign : ∀ site ∈ Item.listSites package items items,
      site.hasRole = true →
      site.foreignFunctions foreign = []) :
    DeclaresOwn foreign items package found := by
  have lists := lists_of_ofItems_eq_ok accepted
  rw [← Item.map_source_listSites] at lists
  simp only [ClassSite.hasRole, Bool.or_eq_true] at noForeign
  unfold DeclaresOwn Harvest.ListsRoles
  rw [ClassSite.filter_map_ownSource (ClassSite.isEntity_ownSource foreign)
      fun site present isEntity =>
        noForeign site present (.inl (.inl isEntity)),
    ClassSite.filter_map_ownSource (ClassSite.isComponent_ownSource foreign)
      fun site present isComponent =>
        noForeign site present (.inl (.inr isComponent)),
    ClassSite.filter_map_ownSource (ClassSite.isTarget_ownSource foreign)
      fun site present isTarget => noForeign site present (.inr isTarget)]
  exact lists

/-- Whatever types count as those of other modules: the declarations found in a
file have the functions of their own implementations only, exactly when no class
with a role has functions from an implementation of a foreign type next to
it. -/
theorem declaresOwn_iff
    {items : List Item}
    {package : Option String}
    {found : SourceDeclarations}
    (accepted : (ofItems items package).outcome = .ok found)
    (foreign : ForeignTypes) :
    DeclaresOwn foreign items package found ↔
      ∀ site ∈ Item.listSites package items items, site.hasRole = true →
        site.foreignFunctions foreign = [] :=
  ⟨foreignFunctions_eq_nil_of_declaresOwn accepted,
    declaresOwn_of_foreignFunctions_eq_nil accepted⟩

/-- A type that is surely one of another module: the name in front of its own is
`super`, or that of a module among the items next to it. -/
def isElsewhere : ForeignTypes
  | _, siblings, .path none ⟨false, [qualifier, _]⟩ =>
    qualifier.name == "super" || siblings.any fun
      | .submodule name _ => name == qualifier.name
      | _ => false
  | _, _, _ => false

/-- A path of two words. -/
def qualifiedPath (qualifier name : String) : Path :=
  ⟨false, [⟨qualifier, .none⟩, ⟨name, .none⟩]⟩

/-- A file with an entity and a plain structure, and with implementations of the
entity and of a structure of another module. -/
def neighbourFile (foreignName : String) : List Item :=
  [.submodule "other" (some [.struct ⟨[], foreignName, .unit⟩]),
    .struct ⟨[⟨false, wordPath entityAttribute, .bare⟩], "Settings", .named []⟩,
    .struct ⟨[], "Cache", .unit⟩,
    .implementation false (.path none (wordPath "Settings"))
      [⟨[], true, "load", [.receiver], none⟩],
    .implementation false (.path none (qualifiedPath "other" foreignName))
      [⟨[], true, "reset", [.receiver], none⟩]]

/-- The declarations of a file with the entity `Settings` that has some
methods. -/
def settingsMethods (names : List String) : SourceDeclarations where
  entities := [⟨"Settings", none, [⟨Naming.entityMark, []⟩],
    names.map fun name => (Member.method name "()").withModifier .public⟩]
  components := []
  targets := []

/-- A structure of another module with the name of a plain structure leaves the
entity with its own methods only. -/
theorem cacheNeighbour_declaresOwn :
    (ofItems (neighbourFile "Cache") none).outcome =
      .ok (settingsMethods ["load"]) ∧
      DeclaresOwn isElsewhere (neighbourFile "Cache") none
        (settingsMethods ["load"]) := by
  have accepted : (ofItems (neighbourFile "Cache") none).outcome =
      .ok (settingsMethods ["load"]) := by rfl
  refine ⟨accepted, (declaresOwn_iff accepted isElsewhere).mpr ?_⟩
  intro site present hasRole
  have places : Item.listSites none (neighbourFile "Cache")
      (neighbourFile "Cache") =
      [.struct (some "other") [.struct ⟨[], "Cache", .unit⟩]
        ⟨[], "Cache", .unit⟩,
        .struct none (neighbourFile "Cache")
          ⟨[⟨false, wordPath entityAttribute, .bare⟩], "Settings", .named []⟩,
        .struct none (neighbourFile "Cache") ⟨[], "Cache", .unit⟩] := rfl
  rw [places] at present
  simp only [List.mem_cons, List.not_mem_nil, or_false] at present
  rcases present with rfl | rfl | rfl
  · cases hasRole
  · rfl
  · cases hasRole

/-- Functions of a structure in another module become members of the entity with
its name. -/
theorem not_forall_declaresOwn :
    ¬∀ (items : List Item) (package : Option String)
      (found : SourceDeclarations),
      (ofItems items package).outcome = .ok found →
        DeclaresOwn isElsewhere items package found := by
  intro always
  have accepted : (ofItems (neighbourFile "Settings") none).outcome =
      .ok (settingsMethods ["load", "reset"]) := by rfl
  have noForeign :=
    foreignFunctions_eq_nil_of_declaresOwn accepted (always _ _ _ accepted)
    (.struct none (neighbourFile "Settings")
      ⟨[⟨false, wordPath entityAttribute, .bare⟩], "Settings", .named []⟩)
    (.tail _ (.head _)) rfl
  cases noForeign

end SourceDeclarations
end Source
end PreferenceSchema
