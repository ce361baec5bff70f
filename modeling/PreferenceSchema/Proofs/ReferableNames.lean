import PreferenceSchema.Proofs.EntityConstruction
import PreferenceSchema.Proofs.EntityReferences
import PreferenceSchema.Proofs.TypeNames

/-!
# Names that can be referred to

An entity is injected under its storage name, which a component lists between
commas and an injected field gives as the end of its type.  A storage name need
only not be blank, so a class may have a name that a list of names or the name
of a type takes apart.  Which names a list gives back, which the name of a type
gives back, and under which an entity can be injected is settled here.
-/

namespace PreferenceSchema

open Traversal Text

/-- A name without blanks around it. -/
def Unpadded (name : String) : Prop :=
  trim name.toList = name.toList

/-- A name that no separator of names takes apart: neither that of a list of
names nor those of a qualified name. -/
structure Unsplit (name : String) : Prop where
  noComma : ',' ∉ name.toList
  noDot : '.' ∉ name.toList
  noPath : ¬[':', ':'] <:+: name.toList

namespace ComponentSchema

/-- The component annotation of a class has one value, and that is the text. -/
def ListsOnly
    (decl : ClassDeclaration)
    (text : String) : Prop :=
  ∃ mark label, decl.annotationNamed? Naming.componentMark = some mark ∧
    mark.values = [(label, text)]

/-- The names in a text are what stands between its commas, without blanks
around it. -/
theorem mem_splitNames_iff
    {text name : String} :
    name ∈ splitNames text ↔
      name ≠ "" ∧ ∃ piece ∈ splitAt ',' text.toList, trim piece =
        name.toList := by
  rw [splitNames, List.mem_filterMap]
  simp only [List.mem_map, exists_exists_and_eq_and,
    Option.ite_none_left_eq_some, Option.some.injEq]
  constructor
  · rintro ⟨piece, present, nonempty, rfl⟩
    rw [String.toList_ofList]
    refine ⟨?_, piece, present, rfl⟩
    exact mt String.ofList_eq_empty_iff.mp nonempty
  · rintro ⟨nonempty, piece, present, equal⟩
    refine ⟨piece, present, ?_, ?_⟩
    · rw [equal]
      exact mt String.toList_eq_nil_iff.mp nonempty
    · rw [equal, String.ofList_toList]

/-- A name is among the names that it lists exactly when nothing of it is cut
off. -/
theorem mem_splitNames_self_iff
    {name : String}
    (nonempty : name ≠ "") :
    name ∈ splitNames name ↔ ',' ∉ name.toList ∧ Unpadded name := by
  rw [mem_splitNames_iff, and_iff_right nonempty]
  constructor
  · rintro ⟨piece, present, trimmed⟩
    obtain ⟨noComma, isPart⟩ := of_mem_splitAt present
    have whole : piece = name.toList := by
      refine isPart.eq_of_length_le ?_
      rw [← trimmed]
      exact (trim_infix_self piece).length_le
    rw [whole] at noComma trimmed
    exact ⟨noComma, trimmed⟩
  · rintro ⟨noComma, unpadded⟩
    refine ⟨name.toList, ?_, unpadded⟩
    rw [splitAt_eq_singleton noComma]
    exact List.mem_singleton_self _

theorem entityNames_eq_of_listsOnly
    {decl : ClassDeclaration}
    {text : String}
    (lists : ListsOnly decl text) :
    (ofDeclaration decl).entityNames = .ofList (splitNames text) := by
  obtain ⟨mark, label, marked, values⟩ := lists
  change entityNamesOf decl = _
  rw [entityNamesOf, marked]
  simp only [values, List.flatMap_cons, List.flatMap_nil, List.append_nil]

theorem containsEntity_iff_of_listsOnly
    {decl : ClassDeclaration}
    {name : String}
    (lists : ListsOnly decl name)
    (nonempty : name ≠ "") :
    (ofDeclaration decl).containsEntity name = true ↔
      ',' ∉ name.toList ∧ Unpadded name := by
  rw [containsEntity, entityNames_eq_of_listsOnly lists,
    NameSet.contains_ofList, List.contains_iff_mem,
    mem_splitNames_self_iff nonempty]

/-- A text lists itself and nothing else exactly when it is a name of which
nothing is cut off. -/
theorem names_ofList_splitNames_eq_singleton_iff
    {name : String} :
    (NameSet.ofList (splitNames name)).names = [name] ↔
      name ≠ "" ∧ ',' ∉ name.toList ∧ Unpadded name := by
  constructor
  · intro only
    have present : name ∈ splitNames name := by
      rw [← List.contains_iff_mem, ← NameSet.contains_ofList, NameSet.contains,
        only]
      simp
    have nonempty := (mem_splitNames_iff.mp present).1
    exact ⟨nonempty, (mem_splitNames_self_iff nonempty).mp present⟩
  · rintro ⟨nonempty, noComma, unpadded⟩
    have solid : ¬trim name.toList = [] := by
      rw [unpadded]
      exact mt String.toList_eq_nil_iff.mp nonempty
    have onePiece : splitNames name = [name] := by
      rw [splitNames, splitAt_eq_singleton noComma, List.map_singleton,
        List.filterMap_cons, if_neg solid, unpadded, String.ofList_toList,
        List.filterMap_nil]
    rw [onePiece]
    rfl

end ComponentSchema

/-! ## Names that are given back -/

theorem unpadded_iff
    {name : String} :
    Unpadded name ↔ ¬BeginsBlank name.toList ∧ ¬EndsBlank name.toList := by
  rw [Unpadded, trim_eq_self_iff, not_beginsBlank_iff, not_endsBlank_iff]

/-- The storage class of a name gives the name back exactly when no separator of
qualified names occurs in it and no blank is at its end.  A component that lists
nothing else has exactly that name when no comma occurs in it and no blank is at
either end.  Every descriptor that gives a name back ends, apart from blanks, in
the storage class of the name, as its last segment. -/
theorem referable_names_exact
    (name : String) :
    (Naming.storedEntity? (Naming.storageClassName name) = some name ↔
        name ≠ "" ∧ Unqualified name.toList ∧ ¬EndsBlank name.toList) ∧
      (∀ decl, ComponentSchema.ListsOnly decl name →
        ∃ component, (ComponentSchema.build decl).outcome = .ok component ∧
          (component.entityNames.names = [name] ↔
            name ≠ "" ∧ ',' ∉ name.toList ∧ ¬BeginsBlank name.toList ∧
            ¬EndsBlank name.toList)) ∧
      ∀ descriptor,
        (Naming.storedEntity? descriptor = some name ↔
          name ≠ "" ∧ Unqualified name.toList ∧
            EndsInSegment (trim descriptor.toList)
              (Naming.storageClassName name).toList) ∧
        (Naming.storedEntity? descriptor = some name →
          (Naming.storageClassName name).toList <:+ trim
            descriptor.toList) := by
  refine ⟨?_, ?_, ?_⟩
  · rw [Naming.storedEntity?_storageClassName_iff, not_endsBlank_iff]
    refine and_congr_right fun _ => ?_
    constructor
    · rintro ⟨noDot, noPath, noBlank⟩
      exact ⟨⟨noDot, noPath⟩, noBlank⟩
    · rintro ⟨⟨noDot, noPath⟩, noBlank⟩
      exact ⟨noDot, noPath, noBlank⟩
  · intro decl lists
    refine ⟨_, ComponentSchema.outcome_build decl, ?_⟩
    rw [ComponentSchema.entityNames_eq_of_listsOnly lists,
      ComponentSchema.names_ofList_splitNames_eq_singleton_iff, unpadded_iff]
  · intro descriptor
    refine ⟨Naming.storedEntity?_eq_some_iff_endsInSegment, ?_⟩
    intro stored
    obtain ⟨-, -, ends⟩ :=
      Naming.storedEntity?_eq_some_iff_endsInSegment.mp stored
    exact ends.suffix

/-- The name may hold a single colon, and blanks that are not at its ends. -/
theorem colonName_referable :
    ComponentSchema.ListsOnly (GenerationPlan.componentOf "a: b") "a: b" ∧
      Naming.storedEntity? " app.x::Preference_a: b " = some "a: b" ∧
      (Naming.storedEntity? (Naming.storageClassName "a: b") = some "a: b" ↔
        "a: b" ≠ "" ∧ Unqualified "a: b".toList ∧ ¬EndsBlank "a: b".toList) ∧
      (∃ component,
        (ComponentSchema.build (GenerationPlan.componentOf "a: b")).outcome =
          .ok component ∧
          (component.entityNames.names = ["a: b"] ↔
            "a: b" ≠ "" ∧ ',' ∉ "a: b".toList ∧
              ¬BeginsBlank "a: b".toList ∧ ¬EndsBlank "a: b".toList)) ∧
      (Naming.storageClassName "a: b").toList <:+ trim
        " app.x::Preference_a: b ".toList := by
  have lists :
      ComponentSchema.ListsOnly (GenerationPlan.componentOf "a: b") "a: b" :=
    ⟨_, "entities", rfl, rfl⟩
  have stored : Naming.storedEntity? " app.x::Preference_a: b " =
      some "a: b" := by
    decide +kernel
  obtain ⟨readBack, listed, told⟩ := referable_names_exact "a: b"
  exact ⟨lists, stored, readBack, listed _ lists, (told _).2 stored⟩

namespace InjectionPlan

/-- The injected fields of a target resolve against a component, those of one
type aside. -/
def OthersResolve
    (component : ComponentSchema)
    (target : ClassDeclaration)
    (typeName : String) : Prop :=
  ∀ field ∈ injectedFields target, field.typeName ≠ typeName →
    ∃ binding, bind component target field = .ok binding

/-- A target has an injector in which a field is bound to an entity. -/
def Binds
    (component : ComponentSchema)
    (target : ClassDeclaration)
    (field : Member)
    (entity : String) : Prop :=
  ∃ plan, (build component target).outcome = .ok plan ∧
    ⟨field.name, field.typeName, entity⟩ ∈ plan.bindings

/-- A field is bound to an entity exactly when its type tells the name of the
entity, the component lists it and no field of another type keeps the target
from having an injector. -/
theorem binds_iff
    {component : ComponentSchema}
    {target : ClassDeclaration}
    {field : Member}
    {entity : String}
    (injected : field ∈ injectedFields target) :
    Binds component target field entity ↔
      component.containsEntity entity = true ∧
        Naming.storedEntity? field.typeName = some entity ∧
        OthersResolve component target field.typeName := by
  constructor
  · rintro ⟨plan, built, present⟩
    obtain ⟨other, -, bound⟩ := (mem_bindings_iff built).mp present
    obtain ⟨found, stored, listed, equal⟩ := bind_eq_ok_iff.mp bound
    obtain ⟨-, sameType, rfl⟩ := InjectionBinding.mk.inj equal
    refine ⟨listed, ?_, ?_⟩
    · rw [sameType]
      exact stored
    · obtain ⟨bindings, yields, -⟩ := build_eq_ok_iff.mp built
      exact fun other present _ =>
        exists_yields_iff.mp ⟨bindings, yields⟩ other present
  · rintro ⟨listed, stored, others⟩
    have resolved (other : Member)
        (sameType : other.typeName = field.typeName) :
        bind component target other =
          .ok ⟨other.name, other.typeName, entity⟩ :=
      bind_eq_ok_iff.mpr ⟨entity, sameType ▸ stored, listed, rfl⟩
    have allResolve : ∀ other ∈ injectedFields target,
        ∃ binding, bind component target other = .ok binding := by
      intro other present
      by_cases sameType : other.typeName = field.typeName
      · exact ⟨_, resolved other sameType⟩
      · exact others other present sameType
    obtain ⟨bindings, yields⟩ := exists_yields_iff.mpr allResolve
    have built := build_eq_ok_iff.mpr ⟨bindings, yields, rfl⟩
    exact ⟨_, built, yields.mem_iff.mpr ⟨field, injected, resolved field rfl⟩⟩

end InjectionPlan

namespace EntitySchema

open InjectionPlan

theorem storageName_ne_empty_of_build_eq_ok
    {decl : ClassDeclaration}
    {schema : EntitySchema}
    (accepted : (build decl).outcome = .ok schema) :
    schema.storageName ≠ "" := by
  obtain ⟨fields, entries, accepts, -, rfl⟩ :=
    EntitySchema.build_eq_ok_iff.mp accepted
  obtain ⟨c, present, -⟩ := accepts.hasName
  intro empty
  change requestedName decl = "" at empty
  rw [empty] at present
  cases present

/-- Let an accepted class have a storage name without blanks around it.  A
component that lists nothing but the name contains the entity exactly when the
name holds no comma.  A field of the storage class of the entity is bound to it
exactly when the name holds no other separator either and the other fields of
the target resolve. -/
theorem injectable_iff_of_build_eq_ok
    {decl component target : ClassDeclaration}
    {schema : EntitySchema}
    {field : Member}
    (accepted : (build decl).outcome = .ok schema)
    (unpadded : Unpadded schema.storageName)
    (lists : ComponentSchema.ListsOnly component schema.storageName)
    (injected : field ∈ injectedFields target)
    (typed : field.typeName = schema.generatedClassName) :
    ((ComponentSchema.ofDeclaration component).containsEntity
        schema.storageName = true ↔
        ',' ∉ schema.storageName.toList) ∧
      (Binds (.ofDeclaration component) target field schema.storageName ↔
        Unsplit schema.storageName ∧
          OthersResolve (.ofDeclaration component) target field.typeName) := by
  have nonempty := storageName_ne_empty_of_build_eq_ok accepted
  have contained :
      (ComponentSchema.ofDeclaration component).containsEntity
      schema.storageName =
      true ↔ ',' ∉ schema.storageName.toList := by
    rw [ComponentSchema.containsEntity_iff_of_listsOnly lists nonempty,
      and_iff_left unpadded]
  have told : Naming.storedEntity? field.typeName = some schema.storageName ↔
      '.' ∉ schema.storageName.toList ∧
        ¬[':', ':'] <:+: schema.storageName.toList := by
    rw [typed, generatedClassName, Naming.storedEntity?_storageClassName_iff,
      and_iff_right nonempty, and_iff_left (trim_eq_self_iff.mp unpadded).2]
  refine ⟨contained, ?_⟩
  rw [binds_iff injected, contained, told]
  constructor
  · rintro ⟨noComma, ⟨noDot, noPath⟩, others⟩
    exact ⟨⟨noComma, noDot, noPath⟩, others⟩
  · rintro ⟨⟨noComma, noDot, noPath⟩, others⟩
    exact ⟨noComma, ⟨noDot, noPath⟩, others⟩

theorem settings_injectable_iff :
    (build GenerationPlan.settings).outcome =
      .ok ⟨none, "Settings", "Settings", .empty, .empty⟩ ∧
      Unpadded "Settings" ∧
      ((ComponentSchema.ofDeclaration
          (GenerationPlan.componentOf "Settings")).containsEntity
          "Settings" = true ↔ ',' ∉ "Settings".toList) ∧
      (Binds (.ofDeclaration (GenerationPlan.componentOf "Settings"))
          (GenerationPlan.screenOf "Preference_Settings")
          ((Member.field "store" "Preference_Settings").annotated
            ⟨Naming.injectMark, []⟩)
          "Settings" ↔
        Unsplit "Settings" ∧
          OthersResolve (.ofDeclaration (GenerationPlan.componentOf "Settings"))
            (GenerationPlan.screenOf "Preference_Settings")
              "Preference_Settings") := by
  have accepted : (build GenerationPlan.settings).outcome =
      .ok ⟨none, "Settings", "Settings", .empty, .empty⟩ := by
    decide +kernel
  have unpadded : trim "Settings".toList = "Settings".toList := by
    decide +kernel
  refine ⟨accepted, unpadded,
    injectable_iff_of_build_eq_ok accepted unpadded
      ⟨_, "entities", rfl, rfl⟩ ?_ rfl⟩
  exact List.mem_singleton_self _

/-- A class with a storage name of its own. -/
def named (name : String) : ClassDeclaration :=
  { GenerationPlan.settings with annotations :=
    [⟨Naming.entityMark, [("name", name)]⟩] }

/-- A component cannot list a name that holds a comma, and a name that it lists
need not be one that the storage class of the entity tells. -/
theorem not_forall_injectable :
    (¬∀ (decl component : ClassDeclaration) (schema : EntitySchema),
      (build decl).outcome = .ok schema →
        ComponentSchema.ListsOnly component schema.storageName →
          (ComponentSchema.ofDeclaration component).containsEntity
            schema.storageName = true) ∧
      ¬∀ (decl component target : ClassDeclaration) (schema : EntitySchema)
        (field : Member),
        (build decl).outcome = .ok schema →
          ComponentSchema.ListsOnly component schema.storageName →
            injectedFields target = [field] →
              field.typeName = schema.generatedClassName →
                Binds (.ofDeclaration component)
                  target field schema.storageName := by
  constructor
  · intro allContained
    have accepted : (build (named "Settings,Backup")).outcome =
        .ok ⟨none, "Settings", "Settings,Backup", .empty, .empty⟩ := by
      decide +kernel
    have contained :=
      allContained _ (GenerationPlan.componentOf "Settings,Backup") _ accepted
      ⟨_, "entities", rfl, rfl⟩
    revert contained
    decide +kernel
  · intro allBound
    have accepted : (build (named "app.Settings")).outcome =
        .ok ⟨none, "Settings", "app.Settings", .empty, .empty⟩ := by
      decide +kernel
    have unresolved : (InjectionPlan.build
        (.ofDeclaration (GenerationPlan.componentOf "app.Settings"))
        (GenerationPlan.screenOf "Preference_app.Settings")).outcome =
          .error (.unresolvedInjection "AppComponent" "Screen" "store"
            "Preference_app.Settings") := by
      decide +kernel
    obtain ⟨plan, built, -⟩ :=
      allBound _ (GenerationPlan.componentOf "app.Settings")
      (GenerationPlan.screenOf "Preference_app.Settings") _ _ accepted
      ⟨_, "entities", rfl, rfl⟩ rfl rfl
    rw [unresolved] at built
    cases built

end EntitySchema
end PreferenceSchema
