import PreferenceSchema.Proofs.AccessorNames
import PreferenceSchema.Proofs.FieldKeys
import PreferenceSchema.Proofs.Pass
import PreferenceSchema.Proofs.PlainIdentifiers
import PreferenceSchema.Proofs.SchemaInvariant
import PreferenceSchema.Proofs.SourceClasses
import PreferenceSchema.Proofs.SourceWords
import PreferenceSchema.Source.SourceText

/-!
# Planned names

The names of generated methods and of their parameters are made of keys.  A key
that is written out is as plain as its text.  A field without one gives its name
as the key, in the spelling of the source, where a name that is also a keyword
stands behind an escape; the escape stays in the key and in all names made of
it.
-/

namespace PreferenceSchema

/-! ## Names of a key -/

namespace AccessorKind

theorem isPlain_start (kind : AccessorKind) : IsPlain kind.start := by
  cases kind <;> decide

theorem isPlain_start_append
    {key : String}
    (plain : IsPlain key)
    (kind : AccessorKind) : IsPlain (kind.start ++ key) := by
  rw [IsPlain, String.toList_append]
  exact Text.isPlainIdentifier_append kind.isPlain_start plain

end AccessorKind

/-- A name in the spelling of the source with the escape in front. -/
def IsEscaped (name : String) : Prop :=
  ['r', '#'] <+: name.toList

theorem not_isPlain_start_append
    {key : String}
    (escaped : IsEscaped key)
    (kind : AccessorKind) : ¬IsPlain (kind.start ++ key) := by
  intro plain
  have present : '#' ∈ (kind.start ++ key).toList := by
    rw [String.toList_append]
    exact List.mem_append_right _ (escaped.subset (by decide))
  exact absurd (Text.continuesPlain_of_mem plain present) (by decide)

/-- The names that are made of a key are plain identifiers: those of its methods
and that of the parameter of its setter. -/
structure NamesPlain (key : String) : Prop where
  methods : ∀ kind : AccessorKind, IsPlain (kind.start ++ key)
  parameter : IsPlain (lowerCase key)

theorem namesPlain_of_isPlain
    {key : String}
    (plain : IsPlain key) : NamesPlain key where
  methods := AccessorKind.isPlain_start_append plain
  parameter := isPlain_lowerCase plain

theorem not_namesPlain_of_isEscaped
    {key : String}
    (escaped : IsEscaped key) : ¬NamesPlain key :=
  fun namesPlain =>
    not_isPlain_start_append escaped .getter (namesPlain.methods .getter)

/-- The name of a generated method and that of its parameter, if it has one, are
plain. -/
def AccessorPlan.HasPlainNames (method : AccessorPlan) : Prop :=
  IsPlain method.methodName ∧
    ∀ parameter, method.parameter = some parameter → IsPlain parameter.name

/-- The methods of a plan and their parameters have plain identifiers as their
names. -/
def GenerationPlan.HasPlainNames (plan : GenerationPlan) : Prop :=
  ∀ entity ∈ plan.entities, ∀ set ∈ entity.accessors, ∀ method ∈ set.plans,
    method.HasPlainNames

/-- The names of the methods of an entity are plain if those made of its keys
are. -/
theorem EntitySchema.hasPlainNames_planAccessors_iff
    (handle : String)
    (schema : EntitySchema) :
    (∀ set ∈ schema.planAccessors handle, ∀ method ∈ set.plans,
      method.HasPlainNames) ↔
      ∀ key ∈ schema.keyNames, NamesPlain key := by
  simp only [planAccessors, keyNames, List.forall_mem_map]
  refine forall₂_congr fun field _ => ?_
  simp only [AccessorSet.plans, AccessorSet.planWith,
    AccessorPlan.HasPlainNames, List.forall_mem_cons, Option.some.injEq,
    forall_eq', reduceCtorEq, false_implies, implies_true, and_true,
    List.not_mem_nil]
  constructor
  · rintro ⟨getter, ⟨setter, parameter⟩, contains, remove⟩
    refine ⟨fun kind => ?_, parameter⟩
    cases kind with
    | getter => exact getter
    | setter => exact setter
    | contains => exact contains
    | remove => exact remove
  · rintro ⟨methods, parameter⟩
    exact ⟨methods .getter, ⟨methods .setter, parameter⟩, methods .contains,
      methods .remove⟩

namespace Source

open Traversal

/-! ## Keys of source fields -/

/-- A name of the source over ASCII is plain or escaped. -/
theorem IsSourceWord.plain_or_escaped
    {name : String}
    (word : IsSourceWord name)
    (ascii : Text.IsAscii name.toList) : IsPlain name ∨ IsEscaped name := by
  obtain identifier | ⟨bare, split, -⟩ := word
  · exact .inl (Text.isPlainIdentifier_of_isIdentifier ascii identifier)
  · exact .inr ⟨bare, split.symm⟩

namespace Field

/-- A field whose name is an identifier of the source over ASCII, escaped or
not, and whose keys, as far as they are written out, are plain identifiers. -/
structure IsProper (field : Field) : Prop where
  name_word : ∀ name, field.name = some name →
    IsSourceWord name ∧ Text.IsAscii name.toList
  keys_plain : ∀ key ∈ field.keyTexts, IsPlain key

/-- The key of a field is not its name, or the name is not escaped. -/
def AvoidsEscape (field : Field) : Prop :=
  field.keyTexts = [] → ∀ name, field.name = some name → ¬IsEscaped name

theorem isBlank_eq_false_of_continuesPlain
    {c : Char}
    (continues : Text.continuesPlain c = true) : Text.isBlank c = false :=
  Text.forall_ascii (fun c => Text.continuesPlain c = true →
    Text.isBlank c = false)
    (by decide +kernel) (Text.toNat_lt_of_continuesPlain continues) continues

/-- A plain key is taken as it is. -/
theorem keyOfText_of_isPlain
    {key : String}
    (plain : IsPlain key)
    (name : String) : keyOfText name key = key := by
  have solid : ∀ c ∈ key.toList, Text.isBlank c = false := fun _ present =>
    isBlank_eq_false_of_continuesPlain
      (Text.continuesPlain_of_mem plain present)
  rw [keyOfText, Text.trim_eq_self_of_forall solid]
  split
  case h_1 empty =>
    rw [IsPlain, empty] at plain
    cases plain
  case h_2 => exact String.ofList_toList

/-- The names made of the key of a proper field are plain exactly when an escape
does not get into them. -/
theorem avoidsEscape_iff_namesPlain
    {field : Field}
    {member : Member}
    (proper : field.IsProper)
    (made : field.toMember = .ok member) :
    field.AvoidsEscape ↔ NamesPlain (KeyField.keyNameOf member) := by
  obtain ⟨name, named, ⟨noKeys, sameKey⟩ | ⟨key, present, sameKey⟩⟩ :=
    keyNameOf_of_toMember_eq_ok made
  · obtain ⟨word, ascii⟩ := proper.name_word name named
    rw [sameKey]
    constructor
    · intro avoids
      obtain plain | escaped := word.plain_or_escaped ascii
      · exact namesPlain_of_isPlain plain
      · exact absurd escaped (avoids noKeys name named)
    · rintro namesPlain - other otherNamed escaped
      obtain rfl := Option.some.inj (named.symm.trans otherNamed)
      exact not_namesPlain_of_isEscaped escaped namesPlain
  · have plain := proper.keys_plain key present
    rw [sameKey, keyOfText_of_isPlain plain]
    refine ⟨fun _ => namesPlain_of_isPlain plain, fun _ noKeys => ?_⟩
    exact absurd noKeys (List.ne_nil_of_mem present)

end Field

/-! ## Sources -/

/-- The fields of the entities among some items. -/
def Item.entityFields
    (package : Option String)
    (items : List Item) : List Field :=
  ((listClasses package items items).filter SourceClass.isEntity).flatMap
    SourceClass.fields

theorem fields_eq_of_yields
    {source : SourceClass}
    {ofFields ofFunctions : List Member}
    (fieldsMade : Yields Field.toMember source.fields ofFields)
    (functionsMade : Yields source.methodMember source.functions ofFunctions) :
    (ofFields ++ ofFunctions).filter Member.isField = ofFields := by
  have fieldsKept : ∀ member ∈ ofFields, member.isField = true := by
    intro member present
    obtain ⟨field, -, made⟩ := fieldsMade.mem_iff.mp present
    obtain ⟨name, -, outline⟩ := Field.outline_of_toMember_eq_ok made
    exact decide_eq_true (congrArg Prod.fst outline)
  have functionsDropped : ∀ member ∈ ofFunctions, ¬member.isField = true := by
    intro member present
    obtain ⟨function, -, made⟩ := functionsMade.mem_iff.mp present
    have outline := Function.outline_of_toMember_eq_ok made
    have isMethod : member.kind = .method := congrArg Prod.fst outline
    simp [Member.isField, isMethod]
  rw [List.filter_append, List.filter_eq_self.mpr fieldsKept,
    List.filter_eq_nil_iff.mpr functionsDropped, List.append_nil]

/-- The names made of the keys of a declared entity are plain exactly when no
escape gets into them. -/
theorem SourceClass.avoidsEscape_iff_of_declaresEntity
    {source : SourceClass}
    {decl : ClassDeclaration}
    (declares : source.DeclaresEntity decl)
    (proper : ∀ field ∈ source.fields, field.IsProper) :
    (∀ field ∈ source.fields, field.AvoidsEscape) ↔
      ∀ member ∈ decl.fields, NamesPlain (KeyField.keyNameOf member) := by
  obtain ⟨mark, -, -, declares⟩ := declares
  obtain ⟨ofFields, ofFunctions, fieldsMade, functionsMade, members⟩ :=
    declares.members
  rw [ClassDeclaration.fields, members,
    fields_eq_of_yields fieldsMade functionsMade]
  refine forall_mem_iff_of_forall₂
    ((List.forall₂_and_left _ _).mpr ⟨proper, fieldsMade⟩) ?_
  rintro field member ⟨fieldProper, made⟩
  exact Field.avoidsEscape_iff_namesPlain fieldProper made

namespace SourceDeclarations

/-- What is found in the text of a file is what is found in the items it is read
as. -/
theorem ofItems_of_ofFile_eq_ok
    {text : String}
    {package : Option String}
    {items : List Item}
    {found : SourceDeclarations}
    (read : Item.listOfFile? text = some items)
    (accepted : (ofFile text package).outcome = .ok found) :
    (ofItems items package).outcome = .ok found := by
  rw [ofFile, read, outcome_ofRead_some] at accepted
  exact mapError_eq_ok_iff.mp accepted

/-- In a plan of a source whose fields have legal names over ASCII and whose
keys, as far as they are written out, are plain identifiers, all names of
methods and parameters are plain identifiers exactly when no field without a key
has an escaped name. -/
theorem planned_names_plain_iff
    {text : String}
    {package : Option String}
    {items : List Item}
    {found : SourceDeclarations}
    {configuration : Configuration}
    {plan : GenerationPlan}
    (read : Item.listOfFile? text = some items)
    (accepted : (ofFile text package).outcome = .ok found)
    (processed : (found.process configuration).outcome = .ok plan)
    (proper : ∀ field ∈ Item.entityFields package items, field.IsProper) :
    plan.HasPlainNames ↔ ∀ field ∈ Item.entityFields package items,
      field.AvoidsEscape := by
  have lists := lists_of_ofItems_eq_ok (ofItems_of_ofFile_eq_ok read accepted)
  have isPlan := GenerationPlan.build_eq_ok_iff.mp processed
  rw [Item.entityFields, List.forall_mem_flatMap] at proper ⊢
  have sourcesAvoid :
      (∀ source ∈ (Item.listClasses package items items).filter
          SourceClass.isEntity,
        ∀ field ∈ source.fields, field.AvoidsEscape) ↔
      ∀ decl ∈ found.entities, ∀ member ∈ decl.fields,
        NamesPlain (KeyField.keyNameOf member) := by
    refine forall_mem_iff_of_forall₂
      ((List.forall₂_and_left _ _).mpr ⟨proper, lists.entities⟩) ?_
    rintro source decl ⟨sourceProper, declares⟩
    exact SourceClass.avoidsEscape_iff_of_declaresEntity declares sourceProper
  rw [sourcesAvoid]
  refine (forall_mem_iff_of_forall₂ isPlan.entitiesBuilt ?_).symm
  rintro decl entity ⟨built, planned⟩
  rw [planned, EntitySchema.hasPlainNames_planAccessors_iff,
    EntitySchema.keyNames_of_build_eq_ok built, List.forall_mem_map]

/-- A source with one entity, whose only field has an escaped name and some
attributes. -/
def typeText (marks : String) : String :=
  "#[preference_entity] struct Settings \x7b" ++ marks ++ "r#type: i32\x7d"

/-- What the source declares, given the keys in the attributes. -/
def typeDeclarations (keys : List String) : SourceDeclarations where
  entities := [⟨"Settings", none, [⟨Naming.entityMark, []⟩],
    [keys.foldl (fun member key => member.annotated (keyMarking key))
      ((Member.field "r#type" "i32").withModifier .private)]⟩]
  components := []
  targets := []

/-- The plan of the source, given the key of the field. -/
def typePlan (key : String) : GenerationPlan where
  entities := [GenerationPlan.entityOf "preference"
    { package := none
      className := "Settings"
      storageName := "Settings"
      keys := .ofFields [⟨"r#type", key, .integer, .integer 0⟩]
      overrides := .empty }]
  components := []
  injectors := []

/-- Whether items declare what the source does, by a field with the escaped name
and the keys. -/
def declareType
    (keys : List String)
    (items : List Item) : Bool :=
  (ofItems items none).outcome.toOption = some (typeDeclarations keys) &&
    (Item.entityFields none items).all fun field =>
      field.name = some "r#type" && field.keyTexts = keys

theorem exists_of_declareType
    {text : String}
    {keys : List String}
    (declared : (Item.listOfFile? text).any (declareType keys) = true) :
    ∃ items, Item.listOfFile? text = some items ∧
      (ofFile text none).outcome = .ok (typeDeclarations keys) ∧
      ∀ field ∈ Item.entityFields none items,
        field.name = some "r#type" ∧ field.keyTexts = keys := by
  cases read : Item.listOfFile? text with
  | none =>
      rw [read] at declared
      cases declared
  | some items =>
      rw [read, Option.any_some, declareType, Bool.and_eq_true,
        decide_eq_true_eq, List.all_eq_true] at declared
      obtain ⟨found, fields⟩ := declared
      refine ⟨items, rfl, ?_, fun field present => ?_⟩
      · rw [ofFile, read, outcome_ofRead_some]
        cases outcome : (ofItems items none).outcome with
        | error error =>
            rw [outcome] at found
            cases found
        | ok declarations =>
            rw [outcome] at found
            rw [Option.some.inj found]
            rfl
      · simpa using fields field present

theorem isProper_of_type
    {keys : List String}
    {field : Field}
    (isType : field.name = some "r#type" ∧ field.keyTexts = keys)
    (plain : ∀ key ∈ keys, IsPlain key) : field.IsProper where
  name_word := by
    intro name named
    obtain rfl := Option.some.inj (isType.1.symm.trans named)
    exact ⟨.inr ⟨['t', 'y', 'p', 'e'], by decide, by decide +kernel⟩,
      by simp [Text.IsAscii]⟩
  keys_plain := by
    rw [isType.2]
    exact plain

/-- A field with an escaped name gets plain names by a key of its own. -/
theorem typeText_planned_names_plain :
    ∃ items plan,
      Item.listOfFile? (typeText "#[preference(key = \"kind\")] ") =
        some items ∧
      (ofFile (typeText "#[preference(key = \"kind\")] ") none).outcome =
        .ok (typeDeclarations ["kind"]) ∧
      ((typeDeclarations ["kind"]).process .standard).outcome = .ok plan ∧
      (∀ field ∈ Item.entityFields none items, field.IsProper) ∧
      plan.HasPlainNames := by
  have declared :
      (Item.listOfFile? (typeText "#[preference(key = \"kind\")] ")).any
        (declareType ["kind"]) = true := by
    decide +kernel
  obtain ⟨items, read, accepted, fields⟩ := exists_of_declareType declared
  have processed : ((typeDeclarations ["kind"]).process .standard).outcome =
      .ok (typePlan "kind") := by
    decide +kernel
  have proper : ∀ field ∈ Item.entityFields none items, field.IsProper :=
    fun field present =>
    isProper_of_type (fields field present) (by decide)
  refine ⟨items, _, read, accepted, processed, proper, ?_⟩
  refine (planned_names_plain_iff read accepted processed proper).mpr ?_
  intro field present noKeys
  rw [(fields field present).2] at noKeys
  cases noKeys

/-- Without a key the escape of the name gets into the names that are
planned. -/
theorem not_forall_planned_names_plain :
    ¬∀ (text : String) (package : Option String) (items : List Item)
        (found : SourceDeclarations)
        (configuration : Configuration) (plan : GenerationPlan),
      Item.listOfFile? text = some items →
      (ofFile text package).outcome = .ok found →
      (found.process configuration).outcome = .ok plan →
      (∀ field ∈ Item.entityFields package items, field.IsProper) →
      plan.HasPlainNames := by
  intro always
  have declared : (Item.listOfFile? (typeText "")).any (declareType []) =
      true := by
    decide +kernel
  obtain ⟨items, read, accepted, fields⟩ := exists_of_declareType declared
  have processed : ((typeDeclarations []).process .standard).outcome =
      .ok (typePlan "r#type") := by
    decide +kernel
  have plain := always _ _ items _ .standard _ read accepted processed
    fun field present => isProper_of_type (fields field present) nofun
  have planned :=
    (EntitySchema.hasPlainNames_planAccessors_iff "preference" _).mp
    (plain (GenerationPlan.entityOf "preference" _) List.mem_cons_self)
  have escaped : IsEscaped "r#type" := ⟨['t', 'y', 'p', 'e'], by decide⟩
  exact not_namesPlain_of_isEscaped escaped (planned "r#type" (by decide))

end SourceDeclarations
end Source
end PreferenceSchema
