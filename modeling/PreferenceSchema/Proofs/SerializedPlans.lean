import PreferenceSchema.Serialization
import PreferenceSchema.Proofs.ComponentOptions
import PreferenceSchema.Proofs.DefaultLiterals
import PreferenceSchema.Proofs.JsonEquality
import PreferenceSchema.Proofs.SchemaInvariant
import PreferenceSchema.Proofs.TypeCoherence

/-!
# Serialized plans

The JSON form of the plan of a pass decides the plan.  The forms of types,
calls, custom accessors and the rest are faithful by themselves.  A default is
not, since JSON does not tell the two zeros apart, but the getter of its key
shows its literal; and the positions of the keys, which are left out, follow
from the key fields.
-/

namespace PreferenceSchema

open Json Number EntitySchema

/-! ## Alternatives -/

theorem SemanticType.name_injective : Function.Injective SemanticType.name := by
  intro left right same
  cases left <;> cases right <;> simp [name] at same ⊢

theorem SemanticType.faithful_toJson : Faithful SemanticType.toJson :=
  fun _ _ same => SemanticType.name_injective same.eq_of_string

theorem AccessorKind.faithful_toJson : Faithful AccessorKind.toJson := by
  intro left right same
  cases left <;> cases right <;>
    first | rfl | exact absurd same.eq_of_string (by decide)

theorem ReturnKind.faithful_toJson : Faithful ReturnKind.toJson := by
  intro left right same
  cases left <;> cases right
  case value.value => rw [SemanticType.faithful_toJson same.of_tagged.2]
  case flag.flag => rfl
  case nothing.nothing => rfl
  case flag.nothing => exact absurd same.eq_of_string (by decide)
  case nothing.flag => exact absurd same.eq_of_string (by decide)
  all_goals
    cases same with
    | number leftValue => cases leftValue

/-- The form of a call tells its kind, its key and what it reads or writes. -/
theorem StorageCall.faithful_toJson : Faithful StorageCall.toJson := by
  intro left right same
  cases left <;> cases right
  case read.read =>
    obtain ⟨methods, keys, defaults, wrappers, -⟩ :=
      same.of_tagged.2.values_of_object rfl (by simp)
    rw [methods.eq_of_string, keys.eq_of_string, defaults.eq_of_string,
      faithful_optional wrappers]
  case write.write =>
    obtain ⟨methods, keys, arguments, wrappers, -⟩ :=
      same.of_tagged.2.values_of_object rfl (by simp)
    rw [methods.eq_of_string, keys.eq_of_string, arguments.eq_of_string,
      faithful_optional wrappers]
  case contains.contains =>
    obtain ⟨keys, -⟩ := same.of_tagged.2.values_of_object rfl (by simp)
    rw [keys.eq_of_string]
  case remove.remove =>
    obtain ⟨keys, -⟩ := same.of_tagged.2.values_of_object rfl (by simp)
    rw [keys.eq_of_string]
  all_goals exact absurd same.of_tagged.1 (by decide)

/-! ## Accessors -/

theorem ParameterPlan.faithful_toJson : Faithful ParameterPlan.toJson := by
  rintro ⟨_, _⟩ ⟨_, _⟩ same
  obtain ⟨names, types, -⟩ := same.values_of_object rfl (by simp)
  rw [ParameterPlan.mk.injEq]
  exact ⟨names.eq_of_string, SemanticType.faithful_toJson types⟩

theorem AccessorPlan.faithful_toJson : Faithful AccessorPlan.toJson := by
  have parameterForm := ParameterPlan.faithful_toJson.option fun _ =>
    Json.noConfusion
  rintro ⟨_, _, _, _, _, _⟩ ⟨_, _, _, _, _, _⟩ same
  obtain ⟨kinds, names, parameters, returns, calls, handles, -⟩ :=
    same.values_of_object rfl (by simp)
  rw [AccessorPlan.mk.injEq]
  exact ⟨AccessorKind.faithful_toJson kinds, names.eq_of_string,
    parameterForm parameters, ReturnKind.faithful_toJson returns,
    StorageCall.faithful_toJson calls, handles.eq_of_string⟩

theorem AccessorSet.faithful_toJson : Faithful AccessorSet.toJson := by
  rintro ⟨_, _, _, _, _⟩ ⟨_, _, _, _, _⟩ same
  obtain ⟨keys, getters, setters, contains, removes, -⟩ :=
    same.values_of_object rfl (by simp)
  rw [AccessorSet.mk.injEq]
  exact ⟨keys.eq_of_string, AccessorPlan.faithful_toJson getters,
    AccessorPlan.faithful_toJson setters, AccessorPlan.faithful_toJson contains,
    AccessorPlan.faithful_toJson removes⟩

theorem AccessorFunction.faithful_toJson :
    Faithful AccessorFunction.toJson := by
  rintro ⟨_, _, _⟩ ⟨_, _, _⟩ same
  obtain ⟨names, parameters, types, -⟩ := same.values_of_object rfl (by simp)
  rw [AccessorFunction.mk.injEq]
  exact ⟨names.eq_of_string, parameters.eq_of_string,
    SemanticType.faithful_toJson types⟩

/-- Two maps with the same value for every name are one. -/
theorem NameMap.eq_of_get?_eq
    {α : Type}
    {left right : NameMap α}
    (same : ∀ name, left.get? name = right.get? name) : left = right := by
  have sameEntries : left.entries = right.entries := by
    have irreflexive : Std.Irrefl fun first second : String × α =>
        first.1 < second.1 :=
      ⟨fun entry => String.lt_irrefl entry.1⟩
    apply left.ordered.eq_of_mem_iff right.ordered
    rintro ⟨name, value⟩
    rw [← get?_eq_some_iff_mem, ← get?_eq_some_iff_mem, same]
  obtain ⟨entries, ordered⟩ := left
  obtain ⟨_, _⟩ := right
  obtain rfl : entries = _ := sameEntries
  rfl

/-- The entries of the form of custom accessors are looked up as the accessors
are. -/
theorem lookup_overridesToJson
    (functions : NameMap AccessorFunction)
    (name : String) :
    (functions.entries.map fun (key, function) =>
      (key, function.toJson)).lookup name =
      (functions.get? name).map AccessorFunction.toJson := by
  rw [NameMap.get?]
  induction functions.entries with
  | nil => rfl
  | cons first rest inductionHypothesis =>
      obtain ⟨key, function⟩ := first
      rw [List.map_cons, NameMap.lookup_entry, NameMap.lookup_entry,
        inductionHypothesis]
      split <;> rfl

theorem lookup_overridesToJson_eq_some
    {functions : NameMap AccessorFunction}
    {name : String}
    {function : AccessorFunction}
    (kept : functions.get? name = some function) :
    (functions.entries.map fun (key, function) =>
      (key, function.toJson)).lookup name =
      some function.toJson := by
  rw [lookup_overridesToJson, kept]
  rfl

/-- The form of custom accessors tells them, whatever the order of its
entries. -/
theorem faithful_overridesToJson : Faithful overridesToJson := by
  intro left right same
  apply NameMap.eq_of_get?_eq
  intro name
  have names := same.isSome_lookup_eq name
  have values : ∀ held other, left.get? name = some held →
      right.get? name = some other →
      Same held.toJson other.toJson := by
    intro held other heldUnder otherUnder
    exact same.of_lookup_eq_some (lookup_overridesToJson_eq_some heldUnder)
      (lookup_overridesToJson_eq_some otherUnder)
  rw [lookup_overridesToJson, lookup_overridesToJson, Option.isSome_map,
    Option.isSome_map] at names
  cases leftHolds : left.get? name with
  | none =>
      rw [leftHolds] at names
      have absent := Option.isSome_eq_false_iff.mp names.symm
      rw [Option.isNone_iff_eq_none.mp absent]
  | some held =>
      rw [leftHolds] at names
      obtain ⟨other, rightHolds⟩ := Option.isSome_iff_exists.mp names.symm
      rw [rightHolds, AccessorFunction.faithful_toJson
        (values held other leftHolds rightHolds)]

/-! ## Entities -/

/-- A key field is decided by its form and by the literal of its default. -/
theorem KeyField.eq_of_same
    {left right : KeyField}
    (leftType : left.default.semanticType = left.type)
    (rightType : right.default.semanticType = right.type)
    (sameLiteral : left.default.literal = right.default.literal)
    (same : Same left.toJson right.toJson) : left = right := by
  obtain ⟨fields, keys, types, -⟩ := same.values_of_object rfl (by simp)
  have sameType : left.type = right.type := SemanticType.faithful_toJson types
  have sameDefault : left.default = right.default :=
    DefaultValue.literal_inj_of_semanticType_eq
      (leftType.trans (sameType.trans rightType.symm)) sameLiteral
  obtain ⟨_, _, _, _⟩ := left
  obtain ⟨_, _, _, _⟩ := right
  rw [KeyField.mk.injEq]
  exact ⟨fields.eq_of_string, keys.eq_of_string, sameType, sameDefault⟩

/-- The form of a key field has its key. -/
theorem KeyField.keyName_eq_of_same
    {left right : KeyField}
    (same : Same left.toJson right.toJson) : left.keyName = right.keyName := by
  obtain ⟨-, keys, -⟩ := same.values_of_object rfl (by simp)
  exact keys.eq_of_string

/-- The positions in a table depend on the keys alone.  Fields are added behind
others, so the induction is on tables with as many fields each. -/
theorem KeyTable.index_ofFields_eq
    {left right : List KeyField}
    (sameKeys :
      List.Forall₂ (fun first second => first.keyName = second.keyName)
      left right) :
    (ofFields left).index = (ofFields right).index := by
  have added : ∀ table other : KeyTable, table.index = other.index →
      table.fields.length = other.fields.length →
      (left.foldl insert table).index = (right.foldl insert other).index := by
    induction sameKeys with
    | nil => exact fun _ _ sameIndex _ => sameIndex
    | cons sameKey _ inductionHypothesis =>
        intro table other sameIndex sameLength
        refine inductionHypothesis _ _ ?_ ?_
        · simp only [insert, sameIndex, sameLength, sameKey]
        · simp only [insert, List.length_append, sameLength,
            List.length_singleton]
  exact added empty empty rfl rfl

/-- The positions of the keys of accepted classes are decided by the forms of
their key fields. -/
theorem EntitySchema.index_eq_of_same
    {leftDecl rightDecl : ClassDeclaration}
    {left right : EntitySchema}
    (leftBuilt : (build leftDecl).outcome = .ok left)
    (rightBuilt : (build rightDecl).outcome = .ok right)
    (same : Same (.array (left.keyFields.map KeyField.toJson))
      (.array (right.keyFields.map KeyField.toJson))) : left.keys.index =
        right.keys.index := by
  obtain ⟨leftFields, leftTable, -⟩ := (run_of_build_eq_ok leftBuilt).holds
  obtain ⟨rightFields, rightTable, -⟩ := (run_of_build_eq_ok rightBuilt).holds
  have forms := same.forall₂_of_array
  rw [List.forall₂_map_left_iff, List.forall₂_map_right_iff, keyFields,
    keyFields, leftTable, rightTable, KeyTable.fields_ofFields,
    KeyTable.fields_ofFields] at forms
  rw [leftTable, rightTable]
  exact KeyTable.index_ofFields_eq
    (forms.imp fun _ _ => KeyField.keyName_eq_of_same)

/-- The defaults of keys show in the getters. -/
theorem EntitySchema.literals_of_planAccessors_eq
    {leftHandle rightHandle : String}
    {left right : EntitySchema}
    (same : left.planAccessors leftHandle = right.planAccessors rightHandle) :
    List.Forall₂ (fun first second =>
      first.default.literal = second.default.literal)
      left.keyFields right.keyFields := by
  refine (forall₂_of_map_eq_map same).imp fun first second sameSet => ?_
  have calls := congrArg (fun set => set.getter.call) sameSet
  exact (StorageCall.read.inj calls).2.2.1

/-- The key fields of accepted classes are decided by their forms and the
literals of their defaults. -/
theorem EntitySchema.keyFields_eq_of_same
    {leftDecl rightDecl : ClassDeclaration}
    {left right : EntitySchema}
    (leftBuilt : (build leftDecl).outcome = .ok left)
    (rightBuilt : (build rightDecl).outcome = .ok right)
    (literals : List.Forall₂
      (fun first second => first.default.literal = second.default.literal)
      left.keyFields right.keyFields)
    (same : Same (.array (left.keyFields.map KeyField.toJson))
      (.array (right.keyFields.map KeyField.toJson))) : left.keyFields =
        right.keyFields := by
  have forms := same.forall₂_of_array
  rw [List.forall₂_map_left_iff, List.forall₂_map_right_iff] at forms
  rw [← List.forall₂_eq_eq_eq]
  refine List.forall₂_iff_zip.mpr
    ⟨forms.length_eq, fun {first second} zipped => ?_⟩
  obtain ⟨inLeft, inRight⟩ := List.of_mem_zip zipped
  exact KeyField.eq_of_same
    (semanticType_default_of_mem_keyFields leftBuilt inLeft)
    (semanticType_default_of_mem_keyFields rightBuilt inRight)
    (List.forall₂_zip literals zipped) (List.forall₂_zip forms zipped)

/-- The entity of an accepted class, with the methods of its keys on some
handle. -/
def EntityPlan.IsBuilt (entity : EntityPlan) : Prop :=
  ∃ decl handle, (EntitySchema.build decl).outcome = .ok entity.schema ∧
    entity.accessors = entity.schema.planAccessors handle

/-- An entity with its methods is decided by its form. -/
theorem EntityPlan.eq_of_same
    {left right : EntityPlan}
    (leftIs : left.IsBuilt)
    (rightIs : right.IsBuilt)
    (same : Same left.toJson right.toJson) : left = right := by
  obtain ⟨leftDecl, leftHandle, leftBuilt, leftPlanned⟩ := leftIs
  obtain ⟨rightDecl, rightHandle, rightBuilt, rightPlanned⟩ := rightIs
  obtain ⟨schemas, accessors, -⟩ := same.values_of_object rfl (by simp)
  have sameAccessors := AccessorSet.faithful_toJson.array accessors
  have literals := literals_of_planAccessors_eq
    (leftPlanned.symm.trans (sameAccessors.trans rightPlanned))
  obtain ⟨packages, classes, storages, fields, setters, getters, -⟩ :=
    schemas.values_of_object rfl (by simp)
  have sameFields := keyFields_eq_of_same leftBuilt rightBuilt literals fields
  have sameIndex := index_eq_of_same leftBuilt rightBuilt fields
  obtain ⟨⟨_, _, _, ⟨_, _⟩, ⟨_, _⟩⟩, _⟩ := left
  obtain ⟨⟨_, _, _, ⟨_, _⟩, ⟨_, _⟩⟩, _⟩ := right
  rw [EntityPlan.mk.injEq, EntitySchema.mk.injEq, KeyTable.mk.injEq,
    Overrides.mk.injEq]
  exact ⟨⟨faithful_optional packages, classes.eq_of_string,
    storages.eq_of_string, ⟨sameFields, sameIndex⟩,
    faithful_overridesToJson setters, faithful_overridesToJson getters⟩,
    sameAccessors⟩

/-! ## Components and injectors -/

theorem ComponentSchema.faithful_toJson : Faithful ComponentSchema.toJson := by
  rintro ⟨_, _, ⟨_, _⟩, _⟩ ⟨_, _, ⟨_, _⟩, _⟩ same
  obtain ⟨packages, classes, names, targets, -⟩ :=
    same.values_of_object rfl (by simp)
  rw [ComponentSchema.mk.injEq, NameSet.mk.injEq]
  exact ⟨faithful_optional packages, classes.eq_of_string,
    faithful_strings names, faithful_strings targets⟩

theorem InjectionBinding.faithful_toJson :
    Faithful InjectionBinding.toJson := by
  rintro ⟨_, _, _⟩ ⟨_, _, _⟩ same
  obtain ⟨fields, types, entities, -⟩ := same.values_of_object rfl (by simp)
  rw [InjectionBinding.mk.injEq]
  exact ⟨fields.eq_of_string, types.eq_of_string, entities.eq_of_string⟩

theorem InjectionPlan.faithful_toJson : Faithful InjectionPlan.toJson := by
  rintro ⟨_, _, _, _⟩ ⟨_, _, _, _⟩ same
  obtain ⟨packages, targets, components, bindings, -⟩ :=
    same.values_of_object rfl (by simp)
  rw [InjectionPlan.mk.injEq]
  exact ⟨faithful_optional packages, targets.eq_of_string,
    components.eq_of_string, InjectionBinding.faithful_toJson.array bindings⟩

/-! ## Defaults -/

/-- The number of a floating-point value, with its sign, is that of no other
value. -/
theorem Number.BinaryFloat.toJson_injective
    {format : BinaryFormat} :
    Function.Injective (BinaryFloat.toJson : BinaryFloat format → Json) := by
  intro left right same
  obtain ⟨sameSign, sameDecimal⟩ := Json.number.inj same
  have values : (format.exactDecimal left.magnitude).value =
      (format.exactDecimal right.magnitude).value := by
    rw [← Decimal.value_normalize, sameDecimal, Decimal.value_normalize]
  have units : format.units left.magnitude = format.units right.magnitude := by
    rw [BinaryFormat.value_exactDecimal, BinaryFormat.value_exactDecimal,
      BinaryFormat.cast_denominator] at values
    exact_mod_cast (div_left_inj' (by positivity)).mp values
  have recovered (magnitude : Nat) :
      format.nearest (format.units magnitude) format.denominator = magnitude :=
    BinaryFormat.nearest_units magnitude
  have sameMagnitude : left.magnitude = right.magnitude := by
    rw [← recovered left.magnitude, units, recovered]
  obtain ⟨_, _, _⟩ := left
  obtain ⟨_, _, _⟩ := right
  rw [BinaryFloat.mk.injEq]
  exact ⟨sameSign, sameMagnitude⟩

/-- Defaults with the same form, down to the sign of zero, are equal. -/
theorem DefaultValue.toJson_injective :
    Function.Injective DefaultValue.toJson := by
  intro left right same
  obtain ⟨tags, contents⟩ :=
    Prod.mk.inj (List.cons.inj (Json.object.inj same)).1
  have types := SemanticType.name_injective tags
  cases left <;> cases right
  case string.string => rw [Json.string.inj contents]
  case integer.integer => rw [Int32.toInt_inj.mp (Json.integer.inj contents)]
  case long.long => rw [Int64.toInt_inj.mp (Json.integer.inj contents)]
  case float.float => rw [BinaryFloat.toJson_injective contents]
  case double.double => rw [BinaryFloat.toJson_injective contents]
  case boolean.boolean => rw [Json.boolean.inj contents]
  all_goals cases types

/-! ## Passes -/

/-- Every alternative, every optional text, every list of names and every map of
custom accessors has a form of its own. -/
structure DistinctForms : Prop where
  types : Faithful SemanticType.toJson
  defaults : Function.Injective DefaultValue.toJson
  returns : Faithful ReturnKind.toJson
  calls : Faithful StorageCall.toJson
  kinds : Faithful AccessorKind.toJson
  options : Faithful Json.optional
  lists : Faithful Json.strings
  overrides : Faithful overridesToJson

/-- No two alternatives, optional texts, lists of names or maps of accessors
share a form. -/
theorem distinctForms : DistinctForms where
  types := SemanticType.faithful_toJson
  defaults := DefaultValue.toJson_injective
  returns := ReturnKind.faithful_toJson
  calls := StorageCall.faithful_toJson
  kinds := AccessorKind.faithful_toJson
  options := faithful_optional
  lists := faithful_strings
  overrides := faithful_overridesToJson

namespace GenerationPlan

/-- The entities of a pass are built. -/
theorem isBuilt_of_mem
    {configuration : Configuration}
    {entities components targets : List ClassDeclaration}
    {plan : GenerationPlan}
    (accepted : (build configuration entities components targets).outcome =
      .ok plan)
    {entity : EntityPlan}
    (present : entity ∈ plan.entities) : entity.IsBuilt := by
  obtain ⟨decl, -, built, planned⟩ :=
    (build_eq_ok_iff.mp accepted).exists_decl_of_mem present
  exact ⟨decl, configuration.storageHandle, built, planned⟩

/-- Plans with the same form are the same plan, given that the positions of
their keys are those that are built. -/
theorem eq_of_same
    {left right : GenerationPlan}
    (leftBuilt : ∀ entity ∈ left.entities, entity.IsBuilt)
    (rightBuilt : ∀ entity ∈ right.entities, entity.IsBuilt)
    (same : Same left.toJson right.toJson) : left = right := by
  obtain ⟨entities, components, injectors, -⟩ :=
    same.values_of_object rfl (by simp)
  have sameEntities : left.entities = right.entities :=
    entities.eq_of_array_map fun first inLeft second inRight =>
      EntityPlan.eq_of_same (leftBuilt first inLeft) (rightBuilt second inRight)
  obtain ⟨_, _, _⟩ := left
  obtain ⟨_, _, _⟩ := right
  rw [GenerationPlan.mk.injEq]
  exact ⟨sameEntities, ComponentSchema.faithful_toJson.array components,
    InjectionPlan.faithful_toJson.array injectors⟩

/-- The forms of the plans of any two passes are the same JSON value exactly
when the plans are equal, in the positions of the keys as well: these are
decided by the key fields, as far as the form shows them. -/
theorem same_toJson_iff
    {leftConfiguration rightConfiguration : Configuration}
    {leftEntities leftComponents leftTargets : List ClassDeclaration}
    {rightEntities rightComponents rightTargets : List ClassDeclaration}
    {left right : GenerationPlan}
    (leftAccepted :
      (build leftConfiguration leftEntities leftComponents
        leftTargets).outcome =
      .ok left)
    (rightAccepted :
      (build rightConfiguration rightEntities rightComponents
        rightTargets).outcome =
      .ok right) :
    DistinctForms ∧
      (∀ first ∈ left.entities, ∀ second ∈ right.entities,
        Same (.array (first.schema.keyFields.map KeyField.toJson))
          (.array (second.schema.keyFields.map KeyField.toJson)) →
        first.schema.keys.index = second.schema.keys.index) ∧
      (Same left.toJson right.toJson ↔ left = right) := by
  refine ⟨distinctForms, ?_, ?_, ?_⟩
  · intro first inLeft second inRight same
    obtain ⟨_, _, firstBuilt, -⟩ := isBuilt_of_mem leftAccepted inLeft
    obtain ⟨_, _, secondBuilt, -⟩ := isBuilt_of_mem rightAccepted inRight
    exact index_eq_of_same firstBuilt secondBuilt same
  · exact eq_of_same (fun _ => isBuilt_of_mem leftAccepted) fun _ =>
      isBuilt_of_mem rightAccepted
  · rintro rfl
    exact Same.refl _

/-- A class whose only key has some floating default. -/
def balance (initializer : String) : ClassDeclaration where
  name := "Balance"
  package := none
  annotations := []
  members := [(Member.field "amount" "float").initialized initializer]

/-- The plan of the class with a zero of some sign. -/
def balancePlan (negative : Bool) : GenerationPlan where
  entities := [entityOf "preference"
    { package := none
      className := "Balance"
      storageName := "Balance"
      keys :=
        .ofFields
          [⟨"amount", "amount", .float, .float ⟨negative, 0, limit_single_pos⟩⟩]
      overrides := .empty }]
  components := []
  injectors := []

/-- Plans with the two zeros have different forms. -/
theorem balancePlan_forms_differ :
    (build .standard [balance "0.0"] [] []).outcome = .ok (balancePlan false) ∧
      (build .standard [balance "-0.0"] [] []).outcome =
        .ok (balancePlan true) ∧
      ¬ Same (balancePlan false).toJson (balancePlan true).toJson := by
  have positive : (build .standard [balance "0.0"] [] []).outcome =
      .ok (balancePlan false) := by
    decide +kernel
  have negative : (build .standard [balance "-0.0"] [] []).outcome =
      .ok (balancePlan true) := by
    decide +kernel
  obtain ⟨-, -, decided⟩ := same_toJson_iff positive negative
  refine ⟨positive, negative, fun same => ?_⟩
  have different : balancePlan false ≠ balancePlan true := by
    decide +kernel
  exact different (decided.mp same)

end GenerationPlan
end PreferenceSchema
