import PreferenceSchema.Proofs.FieldDefaults
import PreferenceSchema.Proofs.FieldKeys

/-!
# Options in several attributes

The options of a field may stand in one attribute or be divided between several.
Of defaults the last one holds, wherever it stands.  Of keys the last one in an
attribute holds, but of several attributes with keys the first.  So dividing the
options makes a difference exactly where the first attribute with a key and the
last one give the field different keys.
-/

namespace PreferenceSchema

/-- What a member resolves to shows its key, unless its type is none of the
semantic ones.  So members with the same name, type and initializer resolve
alike exactly when they have the same key.  An accepted default stands beside
the key, and a refused one is reported with it. -/
theorem KeyField.outcome_resolve_eq_iff
    {left right : Member}
    (sameName : left.name = right.name)
    (sameType : left.typeName = right.typeName)
    (sameInitializer : left.initializer = right.initializer)
    (sameKind : left.initializerKind = right.initializerKind)
    (className : String) :
    (resolve className left).outcome = (resolve className right).outcome ↔
      SemanticType.resolve? left.typeName = none ∨
        keyNameOf left = keyNameOf right := by
  cases typed : SemanticType.resolve? left.typeName with
  | none =>
      have leftRefused : (resolve className left).outcome = _ :=
        resolve_eq_unsupportedType_iff.mpr typed
      have rightRefused : (resolve className right).outcome = _ :=
        resolve_eq_unsupportedType_iff.mpr (sameType ▸ typed)
      rw [leftRefused, rightRefused, sameName, sameType]
      exact iff_of_true rfl (.inl rfl)
  | some type =>
      rw [outcome_resolve_of_resolve?_eq_some typed,
        outcome_resolve_of_resolve?_eq_some (sameType ▸ typed), sameName]
      simp only [reduceCtorEq, false_or]
      constructor
      · unfold defaultOf
        rw [sameInitializer, sameKind]
        cases right.initializer with
        | none => simp [Except.map]
        | some raw =>
            dsimp only
            split <;> simp [Except.map]
      · intro sameKey
        unfold defaultOf
        rw [sameInitializer, sameKind, sameKey]

namespace Source

open Traversal

/-! ## Groups of options -/

/-- The key that options hold: the last one. -/
def lastKey? (options : List FieldOption) : Option String :=
  (options.filterMap FieldOption.key?).getLast?

/-- The keys that groups of options hold, each on its own. -/
def heldKeys (groups : List (List FieldOption)) : List String :=
  groups.filterMap lastKey?

/-- All options together hold the last key that one of their groups holds. -/
theorem lastKey?_flatten
    (groups : List (List FieldOption)) :
    lastKey? groups.flatten = (heldKeys groups).getLast? := by
  rw [lastKey?, heldKeys, List.filterMap_flatten, List.getLast?_flatten,
    List.getLast?_filterMap, ← List.map_reverse, List.findSome?_map]
  rfl

/-- The attributes with the options of a field have certain options, attribute
by attribute. -/
def Field.HasOptions
    (field : Field)
    (groups : List (List FieldOption)) : Prop :=
  Yields (fun mark : Attribute => mark.options fieldOption)
    (field.attributes.filter (Attribute.isNamed fieldAttribute)) groups

namespace FieldMark

theorem getLast?_keys
    (mark : FieldMark) :
    mark.keys.getLast? = mark.options?.bind lastKey? := by
  cases mark <;> rfl

theorem findSome?_keys
    (marks : List FieldMark) :
    (marks.findSome? fun mark => mark.keys.getLast?) =
      (heldKeys (marks.filterMap options?)).head? := by
  rw [heldKeys, List.filterMap_filterMap, List.head?_filterMap]
  simp only [getLast?_keys]

end FieldMark

namespace Field

/-- A field with a name and proper options becomes a member with the last
default of all and the first key that one of its attributes holds. -/
theorem exists_toMember_of_hasOptions
    {field : Field}
    {name : String}
    {groups : List (List FieldOption)}
    (named : field.name = some name)
    (hasOptions : field.HasOptions groups) :
    ∃ member, field.toMember = .ok member ∧
      member.outline = (.field, name, field.type.descriptor) ∧
      member.initializer =
        (groups.flatten.filterMap FieldOption.default?).getLast?.map Prod.fst ∧
      member.initializerKind =
        (groups.flatten.filterMap FieldOption.default?).getLast?.map Prod.snd ∧
      KeyField.keyNameOf member =
        (heldKeys groups).head?.elim name (keyOfText name) := by
  obtain ⟨marks, yields, rfl⟩ := FieldMark.exists_yields_of_options hasOptions
  have plain : (field.plainMember name).initializer = none ∧
      (field.plainMember name).initializerKind = none := by
    unfold plainMember Member.withModifier
    split <;> exact ⟨rfl, rfl⟩
  refine ⟨_, toMember_eq_ok_iff.mpr ⟨name, marks, named, yields, rfl⟩,
    outline_foldl_addTo field name marks, ?_, ?_, ?_⟩
  · rw [FieldMark.last_foldl_addTo Member.initializer Prod.fst (fun _ _ => rfl)
      (fun _ _ _ => rfl), FieldMark.flatMap_defaults, plain.1, Option.or_none]
  · rw [FieldMark.last_foldl_addTo Member.initializerKind Prod.snd
      (fun _ _ => rfl)
      (fun _ _ _ => rfl), FieldMark.flatMap_defaults, plain.2, Option.or_none]
  · rw [keyNameOf_foldl_addTo, FieldMark.findSome?_keys]

/-- Let a field have its options in one attribute, or the same options in the
same order divided between several.  It becomes a member either way.  The two
members resolve alike exactly when the type of the field is none of the semantic
ones or the last and the first of the keys that the several attributes hold give
the field the same key. -/
theorem divided_options_resolve_iff
    {joined divided : Field}
    {name : String}
    (joinedNamed : joined.name = some name)
    (dividedNamed : divided.name = some name)
    (sameType : joined.type = divided.type)
    {groups : List (List FieldOption)}
    (joinedOptions : joined.HasOptions [groups.flatten])
    (dividedOptions : divided.HasOptions groups) :
    ∃ joinedMember dividedMember,
      joined.toMember = .ok joinedMember ∧
      divided.toMember = .ok dividedMember ∧
        ∀ className,
          (KeyField.resolve className joinedMember).outcome =
              (KeyField.resolve className dividedMember).outcome ↔
            SemanticType.resolve? joined.type.descriptor = none ∨
              (heldKeys groups).getLast?.elim name (keyOfText name) =
                (heldKeys groups).head?.elim name (keyOfText name) := by
  obtain ⟨joinedMember, joinedMade, joinedOutline, joinedInitializer,
      joinedKind, joinedKey⟩ :=
    exists_toMember_of_hasOptions joinedNamed joinedOptions
  obtain ⟨dividedMember, dividedMade, dividedOutline, dividedInitializer,
    dividedKind,
    dividedKey⟩ := exists_toMember_of_hasOptions dividedNamed dividedOptions
  have together : [groups.flatten].flatten = groups.flatten := List.append_nil _
  have joinedHeld : (heldKeys [groups.flatten]).head? =
      (heldKeys groups).getLast? := by
    rw [heldKeys, List.head?_filterMap, List.findSome?_singleton,
      lastKey?_flatten]
  rw [together] at joinedInitializer joinedKind
  rw [joinedHeld] at joinedKey
  obtain ⟨-, joinedName, joinedType⟩ := Member.outline_eq_iff.mp joinedOutline
  obtain ⟨-, dividedName, dividedType⟩ :=
    Member.outline_eq_iff.mp dividedOutline
  rw [← sameType] at dividedType
  refine ⟨joinedMember, dividedMember, joinedMade, dividedMade,
    fun className => ?_⟩
  rw [KeyField.outcome_resolve_eq_iff (joinedName.trans dividedName.symm)
    (joinedType.trans dividedType.symm)
    (joinedInitializer.trans dividedInitializer.symm)
    (joinedKind.trans dividedKind.symm), joinedType, joinedKey, dividedKey]

/-- A field of 32 bits with attributes that have options of certain tokens. -/
def volumeField (contents : List (List TokenTree)) : Field where
  attributes := contents.map fun content =>
    ⟨false, ⟨false, [⟨fieldAttribute, .none⟩]⟩, .list .parenthesis content⟩
  isPublic := false
  name := some "volume"
  type := .path none ⟨false, [⟨"i32", .none⟩]⟩

/-- The field with the options of two attributes in one. -/
def joinedField (first second : List TokenTree) : Field :=
  volumeField [first ++ .punct ',' false :: second]

/-- The field with two attributes. -/
def dividedField (first second : List TokenTree) : Field :=
  volumeField [first, second]

/-- The tokens of a key option. -/
def keyTokens (text : String) : List TokenTree :=
  [.word "key", .punct '=' false, .literal ("\"" ++ text ++ "\"")]

/-- The tokens of a default option. -/
def defaultTokens : List TokenTree :=
  [.word "default", .punct '=' false, .literal "7"]

theorem volume_divided_options_resolve :
    (joinedField (keyTokens "Volume") defaultTokens).HasOptions
        [[[.key "Volume"], [.default "7" .number]].flatten] ∧
      (dividedField (keyTokens "Volume") defaultTokens).HasOptions
        [[.key "Volume"], [.default "7" .number]] ∧
      ∃ joinedMember dividedMember,
        (joinedField (keyTokens "Volume") defaultTokens).toMember =
          .ok joinedMember ∧
          (dividedField (keyTokens "Volume") defaultTokens).toMember =
            .ok dividedMember ∧
          (KeyField.resolve "Settings" joinedMember).outcome =
            (KeyField.resolve "Settings" dividedMember).outcome := by
  have joinedOptions :
      (joinedField (keyTokens "Volume") defaultTokens).HasOptions
      [[[.key "Volume"], [.default "7" .number]].flatten] := .cons rfl .nil
  have dividedOptions :
      (dividedField (keyTokens "Volume") defaultTokens).HasOptions
      [[.key "Volume"], [.default "7" .number]] := .cons rfl (.cons rfl .nil)
  have sameType : (joinedField (keyTokens "Volume") defaultTokens).type =
      (dividedField (keyTokens "Volume") defaultTokens).type := rfl
  obtain ⟨joinedMember, dividedMember, joinedMade, dividedMade, alike⟩ :=
    divided_options_resolve_iff rfl rfl sameType joinedOptions dividedOptions
  exact ⟨joinedOptions, dividedOptions, joinedMember, dividedMember, joinedMade,
    dividedMade, (alike "Settings").mpr (.inr rfl)⟩

/-- Of two keys in one attribute the last holds, and of two in several
attributes the first. -/
theorem not_forall_divided_options_resolve :
    ¬∀ (joined divided : Field) (name : String)
      (groups : List (List FieldOption)),
      joined.name = some name → divided.name = some name →
      joined.type = divided.type →
        joined.HasOptions [groups.flatten] → divided.HasOptions groups →
          ∀ joinedMember dividedMember,
            joined.toMember = .ok joinedMember →
            divided.toMember = .ok dividedMember →
              ∀ className, (KeyField.resolve className joinedMember).outcome =
                (KeyField.resolve className dividedMember).outcome := by
  intro always
  have joinedOptions :
      (joinedField (keyTokens "Volume") (keyTokens "Loudness")).HasOptions
      [[[.key "Volume"], [.key "Loudness"]].flatten] := .cons rfl .nil
  have dividedOptions :
      (dividedField (keyTokens "Volume") (keyTokens "Loudness")).HasOptions
      [[.key "Volume"], [.key "Loudness"]] := .cons rfl (.cons rfl .nil)
  have sameType :
      (joinedField (keyTokens "Volume") (keyTokens "Loudness")).type =
      (dividedField (keyTokens "Volume") (keyTokens "Loudness")).type := rfl
  have alike :=
    always _ _ "volume" _ rfl rfl sameType joinedOptions dividedOptions _
      _ rfl rfl
    "Settings"
  revert alike
  decide +kernel

end Field

end Source
end PreferenceSchema
