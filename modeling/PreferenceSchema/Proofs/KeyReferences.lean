import PreferenceSchema.Proofs.AccessorTags
import PreferenceSchema.Proofs.AddedMethods
import PreferenceSchema.Proofs.KeyResolution
import PreferenceSchema.Proofs.ReferableNames

/-!
# References to keys

A field declares its key by a text, and a custom accessor refers to a key by a
text.  The blanks around the text are cut off where it declares a key, but not
where it refers to one.  So the text that declares a key refers to it exactly
when it has no blanks around it.
-/

namespace PreferenceSchema

open Traversal Collection AccessorFunction

/-! ## Declared keys -/

namespace KeyField

/-- A field declares its key by a text, which is not blank. -/
structure DeclaresBy
    (field : Member)
    (text : String) : Prop where
  named : (field.annotationNamed? Naming.keyMark).bind (·.get? "name") =
    some text
  notBlank : Text.trim text.toList ≠ []

/-- The key is the text that declares it, without the blanks around it. -/
theorem DeclaresBy.keyNameOf_eq
    {field : Member}
    {text : String}
    (declares : DeclaresBy field text) :
    keyNameOf field = String.ofList (Text.trim text.toList) := by
  rw [keyNameOf, declares.named]
  dsimp only
  split
  case h_1 blank => exact absurd blank declares.notBlank
  case h_2 => rfl

theorem DeclaresBy.keyNameOf_eq_iff
    {field : Member}
    {text : String}
    (declares : DeclaresBy field text) :
    keyNameOf field = text ↔ Unpadded text := by
  rw [declares.keyNameOf_eq, ← String.toList_inj, String.toList_ofList]
  rfl

/-- Only the name of a field can be a key with blanks around it. -/
theorem keyNameOf_eq_name_or_unpadded
    (field : Member) :
    keyNameOf field = field.name ∨ Unpadded (keyNameOf field) := by
  unfold keyNameOf
  split
  case h_1 text named =>
    split
    case h_1 blank => exact .inl rfl
    case h_2 =>
      right
      rw [Unpadded, String.toList_ofList]
      exact Text.trim_trim _
  case h_2 => exact .inl rfl

end KeyField

namespace EntitySchema

/-- The accessor of a key in a role depends on the key fields and on the last
member that is a custom accessor for them. -/
theorem get?_overrides_congr
    {decl other : ClassDeclaration}
    {schema otherSchema : EntitySchema}
    (accepted : (build decl).outcome = .ok schema)
    (otherAccepted : (build other).outcome = .ok otherSchema)
    (sameFields : schema.keyFields = otherSchema.keyFields)
    {role : AccessorRole}
    {key : String}
    (sameLast : decl.members.reverse.find? (customizes role key) =
      other.members.reverse.find? (customizes role key)) :
    (schema.overrides.ofRole role).get? key =
      (otherSchema.overrides.ofRole role).get? key := by
  ext function
  rw [override_eq_some_iff accepted, override_eq_some_iff otherAccepted]
  simp only [← find?_customizes_eq_some_iff, find?_customizes_methods, sameLast,
    sameFields]

/-! ## The text of a key -/

section

variable {decl : ClassDeclaration} {schema : EntitySchema}
  (accepted : (build decl).outcome = .ok schema)

include accepted

/-- Every field of an entity has its key field. -/
theorem exists_keyField
    {field : Member}
    (isField : field ∈ decl.fields)
    {type : SemanticType}
    (typed : SemanticType.resolve? field.typeName = some type) :
    ∃ keyField ∈ schema.keyFields, keyField.keyName = KeyField.keyNameOf field ∧
      keyField.type = type := by
  have yields := (resolvesTo_of_build_eq_ok accepted).yields
  obtain ⟨keyField, resolved⟩ := exists_yields_iff.mp ⟨_, yields⟩ field isField
  obtain ⟨sameType, -, sameKey, -⟩ := KeyField.resolve_eq_ok_iff.mp resolved
  rw [typed] at sameType
  exact ⟨keyField, yields.mem_iff.mpr ⟨field, isField, resolved⟩, sameKey,
    (Option.some.inj sameType).symm⟩

/-- A text with blanks around it is a key only if it is the name of a field. -/
theorem keyName_ne_of_not_unpadded
    {text : String}
    (padded : ¬Unpadded text)
    (noName : ∀ field ∈ decl.fields, field.name ≠ text) :
    ∀ keyField ∈ schema.keyFields, keyField.keyName ≠ text := by
  rintro keyField present rfl
  obtain ⟨field, isField, sameKey⟩ :=
    exists_keyNameOf_eq (resolvesTo_of_build_eq_ok accepted) present
  obtain isName | unpadded := KeyField.keyNameOf_eq_name_or_unpadded field
  · exact noName field isField (isName.symm.trans sameKey)
  · exact padded (sameKey ▸ unpadded)

end

/-- A method has the signature of a custom accessor, and it refers to a key by a
text. -/
structure AccessesBy
    (role : AccessorRole)
    (text : String)
    (type : SemanticType)
    (method : Member)
    (parameter : Parameter) : Prop where
  customizes : Customizes role text method
  parameters : method.parameters = [parameter]
  parameterType : SemanticType.resolve? parameter.typeName = some type
  returnType : SemanticType.resolve? method.typeName = some type

namespace AccessesBy

variable {role : AccessorRole} {text : String} {type : SemanticType}
  {method : Member}
  {parameter : Parameter}

theorem fits
    (accesses : AccessesBy role text type method parameter)
    {field : KeyField}
    (sameKey : field.keyName = text)
    (sameType : field.type = type) : Fits method field where
  key_eq := accesses.customizes.keyOf_eq.trans sameKey.symm
  parameter := ⟨parameter, accesses.parameters,
    sameType ▸ accesses.parameterType⟩
  returnType := sameType ▸ accesses.returnType
  name := ⟨role, accesses.customizes.named⟩

theorem ofSignature_eq
    (accesses : AccessesBy role text type method parameter) :
    ofSignature method type = .ok (role, ⟨method.name, parameter.name, type⟩) :=
  ofSignature_eq_ok_iff.mpr
    ⟨parameter, accesses.parameters, accesses.parameterType,
      accesses.returnType, accesses.customizes.named, rfl⟩

end AccessesBy

section

variable {decl : ClassDeclaration} {schema : EntitySchema} {field : Member}
  {text : String}
  {type : SemanticType} {before after : List Member} {role : AccessorRole}
    {method : Member}
  {parameter : Parameter}
  (accepted : (build decl).outcome = .ok schema)
  (members : decl.members = before ++ after)
  (accesses : AccessesBy role text type method parameter)

include accepted members accesses

/-- Without blanks around it, the text that declares a key refers to it. -/
theorem exists_override_of_unpadded
    (isField : field ∈ decl.fields)
    (declares : KeyField.DeclaresBy field text)
    (typed : SemanticType.resolve? field.typeName = some type)
    (free : ¬Reserved schema.keyFields method.name)
    (unpadded : Unpadded text) :
    ∃ extended,
      (build (withMethod decl before method after)).outcome = .ok extended ∧
      ((∀ later ∈ after, ¬Customizes role (KeyField.keyNameOf field) later) →
        (extended.overrides.ofRole role).get? (KeyField.keyNameOf field) =
          some ⟨method.name, parameter.name, type⟩) := by
  have notField := accesses.customizes.isMethod
  have isText : KeyField.keyNameOf field = text :=
    declares.keyNameOf_eq_iff.mpr unpadded
  obtain ⟨keyField, present, sameKey, sameType⟩ :=
    exists_keyField accepted isField typed
  have fits := accesses.fits (sameKey.trans isText) sameType
  obtain ⟨extended, built⟩ := (exists_build_eq_ok_iff _).mpr
    ⟨_, accepts_withMethod members notField
      (accepts_of_build_eq_ok accepted) free
      ⟨keyField, present, fits⟩⟩
  refine ⟨extended, built, fun noLater => ?_⟩
  have stillPresent : keyField ∈ extended.keyFields := by
    rw [keyFields_withMethod members notField accepted built]
    exact present
  refine (override_eq_some_iff built).mpr
    ⟨method, ?_, keyField, stillPresent, sameKey, ?_⟩
  · rw [← find?_customizes_eq_some_iff, find?_customizes_methods,
      find?_customizes_eq_some_iff]
    exact ⟨isText ▸ accesses.customizes, before, after, rfl, noLater⟩
  · rw [sameType]
    exact accesses.ofSignature_eq

/-- With blanks around it, the text refers to no key that is declared by a
text. -/
theorem build_withMethod_eq_unknownKey
    (free : ¬Reserved schema.keyFields method.name)
    (padded : ¬Unpadded text)
    (noName : ∀ other ∈ decl.fields, other.name ≠ text) :
    (build (withMethod decl before method after)).outcome =
      .error (.unknownKey decl.name method.name text) := by
  have refersTo : keyOf method = text := accesses.customizes.keyOf_eq
  have counts : isCustom method = true :=
    (customizes_iff_keyOf.mp accesses.customizes).2.1
  have misfits : Misfits decl.name schema.keyFields method
      (.unknownKey decl.name method.name (keyOf method)) :=
    .unknownKey
      (refersTo.symm ▸ keyName_ne_of_not_unpadded accepted padded noName)
  rw [refersTo] at misfits
  exact build_withMethod_eq_error members accesses.customizes.isMethod
    (accepts_of_build_eq_ok accepted) free counts misfits

/-- With blanks around it, the text does not change what is kept for the key
that it declares. -/
theorem get?_overrides_withMethod_of_not_unpadded
    (declares : KeyField.DeclaresBy field text)
    (padded : ¬Unpadded text)
    {extended : EntitySchema}
    (built : (build (withMethod decl before method after)).outcome =
      .ok extended) :
    (extended.overrides.ofRole role).get? (KeyField.keyNameOf field) =
      (schema.overrides.ofRole role).get? (KeyField.keyNameOf field) := by
  have otherKey : customizes role (KeyField.keyNameOf field) method =
      false := by
    rw [Bool.eq_false_iff, ne_eq, customizes_iff]
    intro refers
    have isText := refers.keyOf_eq.symm.trans accesses.customizes.keyOf_eq
    exact padded (declares.keyNameOf_eq_iff.mp isText)
  refine get?_overrides_congr built accepted
    (keyFields_withMethod members accesses.customizes.isMethod accepted built)
      ?_
  rw [members]
  simp [List.find?_append, otherKey]

end

/-- Let a field of an entity declare its key by a text, and let an accessor of
the type of the field refer to a key by the same text.  If there are no blanks
around the text, the class with the accessor is an entity, and the accessor is
kept for the key of the field unless a later one is.  If there are, the class is
refused for an unknown key unless a field has the text as its name, and the
accessor of the key stays as it is in any case. -/
theorem key_referenced_iff_unpadded
    {decl : ClassDeclaration}
    {schema : EntitySchema}
    (accepted : (build decl).outcome = .ok schema)
    {field : Member}
    (isField : field ∈ decl.fields)
    {text : String}
    (declares : KeyField.DeclaresBy field text)
    {type : SemanticType}
    (typed : SemanticType.resolve? field.typeName = some type)
    {before after : List Member}
    (members : decl.members = before ++ after)
    {role : AccessorRole}
    {method : Member}
    {parameter : Parameter}
    (accesses : AccessesBy role text type method parameter)
    (free : ¬Reserved schema.keyFields method.name) :
    (Unpadded text →
      ∃ extended,
        (build (withMethod decl before method after)).outcome = .ok extended ∧
        ((∀ later ∈ after, ¬Customizes role (KeyField.keyNameOf field) later) →
          (extended.overrides.ofRole role).get? (KeyField.keyNameOf field) =
            some ⟨method.name, parameter.name, type⟩)) ∧
      (¬Unpadded text →
        ((∀ other ∈ decl.fields, other.name ≠ text) →
          (build (withMethod decl before method after)).outcome =
            .error (.unknownKey decl.name method.name text)) ∧
          ∀ extended,
            (build (withMethod decl before method after)).outcome =
              .ok extended →
            (extended.overrides.ofRole role).get? (KeyField.keyNameOf field) =
              (schema.overrides.ofRole role).get?
                (KeyField.keyNameOf field)) := by
  refine ⟨exists_override_of_unpadded accepted members accesses isField declares
    typed free,
    fun padded =>
      ⟨build_withMethod_eq_unknownKey accepted members accesses free padded,
        ?_⟩⟩
  intro extended built
  exact get?_overrides_withMethod_of_not_unpadded accepted members accesses
    declares padded built

/-- A field that declares its key by a text. -/
def nicknameField (text : String) : Member :=
  (Member.field "nickname" "String").annotated
    ⟨Naming.keyMark, [("name", text)]⟩

/-- A class with such a field. -/
def nicknameClass (text : String) : ClassDeclaration :=
  ⟨"Profile", none, [], [nicknameField text]⟩

/-- The schema of the class with the key `Nickname`. -/
def nicknameSchema : EntitySchema where
  package := none
  className := "Profile"
  storageName := "Profile"
  keys := .ofFields [⟨"nickname", "Nickname", .string, .string ""⟩]
  overrides := .empty

/-- An accessor that refers to a key by a text. -/
def putTrimmed (text : String) : Member :=
  (((Member.method "putTrimmed" "String").withModifier .public).withParameter
    "value"
    "String").annotated ⟨Naming.functionMark, [("keyname", text)]⟩

theorem resolve?_string : SemanticType.resolve? "String" = some .string := by
  decide +kernel

theorem putTrimmed_accessesBy
    (text : String) :
    AccessesBy .setter text .string (putTrimmed text) ⟨"value", "String"⟩ where
  customizes := ⟨rfl, rfl,
    ⟨⟨Naming.functionMark, [("keyname", text)]⟩, rfl, rfl⟩, "Trimmed", rfl⟩
  parameters := rfl
  parameterType := resolve?_string
  returnType := resolve?_string

theorem not_reserved_putTrimmed :
    ¬Reserved nicknameSchema.keyFields "putTrimmed" := by
  decide +kernel

theorem nickname_key_referenced_iff_unpadded :
    (build (nicknameClass "Nickname")).outcome = .ok nicknameSchema ∧
      Unpadded "Nickname" ∧
      ∃ extended,
        (build (withMethod (nicknameClass "Nickname") [nicknameField "Nickname"]
          (putTrimmed "Nickname") [])).outcome = .ok extended ∧
        (extended.overrides.ofRole .setter).get? "Nickname" =
          some ⟨"putTrimmed", "value", .string⟩ := by
  have accepted : (build (nicknameClass "Nickname")).outcome =
      .ok nicknameSchema := by
    decide +kernel
  have unpadded : Unpadded "Nickname" := by
    change Text.trim "Nickname".toList = "Nickname".toList
    decide +kernel
  obtain ⟨extended, built, kept⟩ := (key_referenced_iff_unpadded accepted
    (List.mem_singleton_self (nicknameField "Nickname"))
    ⟨rfl, by decide +kernel⟩ resolve?_string
    (List.append_nil _).symm (putTrimmed_accessesBy "Nickname")
    not_reserved_putTrimmed).1 unpadded
  exact ⟨accepted, unpadded, extended, built, kept nofun⟩

/-- With blanks around it, the text that declares a key is no reference to the
key. -/
theorem not_forall_key_referenced :
    ¬∀ (decl : ClassDeclaration) (schema : EntitySchema),
      (build decl).outcome = .ok schema →
      ∀ field ∈ decl.fields, ∀ text, KeyField.DeclaresBy field text →
        (∀ other ∈ decl.fields,
          KeyField.DeclaresBy other text → other = field) →
        ∀ type, SemanticType.resolve? field.typeName = some type →
          ∀ role method parameter, AccessesBy role text type method parameter →
            ¬Reserved schema.keyFields method.name →
              ∃ extended,
                (build (withMethod decl decl.members method [])).outcome =
                  .ok extended ∧
                (extended.overrides.ofRole role).get?
                  (KeyField.keyNameOf field) =
                  some ⟨method.name, parameter.name, type⟩ := by
  intro always
  have accepted : (build (nicknameClass " Nickname ")).outcome =
      .ok nicknameSchema := by
    decide +kernel
  have refused :
      (build (withMethod (nicknameClass " Nickname ")
        [nicknameField " Nickname "] (putTrimmed " Nickname ") [])).outcome =
        .error (.unknownKey "Profile" "putTrimmed" " Nickname ") := by
    decide +kernel
  obtain ⟨extended, built, -⟩ := always _ _ accepted _
    (List.mem_singleton_self (nicknameField " Nickname ")) " Nickname "
      ⟨rfl, by decide +kernel⟩
    (fun other present _ => List.mem_singleton.mp present)
      _ resolve?_string _ _ _
    (putTrimmed_accessesBy " Nickname ") not_reserved_putTrimmed
  cases refused.symm.trans built

end EntitySchema
end PreferenceSchema
