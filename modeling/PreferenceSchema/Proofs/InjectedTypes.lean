import PreferenceSchema.Proofs.FieldKeys
import PreferenceSchema.Proofs.GenericTargets
import PreferenceSchema.Proofs.InjectedFields
import PreferenceSchema.Proofs.ReferableNames

/-!
# Types of injected fields

The entity of an injected field is read off the end of its type.  If a path ends
in the name of a storage class, without arguments, the field belongs to the
entity of that class: whatever qualifies the name, whatever arguments the
segments in front have and whatever references, parentheses and groups stand
around the path.
-/

namespace PreferenceSchema

open Traversal

namespace Source

/-! ## Names of storage classes -/

/-- The start of storage classes belongs to a word with what stands behind
it. -/
theorem isWord_storageClassName
    {entity : String}
    (word : IsWord entity) : IsWord (Naming.storageClassName entity) := by
  intro c present
  rw [Naming.toList_storageClassName] at present
  rcases List.mem_append.mp present with inStart | inEntity
  · have startIsWord : IsWord Naming.storageStart := by decide
    exact startIsWord c inStart
  · exact word c inEntity

namespace Ty

variable {type : Ty}

/-- Only a type that ends in `str` can be borrowed text. -/
theorem EndsIn.keepsName
    {last : PathSegment}
    (ends : type.EndsIn last)
    (bare : last.arguments = .none)
    (noText : last.name ≠ "str") : type.KeepsName last := by
  refine ⟨bare, Bool.eq_false_iff.mpr fun borrowed => noText ?_⟩
  obtain ⟨owner, path, isPath, isLast, -⟩ := ends
  rw [core_eq_of_isBorrowedStr borrowed] at isPath
  cases isPath
  cases isLast
  rfl

/-- A type that ends in the storage class of an entity names this entity. -/
theorem EndsIn.storedEntity?_eq
    {entity : String}
    (ends : type.EndsIn ⟨Naming.storageClassName entity, .none⟩)
    (word : IsWord entity)
    (nonempty : entity ≠ "") :
    Naming.storedEntity? type.descriptor = some entity := by
  have noText : Naming.storageClassName entity ≠ "str" := by
    intro same
    have characters := congrArg String.toList same
    rw [Naming.toList_storageClassName] at characters
    exact absurd (List.cons.inj characters).1 (by decide)
  have simple : simpleTypeName type.descriptor =
      Naming.storageClassName entity :=
    ends.simpleTypeName_eq (ends.keepsName rfl noText)
      (isWord_storageClassName word)
  rw [Naming.storedEntity?_eq_some_iff, ← Naming.toList_storageClassName,
    ← simple, toList_simpleTypeName]
  exact ⟨nonempty, rfl⟩

end Ty

/-! ## Marks of injected fields -/

/-- An attribute has one name only. -/
theorem Attribute.eq_of_isNamed
    {mark : Attribute}
    {left right : String}
    (isLeft : mark.isNamed left = true)
    (isRight : mark.isNamed right = true) : left = right := by
  unfold isNamed Path.isWord at isLeft isRight
  split at isLeft
  case h_1 segment single =>
    simp only [single, Bool.and_eq_true, beq_iff_eq] at isLeft isRight
    exact isLeft.1.2.symm.trans isRight.1.2
  case h_2 => cases isLeft

theorem FieldMark.ofAttribute_of_isInjected
    {mark : Attribute}
    (isInjected : mark.isNamed injectAttribute = true) :
    ofAttribute mark = .ok .injected := by
  have noOptions : ¬mark.isNamed fieldAttribute = true := fun hasOptions =>
    absurd (Attribute.eq_of_isNamed isInjected hasOptions) (by decide)
  rw [ofAttribute, if_neg noOptions, if_pos isInjected]
  rfl

/-- The member of a field with the attribute of injected ones is injected. -/
theorem Field.isInjected_of_toMember_eq_ok
    {field : Field}
    {member : Member}
    (made : field.toMember = .ok member)
    (injected : field.isInjected = true) : member.IsInjected := by
  obtain ⟨name, marks, -, yields, rfl⟩ := toMember_eq_ok_iff.mp made
  obtain ⟨isField, -, -⟩ :=
    Member.outline_eq_iff.mp (outline_foldl_addTo field name marks)
  refine ⟨isField, ⟨Naming.injectMark, []⟩, ?_, rfl⟩
  obtain ⟨mark, present, isInjected⟩ := List.any_eq_true.mp injected
  have marked : FieldMark.injected ∈ marks :=
    yields.mem_iff.mpr
      ⟨mark, present, FieldMark.ofAttribute_of_isInjected isInjected⟩
  rw [FieldMark.annotations_foldl_addTo]
  exact List.mem_append_right _
    (List.mem_flatMap_of_mem marked (List.mem_singleton_self _))

end Source

/-! ## Fields among others -/

namespace InjectionPlan

section

variable {component : ComponentSchema} {target : ClassDeclaration}
  {before after : List Member} {field : Member}

/-- An injected field is bound to an entity exactly when it resolves to the
entity and all other injected fields resolve, too.  A field of the same type
resolves to the same entity, without being asked for. -/
theorem binds_iff_resolves
    (members : target.members = before ++ field :: after)
    (injected : field.IsInjected)
    {entity : String} :
    Binds component target field entity ↔
      Resolves component field entity ∧
        AllResolve component (before ++ after) := by
  have isMember (other : Member) : other ∈ target.members ↔
      other = field ∨ other ∈ before ++ after := by
    rw [members]
    simp only [List.mem_append, List.mem_cons]
    tauto
  have isInjectedField (other : Member) : other ∈ injectedFields target ↔
      (other = field ∨ other ∈ before ++ after) ∧ other.IsInjected := by
    rw [injectedFields_eq, List.mem_filter, isMember, decide_eq_true_iff]
  rw [binds_iff ((isInjectedField field).mpr ⟨.inl rfl, injected⟩),
    ComponentSchema.containsEntity_iff]
  constructor
  · rintro ⟨listed, stored, others⟩
    refine ⟨⟨stored, listed⟩, fun other present otherInjected => ?_⟩
    by_cases sameType : other.typeName = field.typeName
    · exact ⟨entity, sameType ▸ stored, listed⟩
    · have isField := (isInjectedField other).mpr ⟨.inr present, otherInjected⟩
      exact (exists_bind_eq_ok_iff target).mp (others other isField sameType)
  · rintro ⟨⟨stored, listed⟩, others⟩
    refine ⟨listed, stored,
      fun other isField otherType => (exists_bind_eq_ok_iff target).mpr ?_⟩
    obtain ⟨rfl | present, otherInjected⟩ := (isInjectedField other).mp isField
    · exact absurd rfl otherType
    · exact others other present otherInjected

/-- A field of the storage class of an entity resolves to this entity if the
component lists it, and to nothing otherwise. -/
theorem resolves_iff_of_storedEntity?_eq
    {entity : String}
    (stored : Naming.storedEntity? field.typeName = some entity)
    {bound : String} :
    Resolves component field bound ↔
      bound = entity ∧ entity ∈ component.entityNames.names := by
  rw [Resolves, stored, Option.some_inj, eq_comm]
  exact and_congr_right fun same => by rw [same]

/-- An injected field that does not resolve is reported if the fields before it
resolve. -/
theorem build_eq_error_of_not_resolves
    (members : target.members = before ++ field :: after)
    (injected : field.IsInjected)
    (earlier : AllResolve component before)
    (unresolved : ∀ entity, ¬Resolves component field entity) :
    (build component target).outcome =
      .error (.unresolvedInjection component.className target.name field.name
        field.typeName) :=
  build_eq_error_iff.mpr
    ⟨field, ⟨before, after, members, earlier⟩, injected, unresolved, rfl⟩

end

end InjectionPlan

namespace Source

open InjectionPlan

/-- Let a field with the attribute of injected ones have a type that ends,
without arguments, in the storage class of an entity.  Its member is taken for
this entity if the component lists it, and is unresolved otherwise.  So an
injector binds it to the entity, and to no other one, exactly when the component
lists the entity and the other injected fields of the target resolve; and if the
component does not list it, the target is refused for this field unless an
earlier field is to blame. -/
theorem Field.injected_by_last_segment
    {field : Field}
    {member : Member}
    (made : field.toMember = .ok member)
    (injected : field.isInjected = true)
    {entity : String}
    (ends : field.type.EndsIn ⟨Naming.storageClassName entity, .none⟩)
    (word : IsWord entity)
    (nonempty : entity ≠ "")
    {target : ClassDeclaration}
    {before after : List Member}
    (members : target.members = before ++ member :: after)
    (component : ComponentSchema) :
    ∃ name, field.name = some name ∧
      InjectionPlan.bind component target member =
        (if entity ∈ component.entityNames.names then
          .ok ⟨name, field.type.descriptor, entity⟩
        else .error (.unresolvedInjection component.className target.name name
          field.type.descriptor)) ∧
      (∀ bound, Binds component target member bound ↔
        bound = entity ∧ entity ∈ component.entityNames.names ∧
          AllResolve component (before ++ after)) ∧
      (AllResolve component before → entity ∉ component.entityNames.names →
        (InjectionPlan.build component target).outcome =
          .error (.unresolvedInjection component.className target.name name
            field.type.descriptor)) := by
  obtain ⟨name, named, outline⟩ := outline_of_toMember_eq_ok made
  obtain ⟨-, rfl, typed⟩ := Member.outline_eq_iff.mp outline
  have memberInjected := isInjected_of_toMember_eq_ok made injected
  have stored : Naming.storedEntity? member.typeName = some entity := by
    rw [typed]
    exact ends.storedEntity?_eq word nonempty
  have unresolved (unlisted : entity ∉ component.entityNames.names)
      (bound : String) : ¬Resolves component member bound := fun resolves =>
    unlisted ((resolves_iff_of_storedEntity?_eq stored).mp resolves).2
  refine ⟨member.name, named, ?_, fun bound => ?_, fun earlier unlisted => ?_⟩
  · rw [← typed]
    split
    case isTrue listed =>
      exact bind_eq_ok_iff_isBindingOf.mpr
        ⟨rfl, rfl, (resolves_iff_of_storedEntity?_eq stored).mpr ⟨rfl, listed⟩⟩
    case isFalse unlisted =>
      exact bind_eq_error_iff.mpr ⟨unresolved unlisted, rfl⟩
  · rw [binds_iff_resolves members memberInjected,
      resolves_iff_of_storedEntity?_eq stored, and_assoc]
  · rw [← typed]
    exact build_eq_error_of_not_resolves members memberInjected earlier
      (unresolved unlisted)

/-- A shared reference to a path in parentheses, with arguments before its last
segment. -/
def storeReference : Ty :=
  .reference (some "a") false (.paren (.path none ⟨true,
    [⟨"stores",
      .angled true
      [.word "app", .punct ':' true, .punct ':' false, .word "Key"]⟩,
      ⟨"Preference_Settings", .none⟩]⟩))

/-- An injected field with such a type. -/
def storeField : Field :=
  ⟨[⟨false, SourceDeclarations.wordPath injectAttribute, .bare⟩], true,
    some "store", storeReference⟩

/-- The member of the injected field. -/
def storeMember : Member :=
  (storeField.plainMember "store").annotated ⟨Naming.injectMark, []⟩

/-- A screen with nothing but the injected field. -/
def storeScreen : ClassDeclaration :=
  ⟨"Screen", none, [], [storeMember]⟩

/-- A component with the entity of the injected field. -/
def storeComponent : ComponentSchema :=
  ⟨none, "AppComponent", .ofList ["Settings"], ["Screen"]⟩

theorem store_injected_by_last_segment :
    storeField.toMember = .ok storeMember ∧ storeField.isInjected = true ∧
      storeReference.EndsIn ⟨Naming.storageClassName "Settings", .none⟩ ∧
      IsWord "Settings" ∧
      "Settings" ≠ "" ∧
      ∃ name, some "store" = some name ∧
        InjectionPlan.bind storeComponent storeScreen storeMember =
          (if "Settings" ∈ storeComponent.entityNames.names then
            .ok ⟨name, storeReference.descriptor, "Settings"⟩
          else .error (.unresolvedInjection "AppComponent" "Screen" name
            storeReference.descriptor)) ∧
        (∀ bound, Binds storeComponent storeScreen storeMember bound ↔
          bound = "Settings" ∧ "Settings" ∈ storeComponent.entityNames.names ∧
            AllResolve storeComponent []) ∧
        (AllResolve storeComponent [] →
          "Settings" ∉ storeComponent.entityNames.names →
          (InjectionPlan.build storeComponent storeScreen).outcome =
            .error (.unresolvedInjection "AppComponent" "Screen" name
              storeReference.descriptor)) := by
  have made : storeField.toMember = .ok storeMember := rfl
  have injected : storeField.isInjected = true := by decide
  have ends :
      storeReference.EndsIn ⟨Naming.storageClassName "Settings", .none⟩ :=
    ⟨none, _, rfl, rfl, nofun⟩
  have word : IsWord "Settings" := by decide
  have nonempty : "Settings" ≠ "" := by decide
  have members : storeScreen.members = [] ++ storeMember :: [] := rfl
  exact ⟨made, injected, ends, word, nonempty,
    Field.injected_by_last_segment made injected ends word nonempty members
      storeComponent⟩

/-! ### Several injected fields -/

/-- An injected field with the storage class of an entity as its type. -/
def classField (name entity : String) : Field :=
  ⟨[⟨false, SourceDeclarations.wordPath injectAttribute, .bare⟩], false,
    some name, .path none ⟨false, [⟨Naming.storageClassName entity, .none⟩]⟩⟩

/-- The member of such a field. -/
def classMember (name entity : String) : Member :=
  ((classField name entity).plainMember name).annotated ⟨Naming.injectMark, []⟩

theorem toMember_classField
    (name entity : String) :
    (classField name entity).toMember = .ok (classMember name entity) :=
  rfl

theorem endsIn_classField
    (name entity : String) :
    (classField name entity).type.EndsIn
      ⟨Naming.storageClassName entity, .none⟩ :=
  ⟨none, _, rfl, rfl, nofun⟩

/-- A screen with a second injected field, in front of the one for the
settings. -/
def ghostScreen : ClassDeclaration :=
  ⟨"Screen", none, [],
    [classMember "other" "Ghost", classMember "store" "Settings"]⟩

/-- A field alone does not decide what becomes of it.  If another injected field
of the target does not resolve, a field whose entity is listed is bound to
nothing; and the field that is reported is then the first that does not
resolve. -/
theorem not_forall_injected_by_last_segment :
    (¬∀ (field : Field) (member : Member) (entity : String)
        (target : ClassDeclaration) (component : ComponentSchema),
      field.toMember = .ok member → field.isInjected = true →
        field.type.EndsIn ⟨Naming.storageClassName entity, .none⟩ →
          IsWord entity → entity ≠ "" → member ∈ target.members →
            entity ∈ component.entityNames.names →
              Binds component target member entity) ∧
      ¬∀ (field : Field) (member : Member) (entity : String)
          (target : ClassDeclaration) (component : ComponentSchema),
        field.toMember = .ok member → field.isInjected = true →
          field.type.EndsIn ⟨Naming.storageClassName entity, .none⟩ →
            IsWord entity → entity ≠ "" → member ∈ target.members →
              entity ∉ component.entityNames.names →
                (InjectionPlan.build component target).outcome =
                  .error (.unresolvedInjection component.className
                    target.name member.name member.typeName) := by
  have made := toMember_classField "store" "Settings"
  have injected : (classField "store" "Settings").isInjected = true := by
    decide
  have ends := endsIn_classField "store" "Settings"
  have word : IsWord "Settings" := by
    decide
  have isMember : classMember "store" "Settings" ∈ ghostScreen.members :=
    .tail _ (.head _)
  constructor
  · intro alwaysBound
    have refused : (InjectionPlan.build storeComponent ghostScreen).outcome =
        .error (.unresolvedInjection "AppComponent" "Screen" "other"
          "Preference_Ghost") := by
      decide +kernel
    obtain ⟨plan, built, -⟩ :=
      alwaysBound _ _ _ _ storeComponent made injected ends word (by decide)
        isMember (by decide)
    rw [refused] at built
    cases built
  · intro alwaysReported
    have reported := alwaysReported _ _ _ _
      ⟨none, "AppComponent", .empty, ["Screen"]⟩ made injected ends word
      (by decide) isMember (by decide)
    revert reported
    decide +kernel

end Source
end PreferenceSchema
