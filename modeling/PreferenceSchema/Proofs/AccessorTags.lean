import PreferenceSchema.Proofs.OverrideRouting
import PreferenceSchema.Proofs.SourceMembers

/-!
# Tags of custom accessors

A function may be tagged with several keys.  All tags become annotations of its
member, in order, but only the first of them is looked up: the others are
neither checked nor do they override anything.  So a tag behind the first one is
honoured only where its key exists with the type of the function and a later
method, whose first tag it is, overrides that key.
-/

namespace PreferenceSchema

open Traversal Collection AccessorFunction

/-- The annotation that tags a method with a key. -/
def tagMark (key : String) : Annotation :=
  ⟨Naming.functionMark, [("keyname", key)]⟩

/-- The key of a tag, a missing key counting as the empty text. -/
def tagKey (mark : Annotation) : String :=
  (mark.get? "keyname").getD ""

/-- The keys that a member is tagged with. -/
def tagKeys (member : Member) : List String :=
  (member.annotations.filter fun mark =>
    mark.name == Naming.functionMark).map tagKey

/-- The key that is looked up is that of the first tag. -/
theorem keyOf_eq_head?
    (member : Member) : keyOf member = (tagKeys member).head?.getD "" := by
  rw [keyOf, tagKeys, List.head?_map, List.head?_filter]
  change ((member.annotations.find? _).bind _).getD "" = _
  cases member.annotations.find? fun mark =>
    mark.name == Naming.functionMark <;> rfl

theorem isSome_annotationNamed?_iff
    {member : Member} :
    (member.annotationNamed? Naming.functionMark).isSome = true ↔
      tagKeys member ≠ [] := by
  change (member.annotations.find? _).isSome = true ↔ _
  rw [List.find?_isSome, tagKeys, ne_eq, List.map_eq_nil_iff,
    List.filter_eq_nil_iff]
  simp

/-- The key that is looked up is among the tags of a tagged member. -/
theorem keyOf_mem_tagKeys
    {member : Member}
    (tagged : tagKeys member ≠ []) : keyOf member ∈ tagKeys member := by
  obtain ⟨first, rest, equal⟩ := List.exists_cons_of_ne_nil tagged
  rw [keyOf_eq_head?, equal]
  exact List.mem_cons_self

theorem isCustom_iff
    {member : Member} :
    isCustom member = true ↔ tagKeys member ≠ [] ∧ member.isPublic = true := by
  rw [isCustom, Bool.and_eq_true, isSome_annotationNamed?_iff]

/-- What customizes a key in a role is found by the key of its first tag. -/
theorem customizes_iff_keyOf
    {role : AccessorRole}
    {key : String}
    {member : Member} :
    Customizes role key member ↔
      member.isField = false ∧ isCustom member = true ∧
      keyOf member = key ∧ ∃ rest, member.name = role.start ++ rest := by
  rw [← customizes_iff, customizes, refersTo,
    ← AccessorRole.ofName?_eq_some_iff]
  simp

namespace Source

/-- The function attributes of a function. -/
def Function.tagAttributes (function : Function) : List Attribute :=
  function.attributes.filter (Attribute.isNamed functionAttribute)

/-- A function attribute is well-formed and names a key. -/
def NamesKey
    (mark : Attribute)
    (key : String) : Prop :=
  readFunctionMark mark = .ok (tagMark key)

/-- A well-formed function attribute names a key. -/
theorem namesKey_of_readFunctionMark_eq_ok
    {mark : Attribute}
    {result : Annotation}
    (read : readFunctionMark mark = .ok result) :
    NamesKey mark (tagKey result) := by
  obtain ⟨key, -, equal⟩ := bind_eq_ok_iff.mp read
  obtain rfl := Except.ok.inj equal
  exact read

theorem tagKeys_of_tagMarks
    {member : Member}
    {keys : List String}
    (marks : member.annotations = keys.map tagMark) :
    tagKeys member = keys := by
  have all :
      (keys.map tagMark).filter (fun mark => mark.name == Naming.functionMark) =
      keys.map tagMark :=
    List.filter_eq_self.mpr fun mark present => by
      obtain ⟨key, -, rfl⟩ := List.mem_map.mp present
      exact beq_self_eq_true Naming.functionMark
  rw [tagKeys, marks, all, List.map_map]
  exact List.map_id keys

/-- A public function is tagged with the keys that its attributes name, in their
order. -/
theorem exists_toMember_eq_ok_of_namesKey
    {function : Function}
    {keys : List String}
    (named : List.Forall₂ NamesKey function.tagAttributes keys) :
    ∃ method, function.toMember true = .ok method ∧ method.isPublic = true ∧
      tagKeys method = keys := by
  have yields : Yields readFunctionMark function.tagAttributes
      (keys.map tagMark) :=
    List.forall₂_map_right_iff.mpr named
  refine ⟨_, Function.toMember_eq_ok_iff.mpr ⟨_, yields, rfl⟩, ?_,
    tagKeys_of_tagMarks rfl⟩
  rw [Function.signatureMember_eq]
  rfl

end Source

namespace EntitySchema

/-- The methods are searched as all members are. -/
theorem find?_customizes_methods
    (decl : ClassDeclaration)
    (role : AccessorRole)
    (key : String) :
    decl.methods.reverse.find? (customizes role key) =
      decl.members.reverse.find? (customizes role key) := by
  rw [ClassDeclaration.methods, ← List.filter_reverse, List.find?_filter]
  congr 1
  funext member
  cases isField : member.isField <;> simp [customizes, isField]

/-- The search from the end of the methods finds the last one that customizes a
key. -/
theorem find?_customizes_eq_some_iff
    {role : AccessorRole}
    {key : String}
    {methods : List Member}
    {method : Member} :
    methods.reverse.find? (customizes role key) = some method ↔
      IsLast (Customizes role key) methods method := by
  simp only [find?_reverse_eq_some_iff, customizes_iff]

/-- What a class keeps for a key in a role: the signature of the last custom
accessor for them. -/
theorem override_eq_some_iff
    {decl : ClassDeclaration}
    {schema : EntitySchema}
    (accepted : (build decl).outcome = .ok schema)
    {role : AccessorRole}
    {key : String}
    {function : AccessorFunction} :
    (schema.overrides.ofRole role).get? key = some function ↔
      ∃ method, IsLast (Customizes role key) decl.methods method ∧
        ∃ field ∈ schema.keyFields, field.keyName = key ∧
          ofSignature method field.type = .ok (role, function) := by
  obtain ⟨fields, entries, accepts, yields, rfl⟩ := build_eq_ok_iff.mp accepted
  have distinct := accepts.resolvesTo.distinct
  have related :
      (entries.reverse.find? fun entry =>
        entry.1 == key && entry.2.1 == role).map
      Except.ok = (decl.methods.reverse.find? (customizes role key)).map
        (resolve decl.name (KeyTable.ofFields fields)) := by
    rw [find?_customizes_methods, ← find?_refersTo]
    refine map_find?_of_forall₂ (List.forall₂_reverse_iff.mpr yields) ?_
      fun _ _ resolved => resolved
    intro method entry resolved
    obtain ⟨sameKey, sameRole, -⟩ := entry_of_resolve_eq_ok distinct resolved
    rw [refersTo, sameKey, sameRole]
    rfl
  rw [Overrides.get?_ofEntries, keyFields, KeyTable.fields_ofFields]
  constructor
  · intro kept
    obtain ⟨⟨entryKey, entryRole, _⟩, found, rfl⟩ :=
      Option.map_eq_some_iff.mp kept
    have matching := List.find?_some found
    simp only [Bool.and_eq_true, beq_iff_eq] at matching
    obtain ⟨rfl, rfl⟩ := matching
    rw [found, Option.map_some] at related
    obtain ⟨method, last, resolved⟩ := Option.map_eq_some_iff.mp related.symm
    obtain ⟨rfl, field, present, fieldKey, signed⟩ :=
      (resolve_eq_ok_iff distinct).mp resolved
    exact ⟨method, find?_customizes_eq_some_iff.mp last, field, present,
      fieldKey, signed⟩
  · rintro ⟨method, last, field, present, fieldKey, signed⟩
    have sameKey := last.1.keyOf_eq
    have resolved : resolve decl.name (KeyTable.ofFields fields) method =
        .ok (key, role, function) :=
      (resolve_eq_ok_iff distinct).mpr
        ⟨sameKey.symm, field, present, fieldKey.trans sameKey.symm, signed⟩
    rw [find?_customizes_eq_some_iff.mpr last, Option.map_some,
      resolved] at related
    obtain ⟨entry, found, equal⟩ := Option.map_eq_some_iff.mp related
    rw [found, Except.ok.inj equal]
    rfl

/-- The last custom accessor for a key and a role is kept for them. -/
theorem exists_override_of_isLast
    {decl : ClassDeclaration}
    {schema : EntitySchema}
    (accepted : (build decl).outcome = .ok schema)
    {role : AccessorRole}
    {key : String}
    {method : Member}
    (last : IsLast (Customizes role key) decl.methods method) :
    ∃ function, (schema.overrides.ofRole role).get? key = some function ∧
      ∃ field ∈ schema.keyFields, field.keyName = key ∧
        ofSignature method field.type = .ok (role, function) := by
  have found := find?_customizes_eq_some_iff.mpr last
  have name := map_name_get?_overrides accepted role key
  rw [← find?_customizes_methods, found] at name
  obtain ⟨function, kept, -⟩ := Option.map_eq_some_iff.mp name
  obtain ⟨other, otherLast, field, present, fieldKey, signed⟩ :=
    (override_eq_some_iff accepted).mp kept
  rw [find?_customizes_eq_some_iff.mpr otherLast] at found
  obtain rfl := Option.some.inj found
  exact ⟨function, kept, field, present, fieldKey, signed⟩

/-- A tag of a method is honoured: its key exists and has the type of the
method, and what is kept for it in the role of the method is the method itself,
or a later public one with the same tag. -/
def Honours
    (schema : EntitySchema)
    (method : Member)
    (after : List Member)
    (key : String) : Prop :=
  ∃ field ∈ schema.keyFields, field.keyName = key ∧
    ∃ role function, ofSignature method field.type = .ok (role, function) ∧
      ∃ holder ∈ method :: after, holder.isPublic = true ∧
      key ∈ tagKeys holder ∧
        ∃ kept, ofSignature holder field.type = .ok (role, kept) ∧
          (schema.overrides.ofRole role).get? key = some kept

/-- A later method honours a tag in place of the one that has it: the key exists
with the type of both, and it is the first tag of the later one, which has the
same role. -/
def Succeeds
    (schema : EntitySchema)
    (method : Member)
    (after : List Member)
    (key : String) : Prop :=
  ∃ field ∈ schema.keyFields, field.keyName = key ∧
    ∃ role function, ofSignature method field.type = .ok (role, function) ∧
      ∃ later ∈ after, Customizes role key later

/-! ## Which tags are honoured -/

section

variable
  {decl : ClassDeclaration}
  {schema : EntitySchema}
  (accepted : (build decl).outcome = .ok schema)
  {before after : List Member}
  {method : Member}
  (split : decl.methods = before ++ method :: after)

include accepted split

/-- A tag is honoured if the method or a later one customizes its key. -/
theorem honours_of_customizes
    {field : KeyField}
    (present : field ∈ schema.keyFields)
    {role : AccessorRole}
    {function : AccessorFunction}
    (signed : ofSignature method field.type = .ok (role, function))
    {holder : Member}
    (holds : holder ∈ method :: after)
    (customizes : Customizes role field.keyName holder) :
    Honours schema method after field.keyName := by
  obtain ⟨last, lastPresent, isLast⟩ :=
    exists_isLast_of_mem before holds customizes
  rw [← split] at isLast
  obtain ⟨kept, keeps, other, otherPresent, otherKey, lastSigned⟩ :=
    exists_override_of_isLast accepted isLast
  obtain rfl : other = field :=
    List.inj_on_of_nodup_map (resolvesTo_of_build_eq_ok accepted).distinct
      otherPresent present
      otherKey
  have lastTagged : tagKeys last ≠ [] := by
    obtain ⟨-, counts, -⟩ := customizes_iff_keyOf.mp isLast.1
    exact (isCustom_iff.mp counts).1
  have lastKey : other.keyName ∈ tagKeys last :=
    isLast.1.keyOf_eq ▸ keyOf_mem_tagKeys lastTagged
  exact ⟨other, present, rfl, role, function, signed, last, lastPresent,
    isLast.1.isPublic, lastKey, kept, lastSigned, keeps⟩

/-- The first tag of a public method is always honoured. -/
theorem honours_keyOf
    (isPublic : method.isPublic = true)
    (tagged : tagKeys method ≠ []) :
    Honours schema method after (keyOf method) := by
  have isMethod : method ∈ decl.methods := by
    rw [split]
    exact List.mem_append_right _ List.mem_cons_self
  have notField : method.isField = false := by
    simpa using (List.mem_filter.mp isMethod).2
  have counts : isCustom method = true := isCustom_iff.mpr ⟨tagged, isPublic⟩
  obtain ⟨field, present, fits⟩ :=
    (accepts_of_build_eq_ok accepted).accessorsFit method isMethod counts
  obtain ⟨parameter, single, parameterType⟩ := fits.parameter
  obtain ⟨role, rest, named⟩ := fits.name
  have signed : ofSignature method field.type =
      .ok (role, ⟨method.name, parameter.name, field.type⟩) :=
    ofSignature_eq_ok_iff.mpr
      ⟨parameter, single, parameterType, fits.returnType, ⟨rest, named⟩, rfl⟩
  rw [fits.key_eq]
  refine honours_of_customizes accepted split present signed
    List.mem_cons_self ?_
  exact customizes_iff_keyOf.mpr ⟨notField, counts, fits.key_eq, rest, named⟩

/-- Where no two methods have one name, any other tag is honoured only by a
later method. -/
theorem honours_iff
    (distinct : (decl.methods.map Member.name).Nodup)
    (isPublic : method.isPublic = true)
    (tagged : tagKeys method ≠ [])
    (key : String) :
    Honours schema method after key ↔ key = keyOf method ∨
      Succeeds schema method after key := by
  constructor
  · rintro ⟨field, present, rfl, role, function, signed, holder, holds, -, -,
      kept, holderSigned,
      keeps⟩
    obtain ⟨owner, ownerLast, _, -, -, ownerSigned⟩ :=
      (override_eq_some_iff accepted).mp keeps
    have sameName : owner.name = holder.name := by
      obtain ⟨_, -, -, -, -, rfl⟩ := ofSignature_eq_ok_iff.mp ownerSigned
      obtain ⟨_, -, -, -, -, equal⟩ := ofSignature_eq_ok_iff.mp holderSigned
      exact congrArg AccessorFunction.name equal
    have holderPresent : holder ∈ decl.methods := by
      rw [split]
      exact List.mem_append_right _ holds
    have ownerPresent : owner ∈ decl.methods := ownerLast.mem
    obtain rfl : owner = holder :=
      List.inj_on_of_nodup_map distinct ownerPresent holderPresent sameName
    obtain rfl | later := List.mem_cons.mp holds
    · exact .inl ownerLast.1.keyOf_eq.symm
    · exact .inr
        ⟨field, present, rfl, role, function, signed, owner, later, ownerLast.1⟩
  · rintro
      (rfl | ⟨field, present, rfl, role, function, signed, later, laterPresent,
        customizes⟩)
    · exact honours_keyOf accepted split isPublic tagged
    · exact honours_of_customizes accepted split present signed
        (List.mem_cons_of_mem _ laterPresent) customizes

end

/-- All function attributes of a public function, if they are well-formed,
become tags of its method.  In an accepted class whose methods have distinct
names the first of these tags is honoured, and any other exactly where it
repeats the first one or a later method succeeds to it. -/
theorem tags_honoured_iff
    {function : Source.Function}
    (wellFormed : ∀ mark ∈ function.tagAttributes,
      ∃ result, Source.readFunctionMark mark = .ok result) :
    ∃ keys method, List.Forall₂ Source.NamesKey function.tagAttributes keys ∧
      function.toMember true = .ok method ∧ tagKeys method = keys ∧
      ∀ (decl : ClassDeclaration) (schema : EntitySchema)
        (before after : List Member),
        (build decl).outcome = .ok schema →
        decl.methods = before ++ method :: after →
        (decl.methods.map Member.name).Nodup →
        ∀ key ∈ keys, Honours schema method after key ↔
          key = keyOf method ∨ Succeeds schema method after key := by
  obtain ⟨marks, yields⟩ := exists_yields_iff.mpr wellFormed
  have named : List.Forall₂ Source.NamesKey function.tagAttributes
      (marks.map tagKey) :=
    List.forall₂_map_right_iff.mpr
      (yields.imp fun _ _ read =>
        Source.namesKey_of_readFunctionMark_eq_ok read)
  obtain ⟨method, made, isPublic, tags⟩ :=
    Source.exists_toMember_eq_ok_of_namesKey named
  refine ⟨_, method, named, made, tags, ?_⟩
  intro decl schema before after accepted split distinct key present
  have tagged : tagKeys method ≠ [] := by
    rw [tags]
    exact List.ne_nil_of_mem present
  exact honours_iff accepted split distinct isPublic tagged key

/-- An attribute that tags a function with a key. -/
def tagAttribute (key : String) : Source.Attribute :=
  ⟨false, ⟨false, [⟨Source.functionAttribute, .none⟩]⟩,
    .list .parenthesis
      [.word "key", .punct '=' false, .literal ("\"" ++ key ++ "\"")]⟩

/-- A function from a whole number to one, with two tags. -/
def putVisits : Source.Function where
  attributes := [tagAttribute "visits", tagAttribute "absent"]
  isPublic := true
  name := "putVisits"
  arguments :=
    [.typed ⟨.name "visits", [.word "visits"]⟩
      (.path none ⟨false, [⟨"i32", .none⟩]⟩)]
  result := some (.path none ⟨false, [⟨"i32", .none⟩]⟩)

/-- The method that the function is. -/
def putVisitsMethod : Member :=
  ((((Member.method "putVisits" "i32").withModifier .public).withModifier
    .static).withParameter
    "visits" "i32" |>.annotated (tagMark "visits")).annotated (tagMark "absent")

/-- A class with the key of the first tag only. -/
def visitsClass : ClassDeclaration where
  name := "Settings"
  package := none
  annotations := []
  members := [.field "visits" "i32", putVisitsMethod]

/-- The schema of the class. -/
def visitsSchema : EntitySchema where
  package := none
  className := "Settings"
  storageName := "Settings"
  keys := .ofFields [⟨"visits", "visits", .integer, .integer 0⟩]
  overrides :=
    .ofEntries [("visits", .setter, ⟨"putVisits", "visits", .integer⟩)]

theorem namesKey_tagAttributes_putVisits :
    List.Forall₂ Source.NamesKey putVisits.tagAttributes
      ["visits", "absent"] := by
  have first : Source.NamesKey (tagAttribute "visits") "visits" := by
    rfl
  have second : Source.NamesKey (tagAttribute "absent") "absent" := by
    rfl
  exact .cons first (.cons second .nil)

theorem toMember_putVisits : putVisits.toMember true = .ok putVisitsMethod := by
  rfl

theorem outcome_visitsClass :
    (build visitsClass).outcome = .ok visitsSchema := by
  decide +kernel

theorem keyName_of_mem_visitsSchema
    {field : KeyField}
    (present : field ∈ visitsSchema.keyFields) : field.keyName = "visits" := by
  rw [List.mem_singleton.mp present]

/-- Of two tags of a method the first is honoured and the second is dropped,
though it names no key. -/
theorem visits_tags_honoured :
    Honours visitsSchema putVisitsMethod [] "visits" ∧
      ¬Honours visitsSchema putVisitsMethod [] "absent" := by
  have wellFormed : ∀ mark ∈ putVisits.tagAttributes,
      ∃ result, Source.readFunctionMark mark = .ok result :=
    exists_yields_iff.mp
      ⟨_, List.forall₂_map_right_iff.mpr namesKey_tagAttributes_putVisits⟩
  obtain ⟨keys, method, -, made, rfl, honoured⟩ := tags_honoured_iff wellFormed
  obtain rfl : method = putVisitsMethod :=
    Except.ok.inj (made.symm.trans toMember_putVisits)
  have exact_on :=
    honoured visitsClass visitsSchema [] [] outcome_visitsClass rfl (by decide)
  constructor
  · exact (exact_on "visits" (by decide)).mpr (.inl (by decide))
  · intro honours
    obtain first | ⟨field, present, equal, -⟩ :=
      (exact_on "absent" (by decide)).mp honours
    · exact absurd first (by decide)
    · exact absurd ((keyName_of_mem_visitsSchema present).symm.trans equal)
        (by decide)

/-- A tag behind the first one may name a key that does not exist, and the class
is accepted all the same. -/
theorem not_forall_tags_honoured :
    ¬∀ (function : Source.Function) (keys : List String) (method : Member)
        (decl : ClassDeclaration) (schema : EntitySchema)
          (before after : List Member),
      List.Forall₂ Source.NamesKey function.tagAttributes keys →
      function.toMember true = .ok method →
      (build decl).outcome = .ok schema →
      decl.methods = before ++ method :: after →
      ∀ key ∈ keys, Honours schema method after key := by
  intro always
  obtain ⟨field, present, equal, -⟩ :=
    always putVisits _ putVisitsMethod visitsClass visitsSchema [] []
      namesKey_tagAttributes_putVisits toMember_putVisits outcome_visitsClass
        rfl "absent"
      (by decide)
  exact absurd ((keyName_of_mem_visitsSchema present).symm.trans equal)
    (by decide)

end EntitySchema
end PreferenceSchema
