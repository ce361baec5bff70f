import PreferenceSchema.Proofs.SchemaInvariant

/-!
# Methods added to a class

What one more method does to the construction of a class, wherever it stands
among the members.  A method that is no custom accessor and does not have the
name of a generated one does nothing: the class is accepted with the same
schema, or refused for the same fault.
-/

namespace PreferenceSchema
namespace EntitySchema

open Traversal Collection AccessorFunction

/-- A class that has a method between its members. -/
abbrev withMethod
    (decl : ClassDeclaration)
    (before : List Member)
    (method : Member)
    (after : List Member) : ClassDeclaration :=
  { decl with members := before ++ method :: after }

section

variable {decl : ClassDeclaration} {before after : List Member}
  {method : Member}
  (members : decl.members = before ++ after)

include members

theorem mem_members_withMethod
    {other : Member} :
    other ∈ (withMethod decl before method after).members ↔
      other = method ∨ other ∈ decl.members := by
  rw [members]
  simp only [List.mem_append, List.mem_cons]
  tauto

/-- A view of the members in which the method does not show is the same with it
and without it. -/
theorem filter_members_withMethod
    {view : Member → Bool}
    (hidden : view method = false) :
    (withMethod decl before method after).members.filter view =
      decl.members.filter view := by
  rw [members]
  simp [hidden]

theorem noReserved_withMethod
    {fields : List KeyField}
    (accepts : Accepts decl fields)
    (free : ¬Reserved fields method.name) :
    ∀ member ∈ (withMethod decl before method after).members,
      ¬Reserved fields member.name := by
  intro member present
  obtain rfl | inDecl := (mem_members_withMethod members).mp present
  · exact free
  · exact accepts.noReserved member inDecl

variable (notField : method.isField = false)

include notField

/-- One more method leaves the fields as they are. -/
theorem fields_withMethod :
    (withMethod decl before method after).fields = decl.fields :=
  filter_members_withMethod members notField

/-- Where the class is accepted with and without the method, it has the same
keys. -/
theorem keyFields_withMethod
    {schema extended : EntitySchema}
    (accepted : (build decl).outcome = .ok schema)
    (extendedAccepted : (build (withMethod decl before method after)).outcome =
      .ok extended) :
    extended.keyFields = schema.keyFields := by
  have resolved := (resolvesTo_of_build_eq_ok extendedAccepted).yields
  rw [fields_withMethod members notField] at resolved
  exact resolved.unique (resolvesTo_of_build_eq_ok accepted).yields

variable {fields : List KeyField} (accepts : Accepts decl fields)

include accepts

theorem resolvesTo_withMethod :
    ResolvesTo decl.name
      (withMethod decl before method after).fields fields := by
  rw [fields_withMethod members notField]
  exact accepts.resolvesTo

variable (free : ¬Reserved fields method.name)

include free

/-- An entity with one more method that fits a key is an entity. -/
theorem accepts_withMethod
    (fits : ∃ field ∈ fields, Fits method field) :
    Accepts (withMethod decl before method after) fields where
  hasName := accepts.hasName
  resolvesTo := resolvesTo_withMethod members notField accepts
  noReserved := noReserved_withMethod members accepts free
  accessorsFit := by
    intro other isMethod counts
    obtain ⟨present, otherNotField⟩ := List.mem_filter.mp isMethod
    obtain rfl | inDecl := (mem_members_withMethod members).mp present
    · exact fits
    · exact accepts.accessorsFit other
        (List.mem_filter.mpr ⟨inDecl, otherNotField⟩) counts

/-- An entity with one more custom accessor that misfits all keys is refused for
this one.  All accessors in front of it are accessors of the entity, so they
fit. -/
theorem build_withMethod_eq_error
    (counts : isCustom method = true)
    {error : SchemaError}
    (misfits : Misfits decl.name fields method error) :
    (build (withMethod decl before method after)).outcome = .error error := by
  have reaches :
      Reaches
        (fun earlier =>
          isCustom earlier = true → ∃ field ∈ fields, Fits earlier field)
        (withMethod decl before method after).methods method := by
    refine ⟨before.filter fun member => !member.isField,
      after.filter fun member => !member.isField, ?_,
      fun earlier present => accepts.accessorsFit earlier ?_⟩
    · simp [ClassDeclaration.methods, notField]
    · rw [ClassDeclaration.methods, members, List.filter_append]
      exact List.mem_append_left _ present
  exact build_eq_error_iff.mpr (.accessor accepts.hasName
    (resolvesTo_withMethod members notField accepts)
    (noReserved_withMethod members accepts free) reaches counts misfits)

end

/-! ## Methods that do not matter -/

/-- A method that is no custom accessor that counts, and that does not have the
name of a generated accessor of any key of the class. -/
structure Irrelevant
    (decl : ClassDeclaration)
    (method : Member) : Prop where
  isMethod : method.isField = false
  notCustom : method.annotationNamed? Naming.functionMark = none ∨
    method.isPublic = false
  notGenerated : ∀ fields, ResolvesTo decl.name decl.fields fields →
    ¬Reserved fields method.name

theorem Irrelevant.isCustom_eq_false
    {decl : ClassDeclaration}
    {method : Member}
    (irrelevant : Irrelevant decl method) : isCustom method = false := by
  rw [isCustom]
  cases irrelevant.notCustom with
  | inl unmarked => simp [unmarked]
  | inr hidden => simp [hidden]

/-- The keys of a class are those that its fields declare. -/
theorem not_reserved_of_forall_keyNameOf
    {decl : ClassDeclaration}
    {name : String}
    (otherNames : ∀ field ∈ decl.fields, ∀ start ∈ reservedStarts,
      name ≠ start ++ KeyField.keyNameOf field)
    {fields : List KeyField}
    (resolved : ResolvesTo decl.name decl.fields fields) :
    ¬Reserved fields name := by
  rintro ⟨start, isStart, keyField, present, equal⟩
  obtain ⟨field, isField, sameKey⟩ := exists_keyNameOf_eq resolved present
  apply otherNames field isField start isStart
  rw [equal, sameKey]

/-- The check of names looks at no member but those with reserved names. -/
theorem checkReserved_filter
    (className : String)
    (keys : KeyTable)
    (members : List Member) :
    checkReserved className keys
        (members.filter fun member => (reservedKey? keys member.name).isSome) =
      checkReserved className keys members := by
  induction members with
  | nil => rfl
  | cons first rest inductionHypothesis =>
      rw [checkReserved]
      cases found : reservedKey? keys first.name with
      | none => simp [found, inductionHypothesis]
      | some key => simp [found, checkReserved]

section

variable {decl : ClassDeclaration} {before after : List Member}
  {method : Member}
  (members : decl.members = before ++ after)

include members

/-- A method with a free name does not change what the check of reserved names
says. -/
theorem checkReserved_withMethod
    {className : String}
    {keys : KeyTable}
    (free : reservedKey? keys method.name = none) :
    checkReserved className keys (withMethod decl before method after).members =
      checkReserved className keys decl.members := by
  rw [← checkReserved_filter,
    filter_members_withMethod members (by simp [free]), checkReserved_filter]

/-- A method that is no custom accessor leaves the custom accessors as they
are. -/
theorem filter_isCustom_withMethod
    (notCustom : isCustom method = false) :
    (withMethod decl before method after).methods.filter isCustom =
      decl.methods.filter isCustom := by
  rw [ClassDeclaration.methods, List.filter_filter,
    filter_members_withMethod members (by simp [notCustom]),
    ClassDeclaration.methods, List.filter_filter]

/-- One more method that does not matter leaves the result of the construction
as it is, be it a schema or a fault. -/
theorem outcome_build_withMethod_of_irrelevant
    (irrelevant : Irrelevant decl method) :
    (build (withMethod decl before method after)).outcome =
      (build decl).outcome := by
  rw [outcome_build, outcome_build,
    fields_withMethod members irrelevant.isMethod,
    filter_isCustom_withMethod members irrelevant.isCustom_eq_false]
  change (storageNameOf decl).bind _ = (storageNameOf decl).bind _
  congr 1
  funext storage
  cases collected : collectKeys decl.name decl.fields with
  | error error => rfl
  | ok fields =>
      have resolved := collect_nil_eq_ok_iff.mp collected
      have free : reservedKey? (KeyTable.ofFields fields) method.name = none :=
        (reservedKey?_eq_none_iff resolved.distinct).mpr
          (irrelevant.notGenerated fields resolved)
      dsimp only [Except.bind]
      rw [checkReserved_withMethod members free]

end

/-- A marked method that is not public, for a key and of types that no class
has. -/
def hiddenGetter : Member :=
  ((Member.method "getAway" "Thread").withModifier .static).annotated
    ⟨Naming.functionMark, [("keyname", "nowhere")]⟩

/-- A marked method that is not public changes neither an accepted class nor the
error of a refused one. -/
theorem hiddenGetter_leaves_outcome :
    Irrelevant account hiddenGetter ∧
      (build (withMethod account (account.members.take 2) hiddenGetter
        (account.members.drop 2))).outcome = .ok accountSchema ∧
      Irrelevant twins hiddenGetter ∧
      (build (withMethod twins (twins.members.take 1) hiddenGetter
        (twins.members.drop 1))).outcome =
          .error (.duplicateKey "Twins" "name" "name" .string) := by
  have inAccount : Irrelevant account hiddenGetter :=
    ⟨rfl, .inr rfl,
      fun _ => not_reserved_of_forall_keyNameOf (by decide +kernel)⟩
  have inTwins : Irrelevant twins hiddenGetter :=
    ⟨rfl, .inr rfl,
      fun _ => not_reserved_of_forall_keyNameOf (by decide +kernel)⟩
  refine ⟨inAccount, ?_, inTwins, ?_⟩
  · rw [outcome_build_withMethod_of_irrelevant
      (List.take_append_drop 2 _).symm inAccount]
    decide +kernel
  · rw [outcome_build_withMethod_of_irrelevant
      (List.take_append_drop 1 _).symm inTwins]
    decide +kernel

end EntitySchema
end PreferenceSchema
