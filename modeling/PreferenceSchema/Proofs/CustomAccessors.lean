import PreferenceSchema.AccessorFunction
import PreferenceSchema.Proofs.KeyTable

/-!
# Custom accessors

Which methods are accepted as custom accessors of which field, with what error
the others are refused, and what the accepted ones leave: of several accessors
with one key and one role the last is kept.
-/

namespace PreferenceSchema

open Traversal Collection

/-- The start of the name of a custom accessor. -/
def AccessorRole.start : AccessorRole → String
  | .getter => "get"
  | .setter => "put"

/-- No name starts as a setter and as a getter. -/
theorem AccessorRole.start_append_inj
    {left right : AccessorRole}
    {leftRest rightRest : String}
    (equal : left.start ++ leftRest = right.start ++ rightRest) :
    left = right := by
  have sameChars := congrArg String.toList equal
  rw [String.toList_append, String.toList_append] at sameChars
  cases left <;> cases right <;> simp [AccessorRole.start] at sameChars ⊢

/-- The role of a method is that whose start its name has. -/
theorem AccessorRole.ofName?_eq_some_iff
    {name : String}
    {role : AccessorRole} :
    ofName? name = some role ↔ ∃ rest, name = role.start ++ rest := by
  have startsWith (role : AccessorRole) :
      role.start.toList.isPrefixOf name.toList = true ↔
        ∃ rest, name = role.start ++ rest := by
    rw [List.isPrefixOf_iff_prefix]
    constructor
    · rintro ⟨rest, equal⟩
      refine ⟨String.ofList rest, ?_⟩
      rw [← String.toList_inj, String.toList_append, String.toList_ofList,
        equal]
    · rintro ⟨rest, rfl⟩
      exact ⟨rest.toList, (String.toList_append).symm⟩
  have decided {first : AccessorRole}
      (isFirst : ∃ rest, name = first.start ++ rest) :
      some first = some role ↔ ∃ rest, name = role.start ++ rest := by
    obtain ⟨firstRest, rfl⟩ := isFirst
    rw [Option.some.injEq]
    constructor
    · rintro rfl
      exact ⟨firstRest, rfl⟩
    · rintro ⟨rest, equal⟩
      exact start_append_inj equal
  rw [ofName?]
  split
  case isTrue isSetter => exact decided ((startsWith .setter).mp isSetter)
  case isFalse notSetter =>
    split
    case isTrue isGetter => exact decided ((startsWith .getter).mp isGetter)
    case isFalse notGetter =>
      rw [← startsWith]
      cases role with
      | setter => exact ⟨nofun, fun isSetter => absurd isSetter notSetter⟩
      | getter => exact ⟨nofun, fun isGetter => absurd isGetter notGetter⟩

namespace AccessorFunction

/-- What is wrong with a method as the accessor of a key of some type.  The
faults are sought in this order, and only the first is reported. -/
inductive Violates
    (member : Member)
    (type : SemanticType) : SignatureFault → Prop
  | parameterCount :
      member.parameters.length ≠ 1 →
      Violates member type (.parameterCount member.parameters.length)
  | parameterType (parameter : Parameter) :
      member.parameters = [parameter] →
      SemanticType.resolve? parameter.typeName ≠ some type →
      Violates member type (.parameterType parameter.name type)
  | returnType (parameter : Parameter) :
      member.parameters = [parameter] →
      SemanticType.resolve? parameter.typeName = some type →
      SemanticType.resolve? member.typeName ≠ some type →
      Violates member type (.returnType type)
  | name (parameter : Parameter) :
      member.parameters = [parameter] →
      SemanticType.resolve? parameter.typeName = some type →
      SemanticType.resolve? member.typeName = some type →
      (∀ (role : AccessorRole) (rest : String),
        member.name ≠ role.start ++ rest) →
      Violates member type .name

/-- A method has the key and the signature of an accessor of a field. -/
structure Fits
    (member : Member)
    (field : KeyField) : Prop where
  key_eq : keyOf member = field.keyName
  parameter : ∃ parameter, member.parameters = [parameter] ∧
    SemanticType.resolve? parameter.typeName = some field.type
  returnType : SemanticType.resolve? member.typeName = some field.type
  name : ∃ (role : AccessorRole) (rest : String), member.name =
    role.start ++ rest

/-- Why a method is no accessor of any field: nobody has its key, or its
signature is wrong for the field that does. -/
inductive Misfits
    (className : String)
    (fields : List KeyField)
    (member : Member) : SchemaError → Prop
  | unknownKey :
      (∀ field ∈ fields, field.keyName ≠ keyOf member) →
      Misfits className fields member
        (.unknownKey className member.name (keyOf member))
  | signature {field : KeyField} {fault : SignatureFault} :
      field ∈ fields →
      field.keyName = keyOf member →
      Violates member field.type fault →
      Misfits className fields member
        (.invalidSignature className member.name fault)

/-- A method fits a type exactly if it has one parameter, the parameter and the
result have the type, and its name has the start of a role. -/
theorem ofSignature_eq_ok_iff
    {member : Member}
    {type : SemanticType}
    {role : AccessorRole}
    {function : AccessorFunction} :
    ofSignature member type = .ok (role, function) ↔
      ∃ parameter, member.parameters = [parameter] ∧
        SemanticType.resolve? parameter.typeName = some type ∧
        SemanticType.resolve? member.typeName = some type ∧
        (∃ rest, member.name = role.start ++ rest) ∧
        function = ⟨member.name, parameter.name, type⟩ := by
  rw [ofSignature]
  split
  case h_1 parameter single =>
    rw [single]
    split
    case isTrue wrong => simp [wrong]
    case isFalse parameterType =>
      have parameterType := not_not.mp parameterType
      split
      case isTrue wrong => simp [wrong]
      case isFalse returnType =>
        have returnType := not_not.mp returnType
        rw [← AccessorRole.ofName?_eq_some_iff]
        cases AccessorRole.ofName? member.name with
        | none => simp
        | some found => simp [parameterType, returnType, eq_comm]
  case h_2 parameters notSingle =>
    simp only [reduceCtorEq, false_iff, not_exists, not_and]
    intro parameter single
    exact absurd single (notSingle parameter)

theorem ofSignature_eq_error_iff
    {member : Member}
    {type : SemanticType}
    {fault : SignatureFault} :
    ofSignature member type = .error fault ↔ Violates member type fault := by
  constructor
  · intro refused
    rw [ofSignature] at refused
    split at refused
    case h_1 parameter single =>
      split at refused
      case isTrue wrong =>
        obtain rfl := Except.error.inj refused
        exact .parameterType parameter single wrong
      case isFalse parameterType =>
        have parameterType := not_not.mp parameterType
        split at refused
        case isTrue wrong =>
          obtain rfl := Except.error.inj refused
          exact .returnType parameter single parameterType wrong
        case isFalse returnType =>
          have returnType := not_not.mp returnType
          split at refused
          case h_1 => cases refused
          case h_2 noRole =>
            obtain rfl := Except.error.inj refused
            refine .name parameter single parameterType returnType ?_
            intro role rest equal
            have found := AccessorRole.ofName?_eq_some_iff.mpr ⟨rest, equal⟩
            rw [noRole] at found
            cases found
    case h_2 notSingle =>
      obtain rfl := Except.error.inj refused
      refine .parameterCount ?_
      intro one
      obtain ⟨parameter, single⟩ := List.length_eq_one_iff.mp one
      exact notSingle parameter single
  · intro violates
    cases violates with
    | parameterCount count =>
        rw [ofSignature]
        split
        case h_1 parameter single => simp [single] at count
        case h_2 => rfl
    | parameterType parameter single wrong => simp [ofSignature, single, wrong]
    | returnType parameter single parameterType wrong =>
        simp [ofSignature, single, parameterType, wrong]
    | name parameter single parameterType returnType noStart =>
        have noRole : AccessorRole.ofName? member.name = none := by
          rw [Option.eq_none_iff_forall_ne_some]
          intro role found
          obtain ⟨rest, equal⟩ := AccessorRole.ofName?_eq_some_iff.mp found
          exact noStart role rest equal
        simp [ofSignature, single, parameterType, returnType, noRole]

/-- A resolved accessor belongs to the field of its key and has the signature
for it. -/
theorem resolve_eq_ok_iff
    {className : String}
    {fields : List KeyField}
    {member : Member}
    {key : String}
    {role : AccessorRole}
    {function : AccessorFunction}
    (distinct : (fields.map KeyField.keyName).Nodup) :
    resolve className (KeyTable.ofFields fields) member =
      .ok (key, role, function) ↔
      key = keyOf member ∧ ∃ field ∈ fields, field.keyName = keyOf member ∧
        ofSignature member field.type = .ok (role, function) := by
  rw [resolve]
  cases found : (KeyTable.ofFields fields).find? (keyOf member) with
  | none =>
      have unknown := (KeyTable.find?_ofFields_eq_none_iff distinct).mp found
      simp only [reduceCtorEq, false_iff, not_and, not_exists]
      intro _ field present sameKey
      exact absurd sameKey (unknown field present)
  | some field =>
      obtain ⟨present, fieldKey⟩ :=
        (KeyTable.find?_ofFields_eq_some_iff distinct).mp found
      dsimp only
      constructor
      · intro resolved
        cases signed : ofSignature member field.type with
        | error fault =>
            rw [signed] at resolved
            cases resolved
        | ok signature =>
            rw [signed] at resolved
            cases resolved
            exact ⟨fieldKey, field, present, fieldKey, signed⟩
      · rintro ⟨rfl, other, otherPresent, otherKey, signed⟩
        have same : field = other :=
          List.inj_on_of_nodup_map distinct present otherPresent
            (fieldKey.trans otherKey.symm)
        rw [same, signed]
        exact congrArg (fun key => Except.ok (key, role, function)) otherKey

/-- A custom accessor is refused exactly if it misfits the keys, with the error
that tells how. -/
theorem resolve_eq_error_iff
    {className : String}
    {fields : List KeyField}
    {member : Member}
    {error : SchemaError}
    (distinct : (fields.map KeyField.keyName).Nodup) :
    resolve className (KeyTable.ofFields fields) member = .error error ↔
      Misfits className fields member error := by
  rw [resolve]
  cases found : (KeyTable.ofFields fields).find? (keyOf member) with
  | none =>
      have unknown := (KeyTable.find?_ofFields_eq_none_iff distinct).mp found
      constructor
      · intro refused
        obtain rfl := Except.error.inj refused
        exact .unknownKey unknown
      · intro misfits
        cases misfits with
        | unknownKey => rfl
        | signature present fieldKey =>
          exact absurd fieldKey (unknown _ present)
  | some field =>
      obtain ⟨present, fieldKey⟩ :=
        (KeyTable.find?_ofFields_eq_some_iff distinct).mp found
      dsimp only
      constructor
      · intro refused
        cases signed : ofSignature member field.type with
        | error fault =>
            rw [signed] at refused
            obtain rfl := Except.error.inj refused
            exact .signature present fieldKey
              (ofSignature_eq_error_iff.mp signed)
        | ok signature =>
            rw [signed] at refused
            cases refused
      · intro misfits
        cases misfits with
        | unknownKey unknown => exact absurd fieldKey (unknown field present)
        | signature otherPresent otherKey violates =>
            have same := List.inj_on_of_nodup_map distinct present otherPresent
              (fieldKey.trans otherKey.symm)
            rw [same, ofSignature_eq_error_iff.mpr violates]

/-- A method is accepted exactly when it fits some field. -/
theorem exists_resolve_eq_ok_iff
    {className : String}
    {fields : List KeyField}
    {member : Member}
    (distinct : (fields.map KeyField.keyName).Nodup) :
    (∃ entry, resolve className (KeyTable.ofFields fields) member = .ok entry) ↔
      ∃ field ∈ fields, Fits member field := by
  constructor
  · rintro ⟨⟨key, role, function⟩, resolved⟩
    obtain ⟨-, field, present, fieldKey, signed⟩ :=
      (resolve_eq_ok_iff distinct).mp resolved
    obtain ⟨parameter, single, parameterType, returnType, ⟨rest, equal⟩, -⟩ :=
      ofSignature_eq_ok_iff.mp signed
    exact ⟨field, present, fieldKey.symm, ⟨parameter, single, parameterType⟩,
      returnType, role, rest, equal⟩
  · rintro ⟨field, present, fits⟩
    obtain ⟨parameter, single, parameterType⟩ := fits.parameter
    obtain ⟨role, rest, equal⟩ := fits.name
    have signed : ofSignature member field.type =
        .ok (role, ⟨member.name, parameter.name, field.type⟩) :=
      ofSignature_eq_ok_iff.mpr
        ⟨parameter, single, parameterType, fits.returnType, ⟨rest, equal⟩, rfl⟩
    exact ⟨_, (resolve_eq_ok_iff distinct).mpr
      ⟨rfl, field, present, fits.key_eq.symm, signed⟩⟩

/-- Whether a method is a custom accessor that counts: it is marked and
public. -/
def isCustom (member : Member) : Bool :=
  (member.annotationNamed? Naming.functionMark).isSome && member.isPublic

end AccessorFunction

namespace Overrides

open AccessorFunction

/-- A custom accessor with its key and role. -/
abbrev Entry := String × AccessorRole × AccessorFunction

/-- The overrides after one more entry. -/
def insertEntry
    (overrides : Overrides)
    (entry : Entry) : Overrides :=
  overrides.insert entry.1 entry.2.1 entry.2.2

/-- The overrides that a list of entries leaves. -/
def ofEntries (entries : List Entry) : Overrides :=
  entries.foldl insertEntry empty

/-- A new accessor is found under its key and role; all others are found as
before. -/
theorem get?_insertEntry
    (overrides : Overrides)
    (entry : Entry)
    (role : AccessorRole)
    (key : String) :
    ((overrides.insertEntry entry).ofRole role).get? key =
      if entry.1 = key ∧ entry.2.1 = role then some entry.2.2
      else (overrides.ofRole role).get? key := by
  obtain ⟨entryKey, entryRole, function⟩ := entry
  cases entryRole <;> cases role <;>
    simp [insertEntry, insert, ofRole, NameMap.get?_insert, eq_comm]

/-- The last entry of a key and a role is the one that is kept. -/
theorem get?_ofEntries
    (entries : List Entry)
    (role : AccessorRole)
    (key : String) :
    ((ofEntries entries).ofRole role).get? key =
      (entries.reverse.find? fun entry =>
        entry.1 == key && entry.2.1 == role).map (·.2.2) := by
  induction entries using List.reverseRecOn with
  | nil => cases role <;> rfl
  | append_singleton earlier last inductionHypothesis =>
      rw [ofEntries, List.foldl_append]
      change (((ofEntries earlier).insertEntry last).ofRole role).get? key = _
      rw [get?_insertEntry, List.reverse_append, List.reverse_singleton,
        List.singleton_append, List.find?_cons, inductionHypothesis]
      by_cases matching : last.1 = key ∧ last.2.1 = role
      · simp [matching]
      · rw [if_neg matching]
        have mismatch : (last.1 == key && last.2.1 == role) = false := by
          simpa using matching
        rw [mismatch]

/-- What is kept was entered. -/
theorem mem_of_get?_ofEntries
    {entries : List Entry}
    {role : AccessorRole}
    {key : String}
    {function : AccessorFunction}
    (kept : ((ofEntries entries).ofRole role).get? key = some function) :
    (key, role, function) ∈ entries := by
  rw [get?_ofEntries, Option.map_eq_some_iff] at kept
  obtain ⟨⟨entryKey, entryRole, entryFunction⟩, found, rfl⟩ := kept
  have present := List.mem_of_find?_eq_some found
  have matching := List.find?_some found
  simp only [Bool.and_eq_true, beq_iff_eq] at matching
  obtain ⟨rfl, rfl⟩ := matching
  exact List.mem_reverse.mp present

/-- A member adds an accessor if it is a custom one, and nothing otherwise.
Whether an earlier accessor is replaced shows in the events only. -/
theorem outcome_addMember
    (className : String)
    (keys : KeyTable)
    (overrides : Overrides)
    (member : Member) :
    (addMember className keys overrides member).outcome =
      if isCustom member then
        (resolve className keys member).map overrides.insertEntry
      else .ok overrides := by
  rw [addMember, isCustom, ← Option.not_isNone]
  cases (member.annotationNamed? Naming.functionMark).isNone with
  | true => rfl
  | false =>
      cases member.isPublic with
      | false => rfl
      | true =>
          simp only [Bool.false_eq_true, if_false, Bool.not_true,
            Bool.not_false, Bool.true_and, if_true]
          cases resolve className keys member with
          | error error => rfl
          | ok entry =>
              obtain ⟨key, role, function⟩ := entry
              rw [Traced.outcome_bind, Traced.outcome_ofExcept]
              dsimp only [Except.bind]
              cases (overrides.ofRole role).get? key <;> rfl

/-- Taking methods into account resolves those that count, in order, and keeps
the entries. -/
theorem outcome_addMembers
    (className : String)
    (keys : KeyTable)
    (overrides : Overrides)
    (members : List Member) :
    (addMembers className keys overrides members).outcome =
      ((members.filter isCustom).mapM (resolve className keys)).map
        fun entries => entries.foldl insertEntry overrides := by
  induction members generalizing overrides with
  | nil => rfl
  | cons first rest inductionHypothesis =>
      rw [addMembers, Traced.outcome_bind, outcome_addMember, List.filter_cons]
      split
      case isFalse => exact inductionHypothesis overrides
      case isTrue =>
        rw [mapM_cons]
        cases resolve className keys first with
        | error error => rfl
        | ok entry =>
            change (addMembers className keys (overrides.insertEntry entry)
              rest).outcome = _
            rw [inductionHypothesis]
            cases (rest.filter isCustom).mapM (resolve className keys) <;> rfl

end Overrides
end PreferenceSchema
