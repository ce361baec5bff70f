import PreferenceSchema.KeyField
import PreferenceSchema.Proofs.BinaryFloats
import PreferenceSchema.Proofs.Traversal

/-!
# Key resolution

What a key field takes from the member that declares it, and that its default is
a finite value of its type.
-/

namespace PreferenceSchema

open Traversal

namespace Number
namespace BinaryFloat

variable {format : BinaryFormat}

/-- The exponent field in the bits of a value, between its sign and its
fraction. -/
def exponentField (x : BinaryFloat format) : Nat :=
  x.bits / format.leadingBit % Nat.pow 2 format.exponentBits

/-- The exponent field is not all ones, as it is for infinity and for what is no
number. -/
def IsFinite (x : BinaryFloat format) : Prop :=
  x.exponentField ≠ Nat.pow 2 format.exponentBits - 1

theorem magnitude_div_lt
    (x : BinaryFloat format) :
    x.magnitude / format.leadingBit < Nat.pow 2 format.exponentBits - 1 :=
  format.div_leadingBit_lt x.magnitude_lt

/-- The sign lies above the exponent field. -/
theorem exponentField_eq
    (x : BinaryFloat format) :
    x.exponentField = x.magnitude / format.leadingBit := by
  have below : x.magnitude / format.leadingBit <
      Nat.pow 2 format.exponentBits :=
    Nat.lt_of_lt_of_le x.magnitude_div_lt (Nat.sub_le _ _)
  have signSplit : Nat.pow 2 (format.exponentBits + format.fractionBits) =
      format.leadingBit * Nat.pow 2 format.exponentBits := by
    rw [Nat.mul_comm]
    exact Nat.pow_add 2 _ _
  rw [exponentField, bits, signSplit]
  cases x.negative with
  | true =>
      rw [if_pos rfl, Nat.mul_add_div format.leadingBit_pos, Nat.add_mod_left]
      exact Nat.mod_eq_of_lt below
  | false =>
      rw [if_neg (by decide), Nat.zero_add]
      exact Nat.mod_eq_of_lt below

theorem isFinite (x : BinaryFloat format) : x.IsFinite := by
  rw [IsFinite, exponentField_eq]
  exact Nat.ne_of_lt x.magnitude_div_lt

end BinaryFloat
end Number

/-- A floating value is finite; values of the other types always are. -/
def DefaultValue.IsFinite : DefaultValue → Prop
  | .float value => value.IsFinite
  | .double value => value.IsFinite
  | _ => True

theorem DefaultValue.isFinite (value : DefaultValue) : value.IsFinite := by
  cases value with
  | float value => exact value.isFinite
  | double value => exact value.isFinite
  | _ => trivial

namespace KeyField

/-- A default has the type of its field, declared or not. -/
theorem semanticType_of_defaultOf_eq_ok
    {className : String}
    {member : Member}
    {type : SemanticType}
    {key : String}
    {value : DefaultValue}
    (made : defaultOf className member type key = .ok value) :
    value.semanticType = type := by
  rw [defaultOf] at made
  split at made
  case h_1 =>
    obtain rfl := Except.ok.inj made
    exact DefaultValue.semanticType_zero type
  case h_2 raw _ =>
    split at made
    case h_1 read =>
      obtain rfl := Except.ok.inj made
      split at read
      case isTrue => exact DefaultValue.semanticType_of_read? read
      case isFalse => cases read
    case h_2 => cases made

/-- A member whose type is a semantic one becomes a key field with its
default. -/
theorem outcome_resolve_of_resolve?_eq_some
    {member : Member}
    {type : SemanticType}
    (typed : SemanticType.resolve? member.typeName = some type)
    (className : String) :
    (resolve className member).outcome =
      (defaultOf className member type (keyNameOf member)).map fun value =>
        ⟨member.name, keyNameOf member, type, value⟩ := by
  unfold resolve ofMember
  simp only [typed, Traced.outcome_bind, Traced.outcome_ofExcept,
    Traced.outcome_report, Traced.outcome_pure]
  cases defaultOf className member type (keyNameOf member) <;> rfl

/-- A key field has the type, the key and the default that its member
declares. -/
theorem resolve_eq_ok_iff
    {className : String}
    {member : Member}
    {field : KeyField} :
    (resolve className member).outcome = .ok field ↔
      SemanticType.resolve? member.typeName = some field.type ∧
        defaultOf className member field.type (keyNameOf member) =
          .ok field.default ∧
        field.keyName = keyNameOf member ∧ field.fieldName = member.name := by
  rw [resolve, Traced.outcome_bind, Traced.outcome_ofExcept, bind_eq_ok_iff]
  simp only [Traced.outcome_bind, Traced.outcome_report, Except.bind,
    Traced.outcome_pure, Except.ok.injEq, exists_eq_right]
  rw [ofMember]
  cases SemanticType.resolve? member.typeName with
  | none => simp
  | some type =>
      simp only [map_eq_ok_iff, Option.some.injEq]
      constructor
      · rintro ⟨value, made, rfl⟩
        exact ⟨rfl, made, rfl, rfl⟩
      · obtain ⟨fieldName, keyName, fieldType, default⟩ := field
        rintro ⟨rfl, made, rfl, rfl⟩
        exact ⟨default, made, rfl⟩

theorem resolve_eq_error_iff
    {className : String}
    {member : Member}
    {error : SchemaError} :
    (resolve className member).outcome = .error error ↔
      ofMember className member = .error error := by
  rw [resolve, Traced.outcome_bind, Traced.outcome_ofExcept, bind_eq_error_iff]
  simp only [Traced.outcome_bind, Traced.outcome_report, Except.bind,
    Traced.outcome_pure, reduceCtorEq, and_false, exists_false, or_false]

/-- A member is refused for its type, or else for its default. -/
theorem eq_of_resolve_eq_error
    {className : String}
    {member : Member}
    {error : SchemaError}
    (refused : (resolve className member).outcome = .error error) :
    SemanticType.resolve? member.typeName = none ∧
        error = .unsupportedType className member.name member.typeName ∨
      ∃ key type raw, error = .invalidDefault className key type raw := by
  rw [resolve_eq_error_iff, ofMember] at refused
  split at refused
  case h_1 unresolved =>
    exact .inl ⟨unresolved, (Except.error.inj refused).symm⟩
  case h_2 type _ =>
    rw [map_eq_error_iff, defaultOf] at refused
    split at refused
    · cases refused
    · split at refused
      · cases refused
      · exact .inr ⟨_, _, _, (Except.error.inj refused).symm⟩

/-- A member is refused for its type exactly when that is none of the semantic
types. -/
theorem resolve_eq_unsupportedType_iff
    {className : String}
    {member : Member} :
    (resolve className member).outcome =
        .error (.unsupportedType className member.name member.typeName) ↔
      SemanticType.resolve? member.typeName = none := by
  constructor
  · intro refused
    obtain ⟨unresolved, -⟩ | ⟨key, type, raw, other⟩ :=
      eq_of_resolve_eq_error refused
    · exact unresolved
    · cases other
  · intro unresolved
    rw [resolve_eq_error_iff, ofMember, unresolved]

/-- The default of a key field is a value of its type. -/
theorem semanticType_default_of_resolve_eq_ok
    {className : String}
    {member : Member}
    {field : KeyField}
    (resolved : (resolve className member).outcome = .ok field) :
    field.default.semanticType = field.type :=
  semanticType_of_defaultOf_eq_ok (resolve_eq_ok_iff.mp resolved).2.1

end KeyField
end PreferenceSchema
