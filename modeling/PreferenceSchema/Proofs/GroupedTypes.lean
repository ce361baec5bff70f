import Mathlib.Logic.Relation
import PreferenceSchema.Proofs.TypeDescriptors

/-!
# Grouping in types

Parentheses and invisible groups may stand around a type, between its references
and around what is inside of these.  They make no difference to the descriptor
of a type, nor to its semantic type, with one exception: a bare `str` is
borrowed text only directly behind a reference, so grouping that comes between
the two takes the semantic type away.
-/

namespace PreferenceSchema
namespace Source
namespace Ty

/-! ## Regrouping -/

/-- One more pair of parentheses, or one more invisible group, around a type,
behind one of its references or around what is inside of these. -/
inductive AddsGrouping : Ty → Ty → Prop
  | paren {type : Ty} : AddsGrouping type (.paren type)
  | group {type : Ty} : AddsGrouping type (.group type)
  | behindReference {lifetime : Option String} {isMutable : Bool}
      {type grouped : Ty} :
      AddsGrouping type grouped →
      AddsGrouping (.reference lifetime isMutable type)
        (.reference lifetime isMutable grouped)
  | insideParen {type grouped : Ty} :
      AddsGrouping type grouped →
      AddsGrouping (.paren type) (.paren grouped)
  | insideGroup {type grouped : Ty} :
      AddsGrouping type grouped →
      AddsGrouping (.group type) (.group grouped)

/-- Any number of parentheses and groups is added or removed. -/
abbrev Regroups : Ty → Ty → Prop :=
  Relation.EqvGen AddsGrouping

/-- Whether there is a reference under the parentheses and groups around a
type. -/
def isReference : Ty → Bool
  | .reference _ _ _ => true
  | .paren inner => isReference inner
  | .group inner => isReference inner
  | _ => false

/-- A type without the parentheses and groups around it, behind its references
and around what is inside of these. -/
def ungrouped : Ty → Ty
  | .reference lifetime isMutable target =>
    .reference lifetime isMutable (ungrouped target)
  | .paren inner => ungrouped inner
  | .group inner => ungrouped inner
  | type => type

/-- A type with one more pair of parentheses around what is inside of everything
else. -/
def withInnerParen : Ty → Ty
  | .reference lifetime isMutable target =>
    .reference lifetime isMutable (withInnerParen target)
  | .paren inner => .paren (withInnerParen inner)
  | .group inner => .group (withInnerParen inner)
  | type => .paren type

namespace Regroups

variable {first second type : Ty}

/-- What one pair of parentheses or one group leaves alone, regrouping leaves
alone. -/
theorem observe_eq
    {α : Type}
    {observe : Ty → α}
    (same : ∀ {type grouped : Ty}, AddsGrouping type grouped →
      observe type = observe grouped)
    (regroups : first.Regroups second) : observe first = observe second := by
  induction regroups with
  | rel _ _ adds => exact same adds
  | refl _ => rfl
  | symm _ _ _ inductionHypothesis => exact inductionHypothesis.symm
  | trans _ _ _ _ _ before behind => exact before.trans behind

/-- Where one pair of parentheses or one group can be added, a type can be
regrouped. -/
theorem map
    {context : Ty → Ty}
    (lift : ∀ {type grouped : Ty},
      AddsGrouping type grouped → AddsGrouping (context type) (context grouped))
    (regroups : first.Regroups second) :
    (context first).Regroups (context second) := by
  induction regroups with
  | rel _ _ adds => exact .rel _ _ (lift adds)
  | refl _ => exact .refl _
  | symm _ _ _ inductionHypothesis => exact .symm _ _ inductionHypothesis
  | trans _ _ _ _ _ before behind => exact .trans _ _ _ before behind

theorem core_eq
    (regroups : first.Regroups second) :
    first.core = second.core := by
  refine observe_eq (fun adds => ?_) regroups
  induction adds with
  | paren => rfl
  | group => rfl
  | behindReference _ inductionHypothesis => exact inductionHypothesis
  | insideParen _ inductionHypothesis => exact inductionHypothesis
  | insideGroup _ inductionHypothesis => exact inductionHypothesis

theorem isReference_eq
    (regroups : first.Regroups second) :
    first.isReference = second.isReference := by
  refine observe_eq (fun adds => ?_) regroups
  induction adds with
  | paren => rfl
  | group => rfl
  | behindReference _ _ => rfl
  | insideParen _ inductionHypothesis => exact inductionHypothesis
  | insideGroup _ inductionHypothesis => exact inductionHypothesis

end Regroups

/-- Grouping can be removed from everywhere. -/
theorem regroups_ungrouped (type : Ty) : type.Regroups type.ungrouped := by
  fun_induction ungrouped type with
  | case1 _ _ _ inductionHypothesis =>
    exact inductionHypothesis.map .behindReference
  | case2 inner inductionHypothesis =>
      exact .trans _ inner _ (.symm _ _ (.rel _ _ .paren)) inductionHypothesis
  | case3 inner inductionHypothesis =>
      exact .trans _ inner _ (.symm _ _ (.rel _ _ .group)) inductionHypothesis
  | case4 => exact .refl _

theorem regroups_withInnerParen
    (type : Ty) :
    type.Regroups type.withInnerParen := by
  fun_induction withInnerParen type with
  | case1 _ _ _ inductionHypothesis =>
    exact inductionHypothesis.map .behindReference
  | case2 _ inductionHypothesis => exact inductionHypothesis.map .insideParen
  | case3 _ inductionHypothesis => exact inductionHypothesis.map .insideGroup
  | case4 => exact .rel _ _ .paren

/-! ## Borrowed text -/

/-- Borrowed text has a reference around a bare `str`. -/
theorem isReference_of_isBorrowedStr
    {type : Ty}
    (borrowed : type.isBorrowedStr = true) : type.isReference = true := by
  fun_induction isBorrowedStr type with
  | case1 => rfl
  | case2 _ inductionHypothesis => exact inductionHypothesis borrowed
  | case3 _ inductionHypothesis => exact inductionHypothesis borrowed
  | case4 => cases borrowed

theorem ungrouped_eq_core
    {type : Ty}
    (noReference : type.isReference = false) : type.ungrouped = type.core := by
  fun_induction ungrouped type with
  | case1 => cases noReference
  | case2 _ inductionHypothesis => exact inductionHypothesis noReference
  | case3 _ inductionHypothesis => exact inductionHypothesis noReference
  | case4 type notReference notParen notGroup => rw [core] <;> assumption

/-- Without grouping, a reference around a bare `str` is borrowed text. -/
theorem isBorrowedStr_ungrouped
    {type : Ty}
    (isStr : type.core.isStr = true)
    (reference : type.isReference = true) :
    type.ungrouped.isBorrowedStr = true := by
  fun_induction ungrouped type with
  | case1 _ _ target inductionHypothesis =>
      rw [isBorrowedStr, Bool.or_eq_true]
      cases inner : target.isReference with
      | true => exact .inr (inductionHypothesis isStr inner)
      | false =>
          rw [ungrouped_eq_core inner]
          exact .inl isStr
  | case2 _ inductionHypothesis => exact inductionHypothesis isStr reference
  | case3 _ inductionHypothesis => exact inductionHypothesis isStr reference
  | case4 type notReference notParen notGroup =>
      have noReference : type.isReference = false := by
        rw [isReference] <;> assumption
      rw [noReference] at reference
      cases reference

/-- With parentheses around what is inside, no type is borrowed text. -/
theorem isBorrowedStr_withInnerParen
    (type : Ty) :
    type.withInnerParen.isBorrowedStr = false := by
  fun_induction withInnerParen type with
  | case1 _ _ target inductionHypothesis =>
      have notStr : target.withInnerParen.isStr = false := by
        cases target <;> rfl
      rw [isBorrowedStr, notStr, inductionHypothesis, Bool.or_false]
  | case2 _ inductionHypothesis => exact inductionHypothesis
  | case3 _ inductionHypothesis => exact inductionHypothesis
  | case4 type notReference notParen notGroup =>
      rw [isBorrowedStr, isBorrowedStr] <;> assumption

/-! ## Descriptors -/

/-- Of what tells borrowed text from a bare `str`, the descriptors of types with
the same inside have the same only if both types are borrowed text or neither
is. -/
theorem observe_descriptor_eq_iff
    {α : Type}
    (observe : String → α)
    (apart : observe "&str" ≠ observe "str")
    {first second : Ty}
    (sameCore : first.core = second.core) :
    observe first.descriptor = observe second.descriptor ↔
      first.isBorrowedStr = second.isBorrowedStr := by
  have bare {type : Ty} (borrowed : type.isBorrowedStr = true) :
      String.ofList type.core.text = "str" := by
    rw [core_eq_of_isBorrowedStr borrowed]
    decide
  rw [descriptor_eq, descriptor_eq]
  cases firstBorrowed : first.isBorrowedStr with
  | true =>
      cases secondBorrowed : second.isBorrowedStr with
      | true => simp
      | false => simp [← sameCore, bare firstBorrowed, apart]
  | false =>
      cases secondBorrowed : second.isBorrowedStr with
      | true => simp [sameCore, bare secondBorrowed, apart.symm]
      | false => simp [sameCore]

/-- Types that differ in grouping only have the same descriptor, and the same
semantic type, exactly if a bare `str` inside of them stands directly behind a
reference in both or in neither.  So grouping makes no difference to a type
exactly if that is no reference to `str`. -/
theorem regrouping_exact
    (type : Ty) :
    (∀ other, type.Regroups other →
        (other.descriptor = type.descriptor ↔
          other.isBorrowedStr = type.isBorrowedStr) ∧
          (SemanticType.resolve? other.descriptor =
            SemanticType.resolve? type.descriptor ↔
            other.isBorrowedStr = type.isBorrowedStr)) ∧
      ((∀ other, type.Regroups other → other.descriptor = type.descriptor) ↔
        ¬(type.core.isStr = true ∧ type.isReference = true)) := by
  have sameDescriptor {other : Ty} (regroups : type.Regroups other) :
      other.descriptor = type.descriptor ↔
        other.isBorrowedStr = type.isBorrowedStr :=
    observe_descriptor_eq_iff id (by decide) regroups.core_eq.symm
  refine ⟨fun other regroups => ⟨sameDescriptor regroups, ?_⟩, ?_, ?_⟩
  · exact observe_descriptor_eq_iff SemanticType.resolve?
      (by decide) regroups.core_eq.symm
  · rintro same ⟨isStr, reference⟩
    have direct :=
      (sameDescriptor type.regroups_ungrouped).mp
        (same _ type.regroups_ungrouped)
    have parted :=
      (sameDescriptor type.regroups_withInnerParen).mp
        (same _ type.regroups_withInnerParen)
    rw [isBorrowedStr_ungrouped isStr reference] at direct
    rw [isBorrowedStr_withInnerParen, ← direct] at parted
    cases parted
  · intro noTextReference other regroups
    have notBorrowed {borrower : Ty} (sameInside : type.Regroups borrower) :
        borrower.isBorrowedStr = false := by
      rw [← Bool.not_eq_true]
      intro borrowed
      apply noTextReference
      rw [sameInside.core_eq, sameInside.isReference_eq,
        core_eq_of_isBorrowedStr borrowed]
      exact ⟨rfl, isReference_of_isBorrowedStr borrowed⟩
    rw [sameDescriptor regroups, notBorrowed regroups, notBorrowed (.refl type)]

/-- A bare `str`. -/
def bareStr : Ty :=
  .path none ⟨false, [⟨"str", .none⟩]⟩

/-- A static reference to a bare `str`. -/
def staticStr : Ty :=
  .reference (some "static") false bareStr

/-- A static reference to a bare `str` in parentheses. -/
def staticParenStr : Ty :=
  .reference (some "static") false (.paren bareStr)

theorem staticStr_regrouping :
    staticStr.Regroups staticParenStr ∧
      (staticParenStr.descriptor = staticStr.descriptor ↔
        staticParenStr.isBorrowedStr = staticStr.isBorrowedStr) ∧
      (SemanticType.resolve? staticParenStr.descriptor =
          SemanticType.resolve? staticStr.descriptor ↔
        staticParenStr.isBorrowedStr = staticStr.isBorrowedStr) ∧
      ((∀ other, staticStr.Regroups other →
        other.descriptor = staticStr.descriptor) ↔
        ¬(staticStr.core.isStr = true ∧ staticStr.isReference = true)) := by
  have regroups : staticStr.Regroups staticParenStr :=
    .rel _ _ (.behindReference .paren)
  obtain ⟨sameDescriptor, sameResolution⟩ :=
    (regrouping_exact staticStr).1 _ regroups
  exact ⟨regroups, sameDescriptor, sameResolution,
    (regrouping_exact staticStr).2⟩

/-- Parentheses between a reference and a bare `str` take the semantic type of
borrowed text away. -/
theorem not_forall_regrouped :
    ¬∀ first second : Ty, first.Regroups second →
      first.descriptor = second.descriptor ∧
        ((SemanticType.resolve? first.descriptor).isSome ↔
          (SemanticType.resolve? second.descriptor).isSome) := by
  intro allSame
  have same :=
    (allSame staticStr staticParenStr (.rel _ _ (.behindReference .paren))).1
  exact absurd same (by decide)

end Ty
end Source
end PreferenceSchema
