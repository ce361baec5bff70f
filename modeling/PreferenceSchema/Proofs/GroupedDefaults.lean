import PreferenceSchema.Source.Options

/-!
# Grouping in defaults

Parentheses and invisible groups around the literal of a default, or around its
minus sign, make no difference.  Between the minus sign and a number they do:
such a default is refused, although it is the number that the same expression
without grouping is.
-/

namespace PreferenceSchema
namespace Source

/-- Whether a literal is that of a number. -/
def Literal.isNumber : Literal → Bool
  | .integer _ => true
  | .float _ => true
  | _ => false

theorem Literal.isSome_negatedText?
    (value : Literal) :
    value.negatedText?.isSome = value.isNumber := by
  cases value <;> rfl

namespace Expr

/-- An expression without parentheses and groups. -/
def ungrouped : Expr → Expr
  | .group inner => ungrouped inner
  | .paren inner => ungrouped inner
  | .negation operand => .negation (ungrouped operand)
  | expr => expr

/-- Whether parentheses or a group stand between the first minus sign and its
operand. -/
def groupsOperand : Expr → Bool
  | .group inner => groupsOperand inner
  | .paren inner => groupsOperand inner
  | .negation (.group _) => true
  | .negation (.paren _) => true
  | _ => false

/-- An expression is a number behind a minus sign. -/
def IsNegatedNumber (expr : Expr) : Prop :=
  ∃ value : Literal, value.isNumber = true ∧ expr = .negation (.literal value)

/-! ## Minus signs -/

/-- Behind a minus sign only the literal of a number is a default. -/
theorem defaultText?_negation_eq_none_iff
    {operand : Expr} :
    (negation operand).defaultText? = none ↔
      ¬(negation operand).IsNegatedNumber := by
  cases operand with
  | literal value => simp [defaultText?, IsNegatedNumber,
    ← Literal.isSome_negatedText?]
  | _ => simp [defaultText?, IsNegatedNumber]

/-- With grouping behind its minus sign, an expression is no default. -/
theorem defaultText?_eq_none_of_groupsOperand
    {expr : Expr}
    (grouped : expr.groupsOperand = true) : expr.defaultText? = none := by
  fun_induction groupsOperand expr with
  | case1 inner inductionHypothesis => rw [defaultText?_group,
    inductionHypothesis grouped]
  | case2 inner inductionHypothesis => rw [defaultText?_paren,
    inductionHypothesis grouped]
  | case3 => simp only [defaultText?]
  | case4 => simp only [defaultText?]
  | case5 => cases grouped

theorem exists_ungrouped_eq_negation
    {expr : Expr}
    (grouped : expr.groupsOperand = true) :
    ∃ operand, expr.ungrouped = .negation operand := by
  fun_induction groupsOperand expr with
  | case1 _ inductionHypothesis => exact inductionHypothesis grouped
  | case2 _ inductionHypothesis => exact inductionHypothesis grouped
  | case3 inner => exact ⟨inner.ungrouped, rfl⟩
  | case4 inner => exact ⟨inner.ungrouped, rfl⟩
  | case5 => cases grouped

/-! ## Removing grouping -/

/-- Without grouping behind its minus sign, an expression is the default that it
is without any. -/
theorem defaultText?_ungrouped
    {expr : Expr}
    (direct : expr.groupsOperand = false) :
    expr.ungrouped.defaultText? = expr.defaultText? := by
  induction expr with
  | literal value => rfl
  | other kind => rfl
  | group inner inductionHypothesis =>
      rw [defaultText?_group]
      exact inductionHypothesis direct
  | paren inner inductionHypothesis =>
      rw [defaultText?_paren]
      exact inductionHypothesis direct
  | negation operand =>
      cases operand with
      | literal value => rfl
      | other kind => rfl
      | group inner => cases direct
      | paren inner => cases direct
      | negation inner => simp only [ungrouped, defaultText?]

theorem defaultValue_eq_error_iff
    {expr : Expr} :
    expr.defaultValue = .error (.unreadable noDefault) ↔
      expr.defaultText? = none := by
  unfold defaultValue
  split
  case h_1 found => simp [found]
  case h_2 absent => simp [absent]

/-- Grouping makes no difference to a default, except where it stands between a
minus sign and a number: then the expression is refused, and without grouping it
is that number. -/
theorem ungrouping_exact
    (expr : Expr) :
    expr.defaultValue =
        (if expr.groupsOperand then .error (.unreadable noDefault)
          else expr.ungrouped.defaultValue) ∧
      (expr.defaultValue = expr.ungrouped.defaultValue ↔
        ¬(expr.groupsOperand = true ∧ expr.ungrouped.IsNegatedNumber)) := by
  cases grouped : expr.groupsOperand with
  | false =>
      have same : expr.defaultValue = expr.ungrouped.defaultValue := by
        rw [defaultValue, defaultValue, defaultText?_ungrouped grouped]
      simpa using same
  | true =>
      have refused : expr.defaultValue = .error (.unreadable noDefault) :=
        defaultValue_eq_error_iff.mpr
          (defaultText?_eq_none_of_groupsOperand grouped)
      obtain ⟨operand, negated⟩ := exists_ungrouped_eq_negation grouped
      refine ⟨refused, ?_⟩
      rw [refused, eq_comm, defaultValue_eq_error_iff, negated,
        defaultText?_negation_eq_none_iff]
      simp

/-- A number in parentheses behind a minus sign is refused. -/
theorem not_forall_ungrouped :
    ¬∀ (expr : Expr) (value : Literal),
      expr.ungrouped = .literal value ∨
        expr.ungrouped = .negation (.literal value) →
        expr.defaultValue = expr.ungrouped.defaultValue := by
  intro allSame
  have same :=
    allSame (.negation (.paren (.literal (.integer 5)))) (.integer 5) (.inr rfl)
  cases same

end Expr
end Source
end PreferenceSchema
