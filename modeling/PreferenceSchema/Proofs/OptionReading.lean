import PreferenceSchema.Proofs.OptionForms
import PreferenceSchema.Source.Members

/-!
# Options and their expressions

A field option is read in one pass with the text of its default.  Reading the
expression first and judging it afterwards accepts the same options, so what a
field says of its default is said by the expressions that stand in its
attributes.
-/

namespace PreferenceSchema
namespace Source

open Traversal

namespace Parser

variable {α β : Type}

/-- The second reader reads what the first one does, where a judgement of the
result has one, and leaves the same state. -/
def Judges
    (judge : α → Option β)
    (first : Parser α)
    (second : Parser β) : Prop :=
  ∀ (cursor : Cursor) (result : β) (next : Cursor),
    second cursor = .ok (result, next) ↔
      ∃ value, first cursor = .ok (value, next) ∧ judge value = some result

/-- Two readers in sequence succeed exactly if the second succeeds where the
first has stopped. -/
theorem run_bind_eq_ok_iff
    {first : Parser α}
    {second : α → Parser β}
    {cursor next : Cursor}
    {result : β} :
    (first >>= second) cursor = .ok (result, next) ↔
      ∃ value between, first cursor = .ok (value, between) ∧
        second value between = .ok (result, next) := by
  rw [run_bind, bind_eq_ok_iff]
  constructor
  · rintro ⟨⟨value, between⟩, started, succeeded⟩
    exact ⟨value, between, started, succeeded⟩
  · rintro ⟨value, between, started, succeeded⟩
    exact ⟨(value, between), started, succeeded⟩

/-- Reads by a step and judges the result at once. -/
def judging
    (judge : α → Option β)
    (fault : Fault)
    (step : Parser α) : Parser β := do
  match judge (← step) with
  | some result => return result
  | none => throw fault

theorem judges_judging
    (judge : α → Option β)
    (fault : Fault)
    (step : Parser α) : Judges judge step (judging judge fault step) := by
  intro cursor result next
  unfold judging
  rw [run_bind_eq_ok_iff]
  constructor
  · rintro ⟨value, between, succeeded, judged⟩
    cases found : judge value with
    | none =>
        rw [found] at judged
        cases judged
    | some other =>
        rw [found] at judged
        cases judged
        exact ⟨value, succeeded, found⟩
  · rintro ⟨value, succeeded, found⟩
    refine ⟨value, next, succeeded, ?_⟩
    rw [found]
    rfl

/-- A judgement behind a common first step. -/
theorem Judges.after
    {γ : Type}
    {judge : α → Option β}
    {first : γ → Parser α}
    {second : γ → Parser β}
    (judges : ∀ start, Judges judge (first start) (second start))
    (step : Parser γ) : Judges judge (step >>= first) (step >>= second) := by
  intro cursor result next
  simp only [run_bind_eq_ok_iff]
  constructor
  · rintro ⟨start, between, started, succeeded⟩
    obtain ⟨value, found, judged⟩ :=
      (judges start between result next).mp succeeded
    exact ⟨value, ⟨start, between, started, found⟩, judged⟩
  · rintro ⟨value, ⟨start, between, started, found⟩, judged⟩
    exact ⟨start, between, started,
      (judges start between result next).mpr ⟨value, found, judged⟩⟩

/-- What all tokens are read as. -/
theorem Judges.run_eq_ok_iff
    {judge : α → Option β}
    {first : Parser α}
    {second : Parser β}
    (judges : Judges judge first second)
    {tokens : Tokens}
    {result : β} :
    run second tokens = .ok result ↔
      ∃ value, run first tokens = .ok value ∧ judge value = some result := by
  unfold run
  constructor
  · intro succeeded
    split at succeeded
    case h_1 other next secondSucceeded =>
      obtain ⟨value, firstSucceeded, judged⟩ :=
        (judges _ _ _).mp secondSucceeded
      rw [firstSucceeded]
      split at succeeded
      case h_1 => cases succeeded
      case h_2 none =>
        split at succeeded
        case isTrue nothing =>
          cases succeeded
          exact ⟨value, by simp [none, nothing], judged⟩
        case isFalse => cases succeeded
    case h_2 => cases succeeded
  · rintro ⟨value, succeeded, judged⟩
    split at succeeded
    case h_1 other next firstSucceeded =>
      split at succeeded
      case h_1 => cases succeeded
      case h_2 none =>
        split at succeeded
        case isTrue nothing =>
          cases succeeded
          rw [(judges _ _ _).mpr ⟨value, firstSucceeded, judged⟩]
          simp [none, nothing]
        case isFalse => cases succeeded
    case h_2 => cases succeeded

/-! ## Lists -/

/-- Reads what stands behind an option: whether it was the last one. -/
def optionEnd : Parser Bool := do
  if (← ahead).isEmpty then return true
  sign ","
  return (← ahead).isEmpty

/-- Reads options up to the last one, but not more than `count`. -/
def optionsAtMost (option : Path → Parser α) : (count : Nat) → Parser (List α)
  | 0 => stop "nesting too deep"
  | count + 1 => do
    let value ← optionPath >>= option
    if ← optionEnd then return [value]
    return value :: (← optionsAtMost option count)

/-- A turn reads an option and then looks whether the list goes on. -/
theorem optionTurn_eq_bind
    (option : Path → Parser α)
    (options : List α) :
    Reads.optionTurn option options = (do
      let value ← optionPath >>= option
      if ← optionEnd then return .done (options ++ [value])
      return .again (options ++ [value])) := by
  unfold Reads.optionTurn optionEnd
  simp only [bind_assoc]
  congr
  funext path
  congr
  funext value
  congr
  funext tokens
  cases tokens with
  | nil => rfl
  | cons first rest =>
      simp only [List.isEmpty_cons, Bool.false_eq_true, if_false, bind_assoc,
        pure_bind]

/-- The turns that gather options read them one behind another. -/
theorem repeatAtMost_optionTurn
    (option : Path → Parser α)
    (count : Nat)
    (options : List α) :
    repeatAtMost (Reads.optionTurn option) count options =
      optionsAtMost option count >>= fun values =>
        pure (options ++ values) := by
  induction count generalizing options with
  | zero => rfl
  | succ count inductionHypothesis =>
      unfold repeatAtMost optionsAtMost
      rw [optionTurn_eq_bind]
      simp only [bind_assoc]
      congr
      funext path
      congr
      funext value
      congr
      funext isEnd
      cases isEnd with
      | true => rfl
      | false =>
          simp only [Bool.false_eq_true, if_false, pure_bind, bind_assoc,
            inductionHypothesis, List.append_assoc, List.singleton_append]

/-- A list of options is read as its first option and the list behind it. -/
theorem optionsAtMost_succ_eq_ok_iff
    {option : Path → Parser α}
    {count : Nat}
    {cursor next : Cursor}
    {values : List α} :
    optionsAtMost option (count + 1) cursor = .ok (values, next) ↔
      ∃ value between isEnd behind later,
        (optionPath >>= option) cursor = .ok (value, between) ∧
          optionEnd between = .ok (isEnd, behind) ∧
          (if isEnd then later = [] ∧ next = behind
            else optionsAtMost option count behind = .ok (later, next)) ∧
          values = value :: later := by
  rw [optionsAtMost]
  simp only [run_bind_eq_ok_iff]
  constructor
  · rintro ⟨value, between, started, isEnd, behind, ended, finished⟩
    refine ⟨value, between, isEnd, behind, ?_⟩
    cases isEnd with
    | true =>
        cases finished
        exact ⟨[], started, ended, ⟨rfl, rfl⟩, rfl⟩
    | false =>
        obtain ⟨later, rest, laterRead, equal⟩ := run_bind_eq_ok_iff.mp finished
        cases equal
        exact ⟨later, started, ended, laterRead, rfl⟩
  · rintro ⟨value, between, isEnd, behind, later, started, ended, finished, rfl⟩
    refine ⟨value, between, started, isEnd, behind, ended, ?_⟩
    cases isEnd with
    | true =>
        obtain ⟨rfl, rfl⟩ := finished
        rfl
    | false => exact run_bind_eq_ok_iff.mpr ⟨later, next, finished, rfl⟩

theorem Judges.optionsAtMost
    {judge : α → Option β}
    {first : Path → Parser α}
    {second : Path → Parser β}
    (judges : ∀ path, Judges judge (first path) (second path))
    (count : Nat) :
    Judges (List.mapM judge) (optionsAtMost first count)
      (optionsAtMost second count) := by
  have each : Judges judge (optionPath >>= first) (optionPath >>= second) :=
    Judges.after judges optionPath
  induction count with
  | zero =>
      intro cursor result next
      constructor
      · nofun
      · rintro ⟨value, ⟨⟩, -⟩
  | succ count inductionHypothesis =>
      intro cursor results next
      simp only [optionsAtMost_succ_eq_ok_iff]
      constructor
      · rintro ⟨result, between, isEnd, behind, later, started, ended,
          finished, rfl⟩
        obtain ⟨value, firstStarted, judged⟩ := (each _ _ _).mp started
        cases isEnd with
        | true =>
            obtain ⟨rfl, rfl⟩ := finished
            exact ⟨[value],
              ⟨value, between, true, next, [], firstStarted, ended,
                ⟨rfl, rfl⟩, rfl⟩,
              by simp [judged]⟩
        | false =>
            obtain ⟨values, firstFinished, laterJudged⟩ :=
              (inductionHypothesis _ _ _).mp finished
            exact ⟨value :: values,
              ⟨value, between, false, behind, values, firstStarted, ended,
                firstFinished, rfl⟩,
              by simp [judged, laterJudged]⟩
      · rintro ⟨_,
          ⟨value, between, isEnd, behind, values, started, ended, finished,
            rfl⟩, judged⟩
        simp only [List.mapM_cons, Option.bind_eq_bind, Option.bind_eq_some_iff,
          Option.pure_def, Option.some.injEq] at judged
        obtain ⟨result, valueJudged, later, laterJudged, rfl⟩ := judged
        have read := (each _ _ _).mpr ⟨value, started, valueJudged⟩
        refine ⟨result, between, isEnd, behind, later, read, ended, ?_, rfl⟩
        cases isEnd with
        | true =>
            obtain ⟨rfl, rfl⟩ := finished
            cases laterJudged
            exact ⟨rfl, rfl⟩
        | false =>
          exact (inductionHypothesis _ _ _).mpr ⟨values, finished, laterJudged⟩

theorem Judges.someOptions
    {judge : α → Option β}
    {first : Path → Parser α}
    {second : Path → Parser β}
    (judges : ∀ path, Judges judge (first path) (second path)) :
    Judges (List.mapM judge) (someOptions first) (someOptions second) := by
  rw [Reads.someOptions_eq_repeating, Reads.someOptions_eq_repeating]
  unfold repeating
  apply Judges.after
  intro tokens
  rw [repeatAtMost_optionTurn, repeatAtMost_optionTurn]
  simp only [List.nil_append, bind_pure]
  exact Judges.optionsAtMost judges _

end Parser

/-! ## Field options -/

open Source.Parser

/-- An option of a field as it is written: a text, or an expression. -/
inductive WrittenOption where
  | key (text : String)
  | default (expr : Expr)

/-- The option that a written one is, unless its expression is no default. -/
def WrittenOption.judge : WrittenOption → Option FieldOption
  | .key text => some (.key text)
  | .default expr => expr.defaultText?.map fun (text, kind) =>
    .default text kind

/-- Reads an option of a field behind its path, whatever its expression is. -/
def writtenOption
    (g : Grammar)
    (path : Path) : Parser WrittenOption := do
  if path.isWord "key" then
    sign "="
    return .key (← string)
  else if path.isWord "default" then
    sign "="
    return .default (← g.expression true)
  else throw (.other false "expected `key` or `default`")

theorem fieldOption_eq_judging
    (g : Grammar)
    (path : Path) :
    fieldOption g path = judging WrittenOption.judge noDefault
      (writtenOption g path) := by
  unfold fieldOption writtenOption judging
  split
  case isTrue => simp only [bind_assoc, pure_bind, WrittenOption.judge]
  case isFalse =>
    split
    case isTrue =>
      simp only [bind_assoc, pure_bind, WrittenOption.judge]
      congr
      funext _
      congr
      funext expr
      cases expr.defaultText? with
      | none => rfl
      | some value => rfl
    case isFalse => rfl

/-- The options of a field are those that are written, with the texts of their
expressions. -/
theorem Attribute.options_fieldOption_eq_ok_iff
    {mark : Attribute}
    {options : List FieldOption} :
    mark.options fieldOption = .ok options ↔
      ∃ written, mark.options writtenOption = .ok written ∧
        written.mapM WrittenOption.judge = some options := by
  have judges (tokens : Tokens) :
      readAll (fun g => someOptions (fieldOption g)) tokens = .ok options ↔
        ∃ written,
          readAll (fun g => someOptions (writtenOption g)) tokens =
            .ok written ∧
          written.mapM WrittenOption.judge = some options := by
    apply Judges.run_eq_ok_iff
    apply Judges.someOptions
    intro path
    rw [fieldOption_eq_judging]
    exact judges_judging WrittenOption.judge noDefault _
  unfold Attribute.options
  match mark.content with
  | .bare => simp
  | .value _ => simp
  | .list _ [] => simp [eq_comm]
  | .list _ (_ :: _) => simp [mapError_eq_ok_iff, judges]

end Source
end PreferenceSchema
