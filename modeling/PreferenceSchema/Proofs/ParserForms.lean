import PreferenceSchema.Proofs.Traversal
import PreferenceSchema.Source.Parser

/-!
# What readers accept

What a reader finds in front of it is given as a relation between its results
and the tokens that are left.  The reader reads that when it succeeds exactly on
it, whatever has been written out before, and leaves nothing over in a group.
Steps in sequence, groups and repetitions read what is put together from the
relations of their parts.
-/

namespace PreferenceSchema
namespace Source

open Traversal

/-- A number is no text. -/
theorem Literal.ofToken_ne_string
    {text : String}
    (number : Tokens.isNumber text = true)
    (value : String) : Literal.ofToken text ≠ .string value := by
  have notQuoted : (startsWith "\"" text.toList || startsWith "r" text.toList) =
      false := by
    unfold Tokens.isNumber at number
    split at number
    case h_1 c rest chars =>
      rw [chars]
      have notQuote : c ≠ '"' := by
        rintro rfl
        cases number
      have notRaw : c ≠ 'r' := by
        rintro rfl
        cases number
      simp [startsWith, List.isPrefixOf_cons_cons, notQuote.symm, notRaw.symm]
    case h_2 => cases number
  rw [ofToken]
  split
  · nofun
  · rw [if_neg (by rw [notQuoted]; decide)]
    repeat' split
    all_goals nofun

/-- The literal ahead is a text exactly where its token denotes one. -/
theorem Tokens.exists_literal?_eq_string_iff
    {tokens rest : Tokens}
    {value : String} :
    (∃ negative, tokens.literal? = some (.string value, negative, rest)) ↔
      ∃ text, tokens = .literal text :: rest ∧
        Literal.ofToken text = .string value := by
  fun_cases Tokens.literal? tokens with
  | case1 text after => simp [and_comm]
  | case2 after => simp
  | case3 after => simp
  | case4 joint text after number => simp [Literal.ofToken_ne_string number]
  | case5 joint text after notNumber => simp
  | case6 _ notLiteral => simpa using fun text equal =>
    (notLiteral text rest equal).elim

namespace Parser

variable {α β σ : Type}

theorem run_bind
    (first : Parser α)
    (second : α → Parser β)
    (cursor : Cursor) :
    (first >>= second) cursor =
      (first cursor).bind fun (value, between) => second value between :=
  rfl

/-- In a group a step writes out a content of its own. -/
theorem run_inside
    (delimiter : Delimiter)
    (step : Parser α)
    (content after written : Tokens)
    (leftover : Option Delimiter) :
    inside delimiter step
      ⟨.group delimiter content :: after, written, leftover⟩ =
      (step ⟨content, [], leftover⟩).bind fun (result, cursor) =>
        .ok (result, ⟨after, .group delimiter cursor.written.reverse :: written,
          cursor.leftover.or (if cursor.ahead.isEmpty then
            none else some delimiter)⟩) := by
  rw [inside, run_bind]
  change (if delimiter = delimiter then _ else _ : Parser α) _ = _
  rw [if_pos rfl]
  rfl

/-- In front of some tokens a step has certain results, each with what it leaves
of the tokens. -/
structure Reads
    (tokens : Tokens)
    (step : Parser α)
    (found : α → Tokens → Prop) : Prop where
  sound : ∀ {written : Tokens} {leftover : Option Delimiter} {result : α}
    {next : Cursor},
    step ⟨tokens, written, leftover⟩ = .ok (result, next) →
    found result next.ahead ∧ next.leftover = leftover
  complete : ∀ {result : α} {rest : Tokens}, found result rest →
    ∀ (written : Tokens) (leftover : Option Delimiter),
      ∃ after,
        step ⟨tokens, written, leftover⟩ = .ok (result, ⟨rest, after, leftover⟩)

namespace Reads

variable {tokens : Tokens}

theorem congr
    {step : Parser α}
    {found other : α → Tokens → Prop}
    (reads : Reads tokens step found)
    (same : ∀ result rest, found result rest ↔ other result rest) :
    Reads tokens step other where
  sound succeeded := by
    obtain ⟨isFound, leftover⟩ := reads.sound succeeded
    exact ⟨(same _ _).mp isFound, leftover⟩
  complete isFound := reads.complete ((same _ _).mpr isFound)

/-! ## Steps -/

theorem pure
    (value : α) :
    Reads tokens (Pure.pure value) fun result rest =>
      result = value ∧ rest = tokens where
  sound succeeded := by
    cases succeeded
    exact ⟨⟨rfl, rfl⟩, rfl⟩
  complete := by
    rintro _ _ ⟨rfl, rfl⟩ written leftover
    exact ⟨written, rfl⟩

/-- A step that always stops. -/
theorem fails
    {step : Parser α}
    (stops : ∀ cursor, ∃ fault, step cursor = .error fault) :
    Reads tokens step fun _ _ => False where
  sound {written leftover _ _} succeeded := by
    obtain ⟨fault, failed⟩ := stops ⟨tokens, written, leftover⟩
    rw [failed] at succeeded
    cases succeeded
  complete impossible := impossible.elim

theorem pass
    (rest written : Tokens) :
    Reads tokens (Parser.pass rest written) fun _ after => after = rest where
  sound succeeded := by
    cases succeeded
    exact ⟨rfl, rfl⟩
  complete := by
    rintro _ _ rfl _ _
    exact ⟨_, rfl⟩

theorem bind
    {first : Parser α}
    {second : α → Parser β}
    {found : α → Tokens → Prop}
    {founds : α → Tokens → β → Tokens → Prop}
    (firstReads : Reads tokens first found)
    (secondReads : ∀ value middle, found value middle →
      Reads middle (second value) (founds value middle)) :
    Reads tokens (first >>= second) fun result rest =>
      ∃ value middle, found value middle ∧ founds value middle result rest where
  sound {written leftover result next} succeeded := by
    rw [run_bind] at succeeded
    obtain ⟨⟨value, between⟩, firstSucceeded, secondSucceeded⟩ :=
      bind_eq_ok_iff.mp succeeded
    obtain ⟨firstFound, firstLeftover⟩ := firstReads.sound firstSucceeded
    obtain ⟨secondFound, secondLeftover⟩ :=
      (secondReads value _ firstFound).sound secondSucceeded
    exact ⟨⟨value, _, firstFound, secondFound⟩,
      secondLeftover.trans firstLeftover⟩
  complete := by
    rintro result rest ⟨value, middle, firstFound, secondFound⟩ written leftover
    obtain ⟨between, firstSucceeded⟩ :=
      firstReads.complete firstFound written leftover
    obtain ⟨after, secondSucceeded⟩ :=
      (secondReads value middle firstFound).complete secondFound between
        leftover
    refine ⟨after, ?_⟩
    rw [run_bind, firstSucceeded]
    exact secondSucceeded

/-- A step that looks at the tokens ahead first. -/
theorem ahead_bind
    {second : Tokens → Parser β}
    {found : β → Tokens → Prop}
    (secondReads : Reads tokens (second tokens) found) :
    Reads tokens (ahead >>= second) found where
  sound succeeded := secondReads.sound succeeded
  complete isFound := secondReads.complete isFound

/-- A step whose result is turned into another one. -/
theorem map
    {step : Parser α}
    {found : α → Tokens → Prop}
    (reads : Reads tokens step found)
    (function : α → β) :
    Reads tokens (step >>= fun value => Pure.pure (function value))
        fun result rest =>
      ∃ value, found value rest ∧ result = function value :=
  (reads.bind fun value middle _ => pure (function value)).congr
      fun result rest => by
    constructor
    · rintro ⟨value, _, isFound, rfl, rfl⟩
      exact ⟨value, isFound, rfl⟩
    · rintro ⟨value, isFound, rfl⟩
      exact ⟨value, rest, isFound, rfl, rfl⟩

/-! ## Tokens -/

/-- A sign is taken where it stands ahead. -/
theorem sign
    (characters : String) :
    Reads tokens (Parser.sign characters) fun _ rest =>
      Tokens.dropSign? characters.toList tokens = some rest := by
  refine ahead_bind ?_
  cases Tokens.dropSign? characters.toList tokens with
  | some rest => exact (pass rest _).congr fun _ _ => by simp [eq_comm]
  | none => exact (fails fun _ => ⟨_, rfl⟩).congr fun _ _ => by simp

/-- A sign may be missing. -/
theorem sign?
    (characters : String) :
    Reads tokens (Parser.sign? characters) fun result rest =>
      (result = true ∧ Tokens.dropSign? characters.toList tokens = some rest) ∨
        (result = false ∧ Tokens.dropSign? characters.toList tokens = none ∧
          rest = tokens) := by
  refine ahead_bind ?_
  cases Tokens.dropSign? characters.toList tokens with
  | some rest =>
      exact ((pass rest _).map fun _ => true).congr fun _ _ =>
        by simp [and_comm, eq_comm]
  | none => exact (pure false).congr fun _ _ => by simp

/-- One step behind a sign, another where the sign is missing. -/
theorem ifSign
    {characters : String}
    {first second : Parser α}
    {firstFound : Tokens → α → Tokens → Prop}
    {secondFound : α → Tokens → Prop}
    (firstReads : ∀ middle, Reads middle first (firstFound middle))
    (secondReads : Reads tokens second secondFound) :
    Reads tokens (Parser.sign? characters >>= fun found =>
      if found = true then first else second)
      fun result rest =>
        (∃ middle, Tokens.dropSign? characters.toList tokens = some middle ∧
          firstFound middle result rest) ∨
        (Tokens.dropSign? characters.toList tokens = none ∧
          secondFound result rest) := by
  have chosen (found : Bool) (middle : Tokens)
      (isFound :
        (found = true ∧ Tokens.dropSign? characters.toList tokens =
          some middle) ∨
        (found = false ∧ Tokens.dropSign? characters.toList tokens = none ∧
          middle = tokens)) :
      Reads middle (if found = true then first else second) fun result rest =>
        if found = true then firstFound middle result rest
        else secondFound result rest := by
    obtain ⟨rfl, -⟩ | ⟨rfl, -, rfl⟩ := isFound
    · exact firstReads middle
    · exact secondReads
  refine ((sign? characters).bind chosen).congr fun result rest => ?_
  constructor
  · rintro ⟨_, middle, ⟨rfl, taken⟩ | ⟨rfl, missing, rfl⟩, holds⟩
    · exact .inl ⟨middle, taken, holds⟩
    · exact .inr ⟨missing, holds⟩
  · rintro (⟨middle, taken, holds⟩ | ⟨missing, holds⟩)
    · exact ⟨true, middle, .inl ⟨rfl, taken⟩, holds⟩
    · exact ⟨false, _, .inr ⟨rfl, missing, rfl⟩, holds⟩

theorem anyWord :
    Reads tokens Parser.anyWord fun result rest =>
      tokens = .word result :: rest := by
  refine ahead_bind ?_
  match tokens with
  | .word name :: after =>
    refine (ahead_bind ((pass after _).map fun _ => name)).congr
      fun result rest => ?_
    simp [and_comm, eq_comm]
  | [] | .punct _ _ :: _ | .literal _ :: _ | .group _ _ :: _ =>
    exact (fails fun _ => ⟨_, rfl⟩).congr fun _ _ => by simp

/-- A string is a literal that denotes a text. -/
theorem string :
    Reads tokens Parser.string fun result rest =>
      ∃ text, tokens = .literal text :: rest ∧
        Literal.ofToken text = .string result := by
  simp only [← Tokens.exists_literal?_eq_string_iff]
  refine ahead_bind ?_
  match found : tokens.literal? with
  | some (.string value, negative, after) =>
    refine (ahead_bind ((pass after _).map fun _ => value)).congr
      fun result rest => ?_
    simp [and_comm, eq_comm]
  | some (.byteString, _, _) | some (.cString, _, _) | some (.byte, _, _)
  | some (.character, _, _) | some (.integer _, _, _) | some (.float _, _, _)
  | some (.boolean _, _, _) | some (.faulty, _, _) | none =>
    exact (fails fun _ => ⟨_, rfl⟩).congr fun _ _ => by simp

/-! ## Groups -/

/-- The content of a group is read by a step that leaves nothing of it. -/
theorem inside
    {delimiter : Delimiter}
    {step : Parser α}
    {found : Tokens → α → Prop}
    (reads : ∀ content, Reads content step fun result rest =>
      found content result ∧ rest = []) :
    Reads tokens (Parser.inside delimiter step) fun result rest =>
      ∃ content, tokens = .group delimiter content :: rest ∧
        found content result := by
  match tokens with
  | .group other content :: after =>
    by_cases same : other = delimiter
    · subst same
      constructor
      · intro written leftover result next succeeded
        rw [run_inside] at succeeded
        obtain ⟨⟨value, between⟩, stepSucceeded, equal⟩ :=
          bind_eq_ok_iff.mp succeeded
        obtain ⟨⟨isFound, nothing⟩, sameLeftover⟩ :=
          (reads content).sound stepSucceeded
        cases equal
        refine ⟨⟨content, rfl, isFound⟩, ?_⟩
        simp [nothing, sameLeftover]
      · rintro result rest ⟨_, equal, isFound⟩ written leftover
        cases equal
        obtain ⟨inner, stepSucceeded⟩ :=
          (reads content).complete ⟨isFound, rfl⟩ [] leftover
        refine ⟨.group other inner.reverse :: written, ?_⟩
        rw [run_inside, stepSucceeded]
        simp [Except.bind]
    · refine ahead_bind ?_
      simp only [if_neg same]
      exact (fails fun _ => ⟨_, rfl⟩).congr fun _ _ => by simp [same]
  | [] | .punct _ _ :: _ | .literal _ :: _ | .word _ :: _ =>
    exact ahead_bind ((fails fun _ => ⟨_, rfl⟩).congr fun _ _ => by simp)

/-! ## Repetitions -/

end Reads

/-- The turns of a repeated step, from a state in front of some tokens to the
result. -/
inductive Repeats (found : σ → Tokens → Turn σ β → Tokens → Prop) :
    σ → Tokens → β → Tokens → Prop where
  | done {state tokens result rest} :
    found state tokens (.done result) rest →
    Repeats found state tokens result rest
  | again {state tokens next middle result rest} :
    found state tokens (.again next) middle →
    Repeats found next middle result rest →
    Repeats found state tokens result rest

namespace Reads

variable {found : σ → Tokens → Turn σ β → Tokens → Prop}
  {step : σ → Parser (Turn σ β)}

theorem repeatAtMost_sound
    (reads : ∀ state tokens, Reads tokens (step state) (found state tokens))
    {count : Nat}
    {state : σ}
    {tokens written : Tokens}
    {leftover : Option Delimiter}
    {result : β}
    {next : Cursor}
    (succeeded : repeatAtMost step count state ⟨tokens, written, leftover⟩ =
      .ok (result, next)) :
    Repeats found state tokens result next.ahead ∧
      next.leftover = leftover := by
  induction count generalizing state tokens written leftover with
  | zero => cases succeeded
  | succ count inductionHypothesis =>
      rw [repeatAtMost, run_bind] at succeeded
      obtain ⟨⟨turn, between⟩, stepSucceeded, goesOn⟩ :=
        bind_eq_ok_iff.mp succeeded
      obtain ⟨turnFound, sameLeftover⟩ :=
        (reads state tokens).sound stepSucceeded
      cases turn with
      | done value =>
          cases goesOn
          exact ⟨.done turnFound, sameLeftover⟩
      | again value =>
          obtain ⟨repeats, later⟩ := inductionHypothesis goesOn
          exact ⟨.again turnFound repeats, later.trans sameLeftover⟩

/-- Every turn but the last takes a token, so there are turns enough. -/
theorem repeatAtMost_complete
    (reads : ∀ state tokens, Reads tokens (step state) (found state tokens))
    (shrinks : ∀ {state tokens next rest},
      found state tokens (.again next) rest →
      rest.length < tokens.length)
    {state : σ}
    {tokens rest : Tokens}
    {result : β}
    (repeats : Repeats found state tokens result rest)
    {count : Nat}
    (enough : tokens.length < count)
    (written : Tokens)
    (leftover : Option Delimiter) :
    ∃ after, repeatAtMost step count state ⟨tokens, written, leftover⟩ =
      .ok (result, ⟨rest, after, leftover⟩) := by
  induction repeats generalizing count written with
  | @done state tokens value rest turnFound =>
      obtain ⟨count, rfl⟩ :=
        Nat.exists_eq_succ_of_ne_zero (Nat.ne_zero_of_lt enough)
      obtain ⟨after, succeeded⟩ :=
        (reads state tokens).complete turnFound written leftover
      refine ⟨after, ?_⟩
      rw [repeatAtMost, run_bind, succeeded]
      rfl
  | @again state tokens next middle value rest turnFound _
      inductionHypothesis =>
      obtain ⟨count, rfl⟩ :=
        Nat.exists_eq_succ_of_ne_zero (Nat.ne_zero_of_lt enough)
      obtain ⟨between, succeeded⟩ :=
        (reads state tokens).complete turnFound written leftover
      have shorter := shrinks turnFound
      obtain ⟨after, later⟩ := @inductionHypothesis count (by omega) between
      refine ⟨after, ?_⟩
      rw [repeatAtMost, run_bind, succeeded]
      exact later

theorem repeating
    {tokens : Tokens}
    (reads : ∀ state tokens, Reads tokens (step state) (found state tokens))
    (shrinks : ∀ {state tokens next rest},
      found state tokens (.again next) rest →
      rest.length < tokens.length)
    (start : σ) :
    Reads tokens (Parser.repeating start step) (Repeats found start tokens) :=
  ahead_bind
    { sound := repeatAtMost_sound reads
      complete := fun repeats =>
        repeatAtMost_complete reads shrinks repeats
          (Nat.lt_add_of_pos_right (by decide)) }

end Reads

/-- A step that reads all tokens, or does not succeed. -/
theorem run_eq_ok_iff
    {step : Parser α}
    {tokens : Tokens}
    {found : α → Tokens → Prop}
    (reads : Reads tokens step found)
    {result : α} : run step tokens = .ok result ↔ found result [] := by
  rw [run]
  constructor
  · intro succeeded
    split at succeeded
    case h_1 value cursor stepSucceeded =>
      obtain ⟨isFound, noLeftover⟩ := reads.sound stepSucceeded
      rw [noLeftover] at succeeded
      dsimp only at succeeded
      split at succeeded
      case isTrue nothing =>
        cases succeeded
        rwa [List.isEmpty_iff.mp nothing] at isFound
      case isFalse => cases succeeded
    case h_2 => cases succeeded
  · intro isFound
    obtain ⟨after, stepSucceeded⟩ := reads.complete isFound [] none
    rw [stepSucceeded]
    rfl

end Parser
end Source
end PreferenceSchema
