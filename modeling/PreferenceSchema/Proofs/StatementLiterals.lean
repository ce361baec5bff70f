import PreferenceSchema.AccessorPlan
import PreferenceSchema.Proofs.QuotedText

/-!
# Literals in the statements of accessors

The key of an accessor, and the default of a getter of strings, stand in the
statement as quoted literals between pieces of code.  A literal is read in its
place as the text that it was written for and ends where the next piece begins,
so the text has no effect on the code around it.  The parameter of a setter is
such code, though its name comes from the key.
-/

namespace PreferenceSchema

/-! ## Literals between code -/

/-- `Interleaves codes texts statement` says that the statement is made of the
pieces of code, with a literal behind each but the last, and that reading each
literal in its place gives its text and what follows it. -/
inductive Interleaves : List String → List String → List Char → Prop where
  | last (code : String) : Interleaves [code] [] code.toList
  | literal {codes texts : List String} {text : String} {input rest : List Char}
      (code : String) :
      Text.unquote? input = some (text.toList, rest) →
        Interleaves codes texts rest →
      Interleaves (code :: codes) (text :: texts) (code.toList ++ input)

/-- What a quoted string is read as, whatever follows it.  A text that ends like
a literal does not end the literal. -/
theorem unquote?_quoteString_append
    (text rest : String) :
    Text.unquote? (quoteString text ++ rest).toList =
      some (text.toList, rest.toList) := by
  rw [String.toList_append, quoteString, String.toList_ofList]
  exact Text.unquote?_quote_append text.toList rest.toList

example : Text.unquote? (quoteString "a\\\"" ++ "\", 1)").toList =
    some ("a\\\"".toList, "\", 1)".toList) := by
  decide

theorem Interleaves.quoteString_append
    {codes texts : List String}
    {rest : String}
    (behind : Interleaves codes texts rest.toList)
    (code text : String) :
    Interleaves (code :: codes) (text :: texts)
      (code ++ quoteString text ++ rest).toList := by
  rw [String.append_assoc, String.toList_append]
  exact .literal code (unquote?_quoteString_append text rest) behind

/-- A quoted string tells its text and where it ends. -/
theorem quoteString_append_inj
    {first second firstRest secondRest : String} :
    quoteString first ++ firstRest = quoteString second ++ secondRest ↔
      first = second ∧ firstRest = secondRest := by
  constructor
  · intro equal
    have chars := congrArg String.toList equal
    simp only [String.toList_append, quoteString, String.toList_ofList] at chars
    obtain ⟨texts, rests⟩ := Text.quote_append_inj chars
    exact ⟨String.toList_injective texts, String.toList_injective rests⟩
  · rintro ⟨rfl, rfl⟩
    rfl

theorem quoteString_injective : Function.Injective quoteString := by
  intro first second equal
  exact (quoteString_append_inj.mp (congrArg (· ++ "") equal)).1

/-- A quoted string shows no break of a line and no tab, and between its quotes
stands what the grammar of quoted texts allows. -/
theorem exists_toList_quoteString_eq
    (text : String) :
    ∃ body, (quoteString text).toList = '"' :: body ++ ['"'] ∧
      Text.Spells body text.toList ∧
      '\n' ∉ body ∧ '\r' ∉ body ∧ '\t' ∉ body := by
  have spells := Text.spells_flatMap_escape text.toList
  refine ⟨_, ?_, spells, ?_, ?_, ?_⟩
  · rw [quoteString, String.toList_ofList, Text.quote]
  · exact spells.notMem (by decide) (by decide)
  · exact spells.notMem (by decide) (by decide)
  · exact spells.notMem (by decide) (by decide)

/-! ## The code of a call -/

namespace StorageCall

/-- The call on another key. -/
def withKey (key : String) : StorageCall → StorageCall
  | .read method _ default wrapper => .read method key default wrapper
  | .write method _ argument wrapper => .write method key argument wrapper
  | .contains _ => .contains key
  | .remove _ => .remove key

/-- The code in front of an expression that is handed to a function. -/
def opening : Option String → String
  | some function => function ++ "("
  | none => ""

/-- The code behind an expression that is handed to a function. -/
def closing : Option String → String
  | some _ => ")"
  | none => ""

theorem wrapped_eq
    (wrapper : Option String)
    (expression : String) :
    wrapped wrapper expression =
      opening wrapper ++ expression ++ closing wrapper := by
  cases wrapper with
  | none => simp [wrapped, opening, closing]
  | some function => simp [wrapped, opening, closing]

/-- The statement of a call up to its key. -/
def codeBefore (handle : String) : StorageCall → String
  | .read method _ _ wrapper =>
    "return " ++ opening wrapper ++ handle ++ "." ++ method ++ "("
  | .write method _ _ _ => handle ++ ".edit()." ++ method ++ "("
  | .contains _ => "return " ++ handle ++ ".contains("
  | .remove _ => handle ++ ".edit().remove("

/-- The statement of a call behind its key. -/
def codeBehind : StorageCall → String
  | .read _ _ default wrapper => ", " ++ default ++ ")" ++ closing wrapper
  | .write _ _ argument wrapper =>
    ", " ++ wrapped wrapper argument ++ ").apply()"
  | .contains _ => ")"
  | .remove _ => ").apply()"

/-- The statement of a call on a key is code, the key between quotes, and code
again. -/
theorem statement_withKey
    (handle key : String)
    (call : StorageCall) :
    (call.withKey key).statement handle =
      call.codeBefore handle ++ quoteString key ++ call.codeBehind := by
  cases call with
  | read method _ default wrapper =>
      simp only [withKey, statement, wrapped_eq, codeBefore, codeBehind,
        String.append_assoc]
  | _ => simp only [withKey, statement, codeBefore, codeBehind,
    String.append_assoc]

theorem interleaves_statement_withKey
    (handle key : String)
    (call : StorageCall) :
    Interleaves [call.codeBefore handle, call.codeBehind] [key]
      ((call.withKey key).statement handle).toList := by
  rw [statement_withKey]
  exact (Interleaves.last call.codeBehind).quoteString_append _ key

/-- A default text is a second literal in the statement that reads it. -/
theorem interleaves_statement_read
    (handle method key text : String)
    (wrapper : Option String) :
    Interleaves
        ["return " ++ opening wrapper ++ handle ++ "." ++ method ++ "(", ", ",
          ")" ++ closing wrapper]
        [key, text]
      ((read method key (DefaultValue.string text).literal wrapper).statement
        handle).toList := by
  have behindDefault := Interleaves.last (")" ++ closing wrapper)
  have behindKey : Interleaves [", ", ")" ++ closing wrapper] [text]
      (", " ++ (DefaultValue.string text).literal ++ ")" ++
        closing wrapper).toList := by
    rw [String.append_assoc]
    exact behindDefault.quoteString_append ", " text
  have whole := statement_withKey handle key
    (read method key (DefaultValue.string text).literal wrapper)
  rw [withKey] at whole
  rw [whole]
  exact behindKey.quoteString_append _ key

end StorageCall

/-- The method with its call on another key. -/
def AccessorPlan.withKey
    (plan : AccessorPlan)
    (key : String) : AccessorPlan :=
  { plan with call := plan.call.withKey key }

/-- The method with a call that reads a key of strings with a default text. -/
def AccessorPlan.reading
    (plan : AccessorPlan)
    (method key text : String)
    (wrapper : Option String) : AccessorPlan :=
  { plan
    with call := .read method key (DefaultValue.string text).literal wrapper }

/-- Every planned method of a key is about this key. -/
theorem AccessorSet.withKey_of_mem_plans
    {handle : String}
    {field : KeyField}
    {getter setter : Option AccessorFunction}
    {plan : AccessorPlan}
    (planned : plan ∈ (planWith handle field getter setter).plans) :
    plan.withKey field.keyName = plan := by
  simp only [plans, planWith, List.mem_cons, List.not_mem_nil,
    or_false] at planned
  rcases planned with rfl | rfl | rfl | rfl <;> rfl

theorem AccessorSet.exists_reading_getter_eq
    {handle text : String}
    {field : KeyField}
    {getter setter : Option AccessorFunction}
    (isText : field.default = .string text) :
    ∃ method wrapper,
      (planWith handle field getter setter).getter.reading method field.keyName
        text wrapper =
        (planWith handle field getter setter).getter := by
  refine ⟨"get" ++ field.type.storageSuffix, getter.map (·.name), ?_⟩
  rw [AccessorPlan.reading, ← isText]
  rfl

/-- Quoted strings are read back in every place, and a key or a default text
that stands in a statement as a literal leaves the code around the literal as it
is. -/
theorem literals_round_trip :
    (∀ input text rest, Text.unquote? input = some (text, rest) ↔
      ∃ body, Text.Spells body text ∧ input = '"' :: body ++ '"' :: rest) ∧
    (∀ text rest : String,
      Text.unquote? (quoteString text ++ rest).toList =
        some (text.toList, rest.toList)) ∧
    Function.Injective quoteString ∧
    (∀ first second firstRest secondRest : String,
      quoteString first ++ firstRest = quoteString second ++ secondRest ↔
        first = second ∧ firstRest = secondRest) ∧
    (∀ text, ∃ body, (quoteString text).toList = '"' :: body ++ ['"'] ∧
      Text.Spells body text.toList ∧ '\n' ∉ body ∧ '\r' ∉ body ∧ '\t' ∉ body) ∧
    (∀ plan : AccessorPlan, ∃ before behind, ∀ key,
      Interleaves [before, behind] [key] (plan.withKey key).statement.toList) ∧
    (∀ (plan : AccessorPlan) method wrapper, ∃ before between behind,
      ∀ key text,
      Interleaves [before, between, behind] [key, text]
        (plan.reading method key text wrapper).statement.toList) ∧
    ∀ handle field getter setter,
      (∀ plan ∈ (AccessorSet.planWith handle field getter setter).plans,
        plan.withKey field.keyName = plan) ∧
      ∀ text, field.default = .string text → ∃ method wrapper,
        (AccessorSet.planWith handle field getter setter).getter.reading method
            field.keyName text
            wrapper =
          (AccessorSet.planWith handle field getter setter).getter := by
  refine ⟨fun _ _ _ => Text.unquote?_eq_some_iff, unquote?_quoteString_append,
    quoteString_injective, fun _ _ _ _ => quoteString_append_inj,
    exists_toList_quoteString_eq, ?_, ?_, ?_⟩
  · intro plan
    exact ⟨_, _,
      fun key => plan.call.interleaves_statement_withKey plan.handle key⟩
  · intro plan method wrapper
    exact ⟨_, _, _, fun key text =>
      StorageCall.interleaves_statement_read plan.handle method key text
        wrapper⟩
  · intro handle field getter setter
    exact ⟨fun plan planned => AccessorSet.withKey_of_mem_plans planned,
      fun text isText => AccessorSet.exists_reading_getter_eq isText⟩

end PreferenceSchema
