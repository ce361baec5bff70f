import PreferenceSchema.AccessorPlan
import PreferenceSchema.Proofs.DefaultLiterals

/-!
# Statements of getters

The statement of a generated getter names the typed call, the key and the
default.  All three can be told from its text: the call ends at the first
parenthesis, the key is quoted, and the type that the call shows tells how the
literal is read.
-/

namespace PreferenceSchema

/-! ## Reading statements -/

/-- Where a mark stands in neither of two texts, it shows where they end. -/
theorem eq_of_append_cons_eq
    {α : Type}
    {mark : α}
    {first second firstRest secondRest : List α}
    (notFirst : mark ∉ first)
    (notSecond : mark ∉ second)
    (equal : first ++ mark :: firstRest = second ++ mark :: secondRest) :
    first = second ∧ firstRest = secondRest := by
  induction first generalizing second with
  | nil =>
      cases second with
      | nil => exact ⟨rfl, (List.cons.inj equal).2⟩
      | cons next rest =>
          obtain ⟨rfl, _⟩ := List.cons.inj equal
          exact absurd List.mem_cons_self notSecond
  | cons start rest inductionHypothesis =>
      cases second with
      | nil =>
          obtain ⟨rfl, _⟩ := List.cons.inj equal
          exact absurd List.mem_cons_self notFirst
      | cons next secondTail =>
          obtain ⟨rfl, tails⟩ := List.cons.inj equal
          obtain ⟨rfl, rests⟩ :=
            inductionHypothesis (List.not_mem_of_not_mem_cons notFirst)
            (List.not_mem_of_not_mem_cons notSecond) tails
          exact ⟨rfl, rests⟩

namespace StorageCall

theorem wrapped_injective
    (wrapper : Option String) :
    Function.Injective (wrapped wrapper) := by
  intro first second equal
  cases wrapper with
  | none => exact equal
  | some function =>
    exact (String.append_right_inj _).mp ((String.append_left_inj _).mp equal)

/-- A statement that reads storage through a given handle and wrapper shows the
method, the key and the default. -/
theorem statement_read_inj
    {handle firstMethod secondMethod firstKey secondKey firstDefault
      secondDefault : String}
    {wrapper : Option String}
    (notFirst : '(' ∉ firstMethod.toList)
    (notSecond : '(' ∉ secondMethod.toList)
    (equal : (read firstMethod firstKey firstDefault wrapper).statement handle =
      (read secondMethod secondKey secondDefault wrapper).statement handle) :
    firstMethod = secondMethod ∧ firstKey = secondKey ∧
      firstDefault = secondDefault := by
  have calls := wrapped_injective wrapper ((String.append_right_inj _).mp equal)
  have chars := congrArg String.toList calls
  simp only [String.toList_append, quoteString, String.toList_ofList,
    List.append_assoc] at chars
  have behindHandle := List.append_cancel_left (List.append_cancel_left chars)
  obtain ⟨methods, arguments⟩ :=
    eq_of_append_cons_eq notFirst notSecond behindHandle
  obtain ⟨keys, defaults⟩ := Text.quote_append_inj arguments
  have literals := List.append_cancel_right (List.append_cancel_left defaults)
  exact ⟨String.toList_injective methods, String.toList_injective keys,
    String.toList_injective literals⟩

end StorageCall

namespace SemanticType

/-- The ending of a typed call shows the type. -/
theorem storageSuffix_injective : Function.Injective storageSuffix := by
  intro first second equal
  cases first <;> cases second <;> first | rfl | exact absurd equal (by decide)

end SemanticType

/-- A getter without custom accessor shows the type, the key and the default of
its field: two fields with the same statement on some handle differ in nothing
else than the name of the field. -/
theorem eq_of_getter_statement_eq
    {handle : String}
    {first second : KeyField}
    (firstTyped : first.default.semanticType = first.type)
    (secondTyped : second.default.semanticType = second.type)
    (equal : (AccessorSet.plan handle first).getter.statement =
      (AccessorSet.plan handle second).getter.statement) :
    first.type = second.type ∧ first.keyName = second.keyName ∧
      first.default = second.default := by
  have noParenthesis (type : SemanticType) :
      '(' ∉ ("get" ++ type.storageSuffix).toList := by
    cases type <;> decide
  obtain ⟨methods, keys, literals⟩ :=
    StorageCall.statement_read_inj (noParenthesis first.type)
      (noParenthesis second.type) equal
  have types : first.type = second.type :=
    SemanticType.storageSuffix_injective
      ((String.append_right_inj _).mp methods)
  have defaultTypes : first.default.semanticType =
      second.default.semanticType := by
    rw [firstTyped, secondTyped, types]
  exact ⟨types, keys,
    DefaultValue.literal_inj_of_semanticType_eq defaultTypes literals⟩

/-- A preference whose key could be taken for the rest of a statement. -/
def ratioField (name : String) : KeyField :=
  ⟨name, "ratio\", 1.5)", .double,
    .double ⟨false, 0x3FF8000000000000, by decide⟩⟩

theorem eq_of_getter_statement_eq_ratio :
    (ratioField "first").type = (ratioField "second").type ∧
      (ratioField "first").keyName = (ratioField "second").keyName ∧
      (ratioField "first").default = (ratioField "second").default :=
  have sameStatement :
      (AccessorSet.plan "preference" (ratioField "first")).getter.statement =
      (AccessorSet.plan "preference" (ratioField "second")).getter.statement :=
        rfl
  eq_of_getter_statement_eq rfl rfl sameStatement

end PreferenceSchema
