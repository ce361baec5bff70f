import PreferenceSchema.Source.Parser

/-!
# Errors of attributes

Why an attribute, or what it stands on, is refused.  Errors are gathered:
several of them make one error, which may be gathered with others again.
-/

namespace PreferenceSchema
namespace Source

/-- A single reason to refuse an attribute or what it stands on. -/
inductive AttributeFault where
  /-- The options cannot be read. -/
  | unreadable (fault : Fault)
  /-- The attribute has no options, and needs some. -/
  | missingOptions (inner : Bool) (path : String)
  /-- The attribute has a value instead of options. -/
  | missingParentheses (inner : Bool) (path : String)
  | unnamedField
  | unnamedEntity
  | unknownOption (name known : String) (similar : Bool)
  | repeatedOption (name : String)
  | missingOption (name : String)
  | unexpectedType (name : String)
  | unexpectedForm (name : String)

namespace AttributeFault

/-- The beginning of an attribute as diagnostics show it. -/
def shownStart (inner : Bool) : String :=
  if inner then "#!" else "#"

/-- The text of a fault. -/
def message : AttributeFault → String
  | .unreadable fault => fault.message
  | .missingOptions inner path =>
    "expected attribute arguments in parentheses: " ++ shownStart inner ++
      "[" ++ path ++ "(...)]"
  | .missingParentheses inner path =>
    "expected parentheses: " ++ shownStart inner ++ "[" ++ path ++ "(...)]"
  | .unnamedField => "preference fields must be named"
  | .unnamedEntity => "preference entities must use named fields"
  | .unknownOption name known similar =>
    "Unknown field: `" ++ name ++
      (if similar then "`. Did you mean `" ++ known ++ "`?"
        else "`. Available values: `" ++ known ++ "`")
  | .repeatedOption name => "Duplicate field `" ++ name ++ "`"
  | .missingOption name => "Missing field `" ++ name ++ "`"
  | .unexpectedType name => "Unexpected type `" ++ name ++ "`"
  | .unexpectedForm name => "Unexpected meta-item format `" ++ name ++ "`"

end AttributeFault

/-- One fault, at an option where it has a place, or several errors. -/
inductive AttributeError where
  | single (fault : AttributeFault) (option : Option String)
  | several (errors : List AttributeError)

namespace AttributeError

/-- One fault without a place. -/
def ofFault (fault : AttributeFault) : AttributeError :=
  .single fault none

/-- One error for all of some errors. -/
def gather : List AttributeError → AttributeError
  | [error] => error
  | errors => .several errors

mutual

/-- The number of faults in an error. -/
def count : AttributeError → Nat
  | .single _ _ => 1
  | .several errors => listCount errors

/-- The number of faults in some errors. -/
def listCount : List AttributeError → Nat
  | [] => 0
  | error :: rest => count error + listCount rest

end

mutual

/-- The text of an error. -/
def message : AttributeError → String
  | .single fault none => fault.message
  | .single fault (some option) => fault.message ++ " at " ++ option
  | .several errors => "Multiple errors: (" ++ listMessage errors ++ ")"

/-- The texts of errors, with commas between them. -/
def listMessage : List AttributeError → String
  | [] => ""
  | [error] => message error
  | error :: next :: rest => message error ++ ", " ++ listMessage (next :: rest)

end

/-- A value if there are no errors. -/
def unlessAny
    {α : Type}
    (errors : List AttributeError)
    (value : α) : Except AttributeError α :=
  if errors.isEmpty then .ok value else .error (gather errors)

/-- The value stands exactly if there are no errors. -/
theorem unlessAny_eq_ok_iff
    {α : Type}
    {errors : List AttributeError}
    {value result : α} :
    unlessAny errors value = .ok result ↔ errors = [] ∧ value = result := by
  cases errors <;> simp [unlessAny]

end AttributeError
end Source
end PreferenceSchema
