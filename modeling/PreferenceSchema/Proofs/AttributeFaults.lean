import PreferenceSchema.Source.AttributeError

/-!
# Faults of errors

An error is a tree whose leaves are single faults.  Gathering errors keeps their
faults in order, so what a file reports is the list of the faults of all its
errors, and the number of faults that an error counts is the length of this
list.
-/

namespace PreferenceSchema
namespace Source

namespace AttributeError

mutual

/-- The single faults in an error, in order, each with its place. -/
def faults : AttributeError → List (AttributeFault × Option String)
  | .single fault option => [(fault, option)]
  | .several errors => listFaults errors

/-- The single faults in some errors. -/
def listFaults : List AttributeError → List (AttributeFault × Option String)
  | [] => []
  | error :: rest => faults error ++ listFaults rest

end

theorem listFaults_eq_flatMap
    (errors : List AttributeError) :
    listFaults errors = errors.flatMap faults := by
  induction errors with
  | nil => rfl
  | cons error rest inductionHypothesis =>
      rw [listFaults, inductionHypothesis, List.flatMap_cons]

mutual

/-- An error counts its faults. -/
theorem length_faults :
    (error : AttributeError) → error.faults.length = error.count
  | .single _ _ => rfl
  | .several errors => length_listFaults errors

theorem length_listFaults :
    (errors : List AttributeError) →
      (listFaults errors).length = listCount errors
  | [] => rfl
  | error :: rest => by
      rw [listFaults, listCount, List.length_append, length_faults error,
        length_listFaults rest]

end

/-- Gathering keeps the faults. -/
@[simp] theorem faults_gather
    (errors : List AttributeError) :
    (gather errors).faults = errors.flatMap faults := by
  rw [← listFaults_eq_flatMap]
  unfold gather
  split <;> simp [faults, listFaults]

@[simp] theorem faults_ofFault
    (fault : AttributeFault) :
    (ofFault fault).faults = [(fault, none)] := rfl

end AttributeError

variable {α : Type}

/-- The faults that an outcome reports: those of its error, if it is one. -/
def faultsOf : Except AttributeError α → List (AttributeFault × Option String)
  | .ok _ => []
  | .error error => error.faults

/-- A value that stands unless there are errors reports the faults of these. -/
theorem faultsOf_unlessAny
    (errors : List AttributeError)
    (value : α) :
    faultsOf (AttributeError.unlessAny errors value) =
      errors.flatMap AttributeError.faults := by
  cases errors with
  | nil => rfl
  | cons error rest => exact AttributeError.faults_gather (error :: rest)

end Source
end PreferenceSchema
