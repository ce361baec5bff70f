import PreferenceSchema.DefaultValue
import PreferenceSchema.Text.Display

/-!
# Events

What the builders report while they work: each event with its severity, its
message and its fields.
-/

namespace PreferenceSchema

/-- The severity of an event. -/
inductive Severity where
  | trace
  | debug
  | warn
deriving DecidableEq, Repr

/-- The name of a severity. -/
def Severity.name : Severity → String
  | .trace => "TRACE"
  | .debug => "DEBUG"
  | .warn => "WARN"

/-- The value of a field of an event. -/
inductive EventField where
  | text (value : String)
  | count (value : Nat)
deriving DecidableEq, Repr

/-- Something that happened while declarations were read. -/
inductive Event where
  | resolvedKey (className key : String) (type : SemanticType)
    (default : DefaultValue)
  | ignoredAccessor (className function : String)
  | replacedAccessor (className function replaced : String)
  | builtEntity (className storage : String) (keys setters getters : Nat)
  | builtComponent (className : String) (entities targets : Nat)
  | builtInjection (target component : String) (bindings : Nat)
  | unmatchedEntity (component entity : String)
  | completedPass (entities components injectors : Nat)
  | foundEntity (className : String) (package : Option String)
  | foundComponent (className : String) (package : Option String)
  | foundTarget (className : String) (package : Option String)
  | collectedSource (entities components targets : Nat)
deriving DecidableEq

namespace Event

/-- The severity of an event. -/
def severity : Event → Severity
  | .resolvedKey .. => .trace
  | .unmatchedEntity .. => .warn
  | _ => .debug

/-- The message of an event. -/
def message : Event → String
  | .resolvedKey .. => "resolved key field"
  | .ignoredAccessor .. => "ignoring non-public custom accessor"
  | .replacedAccessor .. => "custom accessor replaces an earlier one"
  | .builtEntity .. => "built preference entity"
  | .builtComponent .. => "built preference component"
  | .builtInjection .. => "built injection plan"
  | .unmatchedEntity .. =>
    "component references an entity that was not processed"
  | .completedPass .. => "generation pass complete"
  | .foundEntity .. => "found preference entity"
  | .foundComponent .. => "found preference component"
  | .foundTarget .. => "found injection target"
  | .collectedSource .. => "collected source declarations"

/-- An optional package as an event shows it. -/
def packageText (package : Option String) : String :=
  String.ofList (Text.displayOption (package.map String.toList))

/-- The named fields of an event. -/
def fields : Event → List (String × EventField)
  | .resolvedKey className key type default =>
    [("class", .text className), ("key", .text key), ("ty", .text type.name),
      ("default", .text default.literal)]
  | .ignoredAccessor className function =>
    [("class", .text className), ("function", .text function)]
  | .replacedAccessor className function replaced =>
    [("class", .text className), ("function", .text function),
      ("replaced", .text replaced)]
  | .builtEntity className storage keys setters getters =>
    [("class", .text className), ("storage", .text storage),
      ("keys", .count keys), ("setters", .count setters),
      ("getters", .count getters)]
  | .builtComponent className entities targets =>
    [("class", .text className), ("entities", .count entities),
      ("targets", .count targets)]
  | .builtInjection target component bindings =>
    [("target_class", .text target), ("component", .text component),
      ("bindings", .count bindings)]
  | .unmatchedEntity component entity =>
    [("component", .text component), ("entity", .text entity)]
  | .completedPass entities components injectors =>
    [("entities", .count entities), ("components", .count components),
      ("injectors", .count injectors)]
  | .foundEntity className package | .foundComponent className package
  | .foundTarget className package =>
    [("class", .text className), ("package", .text (packageText package))]
  | .collectedSource entities components targets =>
    [("entities", .count entities), ("components", .count components),
      ("targets", .count targets)]

end Event
end PreferenceSchema
