import PreferenceSchema.Naming
import PreferenceSchema.Source.Options

/-!
# Members and annotations of source items

What the fields, the functions and the attributes of an item become in a
declaration.
-/

namespace PreferenceSchema
namespace Source

/-! ### Attributes -/

/-- The name of the attribute of an entity. -/
def entityAttribute : String := "preference_entity"

/-- The name of the attribute of a component. -/
def componentAttribute : String := "preference_component"

/-- The name of the attribute of a custom accessor. -/
def functionAttribute : String := "preference_function"

/-- The name of the attribute with the options of a field. -/
def fieldAttribute : String := "preference"

/-- The name of the attribute of a field that is injected. -/
def injectAttribute : String := "inject_preference"

/-- Whether an attribute has a certain name. -/
def Attribute.isNamed
    (name : String)
    (mark : Attribute) : Bool :=
  mark.path.isWord name

/-- Whether one of some attributes has a certain name. -/
def hasAttribute
    (attributes : List Attribute)
    (name : String) : Bool :=
  attributes.any (Attribute.isNamed name)

/-- The options of an entity attribute: a storage name, if it has one. -/
def entityOptions (mark : Attribute) : Except AttributeError (Option String) :=
  match mark.content with
  | .bare => .ok none
  | _ => mark.textOption "name" false

/-- The entity annotation that the first entity attribute stands for. -/
def readEntityMark (attributes : List Attribute) :
    Except AttributeError (Option Annotation) :=
  match attributes.find? (Attribute.isNamed entityAttribute) with
  | none => .ok none
  | some mark => do
    let name ← entityOptions mark
    return some
      ⟨Naming.entityMark, (name.map fun name => ("name", name)).toList⟩

/-- The component annotation with the options of all component attributes. -/
def readComponentMark (attributes : List Attribute) :
    Except AttributeError Annotation := do
  let options ← (attributes.filter (Attribute.isNamed componentAttribute)).mapM
      fun mark =>
    (mark.options componentOption).mapError .ofFault
  return ⟨Naming.componentMark, options.flatten.map ComponentOption.value⟩

/-- The annotation that a function attribute stands for. -/
def readFunctionMark (mark : Attribute) : Except AttributeError Annotation := do
  let key ← mark.textOption "key" true
  return ⟨Naming.functionMark, [("keyname", key.getD "")]⟩

/-! ### Fields -/

/-- The options of one field attribute: of options that are repeated the last
one holds. -/
structure FieldOptions where
  key : Option String
  default : Option (String × LiteralKind)
deriving DecidableEq, Repr

namespace FieldOptions

/-- No options. -/
def none : FieldOptions :=
  ⟨.none, .none⟩

/-- The options with one more. -/
def add (options : FieldOptions) : FieldOption → FieldOptions
  | .key text => { options with key := some text }
  | .default text kind => { options with default := some (text, kind) }

/-- The options in a list. -/
def ofList (list : List FieldOption) : FieldOptions :=
  list.foldl add none

/-- A member with the key and the default that the options give. -/
def applyTo
    (options : FieldOptions)
    (member : Member) : Member :=
  let keyed :=
    match options.key with
    | some key => member.annotated ⟨Naming.keyMark, [("name", key)]⟩
    | .none => member
  match options.default with
  | some (text, kind) => keyed.initializedAs text kind
  | .none => keyed

end FieldOptions

/-- What an attribute of a field says about it. -/
inductive FieldMark where
  | options (list : List FieldOption)
  | injected
  | nothing
deriving DecidableEq, Repr

namespace FieldMark

/-- What an attribute says, unless its options are wrong. -/
def ofAttribute (mark : Attribute) : Except AttributeFault FieldMark :=
  if mark.isNamed fieldAttribute then do
    return .options (← mark.options fieldOption)
  else if mark.isNamed injectAttribute then return .injected
  else return .nothing

/-- A member with what an attribute of its field says. -/
def addTo (member : Member) : FieldMark → Member
  | .options list => (FieldOptions.ofList list).applyTo member
  | .injected => member.annotated ⟨Naming.injectMark, []⟩
  | .nothing => member

end FieldMark

namespace Field

/-- Whether a field is injected. -/
def isInjected (field : Field) : Bool :=
  hasAttribute field.attributes injectAttribute

/-- The member that a field is, without what its attributes say. -/
def plainMember
    (field : Field)
    (name : String) : Member :=
  (Member.field name field.type.descriptor).withModifier
    (if field.isPublic then .public else .private)

/-- The member that a field is, unless it has no name or an attribute is
wrong. -/
def toMember (field : Field) : Except AttributeFault Member :=
  match field.name with
  | none => .error .unnamedField
  | some name => do
    let marks ← field.attributes.mapM FieldMark.ofAttribute
    return marks.foldl FieldMark.addTo (field.plainMember name)

end Field

/-! ### Functions -/

/-- The name of a parameter: the name that its pattern binds, or else the text
of the pattern. -/
def Pattern.parameterName (pattern : Pattern) : String :=
  match pattern.shape with
  | .name identifier => identifier
  | _ => tokensText pattern.tokens

/-- A member with a parameter; a receiver is none. -/
def addArgument (member : Member) : Argument → Member
  | .receiver => member
  | .typed pattern type =>
    member.withParameter pattern.parameterName type.descriptor

namespace Function

/-- Whether a function is bound to an instance. -/
def hasReceiver (function : Function) : Bool :=
  function.arguments.any Argument.isReceiver

/-- The member that the signature of a function is. -/
def signatureMember
    (function : Function)
    (isPublic : Bool) : Member :=
  let named :=
    (Member.method function.name
      (resultDescriptor function.result)).withModifier
    (if isPublic then .public else .private)
  let member := function.arguments.foldl addArgument named
  if function.hasReceiver then member else member.withModifier .static

/-- The function attributes of a function, as annotations or errors. -/
def marks (function : Function) : List (Except AttributeError Annotation) :=
  (function.attributes.filter (Attribute.isNamed functionAttribute)).map
    readFunctionMark

/-- The errors among some results. -/
def errorsOf
    {α : Type}
    (results : List (Except AttributeError α)) : List AttributeError :=
  results.filterMap fun
    | .error error => some error
    | .ok _ => none

/-- The values among some results. -/
def valuesOf
    {α : Type}
    (results : List (Except AttributeError α)) : List α :=
  results.filterMap Except.toOption

/-- The member that a function is, unless function attributes are wrong. -/
def toMember
    (function : Function)
    (isPublic : Bool) : Except AttributeError Member :=
  AttributeError.unlessAny (errorsOf function.marks)
    ((valuesOf function.marks).foldl Member.annotated
      (function.signatureMember isPublic))

end Function
end Source
end PreferenceSchema
