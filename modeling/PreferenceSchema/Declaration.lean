/-!
# Class declarations

What the schema builders read: classes with annotations and members, as a
provider found them in some source.
-/

namespace PreferenceSchema

/-- Whether a member holds data or is a function. -/
inductive MemberKind where
  | field
  | method
deriving DecidableEq, Repr

/-- The modifiers of a member that matter to a schema. -/
inductive Modifier where
  | «public»
  | «private»
  | static
deriving DecidableEq, Repr

/-- The kind of literal that an initializer was written as. -/
inductive LiteralKind where
  | text
  | number
  | boolean
deriving DecidableEq, Repr

/-- An annotation with its attributes and their values, in the order of the
source. -/
structure Annotation where
  name : String
  values : List (String × String)
deriving DecidableEq, Repr

namespace Annotation

/-- The first value of an attribute. -/
def get?
    (mark : Annotation)
    (key : String) : Option String :=
  mark.values.lookup key

end Annotation

/-- The first annotation of a name in a list. -/
def annotationNamed?
    (marks : List Annotation)
    (name : String) : Option Annotation :=
  marks.find? fun mark => mark.name == name

/-- A parameter of a method, with its type descriptor. -/
structure Parameter where
  name : String
  typeName : String
deriving DecidableEq, Repr

/-- A field or method of a class. -/
structure Member where
  name : String
  kind : MemberKind
  /-- Type of a field, return type of a method. -/
  typeName : String
  modifiers : List Modifier
  annotations : List Annotation
  parameters : List Parameter
  /-- Text of the initializer of a field, without quotes. -/
  initializer : Option String
  /-- Kind of the initializer, where the provider knows it. -/
  initializerKind : Option LiteralKind
deriving DecidableEq, Repr

namespace Member

/-- A member of a name, kind and type, with nothing else. -/
def plain
    (kind : MemberKind)
    (name typeName : String) : Member where
  name := name
  kind := kind
  typeName := typeName
  modifiers := []
  annotations := []
  parameters := []
  initializer := none
  initializerKind := none

/-- A plain field. -/
def field (name typeName : String) : Member :=
  plain .field name typeName

/-- A plain method. -/
def method (name returnType : String) : Member :=
  plain .method name returnType

/-- The member with a modifier, which is added at most once. -/
def withModifier
    (member : Member)
    (modifier : Modifier) : Member :=
  if modifier ∈ member.modifiers then member
  else { member with modifiers := member.modifiers ++ [modifier] }

/-- The member with one more annotation. -/
def annotated
    (member : Member)
    (mark : Annotation) : Member :=
  { member with annotations := member.annotations ++ [mark] }

/-- The member with one more parameter. -/
def withParameter
    (member : Member)
    (name typeName : String) : Member :=
  { member with parameters := member.parameters ++ [⟨name, typeName⟩] }

/-- The member with an initializer of unknown kind, or of the kind known
before. -/
def initialized
    (member : Member)
    (raw : String) : Member :=
  { member with initializer := some raw }

/-- The member with an initializer of a known kind. -/
def initializedAs
    (member : Member)
    (raw : String)
    (kind : LiteralKind) : Member :=
  { member with initializer := some raw, initializerKind := some kind }

/-- Whether the member is a field. -/
def isField (member : Member) : Bool :=
  member.kind = .field

/-- Whether the member is visible outside its class. -/
def isPublic (member : Member) : Bool :=
  member.modifiers.contains .public

/-- Whether the member is not bound to an instance. -/
def isStatic (member : Member) : Bool :=
  member.modifiers.contains .static

/-- The first annotation of a name. -/
def annotationNamed?
    (member : Member)
    (name : String) : Option Annotation :=
  PreferenceSchema.annotationNamed? member.annotations name

end Member

/-- A class with its annotations and members. -/
structure ClassDeclaration where
  name : String
  package : Option String
  annotations : List Annotation
  members : List Member
deriving DecidableEq, Repr

namespace ClassDeclaration

/-- The first annotation of a name. -/
def annotationNamed?
    (decl : ClassDeclaration)
    (name : String) : Option Annotation :=
  PreferenceSchema.annotationNamed? decl.annotations name

/-- The fields, in declaration order. -/
def fields (decl : ClassDeclaration) : List Member :=
  decl.members.filter Member.isField

/-- The methods, in declaration order. -/
def methods (decl : ClassDeclaration) : List Member :=
  decl.members.filter fun member => !member.isField

/-- The class with one more annotation. -/
def annotated
    (decl : ClassDeclaration)
    (mark : Annotation) : ClassDeclaration :=
  { decl with annotations := decl.annotations ++ [mark] }

end ClassDeclaration
end PreferenceSchema
