import PreferenceSchema.Declaration
import PreferenceSchema.Naming
import PreferenceSchema.NameMap
import PreferenceSchema.SchemaError
import PreferenceSchema.Traced

/-!
# Component schemas

A component lists the entities that it gives access to and the types that it
injects into.
-/

namespace PreferenceSchema

/-- A component. -/
structure ComponentSchema where
  package : Option String
  className : String
  /-- Storage names of the entities. -/
  entityNames : NameSet
  /-- Parameter types of the injecting methods, in declaration order. -/
  injectTargets : List String
deriving DecidableEq

namespace ComponentSchema

/-- The names in a comma-separated list, without the blanks around them; empty
ones are dropped. -/
def splitNames (value : String) : List String :=
  ((Text.splitAt ',' value.toList).map Text.trim).filterMap fun piece =>
    if piece = [] then none else some (String.ofList piece)

/-- The entities that the component annotation of a class lists. -/
def entityNamesOf (decl : ClassDeclaration) : NameSet :=
  match decl.annotationNamed? Naming.componentMark with
  | some mark =>
    .ofList (mark.values.flatMap fun (_, value) => splitNames value)
  | none => .empty

/-- The type that a method injects into: that of the only parameter of an
instance method. -/
def injectedType? (member : Member) : Option String :=
  if member.isField || member.isStatic then none
  else
    match member.parameters with
    | [parameter] => some parameter.typeName
    | _ => none

/-- The first occurrence of every element. -/
def firstOccurrences (names : List String) : List String :=
  names.foldl (fun seen name => if name ∈ seen then seen else seen ++ [name]) []

/-- The types that the methods of a class inject into. -/
def injectTargetsOf (decl : ClassDeclaration) : List String :=
  firstOccurrences (decl.members.filterMap injectedType?)

/-- The schema of a component. -/
def ofDeclaration (decl : ClassDeclaration) : ComponentSchema where
  package := decl.package
  className := decl.name
  entityNames := entityNamesOf decl
  injectTargets := injectTargetsOf decl

/-- Builds the schema of a component, which cannot fail. -/
def build (decl : ClassDeclaration) : Traced SchemaError ComponentSchema := do
  let component := ofDeclaration decl
  Traced.report [.builtComponent decl.name component.entityNames.names.length
    component.injectTargets.length]
  return component

/-- Whether the component gives access to an entity. -/
def containsEntity
    (component : ComponentSchema)
    (storage : String) : Bool :=
  component.entityNames.contains storage

/-- The name of the generated class. -/
def generatedClassName (component : ComponentSchema) : String :=
  Naming.componentClassName component.className

end ComponentSchema
end PreferenceSchema
