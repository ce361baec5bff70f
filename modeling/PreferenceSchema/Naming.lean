import PreferenceSchema.TypeName

/-!
# Names of marks and of generated code

The names of the marks that declarations carry, and the names of the classes and
methods that are generated from them.
-/

namespace PreferenceSchema
namespace Naming

/-- Marks a class as an entity; its attribute `name` is the storage name. -/
def entityMark : String := "PreferenceEntity"

/-- Gives a field a key of its own in its attribute `name`. -/
def keyMark : String := "KeyName"

/-- Marks a custom accessor of the key in its attribute `keyname`. -/
def functionMark : String := "PreferenceFunction"

/-- Marks a class as a component; all its attributes list entities. -/
def componentMark : String := "PreferenceComponent"

/-- Marks a field that is injected. -/
def injectMark : String := "InjectPreference"

/-- Start of the names of storage classes. -/
def storageStart : String := "Preference_"

/-- Start of the names of component classes. -/
def componentStart : String := "PreferenceComponent_"

/-- Start of the names of injector classes. -/
def injectorStart : String := "Injector_"

/-- The variable that holds the target inside an injector. -/
def injectObject : String := "injectObject"

/-- The storage handle unless another one is configured. -/
def defaultHandle : String := "preference"

/-- The storage class of an entity. -/
def storageClassName (storage : String) : String :=
  storageStart ++ storage

/-- The generated class of a component. -/
def componentClassName (component : String) : String :=
  componentStart ++ component

/-- The injector class of a target. -/
def injectorClassName (target : String) : String :=
  injectorStart ++ target

/-- The entity whose storage class a type descriptor names, if it names one. -/
def storedEntity? (descriptor : String) : Option String :=
  match storageStart.toList.isPrefixOf? (simpleTypeChars descriptor.toList) with
  | some [] => none
  | some entity => some (String.ofList entity)
  | none => none

end Naming
end PreferenceSchema
