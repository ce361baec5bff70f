import Mathlib.Data.List.Infix
import PreferenceSchema.Proofs.Pass

/-!
# Storage classes of a plan

The entities of a plan have distinct storage names, so each is found by its name
and by no other one.  A generated class has the name of what it is made for
behind a start that tells its kind.  The starts of storage classes and of
component classes have a common stem, but neither of them begins with the other,
so no storage class has the name of a class of another kind, whatever the names
behind the starts are.
-/

namespace PreferenceSchema

open Collection

namespace Naming

/-! ## Starts of names -/

/-- Two starts, neither of which begins with the other, start no name in
common. -/
theorem start_append_ne
    {left right : String}
    (leftApart : ¬left.toList <+: right.toList)
    (rightApart : ¬right.toList <+: left.toList)
    (leftName rightName : String) : left ++ leftName ≠ right ++ rightName := by
  intro equal
  have chars := congrArg String.toList equal
  rw [String.toList_append, String.toList_append] at chars
  have leftStarts : left.toList <+: right.toList ++ rightName.toList :=
    ⟨leftName.toList, chars⟩
  have rightStarts : right.toList <+: right.toList ++ rightName.toList :=
    List.prefix_append _ _
  rcases List.prefix_or_prefix_of_prefix leftStarts rightStarts
    with inRight | inLeft
  · exact leftApart inRight
  · exact rightApart inLeft

/-- Different storage names give different classes. -/
theorem storageClassName_injective : Function.Injective storageClassName := by
  intro left right equal
  exact (String.append_right_inj storageStart).mp equal

theorem storageClassName_ne_componentClassName
    (storage component : String) :
    storageClassName storage ≠ componentClassName component :=
  start_append_ne (by decide) (by decide) storage component

theorem storageClassName_ne_injectorClassName
    (storage target : String) :
    storageClassName storage ≠ injectorClassName target :=
  start_append_ne (by decide) (by decide) storage target

end Naming

namespace GenerationPlan

/-- The storage classes of a plan have names of their own: no two of them share
one, and none has the name of the class of a component or of an injector. -/
structure StorageClassesApart (plan : GenerationPlan) : Prop where
  distinct :
    (plan.entities.map fun entity => entity.schema.generatedClassName).Nodup
  apartFromComponents : ∀ entity ∈ plan.entities, ∀ component ∈ plan.components,
    entity.schema.generatedClassName ≠ component.generatedClassName
  apartFromInjectors : ∀ entity ∈ plan.entities, ∀ injector ∈ plan.injectors,
    entity.schema.generatedClassName ≠ injector.injectorClassName

/-- Entities with distinct storage names have storage classes of their own. -/
theorem storageClassesApart_of_nodup
    {plan : GenerationPlan}
    (namesDistinct :
      (plan.entities.map fun entity => entity.schema.storageName).Nodup) :
    plan.StorageClassesApart where
  distinct := by
    have classNames := namesDistinct.map Naming.storageClassName_injective
    rw [List.map_map] at classNames
    exact classNames
  apartFromComponents := fun entity _ component _ =>
    Naming.storageClassName_ne_componentClassName entity.schema.storageName
      component.className
  apartFromInjectors := fun entity _ injector _ =>
    Naming.storageClassName_ne_injectorClassName entity.schema.storageName
      injector.targetClass

/-- In the plan of a pass every storage class has a name that no other generated
class of the plan has, and the search for an entity by a storage name finds the
entity with that name. -/
theorem storage_classes_unique
    {configuration : Configuration}
    {entities components targets : List ClassDeclaration}
    {plan : GenerationPlan}
    (accepted : (build configuration entities components targets).outcome =
      .ok plan) :
    plan.StorageClassesApart ∧
      ∀ storage entity, plan.entity? storage = some entity ↔
        entity ∈ plan.entities ∧ entity.schema.storageName = storage := by
  have namesDistinct := (build_eq_ok_iff.mp accepted).namesDistinct
  refine ⟨storageClassesApart_of_nodup namesDistinct, ?_⟩
  intro storage entity
  exact find?_eq_some_iff namesDistinct

/-- An entity without keys, with a storage name of its own. -/
def emptyEntity (className storage : String) : ClassDeclaration where
  name := className
  package := none
  annotations := [⟨Naming.entityMark, [("name", storage)]⟩]
  members := []

/-- The plan of an entity without keys. -/
def emptyEntityPlan (className storage : String) : EntityPlan :=
  entityOf Naming.defaultHandle
    { package := none
      className := className
      storageName := storage
      keys := .empty
      overrides := .empty }

/-- A component with a name, that injects into the screen. -/
def screenComponent (name : String) : ClassDeclaration where
  name := name
  package := none
  annotations := []
  members := [(Member.method "inject" "void").withParameter "target" "Screen"]

/-- A plan with storage names that look like the ends of other generated
names. -/
def lookalikePlan : GenerationPlan where
  entities := [emptyEntityPlan "Settings" "Component_App",
    emptyEntityPlan "Account" "Screen"]
  components := [⟨none, "App", .empty, ["Screen"]⟩]
  injectors := [⟨some "app", "Screen", "PreferenceComponent_App", []⟩]

/-- Storage names that look like those of component and injector classes are
told apart from them. -/
theorem lookalikePlan_storage_classes :
    (build .standard
        [emptyEntity "Settings" "Component_App", emptyEntity "Account" "Screen"]
        [screenComponent "App"] [⟨"Screen", some "app", [], []⟩]).outcome =
          .ok lookalikePlan ∧
      lookalikePlan.StorageClassesApart ∧
      ∀ storage entity, lookalikePlan.entity? storage = some entity ↔
        entity ∈ lookalikePlan.entities ∧
          entity.schema.storageName = storage := by
  have accepted : (build .standard
      [emptyEntity "Settings" "Component_App", emptyEntity "Account" "Screen"]
      [screenComponent "App"] [⟨"Screen", some "app", [], []⟩]).outcome =
        .ok lookalikePlan := by
    decide +kernel
  exact ⟨accepted, storage_classes_unique accepted⟩

end GenerationPlan
end PreferenceSchema
