import PreferenceSchema.GenerationPlan

/-!
# Declarations of source files

The declarations that are found in source files: entities, components, and
structures that preferences are injected into.  What was found in several files
is put together file by file.
-/

namespace PreferenceSchema
namespace Source

/-- The declarations of some files, in the order of the source. -/
structure SourceDeclarations where
  entities : List ClassDeclaration
  components : List ClassDeclaration
  /-- The structures with injected fields. -/
  targets : List ClassDeclaration
deriving DecidableEq, Repr

namespace SourceDeclarations

/-- No declarations. -/
def empty : SourceDeclarations :=
  ⟨[], [], []⟩

/-- Whether there are no declarations. -/
def isEmpty (found : SourceDeclarations) : Bool :=
  found.entities.isEmpty && found.components.isEmpty && found.targets.isEmpty

/-- The declarations of some files and of others behind them. -/
def extend (found more : SourceDeclarations) : SourceDeclarations :=
  ⟨found.entities ++ more.entities, found.components ++ more.components,
    found.targets ++ more.targets⟩

instance : Append SourceDeclarations :=
  ⟨extend⟩

@[simp] theorem entities_append
    (found more : SourceDeclarations) :
    (found ++ more).entities = found.entities ++ more.entities := rfl

@[simp] theorem components_append
    (found more : SourceDeclarations) :
    (found ++ more).components = found.components ++ more.components := rfl

@[simp] theorem targets_append
    (found more : SourceDeclarations) :
    (found ++ more).targets = found.targets ++ more.targets := rfl

theorem append_assoc
    (first second third : SourceDeclarations) :
    first ++ second ++ third = first ++ (second ++ third) := by
  show extend (extend first second) third = extend first (extend second third)
  simp only [extend, List.append_assoc]

/-- Runs a pass over the declarations. -/
def process
    (found : SourceDeclarations)
    (configuration : Configuration) : Traced SchemaError GenerationPlan :=
  GenerationPlan.build configuration found.entities found.components
    found.targets

end SourceDeclarations
end Source
end PreferenceSchema
