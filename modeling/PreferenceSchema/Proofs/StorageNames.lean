import Mathlib.Data.List.Induction
import PreferenceSchema.GenerationPlan
import PreferenceSchema.Proofs.Collection

/-!
# The entities of a pass

A pass keeps a map from the storage names so far to the classes that own them.
As long as the names are distinct the map finds exactly the class of the schema
that holds a name, so the entities of a pass are collected under distinct
storage names.
-/

namespace PreferenceSchema
namespace GenerationPlan

open Traversal Collection

/-! ## The owners of storage names -/

/-- The owners of the storage names of some schemas. -/
def ownersOf (schemas : List EntitySchema) : NameMap String :=
  schemas.foldl (fun owners schema =>
    owners.insert schema.storageName schema.className) .empty

@[simp] theorem ownersOf_nil : ownersOf [] = .empty := rfl

theorem ownersOf_concat
    (schemas : List EntitySchema)
    (schema : EntitySchema) :
    ownersOf (schemas ++ [schema]) =
      (ownersOf schemas).insert schema.storageName schema.className := by
  simp [ownersOf]

/-- The owner of a name is the class of the schema that holds it.  Owners are
entered in order, so the last schema is the one that is entered last. -/
theorem get?_ownersOf
    {schemas : List EntitySchema}
    (distinct : (schemas.map EntitySchema.storageName).Nodup)
    (name : String) :
    (ownersOf schemas).get? name =
      (schemas.find? fun owner => owner.storageName == name).map
        EntitySchema.className := by
  induction schemas using List.reverseRecOn with
  | nil => rfl
  | append_singleton schemas last inductionHypothesis =>
      have earlierDistinct : (schemas.map EntitySchema.storageName).Nodup :=
        distinct.sublist (by simp)
      have free := (nodup_concat_iff earlierDistinct).mp distinct
      rw [ownersOf_concat, NameMap.get?_insert,
        inductionHypothesis earlierDistinct, List.find?_append]
      split
      case isTrue same =>
        have absent : (schemas.find? fun owner => owner.storageName == name) =
            none := by
          simpa [same] using free
        rw [absent]
        simp [same]
      case isFalse different =>
        have otherName : ¬last.storageName = name :=
          fun equal => different equal.symm
        simp [otherName]

/-! ## Entities -/

/-- The error for a class whose storage name belongs to an earlier one. -/
def storageClash (owner schema : EntitySchema) : SchemaError :=
  .duplicateStorage schema.storageName owner.className schema.className

/-- Classes build, one by one, to schemas with distinct storage names. -/
abbrev BuildsTo
    (decls : List ClassDeclaration)
    (schemas : List EntitySchema) : Prop :=
  Collects (fun decl => (EntitySchema.build decl).outcome)
    EntitySchema.storageName decls schemas

/-- The schemas of classes, none of which may have a storage name that is
held. -/
abbrev collectSchemas
    (held : List EntitySchema)
    (decls : List ClassDeclaration) : Except SchemaError (List EntitySchema) :=
  collect (fun decl => (EntitySchema.build decl).outcome)
    EntitySchema.storageName storageClash
    held decls

/-- The entity of a schema, with the methods of its keys. -/
def entityOf
    (handle : String)
    (schema : EntitySchema) : EntityPlan :=
  ⟨schema, schema.planAccessors handle⟩

/-- A pass collects the schemas of its entities under distinct storage names. -/
theorem outcome_buildEntities
    (handle : String)
    {held : List EntitySchema}
    (distinct : (held.map EntitySchema.storageName).Nodup)
    (decls : List ClassDeclaration) :
    (buildEntities handle (ownersOf held) decls).outcome =
      (collectSchemas held decls).map fun schemas =>
        (ownersOf (held ++ schemas), schemas.map (entityOf handle)) := by
  rw [collectSchemas]
  induction decls generalizing held with
  | nil => simp [buildEntities, collect, Except.map]
  | cons first rest inductionHypothesis =>
      rw [buildEntities, collect, accept, Traced.outcome_bind]
      cases (EntitySchema.build first).outcome with
      | error error => rfl
      | ok schema =>
          simp only [Except.bind, get?_ownersOf distinct]
          cases found : held.find? fun owner =>
            owner.storageName == schema.storageName with
          | some owner => rfl
          | none =>
              have free :
                  ((held ++ [schema]).map EntitySchema.storageName).Nodup :=
                (nodup_concat_iff distinct).mpr (by simpa using found)
              simp only [Option.map_none, Traced.outcome_bind]
              rw [← ownersOf_concat, inductionHypothesis free]
              cases collect (fun decl => (EntitySchema.build decl).outcome)
                EntitySchema.storageName storageClash (held ++ [schema]) rest
                  <;>
                simp [Except.map, Except.bind, entityOf]

end GenerationPlan
end PreferenceSchema
