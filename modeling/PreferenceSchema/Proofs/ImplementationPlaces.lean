import PreferenceSchema.Proofs.SourceClasses

/-!
# Places of implementations

The methods of all types of a module are gathered before its items are looked
at, so it does not matter where in a list of items the implementations stand
that are of no trait: among each other they have to keep their order, and so
have all other items, but how the two are interleaved changes nothing of what is
found, neither the declarations nor the errors.
-/

namespace PreferenceSchema
namespace Source

namespace Item

/-- Whether an item is an implementation of no trait. -/
def isInherent : Item → Bool
  | .implementation ofTrait _ _ => !ofTrait
  | _ => false

/-- The implementations of no trait among some items, in order. -/
def implementations (items : List Item) : List Item :=
  items.filter isInherent

/-- All items but the implementations of no trait, in order. -/
def otherItems (items : List Item) : List Item :=
  items.filter fun item => !item.isInherent

/-- Items that others come from by moving implementations of no trait inside of
one list after the other, at the top level or in modules at any depth. -/
inductive MovesTo : List Item → List Item → Prop where
  | here {items moved}
    (sameImplementations : implementations items = implementations moved)
    (sameOthers : otherItems items = otherItems moved) : MovesTo items moved
  | inside {inner moved} (before after name)
    (moves : MovesTo inner moved) :
    MovesTo (before ++ .submodule name (some inner) :: after)
      (before ++ .submodule name (some moved) :: after)
  | trans {items between moved}
    (first : MovesTo items between)
    (second : MovesTo between moved) : MovesTo items moved

end Item

namespace Harvest

theorem ownedFunctions_eq_nil
    {item : Item}
    (other : item.isInherent = false) : ownedFunctions item = [] := by
  cases item with
  | implementation ofTrait type functions =>
      cases ofTrait with
      | true => rfl
      | false => cases other
  | _ => rfl

theorem ofItem_eq_empty
    {item : Item}
    (inherent : item.isInherent = true)
    (package : Option String)
    (methods : List (String × Member)) :
    ofItem package methods item = empty := by
  cases item with
  | implementation => rfl
  | _ => cases inherent

/-- The methods of the types of a module are those in its implementations of no
trait. -/
theorem methodResults_eq
    (items : List Item) :
    methodResults items = methodResults (Item.implementations items) := by
  unfold methodResults Item.implementations
  congr 1
  induction items with
  | nil => rfl
  | cons item rest inductionHypothesis =>
      rw [List.flatMap_cons, List.filter_cons, inductionHypothesis]
      cases inherent : item.isInherent with
      | true => rfl
      | false => rw [ownedFunctions_eq_nil inherent]; rfl

/-- Next to given methods, implementations of no trait add nothing to what is
found. -/
theorem ofItems_eq
    (package : Option String)
    (methods : List (String × Member))
    (items : List Item) :
    ofItems package methods items =
      ofItems package methods (Item.otherItems items) := by
  unfold Item.otherItems
  induction items with
  | nil => rfl
  | cons item rest inductionHypothesis =>
      rw [ofItems, List.filter_cons, inductionHypothesis]
      cases inherent : item.isInherent with
      | true => rw [ofItem_eq_empty inherent, empty_append]; rfl
      | false => rfl

/-- What is found in a module depends on its implementations of no trait and on
its other items, not on how they are interleaved. -/
theorem ofModule_eq
    (package : Option String)
    (items : List Item) :
    ofModule package items =
      ofErrors
        (Function.errorsOf (methodResults (Item.implementations items))) ++
        ofItems package
          (Function.valuesOf (methodResults (Item.implementations items)))
          (Item.otherItems items) := by
  unfold ofModule
  rw [methodResults_eq, ofItems_eq]

/-- Of a module inside some items only what is found in it matters. -/
theorem ofModule_submodule_congr
    {package : Option String}
    {name : String}
    {inner other : List Item}
    (same : ofModule (some (submodulePackage package name)) inner =
      ofModule (some (submodulePackage package name)) other)
    (before after : List Item) :
    ofModule package (before ++ .submodule name (some inner) :: after) =
      ofModule package (before ++ .submodule name (some other) :: after) := by
  have sameMethods :
      methodResults (before ++ .submodule name (some inner) :: after) =
      methodResults (before ++ .submodule name (some other) :: after) := by
    simp only [methodResults, List.flatMap_append, List.flatMap_cons,
      ownedFunctions]
  have sameItem (methods : List (String × Member)) :
      ofItem package methods (.submodule name (some inner)) =
        ofItem package methods (.submodule name (some other)) := same
  unfold ofModule
  rw [sameMethods, ofItems_append, ofItems_append, ofItems, ofItems, sameItem]

/-- Moving implementations changes nothing of what is found. -/
theorem ofModule_eq_of_movesTo
    {items moved : List Item}
    (moves : Item.MovesTo items moved)
    (package : Option String) :
    ofModule package items = ofModule package moved := by
  induction moves generalizing package with
  | here sameImplementations sameOthers =>
      rw [ofModule_eq, sameImplementations, sameOthers, ← ofModule_eq]
  | inside before after name _ inductionHypothesis =>
      exact ofModule_submodule_congr (inductionHypothesis _) before after
  | trans _ _ firstHypothesis secondHypothesis =>
      exact (firstHypothesis package).trans (secondHypothesis package)

end Harvest

namespace SourceDeclarations

/-- Where in their lists the implementations of no trait stand makes no
difference: the same errors are found in the same order, and the outcome is the
same, with the same events. -/
theorem ofItems_eq_of_movesTo
    {items moved : List Item}
    (moves : Item.MovesTo items moved)
    (package : Option String) :
    (Harvest.ofModule package items).errors =
      (Harvest.ofModule package moved).errors ∧
      ofItems items package = ofItems moved package := by
  have same := Harvest.ofModule_eq_of_movesTo moves package
  unfold ofItems
  rw [same]
  exact ⟨rfl, rfl⟩

/-- Two entities. -/
def entityPair : List Item :=
  [.struct ⟨[⟨false, wordPath entityAttribute, .bare⟩], "Settings", .named []⟩,
    .struct ⟨[⟨false, wordPath entityAttribute, .bare⟩], "Account", .named []⟩]

/-- The implementations of two entities. -/
def entityPairImplementations : List Item :=
  [.implementation false (.path none (wordPath "Settings"))
      [⟨[], true, "reset", [.receiver], none⟩],
    .implementation false (.path none (wordPath "Account"))
      [⟨[], true, "close", [.receiver], none⟩]]

/-- The declarations of two entities with their implementations in a module. -/
def entityPairDeclarations : SourceDeclarations where
  entities := [⟨"Settings", some "app", [⟨Naming.entityMark, []⟩],
      [(Member.method "reset" "()").withModifier .public]⟩,
    ⟨"Account", some "app", [⟨Naming.entityMark, []⟩],
      [(Member.method "close" "()").withModifier .public]⟩]
  components := []
  targets := []

theorem entityPair_movesTo :
    let behind :=
      [Item.submodule "app" (some (entityPair ++ entityPairImplementations))]
    let ahead :=
      [Item.submodule "app" (some (entityPairImplementations ++ entityPair))]
    Item.MovesTo behind ahead ∧
      (Harvest.ofModule none behind).errors =
        (Harvest.ofModule none ahead).errors ∧
      ofItems behind none = ofItems ahead none ∧
      (ofItems ahead none).outcome = .ok entityPairDeclarations := by
  intro behind ahead
  have moves : Item.MovesTo behind ahead := .inside [] [] "app" (.here rfl rfl)
  obtain ⟨sameErrors, same⟩ := ofItems_eq_of_movesTo moves none
  exact ⟨moves, sameErrors, same, rfl⟩

end SourceDeclarations
end Source
end PreferenceSchema
