import PreferenceSchema.Proofs.ComponentExtraction
import PreferenceSchema.Proofs.InjectedFields
import PreferenceSchema.Proofs.TypeDescriptors

/-!
# Targets with arguments

A method injects into the target whose name is the simple name of its
parameter's type, and this is read off the text of the type.  Where the last
segment of a path has no arguments it is the name of that segment.  Arguments
stay in the text, so the simple name then ends in an angle bracket and is the
name of no structure, whatever the arguments are.
-/

namespace PreferenceSchema

open Text Traversal

namespace Source

theorem IsSourceWord.isWord
    {name : String}
    (word : IsSourceWord name) : IsWord name := by
  intro c present
  refine ⟨fun isSign => word.notMem_typeSignPoints c present ?_,
    (word.solid.2 c present).2⟩
  simp only [List.mem_cons, List.not_mem_nil, or_false] at isSign
  rcases isSign with rfl | rfl | rfl <;> decide

namespace Ty

/-- A type is a path with a last segment, without the references and the
parentheses around it.  Behind a type in angle brackets a path begins with
double colons. -/
def EndsIn
    (type : Ty)
    (last : PathSegment) : Prop :=
  ∃ owner path, type.core = .path owner path ∧
    path.segments.getLast? = some last ∧
    (owner.isSome = true → path.leadingColon = true)

/-- The last segment of a type has no arguments, and the type is no borrowed
text. -/
def KeepsName
    (type : Ty)
    (last : PathSegment) : Prop :=
  last.arguments = .none ∧ type.isBorrowedStr = false

variable {type : Ty} {last : PathSegment}

theorem EndsIn.endsInSegment
    (ends : type.EndsIn last)
    (bare : last.arguments = .none)
    (word : IsWord last.name) :
    EndsInSegment type.core.text last.name.toList := by
  obtain ⟨owner, path, isPath, isLast, leading⟩ := ends
  rw [isPath, text, tokens, compactText_append]
  cases owner with
  | none => exact Path.endsInSegment_lastName isLast bare word
  | some tokens =>
      exact .inr
        ((Path.endsQualified_lastName (leading rfl) isLast bare word).append _)

theorem EndsIn.getLast?_text
    (ends : type.EndsIn last)
    {turbofish : Bool}
    {content : List TokenTree}
    (angled : last.arguments = .angled turbofish content) :
    type.core.text.getLast? = some '>' := by
  obtain ⟨owner, path, isPath, isLast, -⟩ := ends
  have closes :=
    Path.getLast?_compactText_tokens isLast turbofish content angled
  simp [isPath, text, tokens, closes]

theorem trim_text (type : Ty) : trim type.text = type.text :=
  trim_compact _

/-- The simple name of a type whose last segment has no arguments is the name of
that segment. -/
theorem EndsIn.simpleTypeName_eq
    (ends : type.EndsIn last)
    (keeps : type.KeepsName last)
    (word : IsWord last.name) : simpleTypeName type.descriptor = last.name := by
  have segment := ends.endsInSegment keeps.1 word
  rw [← trim_text] at segment
  rw [descriptor_eq, keeps.2, if_neg Bool.false_ne_true, simpleTypeName,
    String.toList_ofList, (simpleTypeChars_eq_iff word.isSegment).mpr segment,
    String.ofList_toList]

/-- Arguments of the last segment, or the sign in front of borrowed text, get
into the simple name, so it is not the name of a structure. -/
theorem EndsIn.simpleTypeName_ne
    (ends : type.EndsIn last)
    (notKept : ¬type.KeepsName last)
    {name : String}
    (word : IsSourceWord name) : name ≠ simpleTypeName type.descriptor := by
  suffices sign : ∃ c ∈ simpleTypeChars type.descriptor.toList,
      c.toNat ∈ typeSignPoints by
    obtain ⟨c, present, isSign⟩ := sign
    rintro rfl
    refine word.notMem_typeSignPoints c ?_ isSign
    rwa [toList_simpleTypeName]
  rw [descriptor_eq]
  cases borrowed : type.isBorrowedStr with
  | true =>
      rw [if_pos rfl]
      exact ⟨'&', by decide, by decide⟩
  | false =>
      rw [if_neg Bool.false_ne_true, String.toList_ofList]
      cases arguments : last.arguments with
      | none => exact absurd ⟨arguments, borrowed⟩ notKept
      | angled turbofish content =>
          refine ⟨'>', ?_, by decide⟩
          exact mem_simpleTypeChars_of_getLast? (trim_text _)
            (ends.getLast?_text arguments)
            (by decide)

end Ty
end Source

/-! ## Missing targets -/

section MissingTarget

variable {name descriptor : String}

/-- No class is refused as an entity for a target. -/
theorem EntitySchema.build_ne_missingTarget
    (decl : ClassDeclaration) :
    (build decl).outcome ≠ .error (.missingTarget name descriptor) := by
  intro failed
  cases build_eq_error_iff.mp failed with
  | field _ _ _ refused =>
      obtain ⟨-, other⟩ | ⟨_, _, _, other⟩ :=
        KeyField.eq_of_resolve_eq_error refused <;>
        cases other
  | accessor _ _ _ _ _ misfits => cases misfits

/-- No injector is refused for a target, once there is one. -/
theorem InjectionPlan.build_ne_missingTarget
    (component : ComponentSchema)
    (target : ClassDeclaration) :
    (build component target).outcome ≠
      .error (.missingTarget name descriptor) := by
  intro failed
  obtain ⟨field, -, -, -, unresolved⟩ := build_eq_error_iff.mp failed
  cases unresolved

/-- A pass only misses targets that are not among its own ones. -/
theorem GenerationPlan.name_ne_of_build_eq_missingTarget
    {configuration : Configuration}
    {entities components targets : List ClassDeclaration}
    (failed : (build configuration entities components targets).outcome =
      .error (.missingTarget name descriptor)) :
    ∀ target ∈ targets, target.name ≠ simpleTypeName descriptor := by
  cases build_eq_error_iff.mp failed with
  | entity _ _ refused =>
    exact absurd refused (EntitySchema.build_ne_missingTarget _)
  | injection _ _ _ _ fault =>
      cases fault with
      | missingTarget missing => exact missing
      | injector _ refused =>
        exact absurd refused (InjectionPlan.build_ne_missingTarget _ _)

end MissingTarget

namespace Source
namespace SourceDeclarations

open GenerationPlan

section Lookup

variable {targets : List ClassDeclaration} {type : Ty} {last : PathSegment}

/-- A type that does not keep the name of its last segment stands for no
structure of a source. -/
theorem not_standsFor_of_not_keepsName
    (words : ∀ target ∈ targets, IsSourceWord target.name)
    (ends : type.EndsIn last)
    (notKept : ¬type.KeepsName last)
    (target : ClassDeclaration) :
    ¬StandsFor targets type.descriptor target := by
  intro stands
  exact ends.simpleTypeName_ne notKept (words target stands.1.mem) stands.2

/-- If a structure has the name of the last segment of a type, the type stands
for one that has this name exactly when it keeps it. -/
theorem keepsName_iff_exists_standsFor
    (words : ∀ target ∈ targets, IsSourceWord target.name)
    (ends : type.EndsIn last)
    {target : ClassDeclaration}
    (isTarget : target ∈ targets)
    (named : target.name = last.name) :
    type.KeepsName last ↔
      ∃ first, StandsFor targets type.descriptor first ∧
        first.name = last.name := by
  constructor
  · intro keeps
    have simple :=
      ends.simpleTypeName_eq keeps (named ▸ words target isTarget).isWord
    cases found : targetOf? targets type.descriptor with
    | none =>
        have missing := targetOf?_eq_none_iff.mp found target isTarget
        exact absurd (named.trans simple.symm) missing
    | some first =>
        have stands := targetOf?_eq_some_iff.mp found
        exact ⟨first, stands, stands.2.trans simple⟩
  · rintro ⟨first, stands, -⟩
    by_contra notKept
    exact not_standsFor_of_not_keepsName words ends notKept first stands

/-- No component can inject into a type that does not keep the name of its last
segment. -/
theorem outcome_buildInjector_of_not_keepsName
    (words : ∀ target ∈ targets, IsSourceWord target.name)
    (ends : type.EndsIn last)
    (notKept : ¬type.KeepsName last)
    (component : ComponentSchema) :
    (buildInjector component targets type.descriptor).outcome =
      .error (.missingTarget component.className type.descriptor) :=
  buildInjector_eq_error_iff.mpr <| .missingTarget fun target present =>
    ends.simpleTypeName_ne notKept (words target present)

/-- Where a component is declared that asks for a type which stands for no
target, there is no plan. -/
theorem process_ne_ok_of_not_standsFor
    {found : SourceDeclarations}
    {decl : ClassDeclaration}
    (present : decl ∈ found.components)
    {descriptor : String}
    (asksFor : descriptor ∈ (ComponentSchema.ofDeclaration decl).injectTargets)
    (missing : ∀ target, ¬StandsFor found.targets descriptor target)
    (configuration : Configuration)
    (plan : GenerationPlan) :
    (found.process configuration).outcome ≠ .ok plan := by
  intro planned
  have plannable := (exists_build_eq_ok_iff _ _ _ _).mp ⟨plan, planned⟩
  obtain ⟨injector, target, stands, -⟩ :=
    plannable.componentsInject decl present _
    (ComponentSchema.outcome_build decl) descriptor asksFor
  exact missing target stands

end Lookup

/-- The declaration of a component lists the types that the functions of its
class inject into. -/
theorem exists_component_of_injectsInto
    {items : List Item}
    {package : Option String}
    {found : SourceDeclarations}
    (accepted : (ofItems items package).outcome = .ok found)
    {source : SourceClass}
    (isClass : source ∈ Item.listClasses package items items)
    (isComponent : source.isComponent = true)
    {function : Function}
    (present : function ∈ source.functions)
    {descriptor : String}
    (injects : function.InjectsInto descriptor) :
    ∃ decl ∈ found.components,
      descriptor ∈ (ComponentSchema.ofDeclaration decl).injectTargets := by
  have declared := (lists_of_ofItems_eq_ok accepted).components
  obtain ⟨decl, paired⟩ := exists_mem_zip_of_forall₂ declared
    (List.mem_filter.mpr ⟨isClass, isComponent⟩)
  obtain ⟨mark, -, -, declares⟩ := (List.forall₂_iff_zip.mp declared).2 paired
  refine ⟨decl, (List.of_mem_zip paired).2, ?_⟩
  exact (SourceClass.mem_injectTargetsOf_iff declares descriptor).mpr
    ⟨function, present, injects⟩

/-- Let a method of a component with a receiver have one more parameter, whose
type is a path behind references and parentheses, and let the last segment have
the name of a target.  If the segment has no arguments, and the type is no
borrowed text, the type stands for a target with that name, and no pass misses
it.  Otherwise the component cannot inject into it, and no pass has a plan.  All
names of structures are words of the source. -/
theorem targets_found_iff
    {items : List Item}
    {package : Option String}
    {found : SourceDeclarations}
    (accepted : (ofItems items package).outcome = .ok found)
    (words : ∀ target ∈ found.targets, IsSourceWord target.name)
    {source : SourceClass}
    (isClass : source ∈ Item.listClasses package items items)
    (isComponent : source.isComponent = true)
    {function : Function}
    (present : function ∈ source.functions)
    (hasReceiver : function.hasReceiver = true)
    {pattern : Pattern}
    {type : Ty}
    (onlyArgument :
      function.arguments.filter (fun argument => !argument.isReceiver) =
      [.typed pattern type])
    {last : PathSegment}
    (ends : type.EndsIn last)
    {target : ClassDeclaration}
    (isTarget : target ∈ found.targets)
    (named : target.name = last.name) :
    (type.KeepsName last ↔
        ∃ first, StandsFor found.targets type.descriptor first ∧
        first.name = last.name) ∧
      (type.KeepsName last → ∀ configuration,
        (found.process configuration).outcome ≠
          .error (.missingTarget source.name type.descriptor)) ∧
      (¬type.KeepsName last →
        (∀ component,
            (buildInjector component found.targets type.descriptor).outcome =
            .error (.missingTarget component.className type.descriptor)) ∧
          ∀ configuration plan, (found.process configuration).outcome ≠
            .ok plan) := by
  have standsIff := keepsName_iff_exists_standsFor words ends isTarget named
  refine ⟨standsIff, ?_, ?_⟩
  · intro keeps configuration failed
    obtain ⟨first, stands, -⟩ := standsIff.mp keeps
    exact name_ne_of_build_eq_missingTarget failed first stands.1.mem stands.2
  · intro notKept
    refine ⟨outcome_buildInjector_of_not_keepsName words ends notKept, ?_⟩
    have injects : function.InjectsInto type.descriptor :=
      ⟨hasReceiver, pattern, type, onlyArgument, rfl⟩
    obtain ⟨decl, declPresent, asksFor⟩ :=
      exists_component_of_injectsInto accepted isClass isComponent
        present injects
    exact process_ne_ok_of_not_standsFor declPresent asksFor
      (not_standsFor_of_not_keepsName words ends notKept)

/-- A mutable reference to a screen with some arguments. -/
def screenReference (arguments : PathArguments) : Ty :=
  .reference none true (.path none ⟨false, [⟨"Screen", arguments⟩]⟩)

/-- The method that injects into a screen with some arguments. -/
def injectScreen (arguments : PathArguments) : Function :=
  ⟨[], false, "inject",
    [.receiver, .typed ⟨.name "target", [.word "target"]⟩
      (screenReference arguments)], none⟩

/-- The class of the component that injects into a screen with some
arguments. -/
def screenInjector (arguments : PathArguments) : SourceClass :=
  .ofTrait none
    [componentMarkOf [.word "entities", .group .parenthesis [.word "Settings"]]]
    "AppComponent" [injectScreen arguments]

/-- A file with an entity, with a component that injects into a screen with some
arguments, and with a structure `Screen` into which the entity is injected. -/
def screenFile (arguments : PathArguments) : List Item :=
  [.struct ⟨[⟨false, wordPath entityAttribute, .bare⟩], "Settings",
      .named [⟨[], false, some "volume", .path none (wordPath "i32")⟩]⟩,
    .trait (screenInjector arguments).attributes "AppComponent"
      [injectScreen arguments],
    .struct ⟨[], "Screen",
      .named [⟨[⟨false, wordPath injectAttribute, .bare⟩], false, some "store",
          .path none (wordPath "Preference_Settings")⟩,
        ⟨[], false, some "name",
          .reference (some "a") false (.path none (wordPath "str"))⟩]⟩]

/-- The target `Screen`. -/
def screenTarget : ClassDeclaration :=
  ⟨"Screen", none, [],
    [((Member.field "store" "Preference_Settings").withModifier
        .private).annotated
        ⟨Naming.injectMark, []⟩,
      (Member.field "name" "&str").withModifier .private]⟩

/-- The declarations of a file with an entity, a component and a screen. -/
def screenDeclarations (descriptor : String) : SourceDeclarations where
  entities := [⟨"Settings", none, [⟨Naming.entityMark, []⟩],
    [(Member.field "volume" "i32").withModifier .private]⟩]
  components :=
    [⟨"AppComponent", none,
      [⟨Naming.componentMark, [("entities", "Settings")]⟩],
      [((Member.method "inject" "()").withModifier .public).withParameter
        "target" descriptor]⟩]
  targets := [screenTarget]

theorem isSourceWord_screen :
    ∀ target ∈ [screenTarget], IsSourceWord target.name := by
  intro target present
  obtain rfl := List.mem_singleton.mp present
  exact .inl (by decide +kernel)

theorem screenReference_endsIn
    (arguments : PathArguments) :
    (screenReference arguments).EndsIn ⟨"Screen", arguments⟩ :=
  ⟨none, _, rfl, rfl, nofun⟩

theorem bareScreen_found :
    (ofItems (screenFile .none) none).outcome =
      .ok (screenDeclarations "Screen") ∧
      ((screenReference .none).KeepsName ⟨"Screen", .none⟩ ↔
        ∃ first, StandsFor [screenTarget] "Screen" first ∧
        first.name = "Screen") ∧
      ∀ configuration,
        ((screenDeclarations "Screen").process configuration).outcome ≠
        .error (.missingTarget "AppComponent" "Screen") := by
  have accepted : (ofItems (screenFile .none) none).outcome =
      .ok (screenDeclarations "Screen") := by rfl
  have isClass : screenInjector .none ∈ Item.listClasses none (screenFile .none)
      (screenFile .none) := .tail _ (.head _)
  have atScreen := targets_found_iff accepted isSourceWord_screen isClass rfl
    (List.mem_singleton_self (injectScreen .none)) rfl rfl
      (screenReference_endsIn .none)
    (List.mem_singleton_self screenTarget) rfl
  exact ⟨accepted, atScreen.1, atScreen.2.1 ⟨rfl, rfl⟩⟩

/-- A lifetime that is left out, in angle brackets. -/
def elidedLifetime : PathArguments :=
  .angled false (TokenTree.lifetime "_")

/-- A target is missed where it is asked for with an argument. -/
theorem not_forall_targets_found :
    ¬∀ (items : List Item) (package : Option String)
      (found : SourceDeclarations),
      (ofItems items package).outcome = .ok found →
      (∀ target ∈ found.targets, IsSourceWord target.name) →
      ∀ source ∈ Item.listClasses package items items,
      source.isComponent = true →
        ∀ function ∈ source.functions, function.hasReceiver = true →
          ∀ pattern type, function.arguments.filter
              (fun argument => !argument.isReceiver) =
              [.typed pattern type] →
            ∀ last, type.EndsIn last →
              ∀ target ∈ found.targets, target.name = last.name →
              ∀ configuration, (found.process configuration).outcome ≠
                .error (.missingTarget source.name type.descriptor) := by
  intro always
  have accepted : (ofItems (screenFile elidedLifetime) none).outcome =
      .ok (screenDeclarations "Screen<'_>") := by rfl
  have isClass : screenInjector elidedLifetime ∈
      Item.listClasses none (screenFile elidedLifetime)
      (screenFile elidedLifetime) := .tail _ (.head _)
  have failed : ((screenDeclarations "Screen<'_>").process .standard).outcome =
      .error (.missingTarget "AppComponent" "Screen<'_>") := by
    decide +kernel
  exact always _ _ _ accepted isSourceWord_screen _ isClass rfl _
    (List.mem_singleton_self (injectScreen elidedLifetime)) rfl _ _ rfl _
    (screenReference_endsIn elidedLifetime) _
      (List.mem_singleton_self screenTarget) rfl .standard
    failed

end SourceDeclarations
end Source
end PreferenceSchema
