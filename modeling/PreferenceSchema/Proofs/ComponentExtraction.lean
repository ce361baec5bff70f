import PreferenceSchema.Proofs.ComponentOptions
import PreferenceSchema.Proofs.InjectorClasses

/-!
# Components of source files

The schema of a component has exactly the names that the options of its class
list, however the options are spread over attributes, and as its targets the
types that the methods of the class inject into, each where it occurs first.
-/

namespace PreferenceSchema

open Traversal

namespace ComponentSchema

/-! ## First occurrences -/

/-- Dropping repetitions drops no name. -/
@[simp] theorem mem_firstOccurrences_iff
    {names : List String}
    {name : String} : name ∈ firstOccurrences names ↔ name ∈ names := by
  induction names using List.reverseRecOn with
  | nil => rfl
  | append_singleton names last inductionHypothesis =>
      rw [firstOccurrences_concat, List.mem_append, ← inductionHypothesis,
        List.mem_singleton]
      split
      case isTrue present =>
        refine ⟨.inl, ?_⟩
        rintro (isEarlier | rfl)
        · exact isEarlier
        · exact present
      case isFalse => rw [List.mem_append, List.mem_singleton]

/-- The names are in the order of their first occurrences: one of them occurs
somewhere before every occurrence of those behind it. -/
theorem pairwise_firstOccurrences
    (names : List String) :
    (firstOccurrences names).Pairwise fun first second =>
      ∃ before after, names = before ++ first :: after ∧ second ∉ before := by
  induction names using List.reverseRecOn with
  | nil => exact List.Pairwise.nil
  | append_singleton names last inductionHypothesis =>
      have extended : (firstOccurrences names).Pairwise fun first second =>
          ∃ before after, names ++ [last] = before ++ first :: after ∧
            second ∉ before := by
        apply inductionHypothesis.imp
        rintro first second ⟨before, after, rfl, absent⟩
        exact ⟨before, after ++ [last], by simp, absent⟩
      rw [firstOccurrences_concat]
      split
      case isTrue => exact extended
      case isFalse new =>
        rw [mem_firstOccurrences_iff] at new
        apply List.pairwise_append.mpr
        refine ⟨extended, List.pairwise_singleton _ _, ?_⟩
        intro first present second isLast
        obtain rfl := List.mem_singleton.mp isLast
        obtain ⟨before, after, rfl⟩ :=
          List.append_of_mem (mem_firstOccurrences_iff.mp present)
        refine ⟨before, after ++ [second], by simp, ?_⟩
        exact fun inBefore => new (List.mem_append_left _ inBefore)

end ComponentSchema

namespace Source

/-! ## Injecting functions -/

namespace Function

/-- A function injects into a type: it has a receiver, and a value of the type
is all else that it is given. -/
def InjectsInto
    (function : Function)
    (descriptor : String) : Prop :=
  function.hasReceiver = true ∧
    ∃ pattern type, function.arguments.filter
        (fun argument => !argument.isReceiver) =
        [.typed pattern type] ∧
      descriptor = type.descriptor

/-- The type that a function injects into, read off its parameters. -/
def injectedType? (function : Function) : Option String :=
  match function.hasReceiver, function.parameters with
  | true, [parameter] => some parameter.typeName
  | _, _ => none

/-- The parameters of a function are its arguments but for the receiver, each
with the name of its pattern and the text of its type. -/
theorem parameters_eq_map
    (function : Function) :
    ∃ typed : List (Pattern × Ty),
      function.arguments.filter (fun argument => !argument.isReceiver) =
          typed.map (fun (pattern, type) => .typed pattern type) ∧
        function.parameters = typed.map fun (pattern, type) =>
          ⟨pattern.parameterName, type.descriptor⟩ := by
  unfold parameters
  induction function.arguments with
  | nil => exact ⟨[], rfl, rfl⟩
  | cons first rest inductionHypothesis =>
      obtain ⟨typed, arguments, parameters⟩ := inductionHypothesis
      cases first with
      | receiver => exact ⟨typed, arguments, parameters⟩
      | typed pattern type =>
          refine ⟨(pattern, type) :: typed, ?_, ?_⟩
          · rw [List.filter_cons_of_pos rfl, arguments, List.map_cons]
          · rw [List.map_cons, ← parameters]
            rfl

/-- The type that a function injects into is that of its only parameter. -/
theorem injectedType?_eq_some_iff
    {function : Function}
    {descriptor : String} :
    function.injectedType? = some descriptor ↔
      function.InjectsInto descriptor := by
  obtain ⟨typed, arguments, parameters⟩ := function.parameters_eq_map
  unfold injectedType? InjectsInto
  rw [arguments, parameters]
  match function.hasReceiver, typed with
  | false, _ => simp
  | true, [] => simp
  | true, [(pattern, type)] => simp [eq_comm]
  | true, _ :: _ :: _ => simp

/-- The member of a function is taken to inject into the type that the function
injects into. -/
theorem injectedType?_toMember
    {function : Function}
    {isPublic : Bool}
    {member : Member}
    (made : function.toMember isPublic = .ok member) :
    function.injectedType? = ComponentSchema.injectedType? member := by
  obtain ⟨marks, -, rfl⟩ := toMember_eq_ok_iff.mp made
  rw [signatureMember_eq]
  unfold injectedType? ComponentSchema.injectedType?
  match function.hasReceiver, function.parameters with
  | true, [] | true, [_] | true, _ :: _ :: _ => cases isPublic <;> rfl
  | false, _ => cases isPublic <;> rfl

end Function

namespace SourceClass

/-- A function that injects into the first type stands before all that inject
into the second. -/
def InjectsFirst
    (source : SourceClass)
    (first second : String) : Prop :=
  ∃ before function after, source.functions = before ++ function :: after ∧
    function.InjectsInto first ∧ ∀ earlier ∈ before, ¬earlier.InjectsInto second

/-- The schema of a component has what the source of its class says. -/
structure Extracts
    (source : SourceClass)
    (schema : ComponentSchema) : Prop where
  containsEntity_iff : ∀ name, schema.containsEntity name = true ↔
    ∃ option, source.HasOption option ∧ option.Names name
  /-- Another class with the same options, in whatever order and number, has the
  same names. -/
  entityNames_eq : ∀ (other : SourceClass) decl, other.HasOptionWords →
    other.DeclaresComponent decl →
      (∀ option, other.HasOption option ↔ source.HasOption option) →
        (ComponentSchema.ofDeclaration decl).entityNames = schema.entityNames
  mem_injectTargets_iff : ∀ descriptor, descriptor ∈ schema.injectTargets ↔
    ∃ function ∈ source.functions, function.InjectsInto descriptor
  injectTargets_nodup : schema.injectTargets.Nodup
  injectTargets_ordered : schema.injectTargets.Pairwise source.InjectsFirst

variable {source : SourceClass} {decl : ClassDeclaration}

/-! ## Names -/

/-- A component contains a name exactly if one of its options names it. -/
theorem containsEntity_iff_of_declaresComponent
    (words : source.HasOptionWords)
    (declares : source.DeclaresComponent decl)
    (name : String) :
    (ComponentSchema.ofDeclaration decl).containsEntity name = true ↔
      ∃ option, source.HasOption option ∧ option.Names name := by
  obtain ⟨mark, read, -, isDeclared⟩ := declares
  obtain ⟨lists, written, rfl⟩ := readComponentMark_eq_ok_iff.mp read
  have names : (ComponentSchema.ofDeclaration decl).entityNames =
      .ofList ((lists.flatten.map ComponentOption.value).flatMap fun option =>
        ComponentSchema.splitNames option.2) := by
    change ComponentSchema.entityNamesOf decl = _
    unfold ComponentSchema.entityNamesOf ClassDeclaration.annotationNamed?
    rw [isDeclared.annotations]
    rfl
  unfold ComponentSchema.containsEntity
  rw [names, NameSet.contains_ofList, List.contains_iff_mem, List.flatMap_map,
    List.mem_flatMap]
  apply exists_congr
  intro option
  rw [hasOption_iff_mem_flatten written]
  apply and_congr_right
  intro present
  apply ComponentOption.mem_splitNames_value_iff
  exact endsInWords_of_hasOption words
    ((hasOption_iff_mem_flatten written).mpr present)

/-- The entities of a component depend on which options it has, and neither on
their order nor on the attributes they stand in. -/
theorem entityNames_eq_of_declaresComponent
    {other : SourceClass}
    {otherDecl : ClassDeclaration}
    (words : source.HasOptionWords)
    (declares : source.DeclaresComponent decl)
    (otherWords : other.HasOptionWords)
    (otherDeclares : other.DeclaresComponent otherDecl)
    (same : ∀ option, other.HasOption option ↔ source.HasOption option) :
    (ComponentSchema.ofDeclaration otherDecl).entityNames =
      (ComponentSchema.ofDeclaration decl).entityNames := by
  apply NameSet.eq_of_contains_eq
  intro name
  have ofOther :=
    containsEntity_iff_of_declaresComponent otherWords otherDeclares name
  have ofSource := containsEntity_iff_of_declaresComponent words declares name
  simp only [same] at ofOther
  exact ofOther.trans ofSource.symm

/-! ## Targets -/

/-- The members of a class inject into the types that its functions inject
into. -/
theorem filterMap_injectedType?_of_declares
    {annotations : List Annotation}
    (declares : source.Declares annotations decl) :
    decl.members.filterMap ComponentSchema.injectedType? =
      source.functions.filterMap Function.injectedType? := by
  obtain ⟨ofFields, ofFunctions, fieldsMade, functionsMade, members⟩ :=
    declares.members
  have noTargets : ofFields.filterMap ComponentSchema.injectedType? = [] := by
    rw [List.filterMap_eq_nil_iff]
    intro member present
    obtain ⟨field, -, made⟩ := fieldsMade.mem_iff.mp present
    obtain ⟨name, -, outline⟩ := Field.outline_of_toMember_eq_ok made
    have isField : member.isField = true :=
      decide_eq_true (congrArg Prod.fst outline)
    unfold ComponentSchema.injectedType?
    rw [isField]
    rfl
  have sameTypes : source.functions.map Function.injectedType? =
      ofFunctions.map ComponentSchema.injectedType? :=
    map_eq_map_of_forall₂ functionsMade Function.injectedType?_toMember
  have sameTargets := congrArg (List.filterMap id) sameTypes
  rw [List.filterMap_map, List.filterMap_map] at sameTargets
  rw [members, List.filterMap_append, noTargets]
  exact sameTargets.symm

/-- A component injects into a type exactly if one of its functions does. -/
theorem mem_injectTargetsOf_iff
    {annotations : List Annotation}
    (declares : source.Declares annotations decl)
    (descriptor : String) :
    descriptor ∈ ComponentSchema.injectTargetsOf decl ↔
      ∃ function ∈ source.functions, function.InjectsInto descriptor := by
  unfold ComponentSchema.injectTargetsOf
  rw [ComponentSchema.mem_firstOccurrences_iff,
    filterMap_injectedType?_of_declares declares, List.mem_filterMap]
  simp only [Function.injectedType?_eq_some_iff]

/-- The types that a component injects into stand in the order of the functions
that first mention them. -/
theorem pairwise_injectTargetsOf
    {annotations : List Annotation}
    (declares : source.Declares annotations decl) :
    (ComponentSchema.injectTargetsOf decl).Pairwise source.InjectsFirst := by
  apply (ComponentSchema.pairwise_firstOccurrences _).imp
  rintro first second ⟨before, after, types, absent⟩
  rw [filterMap_injectedType?_of_declares declares,
    List.filterMap_eq_append_iff] at types
  obtain ⟨functionsBefore, others, functions, typesBefore, typesBehind⟩ := types
  obtain ⟨skipped, function, functionsAfter, rfl, noTypes, injects, -⟩ :=
    List.filterMap_eq_cons_iff.mp typesBehind
  refine ⟨functionsBefore ++ skipped, function, functionsAfter, ?_,
    Function.injectedType?_eq_some_iff.mp injects, ?_⟩
  · rw [functions, List.append_assoc]
  · intro earlier present injectsToo
    have earlierType := Function.injectedType?_eq_some_iff.mpr injectsToo
    rcases List.mem_append.mp present with inBefore | inSkipped
    · apply absent
      rw [← typesBefore]
      exact List.mem_filterMap.mpr ⟨earlier, inBefore, earlierType⟩
    · rw [noTypes earlier inSkipped] at earlierType
      cases earlierType

/-! ## Schemas -/

/-- A class that is declared as a component has a schema, with what its source
says. -/
theorem exists_extracts_of_declaresComponent
    (words : source.HasOptionWords)
    (declares : source.DeclaresComponent decl) :
    ∃ schema, (ComponentSchema.build decl).outcome = .ok schema ∧
      source.Extracts schema := by
  refine ⟨.ofDeclaration decl, rfl, ?_⟩
  have names := containsEntity_iff_of_declaresComponent words declares
  have sameNames (other : SourceClass) (otherDecl : ClassDeclaration)
      (otherWords : other.HasOptionWords)
        (otherDeclares : other.DeclaresComponent otherDecl) :=
    entityNames_eq_of_declaresComponent words declares otherWords otherDeclares
  obtain ⟨mark, -, -, isDeclared⟩ := declares
  exact ⟨names, sameNames, mem_injectTargetsOf_iff isDeclared,
    ComponentSchema.nodup_firstOccurrences _,
    pairwise_injectTargetsOf isDeclared⟩

end SourceClass

namespace SourceDeclarations

/-- The components of a file without errors have, each of them, exactly the
names that the options of its class list and the types that its functions inject
into. -/
theorem components_extracted
    {items : List Item}
    {package : Option String}
    {found : SourceDeclarations}
    (accepted : (ofItems items package).outcome = .ok found)
    (words : ∀ source ∈ Item.listClasses package items items,
      source.HasOptionWords) :
    List.Forall₂
      (fun source decl =>
        ∃ schema, (ComponentSchema.build decl).outcome = .ok schema ∧
          source.Extracts schema)
      ((Item.listClasses package items items).filter SourceClass.isComponent)
        found.components := by
  obtain ⟨noErrors, rfl⟩ := ofItems_eq_ok_iff.mp accepted
  unfold Harvest.ofModule at noErrors
  rw [Harvest.errors_append, List.append_eq_nil_iff] at noErrors
  have declared :=
    (Harvest.listsRoles_ofItems noErrors.1 package items noErrors.2).components
  rw [List.forall₂_iff_zip] at declared ⊢
  refine ⟨declared.1, ?_⟩
  intro source decl paired
  have present := (List.mem_filter.mp (List.of_mem_zip paired).1).1
  exact SourceClass.exists_extracts_of_declaresComponent (words source present)
    (declared.2 paired)

/-- The options `entities(Settings, app::Profile)`. -/
def listedEntities : List TokenTree :=
  [.word "entities", .group .parenthesis
    [.word "Settings", .punct ',' false,
      .word "app", .punct ':' true, .punct ':' false, .word "Profile"]]

/-- The options `more = " Session, ,Settings"`. -/
def quotedEntities : List TokenTree :=
  [.word "more", .punct '=' false, .literal "\" Session, ,Settings\""]

theorem hasSourceWords_listedEntities : HasSourceWords listedEntities := by
  have lexed : lex? "entities(Settings, app::Profile)".toList =
      some listedEntities := by rfl
  exact hasSourceWords_of_lex?_eq_some lexed

theorem hasSourceWords_quotedEntities : HasSourceWords quotedEntities := by
  have lexed : lex? "more = \" Session, ,Settings\"".toList =
      some quotedEntities := by rfl
  exact hasSourceWords_of_lex?_eq_some lexed

/-- The component attribute with some options. -/
def componentMarkOf (options : List TokenTree) : Attribute :=
  ⟨false, wordPath componentAttribute, .list .parenthesis options⟩

/-- A parameter `screen` of the type `Screen`. -/
def screenArgument : Argument :=
  .typed ⟨.name "screen", [.word "screen"]⟩ (.path none (wordPath "Screen"))

/-- A file with a component that has two attributes, and one function with a
receiver and another parameter. -/
def componentFile : List Item :=
  [.trait [componentMarkOf listedEntities, componentMarkOf quotedEntities]
    "AppComponent"
    [⟨[], false, "create", [screenArgument], none⟩,
      ⟨[], false, "inject", [.receiver, screenArgument], none⟩,
      ⟨[], false, "close", [.receiver], none⟩]]

/-- The declaration of the component with two attributes. -/
def componentDeclarations : SourceDeclarations where
  entities := []
  components := [⟨"AppComponent", none,
    [⟨Naming.componentMark,
      [("entities", "Settings,Profile"), ("more", " Session, ,Settings")]⟩],
    [(((Member.method "create" "()").withModifier .public).withParameter
        "screen"
        "Screen").withModifier .static,
      ((Member.method "inject" "()").withModifier .public).withParameter
        "screen" "Screen",
      (Member.method "close" "()").withModifier .public]⟩]
  targets := []

theorem hasOptionWords_componentFile :
    ∀ source ∈ Item.listClasses none componentFile componentFile,
      source.HasOptionWords := by
  intro source present
  obtain rfl := List.mem_singleton.mp present
  intro mark isMark _ delimiter tokens content
  rcases List.mem_pair.mp isMark with rfl | rfl
  · cases content
    exact hasSourceWords_listedEntities
  · cases content
    exact hasSourceWords_quotedEntities

/-- A component with two attributes has the entities of both. -/
theorem componentFile_extracted :
    (ofItems componentFile none).outcome = .ok componentDeclarations ∧
      (∀ source ∈ Item.listClasses none componentFile componentFile,
        source.HasOptionWords) ∧
      List.Forall₂
        (fun source decl =>
          ∃ schema, (ComponentSchema.build decl).outcome = .ok schema ∧
            source.Extracts schema)
        ((Item.listClasses none componentFile componentFile).filter
          SourceClass.isComponent)
        componentDeclarations.components := by
  have accepted : (ofItems componentFile none).outcome =
      .ok componentDeclarations := by rfl
  exact ⟨accepted, hasOptionWords_componentFile,
    components_extracted accepted hasOptionWords_componentFile⟩

end SourceDeclarations
end Source
end PreferenceSchema
