import PreferenceSchema.Proofs.DefaultDenotations
import PreferenceSchema.Proofs.KeyResolution
import PreferenceSchema.Proofs.NumberTokens
import PreferenceSchema.Proofs.OptionReading
import PreferenceSchema.Proofs.SourceMembers

/-!
# Defaults of fields

The attributes of a field say what its default is, by the last of its default
options.  The literal that stands there, whatever parentheses are around it,
becomes the value of the preference where the type of the field has that value,
and is reported by its text where it has not.
-/

namespace PreferenceSchema

open Traversal

/-- The text and the kind of the initializer of a member. -/
def Member.default? (member : Member) : Option (String × LiteralKind) :=
  member.initializer.bind fun raw => member.initializerKind.map fun kind =>
    (raw, kind)

theorem Member.default?_eq_some_iff
    {member : Member}
    {raw : String}
    {kind : LiteralKind} :
    member.default? = some (raw, kind) ↔
      member.initializer = some raw ∧ member.initializerKind = some kind := by
  unfold default?
  simp [Option.bind_eq_some_iff]

/-- A literal as the initializer of a member is taken for its value in the type
of the field, or is refused with its text. -/
theorem KeyField.defaultOf_eq_of_default?_eq_some
    {className : String}
    {member : Member}
    {type : SemanticType}
    {key : String}
    {literal : DefaultLiteral}
    (default : member.default? = some (literal.text, literal.kind)) :
    defaultOf className member type key =
      match literal.valueOf? type with
      | some value => .ok value
      | none => .error (.invalidDefault className key type literal.text) := by
  obtain ⟨raw, kind⟩ := Member.default?_eq_some_iff.mp default
  unfold defaultOf
  rw [raw, kind]
  rfl

namespace Source

/-! ## Expressions -/

/-- An expression is a literal with a possible minus sign directly in front of a
number, in any parentheses and groups. -/
inductive Expr.IsLiteral : Expr → DefaultLiteral → Prop where
  | string {value} : IsLiteral (.literal (.string value)) (.string value)
  | boolean {value} : IsLiteral (.literal (.boolean value)) (.boolean value)
  | whole {number} : IsLiteral (.literal (.integer number))
    (.whole false number)
  | negatedWhole {number} :
      IsLiteral (.negation (.literal (.integer number))) (.whole true number)
  | fraction {token digits} :
      IsLiteralToken token →
      Literal.ofToken token = .float digits →
      IsLiteral (.literal (.float digits)) (.fraction false digits)
  | negatedFraction {token digits} :
      IsLiteralToken token →
      Literal.ofToken token = .float digits →
      IsLiteral (.negation (.literal (.float digits))) (.fraction true digits)
  | group {inner literal} : IsLiteral inner literal →
    IsLiteral (.group inner) literal
  | paren {inner literal} : IsLiteral inner literal →
    IsLiteral (.paren inner) literal

namespace Expr.IsLiteral

variable {expr : Expr} {literal : DefaultLiteral}

theorem defaultText?_eq
    (isLiteral : expr.IsLiteral literal) :
    expr.defaultText? = some (literal.text, literal.kind) := by
  induction isLiteral with
  | string => rfl
  | boolean => rfl
  | whole => rfl
  | negatedWhole => rfl
  | fraction => rfl
  | negatedFraction => rfl
  | group _ inductionHypothesis => rw [Expr.defaultText?_group,
    inductionHypothesis]
  | paren _ inductionHypothesis => rw [Expr.defaultText?_paren,
    inductionHypothesis]

theorem proper (isLiteral : expr.IsLiteral literal) : literal.Proper := by
  induction isLiteral with
  | string => trivial
  | boolean => trivial
  | whole => trivial
  | negatedWhole => trivial
  | fraction isToken denotes => exact isToken.isFractionText denotes
  | negatedFraction isToken denotes => exact isToken.isFractionText denotes
  | group _ inductionHypothesis => exact inductionHypothesis
  | paren _ inductionHypothesis => exact inductionHypothesis

end Expr.IsLiteral

/-! ## Options -/

/-- The expression of a default option. -/
def WrittenOption.expr? : WrittenOption → Option Expr
  | .key _ => none
  | .default expr => some expr

/-- The text and the kind of the literal of a default option. -/
def FieldOption.default? : FieldOption → Option (String × LiteralKind)
  | .key _ => none
  | .default text kind => some (text, kind)

/-- The text and the kind of the literal of a default option, if its expression
is one. -/
def WrittenOption.default? (option : WrittenOption) :
    Option (String × LiteralKind) :=
  option.judge.bind FieldOption.default?

theorem WrittenOption.default?_eq_bind
    (option : WrittenOption) :
    option.default? = option.expr?.bind Expr.defaultText? := by
  unfold default?
  cases option with
  | key text => rfl
  | default expr =>
      cases found : expr.defaultText? <;>
        simp [judge, expr?, found, FieldOption.default?]

/-- The last default of some options is what the last of their expressions
says. -/
theorem WrittenOption.getLast?_filterMap_default?
    {written : List WrittenOption}
    {expr : Expr}
    {literal : DefaultLiteral}
    (last : (written.filterMap expr?).getLast? = some expr)
    (isLiteral : expr.IsLiteral literal) :
    (written.filterMap default?).getLast? =
      some (literal.text, literal.kind) := by
  have texts : written.filterMap default? =
      (written.filterMap expr?).filterMap Expr.defaultText? := by
    rw [List.filterMap_filterMap]
    congr
    funext option
    exact option.default?_eq_bind
  obtain ⟨before, split⟩ := List.getLast?_eq_some_iff.mp last
  rw [texts, split, List.filterMap_append]
  simp [isLiteral.defaultText?_eq]

/-- The defaults that an attribute of a field gives. -/
def FieldMark.defaults : FieldMark → List (String × LiteralKind)
  | .options list => list.filterMap FieldOption.default?
  | .injected => []
  | .nothing => []

/-- The defaults in the attributes of a field are those among all options. -/
theorem FieldMark.flatMap_defaults
    (marks : List FieldMark) :
    marks.flatMap defaults =
      (marks.filterMap options?).flatten.filterMap FieldOption.default? := by
  induction marks with
  | nil => rfl
  | cons first rest inductionHypothesis =>
      rw [List.flatMap_cons, inductionHypothesis]
      cases first with
      | options list => simp [defaults, options?]
      | injected => rfl
      | nothing => rfl

/-- Of options that are repeated the last default holds. -/
theorem FieldOptions.default_foldl_add
    (options : FieldOptions)
    (list : List FieldOption) :
    (list.foldl add options).default =
      (list.filterMap FieldOption.default?).getLast?.or options.default := by
  refine FieldOptions.last_foldl_add ?_ options list
  intro options option
  cases option <;> rfl

theorem FieldOptions.default_ofList
    (list : List FieldOption) :
    (ofList list).default = (list.filterMap FieldOption.default?).getLast? := by
  unfold ofList
  rw [FieldOptions.default_foldl_add]
  exact Option.or_none

/-- The attributes of a field change what its member holds of a default as far
as they give one, and of all defaults the last one holds. -/
theorem FieldMark.last_foldl_addTo
    {α : Type}
    (held : Member → Option α)
    (given : String × LiteralKind → α)
    (keeps : ∀ (member : Member) mark,
      held (member.annotated mark) = held member)
    (takes : ∀ (member : Member) text kind,
      held (member.initializedAs text kind) = some (given (text, kind)))
    (member : Member)
    (marks : List FieldMark) :
    held (marks.foldl addTo member) =
      ((marks.flatMap defaults).getLast?.map given).or (held member) := by
  have step (member : Member) (mark : FieldMark) :
      held (mark.addTo member) =
        (mark.defaults.getLast?.map given).or (held member) := by
    cases mark with
    | options list =>
        rw [addTo, defaults, ← FieldOptions.default_ofList]
        obtain ⟨key, default⟩ := FieldOptions.ofList list
        cases key <;> cases default <;>
          simp [FieldOptions.applyTo, keeps, takes]
    | injected => exact keeps member _
    | nothing => rfl
  induction marks generalizing member with
  | nil => rfl
  | cons first rest inductionHypothesis =>
      rw [List.foldl_cons, inductionHypothesis, step, List.flatMap_cons,
        List.getLast?_append, Option.map_or, Option.or_assoc]

/-- Of all attributes of a field the last default holds. -/
theorem FieldMark.default?_foldl_addTo
    (member : Member)
    (marks : List FieldMark) :
    (marks.foldl addTo member).default? =
      (marks.flatMap defaults).getLast?.or member.default? := by
  rw [last_foldl_addTo Member.default? id (fun _ _ => rfl) (fun _ _ _ => rfl),
    Option.map_id_fun, id]

/-! ## Fields -/

namespace Field

/-- The options that stand in the attributes of a field, with their
expressions. -/
def WritesOptions
    (field : Field)
    (written : List WrittenOption) : Prop :=
  ∃ lists, Yields (fun mark : Attribute => mark.options writtenOption)
      (field.attributes.filter (Attribute.isNamed fieldAttribute)) lists ∧
    written = lists.flatten

/-- A field with a name has an expression as its default: its attributes have
proper options, every default among them is a literal, and the last default is
the expression. -/
structure HasDefault
    (field : Field)
    (name : String)
    (expr : Expr) : Prop where
  named : field.name = some name
  exists_written : ∃ written, field.WritesOptions written ∧
    (∀ other ∈ written.filterMap WrittenOption.expr?, ∃ literal,
      other.IsLiteral literal) ∧
    (written.filterMap WrittenOption.expr?).getLast? = some expr

theorem exists_judge_eq
    {written : List WrittenOption}
    (literals : ∀ other ∈ written.filterMap WrittenOption.expr?, ∃ literal,
      other.IsLiteral literal) :
    ∃ options, written.mapM WrittenOption.judge = some options ∧
      options.filterMap FieldOption.default? =
        written.filterMap WrittenOption.default? := by
  induction written with
  | nil => exact ⟨[], rfl, rfl⟩
  | cons first rest inductionHypothesis =>
      have later : ∀ other ∈ rest.filterMap WrittenOption.expr?, ∃ literal,
          other.IsLiteral literal := by
        intro other present
        apply literals other
        rw [List.filterMap_cons]
        split
        case h_1 => exact present
        case h_2 => exact List.mem_cons_of_mem _ present
      obtain ⟨options, judged, defaults⟩ := inductionHypothesis later
      obtain ⟨option, firstJudged⟩ : ∃ option, first.judge = some option := by
        cases first with
        | key text => exact ⟨_, rfl⟩
        | default expr =>
            obtain ⟨literal, isLiteral⟩ := literals expr List.mem_cons_self
            exact ⟨.default literal.text literal.kind, by
              simp [WrittenOption.judge, isLiteral.defaultText?_eq]⟩
      refine ⟨option :: options, by simp [firstJudged, judged], ?_⟩
      have firstDefault : first.default? = option.default? := by
        simp [WrittenOption.default?, firstJudged]
      rw [List.filterMap_cons, List.filterMap_cons, firstDefault, defaults]

/-- Options whose defaults are literals are read with the texts of these. -/
theorem exists_options_of_literals
    {attributes : List Attribute}
    {lists : List (List WrittenOption)}
    (yields : Yields (fun mark : Attribute => mark.options writtenOption)
      attributes lists)
    (literals : ∀ other ∈ lists.flatten.filterMap WrittenOption.expr?,
      ∃ literal,
      other.IsLiteral literal) :
    ∃ groups, Yields (fun mark : Attribute => mark.options fieldOption)
      attributes groups ∧
      groups.flatten.filterMap FieldOption.default? =
        lists.flatten.filterMap WrittenOption.default? := by
  induction yields with
  | nil => exact ⟨[], .nil, rfl⟩
  | cons read _ inductionHypothesis =>
      rw [List.flatten_cons, List.filterMap_append,
        List.forall_mem_append] at literals
      obtain ⟨options, judged, defaults⟩ := exists_judge_eq literals.1
      obtain ⟨groups, groupsYield, groupsDefaults⟩ :=
        inductionHypothesis literals.2
      have readAgain :=
        Attribute.options_fieldOption_eq_ok_iff.mpr ⟨_, read, judged⟩
      refine ⟨options :: groups, .cons readAgain groupsYield, ?_⟩
      simp only [List.flatten_cons, List.filterMap_append, defaults,
        groupsDefaults]

/-- A field with a literal as its default becomes a member with the text and the
kind of the literal. -/
theorem exists_toMember_eq_ok
    {field : Field}
    {name : String}
    {expr : Expr}
    {literal : DefaultLiteral}
    (hasDefault : field.HasDefault name expr)
    (isLiteral : expr.IsLiteral literal) :
    ∃ member, field.toMember = .ok member ∧
      member.outline = (.field, name, field.type.descriptor) ∧
      member.default? = some (literal.text, literal.kind) := by
  obtain ⟨named, written, ⟨lists, yields, rfl⟩, literals, last⟩ := hasDefault
  obtain ⟨groups, groupsYield, defaults⟩ :=
    exists_options_of_literals yields literals
  obtain ⟨marks, marksYield, rfl⟩ :=
    FieldMark.exists_yields_of_options groupsYield
  refine ⟨_, toMember_eq_ok_iff.mpr ⟨name, marks, named, marksYield, rfl⟩,
    outline_foldl_addTo field name marks, ?_⟩
  rw [FieldMark.default?_foldl_addTo, FieldMark.flatMap_defaults, defaults,
    WrittenOption.getLast?_filterMap_default? last isLiteral, Option.some_or]

/-- A literal default means what it says.  A field whose type fits the literal
has the value that the literal denotes; any other field is refused, with the
text of the literal. -/
theorem resolves_default
    {field : Field}
    {name : String}
    {expr : Expr}
    {literal : DefaultLiteral}
    (hasDefault : field.HasDefault name expr)
    (isLiteral : expr.IsLiteral literal) :
    ∃ member, field.toMember = .ok member ∧
      ∀ className type,
        SemanticType.resolve? field.type.descriptor = some type →
        (literal.Fits type → ∃ value, literal.Denotes value ∧
          value.semanticType = type ∧
          (KeyField.resolve className member).outcome =
            .ok ⟨name, KeyField.keyNameOf member, type, value⟩) ∧
        (¬literal.Fits type → (KeyField.resolve className member).outcome =
          .error
            (.invalidDefault className (KeyField.keyNameOf member)
              type literal.text)) := by
  obtain ⟨member, made, outline, default⟩ :=
    exists_toMember_eq_ok hasDefault isLiteral
  refine ⟨member, made, ?_⟩
  intro className type typed
  have memberName : member.name = name :=
    congrArg (fun parts => parts.2.1) outline
  have typeName : member.typeName = field.type.descriptor :=
    congrArg (fun parts => parts.2.2) outline
  have resolved :=
    KeyField.outcome_resolve_of_resolve?_eq_some (typeName ▸ typed)
    className
  rw [resolved, KeyField.defaultOf_eq_of_default?_eq_some default]
  constructor
  · intro fits
    obtain ⟨value, denotes, hasType⟩ :=
      DefaultLiteral.exists_denotes_iff.mpr fits
    have taken :=
      (DefaultLiteral.valueOf?_eq_some_iff isLiteral.proper).mpr
        ⟨denotes, hasType⟩
    refine ⟨value, denotes, hasType, ?_⟩
    rw [taken, memberName]
    rfl
  · intro noFit
    rw [(DefaultLiteral.valueOf?_eq_none_iff isLiteral.proper).mpr noFit]
    rfl

/-- A field of 32 bits with the least number of its type as its default. -/
def visitsField : Field where
  attributes := [⟨false, ⟨false, [⟨fieldAttribute, .none⟩]⟩, .list .parenthesis
    [.word "default", .punct '=' false, .punct '-' false,
      .literal "2_147_483_648"]⟩]
  isPublic := true
  name := some "visits"
  type := .path none ⟨false, [⟨"i32", .none⟩]⟩

theorem visitsField_hasDefault :
    visitsField.HasDefault "visits"
      (.negation (.literal (.integer 2147483648))) where
  named := rfl
  exists_written := by
    refine ⟨[.default (.negation (.literal (.integer 2147483648)))],
      ⟨[_], .cons rfl .nil, rfl⟩, ?_, rfl⟩
    exact List.forall_mem_singleton.mpr ⟨_, .negatedWhole⟩

theorem visitsField_resolves_default :
    visitsField.HasDefault "visits"
      (.negation (.literal (.integer 2147483648))) ∧
      (Expr.negation (.literal (.integer 2147483648))).IsLiteral
        (.whole true 2147483648) ∧
      SemanticType.resolve? visitsField.type.descriptor = some .integer ∧
      (DefaultLiteral.whole true 2147483648).Fits .integer ∧
      ∃ member value, visitsField.toMember = .ok member ∧
        (DefaultLiteral.whole true 2147483648).Denotes value ∧
        (KeyField.resolve "Settings" member).outcome =
          .ok ⟨"visits", KeyField.keyNameOf member, .integer, value⟩ := by
  have typed : SemanticType.resolve? visitsField.type.descriptor =
      some .integer := by
    decide +kernel
  have fits : (DefaultLiteral.whole true 2147483648).Fits .integer :=
    ⟨true, 2147483648, rfl, by decide, by decide⟩
  obtain ⟨member, made, resolved⟩ :=
    resolves_default visitsField_hasDefault .negatedWhole
  obtain ⟨value, denotes, -, accepted⟩ :=
    (resolved "Settings" .integer typed).1 fits
  exact ⟨visitsField_hasDefault, .negatedWhole, typed, fits, member, value,
    made, denotes, accepted⟩

end Field
end Source
end PreferenceSchema
