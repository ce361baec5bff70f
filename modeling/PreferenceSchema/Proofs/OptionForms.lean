import PreferenceSchema.Proofs.ParserForms
import PreferenceSchema.Source.Options

/-!
# Lists of options as they are written

The tokens that are read as a list of options: paths of words with what belongs
to each, with commas between them and possibly behind the last one.  Reading
succeeds on these and on nothing else.
-/

namespace PreferenceSchema
namespace Source

/-- The segment of a path that is a word without arguments. -/
def PathSegment.ofWord (name : String) : PathSegment :=
  ⟨name, .none⟩

/-- Words with double colons between them, in front of what does not begin with
double colons. -/
inductive WordsAhead : Tokens → List String → Tokens → Prop where
  | last {name rest} :
    Tokens.dropSign? "::".toList rest = none →
    WordsAhead (.word name :: rest) [name] rest
  | cons {name joint middle names rest} :
    WordsAhead middle names rest →
    WordsAhead (.word name :: .punct ':' true :: .punct ':' joint :: middle)
      (name :: names) rest

/-- A path of words, which may have double colons in front. -/
inductive PathAhead : Tokens → Path → Tokens → Prop where
  | plain {tokens names rest} :
    WordsAhead tokens names rest →
    PathAhead tokens ⟨false, names.map .ofWord⟩ rest
  | rooted {joint tokens names rest} :
    WordsAhead tokens names rest →
    PathAhead (.punct ':' true :: .punct ':' joint :: tokens)
      ⟨true, names.map .ofWord⟩ rest

/-- Elements with commas between them and possibly behind the last one, up to
the end. -/
inductive Listed
    {α : Type}
    (element : Tokens → α → Tokens → Prop) : Tokens → List α → Prop where
  | last {tokens value} :
    element tokens value [] →
    Listed element tokens [value]
  | trailing {tokens value joint} :
    element tokens value [.punct ',' joint] →
    Listed element tokens [value]
  | cons {tokens value joint rest values} :
    element tokens value (.punct ',' joint :: rest) →
    Listed element rest values →
    Listed element tokens (value :: values)

/-- An option of a component: a path, and behind it a text or the paths of
entities. -/
inductive ComponentOptionAhead : Tokens → ComponentOption → Tokens → Prop where
  | text {tokens path joint token rest value} :
    PathAhead tokens path (.punct '=' joint :: .literal token :: rest) →
    Literal.ofToken token = .string value →
    ComponentOptionAhead tokens (.text path.ownName value) rest
  | paths {tokens path content rest entities} :
    PathAhead tokens path (.group .parenthesis content :: rest) →
    Listed PathAhead content entities →
    ComponentOptionAhead tokens (.paths path.ownName entities) rest

/-- Words take at least one token. -/
theorem WordsAhead.length_lt
    {tokens rest : Tokens}
    {names : List String}
    (ahead : WordsAhead tokens names rest) : rest.length < tokens.length := by
  induction ahead with
  | last _ => simp
  | cons _ inductionHypothesis =>
      simp only [List.length_cons]
      omega

theorem WordsAhead.atAnyWord
    {tokens rest : Tokens}
    {names : List String}
    (ahead : WordsAhead tokens names rest) : tokens.atAnyWord = true := by
  cases ahead <;> rfl

theorem WordsAhead.dropSign?_eq_none
    {tokens rest : Tokens}
    {names : List String}
    (ahead : WordsAhead tokens names rest) :
    Tokens.dropSign? "::".toList tokens = none := by
  cases ahead <;> rfl

theorem PathAhead.length_lt
    {tokens rest : Tokens}
    {path : Path}
    (ahead : PathAhead tokens path rest) : rest.length < tokens.length := by
  cases ahead with
  | plain words => exact words.length_lt
  | rooted words =>
      have := words.length_lt
      simp only [List.length_cons]
      omega

theorem ComponentOptionAhead.length_lt
    {tokens rest : Tokens}
    {option : ComponentOption}
    (ahead : ComponentOptionAhead tokens option rest) :
    rest.length < tokens.length := by
  cases ahead with
  | text path _ =>
      have := path.length_lt
      simp only [List.length_cons] at this
      omega
  | paths path _ =>
      have := path.length_lt
      simp only [List.length_cons] at this
      omega

/-- A sign of one character is one mark, whatever it is joined to. -/
theorem Tokens.dropSign?_singleton_iff
    {mark : Char}
    {tokens rest : Tokens} :
    Tokens.dropSign? [mark] tokens = some rest ↔
      ∃ joint, tokens = .punct mark joint :: rest := by
  match tokens with
  | .punct other joint :: after => simp [Tokens.dropSign?]
  | [] | .word _ :: _ | .literal _ :: _ | .group _ _ :: _ =>
    simp [Tokens.dropSign?]

/-- A double colon is two marks, the first of them joined to the second. -/
theorem Tokens.dropSign?_doubleColon_iff
    {tokens rest : Tokens} :
    Tokens.dropSign? "::".toList tokens = some rest ↔
      ∃ joint, tokens = .punct ':' true :: .punct ':' joint :: rest := by
  change Tokens.dropSign? [':', ':'] tokens = some rest ↔ _
  match tokens with
  | .punct first true :: after =>
    simp [Tokens.dropSign?, Tokens.dropSign?_singleton_iff]
  | [] | .word _ :: _ | .literal _ :: _ | .group _ _ :: _
  | .punct _ false :: _ =>
    simp [Tokens.dropSign?]

namespace Parser
namespace Reads

variable {tokens : Tokens}

/-! ## Paths -/

/-- Reads the segments of a path behind those read before. -/
def segmentTurn (segments : List PathSegment) :
    Parser (Turn (List PathSegment) (List PathSegment)) := do
  let segments := segments ++ [PathSegment.mk (← Parser.anyWord) .none]
  if ← Parser.sign? "::" then return .again segments
  return .done segments

/-- A word, and another turn where double colons follow. -/
def SegmentTurn
    (segments : List PathSegment)
    (tokens : Tokens)
    (turn : Turn (List PathSegment) (List PathSegment))
    (rest : Tokens) : Prop :=
  ∃ name middle, tokens = .word name :: middle ∧
    ((Tokens.dropSign? "::".toList middle = some rest ∧
        turn = .again (segments ++ [.ofWord name])) ∨
      (Tokens.dropSign? "::".toList middle = none ∧ rest = middle ∧
        turn = .done (segments ++ [.ofWord name])))

/-- One turn of the segments of a path reads one segment. -/
theorem segmentTurn_reads
    (segments : List PathSegment)
    (tokens : Tokens) :
    Reads tokens (segmentTurn segments) (SegmentTurn segments tokens) := by
  refine (anyWord.bind fun name middle _ =>
    ifSign
      (fun rest => pure (Turn.again (segments ++ [PathSegment.ofWord name])))
      (pure (Turn.done (segments ++ [PathSegment.ofWord name])))).congr
        fun turn rest => ?_
  refine exists_congr fun name => exists_congr fun middle =>
    and_congr_right fun _ => ?_
  constructor
  · rintro (⟨_, found, rfl, rfl⟩ | ⟨missing, rfl, rfl⟩)
    · exact .inl ⟨found, rfl⟩
    · exact .inr ⟨missing, rfl, rfl⟩
  · rintro (⟨found, rfl⟩ | ⟨missing, rfl, rfl⟩)
    · exact .inl ⟨rest, found, rfl, rfl⟩
    · exact .inr ⟨missing, rfl, rfl⟩

/-- The turns together read words, up to what does not go on with double
colons. -/
theorem repeats_segmentTurn_iff
    {segments result : List PathSegment}
    {tokens rest : Tokens} :
    Repeats SegmentTurn segments tokens result rest ↔
      ∃ names, WordsAhead tokens names rest ∧
        result = segments ++ names.map .ofWord := by
  constructor
  · intro repeats
    induction repeats with
    | done turn =>
        obtain ⟨name, middle, rfl, ⟨-, equal⟩ | ⟨missing, rfl, equal⟩⟩ := turn
        · cases equal
        · cases equal
          exact ⟨[name], .last missing, rfl⟩
    | again turn _ inductionHypothesis =>
        obtain ⟨name, middle, rfl, ⟨found, equal⟩ | ⟨-, -, equal⟩⟩ := turn
        · cases equal
          obtain ⟨joint, rfl⟩ := Tokens.dropSign?_doubleColon_iff.mp found
          obtain ⟨names, words, rfl⟩ := inductionHypothesis
          exact ⟨name :: names, .cons words, by simp⟩
        · cases equal
  · rintro ⟨names, words, rfl⟩
    induction words generalizing segments with
    | @last name rest missing =>
      exact .done ⟨name, rest, rfl, .inr ⟨missing, rfl, rfl⟩⟩
    | @cons name joint middle names rest _ inductionHypothesis =>
        have found : Tokens.dropSign? "::".toList
            (.punct ':' true :: .punct ':' joint :: middle) =
            some middle := Tokens.dropSign?_doubleColon_iff.mpr ⟨joint, rfl⟩
        refine .again ⟨name, _, rfl, .inl ⟨found, rfl⟩⟩ ?_
        have later := @inductionHypothesis (segments ++ [.ofWord name])
        simpa using later

/-- All turns together read words with double colons between them. -/
theorem segments_reads :
    Reads tokens (Parser.repeating [] segmentTurn) fun segments rest =>
      ∃ names, WordsAhead tokens names rest ∧ segments = names.map .ofWord := by
  have shrinks {segments : List PathSegment} {tokens : Tokens}
      {next : List PathSegment}
      {rest : Tokens} (turn : SegmentTurn segments tokens (.again next) rest) :
      rest.length < tokens.length := by
    obtain ⟨name, middle, rfl, ⟨found, -⟩ | ⟨-, -, equal⟩⟩ := turn
    · obtain ⟨joint, rfl⟩ := Tokens.dropSign?_doubleColon_iff.mp found
      simp only [List.length_cons]
      omega
    · cases equal
  exact (repeating segmentTurn_reads shrinks []).congr fun _ _ =>
    repeats_segmentTurn_iff

theorem optionPath : Reads tokens optionPath (PathAhead tokens) := by
  have reads : Reads tokens Source.optionPath fun path rest => ∃ rooted middle,
      ((rooted = true ∧ Tokens.dropSign? "::".toList tokens = some middle) ∨
        (rooted = false ∧ Tokens.dropSign? "::".toList tokens = none ∧
          middle = tokens)) ∧
      ∃ names, WordsAhead middle names rest ∧
        path = ⟨rooted, names.map .ofWord⟩ := by
    refine (sign? "::").bind fun rooted middle _ => ahead_bind ?_
    by_cases words : middle.atAnyWord = true
    · rw [if_pos words]
      refine (segments_reads.map fun segments => Path.mk rooted segments).congr
        fun path rest => ?_
      constructor
      · rintro ⟨_, ⟨names, ahead, rfl⟩, rfl⟩
        exact ⟨names, ahead, rfl⟩
      · rintro ⟨names, ahead, rfl⟩
        exact ⟨_, ⟨names, ahead, rfl⟩, rfl⟩
    · rw [if_neg words]
      refine (fails fun cursor => ?_).congr fun path rest => ?_
      · dsimp only
        split
        · exact ⟨_, rfl⟩
        · split <;> exact ⟨_, rfl⟩
      · rw [false_iff]
        rintro ⟨names, ahead, -⟩
        exact words ahead.atAnyWord
  refine reads.congr fun path rest => ?_
  constructor
  · rintro ⟨_, middle, ⟨rfl, found⟩ | ⟨rfl, -, rfl⟩, names, words, rfl⟩
    · obtain ⟨joint, rfl⟩ := Tokens.dropSign?_doubleColon_iff.mp found
      exact .rooted words
    · exact .plain words
  · intro ahead
    cases ahead with
    | plain words => exact ⟨false, _, .inr ⟨rfl, words.dropSign?_eq_none, rfl⟩,
      _, words, rfl⟩
    | rooted words =>
        exact ⟨true, _,
          .inl ⟨rfl, Tokens.dropSign?_doubleColon_iff.mpr ⟨_, rfl⟩⟩, _, words,
          rfl⟩

/-! ## Lists -/

section

variable
  {α : Type}
  {option : Path → Parser α}
  {element : Tokens → α → Tokens → Prop}

/-- An option behind those read before, and another turn where more than a comma
follows. -/
def OptionTurn
    (element : Tokens → α → Tokens → Prop)
    (options : List α)
    (tokens : Tokens)
    (turn : Turn (List α) (List α))
    (rest : Tokens) : Prop :=
  ∃ value middle, element tokens value middle ∧
    ((middle = [] ∧ rest = [] ∧ turn = .done (options ++ [value])) ∨
      ∃ joint, middle = .punct ',' joint :: rest ∧
        turn = if rest = [] then .done (options ++ [value])
          else .again (options ++ [value]))

/-- The turns over a list of options find options with commas between them, and
maybe one behind the last, up to the end of the tokens. -/
theorem repeats_optionTurn_iff
    (needsToken : ∀ {tokens value rest}, element tokens value rest →
      rest.length < tokens.length)
    {options result : List α}
    {tokens rest : Tokens} :
    Repeats (OptionTurn element) options tokens result rest ↔
      (∃ values, Listed element tokens values ∧ result = options ++ values) ∧
        rest = [] := by
  constructor
  · intro repeats
    induction repeats with
    | done turn =>
        obtain ⟨value, middle, found,
          ⟨rfl, rfl, equal⟩ | ⟨joint, rfl, equal⟩⟩ := turn
        · cases equal
          exact ⟨⟨[value], .last found, rfl⟩, rfl⟩
        · split at equal
          case isTrue nothing =>
            cases equal
            subst nothing
            exact ⟨⟨[value], .trailing found, rfl⟩, rfl⟩
          case isFalse => cases equal
    | again turn _ inductionHypothesis =>
        obtain ⟨⟨values, listed, rfl⟩, rfl⟩ := inductionHypothesis
        obtain ⟨value, middle, found,
          ⟨rfl, rfl, equal⟩ | ⟨joint, rfl, equal⟩⟩ := turn
        · cases equal
        · split at equal
          case isTrue => cases equal
          case isFalse =>
            cases equal
            exact ⟨⟨value :: values, .cons found listed, by simp⟩, rfl⟩
  · rintro ⟨⟨values, listed, rfl⟩, rfl⟩
    induction listed generalizing options with
    | last found => exact .done ⟨_, [], found, .inl ⟨rfl, rfl, rfl⟩⟩
    | trailing found => exact .done ⟨_, _, found, .inr ⟨_, rfl, rfl⟩⟩
    | @cons tokens value joint rest values found listed inductionHypothesis =>
        have more : rest ≠ [] := by
          rintro rfl
          cases listed <;> exact absurd (needsToken ‹_›) (Nat.not_lt_zero _)
        refine .again ⟨value, _, found, .inr ⟨joint, rfl, (if_neg more).symm⟩⟩
          ?_
        have later := @inductionHypothesis (options ++ [value])
        simpa using later

/-- Reads an option behind those read before. -/
def optionTurn
    (option : Path → Parser α)
    (options : List α) : Parser (Turn (List α) (List α)) := do
  let options := options ++ [← Source.optionPath >>= option]
  if (← Parser.ahead).isEmpty then return .done options
  Parser.sign ","
  if (← Parser.ahead).isEmpty then return .done options
  return .again options

/-- One turn over a list of options reads one option, with the comma behind it
or the end. -/
theorem optionTurn_reads
    (reads : ∀ tokens, Reads tokens (Source.optionPath >>= option)
      (element tokens))
    (options : List α)
    (tokens : Tokens) :
    Reads tokens (optionTurn option options)
      (OptionTurn element options tokens) := by
  refine (reads tokens).bind fun value middle _ => ahead_bind ?_
  match middle with
  | [] =>
    refine (pure _).congr fun turn rest => ?_
    simp [and_comm]
  | next :: after =>
    have behindComma (rest : Tokens) :
        Reads rest
            (if rest.isEmpty = true then return Turn.done (options ++ [value])
            else return Turn.again (options ++ [value]) :
              Parser (Turn (List α) (List α)))
          fun turn after =>
            turn =
              (if rest = [] then .done (options ++ [value])
                else .again (options ++ [value])) ∧
              after = rest := by
      cases rest <;> exact pure _
    refine ((sign ",").bind fun _ rest _ => ahead_bind (behindComma rest)).congr
      fun turn rest => ?_
    change (∃ _ middle,
      Tokens.dropSign? [','] (next :: after) = some middle ∧ _) ↔ _
    simp only [Tokens.dropSign?_singleton_iff]
    constructor
    · rintro ⟨-, _, ⟨joint, equal⟩, rfl, rfl⟩
      exact .inr ⟨joint, equal, rfl⟩
    · rintro (⟨nothing, -, -⟩ | ⟨joint, equal, rfl⟩)
      · cases nothing
      · exact ⟨(), rest, ⟨joint, equal⟩, rfl, rfl⟩

theorem someOptions_eq_repeating
    (option : Path → Parser α) :
    Source.someOptions option = Parser.repeating [] (optionTurn option) := by
  unfold Source.someOptions optionTurn
  simp only [bind_assoc]

/-- A list of options is read up to the end of its tokens. -/
theorem someOptions
    (reads : ∀ tokens, Reads tokens (Source.optionPath >>= option)
      (element tokens))
    (needsToken : ∀ {tokens value rest}, element tokens value rest →
      rest.length < tokens.length) :
    Reads tokens (Source.someOptions option) fun values rest =>
      Listed element tokens values ∧ rest = [] := by
  have shrinks {options : List α} {tokens : Tokens} {next : List α}
      {rest : Tokens}
      (turn : OptionTurn element options tokens (.again next) rest) :
      rest.length < tokens.length := by
    obtain ⟨value, middle, found, ⟨-, -, equal⟩ | ⟨joint, rfl, -⟩⟩ := turn
    · cases equal
    · have := needsToken found
      simp only [List.length_cons] at this
      omega
  rw [someOptions_eq_repeating]
  refine (repeating (optionTurn_reads reads) shrinks []).congr
    fun values rest => ?_
  simp [repeats_optionTurn_iff needsToken]

end

/-- The paths of entities are read as they are written. -/
theorem entityPaths :
    Reads tokens (Source.someOptions Pure.pure) fun paths rest =>
      Listed PathAhead tokens paths ∧ rest = [] := by
  refine someOptions (fun tokens => ?_) PathAhead.length_lt
  rw [bind_pure]
  exact optionPath

/-- An option of a component is read as it is written. -/
theorem componentOption
    (g : Grammar) :
    Reads tokens (Source.optionPath >>= componentOption g)
      (ComponentOptionAhead tokens) := by
  have value (path : Path) (tokens : Tokens) :
      Reads tokens (Source.componentOption g path) fun option rest =>
        (∃ joint token text,
          tokens = .punct '=' joint :: .literal token :: rest ∧
          Literal.ofToken token = .string text ∧
          option = .text path.ownName text) ∨
        (∃ content entities, tokens = .group .parenthesis content :: rest ∧
          Listed PathAhead content entities ∧
          option = .paths path.ownName entities) := by
    refine (ifSign (fun _ => string.map fun text =>
      ComponentOption.text path.ownName text)
      ((inside fun _ => entityPaths).map fun entities =>
        ComponentOption.paths path.ownName entities)).congr
          fun option rest => ?_
    change (∃ middle, Tokens.dropSign? ['='] tokens = some middle ∧ _) ∨
      (Tokens.dropSign? ['='] tokens = none ∧ _) ↔ _
    simp only [Tokens.dropSign?_singleton_iff]
    constructor
    · rintro (⟨_, ⟨joint, rfl⟩, text, ⟨token, rfl, denotes⟩, rfl⟩ |
        ⟨-, entities, ⟨content, rfl, listed⟩, rfl⟩)
      · exact .inl ⟨joint, token, text, rfl, denotes, rfl⟩
      · exact .inr ⟨content, entities, rfl, listed, rfl⟩
    · rintro (⟨joint, token, text, rfl, denotes, rfl⟩ |
        ⟨content, entities, rfl, listed, rfl⟩)
      · exact .inl ⟨_, ⟨joint, rfl⟩, text, ⟨token, rfl, denotes⟩, rfl⟩
      · exact .inr ⟨rfl, entities, ⟨content, rfl, listed⟩, rfl⟩
  refine (optionPath.bind fun path middle _ => value path middle).congr
    fun option rest => ?_
  constructor
  · rintro ⟨path, middle, ahead, ⟨joint, token, text, rfl, denotes, rfl⟩ |
      ⟨content, entities, rfl, listed, rfl⟩⟩
    · exact .text ahead denotes
    · exact .paths ahead listed
  · intro ahead
    cases ahead with
    | text ahead denotes => exact ⟨_, _, ahead,
      .inl ⟨_, _, _, rfl, denotes, rfl⟩⟩
    | paths ahead listed => exact ⟨_, _, ahead, .inr ⟨_, _, rfl, listed, rfl⟩⟩

end Reads
end Parser

/-- The options of a component that stand in the parentheses of an attribute. -/
def Attribute.WritesOptions
    (mark : Attribute)
    (options : List ComponentOption) : Prop :=
  ∃ delimiter tokens, mark.content = .list delimiter tokens ∧
    ((tokens = [] ∧ options = []) ∨ Listed ComponentOptionAhead tokens options)

/-- A component attribute is read exactly where it has a list of options, which
may be empty. -/
theorem Attribute.options_componentOption_eq_ok_iff
    {mark : Attribute}
    {options : List ComponentOption} :
    mark.options componentOption = .ok options ↔
      mark.WritesOptions options := by
  have notEmpty : ¬Listed ComponentOptionAhead [] options := by
    intro listed
    cases listed <;>
      exact absurd (ComponentOptionAhead.length_lt ‹_›) (Nat.not_lt_zero _)
  have reads (tokens : Tokens) :
      readAll (fun g => someOptions (componentOption g)) tokens =
      .ok options ↔ Listed ComponentOptionAhead tokens options := by
    rw [readAll, Parser.run_eq_ok_iff (Parser.Reads.someOptions
      (fun _ => Parser.Reads.componentOption _) ComponentOptionAhead.length_lt)]
    simp
  rw [Attribute.options, WritesOptions]
  match mark.content with
  | .bare => simp
  | .value _ => simp
  | .list delimiter [] => simp [notEmpty, eq_comm]
  | .list delimiter (first :: rest) =>
    simp [Traversal.mapError_eq_ok_iff, reads]

end Source
end PreferenceSchema
