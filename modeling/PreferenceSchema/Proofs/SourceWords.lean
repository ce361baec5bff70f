import Mathlib.Data.List.Infix
import Mathlib.Data.List.TakeWhile
import PreferenceSchema.Source.Lexer

/-!
# Words of source texts

All words of a text that is read as tokens are identifiers, escaped or not.  An
identifier is not empty, and neither a comma nor a blank is in it, nor a sign
that separates names or belongs to a type.
-/

namespace PreferenceSchema

namespace Text

/-- The code points of a comma and of the blank characters. -/
def separatorPoints : List Nat :=
  [0x2C, 0x09, 0x0A, 0x0B, 0x0C, 0x0D, 0x20, 0x85, 0xA0, 0x1680, 0x2000, 0x2001,
    0x2002, 0x2003, 0x2004, 0x2005, 0x2006, 0x2007, 0x2008, 0x2009, 0x200A,
    0x2028, 0x2029, 0x202F, 0x205F, 0x3000]

/-- A character that is neither a comma nor blank. -/
def IsSolid (c : Char) : Prop :=
  c ≠ ',' ∧ isBlank c = false

/-- A character that is no separator is solid. -/
theorem isSolid_of_notMem_separatorPoints
    {c : Char}
    (absent : c.toNat ∉ separatorPoints) : IsSolid c := by
  simp only [separatorPoints, List.mem_cons, List.not_mem_nil, or_false,
    not_or] at absent
  constructor
  · rintro rfl
    exact absent.1 rfl
  · simp only [isBlank, Bool.or_eq_false_iff, Bool.and_eq_false_iff,
      decide_eq_false_iff_not, beq_eq_false_iff_ne]
    omega

/-- A character that passes a test has none of the code points that fail it. -/
theorem notMem_of_forall
    {points : List Nat}
    {test : Char → Bool}
    (fails : ∀ point ∈ points, test (Char.ofNat point) = false)
    {c : Char}
    (passes : test c = true) : c.toNat ∉ points := by
  intro present
  have failed := fails c.toNat present
  rw [Char.ofNat_toNat, passes] at failed
  cases failed

theorem isSolid_of_startsIdentifier
    {c : Char}
    (starts : startsIdentifier c = true) : IsSolid c :=
  isSolid_of_notMem_separatorPoints
    (notMem_of_forall (by decide +kernel) starts)

theorem isSolid_of_continuesIdentifier
    {c : Char}
    (continues : continuesIdentifier c = true) : IsSolid c :=
  isSolid_of_notMem_separatorPoints
    (notMem_of_forall (by decide +kernel) continues)

/-- An identifier is not empty, and each of its characters may start or continue
one. -/
theorem of_isIdentifier
    {text : List Char}
    (identifier : isIdentifier text = true) :
    text ≠ [] ∧ ∀ c ∈ text, startsIdentifier c = true ∨
      continuesIdentifier c = true := by
  cases text with
  | nil => cases identifier
  | cons first rest =>
      rw [isIdentifier, Bool.and_eq_true, List.all_eq_true] at identifier
      obtain ⟨starts, continues⟩ := identifier
      exact ⟨List.cons_ne_nil _ _, List.forall_mem_cons.mpr ⟨.inl starts,
        fun c present => .inr (continues c present)⟩⟩

/-- An identifier consists of solid characters. -/
theorem isSolid_of_mem_identifier
    {text : List Char}
    (identifier : isIdentifier text = true) :
    text ≠ [] ∧ ∀ c ∈ text, IsSolid c := by
  obtain ⟨notEmpty, continues⟩ := of_isIdentifier identifier
  exact ⟨notEmpty, fun c present =>
    (continues c present).elim isSolid_of_startsIdentifier
    isSolid_of_continuesIdentifier⟩

/-- The code points of the signs that separate names or stand around the
arguments of types. -/
def typeSignPoints : List Nat :=
  [0x26, 0x2E, 0x3A, 0x3E]

/-- No sign that separates names or stands around the arguments of types is in
an identifier. -/
theorem notMem_typeSignPoints_of_mem_identifier
    {text : List Char}
    (identifier : isIdentifier text = true) :
    ∀ c ∈ text, c.toNat ∉ typeSignPoints := by
  intro c present
  rcases (of_isIdentifier identifier).2 c present with starts | continues
  · exact notMem_of_forall (by decide +kernel) starts
  · exact notMem_of_forall (by decide +kernel) continues

end Text

namespace Source

/-- A word as the source has it: an identifier, which may be escaped. -/
def IsSourceWord (name : String) : Prop :=
  Text.isIdentifier name.toList = true ∨
    ∃ bare, name.toList = 'r' :: '#' :: bare ∧ Text.isIdentifier bare = true

/-- A word of a source is not empty, and has no blanks and separators. -/
theorem IsSourceWord.solid
    {name : String}
    (word : IsSourceWord name) :
    name.toList ≠ [] ∧ ∀ c ∈ name.toList, Text.IsSolid c := by
  obtain identifier | ⟨bare, equal, identifier⟩ := word
  · exact Text.isSolid_of_mem_identifier identifier
  · have escape : ∀ c ∈ ['r', '#'], Text.IsSolid c := by
      simp only [List.mem_cons, List.not_mem_nil, or_false, forall_eq_or_imp,
        forall_eq]
      exact ⟨⟨by decide, by decide⟩, by decide, by decide⟩
    rw [equal]
    refine ⟨List.cons_ne_nil _ _, ?_⟩
    exact List.forall_mem_append.mpr
      ⟨escape, (Text.isSolid_of_mem_identifier identifier).2⟩

theorem IsSourceWord.notMem_typeSignPoints
    {name : String}
    (word : IsSourceWord name) :
    ∀ c ∈ name.toList, c.toNat ∉ Text.typeSignPoints := by
  obtain identifier | ⟨bare, equal, identifier⟩ := word
  · exact Text.notMem_typeSignPoints_of_mem_identifier identifier
  · rw [equal]
    refine List.forall_mem_cons.mpr
      ⟨by decide, List.forall_mem_cons.mpr ⟨by decide, ?_⟩⟩
    exact Text.notMem_typeSignPoints_of_mem_identifier identifier

/-! ## Words of tokens -/

namespace TokenTree

mutual

/-- The words in a tree. -/
def words : TokenTree → List String
  | .word name => [name]
  | .group _ content => listWords content
  | _ => []

/-- The words in trees. -/
def listWords : List TokenTree → List String
  | [] => []
  | tree :: rest => words tree ++ listWords rest

end

/-- The words of tokens are those of each token. -/
theorem listWords_eq_flatMap
    (trees : List TokenTree) :
    listWords trees = trees.flatMap words := by
  induction trees with
  | nil => rfl
  | cons tree rest inductionHypothesis => rw [listWords, inductionHypothesis,
    List.flatMap_cons]

end TokenTree

/-- All words in some tokens are words of the source. -/
def HasSourceWords (tokens : List TokenTree) : Prop :=
  ∀ name ∈ TokenTree.listWords tokens, IsSourceWord name

namespace HasSourceWords

theorem append
    {first second : List TokenTree}
    (firstWords : HasSourceWords first)
    (secondWords : HasSourceWords second) :
    HasSourceWords (first ++ second) := by
  intro name present
  rw [TokenTree.listWords_eq_flatMap, List.flatMap_append,
    ← TokenTree.listWords_eq_flatMap,
    ← TokenTree.listWords_eq_flatMap] at present
  exact (List.mem_append.mp present).elim (firstWords name) (secondWords name)

theorem reverse
    {tokens : List TokenTree}
    (hasWords : HasSourceWords tokens) : HasSourceWords tokens.reverse := by
  intro name present
  refine hasWords name ?_
  rw [TokenTree.listWords_eq_flatMap] at present ⊢
  simpa using present

theorem group
    {delimiter : Delimiter}
    {content : List TokenTree}
    (hasWords : HasSourceWords content) :
    HasSourceWords [.group delimiter content] := by
  intro name present
  rw [TokenTree.listWords, TokenTree.words, TokenTree.listWords,
    List.append_nil] at present
  exact hasWords name present

end HasSourceWords

/-! ## Words of scanned texts -/

theorem consumed_append
    (taken rest : List Char) : consumed (taken ++ rest) rest = taken := by
  simp [consumed]

theorem exists_of_scanIdentifier?_eq_some
    {text rest : List Char}
    (scanned : scanIdentifier? text = some rest) :
    ∃ identifier, text = identifier ++ rest ∧
      Text.isIdentifier identifier = true := by
  cases text with
  | nil => cases scanned
  | cons first after =>
      rw [scanIdentifier?] at scanned
      split at scanned
      case isTrue starts =>
        obtain rfl := Option.some.inj scanned
        refine ⟨first :: after.takeWhile Text.continuesIdentifier, ?_, ?_⟩
        · rw [List.cons_append, List.takeWhile_append_dropWhile]
        · rw [Text.isIdentifier, starts, Bool.true_and, List.all_eq_true]
          exact fun c present => List.mem_takeWhile_imp present
      case isFalse => cases scanned

/-- The scan of a word takes a word of a source. -/
theorem isSourceWord_of_scanWord?_eq_some
    {text rest : List Char}
    {name : String}
    (scanned : scanWord? text = some (name, rest)) : IsSourceWord name := by
  rw [scanWord?] at scanned
  split at scanned
  case h_1 bare escaped =>
    obtain ⟨after, found, chosen⟩ := Option.bind_eq_some_iff.mp scanned
    obtain ⟨identifier, rfl, isIdentifier⟩ :=
      exists_of_scanIdentifier?_eq_some found
    split at chosen
    case isTrue => cases chosen
    case isFalse =>
      cases chosen
      right
      have split : 'r' :: '#' :: (identifier ++ rest) = text :=
        List.isPrefixOf?_eq_some_iff_append_eq.mp escaped
      refine ⟨identifier, ?_, isIdentifier⟩
      rw [String.toList_ofList, ← split]
      exact consumed_append ('r' :: '#' :: identifier) rest
  case h_2 =>
    obtain ⟨after, found, equal⟩ := Option.map_eq_some_iff.mp scanned
    obtain ⟨identifier, rfl, isIdentifier⟩ :=
      exists_of_scanIdentifier?_eq_some found
    cases equal
    left
    rwa [String.toList_ofList, consumed_append]

theorem exists_punct_of_scanPunct?_eq_some
    {text rest : List Char}
    {tree : TokenTree}
    (scanned : scanPunct? text = some (tree, rest)) :
    ∃ mark joint, tree = .punct mark joint := by
  unfold scanPunct? at scanned
  split at scanned
  case isTrue => cases scanned
  case isFalse =>
    split at scanned
    case h_1 c after =>
      split at scanned
      case isTrue =>
        split at scanned
        case h_1 =>
          split at scanned
          case isTrue => cases scanned
          case isFalse =>
            cases scanned
            exact ⟨_, _, rfl⟩
        case h_2 => cases scanned
      case isFalse =>
        cases scanned
        exact ⟨_, _, rfl⟩
    case h_2 => cases scanned

/-- Each token that is no group has words of a source only. -/
theorem hasSourceWords_of_scanLeaf?_eq_some
    {text rest : List Char}
    {tree : TokenTree}
    (scanned : scanLeaf? text = some (tree, rest)) : HasSourceWords [tree] := by
  rw [scanLeaf?] at scanned
  split at scanned
  case h_1 =>
    cases scanned
    nofun
  case h_2 =>
    split at scanned
    case h_1 result punct =>
      obtain rfl := Option.some.inj scanned
      obtain ⟨mark, joint, rfl⟩ := exists_punct_of_scanPunct?_eq_some punct
      nofun
    case h_2 =>
      split at scanned
      case isTrue => cases scanned
      case isFalse =>
        obtain ⟨⟨word, after⟩, found, equal⟩ :=
          Option.map_eq_some_iff.mp scanned
        cases equal
        exact List.forall_mem_singleton.mpr
          (isSourceWord_of_scanWord?_eq_some found)

/-- A documenting comment becomes an attribute whose only word is its name. -/
theorem hasSourceWords_docAttribute
    (content : List Char)
    (inner : Bool) : HasSourceWords (docAttribute content inner) := by
  have doc : IsSourceWord "doc" := .inl (by decide +kernel)
  cases inner <;>
    simpa [docAttribute, HasSourceWords, TokenTree.listWords, TokenTree.words]

/-- Every word of a text is a word of the source, in groups of any depth. -/
theorem hasSourceWords_of_lexFrom?_eq_some
    {steps : Nat}
    {enclosing : List OpenGroup}
    {before tokens : List TokenTree}
    {text : List Char}
    (lexed : lexFrom? steps enclosing before text = some tokens)
    (beforeWords : HasSourceWords before)
    (enclosingWords : ∀ group ∈ enclosing, HasSourceWords group.before) :
    HasSourceWords tokens := by
  induction steps generalizing enclosing before text with
  | zero => cases lexed
  | succ steps inductionHypothesis =>
      rw [lexFrom?] at lexed
      split at lexed
      case h_1 content inner rest comment =>
        split at lexed
        case isTrue =>
          have docWords := (hasSourceWords_docAttribute content inner).reverse
          exact inductionHypothesis lexed (docWords.append beforeWords)
            enclosingWords
        case isFalse => cases lexed
      case h_2 =>
        split at lexed
        case h_1 =>
          split at lexed
          case isTrue =>
            cases lexed
            exact beforeWords.reverse
          case isFalse => cases lexed
        case h_2 c rest ahead =>
          split at lexed
          case h_1 delimiter opens =>
            exact inductionHypothesis lexed nofun
              (List.forall_mem_cons.mpr ⟨beforeWords, enclosingWords⟩)
          case h_2 =>
            split at lexed
            case h_1 delimiter group outer closes =>
              split at lexed
              case isTrue =>
                obtain ⟨groupWords, outerWords⟩ :=
                  List.forall_mem_cons.mp enclosingWords
                exact inductionHypothesis lexed
                  (beforeWords.reverse.group.append groupWords)
                  outerWords
              case isFalse => cases lexed
            case h_2 => cases lexed
            case h_3 =>
              split at lexed
              case h_1 tree after scanned =>
                have leafWords := hasSourceWords_of_scanLeaf?_eq_some scanned
                exact inductionHypothesis lexed (leafWords.append beforeWords)
                  enclosingWords
              case h_2 => cases lexed

/-- The words of the tokens of a text are words of a source. -/
theorem hasSourceWords_of_lex?_eq_some
    {text : List Char}
    {tokens : List TokenTree}
    (lexed : lex? text = some tokens) : HasSourceWords tokens :=
  hasSourceWords_of_lexFrom?_eq_some lexed nofun nofun

end Source
end PreferenceSchema
