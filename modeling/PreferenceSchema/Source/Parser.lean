import PreferenceSchema.Source.Lookahead

/-!
# Reading token trees

The state of a reader, the faults it may end in, and the steps from which the
grammar is put together.  What a reader takes it also writes out, in the one
form that what it has read is written in; where that form is not the one in
which the tokens stand, the reader says so.
-/

namespace PreferenceSchema
namespace Source

/-- Why reading stopped. -/
inductive Fault where
  /-- None of the things that may stand here does. -/
  | expected (atEnd : Bool) (things : List String)
  | other (atEnd : Bool) (text : String)
  /-- Tokens are left over in a group, or at the end where there is no group. -/
  | leftover (enclosing : Option Delimiter)
deriving Repr

namespace Fault

/-- The text of a fault, where more tokens follow or not. -/
def atPlace
    (atEnd : Bool)
    (text : String) : String :=
  if atEnd then "unexpected end of input, " ++ text else text

/-- The text of a fault. -/
def message : Fault → String
  | .expected atEnd [] => if atEnd then
    "unexpected end of input" else "unexpected token"
  | .expected atEnd [thing] => atPlace atEnd ("expected " ++ thing)
  | .expected atEnd [first, second] =>
    atPlace atEnd ("expected " ++ first ++ " or " ++ second)
  | .expected atEnd things =>
    atPlace atEnd ("expected one of: " ++ ", ".intercalate things)
  | .other atEnd text => atPlace atEnd text
  | .leftover none => "unexpected token"
  | .leftover (some .parenthesis) => "unexpected token, expected `)`"
  | .leftover (some .bracket) => "unexpected token, expected `]`"
  | .leftover (some .brace) => "unexpected token, expected `\x7d`"

end Fault

/-- The state of a reader. -/
structure Cursor where
  ahead : Tokens
  /-- What has been written out so far; the last token comes first. -/
  written : Tokens
  /-- The delimiter of the first group with tokens left over. -/
  leftover : Option Delimiter
deriving Repr

/-- A step of reading. -/
abbrev Parser (α : Type) : Type := StateT Cursor (Except Fault) α

namespace Parser

variable {α β σ : Type}

/-! ### Tokens -/

/-- The tokens ahead. -/
def ahead : Parser Tokens := do
  return (← get).ahead

/-- Writes out tokens. -/
def write (tokens : Tokens) : Parser Unit :=
  modify fun cursor =>
    { cursor with written := tokens.reverse ++ cursor.written }

/-- Goes on at the given tokens. -/
def moveTo (tokens : Tokens) : Parser Unit :=
  modify fun cursor => { cursor with ahead := tokens }

/-- Goes on at `rest`, behind something that is written out as `tokens`. -/
def pass (rest tokens : Tokens) : Parser Unit := do
  moveTo rest
  write tokens

/-- Stops where none of some things stands. -/
def expected (things : List String) : Parser α := do
  throw (.expected (← ahead).isEmpty things)

/-- Stops with a text of its own. -/
def stop (text : String) : Parser α := do
  throw (.other (← ahead).isEmpty text)

/-- A word or sign as diagnostics show it. -/
def shown (text : String) : String :=
  "`" ++ text ++ "`"

/-- Takes a sign.  Its fault reads the same at the end as elsewhere. -/
def sign (characters : String) : Parser Unit := do
  match Tokens.dropSign? characters.toList (← ahead) with
  | some rest => pass rest (TokenTree.sign characters)
  | none => throw (.other false ("expected " ++ shown characters))

/-- Takes a sign if it stands ahead. -/
def sign? (characters : String) : Parser Bool := do
  match Tokens.dropSign? characters.toList (← ahead) with
  | some rest => pass rest (TokenTree.sign characters); return true
  | none => return false

/-- Takes a certain word. -/
def word (name : String) : Parser Unit := do
  if (← ahead).atWord name then pass (← ahead).skip [.word name]
  else expected [shown name]

/-- Takes a certain word if it stands ahead. -/
def word? (name : String) : Parser Bool := do
  if (← ahead).atWord name then
    pass (← ahead).skip [.word name]
    return true
  else return false

/-- Takes any word. -/
def anyWord : Parser String := do
  match (← ahead).word? with
  | some name => pass (← ahead).skip [.word name]; return name
  | none => stop "expected ident"

/-- Takes a name. -/
def name : Parser String := do
  match (← ahead).word? with
  | some name =>
    if keywords.contains name then
      throw (.other false ("expected identifier, found keyword " ++ shown name))
    pass (← ahead).skip [.word name]
    return name
  | none => expected ["identifier"]

/-- Takes a lifetime, and gives its name. -/
def lifetime : Parser String := do
  match ← ahead with
  | .punct mark true :: .word name :: rest =>
    if mark = TokenTree.apostrophe then
      pass rest (TokenTree.lifetime name)
      return name
    else expected ["lifetime"]
  | _ => expected ["lifetime"]

/-- Takes a lifetime if one stands ahead. -/
def lifetime? : Parser (Option String) := do
  if (← ahead).atLifetime then return some (← lifetime) else return none

/-- Takes a literal, with the minus sign that a number may have. -/
def literal : Parser (Literal × Bool) := do
  let tokens ← ahead
  match tokens.literal? with
  | some (value, negative, rest) =>
    if negative then pass rest (TokenTree.sign "-" ++ tokens.tail.take 1)
    else pass rest (tokens.take 1)
    return (value, negative)
  | none => expected ["literal"]

/-- Takes a string, and gives its value. -/
def string : Parser String := do
  match (← ahead).literal? with
  | some (.string value, _, rest) => pass rest ((← ahead).take 1); return value
  | _ => expected ["string literal"]

/-! ### Groups -/

/-- What a missing group is called. -/
def groupName : Delimiter → String
  | .parenthesis => "parentheses"
  | .bracket => "square brackets"
  | .brace => "curly braces"

/-- Takes a group, and reads its content by a step.  What the step leaves over
is remembered. -/
def inside
    (delimiter : Delimiter)
    (step : Parser α) : Parser α := do
  match ← ahead with
  | .group found content :: rest =>
    if found = delimiter then
      let outer := (← get).written
      modify fun cursor => { cursor with ahead := content, written := [] }
      let result ← step
      let cursor ← get
      let leftover :=
        cursor.leftover.or (if cursor.ahead.isEmpty then
          none else some delimiter)
      set (Cursor.mk rest (.group delimiter cursor.written.reverse :: outer)
        leftover)
      return result
    else expected [groupName delimiter]
  | _ => expected [groupName delimiter]

/-- Takes a group whose content is not looked at. -/
def anyContent (delimiter : Delimiter) : Parser Unit :=
  inside delimiter do
    pass [] (← ahead)

/-- Takes a group of any delimiter, and gives its content. -/
def anyGroup : Parser (Delimiter × Tokens) := do
  match ← ahead with
  | .group delimiter content :: rest =>
    pass rest [.group delimiter content]
    return (delimiter, content)
  | _ => stop "expected delimiter"

/-! ### Steps within steps -/

/-- Reads by a step, or does nothing where the step stops. -/
def attempt (step : Parser α) : Parser (Option α) := fun cursor =>
  match step cursor with
  | .ok (result, next) => .ok (some result, next)
  | .error _ => .ok (none, cursor)

/-- What a step would read, if it would not stop. -/
def foresee (step : Parser α) : Parser (Option α) := fun cursor =>
  match step cursor with
  | .ok (result, _) => .ok (some result, cursor)
  | .error _ => .ok (none, cursor)

/-- Reads by a step without writing anything out; the result with what it would
have written. -/
def apart (step : Parser α) : Parser (α × Tokens) := do
  let before := (← get).written
  modify fun cursor => { cursor with written := [] }
  let result ← step
  let tokens := (← get).written.reverse
  modify fun cursor => { cursor with written := before }
  return (result, tokens)

/-- Reads by a step; the result with what it writes out. -/
def capture (step : Parser α) : Parser (α × Tokens) := do
  let (result, tokens) ← apart step
  write tokens
  return (result, tokens)

/-- What a step writes out. -/
def captured (step : Parser α) : Parser Tokens := do
  return (← capture step).2

/-- Reads by a step what is written out in a form that the result gives. -/
def writtenAs
    (form : α → Tokens)
    (step : Parser α) : Parser α := do
  let (result, _) ← apart step
  write (form result)
  return result

/-- Reads by a step; the result with the tokens that it takes, as they stand. -/
def taken (step : Parser α) : Parser (α × Tokens) := do
  let before ← ahead
  let result ← step
  return (result, before.take (before.length - (← ahead).length))

/-- Reads by a step; where the result asks for it, the tokens are written out as
they stand. -/
def unchangedIf
    (asks : α → Bool)
    (step : Parser α) : Parser α := do
  let before ← ahead
  let (result, tokens) ← apart step
  if asks result then write (before.take (before.length - (← ahead).length))
  else write tokens
  return result

/-- Reads by a step, and writes the tokens out as they stand. -/
def unchanged (step : Parser α) : Parser α :=
  unchangedIf (fun _ => true) step

/-! ### Repeated steps -/

/-- How a repeated step goes on. -/
inductive Turn (σ β : Type) where
  | again (state : σ)
  | done (result : β)

/-- Repeats a step at most `count` times, until it is done. -/
def repeatAtMost (step : σ → Parser (Turn σ β)) : (count : Nat) → σ → Parser β
  | 0, _ => stop "nesting too deep"
  | count + 1, state => do
    match ← step state with
    | .again next => repeatAtMost step count next
    | .done result => return result

/-- Repeats a step until it is done.  Every turn but the last takes a token. -/
def repeating
    (start : σ)
    (step : σ → Parser (Turn σ β)) : Parser β := do
  repeatAtMost step ((← ahead).length + 2) start

/-- Reads by a step until no token is left. -/
def untilEnd (step : Parser α) : Parser (List α) :=
  repeating [] fun results => do
    if (← ahead).isEmpty then return .done results.reverse
    return .again ((← step) :: results)

/-- Reads elements with a sign between them until a condition on the tokens
ahead holds; the elements, and whether the sign stands behind the last one. -/
def separated
    (mark : String)
    (finished : Tokens → Bool)
    (element : Parser α) : Parser (List α × Bool) :=
  repeating ([], false) fun (results, trailing) => do
    if finished (← ahead) then return .done (results.reverse, trailing)
    let result ← element
    if finished (← ahead) then return .done ((result :: results).reverse, false)
    sign mark
    return .again (result :: results, true)

/-- Reads elements with commas between them until no token is left. -/
def commaSeparated (element : Parser α) : Parser (List α × Bool) :=
  separated "," List.isEmpty element

/-- The result of a step that has to take all of the tokens. -/
def run
    (step : Parser α)
    (tokens : Tokens) : Except Fault α :=
  match step (Cursor.mk tokens [] none) with
  | .ok (result, cursor) =>
    match cursor.leftover with
    | some delimiter => .error (.leftover (some delimiter))
    | none => if cursor.ahead.isEmpty then
      .ok result else .error (.leftover none)
  | .error fault => .error fault

end Parser
end Source
end PreferenceSchema
