import PreferenceSchema.Source.Grammar.Bounds

/-!
# Reading patterns

Every form of a pattern.  What a pattern binds or is decides where it may stand;
all else about it is what it writes out.
-/

namespace PreferenceSchema
namespace Source
namespace Grammar

open Source.Parser

/-! ### Alternatives and lists -/

/-- Whether another alternative follows. -/
def atAlternative (tokens : Tokens) : Bool :=
  tokens.atSign "|" && !tokens.atAnySign ["||", "|="]

/-- Reads a pattern with alternatives, in front of which a bar may stand. -/
def patternChoice (g : Grammar) : Parser PatternShape := do
  let leading ← sign? "|"
  let first ← g.pattern
  repeating (if leading then .other else first) fun shape => do
    if atAlternative (← ahead) then
      sign "|"
      let _ ← g.pattern
      return .again .other
    return .done shape

/-- Reads patterns in parentheses: a tuple, or a pattern in parentheses. -/
def patternTuple (g : Grammar) : Parser Unit := do
  let _ ← inside .parenthesis (commaSeparated g.patternChoice)

/-- Reads an element of a slice, which may be no range that lacks an end. -/
def sliceElement (g : Grammar) : Parser Unit := do
  if (← g.patternChoice) = .openRange then
    throw
      (.other false
        "range pattern is not allowed unparenthesized inside slice pattern")

/-- Reads a slice. -/
def slicePattern (g : Grammar) : Parser Unit := do
  let _ ← inside .bracket (commaSeparated g.sliceElement)

/-! ### Structures -/

/-- What is wrong with a number that is no number of a field; it may have a
minus sign. -/
def fieldNumberFault
    (negative : Bool)
    (digits : List Char) : Fault :=
  .other false
    (if (readWhole? digits).isNone then "expected integer literal"
    else if !isUnsuffixed digits then "expected unsuffixed integer"
    else if negative then "invalid digit found in string"
    else "number too large to fit in target type")

/-- The number of a field that digits give. -/
def fieldIndex (digits : List Char) : Except Fault Nat :=
  match fieldIndex? digits with
  | some index => .ok index
  | none => .error (fieldNumberFault false digits)

/-- Reads the number of a field, which is written in decimal. -/
def fieldNumber : Parser Unit := do
  if !(← ahead).atInteger then stop "expected identifier or integer"
  match ← ahead with
  | .literal text :: rest =>
    pass rest [.literal (toString (← fieldIndex text.toList))]
  | .punct _ _ :: .literal text :: _ =>
    throw (fieldNumberFault true text.toList)
  | _ => stop "expected identifier or integer"

/-- Reads the name or the number of a field, and tells whether it is a name. -/
def fieldKey : Parser Bool := do
  if (← ahead).atName then
    let _ ← name
    return true
  fieldNumber
  return false

/-- Reads the marks of a field that is bound by its own name, and tells whether
there are any. -/
def bindingMarks : Parser Bool := do
  let boxed ← word? "box"
  let byReference ← word? "ref"
  let isMutable ← word? "mut"
  return boxed || byReference || isMutable

/-- Reads a field of a structure. -/
def structField (g : Grammar) : Parser Unit := do
  if ← bindingMarks then
    let _ ← name
  else
    let named ← fieldKey
    if !named || (← ahead).atSign ":" then
      sign ":"
      let _ ← g.patternChoice

/-- Reads the fields of a structure, behind which two dots may stand for the
others. -/
def structFields (g : Grammar) : Parser Unit :=
  repeating () fun () => do
    if (← ahead).isEmpty then return .done ()
    let _ ← g.outerAttributes
    if ← sign? ".." then return .done ()
    g.structField
    if (← ahead).isEmpty then return .done ()
    sign ","
    return .again ()

/-! ### Ranges -/

/-- Reads the dots of a range, and tells whether its end belongs to it.  Three
dots are written with an equals sign instead of the last one. -/
def rangeDots : Parser Bool := do
  if ← sign? "..=" then return true
  if (← ahead).atSign "..." then
    let _ ← writtenAs (fun () => TokenTree.sign "..=") (sign "...")
    return true
  sign ".."
  return false

/-- Whether a pattern ends ahead, so that a range has no end. -/
def atRangeStop (tokens : Tokens) : Bool :=
  tokens.isEmpty || tokens.atAnySign ["|", "=", ",", ";"] ||
    (tokens.atSign ":" && !tokens.atSign "::") || tokens.atWord "if"

/-- Reads a block of constants. -/
def constantBlock (g : Grammar) : Parser Unit := do
  word "const"
  let _ ← g.body

/-- Reads an end of a range: a literal, a path or a block of constants.  Tells
whether there is one. -/
def rangeEnd? (g : Grammar) : Parser Bool := do
  let tokens ← ahead
  if atRangeStop tokens then return false
  if tokens.atLiteral then
    let _ ← literal
  else if atPath tokens then
    let _ ← g.qualifiedPath true
  else if tokens.atWord "const" then g.constantBlock
  else
    expected ["literal", "identifier", "`::`", "`<`", "`self`", "`Self`",
      "`super`", "`crate`",
      "`const`"]
  return true

/-- Reads a range behind its start. -/
def rangePattern (g : Grammar) : Parser PatternShape := do
  let closed ← rangeDots
  if ← g.rangeEnd? then return .other
  if closed then stop "expected range upper bound"
  return .openRange

/-- Reads a range without a start, or a rest. -/
def startlessPattern (g : Grammar) : Parser PatternShape := do
  let closed ← rangeDots
  if ← g.rangeEnd? then return .openRange
  if closed then stop "expected range upper bound"
  return .rest

/-- Reads a literal or a block of constants, which may be the start of a
range. -/
def constantPattern (g : Grammar) : Parser PatternShape := do
  if ← g.rangeEnd? then
    if (← ahead).atSign ".." then g.rangePattern else return .other
  else expected ["literal"]

/-! ### Other patterns -/

/-- Reads a pattern that begins with a path. -/
def pathPattern (g : Grammar) : Parser PatternShape := do
  let (owner, path) ← g.qualifiedPath true
  let tokens ← ahead
  if owner.isNone && atExpansion tokens && path.isPlain then
    let _ ← expansionArguments
    return .other
  else if tokens.atGroup .brace then
    inside .brace g.structFields
    return .other
  else if tokens.atGroup .parenthesis then
    g.patternTuple
    return .other
  else if tokens.atSign ".." then g.rangePattern
  else return .other

/-- Reads a name that is bound, and the pattern that it stands for. -/
def namePattern (g : Grammar) : Parser PatternShape := do
  let _ ← word? "ref"
  let _ ← word? "mut"
  let identifier ← if (← ahead).atWord "self" then anyWord else name
  if ← sign? "@" then
    let _ ← g.pattern
  return .name identifier

/-- Reads a pattern behind a reference. -/
def referencePattern (g : Grammar) : Parser Unit := do
  sign "&"
  let _ ← word? "mut"
  let _ ← g.pattern

/-- Reads a pattern behind `box`, which is kept as it stands. -/
def boxPattern (g : Grammar) : Parser Unit :=
  unchanged do
    word "box"
    let _ ← g.pattern

/-- Whether a pattern begins ahead with a path that is more than a name to
bind. -/
def atPathPattern (tokens : Tokens) : Bool :=
  (tokens.atName &&
    (tokens.skip.atAnySign ["::", "!", ".."] || tokens.skip.atGroup .brace ||
      tokens.skip.atGroup .parenthesis)) ||
  (tokens.atWord "self" && tokens.skip.atSign "::") ||
  tokens.atAnySign ["::", "<"] ||
  tokens.atAnyOf ["Self", "super", "crate"]

/-- What a pattern may begin with. -/
def patternStarts : List String :=
  ["identifier", "`::`", "`<`", "`_`", "literal", "`const`", "`ref`", "`mut`",
    "`&`", "parentheses", "square brackets", "`..`"]

/-- Reads a pattern that neither binds a name nor is a range. -/
def plainPattern (g : Grammar) : Parser Unit := do
  let tokens ← ahead
  if tokens.atWord "_" then word "_"
  else if tokens.atWord "box" then g.boxPattern
  else if tokens.atSign "&" then g.referencePattern
  else if tokens.atGroup .parenthesis then g.patternTuple
  else if tokens.atGroup .bracket then g.slicePattern
  else expected patternStarts

/-- Reads a pattern without alternatives. -/
def readPattern (g : Grammar) : Parser PatternShape := do
  let tokens ← ahead
  if atPathPattern tokens then g.pathPattern
  else if tokens.atSign "-" || tokens.atLiteral || tokens.atWord "const" then
    g.constantPattern
  else if tokens.atAnyOf ["ref", "mut", "self"] || tokens.atName then
    g.namePattern
  else if tokens.atSign ".." && !tokens.atSign "..." then g.startlessPattern
  else
    g.plainPattern
    return .other

end Grammar
end Source
end PreferenceSchema
