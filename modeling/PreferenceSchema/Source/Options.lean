import PreferenceSchema.Source.AttributeError
import PreferenceSchema.Source.Descriptor
import PreferenceSchema.Source.Reading
import PreferenceSchema.Text.Similarity

/-!
# Options of attributes

What stands in the parentheses of an attribute.  Two kinds of attributes have
lists of options that are read one after the other, up to the first fault; two
have one text option, and their faults are gathered.
-/

namespace PreferenceSchema
namespace Source

open Source.Parser

/-! ### Lists of options -/

/-- Reads the path that names an option; its first word may be any word. -/
def optionPath : Parser Path := do
  let leadingColon ← sign? "::"
  let tokens ← ahead
  if tokens.atAnyWord then
    let segments ← repeating [] fun segments => do
      let segments := segments ++ [PathSegment.mk (← anyWord) .none]
      if ← sign? "::" then return .again segments
      return .done segments
    return ⟨leadingColon, segments⟩
  if tokens.isEmpty then stop "expected nested attribute"
  if tokens.atLiteral then
    stop "unexpected literal in nested attribute, expected ident"
  stop "unexpected token in nested attribute, expected ident"

/-- Reads options with commas between them, at least one; `option` reads one
behind its path. -/
def someOptions
    {α : Type}
    (option : Path → Parser α) : Parser (List α) :=
  repeating [] fun options => do
    let options := options ++ [← option (← optionPath)]
    if (← ahead).isEmpty then return .done options
    sign ","
    if (← ahead).isEmpty then return .done options
    return .again options

/-- The options of an attribute that has to have a list of them, which may be
empty. -/
def Attribute.options
    {α : Type}
    (mark : Attribute)
    (option : Grammar → Path → Parser α) : Except AttributeFault (List α) :=
  match mark.content with
  | .bare => .error (.missingOptions mark.inner mark.path.dotted)
  | .value _ => .error (.missingParentheses mark.inner mark.path.dotted)
  | .list _ [] => .ok []
  | .list _ tokens =>
    (readAll (fun g => someOptions (option g)) tokens).mapError
      AttributeFault.unreadable

/-- What is wrong with an expression that is no default. -/
def noDefault : Fault :=
  .other false "default must be a string, number or boolean literal"

/-- The text and the kind of the literal that an expression is as a default. -/
def Expr.defaultValue (expr : Expr) :
    Except AttributeFault (String × LiteralKind) :=
  match expr.defaultText? with
  | some value => .ok value
  | none => .error (.unreadable noDefault)

/-- An option of a field. -/
inductive FieldOption where
  | key (text : String)
  | default (text : String) (kind : LiteralKind)
deriving DecidableEq, Repr

/-- Reads an option of a field behind its path. -/
def fieldOption
    (g : Grammar)
    (path : Path) : Parser FieldOption := do
  if path.isWord "key" then
    sign "="
    return .key (← string)
  else if path.isWord "default" then
    sign "="
    match (← g.expression true).defaultText? with
    | some (text, kind) => return .default text kind
    | none => throw noDefault
  else throw (.other false "expected `key` or `default`")

/-- An option of a component: a text, or the paths of entities. -/
inductive ComponentOption where
  | text (name value : String)
  | paths (name : String) (entities : List Path)
deriving Repr

namespace ComponentOption

/-- The attribute value that an option stands for: the text as it is, or the
last words of the paths with commas between them. -/
def value : ComponentOption → String × String
  | .text name value => (name, value)
  | .paths name entities => (name, ",".intercalate (entities.map Path.ownName))

end ComponentOption

/-- Reads an option of a component behind its path. -/
def componentOption
    (_ : Grammar)
    (path : Path) : Parser ComponentOption := do
  if ← sign? "=" then return .text path.ownName (← string)
  return .paths path.ownName (← inside .parenthesis (someOptions pure))

/-! ### One text option -/

/-- An entry in the parentheses of an attribute with one text option. -/
inductive OptionEntry where
  | literal
  | named (name : String) (content : AttributeContent)

/-- Whether a literal stands ahead that is no name of an option. -/
def atLiteralEntry (tokens : Tokens) : Bool :=
  tokens.atLiteral && !(tokens.atAnyWord && tokens.skip.atSign "=")

/-- Reads the words of a path that names an option. -/
def entryPath : Parser Path := do
  let leadingColon ← sign? "::"
  let segments ← repeating [] fun segments => do
    let segments := segments ++ [PathSegment.mk (← anyWord) .none]
    if ← sign? "::" then
      if (← ahead).atAnyWord then return .again segments
      stop "expected path segment"
    return .done segments
  return ⟨leadingColon, segments⟩

/-- Reads an entry. -/
def optionEntry (g : Grammar) : Parser OptionEntry := do
  let tokens ← ahead
  if atLiteralEntry tokens then
    let _ ← literal
    return .literal
  else if tokens.atAnyWord ||
      (tokens.atSign "::" && tokens.skip.skip.atAnyWord) then
    let path ← entryPath
    let tokens ← ahead
    if tokens.atSign "=" then
      return .named path.dotted (.value (← g.attributeValue))
    return .named path.dotted (← g.attributeContent)
  else stop "expected identifier or literal"

/-- The entries that some tokens are. -/
def optionEntries (tokens : Tokens) :
    Except AttributeFault (List OptionEntry) :=
  match readAll (fun g => commaSeparated (optionEntry g)) tokens with
  | .ok (entries, _) => .ok entries
  | .error fault => .error (.unreadable fault)

/-- The kind of a literal in diagnostics. -/
def Literal.kindName : Literal → String
  | .string _ => "string"
  | .byteString => "byte string"
  | .cString => "unknown"
  | .byte => "byte"
  | .character => "char"
  | .integer _ => "int"
  | .float _ => "float"
  | .boolean _ => "bool"
  | .faulty => "verbatim"

/-- The text that a literal is. -/
def Literal.text : Literal → Except AttributeFault String
  | .string value => .ok value
  | value => .error (.unexpectedType value.kindName)

/-- The text that an expression is. -/
def Expr.text : Expr → Except AttributeFault String
  | .literal value => value.text
  | .group inner => text inner
  | .paren _ => .error (.unexpectedType "paren")
  | .negation _ => .error (.unexpectedType "unary")
  | .other kind => .error (.unexpectedType kind.name)

/-- The text that a value is. -/
def OptionValue.text : OptionValue → Except AttributeFault String
  | .literal value => value.text
  | .expression value => value.text

/-- The text that an option has as its value. -/
def optionText : AttributeContent → Except AttributeFault String
  | .bare => .error (.unexpectedForm "word")
  | .list _ tokens => do
    let _ ← optionEntries tokens
    .error (.unexpectedForm "list")
  | .value value => value.text

/-- What the entries read so far say: whether the option was there, its text if
it was right, and the faults. -/
structure TextOption where
  present : Bool
  text : Option String
  errors : List AttributeError

namespace TextOption

/-- Nothing read so far. -/
def none : TextOption :=
  ⟨false, .none, []⟩

/-- One more fault. -/
def report
    (state : TextOption)
    (fault : AttributeFault)
    (option : Option String) : TextOption :=
  { state with errors := state.errors ++ [.single fault option] }

/-- Takes the value of the option `known`. -/
def take
    (state : TextOption)
    (known : String)
    (content : AttributeContent) : TextOption :=
  if state.present then state.report (.repeatedOption known) .none
  else
    match optionText content with
    | .ok text => { state with present := true, text := some text }
    | .error fault => { state with present := true }.report fault (some known)

/-- Takes one entry, where `known` is the only option that there is. -/
def step
    (known : String)
    (state : TextOption) : OptionEntry → TextOption
  | .literal => state.report (.unexpectedForm "literal") .none
  | .named name content =>
    if name = known then state.take known content
    else
      let similar := Text.resembles name.toList known.toList
      state.report (.unknownOption name known similar) .none

/-- The faults, with one for an option that was not there but is required. -/
def allErrors
    (state : TextOption)
    (known : String)
    (required : Bool) : List AttributeError :=
  if required && !state.present then
    state.errors ++ [.ofFault (.missingOption known)]
  else state.errors

end TextOption

/-- The text of the only option `known` of an attribute, if it has one. -/
def Attribute.textOption
    (mark : Attribute)
    (known : String)
    (required : Bool) : Except AttributeError (Option String) :=
  match mark.content with
  | .bare => .error (.ofFault (.unexpectedForm "word"))
  | .value value =>
    match value.text with
    | .ok _ => .error (.ofFault (.unexpectedType "string"))
    | .error fault => .error (.ofFault fault)
  | .list _ tokens =>
    match optionEntries tokens with
    | .ok entries =>
      let state := entries.foldl (TextOption.step known) .none
      AttributeError.unlessAny (state.allErrors known required) state.text
    | .error fault => .error (.ofFault fault)

end Source
end PreferenceSchema
