import PreferenceSchema.Source.Blank
import PreferenceSchema.Text.Identifier

/-!
# The extent of a literal

Where a literal at the start of a text ends: strings with their escapes, raw
strings, characters and numbers, each with an optional suffix.  A scan gives the
rest of the text, or nothing where the text does not begin with a literal of its
kind.
-/

namespace PreferenceSchema
namespace Source

/-- The mark that stands for a faulty piece of a text.  It is a literal of its
own, and neither a group nor a comment. -/
def faultMark : String :=
  "(/*ERROR*/)"

/-- What follows `mark` at the start of a text. -/
def after?
    (mark : String)
    (text : List Char) : Option (List Char) :=
  mark.toList.isPrefixOf? text

/-- What follows an identifier at the start of a text. -/
def scanIdentifier? : List Char → Option (List Char)
  | [] => none
  | c :: rest =>
    if Text.startsIdentifier c then
      some (rest.dropWhile Text.continuesIdentifier) else none

/-- What follows the suffix of a literal, where it has one. -/
def scanSuffix (text : List Char) : List Char :=
  (scanIdentifier? text).getD text

/-- Whether a character is a hexadecimal digit. -/
def isHexDigit (c : Char) : Bool :=
  c.isDigit || ('a' ≤ c && c ≤ 'f') || ('A' ≤ c && c ≤ 'F')

/-- The value of a hexadecimal digit. -/
def hexDigitValue (c : Char) : Nat :=
  if c.isDigit then c.toNat - 0x30
  else if 'a' ≤ c then c.toNat - 'a'.toNat + 10
  else c.toNat - 'A'.toNat + 10

/-- The number that a row of hexadecimal digits denotes. -/
def hexValue (digits : List Char) : Nat :=
  digits.foldl (fun value c => 16 * value + hexDigitValue c) 0

/-- Whether a number is the code point of a character. -/
def isScalar (point : Nat) : Bool :=
  point < 0xD800 || (0xDFFF < point && point < 0x110000)

/-- Reads the code point between braces: up to six hexadecimal digits, with
underscores between and after them.  `digits` are those read so far,
reversed. -/
def scanCodePointFrom? (digits : List Char) : List Char →
  Option (Char × List Char)
  | [] => none
  | c :: rest =>
    if isHexDigit c then
      if digits.length = 6 then none else scanCodePointFrom? (c :: digits) rest
    else if digits.isEmpty then none
    else if c = '_' then scanCodePointFrom? digits rest
    else if c = '\x7d' then
      let point := hexValue digits.reverse
      if isScalar point then some (Char.ofNat point, rest) else none
    else none

/-- Reads a code point in braces. -/
def scanCodePoint? : List Char → Option (Char × List Char)
  | c :: rest => if c = '\x7b' then scanCodePointFrom? [] rest else none
  | [] => none

/-- Skips the line break behind a backslash and the blanks that follow it; the
literal has to go on after them.  A carriage return counts only in front of a
line feed. -/
def scanContinuation? : List Char → Option (List Char)
  | '\r' :: '\n' :: rest => scanContinuation? rest
  | '\r' :: _ => none
  | c :: rest =>
    if c = ' ' ∨ c = '\t' ∨ c = '\n' then scanContinuation? rest
    else some (c :: rest)
  | [] => none

/-- What sets the kinds of quoted literals apart. -/
structure QuoteRules where
  /-- Characters beyond ASCII may stand in the literal. -/
  allowsUnicode : Bool
  /-- Code points may be written in braces. -/
  allowsCodePoint : Bool
  /-- The null character may stand in the literal, or be written as an
  escape. -/
  allowsNull : Bool
  /-- The two digits of a hexadecimal escape are admitted. -/
  allowsHex : Char → Char → Bool

/-- The rules for text. -/
def QuoteRules.text : QuoteRules where
  allowsUnicode := true
  allowsCodePoint := true
  allowsNull := true
  allowsHex := fun high low => '0' ≤ high && high ≤ '7' && isHexDigit low

/-- The rules for bytes. -/
def QuoteRules.bytes : QuoteRules where
  allowsUnicode := false
  allowsCodePoint := false
  allowsNull := true
  allowsHex := fun high low => isHexDigit high && isHexDigit low

/-- The rules for text that ends at the first null. -/
def QuoteRules.terminated : QuoteRules where
  allowsUnicode := true
  allowsCodePoint := true
  allowsNull := false
  allowsHex := fun high low =>
    isHexDigit high && isHexDigit low && !(high == '0' && low == '0')

/-- What follows an escape of one character, behind its backslash. -/
def scanEscape? (rules : QuoteRules) : List Char → Option (List Char)
  | 'x' :: high :: low :: rest =>
    if rules.allowsHex high low then some rest else none
  | 'u' :: rest =>
    if rules.allowsCodePoint then
      match scanCodePoint? rest with
      | some (c, rest) => if c.toNat = 0 && !rules.allowsNull then
        none else some rest
      | none => none
    else none
  | '0' :: rest => if rules.allowsNull then some rest else none
  | c :: rest =>
    if c = 'n' ∨ c = 'r' ∨ c = 't' ∨ c = '\\' ∨ c.toNat = 0x27 ∨
      c = '"' then some rest
    else none
  | [] => none

/-- What follows a quoted literal behind its opening quote, read in at most
`steps` parts. -/
def scanQuoted? (rules : QuoteRules) : (steps : Nat) → List Char →
  Option (List Char)
  | 0, _ => none
  | _, [] => none
  | steps + 1, c :: rest =>
    if c = '"' then some (scanSuffix rest)
    else if c = '\\' then
      match rest with
      | '\n' :: _ | '\r' :: _ =>
        (scanContinuation? rest).bind (scanQuoted? rules steps)
      | _ => (scanEscape? rules rest).bind (scanQuoted? rules steps)
    else if c = '\r' then
      match rest with
      | '\n' :: rest => scanQuoted? rules steps rest
      | _ => none
    else if (c.toNat = 0 && !rules.allowsNull) ||
      (0x80 ≤ c.toNat && !rules.allowsUnicode) then none
    else scanQuoted? rules steps rest

/-- What follows a raw literal that ends at a quote and `hashes`. -/
def scanRawBody?
    (rules : QuoteRules)
    (hashes : List Char) : List Char → Option (List Char)
  | [] => none
  | c :: rest =>
    match (if c = '"' then hashes.isPrefixOf? rest else none) with
    | some rest => some (scanSuffix rest)
    | none =>
      if c = '\r' then
        match rest with
        | '\n' :: rest => scanRawBody? rules hashes rest
        | _ => none
      else if (c.toNat = 0 && !rules.allowsNull) ||
          (0x80 ≤ c.toNat && !rules.allowsUnicode) then
        none
      else scanRawBody? rules hashes rest

/-- What follows a raw literal behind its letters: at most 255 hashes and a
quote open it. -/
def scanRaw?
    (rules : QuoteRules)
    (text : List Char) : Option (List Char) :=
  let hashes := text.takeWhile (· == '#')
  match text.dropWhile (· == '#') with
  | '"' :: rest => if 255 < hashes.length then
    none else scanRawBody? rules hashes rest
  | _ => none

/-- What follows a literal in double quotes behind `letters`. -/
def scanCooked?
    (letters : String)
    (rules : QuoteRules)
    (text : List Char) : Option (List Char) :=
  (after? (letters ++ "\"") text).bind fun rest =>
    scanQuoted? rules (rest.length + 1) rest

/-- What follows a literal in single quotes behind `letters`. -/
def scanSingle?
    (letters : String)
    (rules : QuoteRules)
    (text : List Char) : Option (List Char) := do
  let rest ← after? (letters ++ "\x27") text
  let rest ←
    match rest with
    | '\\' :: rest => scanEscape? rules rest
    | c :: rest =>
      if 0x80 ≤ c.toNat && !rules.allowsUnicode then none else some rest
    | [] => none
  let rest ← after? "\x27" rest
  return scanSuffix rest

/-- What follows the exponent of a number behind its letter, and whether it has
a digit: nothing where a second sign stands in front of the first digit. -/
def scanExponent? (signed valued : Bool) : List Char → Option (List Char × Bool)
  | [] => some ([], valued)
  | c :: rest =>
    if c = '+' ∨ c = '-' then
      if valued then some (c :: rest, valued)
      else if signed then none
      else scanExponent? true valued rest
    else if c.isDigit then scanExponent? signed true rest
    else if c = '_' then scanExponent? signed valued rest
    else some (c :: rest, valued)

/-- Whether a character belongs to a row of decimal digits. -/
def isDigitOrGap (c : Char) : Bool :=
  c.isDigit || c == '_'

/-- What follows a number with an exponent, where one stands at the start of the
text; `whole` is what follows the number without it. -/
def scanWithExponent? (whole : Option (List Char)) : List Char →
  Option (List Char)
  | c :: rest =>
    if c = 'e' ∨ c = 'E' then
      match scanExponent? false false rest with
      | some (rest, true) => some rest
      | _ => whole
    else whole
  | [] => whole

/-- What follows the digits of a number with a point or an exponent. -/
def scanFloatDigits? (text : List Char) : Option (List Char) :=
  match text with
  | c :: _ =>
    if !c.isDigit then none
    else
      match text.dropWhile isDigitOrGap with
      | '.' :: rest =>
        if rest.head?.any fun next =>
          next == '.' || Text.startsIdentifier next then none
        else
          let rest := rest.dropWhile isDigitOrGap
          scanWithExponent? (some rest) rest
      | rest => scanWithExponent? none rest
  | [] => none

/-- The base of a whole number and its digits. -/
def numberBase (text : List Char) : Nat × List Char :=
  match text with
  | '0' :: 'x' :: rest => (16, rest)
  | '0' :: 'o' :: rest => (8, rest)
  | '0' :: 'b' :: rest => (2, rest)
  | _ => (10, text)

/-- What follows the digits of a whole number; `empty` tells that none has been
read yet. -/
def scanDigits?
    (base : Nat)
    (empty : Bool) : List Char → Option (List Char)
  | [] => if empty then none else some []
  | c :: rest =>
    if c = '_' then
      if empty && base == 10 then none else scanDigits? base empty rest
    else if c.isDigit then
      if base ≤ hexDigitValue c then none else scanDigits? base false rest
    else if isHexDigit c && hexDigitValue c < base then
      scanDigits? base false rest
    else if empty then none
    else some (c :: rest)

/-- What follows a number behind its digits: an optional suffix, and then no
more of a word. -/
def scanNumberEnd? (text : List Char) : Option (List Char) :=
  let rest := scanSuffix text
  match rest with
  | c :: _ => if Text.continuesIdentifier c then none else some rest
  | [] => some []

/-- What follows a number. -/
def scanNumber? (text : List Char) : Option (List Char) :=
  match (scanFloatDigits? text).bind scanNumberEnd? with
  | some rest => some rest
  | none =>
    let (base, digits) := numberBase text
    (scanDigits? base true digits).bind scanNumberEnd?

/-- The kinds of literals, in the order in which they are tried. -/
def literalScans : List (List Char → Option (List Char)) :=
  [scanCooked? "" .text,
    fun text => (after? "r" text).bind (scanRaw? .text),
    scanCooked? "b" .bytes,
    fun text => (after? "br" text).bind (scanRaw? .bytes),
    scanCooked? "c" .terminated,
    fun text => (after? "cr" text).bind (scanRaw? .terminated),
    scanSingle? "b" .bytes,
    scanSingle? "" .text,
    scanNumber?]

/-- What follows a literal at the start of a text. -/
def scanLiteral? (text : List Char) : Option (List Char) :=
  literalScans.findSome? fun scan => scan text

end Source
end PreferenceSchema
