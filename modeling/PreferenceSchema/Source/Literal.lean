import PreferenceSchema.Number.Numeral
import PreferenceSchema.Source.LiteralScan

/-!
# Literals and their values

The value that a literal token denotes.  A whole number has its value in any
base; a number with a fraction or an exponent has its digits, without the marks
that do not count.  Suffixes are left out.
-/

namespace PreferenceSchema
namespace Source

/-- A literal. -/
inductive Literal where
  | string (value : String)
  | byteString
  | cString
  | byte
  | character
  | integer (value : Nat)
  /-- A number with a fraction or an exponent, by its decimal digits, point and
  exponent. -/
  | float (digits : String)
  | boolean (value : Bool)
  /-- The mark of a faulty piece. -/
  | faulty
deriving DecidableEq, Repr

/-- What an escape of one character denotes, and what follows it behind the
backslash. -/
def readEscape? : List Char → Option (Char × List Char)
  | 'x' :: high :: low :: rest => some (Char.ofNat (hexValue [high, low]), rest)
  | 'u' :: rest => scanCodePoint? rest
  | 'n' :: rest => some ('\n', rest)
  | 'r' :: rest => some ('\r', rest)
  | 't' :: rest => some ('\t', rest)
  | '0' :: rest => some (Char.ofNat 0, rest)
  | c :: rest => some (c, rest)
  | [] => none

/-- The text that a string denotes, behind its opening quote, read in at most
`steps` parts. -/
def readQuoted : (steps : Nat) → List Char → List Char
  | 0, _ => []
  | _, [] => []
  | steps + 1, c :: rest =>
    if c = '"' then []
    else if c = '\\' then
      match rest with
      | '\n' :: _ | '\r' :: _ =>
        match scanContinuation? rest with
        | some rest => readQuoted steps rest
        | none => []
      | _ =>
        match readEscape? rest with
        | some (c, rest) => c :: readQuoted steps rest
        | none => []
    else if c = '\r' then
      match rest with
      | '\n' :: rest => '\n' :: readQuoted steps rest
      | _ => []
    else c :: readQuoted steps rest

/-- The text that a raw string denotes, which ends at a quote and `hashes`. -/
def readRaw (hashes : List Char) : List Char → List Char
  | [] => []
  | c :: rest =>
    if c = '"' && hashes.isPrefixOf rest then [] else c :: readRaw hashes rest

/-- The text that a string token denotes. -/
def readString (token : List Char) : List Char :=
  match token with
  | 'r' :: rest =>
    let hashes := rest.takeWhile (· == '#')
    readRaw hashes (rest.drop (hashes.length + 1))
  | _ :: rest => readQuoted (rest.length + 1) rest
  | [] => []

/-- Whether an exponent, behind its letter, makes the number in front of it one
with an exponent: it has a sign, or digits that are all of it or in front of a
suffix; `valued` tells that a digit has been seen. -/
def hasExponent (valued : Bool) : List Char → Bool
  | [] => valued
  | c :: rest =>
    if c = '_' then hasExponent valued rest
    else if c = '+' ∨ c = '-' then true
    else if c.isDigit then hasExponent true rest
    else valued && Text.isIdentifier (c :: rest)

/-- The value of a whole number in a base that goes on from `value`: nothing
where the token is no whole number. -/
def readWholeFrom? (base value : Nat) : List Char → Option Nat
  | [] => some value
  | c :: rest =>
    if c = '_' then readWholeFrom? base value rest
    else if c.isDigit || (10 < base && isHexDigit c) then
      if hexDigitValue c < base then
        readWholeFrom? base (base * value + hexDigitValue c) rest
      else none
    else if base = 10 && c = '.' then none
    else if base = 10 && (c = 'e' || c = 'E') &&
      hasExponent false rest then none
    else some value

/-- The value of a whole number. -/
def readWhole? (token : List Char) : Option Nat :=
  let (base, digits) := numberBase token
  readWholeFrom? base 0 digits

/-- Whether the first character that is no underscore goes on with an
exponent. -/
def exponentFollows (text : List Char) : Bool :=
  match text.dropWhile (· == '_') with
  | c :: _ => c.isDigit || c == '+' || c == '-'
  | [] => false

/-- The digits of a number with a fraction or an exponent; `marked` tells that
the exponent has begun. -/
def readFloatDigits (marked : Bool) : List Char → List Char
  | [] => []
  | c :: rest =>
    if c = '_' then readFloatDigits marked rest
    else if c.isDigit || c == '.' || c == '-' then
      c :: readFloatDigits marked rest
    else if c = '+' then readFloatDigits marked rest
    else if (c = 'e' || c = 'E') && !marked && exponentFollows rest then
      'e' :: readFloatDigits true rest
    else []

/-- The literal that a token denotes. -/
def Literal.ofToken (token : String) : Literal :=
  let chars := token.toList
  if token = faultMark then .faulty
  else if startsWith "\"" chars || startsWith "r" chars then
    .string (String.ofList (readString chars))
  else if startsWith "b\x27" chars then .byte
  else if startsWith "b" chars then .byteString
  else if startsWith "c" chars then .cString
  else if startsWith "\x27" chars then .character
  else
    match readWhole? chars with
    | some value => .integer value
    | none => .float (String.ofList (readFloatDigits false chars))

/-- Whether a digit or an underscore may stand in a number of a base. -/
def isDigitOf
    (base : Nat)
    (c : Char) : Bool :=
  c == '_' || (isHexDigit c && hexDigitValue c < base)

/-- Whether nothing stands behind the digits of a whole number. -/
def isUnsuffixed (token : List Char) : Bool :=
  let (base, digits) := numberBase token
  digits.all (isDigitOf base)

/-- The place among fields that a token gives: a whole number without a suffix,
in 32 bits. -/
def fieldIndex? (token : List Char) : Option Nat :=
  (readWhole? token).filter fun value =>
    isUnsuffixed token && value < Nat.pow 2 32

end Source
end PreferenceSchema
