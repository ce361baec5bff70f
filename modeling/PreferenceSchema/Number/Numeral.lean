/-!
# Decimal numerals

Whole numbers written in decimal digits: reading them back from text, with an
optional sign, and writing them.
-/

namespace PreferenceSchema
namespace Number

/-- The value of an ASCII decimal digit. -/
def digitValue (c : Char) : Nat :=
  c.toNat - 0x30

/-- The value of a row of decimal digits that continues the number `start`. -/
def digitsValueFrom
    (start : Nat)
    (digits : List Char) : Nat :=
  digits.foldl (fun value c => 10 * value + digitValue c) start

/-- The value of a row of decimal digits. -/
def digitsValue (digits : List Char) : Nat :=
  digitsValueFrom 0 digits

/-- A text without its sign, and whether the sign was a minus. -/
def readSign : List Char → Bool × List Char
  | '+' :: rest => (false, rest)
  | '-' :: rest => (true, rest)
  | text => (false, text)

/-- Reads a whole number: an optional sign and at least one decimal digit, and
nothing else. -/
def readInteger? (text : List Char) : Option Int :=
  let (negative, digits) := readSign text
  if digits.isEmpty || !digits.all Char.isDigit then none
  else
    let value : Int := digitsValue digits
    some (if negative then -value else value)

/-- The number of values without a sign among those of `bits` bits with a
sign. -/
def signedBound (bits : Nat) : Nat :=
  Nat.pow 2 (bits - 1)

/-- Reads a whole number that fits into `bits` bits with a sign. -/
def readBounded?
    (bits : Nat)
    (text : List Char) : Option Int :=
  (readInteger? text).filter fun value =>
    -signedBound bits ≤ value && value < signedBound bits

/-- The decimal digits of a natural number. -/
def naturalDigits (n : Nat) : List Char :=
  Nat.toDigits 10 n

/-- A whole number in decimal digits, with a minus sign in front of a negative
one. -/
def writeInteger (n : Int) : List Char :=
  if n < 0 then '-' :: naturalDigits n.natAbs else naturalDigits n.natAbs

end Number
end PreferenceSchema
