import PreferenceSchema.Number.Numeral

/-!
# Decimal fractions

A decimal fraction is a row of digits with a power of ten.  It is read from text
with an optional point and exponent, and written in full, without an exponent.
-/

namespace PreferenceSchema
namespace Number

/-- The number `digits`, times ten to the power of `exponent`. -/
structure Decimal where
  digits : Nat
  exponent : Int
deriving DecidableEq, Repr

namespace Decimal

/-- Numerator and denominator of a decimal fraction. -/
def fraction (d : Decimal) : Nat × Nat :=
  if 0 ≤ d.exponent then (d.digits * Nat.pow 10 d.exponent.toNat, 1)
  else (d.digits, Nat.pow 10 (-d.exponent).toNat)

/-- The power of ten below which the number lies. -/
def top (d : Decimal) : Int :=
  (naturalDigits d.digits).length + d.exponent

/-- Moves up to `count` zeros from the end of the digits of a number other than
zero into the exponent. -/
def stripZeros : Nat → Decimal → Decimal
  | 0, d => d
  | count + 1, d =>
    if d.digits % 10 = 0 then stripZeros count ⟨d.digits / 10, d.exponent + 1⟩
    else d

/-- The same number with as few digits as possible, and zero without an
exponent. -/
def normalize (d : Decimal) : Decimal :=
  if d.digits = 0 then ⟨0, 0⟩ else d.stripZeros (naturalDigits d.digits).length

/-- The number in full: all its digits, a point only where a fraction follows,
and no exponent. -/
def positional (d : Decimal) : List Char :=
  let digits := naturalDigits d.digits
  if 0 ≤ d.exponent then
    if d.digits = 0 then ['0']
    else digits ++ List.replicate d.exponent.toNat '0'
  else
    let places := (-d.exponent).toNat
    if places < digits.length then
      digits.take (digits.length - places) ++ '.' ::
        digits.drop (digits.length - places)
    else '0' :: '.' :: (List.replicate (places - digits.length) '0' ++ digits)

/-- The exponent written behind the digits of a number: none, or a mark, an
optional sign and at least one digit. -/
def readExponent? : List Char → Option Int
  | [] => some 0
  | c :: rest => if c = 'e' ∨ c = 'E' then readInteger? rest else none

/-- Reads a number without a sign: digits with an optional point before, among
or after them, and an optional exponent. -/
def read? (text : List Char) : Option Decimal :=
  let whole := text.takeWhile Char.isDigit
  let rest := text.dropWhile Char.isDigit
  let (places, tail) :=
    match rest with
    | '.' :: after =>
      (after.takeWhile Char.isDigit, after.dropWhile Char.isDigit)
    | _ => ([], rest)
  if whole.isEmpty && places.isEmpty then none
  else
    (readExponent? tail).map fun exponent =>
      ⟨digitsValue (whole ++ places), exponent - places.length⟩

end Decimal
end Number
end PreferenceSchema
