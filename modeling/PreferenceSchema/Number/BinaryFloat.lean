import PreferenceSchema.Number.Decimal

/-!
# Binary floating-point numbers

The finite values of a binary interchange format, given by a sign and the bits
below it.  A decimal fraction is rounded to the nearest value, a tie to the even
one; a value is written with the fewest decimal digits that round back to it.
-/

namespace PreferenceSchema
namespace Number

/-- A binary interchange format: the width of its fraction field and of its
exponent field. -/
structure BinaryFormat where
  fractionBits : Nat
  exponentBits : Nat
deriving DecidableEq, Repr

namespace BinaryFormat

/-- The 32-bit format. -/
def single : BinaryFormat := ⟨23, 8⟩

/-- The 64-bit format. -/
def double : BinaryFormat := ⟨52, 11⟩

/-- Every finite value is a whole multiple of two to the power of `-scale`, the
least positive one. -/
def scale (format : BinaryFormat) : Nat :=
  Nat.pow 2 (format.exponentBits - 1) - 2 + format.fractionBits

/-- The denominator of the least positive value. -/
def denominator (format : BinaryFormat) : Nat :=
  Nat.pow 2 format.scale

/-- The value of the leading bit of a significand: how many fractions there
are. -/
def leadingBit (format : BinaryFormat) : Nat :=
  Nat.pow 2 format.fractionBits

/-- The bits of infinity: those of every finite magnitude are below. -/
def limit (format : BinaryFormat) : Nat :=
  (Nat.pow 2 format.exponentBits - 1) * format.leadingBit

/-- The significand of a magnitude, with its leading bit unless the exponent
field is zero. -/
def significand
    (format : BinaryFormat)
    (magnitude : Nat) : Nat :=
  if magnitude / format.leadingBit = 0 then magnitude
  else format.leadingBit + magnitude % format.leadingBit

/-- A magnitude in multiples of the least positive value. -/
def units
    (format : BinaryFormat)
    (magnitude : Nat) : Nat :=
  format.significand magnitude * Nat.pow 2 (magnitude / format.leadingBit - 1)

/-- The quotient `num / den`, rounded to the nearest whole number, a tie to the
even one. -/
def roundHalfEven (num den : Nat) : Nat :=
  let quotient := num / den
  let rest := num % den
  if 2 * rest < den then quotient
  else if den < 2 * rest then quotient + 1
  else quotient + quotient % 2

/-- The magnitude nearest to `num / den`, a tie going to the even one; at least
`limit` where the number is too large for the format. -/
def nearest
    (format : BinaryFormat)
    (num den : Nat) : Nat :=
  let scaled := num * format.denominator
  let shift := Nat.log2 (scaled / den) - format.fractionBits
  shift * format.leadingBit + roundHalfEven scaled (den * Nat.pow 2 shift)

/-- The magnitude of a decimal fraction, unless it is too large for the format.
A number far beyond the range of the format is settled by its power of ten
alone. -/
def ofDecimal?
    (format : BinaryFormat)
    (d : Decimal) : Option Nat :=
  let bound : Int := format.scale + 2
  if d.digits = 0 ∨ d.top < -bound then some 0
  else if bound < d.top then none
  else
    let (num, den) := d.fraction
    let magnitude := format.nearest num den
    if magnitude < format.limit then some magnitude else none

/-- The decimal fraction that a magnitude denotes, in full. -/
def exactDecimal
    (format : BinaryFormat)
    (magnitude : Nat) : Decimal :=
  ⟨format.units magnitude * Nat.pow 5 format.scale, -format.scale⟩

/-- The two multiples of ten to the power of `exponent` around a magnitude, the
nearer one first; the upper one where both are as near. -/
def neighbours
    (format : BinaryFormat)
    (magnitude : Nat)
    (exponent : Int) : List Decimal :=
  let num := format.units magnitude
  let den := format.denominator
  let (num, den) :=
    if 0 ≤ exponent then (num, den * Nat.pow 10 exponent.toNat)
    else (num * Nat.pow 10 (-exponent).toNat, den)
  let lower : Decimal := ⟨num / den, exponent⟩
  let upper : Decimal := ⟨num / den + 1, exponent⟩
  if 2 * (num % den) < den then [lower, upper] else [upper, lower]

/-- The power of ten below which a positive magnitude lies. -/
def decimalTop
    (format : BinaryFormat)
    (magnitude : Nat) : Int :=
  let num := format.units magnitude
  let den := format.denominator
  if den ≤ num then (naturalDigits (num / den)).length
  else 1 - (naturalDigits ((den - 1) / num)).length

/-- The decimal fraction with the fewest digits that rounds to the magnitude,
and of those the nearest to it. -/
def shortest
    (format : BinaryFormat)
    (magnitude : Nat) : Decimal :=
  if magnitude = 0 then ⟨0, 0⟩
  else
    let top := format.decimalTop magnitude
    let candidates := (List.range (format.fractionBits + 2)).flatMap
        fun (count : Nat) =>
      format.neighbours magnitude (top - 1 - count)
    ((candidates.find? fun d => format.ofDecimal? d = some magnitude).getD
      (format.exactDecimal magnitude)).normalize

end BinaryFormat

/-- A finite value of a binary format: a sign and the bits below it. -/
structure BinaryFloat (format : BinaryFormat) where
  negative : Bool
  magnitude : Nat
  magnitude_lt : magnitude < format.limit
deriving DecidableEq, Repr

namespace BinaryFloat

variable {format : BinaryFormat}

/-- Positive zero. -/
def zero
    (format : BinaryFormat)
    (positive : 0 < format.limit) : BinaryFloat format :=
  ⟨false, 0, positive⟩

/-- Reads a number with an optional sign, rounded to the nearest finite
value. -/
def read?
    (format : BinaryFormat)
    (text : List Char) : Option (BinaryFloat format) := do
  let (negative, digits) := readSign text
  let d ← Decimal.read? digits
  let magnitude ← format.ofDecimal? d
  if h : magnitude < format.limit then some ⟨negative, magnitude, h⟩ else none

/-- The value in full, with the fewest digits that read back. -/
def write (x : BinaryFloat format) : List Char :=
  let text := (format.shortest x.magnitude).positional
  if x.negative then '-' :: text else text

/-- The bits of the value, with the sign in front. -/
def bits (x : BinaryFloat format) : Nat :=
  (if x.negative then Nat.pow 2 (format.exponentBits + format.fractionBits)
    else 0) + x.magnitude

end BinaryFloat
end Number
end PreferenceSchema
