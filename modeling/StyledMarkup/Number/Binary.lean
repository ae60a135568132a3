import StyledMarkup.Text.Basic

namespace StyledMarkup

/-!
# Binary floating-point numbers

A finite floating-point number is a signed multiple of a power of two.  A
format bounds the size of the multiple and the range of the power, and
rounding takes an exact quotient to the nearest number of the format.
-/

/-- The finite number `significand * 2 ^ exponent`, negated when `negative` is set. -/
structure Binary where
  negative : Bool
  significand : Nat
  exponent : Int
deriving DecidableEq, Repr

namespace Binary

/-- Size of the significand in bits, and the least and greatest power of two. -/
structure Format where
  precision : Nat
  leastExponent : Int
  greatestExponent : Int

/-- The 64-bit format. -/
def Format.double : Format := ⟨53, -1074, 971⟩

/-- The 32-bit format. -/
def Format.single : Format := ⟨24, -149, 104⟩

/-- Zero of a format, with a sign. -/
def zero (format : Format) (negative : Bool) : Binary :=
  ⟨negative, 0, format.leastExponent⟩

/-- A quotient rounded to the nearest whole number, a half to the even neighbour. -/
def roundedQuotient (numerator denominator : Nat) : Nat :=
  let quotient := numerator / denominator
  let twice := 2 * (numerator % denominator)
  if twice < denominator then quotient
  else if denominator < twice then quotient + 1
  else quotient + quotient % 2

/-- Numerator and denominator of a quotient divided by a power of two. -/
def dividedByPower (numerator denominator : Nat) (exponent : Int) : Nat × Nat :=
  match exponent with
  | .ofNat power => (numerator, denominator * Nat.pow 2 power)
  | .negSucc power => (numerator * Nat.pow 2 (power + 1), denominator)

/-- The greatest exponent at which the quotient still fills the whole precision. -/
def fillingExponent (format : Format) (numerator denominator : Nat) : Int :=
  let guess : Int := (numerator.log2 : Int) - denominator.log2 - format.precision + 1
  let (above, below) := dividedByPower numerator denominator guess
  if above < below * Nat.pow 2 (format.precision - 1) then guess - 1 else guess

/-- The number of the format nearest to a quotient; `none` when it is beyond the greatest one. -/
def nearest? (format : Format) (negative : Bool) (numerator denominator : Nat) : Option Binary :=
  if numerator = 0 then
    some (zero format negative)
  else
    let exponent := max format.leastExponent (fillingExponent format numerator denominator)
    let (above, below) := dividedByPower numerator denominator exponent
    let significand := roundedQuotient above below
    let (significand, exponent) :=
      if significand = Nat.pow 2 format.precision then
        (Nat.pow 2 (format.precision - 1), exponent + 1)
      else (significand, exponent)
    if exponent ≤ format.greatestExponent then some ⟨negative, significand, exponent⟩ else none

/-- Numerator and denominator of the magnitude of a number. -/
def magnitude (number : Binary) : Nat × Nat :=
  match number.exponent with
  | .ofNat power => (number.significand * Nat.pow 2 power, 1)
  | .negSucc power => (number.significand, Nat.pow 2 (power + 1))

/-- The number of a format nearest to `digits * 10 ^ exponent`. -/
def ofDecimal? (format : Format) (negative : Bool) (digits : Nat) : Int → Option Binary
  | .ofNat power => nearest? format negative (digits * Nat.pow 10 power) 1
  | .negSucc power => nearest? format negative digits (Nat.pow 10 (power + 1))

/-- Product of two numbers, rounded to the format. -/
def times? (format : Format) (first second : Binary) : Option Binary :=
  let (above, below) := first.magnitude
  let (otherAbove, otherBelow) := second.magnitude
  nearest? format (first.negative != second.negative) (above * otherAbove) (below * otherBelow)

/-- Quotient of a number by one that is not zero, rounded to the format. -/
def dividedBy? (format : Format) (first second : Binary) : Option Binary :=
  let (above, below) := first.magnitude
  let (otherAbove, otherBelow) := second.magnitude
  nearest? format (first.negative != second.negative) (above * otherBelow) (below * otherAbove)

/-- Zero of either sign. -/
def isZero (number : Binary) : Bool := number.significand == 0

/-- Equality of values: zeros of both signs are equal. -/
def sameValue (first second : Binary) : Bool :=
  first == second || (first.isZero && second.isZero)

/-- The value has no fractional part. -/
def isWhole (number : Binary) : Bool :=
  let (above, below) := number.magnitude
  above % below == 0

end Binary

end StyledMarkup
