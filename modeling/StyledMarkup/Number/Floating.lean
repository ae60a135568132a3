import StyledMarkup.Number.Binary

namespace StyledMarkup

/-!
# Floating-point arithmetic

The result of an operation on finite numbers is the exact result, rounded to
the nearest number of a format.  A result beyond the greatest number is
infinite, and a result that is not determined is undefined.
-/

/-- A value of floating-point arithmetic. -/
inductive Floating where
  | finite (number : Binary)
  | infinite (negative : Bool)
  | undefined
deriving DecidableEq, Repr

namespace Floating

/-- The value nearest to a quotient. -/
def ofQuotientIn (format : Binary.Format) (negative : Bool) (numerator denominator : Nat) :
    Floating :=
  match Binary.nearest? format negative numerator denominator with
  | some number => .finite number
  | none => .infinite negative

/-- The value nearest to a power of ten. -/
def tenTo (format : Binary.Format) (power : Int) : Floating :=
  match Binary.ofDecimal? format false 1 power with
  | some number => .finite number
  | none => .infinite false

/-- The sign of a value; an undefined one has none. -/
def negative : Floating → Bool
  | .finite number => number.negative
  | .infinite negative => negative
  | .undefined => false

/-- Zero of either sign. -/
def isZero : Floating → Bool
  | .finite number => number.isZero
  | _ => false

/-- The value with the other sign. -/
def negated : Floating → Floating
  | .finite number => .finite { number with negative := ! number.negative }
  | .infinite negative => .infinite (! negative)
  | .undefined => .undefined

/-- A signed whole number of steps, each of them a power of two. -/
def steps (number : Binary) (exponent : Int) : Int :=
  let count : Int := number.significand * Nat.pow 2 (number.exponent - exponent).toNat
  if number.negative then -count else count

/-- A signed whole number of steps, rounded to a format; zero gets a sign of its own. -/
def ofSteps (format : Binary.Format) (zeroNegative : Bool) (count exponent : Int) : Floating :=
  let (above, below) := Binary.magnitude ⟨false, count.natAbs, exponent⟩
  ofQuotientIn format (if count = 0 then zeroNegative else count < 0) above below

/-- Sum of two values. -/
def sumIn (format : Binary.Format) : Floating → Floating → Floating
  | .finite first, .finite second =>
      let exponent := min first.exponent second.exponent
      ofSteps format (first.negative && second.negative)
        (steps first exponent + steps second exponent) exponent
  | .infinite first, .infinite second => if first = second then .infinite first else .undefined
  | .infinite negative, .finite _ => .infinite negative
  | .finite _, .infinite negative => .infinite negative
  | _, _ => .undefined

/-- Product of two values. -/
def productIn (format : Binary.Format) (first second : Floating) : Floating :=
  let negative := first.negative != second.negative
  match first, second with
  | .finite a, .finite b =>
      let (above, below) := a.magnitude
      let (otherAbove, otherBelow) := b.magnitude
      ofQuotientIn format negative (above * otherAbove) (below * otherBelow)
  | .undefined, _ => .undefined
  | _, .undefined => .undefined
  | _, _ => if first.isZero || second.isZero then .undefined else .infinite negative

/-- Quotient of two values. -/
def quotientIn (format : Binary.Format) (first second : Floating) : Floating :=
  let negative := first.negative != second.negative
  match first, second with
  | .finite a, .finite b =>
      if b.isZero then (if a.isZero then .undefined else .infinite negative)
      else
        let (above, below) := a.magnitude
        let (otherAbove, otherBelow) := b.magnitude
        ofQuotientIn format negative (above * otherBelow) (below * otherAbove)
  | .infinite _, .finite _ => .infinite negative
  | .finite _, .infinite _ => .finite (.zero format negative)
  | _, _ => .undefined

/-- A value rounded to a format. -/
def roundedTo (format : Binary.Format) : Floating → Floating
  | .finite number =>
      let (above, below) := number.magnitude
      ofQuotientIn format number.negative above below
  | other => other

/-- The first value is less than the second one; an undefined value is not comparable. -/
def isLess : Floating → Floating → Bool
  | .finite first, .finite second =>
      let exponent := min first.exponent second.exponent
      steps first exponent < steps second exponent
  | .infinite first, .infinite second => first && ! second
  | .infinite negative, .finite _ => negative
  | .finite _, .infinite negative => ! negative
  | _, _ => false

/-- The order of two values; there is none if one of them is undefined. -/
def compare? (first second : Floating) : Option Ordering :=
  if first = .undefined ∨ second = .undefined then none
  else if first.isLess second then some .lt
  else if second.isLess first then some .gt
  else some .eq

/-- Equality of values: zeros of both signs are equal, and an undefined value equals none. -/
def sameValue : Floating → Floating → Bool
  | .finite first, .finite second => first.sameValue second
  | .infinite first, .infinite second => first == second
  | _, _ => false

/-- The value is finite and has no fractional part. -/
def isWhole : Floating → Bool
  | .finite number => number.isWhole
  | _ => false

end Floating

end StyledMarkup
