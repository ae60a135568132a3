import StyledMarkup.Number.Floating

namespace StyledMarkup.Floating

/-!
# Arithmetic in 32-bit precision

The operations of a stylesheet round their results to 32-bit numbers.
-/

/-- The value nearest to a quotient. -/
def ofQuotient (negative : Bool) (numerator denominator : Nat) : Floating :=
  ofQuotientIn .single negative numerator denominator

/-- The value nearest to a whole number. -/
def ofInt (whole : Int) : Floating := ofQuotient (whole < 0) whole.natAbs 1

/-- The value nearest to a natural number. -/
def ofNat (whole : Nat) : Floating := ofQuotient false whole 1

/-- Positive zero. -/
def nought : Floating := .finite (.zero .single false)

/-- The number one. -/
def one : Floating := .finite ⟨false, 8388608, -23⟩

/-- The value is the number one. -/
def isOne (value : Floating) : Bool := value.sameValue one

/-- The value without its sign. -/
def absolute : Floating → Floating
  | .finite number => .finite { number with negative := false }
  | .infinite _ => .infinite false
  | .undefined => .undefined

/-- Sum of two values. -/
def plus : Floating → Floating → Floating := sumIn .single

/-- Product of two values. -/
def times : Floating → Floating → Floating := productIn .single

/-- Quotient of two values. -/
def dividedBy : Floating → Floating → Floating := quotientIn .single

/-! ## Whole numbers -/

/-- How a value is rounded to a whole number. -/
inductive Rounding where
  | nearest
  | up
  | down
  | toZero
deriving DecidableEq, Repr

/-- A quotient without a sign rounded to a whole number; a half is rounded up. -/
def wholeQuotient (rounding : Rounding) (negative : Bool) (above below : Nat) : Nat :=
  let away := (above + below - 1) / below
  match rounding with
  | .nearest => (2 * above + below) / (2 * below)
  | .up => if negative then above / below else away
  | .down => if negative then away else above / below
  | .toZero => above / below

/-- A value rounded to a whole number, with the sign of the value. -/
def toWhole (rounding : Rounding) : Floating → Floating
  | .finite number =>
      let (above, below) := number.magnitude
      ofQuotient number.negative (wholeQuotient rounding number.negative above below) 1
  | other => other

/-- The whole part as a 32-bit integer, limited to its range. -/
def toInteger : Floating → Int
  | .finite number =>
      let (above, below) := number.magnitude
      let whole : Int := (above / below : Nat)
      max (-2147483648) (min (if number.negative then -whole else whole) 2147483647)
  | .infinite negative => if negative then -2147483648 else 2147483647
  | .undefined => 0

/-- Minus one, zero or one, with the sign of the value. -/
def sign (value : Floating) : Floating :=
  match value with
  | .undefined => .undefined
  | _ => if value.isZero then value else if value.negative then one.negated else one

/-- What is left of a value after taking away a multiple of another one towards zero. -/
def remainder (first second : Floating) : Floating :=
  match first, second with
  | .finite a, .finite b =>
      if b.isZero then .undefined
      else
        let exponent := min a.exponent b.exponent
        ofSteps .single a.negative ((steps a exponent).tmod (steps b exponent)) exponent
  | .finite _, .infinite _ => first
  | _, _ => .undefined

/-! ## Hardware numbers -/

/-- The hardware number of the same value. -/
def toFloat32 : Floating → Float32
  | .finite number =>
      let sign : Nat := if number.negative then 2147483648 else 0
      let magnitude : Nat :=
        if number.significand < 8388608 then number.significand
        else (number.exponent + 150).toNat * 8388608 + (number.significand - 8388608)
      Float32.ofBits (UInt32.ofNat (sign + magnitude))
  | .infinite negative => if negative then -1.0 / 0.0 else 1.0 / 0.0
  | .undefined => 0.0 / 0.0

/-- The value of a hardware number. -/
def ofFloat32 (value : Float32) : Floating :=
  let bits := value.toBits.toNat
  let negative : Bool := 2147483648 ≤ bits
  let field := bits / 8388608 % 256
  let fraction := bits % 8388608
  if field = 255 then (if fraction = 0 then .infinite negative else .undefined)
  else if field = 0 then .finite ⟨negative, fraction, -149⟩
  else .finite ⟨negative, fraction + 8388608, (field : Int) - 150⟩

/-- The result of a hardware function. -/
def applied (function : Float32 → Float32) (value : Floating) : Floating :=
  ofFloat32 (function value.toFloat32)

/-- The result of a hardware function of two numbers. -/
def applied₂ (function : Float32 → Float32 → Float32) (first second : Floating) : Floating :=
  ofFloat32 (function first.toFloat32 second.toFloat32)

end StyledMarkup.Floating
