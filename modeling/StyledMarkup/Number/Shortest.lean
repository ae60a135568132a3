import StyledMarkup.Number.Binary

namespace StyledMarkup

/-!
# Shortest decimal digits

Among the decimals that round back to a floating-point number, the ones with
the fewest digits are taken, and of these the nearest to the number.
-/

/-- The decimal number `digits * 10 ^ exponent`; `digits` does not end in zero unless it is zero. -/
structure Decimal where
  digits : Nat
  exponent : Int
deriving DecidableEq, Repr

namespace Decimal

/-- Text of the digits. -/
def digitText (decimal : Decimal) : Text := Text.ofNat decimal.digits

/-- Number of digits in front of the decimal point; zero or less for fractions below one tenth. -/
def pointPosition (decimal : Decimal) : Int := decimal.digitText.length + decimal.exponent

/-- Moves zeros at the end of the digits into the exponent, at most `fuel` of them. -/
def withoutZeros : Nat → Nat → Int → Decimal
  | 0, digits, exponent => ⟨digits, exponent⟩
  | fuel + 1, digits, exponent =>
      if digits ≠ 0 ∧ digits % 10 = 0 then withoutZeros fuel (digits / 10) (exponent + 1)
      else ⟨digits, exponent⟩

end Decimal

namespace Binary

/-- Value of a decimal grid point as a quotient. -/
def gridPoint (digits : Nat) : Int → Nat × Nat
  | .ofNat power => (digits * Nat.pow 10 power, 1)
  | .negSucc power => (digits, Nat.pow 10 (power + 1))

/-- The decimal point position of a positive quotient, found upwards from a low guess. -/
def pointFrom (numerator denominator : Nat) : Nat → Int → Int
  | 0, guess => guess
  | fuel + 1, guess =>
      let (above, below) := gridPoint 1 guess
      if numerator * below < above * denominator then guess
      else pointFrom numerator denominator fuel (guess + 1)

/-- Distance of two quotients over a common denominator. -/
def distance (first second : Nat × Nat) : Nat :=
  let left := first.1 * second.2
  let right := second.1 * first.2
  if left ≤ right then right - left else left - right

/-- The decimal with `count` digits that rounds back to the magnitude, if there is one. -/
def decimalWith? (format : Format) (number : Binary) (point : Int) (count : Nat) : Option Decimal :=
  let value := number.magnitude
  let exponent := point - count
  let below :=
    match exponent with
    | .ofNat power => value.1 / (value.2 * Nat.pow 10 power)
    | .negSucc power => value.1 * Nat.pow 10 (power + 1) / value.2
  let readsBack := fun digits =>
    let (numerator, denominator) := gridPoint digits exponent
    nearest? format number.negative numerator denominator = some number
  let low := if readsBack below then some below else none
  let high := if readsBack (below + 1) then some (below + 1) else none
  let chosen :=
    match low, high with
    | some first, some second =>
        let toFirst := distance (gridPoint first exponent) value
        let toSecond := distance (gridPoint second exponent) value
        if toFirst < toSecond ∨ (toFirst = toSecond ∧ first % 2 = 0) then some first else some second
    | some first, none => some first
    | none, other => other
  chosen.map fun digits => Decimal.withoutZeros count digits exponent

/-- The first decimal that reads back among those with `count`, `count + 1`, … digits. -/
def shortestFrom (format : Format) (number : Binary) (point : Int) : Nat → Nat → Decimal
  | 0, _ => ⟨number.magnitude.1 / number.magnitude.2, 0⟩
  | fuel + 1, count =>
      match decimalWith? format number point count with
      | some decimal => decimal
      | none => shortestFrom format number point fuel (count + 1)

/-- The shortest decimal that rounds back to the magnitude of the number. -/
def shortest (format : Format) (number : Binary) : Decimal :=
  if number.isZero then
    ⟨0, 0⟩
  else
    let (above, below) := number.magnitude
    let guess : Int := ((above.log2 : Int) - below.log2) * 30103 / 100000 - 2
    shortestFrom format number (pointFrom above below 8 guess) 17 1

end Binary

end StyledMarkup
