import StyledMarkup.Number.Shortest
import StyledMarkup.Number.Single

namespace StyledMarkup.Css

/-!
# Numbers in stylesheets

Numbers are kept in 32-bit precision.  They are printed with at most six
significant digits and without a zero in front of the decimal point.
-/

/-- A number as it was written. -/
structure Numeral where
  /-- A plus or minus sign was written. -/
  hasSign : Bool
  /-- The nearest 32-bit float; percentages are divided by one hundred. -/
  value : Floating
  /-- The value in the range of 32-bit integers, if it was written as one. -/
  whole? : Option Int
deriving DecidableEq, Repr

/-- Most significant digits that are printed. -/
def printedDigits : Nat := 6

/-- Most digits in front of the decimal point before a power of ten is printed. -/
def positionalLimit : Int := 21

/-- Value of a text of decimal digits. -/
def digitsValue (digits : Text) : Nat :=
  digits.foldl (fun value digit => value * 10 + (digit.toNat - '0'.toNat)) 0

/-- A decimal with at most the printed digits, a half rounded up. -/
def shortened (decimal : Decimal) : Decimal :=
  let length := decimal.digitText.length
  if length ≤ printedDigits then decimal
  else
    let dropped := length - printedDigits
    let digits := (decimal.digits / Nat.pow 10 (dropped - 1) + 5) / 10
    Decimal.withoutZeros length digits (decimal.exponent + dropped)

/-- Text of the magnitude of a decimal, without a zero in front of the point. -/
def decimalText (decimal : Decimal) : Text :=
  let digits := decimal.digitText
  let point := decimal.pointPosition
  if decimal.digits = 0 then ['0']
  else if positionalLimit < point ∨ point ≤ -6 then
    let fraction := if digits.length = 1 then [] else '.' :: digits.drop 1
    digits.take 1 ++ fraction ++ 'e' :: Text.ofInt (point - 1)
  else
    match point with
    | .ofNat whole =>
        if digits.length ≤ whole then digits ++ Text.repeated ['0'] (whole - digits.length)
        else digits.take whole ++ '.' :: digits.drop whole
    | fraction => '.' :: Text.repeated ['0'] fraction.natAbs ++ digits

/-- Text of a 32-bit float; zero has no sign.

An infinite value is printed as the power of two after the greatest number, and an undefined one
as one and a half times as much. -/
def floatText (value : Floating) : Text :=
  let sign := if value.negative then ['-'] else []
  match value with
  | .finite number =>
      if number.isZero then ['0'] else sign ++ decimalText (shortened (number.shortest .single))
  | .infinite _ => sign ++ Text.of "3.40282e38"
  | .undefined => Text.of "5.10424e38"

/-- A text that no different value has; an undefined value is different from itself. -/
def valueIdentity? : Floating → Option Text
  | .finite number =>
      if number.isZero then some ['0']
      else
        let sign := if number.negative then ['-'] else []
        some (sign ++ Text.ofNat number.significand ++ '*' :: Text.ofInt number.exponent)
  | .infinite negative => some (Text.of (if negative then "-infinite" else "infinite"))
  | .undefined => none

/-- Text of a 32-bit float with a zero in front of the point. -/
def pointedText (value : Floating) : Text :=
  match floatText value with
  | '-' :: '.' :: rest => '-' :: '0' :: '.' :: rest
  | '.' :: rest => '0' :: '.' :: rest
  | text => text

/-- Text of the number in front of a unit: whole numbers are limited to 32-bit integers. -/
def scalarText (value : Floating) : Text :=
  if value.isZero then (if value.negative then ['-', '0'] else ['0'])
  else if value.isWhole then Text.ofInt value.toInteger
  else floatText value

/-- Text of a number that shows whether it was written with a sign and as a whole number. -/
def writtenText (hasSign : Bool) (value : Floating) (whole? : Option Int) : Text :=
  if value.isZero && value.negative then ['-', '0']
  else
    let sign := if hasSign && ! value.negative then ['+'] else []
    match whole? with
    | some whole => sign ++ Text.ofInt whole
    | none =>
        let text := pointedText value
        let fraction :=
          if value.isWhole && ! text.contains 'e' then Text.of ".0" else []
        sign ++ text ++ fraction

/-! ## Reading

The digits of a number are added up in 64-bit precision, one after the other, so that long numbers
are rounded more than once.
-/

/-- A digit as a 64-bit number. -/
def digitValue (digit : Char) : Floating :=
  .ofQuotientIn .double false (digit.toNat - '0'.toNat) 1

/-- The value of the digits in front of the point. -/
def wholePart (digits : Text) : Floating :=
  digits.foldl
    (fun value digit =>
      .sumIn .double (.productIn .double value (.tenTo .double 1)) (digitValue digit))
    (digitValue '0')

/-- The value of the digits behind the point. -/
def fractionPart (digits : Text) : Floating :=
  (digits.foldl
    (fun (value, place) digit =>
      (.sumIn .double value (.productIn .double (digitValue digit) place),
        .productIn .double place (.tenTo .double (-1))))
    (digitValue '0', .tenTo .double (-1))).1

/-- The number written by whole digits, digits after the point and a power of ten.

A power of ten beyond five thousand is as good as any greater one. -/
def doubleOf (negative : Bool) (whole fraction : Text) (power? : Option Int) : Floating :=
  let magnitude := Floating.sumIn .double (wholePart whole) (fractionPart fraction)
  let value := if negative then magnitude.negated else magnitude
  match power? with
  | none => value
  | some power => .productIn .double value (.tenTo .double (max (-5000) (min power 5000)))

/-- A number in the range of 32-bit integers. -/
def clampedWhole (negative : Bool) (whole : Text) : Int :=
  let value : Int := digitsValue whole
  if negative then max (-value) (-2147483648) else min value 2147483647

/-- One hundred as a float. -/
def hundred : Floating := .ofNat 100

/-- A share of one in hundredths. -/
def percentOf (share : Floating) : Floating := share.times hundred

/-- Text of a share of one as a percentage. -/
def percentText (share : Floating) : Text := scalarText (percentOf share) ++ ['%']

/-- Text of a percentage that shows how it was written. -/
def Numeral.percentText (numeral : Numeral) : Text :=
  writtenText numeral.hasSign (percentOf numeral.value) numeral.whole? ++ ['%']

/-- Text of a number that shows how it was written. -/
def Numeral.text (numeral : Numeral) : Text :=
  writtenText numeral.hasSign numeral.value numeral.whole?

end StyledMarkup.Css
