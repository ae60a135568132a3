import StyledMarkup.Css.Value.Quantity

namespace StyledMarkup.Css

open Floating (Rounding)

/-!
# Calculations

A calculation is a quantity, a number, or built from calculations by sums,
multiples and functions.  What can be calculated while reading is replaced by
its result.
-/

/-- A calculation. -/
inductive Calc where
  | measure (quantity : Quantity)
  | number (value : Floating)
  | sum (first second : Calc)
  | multiple (factor : Floating) (inner : Calc)
  | nested (inner : Calc)
  | call (name : String) (rounding : Rounding) (arguments : List Calc)

namespace Calc

/-- A percentage. -/
def ofShare (share : Floating) : Calc := .measure (.ofShare share)

/-- A length of zero. -/
def noLength : Calc := .measure .noLength

/-! ## Signs and zero -/

/-- A quantity of zero; calculations that are left are not zero. -/
def isZero : Calc → Bool
  | .measure quantity => quantity.isZero
  | _ => false

/-- The sign that all of some signs have in common, as numbers. -/
def commonSign? : List (Option Floating) → Option Floating
  | some first :: rest =>
      let isSame := fun (other : Option Floating) =>
        match other with
        | some sign => sign.sameValue first
        | none => false
      if rest.all isSame then some first else none
  | _ => none

mutual

/-- The sign of a calculation, if it can be told: minus one, one, or zero of either sign. -/
def sign? : Calc → Option Floating
  | .measure quantity => some quantity.value.sign
  | .number value => some value.sign
  | .sum _ _ => none
  | .multiple factor inner => (sign? inner).map fun sign => sign.times factor.sign
  | .nested inner => sign? inner
  | .call name _ arguments =>
      let found := signs arguments
      if name = "abs" then some Floating.one
      else if name = "min" ∨ name = "max" ∨ name = "clamp" ∨ name = "round" ∨ name = "sign" then
        commonSign? found
      else none

/-- The signs of calculations. -/
def signs : List Calc → List (Option Floating)
  | [] => []
  | first :: rest => sign? first :: signs rest

end

/-- The calculation is known to be negative, or a negative zero. -/
def isNegative (value : Calc) : Bool := (value.sign?.map Floating.negative).getD false

/-- The calculation is known not to be negative. -/
def isPositive (value : Calc) : Bool := (value.sign?.map fun sign => ! sign.negative).getD false

/-! ## Multiples and sums -/

/-- A multiple of a calculation that is none of one. -/
def scaled (factor : Floating) : Calc → Calc
  | .measure quantity => .measure (quantity.withValue (quantity.value.times factor))
  | .number value => .number (value.times factor)
  | .sum first second => .sum (scaled factor first) (scaled factor second)
  | .multiple own inner =>
      let product := own.times factor
      if product.isOne then inner else .multiple product inner
  | .nested inner => .nested (if factor.isOne then inner else scaled factor inner)
  | .call name rounding arguments => .multiple factor (.call name rounding arguments)

/-- A multiple of a calculation. -/
def times (value : Calc) (factor : Floating) : Calc :=
  if factor.isOne then value else scaled factor value

/-- Number of parts of a sum. -/
def size : Calc → Nat
  | .sum first second => first.size + second.size + 1
  | _ => 1

mutual

/-- The sum of two calculations of which a part of one can be added to the other. -/
def merged? : Nat → Calc → Calc → Option Calc
  | 0, _, _ => none
  | fuel + 1, first, second =>
      match first, second with
      | .measure a, .measure b => (Quantity.plus? a b).map Calc.measure
      | .sum a b, other =>
          match merged? fuel a other with
          | some result => some (joined fuel result b)
          | none =>
              match merged? fuel b other with
              | some result => some (joined fuel a result)
              | none => none
      | other, .sum a b =>
          match merged? fuel other a with
          | some result => some (joined fuel result b)
          | none =>
              match merged? fuel other b with
              | some result => some (joined fuel a result)
              | none => none
      | _, _ => none

/-- The sum of two calculations, with a negative part behind a positive one. -/
def joined : Nat → Calc → Calc → Calc
  | 0, first, second => .sum first second
  | fuel + 1, first, second =>
      match merged? fuel first second with
      | some result => result
      | none =>
          if first.isZero then second
          else if second.isZero then first
          else if first.isNegative && second.isPositive then .sum second first
          else .sum first second

end

/-- The sum of two calculations. -/
def plus (first second : Calc) : Calc :=
  let full := joined (2 * (first.size + second.size) + 2) first second
  match first, second with
  | .number a, .number b => .number (a.plus b)
  | .sum (.number a) b, .number c => .sum (.number (a.plus c)) b
  | .sum a (.number b), .number c => .sum a (.number (b.plus c))
  | .number a, .sum (.number b) c => .sum (.number (a.plus b)) c
  | .number a, .sum b (.number c) => .sum (.number (a.plus c)) b
  | .measure _, .measure _ => full
  | .measure _, .sum _ _ => full
  | .sum _ _, .measure _ => full
  | .sum _ _, .sum _ _ => full
  | _, _ => .sum first second

/-! ## Texts -/

/-- The word for a way of rounding. -/
def roundingText : Rounding → Text
  | .nearest => Text.of "nearest"
  | .up => Text.of "up"
  | .down => Text.of "down"
  | .toZero => Text.of "to-zero"

/-- The text of a multiple; small factors are written as divisions. -/
def multipleText (factor : Floating) (inner : Text) : Text :=
  if factor.absolute.isLess Floating.one then
    inner ++ Text.of " / " ++ floatText (Floating.one.dividedBy factor)
  else floatText factor ++ Text.of " * " ++ inner

/-- The text of arguments of a function. -/
def callText (name : String) (rounding : Rounding) (arguments : List Text) : Text :=
  let arguments :=
    if name = "round" ∧ rounding ≠ .nearest then roundingText rounding :: arguments else arguments
  Text.of name ++ '(' :: Text.join [',', ' '] arguments ++ [')']

mutual

/-- The text of a calculation with the factor minus one if `flip` is set. -/
def innerText (flip : Bool) : Calc → Text
  | .measure quantity =>
      (if flip then quantity.withValue quantity.value.negated else quantity).fullText
  | .number value => floatText (if flip then value.negated else value)
  | .sum first second =>
      innerText flip first ++
        (match sign? second with
          | some sign =>
              if sign.negative != flip then Text.of " - " ++ innerText (! flip) second
              else Text.of " + " ++ innerText flip second
          | none => Text.of " + " ++ innerText flip second)
  | .multiple factor inner =>
      let factor := if flip then factor.negated else factor
      if flip && factor.isOne then innerText false inner
      else multipleText factor (innerText false inner)
  | .nested inner => Text.of "calc(" ++ innerText flip inner ++ [')']
  | .call name rounding arguments =>
      let text := callText name rounding (innerTexts arguments)
      if flip then multipleText Floating.one.negated text else text

/-- The texts of calculations. -/
def innerTexts : List Calc → List Text
  | [] => []
  | first :: rest => innerText false first :: innerTexts rest

end

/-- The text of a calculation as a value. -/
def text : Calc → Text
  | .measure quantity => quantity.text
  | other => innerText false other

mutual

/-- A text that no different calculation has; an undefined value is different from itself. -/
def identity? : Calc → Option Text
  | .measure quantity => quantity.identity?
  | .number value => valueIdentity? value
  | .sum first second => do pure ((← identity? first) ++ '+' :: (← identity? second))
  | .multiple factor inner => do pure ((← valueIdentity? factor) ++ '(' :: (← identity? inner) ++ [')'])
  | .nested inner => do pure (Text.of "calc(" ++ (← identity? inner) ++ [')'])
  | .call name rounding arguments => do pure (callText name rounding (← identities? arguments))

/-- The texts that tell calculations apart. -/
def identities? : List Calc → Option (List Text)
  | [] => some []
  | first :: rest => do pure ((← identity? first) :: (← identities? rest))

end

/-- Equality of calculations. -/
def isSame (first second : Calc) : Bool :=
  match first.identity?, second.identity? with
  | some own, some other => own == other
  | _, _ => false

instance : BEq Calc := ⟨isSame⟩

end Calc

end StyledMarkup.Css
