import StyledMarkup.Css.Parser

namespace StyledMarkup.Css.SelectorParser

/-!
# Positions of elements

A position counts elements in steps and with an offset: `2n+1` is every second
element, from the first one on.
-/

/-- Fails behind the first token of a component that must not stand there. -/
def unexpected {α : Type} (component : Component) : Parser α :=
  Parser.failAt component.first.stop (.unexpectedToken component.token)

/-- The whole number of a token, if it was written as one, and whether it has a sign. -/
def wholeOf? : Token → Option (Int × Bool)
  | .number numeral => numeral.whole?.map fun whole => (whole, numeral.hasSign)
  | _ => none

/-- A number written after `n-`. -/
def dashDigits? : Text → Option Int
  | letter :: '-' :: first :: rest =>
      if (letter = 'n' ∨ letter = 'N') ∧ (first :: rest).all Char.isDigit then
        some (clampedWhole true (first :: rest))
      else none
  | _ => none

/-- Takes an offset without a sign. -/
def unsignedOffset (step : Int) (negative : Bool) : Parser (Int × Int) := do
  let component ← Parser.next
  match wholeOf? component.token with
  | some (offset, false) => pure (step, if negative then -offset else offset)
  | _ => unexpected component

/-- Takes an optional offset with a sign. -/
def signedOffset (step : Int) : Parser (Int × Int) := do
  match ← Parser.peek? with
  | none => pure (step, 0)
  | some component =>
      match component.token with
      | .delim '+' => do let _ ← Parser.next; unsignedOffset step false
      | .delim '-' => do let _ ← Parser.next; unsignedOffset step true
      | token =>
          match wholeOf? token with
          | some (offset, true) => do let _ ← Parser.next; pure (step, offset)
          | _ => pure (step, 0)

/-- Takes what follows the step, given by its letter and what is written with it. -/
def afterStep (step : Int) (written shown : Text) : Parser (Int × Int) :=
  if isOneOf ["n"] written then signedOffset step
  else if isOneOf ["n-"] written then unsignedOffset step true
  else
    match dashDigits? written with
    | some offset => pure (step, offset)
    | none => Parser.fail (.unexpectedToken (.ident shown))

/-- Takes a step and an offset. -/
def positions : Parser (Int × Int) := do
  let component ← Parser.next
  match component.token with
  | .number numeral =>
      match numeral.whole? with
      | some offset => pure (0, offset)
      | none => unexpected component
  | .dimension numeral unit =>
      match numeral.whole? with
      | some step => afterStep step unit unit
      | none => unexpected component
  | .ident name =>
      if isOneOf ["even"] name then pure (2, 0)
      else if isOneOf ["odd"] name then pure (2, 1)
      else
        match name with
        | '-' :: rest => afterStep (-1) rest name
        | _ => afterStep 1 name name
  | .delim '+' => do
      let after ← Parser.nextWithBlanks
      match after.token with
      | .ident name => afterStep 1 name name
      | _ => unexpected after
  | _ => unexpected component

end StyledMarkup.Css.SelectorParser
