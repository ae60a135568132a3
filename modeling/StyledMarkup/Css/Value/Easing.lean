import StyledMarkup.Css.Value.Group

namespace StyledMarkup.Css.Value

/-!
# Easing

How a change proceeds in time: a named curve, a curve given by two points, or
a number of steps.
-/

/-- Curves with a name. -/
def easingWords : List String := ["linear", "ease", "ease-in", "ease-out", "ease-in-out"]

/-- Words for a single step. -/
def stepWords : List String := ["step-start", "step-end"]

/-- Hundredths as a number. -/
def hundredths (count : Nat) : Floating := .ofQuotient false count 100

/-- The name of a curve that is given by two points. -/
def curveName? (points : List Floating) : Option String :=
  let names : List (List Nat × String) :=
    [([25, 10, 25, 100], "ease"), ([42, 0, 100, 100], "ease-in"), ([0, 0, 58, 100], "ease-out"),
      ([42, 0, 58, 100], "ease-in-out")]
  let isCurve := fun (entry : List Nat × String) =>
    (points.zip entry.1).all fun (point, count) => point.sameValue (hundredths count)
  (names.find? isCurve).map Prod.snd

/-- Takes the points of a curve. -/
def curve : Parser Text := do
  let first ← number
  Parser.comma
  let second ← number
  Parser.comma
  let third ← number
  Parser.comma
  let points := [first, second, third, ← number]
  match curveName? points with
  | some name => pure (Text.of name)
  | none =>
      pure (Text.of "cubic-bezier(" ++ Text.join [',', ' '] (points.map floatText) ++ [')'])

/-- Takes the place of a step behind a comma. -/
def stepPlace : Parser Text := do
  Parser.comma
  let word ← Parser.word ["start", "end", "jump-start", "jump-end", "jump-none", "jump-both"]
  pure (if word = Text.of "jump-start" then Text.of "start"
    else if word = Text.of "jump-end" then Text.of "end" else word)

/-- Takes a number of steps. -/
def steps : Parser Text := do
  let count ← integer
  let place ← Parser.withDefault (Text.of "end") stepPlace
  pure (if count = 1 ∧ place = Text.of "start" then Text.of "step-start"
    else if count = 1 ∧ place = Text.of "end" then Text.of "step-end"
    else Text.of "steps(" ++ Text.ofInt count ++ ',' :: ' ' :: place ++ [')'])

/-- Takes a way in which a change proceeds. -/
def anEasing : Parser Written := do
  let text ← Parser.firstOf
    [Parser.word (easingWords ++ stepWords),
      Parser.function ["cubic-bezier"] curve,
      Parser.function ["steps"] steps]
  pure (.of text)

end StyledMarkup.Css.Value
