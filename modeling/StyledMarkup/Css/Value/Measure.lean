import StyledMarkup.Css.Value.Math

namespace StyledMarkup.Css.Value

/-!
# Numbers, lengths and other measures

Readers of single measures.  A measure may be written as a calculation.
-/

/-- Takes a quantity of one dimension, or a calculation of one. -/
def quantity (dimension : Dimension) : Parser Quantity := fun input =>
  match Calc.take (.of [dimension]) input with
  | .ok (.measure quantity, rest) => .ok (quantity, rest)
  | .ok _ => .error ⟨.invalidValue, input.here⟩
  | .error _ => Calc.plainQuantity (· == dimension) input

/-- Takes a percentage as a share of one. -/
def percentage : Parser Floating := do pure (← quantity .percentage).value

/-- Takes a time. -/
def time : Parser Quantity := quantity .time

/-- Takes an angle. -/
def angle : Parser Quantity := quantity .angle

/-- Takes a resolution. -/
def resolution : Parser Quantity := Calc.plainQuantity (· == .resolution)

/-- Takes an angle, for which zero may be written without a unit. -/
def angleOrZero : Parser Quantity :=
  Parser.orElse angle do
    let value ← Calc.plainNumber
    if value.isZero then pure .noAngle else Parser.fail .invalidValue

/-- Takes a length without calculation; a number counts pixels. -/
def plainLength : Parser Calc :=
  Parser.expect fun component =>
    match component.token with
    | .number numeral => some (.measure (.of numeral.value "px"))
    | token =>
        ((Quantity.ofToken? token).filter fun quantity => quantity.dimension == .length).map
          Calc.measure

/-- Takes a length. -/
def length : Parser Calc := Parser.orElse (Calc.take (.of [.length])) plainLength

/-- Takes a percentage as a calculation. -/
def share : Parser Calc := do pure (.ofShare (← percentage))

/-- Takes a length or a percentage. -/
def extent : Parser Calc :=
  Parser.firstOf [Calc.take (.of [.length, .percentage]), plainLength, share]

/-- Takes an angle or a percentage. -/
def angleOrShare : Parser Calc :=
  Parser.firstOf [Calc.take (.of [.angle, .percentage]), do pure (.measure (← angle)), share]

/-- Takes a number. -/
def number : Parser Floating := fun input =>
  match Calc.take (.of []) input with
  | .ok (.number value, rest) => .ok (value, rest)
  | .ok _ => .error ⟨.invalidValue, input.here⟩
  | .error _ => Calc.plainNumber input

/-- Takes a number that was written as a whole one. -/
def integer : Parser Int :=
  Parser.expect fun component =>
    match component.token with
    | .number numeral => numeral.whole?
    | _ => none

/-- Takes a number, or a percentage as a share of one. -/
def numberOrShare : Parser Floating := Parser.orElse number percentage

/-- Takes a ratio of two numbers; a ratio to one is written as the first number. -/
def ratio : Parser Text := do
  let first ← number
  let second ← Parser.optional do
    Parser.slash
    number
  let second := second.getD Floating.one
  pure (if second.isOne then floatText first
    else floatText first ++ Text.of " / " ++ floatText second)

end StyledMarkup.Css.Value
