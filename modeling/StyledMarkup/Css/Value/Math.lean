import StyledMarkup.Css.Value.Calc
import StyledMarkup.Number.Wide

namespace StyledMarkup.Css

open Floating (Rounding)

/-!
# Reading calculations

Mathematical functions are calculated while they are read, as far as their
arguments can be compared or combined.
-/

namespace Calc

/-- What may stand in a calculation: dimensions, and names for values. -/
structure Setting where
  accepts : Dimension → Bool
  named : Text → Option Calc

namespace Setting

/-- Calculations of certain dimensions without names of their own. -/
def of (dimensions : List Dimension) : Setting :=
  ⟨fun dimension => dimensions.contains dimension, fun _ => none⟩

/-- The setting for an argument of other dimensions; only names for numbers are kept. -/
def forArgument (setting : Setting) (dimensions : List Dimension) : Setting :=
  ⟨fun dimension => dimensions.contains dimension, fun name =>
    match setting.named name with
    | some (.number value) => some (.number value)
    | _ => none⟩

/-- The setting inside of a nested function, which knows no names. -/
def unnamed (setting : Setting) : Setting := { setting with named := fun _ => none }

end Setting

/-- Readers of calculations for a setting. -/
abbrev Reader := Setting → Parser Calc

/-! ## Functions of numbers -/

/-- A result that has to be there. -/
def required {α : Type} (result : Option α) : Parser α :=
  match result with
  | some value => pure value
  | none => Parser.fail .invalidValue

/-- A number rounded to a multiple of another one. -/
def roundedTo (rounding : Rounding) (value step : Floating) : Floating :=
  ((value.dividedBy step).toWhole rounding).times step

/-- The rest of a division that has the sign of the divisor. -/
def modulo (value divisor : Floating) : Floating :=
  ((value.remainder divisor).plus divisor).remainder divisor

/-! ## Functions of calculations -/

/-- The order of two calculations that are quantities or numbers. -/
def compare? : Calc → Calc → Option Ordering
  | .measure first, .measure second => Quantity.compare? first second
  | .number first, .number second => Floating.compare? first second
  | _, _ => none

/-- Puts an argument in the place of one that it wins against, or behind all of them. -/
def reduce (wanted : Ordering) (argument : Calc) : List Calc → List Calc
  | [] => [argument]
  | first :: rest =>
      match compare? argument first with
      | some order => if order = wanted then argument :: rest else first :: rest
      | none => first :: reduce wanted argument rest

/-- The least or greatest of some calculations. -/
def extremum (name : String) (arguments : List Calc) : Calc :=
  let wanted := if name = "min" then Ordering.lt else Ordering.gt
  match arguments.foldl (fun kept argument => reduce wanted argument kept) [] with
  | [only] => only
  | kept => .call name .nearest kept

/-- A calculation and a limit that is still needed, given the order in which the limit replaces it. -/
def limited (exceeds : Ordering) (middle limit : Calc) : Calc × Option Calc :=
  match compare? middle limit with
  | none => (middle, some limit)
  | some order => (if order = exceeds then limit else middle, none)

/-- A calculation between a lower and an upper limit; limits that have been applied are left out. -/
def clamped (low middle high : Calc) : Calc :=
  let (middle, high?) := limited .gt middle high
  let (middle, low?) := limited .lt middle low
  match low?, high? with
  | none, none => middle
  | some low, none => .call "max" .nearest [low, middle]
  | none, some high => .call "min" .nearest [middle, high]
  | some low, some high => .call "clamp" .nearest [low, middle, high]

/-- The result of an operation on two calculations, if they are of the same kind. -/
def combine? (operation : Floating → Floating → Floating) : Calc → Calc → Option Calc
  | .measure first, .measure second => (Quantity.combine? operation first second).map Calc.measure
  | .number first, .number second => some (.number (operation first second))
  | _, _ => none

/-- The result of an operation on a calculation; percentages stand for values that are not known. -/
def mapped? (operation : Floating → Floating) : Calc → Option Calc
  | .number value => some (.number (operation value))
  | .measure quantity =>
      if quantity.dimension = .percentage then none
      else some (.measure (quantity.withValue (operation quantity.value)))
  | _ => none

/-- The root of the sum of squares of calculations. -/
def hypotenuse? : List Calc → Option Calc
  | [] => none
  | [only] => some only
  | [first, second] => combine? (Floating.applied₂ Wide.hypotenuse) first second
  | first :: rest => do
      let square := fun (value : Floating) => value.times value
      let total ← rest.foldlM
        (fun total value => combine? (fun total value => total.plus (square value)) total value)
        (← mapped? square first)
      mapped? (Floating.applied Float32.sqrt) total

/-! ## Reading -/

/-- The numbers that have names everywhere. -/
def constant? (name : Text) : Option Floating :=
  if isOneOf ["pi"] name then some Quantity.pi
  else if isOneOf ["e"] name then
    some (Floating.ofQuotient false 2718281828459045 1000000000000000)
  else if isOneOf ["infinity"] name then some (.infinite false)
  else if isOneOf ["-infinity"] name then some (.infinite true)
  else if isOneOf ["nan"] name then some .undefined
  else none

/-- Takes a number. -/
def plainNumber : Parser Floating :=
  Parser.expect fun component =>
    match component.token with
    | .number numeral => some numeral.value
    | _ => none

/-- Takes a quantity of an accepted dimension. -/
def plainQuantity (accepts : Dimension → Bool) : Parser Quantity :=
  Parser.expect fun component =>
    (Quantity.ofToken? component.token).filter fun quantity => accepts quantity.dimension

/-- Takes factors and divisors, at most `fuel` of them. -/
def takeFactors (value : Parser Calc) : Nat → Calc → Parser Calc
  | 0, product => pure product
  | fuel + 1, product => do
      if ← Parser.succeeds (Parser.token (.delim '*')) then
        let right ← value
        match product, right with
        | _, .number factor => takeFactors value fuel (product.times factor)
        | .number factor, _ => takeFactors value fuel (right.times factor)
        | _, _ => Parser.fail (.unexpectedToken (.delim '*'))
      else if ← Parser.succeeds (Parser.token (.delim '/')) then
        match ← value with
        | .number divisor =>
            if divisor.isZero then Parser.fail .invalidValue
            else takeFactors value fuel (product.times (Floating.one.dividedBy divisor))
        | _ => Parser.fail .invalidValue
      else pure product

/-- Takes a product. -/
def takeProduct (value : Parser Calc) : Parser Calc := do
  let first ← value
  takeFactors value ((← Parser.remaining) + 1) first

/-- Takes a plus or minus sign with blanks in front of it; tells whether it is a minus sign.

Behind blanks nothing else may stand. -/
def summandSign? : Parser (Option Bool) := fun input =>
  let inner := input.dropWhile Component.isComment
  match inner.components with
  | component :: _ =>
      if ! component.isBlank then .ok (none, input)
      else
        let rest := inner.dropWhile isGap
        match rest.components with
        | sign :: after =>
            if sign.token = .delim '+' then .ok (some false, { rest with components := after })
            else if sign.token = .delim '-' then .ok (some true, { rest with components := after })
            else .error ⟨.unexpectedToken sign.token, rest.here⟩
        | [] => .ok (none, input)
  | [] => .ok (none, input)

/-- Takes summands, at most `fuel` of them. -/
def takeSummands (value : Parser Calc) : Nat → Calc → Parser Calc
  | 0, total => pure total
  | fuel + 1, total => do
      match ← summandSign? with
      | none => pure total
      | some isMinus => do
          let right ← takeProduct value
          let right := if isMinus then right.times Floating.one.negated else right
          takeSummands value fuel (total.plus right)

/-- Takes a sum. -/
def takeSum (value : Parser Calc) : Parser Calc := do
  let first ← takeProduct value
  takeSummands value ((← Parser.remaining) + 1) first

/-- Takes a calculation that has to be a number. -/
def numeric (inner : Reader) (setting : Setting) : Parser Floating := do
  match ← inner (setting.forArgument []) with
  | .number value => pure value
  | _ => Parser.fail .invalidValue

/-- Takes the word for a way of rounding and a comma, if they are there. -/
def roundingWord : Parser Rounding := do
  let word ← Parser.optional do
    let word ← Parser.word ["nearest", "up", "down", "to-zero"]
    Parser.comma
    pure word
  match word with
  | none => pure .nearest
  | some word =>
      if word = Text.of "up" then pure .up
      else if word = Text.of "down" then pure .down
      else if word = Text.of "to-zero" then pure .toZero
      else pure .nearest

/-- Takes two arguments of an operation. -/
def twoArguments (inner : Parser Calc) (operation : Floating → Floating → Floating) (name : String)
    (rounding : Rounding) : Parser Calc := do
  let first ← inner
  Parser.comma
  let second ← inner
  pure ((combine? operation first second).getD (.call name rounding [first, second]))

/-- An angle in radians, where angles are accepted. -/
def angleOf (setting : Setting) (radians : Floating) : Parser Calc :=
  if setting.accepts .angle then pure (.measure (.of radians "rad")) else Parser.fail .invalidValue

/-- Takes the argument of a function of angles. -/
def functionOfAngle (inner : Reader) (setting : Setting) (function : Float → Float) :
    Parser Calc := do
  let result := Floating.applied (Wide.apply function)
  match ← inner (setting.forArgument [.angle]) with
  | .number value => pure (.number (result value))
  | .measure quantity => pure (.number (result quantity.radians))
  | _ => Parser.fail .invalidValue

/-- Takes the argument of a function whose result is an angle, unless it is undefined. -/
def functionToAngle (inner : Reader) (setting : Setting) (function : Float → Float) :
    Parser Calc := do
  match ← inner (setting.forArgument [.angle]) with
  | .number value =>
      match Floating.applied (Wide.apply function) value with
      | .undefined => pure (.number .undefined)
      | radians => angleOf setting radians
  | _ => Parser.fail .invalidValue

/-- Takes the arguments of a function. -/
def callArguments (inner : Reader) (setting : Setting) (name : Text) : Parser Calc := do
  let own := inner setting
  let numbers := numeric inner setting
  if name = Text.of "calc" then do
    match ← own with
    | .measure quantity => pure (.measure quantity)
    | .number value => pure (.number value)
    | other => pure (.nested other)
  else if name = Text.of "min" then do pure (extremum "min" (← Parser.commaList own))
  else if name = Text.of "max" then do pure (extremum "max" (← Parser.commaList own))
  else if name = Text.of "clamp" then do
    let low ← own
    Parser.comma
    let middle ← own
    Parser.comma
    pure (clamped low middle (← own))
  else if name = Text.of "round" then do
    let rounding ← roundingWord
    twoArguments own (roundedTo rounding) "round" rounding
  else if name = Text.of "rem" then twoArguments own Floating.remainder "rem" .nearest
  else if name = Text.of "mod" then twoArguments own modulo "mod" .nearest
  else if name = Text.of "sin" then functionOfAngle inner setting Float.sin
  else if name = Text.of "cos" then functionOfAngle inner setting Float.cos
  else if name = Text.of "tan" then functionOfAngle inner setting Float.tan
  else if name = Text.of "asin" then functionToAngle inner setting Float.asin
  else if name = Text.of "acos" then functionToAngle inner setting Float.acos
  else if name = Text.of "atan" then functionToAngle inner setting Float.atan
  else if name = Text.of "atan2" then do
    let any := inner (setting.forArgument [.length, .percentage, .angle, .time])
    let first ← any
    Parser.comma
    let second ← any
    let angle := Floating.applied₂ Wide.angle
    match first, second with
    | .number a, .number b => angleOf setting (angle a b)
    | .measure a, .measure b =>
        match Quantity.aligned? a b with
        | some (a, b, _) => angleOf setting (angle a b)
        | none => Parser.fail .invalidValue
    | _, _ => Parser.fail .invalidValue
  else if name = Text.of "pow" then do
    let base ← numbers
    Parser.comma
    pure (.number (Floating.applied₂ Wide.power base (← numbers)))
  else if name = Text.of "log" then do
    let logarithm := Floating.applied (Wide.apply Float.log) (← numbers)
    if ← Parser.succeeds Parser.comma then
      pure (.number (logarithm.dividedBy (Floating.applied (Wide.apply Float.log) (← numbers))))
    else pure (.number logarithm)
  else if name = Text.of "sqrt" then do
    pure (.number (Floating.applied Float32.sqrt (← numbers)))
  else if name = Text.of "exp" then do
    pure (.number (Floating.applied (Wide.apply Float.exp) (← numbers)))
  else if name = Text.of "hypot" then do
    let arguments ← Parser.commaList own
    pure ((hypotenuse? arguments).getD (.call "hypot" .nearest arguments))
  else if name = Text.of "abs" then do
    let value ← own
    pure ((mapped? Floating.absolute value).getD (.call "abs" .nearest [value]))
  else if name = Text.of "sign" then do
    let value ← own
    match mapped? Floating.sign value with
    | some (.number sign) => pure (.number sign)
    | some (.measure quantity) => pure (.number quantity.value)
    | _ => pure (.call "sign" .nearest [value])
  else Parser.fail (.unexpectedToken (.ident name))

/-- Takes a mathematical function, given how to take its arguments. -/
def takeCall (inner : Reader) : Reader := fun setting => do
  let (name, content, closing) ← Parser.anyFunction
  Parser.onContent content closing (callArguments inner setting name)

/-- A function of its own adds nothing inside of another one. -/
def unwrapped : Calc → Calc
  | .nested inner => inner
  | other => other

/-- Takes a value in a calculation whose functions nest at most `depth` times. -/
def takeValue : Nat → Reader
  | 0, _ => Parser.fail .tooDeep
  | depth + 1, setting => do
      let inner : Reader := fun setting => takeSum (takeValue depth setting)
      let start ← Parser.peek?
      match start.map Component.token with
      | some (.function _) => do pure (unwrapped (← takeCall inner setting.unnamed))
      | some .openParen => do
          let (content, closing) ← Parser.block .openParen
          Parser.onContent content closing (inner setting)
      | some (.number _) => do pure (.number (← plainNumber))
      | some (.ident _) => do
          let location ← Parser.here
          let name ← Parser.ident
          match (constant? name).map Calc.number |>.or (setting.named name) with
          | some value => pure value
          | none => Parser.failAt location (.unexpectedToken (.ident name))
      | _ => do pure (.measure (← plainQuantity setting.accepts))

/-- Takes a mathematical function. -/
def take (setting : Setting) : Parser Calc := do
  let depth := (← Parser.remaining) + 1
  takeCall (fun setting => takeSum (takeValue depth setting)) setting

end Calc

end StyledMarkup.Css
