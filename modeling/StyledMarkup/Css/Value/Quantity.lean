import StyledMarkup.Css.Parser

namespace StyledMarkup.Css

/-!
# Quantities

A quantity is a number with a unit: a length, an angle, a time, a resolution or
a percentage.  Quantities with comparable units can be added and compared.
-/

/-- Units of lengths. -/
def lengthUnits : List String :=
  ["px", "em", "rem", "ex", "rex", "ch", "rch", "cap", "rcap", "ic", "ric", "lh", "rlh", "vw", "vh",
    "vmin", "vmax", "vi", "vb", "svw", "svh", "svi", "svb", "svmin", "svmax", "lvw", "lvh", "lvi",
    "lvb", "lvmin", "lvmax", "dvw", "dvh", "dvi", "dvb", "dvmin", "dvmax", "cqw", "cqh", "cqi",
    "cqb", "cqmin", "cqmax", "cm", "mm", "q", "in", "pt", "pc"]

/-- Units of angles. -/
def angleUnits : List String := ["deg", "grad", "rad", "turn"]

/-- Units of times. -/
def timeUnits : List String := ["s", "ms"]

/-- Units of resolutions. -/
def resolutionUnits : List String := ["dpi", "dpcm", "dppx", "x"]

/-- A number with a unit in lower case; percentages are shares of one. -/
structure Quantity where
  value : Floating
  unit : Text
deriving DecidableEq, Repr

/-- What a quantity measures. -/
inductive Dimension where
  | length
  | angle
  | time
  | resolution
  | percentage
  | other
deriving DecidableEq, Repr

namespace Quantity

/-- A quantity in a unit. -/
def of (value : Floating) (unit : String) : Quantity := ⟨value, Text.of unit⟩

/-- A percentage. -/
def ofShare (share : Floating) : Quantity := .of share "%"

/-- A length of zero. -/
def noLength : Quantity := .of Floating.nought "px"

/-- An angle of zero. -/
def noAngle : Quantity := .of Floating.nought "deg"

/-- A time of zero. -/
def noTime : Quantity := .of Floating.nought "s"

/-- What a quantity measures. -/
def dimension (quantity : Quantity) : Dimension :=
  if isOneOf lengthUnits quantity.unit then .length
  else if isOneOf angleUnits quantity.unit then .angle
  else if isOneOf timeUnits quantity.unit then .time
  else if isOneOf resolutionUnits quantity.unit then .resolution
  else if quantity.unit = ['%'] then .percentage
  else .other

/-- The quantity of a token that has a known unit. -/
def ofToken? : Token → Option Quantity
  | .percentage numeral => some (ofShare numeral.value)
  | .dimension numeral unit =>
      let quantity : Quantity := ⟨numeral.value, Text.lower unit⟩
      if quantity.dimension = .other then none else some quantity
  | _ => none

/-- The quantity with another value. -/
def withValue (quantity : Quantity) (value : Floating) : Quantity := { quantity with value }

/-- Zero of any unit. -/
def isZero (quantity : Quantity) : Bool := quantity.value.isZero

/-! ## Exact constants as 32-bit numbers -/

/-- Pixels in an inch. -/
def pixelsPerInch : Floating := .ofNat 96

/-- Pixels in a centimetre. -/
def pixelsPerCentimetre : Floating := pixelsPerInch.dividedBy (.ofQuotient false 254 100)

/-- Ratio of the circumference of a circle to its diameter. -/
def pi : Floating := .ofQuotient false 314159274101257324 100000000000000000

/-- Degrees in a radian. -/
def degreesPerRadian : Floating := (Floating.ofNat 180).dividedBy pi

/-- The pixels of an absolute length. -/
def pixels? (quantity : Quantity) : Option Floating :=
  let scaled := fun (factor : Floating) => some (quantity.value.times factor)
  if quantity.unit = Text.of "px" then some quantity.value
  else if quantity.unit = Text.of "in" then scaled pixelsPerInch
  else if quantity.unit = Text.of "cm" then scaled pixelsPerCentimetre
  else if quantity.unit = Text.of "mm" then scaled (pixelsPerCentimetre.dividedBy (.ofNat 10))
  else if quantity.unit = Text.of "q" then scaled (pixelsPerCentimetre.dividedBy (.ofNat 40))
  else if quantity.unit = Text.of "pt" then scaled (pixelsPerInch.dividedBy (.ofNat 72))
  else if quantity.unit = Text.of "pc" then scaled (pixelsPerInch.dividedBy (.ofNat 6))
  else none

/-- The degrees of an angle. -/
def degrees (quantity : Quantity) : Floating :=
  if quantity.unit = Text.of "rad" then quantity.value.times degreesPerRadian
  else if quantity.unit = Text.of "grad" then
    (quantity.value.times (.ofNat 180)).dividedBy (.ofNat 200)
  else if quantity.unit = Text.of "turn" then quantity.value.times (.ofNat 360)
  else quantity.value

/-- The radians of an angle. -/
def radians (quantity : Quantity) : Floating :=
  let perDegree := pi.dividedBy (.ofNat 180)
  if quantity.unit = Text.of "rad" then quantity.value
  else if quantity.unit = Text.of "grad" then
    ((quantity.value.times (.ofNat 180)).dividedBy (.ofNat 200)).times perDegree
  else if quantity.unit = Text.of "turn" then
    (quantity.value.times (.ofNat 360)).times perDegree
  else quantity.value.times perDegree

/-- Both quantities in a common unit, if there is one. -/
def aligned? (first second : Quantity) : Option (Floating × Floating × Text) :=
  if first.unit = second.unit then some (first.value, second.value, first.unit)
  else
    match first.dimension, second.dimension with
    | .length, .length =>
        match first.pixels?, second.pixels? with
        | some a, some b => some (a, b, Text.of "px")
        | _, _ => none
    | .angle, .angle => some (first.degrees, second.degrees, Text.of "deg")
    | .time, .time =>
        if first.unit = Text.of "s" then
          some (first.value, second.value.dividedBy (.ofNat 1000), first.unit)
        else some (first.value, second.value.times (.ofNat 1000), first.unit)
    | _, _ => none

/-- The result of an operation on quantities with a common unit. -/
def combine? (operation : Floating → Floating → Floating) (first second : Quantity) :
    Option Quantity :=
  (aligned? first second).map fun (a, b, unit) => ⟨operation a b, unit⟩

/-- The sum of quantities with a common unit; angles are added in degrees. -/
def plus? (first second : Quantity) : Option Quantity :=
  if first.dimension = .angle ∧ second.dimension = .angle then
    some (.of (first.degrees.plus second.degrees) "deg")
  else combine? Floating.plus first second

/-- The order of two quantities with a common unit. -/
def compare? (first second : Quantity) : Option Ordering :=
  (aligned? first second).bind fun (a, b, _) => Floating.compare? a b

/-- A text that no different quantity has; angles are told apart in degrees. -/
def identity? (quantity : Quantity) : Option Text :=
  if quantity.dimension = .angle then (valueIdentity? quantity.degrees).map (· ++ Text.of "deg")
  else (valueIdentity? quantity.value).map (· ++ quantity.unit)

/-! ## Texts -/

/-- A time; from a tenth of a second on it is printed in seconds. -/
def timeText (value : Floating) (inSeconds : Bool) : Text :=
  if inSeconds then
    if Floating.nought.isLess value && value.isLess (.ofQuotient false 1 10) then
      floatText (value.times (.ofNat 1000)) ++ Text.of "ms"
    else floatText value ++ ['s']
  else if value.isZero || ! (value.isLess (.ofNat 100) || value == .undefined) then
    floatText (value.dividedBy (.ofNat 1000)) ++ ['s']
  else floatText value ++ Text.of "ms"

/-- The text of an angle; one in radians is printed in degrees unless it is too great. -/
def fullAngleText (quantity : Quantity) : Text :=
  let ofValue := fun (value : Floating) (unit : Text) =>
    dimensionText (if value.isZero then .nought else value) unit
  if quantity.unit = Text.of "rad" then
    match quantity.degrees.times (.ofNat 100000) with
    | .finite _ => ofValue quantity.degrees (Text.of "deg")
    | _ => ofValue quantity.value quantity.unit
  else ofValue quantity.value quantity.unit

/-- The text of a quantity with its unit, even if it is zero. -/
def fullText (quantity : Quantity) : Text :=
  match quantity.dimension with
  | .percentage => percentText quantity.value
  | .time => timeText quantity.value (quantity.unit == ['s'])
  | .angle => fullAngleText quantity
  | .resolution =>
      if quantity.unit = Text.of "dppx" then dimensionText quantity.value ['x']
      else dimensionText quantity.value quantity.unit
  | _ => dimensionText quantity.value quantity.unit

/-- The text of a quantity; a length of zero needs no unit. -/
def text (quantity : Quantity) : Text :=
  if quantity.isZero ∧ quantity.dimension = .length then ['0'] else quantity.fullText

/-- The text of an angle; zero needs no unit. -/
def angleText (quantity : Quantity) : Text :=
  if quantity.isZero then ['0'] else quantity.fullText

end Quantity

end StyledMarkup.Css
