import StyledMarkup.Css.Value.Image

namespace StyledMarkup.Css.Value

/-!
# Shapes

Rounded boxes, circles, ellipses and polygons.
-/

/-- Takes radii of corners, and separate vertical ones behind a slash. -/
def radii : Parser Written := do
  let horizontal ← Sides.take anExtent
  let vertical ←
    if ← Parser.succeeds Parser.slash then Sides.take anExtent else pure horizontal
  let text :=
    if vertical == horizontal then horizontal.text
    else horizontal.text ++ Text.of " / " ++ vertical.text
  pure (.joined text [horizontal.written, vertical.written])

/-- No radii. -/
def noRadii : Written :=
  let zero := Sides.all (.ofCalc .noLength)
  .joined zero.text [zero.written, zero.written]

/-- Takes the distances of a box from the sides of another one. -/
def insetArguments : Parser Text := do
  let distances ← sides anExtent
  let corners ←
    if ← Parser.succeeds (Parser.keyword "round") then radii else pure noRadii
  pure (if corners == noRadii then distances.text
    else distances.text ++ Text.of " round " ++ corners.text)

/-- Takes a radius of a circle or an ellipse. -/
def shapeRadius : Parser Written :=
  Parser.orElse anExtent (oneOf ["closest-side", "farthest-side"])

/-- The usual radius of a circle or an ellipse. -/
def usualRadius : Written := .word "closest-side"

/-- A radius and a point. -/
def roundText (radius : Text) (position : Option Position) : Text :=
  let point :=
    match position with
    | none => []
    | some ⟨.center, .center⟩ => []
    | some position => Text.of "at " ++ position.text
  Text.join [' '] ([radius, point].filter fun text => ! text.isEmpty)

/-- Takes a radius and a point. -/
def circleArguments : Parser Text := do
  let radius ← Parser.withDefault usualRadius shapeRadius
  let point ← Parser.optional pointAt
  pure (roundText (if radius == usualRadius then [] else radius.text) point)

/-- Takes two radii and a point. -/
def ellipseArguments : Parser Text := do
  let x ← Parser.withDefault usualRadius shapeRadius
  let y ← Parser.withDefault usualRadius shapeRadius
  let point ← Parser.optional pointAt
  let isUsual := x == usualRadius && y == usualRadius
  pure (roundText (if isUsual then [] else x.text ++ ' ' :: y.text) point)

/-- Takes the points of a polygon. -/
def polygonArguments : Parser Text := do
  let rule ← Parser.optional do
    let rule ← Parser.word ["nonzero", "evenodd"]
    Parser.comma
    pure rule
  let points ← Parser.commaList do
    let x ← extent
    pure (x.text ++ ' ' :: (← extent).text)
  let points := Text.join [',', ' '] points
  pure (if rule = some (Text.of "evenodd") then Text.of "evenodd, " ++ points else points)

/-- Takes a shape. -/
def aShape : Parser Written := do
  let (name, content, closing) ← Parser.anyFunction
  let arguments : Parser Text :=
    if name = Text.of "inset" then insetArguments
    else if name = Text.of "circle" then circleArguments
    else if name = Text.of "ellipse" then ellipseArguments
    else if name = Text.of "polygon" then polygonArguments
    else Parser.fail .invalidValue
  let inner ← Parser.onContent content closing arguments
  pure (.of (name ++ '(' :: inner ++ [')']))

end StyledMarkup.Css.Value
