import StyledMarkup.Css.Property.Box

namespace StyledMarkup.Css.Property

/-!
# Transformations

Boxes that are moved, turned, stretched and skewed, one step after another.
-/

open Value

/-- The text of a function with arguments. -/
def functionText (name : String) (arguments : List Text) : Text :=
  Text.of name ++ '(' :: Text.join [',', ' '] arguments ++ [')']

/-- Takes numbers with commas between them. -/
def numbers : Nat → Parser (List Text)
  | 0 => pure []
  | 1 => do pure [floatText (← number)]
  | count + 1 => do
      let first ← number
      Parser.comma
      pure (floatText first :: (← numbers count))

/-- Takes an argument behind a comma. -/
def afterComma {α : Type} (argument : Parser α) : Parser α := do
  Parser.comma
  argument

/-- Takes the arguments of a step of a transformation. -/
def transformArguments (name : Text) : Parser Text := do
  let is := fun (other : String) => isOneOf [other] name
  let oneOfThem := fun (shown : String) (argument : Parser Text) => do
    pure (functionText shown [← argument])
  let extentText : Parser Text := do pure (← extent).text
  let lengthText : Parser Text := do pure (← length).text
  let amountText : Parser Text := do pure (← aNumberOrShare).text
  let angleText : Parser Text := do pure (← angleOrZero).angleText
  if is "matrix" then do pure (functionText "matrix" (← numbers 6))
  else if is "matrix3d" then do pure (functionText "matrix3d" (← numbers 16))
  else if is "translate" then do
    let x ← extent
    let y ← Parser.withDefault Calc.noLength (afterComma extent)
    pure (functionText "translate" (x.text :: if y.isZero then [] else [y.text]))
  else if is "translatex" then oneOfThem "translateX" extentText
  else if is "translatey" then oneOfThem "translateY" extentText
  else if is "translatez" then oneOfThem "translateZ" lengthText
  else if is "translate3d" then do
    let x ← extentText
    let y ← afterComma extentText
    pure (functionText "translate3d" [x, y, ← afterComma lengthText])
  else if is "scale" then do
    let x ← numberOrShare
    let y ← Parser.withDefault x (afterComma numberOrShare)
    pure (functionText "scale" (floatText x :: if y.sameValue x then [] else [floatText y]))
  else if is "scalex" then oneOfThem "scaleX" amountText
  else if is "scaley" then oneOfThem "scaleY" amountText
  else if is "scalez" then oneOfThem "scaleZ" amountText
  else if is "scale3d" then do
    let x ← numberOrShare
    let y ← afterComma numberOrShare
    let z ← afterComma numberOrShare
    pure (functionText "scale3d" ([x, y, z].map floatText))
  else if is "rotate" then oneOfThem "rotate" angleText
  else if is "rotatex" then oneOfThem "rotateX" angleText
  else if is "rotatey" then oneOfThem "rotateY" angleText
  else if is "rotatez" then oneOfThem "rotateZ" angleText
  else if is "rotate3d" then do
    let axis ← numbers 3
    pure (functionText "rotate3d" (axis ++ [← afterComma angleText]))
  else if is "skew" then do
    let x ← angleOrZero
    let y ← Parser.withDefault .noAngle (afterComma angleOrZero)
    pure (functionText "skew" (x.fullText :: if y.isZero then [] else [y.angleText]))
  else if is "skewx" then oneOfThem "skewX" angleText
  else if is "skewy" then oneOfThem "skewY" angleText
  else if is "perspective" then oneOfThem "perspective" lengthText
  else Parser.fail .invalidValue

/-- Takes a step of a transformation. -/
def transformStep : Parser Text := do
  let (name, content, closing) ← Parser.anyFunction
  Parser.onContent content closing (transformArguments name)

/-- Takes a transformation. -/
def transform : Parser Written :=
  Parser.orElse (oneOf ["none"]) do
    let steps ← Parser.many transformStep
    if steps.isEmpty then Parser.fail .invalidValue
    pure (.of (Text.join [' '] steps))

/-- Takes a movement. -/
def translate : Parser Written :=
  Parser.orElse (oneOf ["none"]) do
    let x ← extent
    match ← Parser.optional extent with
    | none => pure (.ofCalc x)
    | some y => do
        let z ← Parser.withDefault Calc.noLength length
        let texts :=
          if z.isZero then (if y.isZero then [x] else [x, y]) else [x, y, z]
        pure (.of (Text.join [' '] (texts.map Calc.text)))

/-- Takes an axis: a word, or three numbers. -/
def axis : Parser (List Floating) :=
  let one := Floating.one
  let zero := Floating.nought
  Parser.orElse
    (do
      let word ← Parser.word ["x", "y", "z"]
      pure (if word = ['x'] then [one, zero, zero]
        else if word = ['y'] then [zero, one, zero] else [zero, zero, one]))
    (do
      let x ← number
      let y ← number
      pure [x, y, ← number])

/-- The text of a turn; an axis along one of the coordinates is given by its direction. -/
def turnText (axis : List Floating) (angle : Quantity) : Text :=
  let alongAxis := fun (coordinate : Floating) =>
    if coordinate.negative then (angle.withValue angle.value.negated).fullText else angle.fullText
  match axis.map Floating.isZero, axis with
  | [false, true, true], [x, _, _] => Text.of "x " ++ alongAxis x
  | [true, false, true], [_, y, _] => Text.of "y " ++ alongAxis y
  | [true, true, false], [_, _, z] => alongAxis z
  | _, _ => Text.join [' '] (axis.map floatText ++ [angle.fullText])

/-- Takes a turn around an axis. -/
def rotate : Parser Written :=
  Parser.orElse (oneOf ["none"]) do
    let before ← Parser.optional angle
    let axis ← Parser.withDefault [.nought, .nought, .one] axis
    let angle ← match before with
      | some angle => pure angle
      | none => angle
    pure (.of (turnText axis angle))

/-- Takes a stretching. -/
def scale : Parser Written :=
  Parser.orElse (oneOf ["none"]) do
    let x ← numberOrShare
    let (y, z) ←
      match ← Parser.optional numberOrShare with
      | none => pure (x, .one)
      | some y => do pure (y, ← Parser.withDefault .one numberOrShare)
    let texts :=
      if ! z.isOne then [x, y, z] else if y.sameValue x then [x] else [x, y]
    pure (.of (Text.join [' '] (texts.map floatText)))

/-- Properties of transformations. -/
def transformFamilies : List Family :=
  [prefixed [webkit, moz, ms, opera] ["transform"] transform,
    prefixed [webkit, moz, ms, opera] ["transform-origin"] aPosition,
    prefixed [webkit, moz] ["transform-style"] (oneOf ["flat", "preserve-3d"]),
    words ["transform-box"] ["content-box", "border-box", "fill-box", "stroke-box", "view-box"],
    prefixed [webkit, moz] ["backface-visibility"] (oneOf ["visible", "hidden"]),
    prefixed [webkit, moz] ["perspective"] (orWord ["none"] aLength),
    prefixed [webkit, moz] ["perspective-origin"] aPosition,
    family ["translate"] translate,
    family ["rotate"] rotate,
    family ["scale"] scale]

end StyledMarkup.Css.Property
