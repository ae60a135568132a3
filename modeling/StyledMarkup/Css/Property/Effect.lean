import StyledMarkup.Css.Property.Transform

namespace StyledMarkup.Css.Property

/-!
# Effects

Shadows, filters and opacity.
-/

open Value

/-- A length of zero pixels. -/
def zeroLength : Written := .ofCalc .noLength

/-- Takes two distances of a shadow, its blur and its spread; what is zero need not be written. -/
def shadowLengths : Parser Written := do
  let x ← aLength
  let y ← aLength
  let blur ← Parser.withDefault zeroLength aLength
  let spread ← Parser.withDefault zeroLength aLength
  let more :=
    if spread != zeroLength then [blur, spread] else if blur != zeroLength then [blur] else []
  pure (.of (spaced (x :: y :: more)))

/-- Takes a shadow, which may lie inside of a box. -/
def shadow (mayBeInside : Bool) : Parser Written := do
  let inside : Parser Written :=
    if mayBeInside then oneOf ["inset"] else Parser.fail .invalidValue
  match ← Parser.inAnyOrder [inside, shadowLengths, aColor] with
  | [inside, some lengths, color] =>
      let colors := (color.toList).filter fun color => color != .ofColor .current
      pure (.of (spaced (inside.toList ++ lengths :: colors)))
  | _ => Parser.fail .invalidValue

/-- Takes the shadow of a filter, which has no spread. -/
def dropShadow : Parser Text := do
  let lengths : Parser Written := do
    let x ← aLength
    let y ← aLength
    let blur ← Parser.withDefault zeroLength aLength
    pure (.of (spaced (x :: y :: if blur == zeroLength then [] else [blur])))
  match ← Parser.inAnyOrder [aColor, lengths] with
  | [color, some lengths] =>
      let colors := (color.toList).filter fun color => color != .ofColor .current
      pure (spaced (lengths :: colors))
  | _ => Parser.fail .invalidValue

/-- Filters whose argument is an amount, which usually is one. -/
def amountFilters : List String :=
  ["brightness", "contrast", "grayscale", "invert", "opacity", "saturate", "sepia"]

/-- Takes the arguments of a filter. -/
def filterArguments (name : Text) : Parser Text := do
  if name = Text.of "blur" then do
    let radius ← Parser.withDefault zeroLength aLength
    pure (if radius == zeroLength then [] else radius.text)
  else if isOneOf amountFilters name then do
    let usual : Written := .ofNumber .one
    let amount ← Parser.withDefault usual aNumberOrShare
    pure (if amount == usual || amount == .ofShare .one then [] else amount.text)
  else if name = Text.of "hue-rotate" then do
    let angle ← Parser.withDefault .noAngle angleOrZero
    pure (if angle.isZero then [] else angle.fullText)
  else if name = Text.of "drop-shadow" then dropShadow
  else Parser.fail .invalidValue

/-- Takes a filter. -/
def filterStep : Parser Text :=
  Parser.orElse (do pure (addressText (← address))) do
    let (name, content, closing) ← Parser.anyFunction
    let inner ← Parser.onContent content closing (filterArguments name)
    pure (name ++ '(' :: inner ++ [')'])

/-- Takes filters. -/
def filters : Parser Written :=
  Parser.orElse (oneOf ["none"]) do
    let steps ← Parser.many filterStep
    pure (.of (Text.join [' '] steps))

/-- Properties of effects. -/
def effectFamilies : List Family :=
  [prefixed [webkit, moz] ["box-shadow"] (commas (shadow true)),
    family ["text-shadow"] (commas (shadow false)),
    family ["opacity", "fill-opacity", "stroke-opacity"] anAmount,
    prefixed [webkit] ["filter", "backdrop-filter"] filters,
    words ["mix-blend-mode"] ["normal", "multiply", "screen", "overlay", "darken", "lighten",
      "color-dodge", "color-burn", "hard-light", "soft-light", "difference", "exclusion", "hue",
      "saturation", "color", "luminosity", "plus-darker", "plus-lighter"]]

end StyledMarkup.Css.Property
