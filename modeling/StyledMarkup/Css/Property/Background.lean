import StyledMarkup.Css.Property.Border

namespace StyledMarkup.Css.Property

/-!
# Backgrounds and masks

Images behind boxes, and images that hide parts of boxes.  There may be several
layers of them.
-/

open Value

/-- Takes a size of an image. -/
def imageSize : Parser Written :=
  Parser.orElse (oneOf ["cover", "contain"]) do
    let auto : Written := .word "auto"
    let width ← offset
    let height ← Parser.withDefault auto offset
    pure (if height == auto then width
      else .joined (width.text ++ ' ' :: height.text) [width, height])

/-- Takes how an image is repeated along both axes. -/
def repetition : Parser Written :=
  Parser.orElse (oneOf ["repeat-x", "repeat-y"]) do
    let word := Parser.word ["repeat", "space", "round", "no-repeat"]
    let horizontal ← word
    let vertical ← Parser.withDefault horizontal word
    let once := Text.of "no-repeat"
    let always := Text.of "repeat"
    pure (.of
      (if horizontal = always ∧ vertical = once then Text.of "repeat-x"
        else if horizontal = once ∧ vertical = always then Text.of "repeat-y"
        else if horizontal = vertical then horizontal
        else horizontal ++ ' ' :: vertical))

/-- Whether a background moves with its box. -/
def attachments : List String := ["scroll", "fixed", "local"]

/-- Boxes of a background. -/
def backgroundBoxes : List String := ["border-box", "padding-box", "content-box"]

/-- Boxes to which a background is limited. -/
def clipWords : List String := ["border-box", "padding-box", "content-box", "border", "text"]

/-- Boxes of shapes. -/
def geometryBoxes : List String :=
  ["border-box", "padding-box", "content-box", "margin-box", "fill-box", "stroke-box", "view-box"]

/-- A position with the size of an image behind a slash. -/
structure Placement where
  position : Position
  size : Written

/-- The usual size of an image. -/
def usualSize : Written := .word "auto"

/-- Takes a position with a size. -/
def placement : Parser Placement := do
  let position ← Position.take
  let size ← Parser.optional do
    Parser.slash
    imageSize
  pure ⟨position, size.getD usualSize⟩

/-- The text of a position and a size. -/
def Placement.text (placement : Placement) : Text :=
  placement.position.text ++
    if placement.size == usualSize then [] else Text.of " / " ++ placement.size.text

/-- The position and the size, as far as they are not the usual ones. -/
def Placement.written (isUsual : Position → Bool) (placement : Placement) : Written :=
  if isUsual placement.position && placement.size == usualSize then .of [] else .of placement.text

/-- Two boxes of a layer: where it starts, and to what it is limited. -/
def boxTexts (origin clip usualOrigin usualClip : Text) : List Text :=
  let hasOrigin := origin ≠ usualOrigin ∨ (clip ≠ usualClip ∧ isOneOf backgroundBoxes clip)
  let hasClip := (hasOrigin ∧ clip ≠ origin) ∨ clip ≠ usualClip
  (if hasOrigin then [origin] else []) ++ (if hasClip then [clip] else [])

/-- The text of a value that is there and differs from the initial one. -/
def differing (initial : Written) (value : Option Written) : List Text :=
  match value with
  | some value => if value == initial then [] else [value.text]
  | none => []

/-- Takes a layer of a background. -/
def backgroundLayer : Parser Written := do
  let found ← Parser.inAnyOrder
    [aColor, do pure ((← placement).written Position.isZero), anImage, repetition,
      oneOf attachments, oneOf backgroundBoxes, oneOf clipWords]
  match found with
  | [color, placement, image, repetition, attachment, origin, clip] =>
      let clipText := ((clip.or origin).map Written.text).getD (Text.of "border-box")
      let originText := (origin.map Written.text).getD (Text.of "padding-box")
      let texts :=
        differing (.ofColor .transparent) color ++ differing noImage image ++
          differing (.of []) placement ++ differing (.word "repeat") repetition ++
          differing (.word "scroll") attachment ++
          boxTexts originText clipText (Text.of "padding-box") (Text.of "border-box")
      pure (.of (if texts.isEmpty then Text.of "none" else Text.join [' '] texts))
  | _ => Parser.fail .invalidValue

/-- Operations on masks. -/
def maskComposites : List String := ["add", "subtract", "intersect", "exclude"]

/-- What of an image is used as a mask. -/
def maskModes : List String := ["luminance", "alpha", "match-source"]

/-- Takes a layer of a mask. -/
def maskLayer : Parser Written := do
  let found ← Parser.inAnyOrder
    [anImage, do pure ((← placement).written fun position => position.written == Position.origin.written),
      repetition, oneOf geometryBoxes, oneOf (geometryBoxes ++ ["no-clip"]),
      oneOf maskComposites, oneOf maskModes]
  match found with
  | [image, placement, repetition, origin, clip, composite, mode] =>
      let box := Text.of "border-box"
      let originText := (origin.map Written.text).getD box
      let clipText := ((clip.or origin).map Written.text).getD box
      let boxes :=
        if originText = box ∧ clipText = box then []
        else if clipText = originText then [originText]
        else [originText, clipText]
      let texts := (image.getD noImage).text :: differing (.of []) placement ++
        differing (.word "repeat") repetition ++ boxes ++ differing (.word "add") composite ++
        differing (.word "match-source") mode
      pure (.of (Text.join [' '] texts))
  | _ => Parser.fail .invalidValue

/-- Takes an address, or a shape with the box that it belongs to. -/
def clipPath : Parser Written := do
  let box : Parser Written := oneOf geometryBoxes
  let usual : Written := .word "border-box"
  let shaped := fun (shape box : Written) =>
    if box == usual then shape else Written.of (shape.text ++ ' ' :: box.text)
  Parser.firstOf
    [anAddress,
      do
        let shape ← aShape
        pure (shaped shape (← Parser.withDefault usual box)),
      do
        let box ← box
        match ← Parser.optional aShape with
        | some shape => pure (shaped shape box)
        | none => pure box,
      oneOf ["none"]]

/-- Properties of backgrounds and masks. -/
def backgroundFamilies : List Family :=
  let horizontal : Parser Written := do
    pure (.of (← Coordinate.take Position.horizontalSides).text)
  let vertical : Parser Written := do
    pure (.of (← Coordinate.take Position.verticalSides).text)
  [family ["background-color"] aColor,
    family ["background-image"] (commas anImage),
    family ["background-position-x", "mask-position-x"] (commas horizontal),
    family ["background-position-y", "mask-position-y"] (commas vertical),
    family ["background-position"] (commas aPosition),
    family ["background-size"] (commas imageSize),
    family ["background-repeat"] (commas repetition),
    family ["background-attachment"] (commas (oneOf attachments)),
    prefixed [webkit, moz] ["background-clip"] (commas (oneOf clipWords)),
    family ["background-origin"] (commas (oneOf backgroundBoxes)),
    family ["background"] (commas backgroundLayer),
    prefixed [webkit] ["mask-image"] (commas anImage),
    family ["mask-mode"] (commas (oneOf maskModes)),
    prefixed [webkit] ["mask-repeat"] (commas repetition),
    prefixed [webkit] ["mask-position"] (commas aPosition),
    prefixed [webkit] ["mask-clip"] (commas (oneOf (geometryBoxes ++ ["no-clip"]))),
    prefixed [webkit] ["mask-origin"] (commas (oneOf geometryBoxes)),
    prefixed [webkit] ["mask-size"] (commas imageSize),
    family ["mask-composite"] (commas (oneOf maskComposites)),
    words ["mask-type"] ["luminance", "alpha"],
    prefixed [webkit] ["mask"] (commas maskLayer),
    family ["mask-border-source"] anImage,
    words ["mask-border-mode"] ["luminance", "alpha"],
    family ["mask-border"]
      (borderImage [⟨oneOf ["luminance", "alpha"], .word "alpha"⟩]),
    onlyPrefixed [webkit] ["mask-source-type"] (commas (oneOf ["auto", "luminance", "alpha"])),
    onlyPrefixed [webkit] ["mask-box-image"] (borderImage []),
    onlyPrefixed [webkit] ["mask-box-image-source"] anImage,
    onlyPrefixed [webkit] ["mask-box-image-slice"] imageSlice,
    onlyPrefixed [webkit] ["mask-box-image-width"] (sides imageSideWidth),
    onlyPrefixed [webkit] ["mask-box-image-outset"] (sides numberOrLength),
    onlyPrefixed [webkit] ["mask-box-image-repeat"] imageRepetition,
    prefixed [webkit] ["clip-path"] clipPath]

end StyledMarkup.Css.Property
