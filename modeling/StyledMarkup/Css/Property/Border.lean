import StyledMarkup.Css.Property.Box

namespace StyledMarkup.Css.Property

/-!
# Borders

Lines around boxes, their corners, and images in their place.
-/

open Value

/-- Words for styles of lines. -/
def lineStyles : List String :=
  ["none", "hidden", "inset", "groove", "outset", "ridge", "dotted", "dashed", "solid", "double"]

/-- Takes a width of a line. -/
def lineWidth : Parser Written := orWord ["thin", "medium", "thick"] aLength

/-- Takes width, style and color of a line; what has its initial value is not written. -/
def line (styles : List String) : Parser Written :=
  someOf (Text.of "none")
    [⟨lineWidth, .word "medium"⟩, ⟨oneOf styles, .word "none"⟩,
      ⟨aColor, .ofColor .current⟩]

/-- Takes the parts of an image that are cut off for the sides. -/
def imageSlice : Parser Written := do
  let before ← Parser.succeeds (Parser.keyword "fill")
  let distances ← Sides.take aNumberOrShare
  let after ← if before then pure false else Parser.succeeds (Parser.keyword "fill")
  let fill := if before || after then Text.of " fill" else []
  pure (.joined (distances.text ++ fill) [distances.written, .of fill])

/-- Takes a width of a side that is covered by an image. -/
def imageSideWidth : Parser Written := Parser.firstOf [aNumber, anExtent, oneOf ["auto"]]

/-- Takes a number or a length. -/
def numberOrLength : Parser Written := Parser.orElse aNumber aLength

/-- Takes how an image fills the sides. -/
def imageRepetition : Parser Written := pair (oneOf ["stretch", "repeat", "round", "space"])

/-- The slices of an image, the widths of the sides, and how far the image reaches out. -/
structure ImageSides where
  slice : Written
  width : Written
  outset : Written

/-- The usual sides of an image. -/
def ImageSides.usual : ImageSides :=
  ⟨.joined (percentText .one) [(Sides.all (.ofShare .one)).written, .of []],
    (Sides.all (.ofNumber .one)).written, (Sides.all (.ofNumber .nought)).written⟩

/-- Takes widths and reaches behind a slash, of which one at least has to be there. -/
def widthAndOutset : Parser (Option Written × Option Written) := do
  Parser.slash
  let width ← Parser.optional (sides imageSideWidth)
  let outset ← Parser.optional do
    Parser.slash
    sides numberOrLength
  if width.isNone && outset.isNone then Parser.fail .invalidValue
  pure (width, outset)

/-- Takes the sides of an image, with slashes between their parts. -/
def imageSides : Parser ImageSides := do
  let usual := ImageSides.usual
  let slice ← imageSlice
  let (width, outset) ← Parser.withDefault (none, none) widthAndOutset
  pure ⟨slice, width.getD usual.width, outset.getD usual.outset⟩

/-- The sides of an image behind a blank, with slashes between their parts. -/
def ImageSides.written (sides : ImageSides) : Written :=
  let usual := ImageSides.usual
  let hasWidth := sides.width != usual.width
  let hasOutset := sides.outset != usual.outset
  if sides.slice == usual.slice && ! hasWidth && ! hasOutset then .of []
  else
    .of (' ' :: sides.slice.text ++
      (if hasWidth || hasOutset then Text.of " / " else []) ++
      (if hasWidth then sides.width.text else []) ++
      (if hasOutset then Text.of " / " ++ sides.outset.text else []))

/-- Takes an image for a border, with more parts in any order.  The image is written first, and all
other parts have a blank in front, even if there is no image. -/
def borderImage (more : List Part) : Parser Written := do
  let parts := [⟨do pure (← imageSides).written, .of []⟩, ⟨anImage, noImage⟩,
    ⟨imageRepetition, .ofPair (.word "stretch") (.word "stretch")⟩] ++ more
  let found ← Parser.inAnyOrder (parts.map Part.value)
  if found.all Option.isNone then Parser.fail .invalidValue
  let values := List.zipWith (fun (part : Part) value => value.getD part.initial) parts found
  match values with
  | slices :: image :: rest =>
      let rest := (parts.drop 2).zip rest |>.filter fun (part, value) => value != part.initial
      pure (.of ((if image == noImage then [] else image.text) ++ slices.text ++
        rest.flatMap fun (_, value) => ' ' :: value.text))
  | _ => Parser.fail .invalidValue

/-- The sides for which a line can be given. -/
def lineSides : List String :=
  ["top", "right", "bottom", "left", "block-start", "block-end", "inline-start", "inline-end"]

/-- A property of the line at each side. -/
def ofLines (property : String) : List String :=
  lineSides.map fun side => "border-" ++ side ++ "-" ++ property

/-- Properties of borders. -/
def borderFamilies : List Family :=
  [family ["border-spacing"] (pair aLength),
    family (ofLines "color" ++ ["outline-color"]) aColor,
    family (ofLines "style") (oneOf lineStyles),
    words ["outline-style"] ("auto" :: lineStyles),
    family (ofLines "width" ++ ["outline-width"]) lineWidth,
    prefixed [webkit, moz] ["border-top-left-radius", "border-top-right-radius",
      "border-bottom-left-radius", "border-bottom-right-radius"] (pair anExtent),
    family ["border-start-start-radius", "border-start-end-radius", "border-end-start-radius",
      "border-end-end-radius"] (pair anExtent),
    prefixed [webkit, moz] ["border-radius"] radii,
    family ["border-image-source"] anImage,
    family ["border-image-outset", "mask-border-outset"] (sides numberOrLength),
    family ["border-image-repeat", "mask-border-repeat"] imageRepetition,
    family ["border-image-width", "mask-border-width"] (sides imageSideWidth),
    family ["border-image-slice", "mask-border-slice"] imageSlice,
    prefixed [webkit, moz, opera] ["border-image"] (borderImage []),
    family ["border-color"] (sides aColor),
    family ["border-style"] (sides (oneOf lineStyles)),
    family ["border-width"] (sides lineWidth),
    family ["border-block-color", "border-inline-color"] (pair aColor),
    family ["border-block-style", "border-inline-style"] (pair (oneOf lineStyles)),
    family ["border-block-width", "border-inline-width"] (pair lineWidth),
    family (["border", "border-block", "border-inline"] ++
      lineSides.map fun side => "border-" ++ side) (line lineStyles),
    family ["outline"] (line ("auto" :: lineStyles))]

end StyledMarkup.Css.Property
