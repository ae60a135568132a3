import StyledMarkup.Css.Tokens
import StyledMarkup.Css.Value.Position

namespace StyledMarkup.Css.Value

/-!
# Images

An image is an address, a gradient, or a set of images for different
resolutions.
-/

/-- Takes an address. -/
def address : Parser Text :=
  Parser.expect fun component =>
    match component with
    | .leaf lexeme =>
        match lexeme.token with
        | .url value => some value
        | _ => none
    | .block opening content _ _ =>
        match opening.token with
        | .function name => if isOneOf ["url"] name then urlArgument? content else none
        | _ => none

/-- The text of an address. -/
def addressText (address : Text) : Text := Token.print (.url address)

/-- Takes an address as a value. -/
def anAddress : Parser Written := do pure (.of (addressText (← address)))

/-! ## Gradients -/

/-- A color at a place of a gradient, or a place between two colors. -/
inductive GradientItem where
  | stop (color : Color) (place : Option Calc)
  | hint (place : Calc)

namespace GradientItem

/-- Takes the items in front of a comma; a color with two places is two items. -/
def takeBeforeComma (place : Parser Calc) (afterStop : Bool) : Parser (List GradientItem) := do
  let hint ← if afterStop then Parser.optional place else pure none
  match hint with
  | some hint => pure [.hint hint]
  | none => do
      let color ← Color.take
      let first ← Parser.optional place
      match ← Parser.optional place with
      | some second => pure [.stop color first, .stop color (some second)]
      | none => pure [.stop color first]

/-- Takes the items of a gradient between commas. -/
def takeAll (place : Parser Calc) : Nat → Bool → Parser (List GradientItem)
  | 0, _ => pure []
  | fuel + 1, afterStop => do
      let items ← Parser.before (fun token => token == .comma) (takeBeforeComma place afterStop)
      match ← Parser.optional Parser.next with
      | none => pure items
      | some _ => do
          let isHint := match items with
            | [.hint _] => true
            | _ => false
          pure (items ++ (← takeAll place fuel (! isHint)))

/-- The text of an item. -/
def text : GradientItem → Text
  | .stop color none => color.print
  | .stop color (some place) => color.print ++ ' ' :: place.text
  | .hint place => place.text

/-- A place in the middle says nothing new. -/
def isIdle : GradientItem → Bool
  | .hint place => place == Coordinate.half
  | .stop _ _ => false

/-- Two stops of one color, of which the second one can be written behind the first one. -/
def joins (previous : Option GradientItem) (item : GradientItem) : Option Calc :=
  match previous, item with
  | some (.stop color (some _)), .stop other (some place) => if color == other then some place else none
  | _, _ => none

/-- The texts of items behind a previous one. -/
def textsAfter (previous : Option GradientItem) : List GradientItem → List Text
  | [] => []
  | item :: rest =>
      match joins previous item with
      | some place => (' ' :: place.text) :: textsAfter none rest
      | none => (Text.of ", " ++ item.text) :: textsAfter (some item) rest

/-- The text of the items of a gradient. -/
def listText (items : List GradientItem) : Text :=
  ((textsAfter none (items.filter fun item => ! item.isIdle)).flatten).drop 2

end GradientItem

/-- Takes the items of a gradient. -/
def gradientItems (place : Parser Calc) : Parser Text := do
  pure (GradientItem.listText (← GradientItem.takeAll place ((← Parser.remaining) + 1) false))

/-- Takes the direction of a gradient; no text stands for a direction that need not be written. -/
def gradientDirection (isPrefixed : Bool) : Parser Text := do
  match ← Parser.optional angleOrZero with
  | some angle =>
      pure (if angle.degrees.sameValue (.ofNat 180) then [] else angle.fullText)
  | none => do
      if ! isPrefixed then Parser.keyword "to"
      let head := if isPrefixed then [] else Text.of "to "
      match ← Parser.optional (Parser.word Position.horizontalSides) with
      | some horizontal => do
          match ← Parser.optional (Parser.word Position.verticalSides) with
          | some vertical => pure (head ++ vertical ++ ' ' :: horizontal)
          | none => pure (head ++ horizontal)
      | none => do
          let vertical ← Parser.word Position.verticalSides
          match ← Parser.optional (Parser.word Position.horizontalSides) with
          | some horizontal => pure (head ++ vertical ++ ' ' :: horizontal)
          | none => pure (if vertical = Text.of "bottom" then [] else head ++ vertical)

/-- Takes the arguments of a gradient along a line. -/
def linearGradient (isPrefixed : Bool) : Parser Text := do
  let direction ← Parser.optional do
    let direction ← gradientDirection isPrefixed
    Parser.comma
    pure direction
  let items ← gradientItems extent
  let direction := direction.getD []
  pure (if direction.isEmpty then items else direction ++ ',' :: ' ' :: items)

/-- How far a shape around a point extends. -/
def shapeExtents : List String :=
  ["closest-side", "farthest-side", "closest-corner", "farthest-corner"]

/-- Takes an ellipse; the usual one has no text. -/
def gradientEllipse : Parser Text := do
  let usual := fun (extent : Text) => if extent = Text.of "farthest-corner" then [] else extent
  let sizes := do
    let x ← extent
    pure (x.text ++ ' ' :: (← extent).text)
  match ← Parser.optional (Parser.word shapeExtents) with
  | some extent => do
      if ← Parser.succeeds (Parser.keyword "circle") then Parser.fail .invalidValue
      let _ ← Parser.optional (Parser.keyword "ellipse")
      pure (usual extent)
  | none => do
      match ← Parser.optional extent with
      | some x => do
          let y ← extent
          let _ ← Parser.optional (Parser.keyword "ellipse")
          pure (x.text ++ ' ' :: y.text)
      | none => do
          Parser.keyword "ellipse"
          match ← Parser.optional (Parser.word shapeExtents) with
          | some extent => pure (usual extent)
          | none => Parser.withDefault [] sizes

/-- Takes a circle. -/
def gradientCircle : Parser Text := do
  let circle := fun (extent : Text) =>
    if extent = Text.of "farthest-corner" then Text.of "circle" else Text.of "circle " ++ extent
  match ← Parser.optional (Parser.word shapeExtents) with
  | some extent => do
      Parser.keyword "circle"
      pure (circle extent)
  | none => do
      match ← Parser.optional length with
      | some radius => do
          let _ ← Parser.optional (Parser.keyword "circle")
          pure radius.text
      | none => do
          Parser.keyword "circle"
          match ← Parser.optional (Parser.word shapeExtents) with
          | some extent => pure (circle extent)
          | none => do
              pure (((← Parser.optional length).map Calc.text).getD (Text.of "circle"))

/-- Takes a point behind the word `at`. -/
def pointAt : Parser Position := do
  Parser.keyword "at"
  Position.take

/-- A shape or an angle, a point, and the items behind them. -/
def aroundText (shape : Text) (position : Position) (items : Text) : Text :=
  let point :=
    if position.isCenter then [] else Text.of "at " ++ position.text
  let head := Text.join [' '] ([shape, point].filter fun text => ! text.isEmpty)
  if head.isEmpty then items else head ++ ',' :: ' ' :: items

/-- Takes the arguments of a gradient around a point. -/
def radialGradient : Parser Text := do
  let shape ← Parser.optional (Parser.orElse gradientEllipse gradientCircle)
  let position ← Parser.optional pointAt
  if shape.isSome || position.isSome then Parser.comma
  let items ← gradientItems extent
  pure (aroundText (shape.getD []) (position.getD .middle) items)

/-- Takes the arguments of a gradient that turns around a point. -/
def conicGradient : Parser Text := do
  let angle ← Parser.optional do
    Parser.keyword "from"
    angleOrZero
  let position ← Parser.optional pointAt
  if angle.isSome || position.isSome then Parser.comma
  let items ← gradientItems angleOrShare
  let turn :=
    match angle with
    | some angle => if angle.isZero then [] else Text.of "from " ++ angle.fullText
    | none => []
  pure (aroundText turn (position.getD .middle) items)

/-- Takes a coordinate of an old gradient. -/
def oldCoordinate (sides : List String) : Parser Text :=
  Parser.firstOf
    [Parser.word ["center"],
      do pure (floatText (← number)),
      do
        let share ← percentage
        pure (if share.isZero then ['0'] else percentText share),
      Parser.word sides]

/-- Takes a point of an old gradient. -/
def oldPoint : Parser Text := do
  let x ← oldCoordinate Position.horizontalSides
  pure (x ++ ' ' :: (← oldCoordinate Position.verticalSides))

/-- Takes a color of an old gradient. -/
def oldStop : Parser Text := do
  let (name, content, closing) ← Parser.anyFunction
  let written := fun (place : Floating) (color : Color) =>
    if place.isZero then Text.of "from(" ++ color.print ++ [')']
    else if place.isOne then Text.of "to(" ++ color.print ++ [')']
    else Text.of "color-stop(" ++ floatText place ++ ',' :: ' ' :: color.print ++ [')']
  let arguments : Parser Text :=
    if name = Text.of "from" then do pure (written Floating.nought (← Color.take))
    else if name = Text.of "to" then do pure (written Floating.one (← Color.take))
    else if name = Text.of "color-stop" then do
      let place ← numberOrShare
      Parser.comma
      pure (written place (← Color.take))
    else Parser.fail .invalidValue
  Parser.onContent content closing arguments

/-- Takes the arguments of an old gradient. -/
def oldGradient : Parser Text := do
  let kind ← Parser.word ["linear", "radial"]
  Parser.comma
  let start ← oldPoint
  Parser.comma
  let middle ←
    if kind = Text.of "linear" then do pure [← oldPoint]
    else do
      let startRadius ← number
      Parser.comma
      let stop ← oldPoint
      Parser.comma
      pure [floatText startRadius, stop, floatText (← number)]
  Parser.comma
  let stops ← Parser.commaList oldStop
  pure (Text.join [',', ' '] (kind :: start :: middle ++ stops))

/-- Kinds of gradients: their name and how to take their arguments. -/
def gradientKinds : List (String × List String × (Bool → Parser Text)) :=
  [("linear-gradient", ["", "-webkit-", "-moz-", "-o-"], linearGradient),
    ("repeating-linear-gradient", ["", "-webkit-", "-moz-", "-o-"], linearGradient),
    ("radial-gradient", ["", "-webkit-", "-moz-", "-o-"], fun _ => radialGradient),
    ("repeating-radial-gradient", ["", "-webkit-", "-moz-", "-o-"], fun _ => radialGradient),
    ("conic-gradient", [""], fun _ => conicGradient),
    ("repeating-conic-gradient", [""], fun _ => conicGradient),
    ("gradient", ["-webkit-"], fun _ => oldGradient)]

/-- Takes a gradient. -/
def gradient : Parser Text := do
  let (name, content, closing) ← Parser.anyFunction
  let found := gradientKinds.findSome? fun (kind, vendors, arguments) =>
    (vendors.find? fun vendor => Text.of (vendor ++ kind) == name).map fun vendor =>
      (vendor, arguments)
  match found with
  | none => Parser.fail .invalidValue
  | some (vendor, arguments) => do
      let inner ← Parser.onContent content closing (arguments (! vendor.isEmpty))
      pure (name ++ '(' :: inner ++ [')'])

/-! ## Images -/

/-- Takes the kind of a file. -/
def fileKind : Parser Text :=
  Parser.function ["type"] Parser.string

/-- Takes one image for a resolution. -/
def imageChoice (image : Parser Written) (isPrefixed : Bool) : Parser Text := do
  let source ← Parser.optional (Parser.orElse address Parser.string)
  let shown ←
    match source with
    | some source => pure (if isPrefixed then addressText source else stringText source)
    | none => do pure (← image).text
  let one := Text.of "1x"
  let resolutionText : Parser Text := do pure (← resolution).fullText
  let (resolution, kind) ←
    match ← Parser.optional resolutionText with
    | some resolution => do pure (resolution, ← Parser.optional fileKind)
    | none => do
        let kind ← Parser.optional fileKind
        pure (← Parser.withDefault one resolutionText, kind)
  let kindText := (kind.map fun kind => Text.of " type(" ++ stringText kind ++ [')']).getD []
  pure (shown ++ ' ' :: resolution ++ kindText)

/-- Takes a set of images for different resolutions. -/
def imageSet (image : Parser Written) : Parser Text := do
  let (name, content, closing) ← Parser.anyFunction
  let isPrefixed := name == Text.of "-webkit-image-set"
  if isPrefixed || name == Text.of "image-set" then do
    let choices ← Parser.onContent content closing (Parser.commaList (imageChoice image isPrefixed))
    pure (name ++ '(' :: Text.join [',', ' '] choices ++ [')'])
  else Parser.fail .invalidValue

/-- Takes an image whose sets nest at most `depth` times. -/
def imageAt : Nat → Parser Written
  | 0 => Parser.fail .tooDeep
  | depth + 1 =>
      Parser.firstOf
        [oneOf ["none"], anAddress,
          do pure (.of (← gradient)),
          do pure (.of (← imageSet (imageAt depth)))]

/-- Takes an image. -/
def anImage : Parser Written := do imageAt ((← Parser.remaining) + 1)

/-- No image. -/
def noImage : Written := .word "none"

end StyledMarkup.Css.Value
