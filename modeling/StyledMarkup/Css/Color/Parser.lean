import StyledMarkup.Css.Color.Mix
import StyledMarkup.Css.Value.Measure

namespace StyledMarkup.Css.Color

/-!
# Reading colors

A color is a name, a code or a function.  The components of a function may be
numbers, percentages or missing, and may refer to the components of another
color.
-/

/-- The color whose components may be named, with their names. -/
structure Origin where
  names : List String
  channels : Channels
  huePlace? : Option Nat

/-- What the components of a function may be. -/
structure Components where
  missingAllowed : Bool
  origin? : Option Origin

/-- The component of a color with a name, and whether it is a hue. -/
def Origin.named? (origin : Origin) (name : Text) : Option (Float32 × Bool) :=
  let channels := [origin.channels.first, origin.channels.second, origin.channels.third]
  let hues := (List.range 3).map fun place => some place == origin.huePlace?
  if isOneOf ["alpha"] name then some (origin.channels.opacity, false)
  else
    ((origin.names.zip (channels.zip hues)).find? fun (other, _) => isOneOf [other] name).map
      Prod.snd

namespace Components

/-- The component that a name stands for, and whether it is a hue. -/
def named? (components : Components) (name : Text) : Option (Float32 × Bool) :=
  components.origin?.bind fun origin => origin.named? name

/-- The calculation that a name stands for: an angle or a number. -/
def calculation? (components : Components) (name : Text) : Option Calc :=
  (components.named? name).map fun (component, isHue) =>
    if isHue then .measure (.of (.ofFloat32 component) "deg") else .number (.ofFloat32 component)

/-- Calculations in which the components of a color have names. -/
def setting (components : Components) (dimensions : List Dimension) : Calc.Setting :=
  { Calc.Setting.of dimensions with named := components.calculation? }

/-- Takes a component by its name. -/
def byName (components : Components) (hueAllowed : Bool) : Parser Float32 := do
  let name ← Parser.ident
  match components.named? name with
  | some (component, isHue) =>
      if isHue && ! hueAllowed then Parser.fail .invalidValue else pure component
  | none => Parser.fail .invalidValue

/-- Takes a number, in whose calculation components may be named. -/
def number (components : Components) : Parser Float32 :=
  Parser.orElse
    (do
      match ← Calc.take ((components.setting []).forArgument []) with
      | .number value => pure value.toFloat32
      | _ => Parser.fail .invalidValue)
    (do pure (← Calc.plainNumber).toFloat32)

/-- Takes a quantity of one dimension, in whose calculation components may be named. -/
def quantity (components : Components) (dimension : Dimension) : Parser Quantity :=
  Parser.orElse
    (do
      match ← Calc.take (components.setting [dimension]) with
      | .measure quantity => pure quantity
      | _ => Parser.fail .invalidValue)
    (Calc.plainQuantity (· == dimension))

/-- Takes a percentage as a share of one. -/
def percentage (components : Components) : Parser Float32 := do
  pure (← components.quantity .percentage).value.toFloat32

/-- Takes the word for a missing component. -/
def none (components : Components) : Parser Float32 := do
  Parser.keyword "none"
  if components.missingAllowed then pure Channels.missing else Parser.fail .invalidValue

/-- Takes a number or a percentage, and tells whether it was a percentage. -/
def numberOrShare (components : Components) : Parser (Bool × Float32) :=
  Parser.firstOf
    [do pure (false, ← components.byName false),
      do pure (false, ← components.number),
      do pure (true, ← components.percentage),
      do pure (false, ← components.none)]

/-- Takes a component; percentages are shares of a basis. -/
def component (components : Components) (basis : Float32) : Parser Float32 := do
  let (isShare, value) ← components.numberOrShare
  pure (if isShare then value * basis else value)

/-- Takes a percentage as a share of one. -/
def share (components : Components) : Parser Float32 :=
  Parser.orElse components.percentage components.none

/-- Takes a hue in degrees. -/
def hue (components : Components) : Parser Float32 :=
  Parser.firstOf
    [components.byName true, components.number,
      do pure (← components.quantity .angle).degrees.toFloat32,
      components.none]

/-- A component between two limits; a missing one stays. -/
def limited (least most component : Float32) : Float32 :=
  if component < least then least else if most < component then most else component

/-- Takes an opacity behind a slash, if there is one. -/
def opacity (components : Components) : Parser Float32 := do
  if ← Parser.succeeds Parser.slash then
    pure (limited 0.0 1.0 (← components.component 1.0))
  else pure 1.0

/-- Takes an opacity behind a comma, if there is one. -/
def opacityAfterComma (components : Components) : Parser Float32 := do
  if ← Parser.isFinished then pure 1.0
  else do
    Parser.comma
    pure (limited 0.0 1.0 (← components.component 1.0))

/-- A component of red, green or blue as a share of one. -/
def rgbShare (component : Bool × Float32) : Float32 :=
  if component.1 then limited 0.0 1.0 component.2
  else limited 0.0 255.0 component.2.round / 255.0

/-- A whole component of red, green or blue. -/
def rgbByte (component : Bool × Float32) : Float32 :=
  limited 0.0 255.0 (if component.1 then component.2 * 255.0 else component.2).round

/-- Takes red, green and blue as shares of one, and tells whether they stood between commas. -/
def rgb (components : Components) : Parser (Channels × Bool) := do
  let red ← components.numberOrShare
  let byCommas ←
    if components.origin?.isNone && ! red.2.isNaN then Parser.succeeds Parser.comma else pure false
  if byCommas then
    let next : Parser (Bool × Float32) :=
      if red.1 then do pure (true, ← components.share) else do pure (false, ← components.number)
    let green ← next
    Parser.comma
    let blue ← next
    if green.2.isNaN || blue.2.isNaN then Parser.fail .invalidValue
    pure (⟨rgbByte red / 255.0, rgbByte green / 255.0, rgbByte blue / 255.0, 1.0⟩, true)
  else
    let green ← components.numberOrShare
    let blue ← components.numberOrShare
    pure (⟨rgbShare red, rgbShare green, rgbShare blue, 1.0⟩, false)

/-- Takes a hue and two percentages, and tells whether they stood between commas. -/
def hueAndShares (components : Components) (commasAllowed : Bool) : Parser (Channels × Bool) := do
  let hue ← components.hue
  let byCommas ←
    if commasAllowed && components.origin?.isNone && ! hue.isNaN then Parser.succeeds Parser.comma
    else pure false
  if byCommas then
    let first ← components.share
    Parser.comma
    let second ← components.share
    if first.isNaN || second.isNaN then Parser.fail .invalidValue
    pure (⟨hue, limited 0.0 100.0 (first * 100.0), limited 0.0 100.0 (second * 100.0), 1.0⟩, true)
  else
    let first ← components.component 100.0
    let second ← components.component 100.0
    pure (⟨hue, limited 0.0 100.0 first, limited 0.0 100.0 second, 1.0⟩, false)

end Components

/-- The greatest finite component. -/
def greatestComponent : Float32 := 3.4028234663852886e38

/-- A component is missing. -/
def isIncomplete (channels : Channels) : Bool :=
  channels.first.isNaN || channels.second.isNaN || channels.third.isNaN || channels.opacity.isNaN

/-- A color of a display, given by components that may be missing. -/
def ofDisplay (space : Space) (channels : Channels) : Color :=
  if isIncomplete channels then .incomplete space channels
  else ofChannels (Space.convert space .srgb channels)

/-- Takes the components of a color of a display. -/
def displayArguments (space : Space) (commasAllowed : Bool) (components : Components) :
    Parser Color := do
  let (channels, byCommas) ←
    if space = .srgb then components.rgb else components.hueAndShares commasAllowed
  let opacity ← if byCommas then components.opacityAfterComma else components.opacity
  pure (ofDisplay space { channels with opacity })

/-- Takes lightness, two opponent colors and an opacity. -/
def opponentArguments (space : Space) (lightness other : Float32) (components : Components) :
    Parser Color := do
  let first := Components.limited 0.0 greatestComponent (← components.component lightness)
  let second ← components.component other
  let third ← components.component other
  pure (.spaced space ⟨first, second, third, ← components.opacity⟩)

/-- Takes lightness, chroma, a hue and an opacity. -/
def polarArguments (space : Space) (lightness chroma : Float32) (components : Components) :
    Parser Color := do
  let first := Components.limited 0.0 greatestComponent (← components.component lightness)
  let second := Components.limited 0.0 greatestComponent (← components.component chroma)
  let third ← components.hue
  pure (.spaced space ⟨first, second, third, ← components.opacity⟩)

/-- The spaces that may be named in a color function. -/
def namedSpace? (name : Text) : Option Space :=
  let spaces : List (String × Space) :=
    [("srgb", .srgb), ("srgb-linear", .srgbLinear), ("display-p3", .displayP3),
      ("a98-rgb", .a98), ("prophoto-rgb", .proPhoto), ("rec2020", .rec2020),
      ("xyz-d50", .xyz50), ("xyz", .xyz65), ("xyz-d65", .xyz65)]
  (spaces.find? fun (other, _) => isOneOf [other] name).map Prod.snd

/-- The spaces in which colors can be mixed. -/
def mixingSpace? (name : Text) : Option Space :=
  let spaces : List (String × Space) :=
    [("srgb", .srgb), ("srgb-linear", .srgbLinear), ("lab", .lab), ("oklab", .oklab),
      ("xyz", .xyz65), ("xyz-d50", .xyz50), ("xyz-d65", .xyz65), ("hsl", .hsl), ("hwb", .hwb),
      ("lch", .lch), ("oklch", .oklch)]
  (spaces.find? fun (other, _) => isOneOf [other] name).map Prod.snd

/-- The names of the components of a space. -/
def componentNames : Space → List String
  | .lab | .oklab => ["l", "a", "b"]
  | .lch | .oklch => ["l", "c", "h"]
  | .hsl => ["h", "s", "l"]
  | .hwb => ["h", "w", "b"]
  | .xyz50 | .xyz65 => ["x", "y", "z"]
  | _ => ["r", "g", "b"]

/-- Components without missing ones, with a hue within one turn.

A color darker than black is black. -/
def settled (space : Space) (channels : Channels) : Channels :=
  let channels := shown space channels.resolved
  match space with
  | .lab | .oklab =>
      if channels.first < 0.0 then ⟨0.0, 0.0, 0.0, channels.opacity⟩ else channels
  | .lch | .oklch =>
      if channels.first < 0.0 then ⟨0.0, 0.0, 0.0, channels.opacity⟩
      else { channels with third := Space.normalHue channels.third }
  | _ => channels

/-- The components of a color in a space as those that may be named. -/
def originOf? (space : Space) (scale : Float32) (color : Color) : Option Origin :=
  (color.channelsIn? space).map fun channels =>
    ⟨componentNames space, (settled space channels).map (· * scale), space.huePlace?⟩

/-- Takes the color that arguments refer to, if there is one. -/
def referredColor (one : Parser Color) : Parser (Option Color) := do
  if ← Parser.succeeds (Parser.keyword "from") then do pure (some (← one)) else pure none

/-- Takes the same input once for light and once for dark. -/
def forBoth {α : Type} (light dark : Parser α) : Parser (α × Option α) := fun input => do
  let (light, _) ← light input
  let (dark, rest) ← dark input
  pure ((light, some dark), rest)

/-- Takes arguments that may refer to another color; of two colors for light and dark, once for
each of them. -/
def referring {α : Type} (missingAllowed : Bool) (space : Space) (scale : Float32)
    (arguments : Components → Parser α) (referred? : Option Color) : Parser (α × Option α) :=
  let within : Color → Parser α := fun color =>
    match originOf? space scale color with
    | some origin => arguments ⟨missingAllowed, some origin⟩
    | none => Parser.fail .invalidValue
  match referred? with
  | none => do pure (← arguments ⟨missingAllowed, none⟩, none)
  | some (.lightDark light dark) => forBoth (within light) (within dark)
  | some color => do pure (← within color, none)

/-- One color, or two for light and dark. -/
def ofBoth : Color × Option Color → Color
  | (color, none) => color
  | (light, some dark) => ofLightAndDark light dark

/-- Takes arguments of a color that may refer to another color. -/
def relative (one : Parser Color) (space : Space) (scale : Float32)
    (arguments : Components → Parser Color) : Parser Color := do
  pure (ofBoth (← referring true space scale arguments (← referredColor one)))

/-- Takes the arguments of a function that names a space. -/
def spaceArguments (one : Parser Color) : Parser Color := do
  let referred? ← referredColor one
  let name ← Parser.ident
  match namedSpace? name with
  | none => Parser.fail .invalidValue
  | some space =>
      let arguments := fun (components : Components) => do
        let first ← components.component 1.0
        let second ← components.component 1.0
        let third ← components.component 1.0
        pure (Color.spaced space ⟨first, second, third, ← components.opacity⟩)
      pure (ofBoth (← referring true space 1.0 arguments referred?))

/-- Takes the word for a path of hues. -/
def huePath : Parser HuePath := do
  let word ← Parser.word ["shorter", "longer", "increasing", "decreasing", "specified"]
  Parser.keyword "hue"
  if word = Text.of "longer" then pure .longer
  else if word = Text.of "increasing" then pure .increasing
  else if word = Text.of "decreasing" then pure .decreasing
  else if word = Text.of "specified" then pure .specified
  else pure .shorter

/-- Takes a color with its share in front or behind. -/
def colorWithShare (one : Parser Color) : Parser (Color × Option Float32) := do
  let plainShare : Parser Quantity := Calc.plainQuantity (· == .percentage)
  let before ← Parser.optional plainShare
  let color ← one
  match before with
  | some share => pure (color, some share.value.toFloat32)
  | none => do
      let after ← Parser.optional plainShare
      pure (color, after.map fun share => share.value.toFloat32)

/-- The light or the dark one of two colors. -/
def lightOf : Color → Color
  | .lightDark light _ => light
  | color => color

/-- The dark one of two colors. -/
def darkOf : Color → Color
  | .lightDark _ dark => dark
  | color => color

/-- The color is one for light and one for dark. -/
def isLightDark : Color → Bool
  | .lightDark _ _ => true
  | _ => false

/-- Takes the arguments of a mixture. -/
def mixArguments (one : Parser Color) : Parser Color := do
  Parser.keyword "in"
  let space ← Calc.required (mixingSpace? (← Parser.ident))
  let path ←
    if space.huePlace?.isSome then Parser.withDefault .shorter huePath else pure .shorter
  Parser.comma
  let (first, firstShare) ← colorWithShare one
  Parser.comma
  let (second, secondShare) ← colorWithShare one
  let shares : Float32 × Float32 :=
    match firstShare, secondShare with
    | none, none => (0.5, 0.5)
    | some share, none => (share, 1.0 - share)
    | none, some share => (1.0 - share, share)
    | some first, some second => (first, second)
  if shares.1 + shares.2 == 0.0 then Parser.fail .invalidValue
  let mixed := fun (first second : Color) =>
    Calc.required (mix? space path first shares.1 second shares.2)
  if isLightDark first || isLightDark second then do
    pure (ofLightAndDark (← mixed (lightOf first) (lightOf second))
      (← mixed (darkOf first) (darkOf second)))
  else mixed first second

/-- A color with another opacity; some colors are not known. -/
def withOpacity? (opacity : Float32) : Color → Option Color
  | .mixed red green blue _ => some (.mixed red green blue (byteOf (Channels.present opacity)))
  | .incomplete space channels => some (.incomplete space { channels with opacity })
  | .spaced space channels => some (.spaced space { channels with opacity })
  | _ => none

/-- The opacity of a color; some colors are not known. -/
def opacity? : Color → Option Float32
  | .mixed _ _ _ opacity => some (Float32.ofNat opacity / 255.0)
  | .incomplete _ channels => some channels.opacity
  | .spaced _ channels => some channels.opacity
  | _ => none

/-- Takes a color whose opacity is replaced by one that may refer to its own. -/
def alphaArguments (one : Parser Color) : Parser Color := do
  Parser.keyword "from"
  let color ← one
  let within : Color → Parser Color := fun color => do
    let own ← Calc.required color.opacity?
    let origin : Origin := ⟨[], ⟨0.0, 0.0, 0.0, Channels.present own⟩, none⟩
    if ← Parser.succeeds Parser.slash then
      let components : Components := ⟨true, some origin⟩
      let opacity := Components.limited 0.0 1.0 (← components.component 1.0)
      Calc.required (color.withOpacity? opacity)
    else pure color
  match color with
  | .lightDark light dark => do pure (ofBoth (← forBoth (within light) (within dark)))
  | color => within color

/-- Takes the arguments of a color function. -/
def functionArguments (one : Parser Color) (name : Text) : Parser Color :=
  if isOneOf ["rgb", "rgba"] name then relative one .srgb 255.0 (displayArguments .srgb true)
  else if isOneOf ["hsl", "hsla"] name then relative one .hsl 1.0 (displayArguments .hsl true)
  else if isOneOf ["hwb"] name then relative one .hwb 1.0 (displayArguments .hwb false)
  else if isOneOf ["lab"] name then relative one .lab 1.0 (opponentArguments .lab 100.0 125.0)
  else if isOneOf ["oklab"] name then relative one .oklab 1.0 (opponentArguments .oklab 1.0 0.4)
  else if isOneOf ["lch"] name then relative one .lch 1.0 (polarArguments .lch 100.0 150.0)
  else if isOneOf ["oklch"] name then relative one .oklch 1.0 (polarArguments .oklch 1.0 0.4)
  else if isOneOf ["color"] name then spaceArguments one
  else if isOneOf ["color-mix"] name then mixArguments one
  else if isOneOf ["alpha"] name then alphaArguments one
  else if isOneOf ["light-dark"] name then do
    let light ← one
    Parser.comma
    let dark ← one
    pure (ofLightAndDark (lightOf light) (darkOf dark))
  else Parser.fail .invalidValue

/-- Takes a color whose functions nest at most `depth` times. -/
def takeAt : Nat → Parser Color
  | 0 => Parser.fail .tooDeep
  | depth + 1 => do
      let component ← Parser.next
      match component with
      | .leaf lexeme =>
          match lexeme.token with
          | .ident name => Calc.required (ofName? name)
          | .hash digits => Calc.required (ofDigits? digits)
          | .idHash digits => Calc.required (ofDigits? digits)
          | _ => Parser.fail .invalidValue
      | .block opening content closing _ =>
          match opening.token with
          | .function name =>
              Parser.onContent content closing (functionArguments (takeAt depth) name)
          | _ => Parser.fail .invalidValue

/-- Takes a color. -/
def take : Parser Color := do takeAt ((← Parser.remaining) + 1)

/-- The color that a component stands for. -/
def ofComponent? (component : Component) : Option Color :=
  match Parser.onInput ⟨[component], component.stop⟩ take with
  | .ok color => some color
  | .error _ => none

end StyledMarkup.Css.Color
