import StyledMarkup.Css.ColorName
import StyledMarkup.Css.Color.Space
import StyledMarkup.Css.Value.Quantity

namespace StyledMarkup.Css

/-!
# Colors

A color of a display is printed by the shortest of its code and its names.
Colors of other spaces are printed with their components.
-/

/-- A color. -/
inductive Color where
  | current
  | mixed (red green blue opacity : Nat)
  | incomplete (space : Space) (channels : Channels)
  | spaced (space : Space) (channels : Channels)
  | lightDark (light dark : Color)
  | system (name : Text)

namespace Color

/-- No color at all. -/
def transparent : Color := .mixed 0 0 0 0

/-- Hexadecimal digits of a byte. -/
def byteText (byte : Nat) : Text := [Nat.digitChar (byte / 16), Nat.digitChar (byte % 16)]

/-- Both digits of a byte are equal. -/
def isDouble (byte : Nat) : Bool := byte / 16 == byte % 16

/-- The code of bytes, with single digits if all digits are doubled. -/
def codeText (bytes : List Nat) : Text :=
  if bytes.all isDouble then '#' :: bytes.map fun byte => Nat.digitChar (byte % 16)
  else '#' :: bytes.flatMap byteText

/-- The text of a color of a display. -/
def mixedText (red green blue opacity : Nat) : Text :=
  if opacity = 255 then
    (shortName? (red * 65536 + green * 256 + blue)).getD (codeText [red, green, blue])
  else codeText [red, green, blue, opacity]

/-- The whole number from 0 to 255 that is nearest to a component of one. -/
def byteOf (component : Float32) : Nat := ((component * 255.0).round).toUInt8.toNat

/-- The color of a display with components of one. -/
def ofChannels (channels : Channels) : Color :=
  let channels := channels.resolved
  .mixed (byteOf channels.first) (byteOf channels.second) (byteOf channels.third)
    (byteOf channels.opacity)

/-- The name of a space in front of the components. -/
def spaceName : Space → Text
  | .srgb => Text.of "srgb"
  | .srgbLinear => Text.of "srgb-linear"
  | .displayP3 => Text.of "display-p3"
  | .a98 => Text.of "a98-rgb"
  | .proPhoto => Text.of "prophoto-rgb"
  | .rec2020 => Text.of "rec2020"
  | .xyz50 => Text.of "xyz-d50"
  | .xyz65 => Text.of "xyz"
  | .lab => Text.of "lab"
  | .lch => Text.of "lch"
  | .oklab => Text.of "oklab"
  | .oklch => Text.of "oklch"
  | .hsl => Text.of "hsl"
  | .hwb => Text.of "hwb"

/-- The text of a component; a missing one is named. -/
def componentText (component : Float32) : Text :=
  match Floating.ofFloat32 component with
  | .undefined => Text.of "none"
  | value => floatText value

/-- The text of a component as a percentage. -/
def shareText (component : Float32) : Text :=
  match Floating.ofFloat32 component with
  | .undefined => Text.of "none"
  | value => percentText value

/-- The text of an opacity behind the components; full opacity is not written. -/
def opacityText (opacity : Float32) : Text :=
  if opacity.isNaN || 0.00000011920929 < (opacity - 1.0).abs then
    Text.of " / " ++ componentText opacity
  else []

/-- The text of a color that is given by its components in a space. -/
def spacedText (space : Space) (channels : Channels) : Text :=
  let (head, first) :=
    match space with
    | .lab => (Text.of "lab(", shareText (channels.first / 100.0))
    | .lch => (Text.of "lch(", shareText (channels.first / 100.0))
    | .oklab => (Text.of "oklab(", shareText channels.first)
    | .oklch => (Text.of "oklch(", shareText channels.first)
    | _ => (Text.of "color(" ++ spaceName space ++ [' '], componentText channels.first)
  head ++ first ++ ' ' :: componentText channels.second ++ ' ' :: componentText channels.third ++
    opacityText channels.opacity ++ [')']

/-- The text of a color. -/
def print : Color → Text
  | .current => Text.of "currentColor"
  | .mixed red green blue opacity => mixedText red green blue opacity
  | .incomplete space channels =>
      match ofChannels (Space.convert space .srgb channels) with
      | .mixed red green blue opacity => mixedText red green blue opacity
      | _ => []
  | .spaced space channels => spacedText space channels
  | .lightDark light dark =>
      Text.of "light-dark(" ++ light.print ++ ',' :: ' ' :: dark.print ++ [')']
  | .system name => name

/-- A text that no different channels have; there is none if a component is missing. -/
def channelsIdentity? (channels : Channels) : Option Text :=
  let components := [channels.first, channels.second, channels.third, channels.opacity]
  (components.mapM fun component => valueIdentity? (.ofFloat32 component)).map (Text.join [' '])

/-- A text that no different color has; a color that misses a component is different from itself. -/
def identity? (color : Color) : Option Text :=
  match color with
  | .incomplete space channels =>
      (channelsIdentity? channels).map fun text => Text.of "incomplete " ++ spaceName space ++ text
  | .spaced space channels =>
      (channelsIdentity? channels).map fun text => spaceName space ++ text
  | .lightDark light dark => do
      pure (Text.of "light-dark " ++ (← identity? light) ++ ',' :: (← identity? dark))
  | color => some color.print

/-- Equality of colors. -/
def isSame (first second : Color) : Bool :=
  match first.identity?, second.identity? with
  | some own, some other => own == other
  | _, _ => false

instance : BEq Color := ⟨isSame⟩

/-- Two colors for light and dark; equal ones are no more than one color. -/
def ofLightAndDark (light dark : Color) : Color :=
  if light == dark then light else .lightDark light dark

/-- A color from the digits after a number sign. -/
def ofDigits? (digits : Text) : Option Color :=
  if ! digits.all Lexer.isHexDigit then none
  else
    match digits.map Lexer.hexDigitValue with
    | [red, green, blue] => some (.mixed (red * 17) (green * 17) (blue * 17) 255)
    | [red, green, blue, opacity] =>
        some (.mixed (red * 17) (green * 17) (blue * 17) (opacity * 17))
    | [a, b, c, d, e, f] => some (.mixed (a * 16 + b) (c * 16 + d) (e * 16 + f) 255)
    | [a, b, c, d, e, f, g, h] =>
        some (.mixed (a * 16 + b) (c * 16 + d) (e * 16 + f) (g * 16 + h))
    | _ => none

/-- Colors that the system of the reader decides. -/
def systemNames : List String :=
  ["accentcolor", "accentcolortext", "activetext", "buttonborder", "buttonface", "buttontext",
    "canvas", "canvastext", "field", "fieldtext", "graytext", "highlight", "highlighttext",
    "linktext", "mark", "marktext", "selecteditem", "selecteditemtext", "visitedtext",
    "activeborder", "activecaption", "appworkspace", "background", "buttonhighlight",
    "buttonshadow", "captiontext", "inactiveborder", "inactivecaption", "inactivecaptiontext",
    "infobackground", "infotext", "menu", "menutext", "scrollbar", "threeddarkshadow",
    "threedface", "threedhighlight", "threedlightshadow", "threedshadow", "window",
    "windowframe", "windowtext"]

/-- A color from its name, in upper or lower case. -/
def ofName? (name : Text) : Option Color :=
  if Text.sameIgnoringCase name (Text.of "currentcolor") then some .current
  else if Text.sameIgnoringCase name (Text.of "transparent") then some transparent
  else
    match colorCode? name with
    | some code => some (.mixed (code / 65536) (code / 256 % 256) (code % 256) 255)
    | none => if isOneOf systemNames name then some (.system (Text.lower name)) else none

end Color

end StyledMarkup.Css
