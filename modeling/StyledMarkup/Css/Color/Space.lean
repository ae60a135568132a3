import StyledMarkup.Number.Wide

namespace StyledMarkup.Css

/-!
# Color spaces

The components of a color in one of the color spaces, and how they are
converted.  Each space is defined by way of another one that is nearer to the
tristimulus values of daylight; conversion follows these definitions.  A
component that is missing is not a number.
-/

/-- A color space. -/
inductive Space where
  | srgb
  | srgbLinear
  | displayP3
  | a98
  | proPhoto
  | rec2020
  | xyz50
  | xyz65
  | lab
  | lch
  | oklab
  | oklch
  | hsl
  | hwb
deriving DecidableEq, Repr

/-- Three components of a color and its opacity. -/
structure Channels where
  first : Float32
  second : Float32
  third : Float32
  opacity : Float32

namespace Channels

/-- What stands for a missing component. -/
def missing : Float32 := 0.0 / 0.0

/-- A component, or zero if it is missing. -/
def present (component : Float32) : Float32 := if component.isNaN then 0.0 else component

/-- The channels with zero for all missing components. -/
def resolved (channels : Channels) : Channels :=
  ⟨present channels.first, present channels.second, present channels.third,
    present channels.opacity⟩

/-- The channels with a function applied to the three components. -/
def map (function : Float32 → Float32) (channels : Channels) : Channels :=
  { channels with
    first := function channels.first
    second := function channels.second
    third := function channels.third }

/-- The product of a matrix and the three components. -/
def transformed (matrix : List (Float32 × Float32 × Float32)) (channels : Channels) : Channels :=
  let row := fun (entry : Float32 × Float32 × Float32) =>
    entry.1 * channels.first + entry.2.1 * channels.second + entry.2.2 * channels.third
  match matrix.map row with
  | [first, second, third] => ⟨first, second, third, channels.opacity⟩
  | _ => channels

end Channels

namespace Space

/-! ## Matrices -/

/-- From linear light of a display to tristimulus values. -/
def srgbToXyz : List (Float32 × Float32 × Float32) :=
  [(0.41239079926595934, 0.357584339383878, 0.1804807884018343),
    (0.21263900587151027, 0.715168678767756, 0.07219231536073371),
    (0.01933081871559182, 0.11919477979462598, 0.9505321522496607)]

/-- From tristimulus values to linear light of a display. -/
def xyzToSrgb : List (Float32 × Float32 × Float32) :=
  [(3.2409699419045226, -1.537383177570094, -0.4986107602930034),
    (-0.9692436362808796, 1.8759675015077202, 0.04155505740717559),
    (0.05563007969699366, -0.20397695888897652, 1.0569715142428786)]

/-- From linear light of a wide display to tristimulus values. -/
def p3ToXyz : List (Float32 × Float32 × Float32) :=
  [(0.4865709486482162, 0.26566769316909306, 0.1982172852343625),
    (0.2289745640697488, 0.6917385218365064, 0.079286914093745),
    (0.0, 0.04511338185890264, 1.043944368900976)]

/-- From tristimulus values to linear light of a wide display. -/
def xyzToP3 : List (Float32 × Float32 × Float32) :=
  [(2.493496911941425, -0.9313836179191239, -0.40271078445071684),
    (-0.8294889695615747, 1.7626640603183463, 0.023624685841943577),
    (0.03584583024378447, -0.07617238926804182, 0.9568845240076872)]

/-- From linear light of a print proof to tristimulus values. -/
def a98ToXyz : List (Float32 × Float32 × Float32) :=
  [(0.5766690429101305, 0.1855582379065463, 0.1882286462349947),
    (0.29734497525053605, 0.6273635662554661, 0.07529145849399788),
    (0.02703136138641234, 0.07068885253582723, 0.9913375368376388)]

/-- From tristimulus values to linear light of a print proof. -/
def xyzToA98 : List (Float32 × Float32 × Float32) :=
  [(2.0415879038107465, -0.5650069742788596, -0.34473135077832956),
    (-0.9692436362808795, 1.8759675015077202, 0.04155505740717557),
    (0.013444280632031142, -0.11836239223101838, 1.0151749943912054)]

/-- From linear light of photographs to tristimulus values of warm daylight. -/
def proPhotoToXyz : List (Float32 × Float32 × Float32) :=
  [(0.7977604896723027, 0.13518583717574031, 0.0313493495815248),
    (0.2880711282292934, 0.7118432178101014, 0.00008565396060525902),
    (0.0, 0.0, 0.8251046025104601)]

/-- From tristimulus values of warm daylight to linear light of photographs. -/
def xyzToProPhoto : List (Float32 × Float32 × Float32) :=
  [(1.3457989731028281, -0.25558010007997534, -0.05110628506753401),
    (-0.5446224939028347, 1.5082327413132781, 0.02053603239147973),
    (0.0, 0.0, 1.2119675456389454)]

/-- From linear light of broadcasts to tristimulus values. -/
def rec2020ToXyz : List (Float32 × Float32 × Float32) :=
  [(0.6369580483012914, 0.14461690358620832, 0.1688809751641721),
    (0.2627002120112671, 0.6779980715188708, 0.05930171646986196),
    (0.0, 0.028072693049087428, 1.060985057710791)]

/-- From tristimulus values to linear light of broadcasts. -/
def xyzToRec2020 : List (Float32 × Float32 × Float32) :=
  [(1.7166511879712674, -0.35567078377639233, -0.25336628137365974),
    (-0.6666843518324892, 1.6164812366349395, 0.01576854581391113),
    (0.017639857445310783, -0.042770613257808524, 0.9421031212354738)]

/-- From daylight to warm daylight. -/
def coolToWarm : List (Float32 × Float32 × Float32) :=
  [(1.0479298208405488, 0.022946793341019088, -0.05019222954313557),
    (0.029627815688159344, 0.990434484573249, -0.01707382502938514),
    (-0.009243058152591178, 0.015055144896577895, 0.7518742899580008)]

/-- From warm daylight to daylight. -/
def warmToCool : List (Float32 × Float32 × Float32) :=
  [(0.9554734527042182, -0.023098536874261423, 0.0632593086610217),
    (-0.028369706963208136, 1.0099954580058226, 0.021041398966943008),
    (0.012314001688319899, -0.020507696433477912, 1.3303659366080753)]

/-- From tristimulus values to the responses of the eye. -/
def xyzToEye : List (Float32 × Float32 × Float32) :=
  [(0.8190224432164319, 0.3619062562801221, -0.12887378261216414),
    (0.0329836671980271, 0.9292868468965546, 0.03614466816999844),
    (0.048177199566046255, 0.26423952494422764, 0.6335478258136937)]

/-- From the responses of the eye to tristimulus values. -/
def eyeToXyz : List (Float32 × Float32 × Float32) :=
  [(1.2268798733741557, -0.5578149965554813, 0.28139105017721583),
    (-0.04057576262431372, 1.1122868293970594, -0.07171106666151701),
    (-0.07637294974672142, -0.4214933239627914, 1.5869240244272418)]

/-- From the compressed responses of the eye to lightness and two opponent colors. -/
def eyeToOklab : List (Float32 × Float32 × Float32) :=
  [(0.2104542553, 0.7936177850, -0.0040720468),
    (1.9779984951, -2.4285922050, 0.4505937099),
    (0.0259040371, 0.7827717662, -0.8086757660)]

/-- From lightness and two opponent colors to the compressed responses of the eye. -/
def oklabToEye : List (Float32 × Float32 × Float32) :=
  [(0.9999999984505198, 0.39633779217376786, 0.2158037580607588),
    (1.0000000088817608, -0.10556134232365635, -0.0638541747717059),
    (1.000000054672411, -0.08948418209496576, -1.2914855378640917)]

/-! ## Curves -/

/-- A function of the magnitude that keeps the sign. -/
def keepingSign (function : Float32 → Float32) (value : Float32) : Float32 :=
  if value < 0.0 then -(function (-value)) else function value

/-- The linear light of a component for a display. -/
def linearSrgb : Float32 → Float32 := keepingSign fun value =>
  if value < 0.04045 then value / 12.92 else Wide.power ((value + 0.055) / 1.055) 2.4

/-- The component for a display that has some linear light. -/
def curvedSrgb : Float32 → Float32 := keepingSign fun value =>
  if 0.0031308 < value then 1.055 * Wide.power value (1.0 / 2.4) - 0.055 else 12.92 * value

/-- The linear light of a component for photographs. -/
def linearProPhoto : Float32 → Float32 := keepingSign fun value =>
  if value ≤ 16.0 / 512.0 then value / 16.0 else Wide.power value 1.8

/-- The component for photographs that has some linear light. -/
def curvedProPhoto : Float32 → Float32 := keepingSign fun value =>
  if 1.0 / 512.0 ≤ value then Wide.power value (1.0 / 1.8) else 16.0 * value

/-- The linear light of a component for broadcasts. -/
def linearRec2020 : Float32 → Float32 := keepingSign fun value =>
  if value < 0.018053968510807 * 4.5 then value / 4.5
  else Wide.power ((value + 1.09929682680944 - 1.0) / 1.09929682680944) (1.0 / 0.45)

/-- The component for broadcasts that has some linear light. -/
def curvedRec2020 : Float32 → Float32 := keepingSign fun value =>
  if 0.018053968510807 < value then 1.09929682680944 * Wide.power value 0.45 - (1.09929682680944 - 1.0)
  else 4.5 * value

/-- The cube of the response of the eye. -/
def cubed (value : Float32) : Float32 := value * value * value

/-! ## Lightness and opponent colors -/

/-- The tristimulus values of warm daylight itself. -/
def warmWhite : Float32 × Float32 × Float32 :=
  (0.3457 / 0.3585, 1.0, (1.0 - 0.3457 - 0.3585) / 0.3585)

/-- Slope of the linear part of the lightness curve. -/
def lightnessSlope : Float32 := 24389.0 / 27.0

/-- End of the linear part of the lightness curve. -/
def lightnessLimit : Float32 := 216.0 / 24389.0

/-- Tristimulus values of warm daylight for a lightness and two opponent colors. -/
def labToXyz (color : Channels) : Channels :=
  let middle := (color.first + 16.0) / 116.0
  let left := color.second / 500.0 + middle
  let right := middle - color.third / 200.0
  let expand := fun (value : Float32) =>
    if lightnessLimit < cubed value then cubed value else (116.0 * value - 16.0) / lightnessSlope
  let level :=
    if lightnessSlope * lightnessLimit < color.first then cubed middle
    else color.first / lightnessSlope
  ⟨expand left * warmWhite.1, level * warmWhite.2.1, expand right * warmWhite.2.2, color.opacity⟩

/-- Lightness and two opponent colors of tristimulus values of warm daylight. -/
def xyzToLab (color : Channels) : Channels :=
  let shrink := fun (value : Float32) =>
    if lightnessLimit < value then Wide.cubeRoot value else (lightnessSlope * value + 16.0) / 116.0
  let left := shrink (color.first / warmWhite.1)
  let middle := shrink (color.second / warmWhite.2.1)
  let right := shrink (color.third / warmWhite.2.2)
  ⟨116.0 * middle - 16.0, 500.0 * (left - middle), 200.0 * (middle - right), color.opacity⟩

/-- Half a turn in radians. -/
def halfTurn : Float32 := 3.14159274101257324

/-- Two opponent colors from chroma and hue. -/
def fromPolar (color : Channels) : Channels :=
  let angle := color.third * halfTurn / 180.0
  ⟨color.first, color.second * Wide.cosine angle, color.second * Wide.sine angle, color.opacity⟩

/-- Chroma and hue of two opponent colors. -/
def toPolar (color : Channels) : Channels :=
  let chroma := (color.second * color.second + color.third * color.third).sqrt
  let angle := Wide.angle color.third color.second * 180.0 / halfTurn
  ⟨color.first, chroma, if angle < 0.0 then angle + 360.0 else angle, color.opacity⟩

/-! ## Hue, saturation and lightness -/

/-- A component of a color with a hue, counted in thirds of a turn. -/
def hueComponent (low high third : Float32) : Float32 :=
  let third := if third < 0.0 then third + 3.0 else third
  let third := if 3.0 < third then third - 3.0 else third
  if third * 2.0 < 1.0 then low + (high - low) * third * 2.0
  else if third * 2.0 < 3.0 then high
  else if third < 2.0 then low + (high - low) * (2.0 - third) * 2.0
  else low

/-- A hue in degrees within one turn. -/
def normalHue (hue : Float32) : Float32 := hue - 360.0 * (hue / 360.0).floor

/-- Red, green and blue for a hue in degrees, a saturation and a lightness. -/
def hueToRgb (hue saturation lightness opacity : Float32) : Channels :=
  let turn := normalHue hue / 360.0
  let high :=
    if lightness ≤ 0.5 then lightness * (saturation + 1.0)
    else lightness + saturation - lightness * saturation
  let low := lightness * 2.0 - high
  let thirds := turn * 3.0
  ⟨hueComponent low high (thirds + 1.0), hueComponent low high thirds,
    hueComponent low high (thirds - 1.0), opacity⟩

/-- Red, green and blue for hue, saturation and lightness. -/
def hslToRgb (color : Channels) : Channels :=
  hueToRgb color.first (color.second / 100.0) (color.third / 100.0) color.opacity

/-- The greater of two components. -/
def greater (first second : Float32) : Float32 := if first < second then second else first

/-- The lesser of two components. -/
def lesser (first second : Float32) : Float32 := if second < first then second else first

/-- Hue, saturation and lightness of red, green and blue; grey has no hue. -/
def rgbToHsl (color : Channels) : Channels :=
  let red := color.first
  let green := color.second
  let blue := color.third
  let most := greater (greater red green) blue
  let least := lesser (lesser red green) blue
  let lightness := (least + most) / 2.0
  let spread := most - least
  if spread == 0.0 then ⟨Channels.missing, 0.0, lightness * 100.0, color.opacity⟩
  else
    let saturation :=
      if lightness == 0.0 || lightness == 1.0 then 0.0
      else (most - lightness) / lesser lightness (1.0 - lightness)
    let hue :=
      if most == red then (green - blue) / spread + (if green < blue then 6.0 else 0.0)
      else if most == green then (blue - red) / spread + 2.0
      else (red - green) / spread + 4.0
    ⟨hue * 60.0, saturation * 100.0, lightness * 100.0, color.opacity⟩

/-- Red, green and blue for hue, whiteness and blackness. -/
def hwbToRgb (color : Channels) : Channels :=
  let white := color.second / 100.0
  let black := color.third / 100.0
  if 1.0 ≤ white + black then
    let grey := white / (white + black)
    ⟨grey, grey, grey, color.opacity⟩
  else
    (hueToRgb color.first 1.0 0.5 color.opacity).map fun component =>
      component * (1.0 - white - black) + white

/-- Hue, whiteness and blackness of red, green and blue. -/
def rgbToHwb (color : Channels) : Channels :=
  let most := greater (greater color.first color.second) color.third
  let least := lesser (lesser color.first color.second) color.third
  ⟨(rgbToHsl color).first, least * 100.0, (1.0 - most) * 100.0, color.opacity⟩

/-! ## Conversion -/

/-- The space by way of which a space is defined. -/
def parent? : Space → Option Space
  | .srgb => some .srgbLinear
  | .srgbLinear => some .xyz65
  | .displayP3 => some .xyz65
  | .a98 => some .xyz65
  | .proPhoto => some .xyz50
  | .rec2020 => some .xyz65
  | .xyz50 => some .xyz65
  | .xyz65 => none
  | .lab => some .xyz50
  | .lch => some .lab
  | .oklab => some .xyz65
  | .oklch => some .oklab
  | .hsl => some .srgb
  | .hwb => some .srgb

/-- A color in the space by way of which its space is defined. -/
def toParent (space : Space) (color : Channels) : Channels :=
  match space with
  | .srgb => color.map linearSrgb
  | .srgbLinear => color.transformed srgbToXyz
  | .displayP3 => (color.map linearSrgb).transformed p3ToXyz
  | .a98 => (color.map (keepingSign fun value => Wide.power value (563.0 / 256.0))).transformed a98ToXyz
  | .proPhoto => (color.map linearProPhoto).transformed proPhotoToXyz
  | .rec2020 => (color.map linearRec2020).transformed rec2020ToXyz
  | .xyz50 => color.transformed warmToCool
  | .xyz65 => color
  | .lab => labToXyz color
  | .lch => fromPolar color
  | .oklab => ((color.transformed oklabToEye).map cubed).transformed eyeToXyz
  | .oklch => fromPolar color
  | .hsl => hslToRgb color
  | .hwb => hwbToRgb color

/-- A color of the space by way of which a space is defined, in that space. -/
def ofParent (space : Space) (color : Channels) : Channels :=
  match space with
  | .srgb => color.map curvedSrgb
  | .srgbLinear => color.transformed xyzToSrgb
  | .displayP3 => (color.transformed xyzToP3).map curvedSrgb
  | .a98 => (color.transformed xyzToA98).map (keepingSign fun value => Wide.power value (256.0 / 563.0))
  | .proPhoto => (color.transformed xyzToProPhoto).map curvedProPhoto
  | .rec2020 => (color.transformed xyzToRec2020).map curvedRec2020
  | .xyz50 => color.transformed coolToWarm
  | .xyz65 => color
  | .lab => xyzToLab color
  | .lch => toPolar color
  | .oklab => ((color.transformed xyzToEye).map Wide.cubeRoot).transformed eyeToOklab
  | .oklch => toPolar color
  | .hsl => rgbToHsl color
  | .hwb => rgbToHwb color

/-- A space with the spaces by way of which it is defined. -/
def ancestry (space : Space) : List Space :=
  let next := fun (space : Option Space) => space.bind parent?
  let first := parent? space
  let second := next first
  let third := next second
  [some space, first, second, third].filterMap id

/-- A color converted from one space to another by way of what both have in common. -/
def convert (source target : Space) (color : Channels) : Channels :=
  if source = target then color
  else
    let down := ancestry target
    let up := (ancestry source).takeWhile fun space => ! down.contains space
    let common := (ancestry source).drop up.length |>.head?
    let down := (down.takeWhile fun space => some space ≠ common).reverse
    let raised := up.foldl (fun color space => toParent space color) color.resolved
    down.foldl (fun color space => ofParent space color) raised

/-- Spaces whose colors are limited by a display. -/
def isBounded : Space → Bool
  | .srgb | .srgbLinear | .displayP3 | .a98 | .proPhoto | .rec2020 | .hsl | .hwb => true
  | _ => false

/-- The place of the hue among the components. -/
def huePlace? : Space → Option Nat
  | .hsl | .hwb => some 0
  | .lch | .oklch => some 2
  | _ => none

end Space

end StyledMarkup.Css
