import StyledMarkup.Css.Color.Basic

namespace StyledMarkup.Css.Color

/-!
# Mixing colors

Two colors are mixed in a color space: both are converted to it, missing
components are taken from the other color, and the components are weighted.
-/

/-- Which way around the circle of hues is taken. -/
inductive HuePath where
  | shorter
  | longer
  | increasing
  | decreasing
  | specified
deriving DecidableEq, Repr

/-- The color is given in a space already. -/
def isIn (space : Space) : Color → Bool
  | .mixed _ _ _ _ => space == .srgb
  | .incomplete source _ => source == space
  | .spaced source _ => source == space
  | _ => false

/-- The color that has some components in a space. -/
def ofSpace (space : Space) (channels : Channels) : Color :=
  match space with
  | .srgb => ofChannels channels
  | .hsl | .hwb => ofChannels (Space.convert space .srgb channels)
  | _ => .spaced space channels

/-- The color can be shown by a display of the space. -/
def inGamut (space : Space) (channels : Channels) : Bool :=
  let channels := channels.resolved
  let inside := fun (component : Float32) => 0.0 ≤ component && component ≤ 1.0
  match space with
  | .hsl | .hwb =>
      inside (channels.second / 100.0) && inside (channels.third / 100.0)
  | _ =>
      ! space.isBounded ||
        (inside channels.first && inside channels.second && inside channels.third)

/-- The components limited to what a display can show. -/
def clipped (space : Space) (channels : Channels) : Channels :=
  let limit := fun (most component : Float32) =>
    Space.greater 0.0 (Space.lesser component most)
  match space with
  | .hsl | .hwb =>
      { channels with
        second := limit 100.0 channels.second
        third := limit 100.0 channels.third }
  | _ => channels.map (limit 1.0)

/-- Distance of two colors as the eye sees them. -/
def eyeDistance (first second : Channels) : Float32 :=
  let square := fun (value : Float32) => value * value
  (square (first.first - second.first) + square (first.second - second.second) +
    square (first.third - second.third)).sqrt

/-- Looks for the greatest chroma that a display can show. -/
def reduceChroma (space : Space) (color : Channels) : Nat → Float32 → Float32 → Channels
  | 0, low, _ => Space.convert .oklch space { color with second := low }
  | fuel + 1, low, high =>
      if 0.00001 < high - low then
        let middle := (low + high) / 2.0
        let current := { color with second := middle }
        let converted := Space.convert .oklch space current
        if inGamut space converted then reduceChroma space color fuel middle high
        else
          let limited := clipped space converted
          let distance := eyeDistance (Space.convert space .oklab limited)
            (Space.convert .oklch .oklab current)
          if distance < 0.02 then limited else reduceChroma space color fuel low middle
      else Space.convert .oklch space { color with second := low }

/-- A color that a display can show, near to a color that it cannot show. -/
def mapped (space : Space) (channels : Channels) : Channels :=
  let color := Space.convert space .oklch channels
  if 1.0 ≤ color.first + 0.00001 then
    Space.convert .oklch space ⟨1.0, 0.0, 0.0, color.opacity⟩
  else if color.first < 0.00001 then
    Space.convert .oklch space ⟨0.0, 0.0, 0.0, color.opacity⟩
  else reduceChroma space color 64 0.0 color.second

/-- The components, or near ones that a display of the space can show. -/
def shown (space : Space) (channels : Channels) : Channels :=
  if inGamut space channels then channels else mapped space channels

/-- A color converted to a space; hues are taken from what a display can show. -/
def converted (source target : Space) (channels : Channels) : Channels :=
  match target with
  | .hsl | .hwb =>
      if source = target then channels
      else Space.convert .srgb target (shown .srgb (Space.convert source .srgb channels))
  | _ => Space.convert source target channels

/-- The components of a color in a space; some colors are not known. -/
def channelsIn? (space : Space) : Color → Option Channels
  | .current => none
  | .system _ => none
  | .lightDark _ _ => none
  | .mixed red green blue opacity =>
      let share := fun (byte : Nat) => Float32.ofNat byte / 255.0
      some (converted .srgb space ⟨share red, share green, share blue, share opacity⟩)
  | .incomplete source channels => some (converted source space channels)
  | .spaced source channels => some (converted source space channels)

/-- The least difference of two numbers near one. -/
def tolerance : Float32 := 0.00000011920929

/-- The components without those that cannot be seen. -/
def withoutPowerless (space : Space) (channels : Channels) : Channels :=
  let isNone := fun (component : Float32) => component.abs < tolerance
  let noHue : Channels := { channels with first := Channels.missing }
  let noLastHue : Channels := { channels with third := Channels.missing }
  match space with
  | .hsl =>
      if isNone (channels.third / 100.0) || isNone (channels.third / 100.0 - 1.0) then
        { noHue with second := Channels.missing }
      else if isNone (channels.second / 100.0) then noHue else channels
  | .hwb =>
      if isNone (channels.second / 100.0 + channels.third / 100.0 - 1.0) then noHue else channels
  | .lab | .oklab =>
      if isNone channels.first then { noLastHue with second := Channels.missing } else channels
  | .lch | .oklch =>
      if isNone channels.first then { noLastHue with second := Channels.missing }
      else if isNone channels.second then noLastHue else channels
  | _ => channels

/-- The components with those of another color for missing ones. -/
def filledBy (other channels : Channels) : Channels :=
  let fill := fun (own replacement : Float32) => if own.isNaN then replacement else own
  ⟨fill channels.first other.first, fill channels.second other.second,
    fill channels.third other.third, fill channels.opacity other.opacity⟩

/-- Two hues that are mixed along a path. -/
def adjustedHues (path : HuePath) (first second : Float32) : Float32 × Float32 :=
  let (first, second) :=
    if path = .specified then (first, second) else (Space.normalHue first, Space.normalHue second)
  let difference := second - first
  match path with
  | .specified => (first, second)
  | .shorter =>
      if 180.0 < difference then (first + 360.0, second)
      else if difference < -180.0 then (first, second + 360.0)
      else (first, second)
  | .longer =>
      if 0.0 < difference && difference < 180.0 then (first + 360.0, second)
      else if -180.0 < difference && difference < 0.0 then (first, second + 360.0)
      else (first, second)
  | .increasing => if second < first then (first, second + 360.0) else (first, second)
  | .decreasing => if first < second then (first + 360.0, second) else (first, second)

/-- The components of two colors with their hues on a path. -/
def withHues (path : HuePath) (space : Space) (first second : Channels) : Channels × Channels :=
  match space.huePlace? with
  | some 0 =>
      let (a, b) := adjustedHues path first.first second.first
      ({ first with first := a }, { second with first := b })
  | some _ =>
      let (a, b) := adjustedHues path first.third second.third
      ({ first with third := a }, { second with third := b })
  | none => (first, second)

/-- The components that are not a hue, multiplied by a factor. -/
def weighted (space : Space) (factor : Float32) (channels : Channels) : Channels :=
  match space.huePlace? with
  | some 0 =>
      { channels with second := channels.second * factor, third := channels.third * factor }
  | some _ =>
      { channels with first := channels.first * factor, second := channels.second * factor }
  | none => channels.map (· * factor)

/-- The components that are not a hue, divided by a factor that may be zero. -/
def unweighted (space : Space) (factor : Float32) (channels : Channels) : Channels :=
  match space.huePlace? with
  | some 0 =>
      { channels with second := channels.second / factor, third := channels.third / factor }
  | some _ =>
      { channels with first := channels.first / factor, second := channels.second / factor }
  | none => channels.map (· / factor)

/-- The components of a color that is about to be mixed. -/
def prepared? (space : Space) (color : Color) : Option Channels :=
  (color.channelsIn? space).map fun channels =>
    if color.isIn space then channels else withoutPowerless space (shown space channels)

/-- Two colors mixed in a space by their shares; shares below one make the result fainter. -/
def mix? (space : Space) (path : HuePath) (first : Color) (firstShare : Float32) (second : Color)
    (secondShare : Float32) : Option Color := do
  let one ← first.prepared? space
  let other ← second.prepared? space
  let filled := filledBy other one
  let other := filledBy filled other
  let (one, other) := withHues path space filled other
  let faded := fun (channels : Channels) =>
    if channels.opacity.isNaN then channels else weighted space channels.opacity channels
  let one := faded one
  let other := faded other
  let total := firstShare + secondShare
  let share := fun (value : Float32) => if total == 1.0 then value else value / total
  let strength := if total < 1.0 then total else 1.0
  let blend := fun (a b : Float32) => a * share firstShare + b * share secondShare
  let mixed : Channels := ⟨blend one.first other.first, blend one.second other.second,
    blend one.third other.third, blend one.opacity other.opacity⟩
  let result :=
    if mixed.opacity.isNaN then mixed
    else
      { unweighted space mixed.opacity mixed with opacity := mixed.opacity * strength }
  pure (ofSpace space result)

end StyledMarkup.Css.Color
