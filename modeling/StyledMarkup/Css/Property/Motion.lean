import StyledMarkup.Css.Property.Box

namespace StyledMarkup.Css.Property

/-!
# Transitions and animations

Changes of properties in time.  A transition names a property and an animation
names a rule with keyframes.
-/

open Value

/-- A duration that takes no time. -/
def noTime : Written := .ofQuantity .noTime

/-- A curve that is usually taken. -/
def ease : Written := .word "ease"

/-- Takes a transition of a property, given how its name is printed. -/
def transition (propertyName : Text → Text) : Parser Written := do
  let timed : Parser (Sum Quantity Text) := do pure (.inl (← time))
  let easing : Parser (Sum Quantity Text) := do pure (.inr (← anEasing).text)
  let named : Parser (Sum Quantity Text) := do pure (.inr (propertyName (← Parser.ident)))
  match ← Parser.inAnyOrder [timed, easing, timed, named] with
  | [duration, easing, delay, name] =>
      let quantity := fun (value : Option (Sum Quantity Text)) =>
        match value with
        | some (.inl quantity) => quantity
        | _ => Quantity.noTime
      let text := fun (fallback : String) (value : Option (Sum Quantity Text)) =>
        match value with
        | some (.inr text) => text
        | _ => Text.of fallback
      let duration := quantity duration
      let delay := quantity delay
      let easing := text "ease" easing
      let durations := if duration.isZero && delay.isZero then [] else [duration.fullText]
      let easings := if easing = ease.text then [] else [easing]
      let delays := if delay.isZero then [] else [delay.fullText]
      pure (.of (Text.join [' '] (text "all" name :: durations ++ easings ++ delays)))
  | _ => Parser.fail .invalidValue

/-! ## Animations -/

/-- Takes the name of an animation; a string needs no quotes unless it is a word with a meaning. -/
def animationName : Parser Written :=
  Parser.firstOf
    [oneOf ["none"],
    do
      let name ← Parser.string
      pure (.of (if isOneOf ("none" :: wideWords) name then stringText name else identText name)),
    aName]

/-- Directions of animations. -/
def animationDirections : List String := ["normal", "reverse", "alternate", "alternate-reverse"]

/-- What an animation shows before and after it runs. -/
def animationFills : List String := ["none", "forwards", "backwards", "both"]

/-- Whether an animation runs. -/
def animationStates : List String := ["running", "paused"]

/-- Takes how often an animation runs. -/
def animationCount : Parser Written := Parser.orElse aNumber (oneOf ["infinite"])

/-- Two distances that are left to the browser. -/
def bothAuto : Written := .ofPair (.word "auto") (.word "auto")

/-- Takes what moves an animation forward. -/
def timeline : Parser Written :=
  let axes : Parser Written := oneOf ["block", "inline", "x", "y"]
  Parser.firstOf
    [oneOf ["auto", "none"],
      do pure (.of (identText (← dashedName))),
      do
        let inner ← Parser.function ["scroll"] (parts
          [⟨oneOf ["root", "nearest", "self"], .word "nearest"⟩, ⟨axes, .word "block"⟩])
        let usual := [Written.word "nearest", .word "block"]
        let shown := (inner.zip usual).filter fun (value, usual) => value != usual
        pure (.of (Text.of "scroll(" ++ spaced (shown.map Prod.fst) ++ [')'])),
      do
        let inner ← Parser.function ["view"] (parts
          [⟨axes, .word "block"⟩, ⟨pair offset, bothAuto⟩])
        let usual := [Written.word "block", bothAuto]
        let shown := (inner.zip usual).filter fun (value, usual) => value != usual
        pure (.of (Text.of "view(" ++ spaced (shown.map Prod.fst) ++ [')']))]

/-- A part of an animation that is left out if it is the usual one and the name is none like it. -/
def unlessUsual (value : Option Written) (usual : Written) (isWord : Bool) : List Text :=
  let value := value.getD usual
  if value != usual || isWord then [value.text] else []

/-- The name is one of some words, which are not compared in upper or lower case. -/
def isExactly (choices : List String) (name : Text) : Bool :=
  choices.any fun choice => name == Text.of choice

/-- Takes an animation; without a name nothing else matters. -/
def animation : Parser Written := do
  let found ← Parser.inAnyOrder
    [aTime, anEasing, aTime, animationCount, oneOf animationDirections, oneOf animationFills,
      oneOf animationStates, animationName, timeline]
  match found with
  | [duration, easing, delay, count, direction, fill, state, name, timeline] =>
      let name := (name.map Written.text).getD (Text.of "none")
      if name = Text.of "none" then pure (.word "none")
      else
        let plain := if name.head? = some '"' then (name.drop 1).dropLast else name
        let isZero := fun (time : Written) =>
          time == noTime || time == .ofQuantity (.of .nought "ms")
        let duration := duration.getD noTime
        let delay := delay.getD noTime
        let delays := if isZero delay then [] else [delay.text]
        let durations := if isZero duration && delays.isEmpty then [] else [duration.text]
        let isFill := isOneOf animationFills plain && ! isOneOf ["none"] plain
        pure (.of (Text.join [' ']
          (durations ++ unlessUsual easing ease (isExactly (easingWords ++ stepWords) plain) ++
            delays ++ unlessUsual count (.ofNumber .one) (isExactly ["infinite"] plain) ++
            unlessUsual direction (.word "normal") (isOneOf animationDirections plain) ++
            unlessUsual fill (.word "none") isFill ++
            unlessUsual state (.word "running") (isOneOf animationStates plain) ++
            name :: unlessUsual timeline (.word "auto") false)))
  | _ => Parser.fail .invalidValue

/-! ## Ranges -/

/-- Parts of the way of a box through what shows it. -/
def rangeNames : List String :=
  ["cover", "contain", "entry", "exit", "entry-crossing", "exit-crossing"]

/-- An end of a range. -/
inductive RangeEnd where
  | normal
  | distance (extent : Calc)
  | part (name : Text) (offset : Calc)

namespace RangeEnd

/-- Where a part of the way starts. -/
def partStart : Calc := .ofShare .nought

/-- Takes an end of a range, given the offset that is meant if there is none. -/
def take (usual : Calc) : Parser RangeEnd :=
  Parser.firstOf
    [do
      Parser.keyword "normal"
      pure .normal,
    do pure (.distance (← extent)),
    do
      let name ← Parser.word rangeNames
      pure (.part name (← Parser.withDefault usual extent))]

/-- The text of an end; the usual offset in a part of the way is not written. -/
def text (usual : Calc) : RangeEnd → Text
  | .normal => Text.of "normal"
  | .distance extent => extent.text
  | .part name offset => if offset == usual then name else name ++ ' ' :: offset.text

/-- The last end that is meant if there is only a first one. -/
def implied : RangeEnd → RangeEnd
  | .part name _ => .part name Coordinate.whole
  | _ => .normal

/-- The last end can be left out behind the first one. -/
def isImplied (first last : RangeEnd) : Bool :=
  match first, last with
  | .part name _, .part other offset => name == other && offset == Coordinate.whole
  | _, .normal => true
  | _, _ => false

/-- Takes both ends of a range.  A part of the way without an offset means its start for both. -/
def takeBoth : Parser Written := do
  let first ← take partStart
  let last ← Parser.withDefault first.implied (take partStart)
  let start := first.text partStart
  pure (.of (if first.isImplied last then start
    else start ++ ' ' :: last.text Coordinate.whole))

/-- Takes one end of a range. -/
def takeOne (usual : Calc) : Parser Written := do pure (.of ((← take usual).text usual))

end RangeEnd

/-- Properties of transitions and animations, given how names of properties are printed. -/
def motionFamilies (propertyName : Text → Text) : List Family :=
  let name : Parser Written := do pure (.of (propertyName (← Parser.ident)))
  let transitions := prefixed [webkit, moz, ms]
  let animations := prefixed [webkit, moz, opera]
  [transitions ["transition-property"] (commas name),
    transitions ["transition-duration", "transition-delay"] (commas aTime),
    transitions ["transition-timing-function"] (commas anEasing),
    transitions ["transition"] (commas (transition propertyName)),
    animations ["animation-name"] (commas animationName),
    animations ["animation-duration", "animation-delay"] (commas aTime),
    animations ["animation-timing-function"] (commas anEasing),
    animations ["animation-iteration-count"] (commas animationCount),
    animations ["animation-direction"] (commas (oneOf animationDirections)),
    animations ["animation-play-state"] (commas (oneOf animationStates)),
    animations ["animation-fill-mode"] (commas (oneOf animationFills)),
    family ["animation-composition"] (commas (oneOf ["replace", "add", "accumulate"])),
    family ["animation-timeline"] (commas timeline),
    family ["animation-range-start"] (commas (RangeEnd.takeOne RangeEnd.partStart)),
    family ["animation-range-end"] (commas (RangeEnd.takeOne Coordinate.whole)),
    family ["animation-range"] (commas RangeEnd.takeBoth),
    animations ["animation"] (commas animation)]

end StyledMarkup.Css.Property
