import StyledMarkup.Css.Property.Box

namespace StyledMarkup.Css.Property

/-!
# Flexible boxes and alignment

Growth and shrinkage of items, their direction, and how they are aligned.
-/

open Value

/-- Directions of flexible items. -/
def flexDirections : List String := ["row", "row-reverse", "column", "column-reverse"]

/-- Ways of wrapping flexible items. -/
def flexWraps : List String := ["nowrap", "wrap", "wrap-reverse"]

/-- Takes growth, shrinkage and basis of a flexible item. -/
def flex : Parser Written := do
  if ← Parser.succeeds (Parser.keyword "none") then pure (.word "none")
  else
    let factors : Parser (Sum (Floating × Floating) Written) := do
      let grow ← number
      pure (.inl (grow, ← Parser.withDefault Floating.one number))
    let basis : Parser (Sum (Floating × Floating) Written) := do pure (.inr (← offset))
    match ← Parser.inAnyOrder [factors, basis] with
    | [factors, basis] =>
        let (grow, shrink) :=
          match factors with
          | some (.inl factors) => factors
          | _ => (.one, .one)
        let noShare := Written.ofShare .nought
        let basis :=
          match basis with
          | some (.inr basis) => basis
          | _ => noShare
        let isAuto := basis == .word "auto"
        let isLength := basis.text = ['0']
        let isShare := basis == noShare
        if grow.isZero && shrink.isZero && isAuto then pure (.word "none")
        else
          let factors :=
            if ! grow.isOne || ! shrink.isOne || isLength || isShare then
              if ! shrink.isOne || isLength then [floatText grow, floatText shrink]
              else [floatText grow]
            else []
          pure (.of (Text.join [' '] (factors ++ if isShare then [] else [basis.text])))
    | _ => Parser.fail .invalidValue

/-- Takes direction and wrapping of flexible items. -/
def flexFlow : Parser Written :=
  anyOf (Text.of "row")
    [⟨oneOf flexDirections, .word "row"⟩, ⟨oneOf flexWraps, .word "nowrap"⟩]

/-! ## Alignment -/

/-- Takes the first or last baseline. -/
def baseline : Parser Written := do
  match ← Parser.optional (Parser.word ["first", "last"]) with
  | none => oneOf ["baseline"]
  | some word => do
      Parser.keyword "baseline"
      pure (if word = Text.of "first" then .word "baseline" else .word "last baseline")

/-- Takes a word with an optional one for content that does not fit. -/
def safely (choices : List String) : Parser Written := do
  let safety ← Parser.optional (Parser.word ["safe", "unsafe"])
  let word ← Parser.word choices
  pure (.of (Text.join [' '] (safety.toList ++ [word])))

/-- How free space is distributed. -/
def distributions : List String := ["space-between", "space-around", "space-evenly", "stretch"]

/-- Places of content. -/
def contentPlaces : List String := ["center", "start", "end", "flex-start", "flex-end"]

/-- Places of an item. -/
def selfPlaces : List String :=
  ["center", "start", "end", "self-start", "self-end", "flex-start", "flex-end"]

/-- Takes an alignment of content across lines. -/
def alignContent : Parser Written :=
  Parser.firstOf [oneOf ["normal"], baseline, oneOf distributions, safely contentPlaces]

/-- Takes an alignment of content along lines. -/
def justifyContent : Parser Written :=
  Parser.firstOf
    [oneOf ["normal"], oneOf distributions, safely (contentPlaces ++ ["left", "right"])]

/-- Takes both alignments of content. -/
def placeContent : Parser Written := do
  let align ← alignContent
  let isBaseline := align == .word "baseline" || align == .word "last baseline"
  let copied := if isBaseline then Written.word "start" else align
  let justify ← Parser.withDefault copied justifyContent
  pure (.of (pairText align justify))

/-- Takes an alignment of an item across lines, with some more words. -/
def alignItem (more : List String) : Parser Written :=
  Parser.firstOf [oneOf (more ++ ["normal", "stretch"]), baseline, safely selfPlaces]

/-- Takes an alignment of an item along lines, with some more words. -/
def justifyItem (more : List String) : Parser Written :=
  Parser.firstOf
    [oneOf (more ++ ["normal", "stretch"]), baseline, safely (selfPlaces ++ ["left", "right"])]

/-- Takes an alignment that is handed on to inner boxes. -/
def legacyAlignment : Parser Written := do
  let sides := ["left", "right", "center"]
  match ← Parser.optional (Parser.word sides) with
  | some side => do
      Parser.keyword "legacy"
      pure (.of (Text.of "legacy " ++ side))
  | none => do
      Parser.keyword "legacy"
      pure (.of (Text.of "legacy " ++ (← Parser.word sides)))

/-- Takes an alignment of items along lines. -/
def justifyItems : Parser Written := Parser.orElse legacyAlignment (justifyItem [])

/-- The second of two alignments need not be written.  Left to the layout, it never is; stretched,
it is left out behind a normal one only. -/
def isImplied (align justify : Written) : Bool :=
  justify == .word "auto" ||
    (if justify == .word "stretch" then align == .word "normal" else justify == align)

/-- Takes two alignments, of which the second one may be left out. -/
def twoAlignments (first second : Parser Written) : Parser Written := do
  let align ← first
  let justify ← Parser.withDefault align second
  pure (.of (if isImplied align justify then align.text else spaced [align, justify]))

/-- Takes a distance between items. -/
def gap : Parser Written := orWord ["normal"] anExtent

/-- Properties of flexible boxes and of alignment. -/
def flexFamilies : List Family :=
  let old := fun (names : List String) (choices : List String) =>
    onlyPrefixed [webkit, moz] names (oneOf choices)
  [prefixed [webkit, ms] ["flex-direction"] (oneOf flexDirections),
    prefixed [webkit, ms] ["flex-wrap"] (oneOf flexWraps),
    prefixed [webkit, ms] ["flex-flow"] flexFlow,
    prefixed [webkit] ["flex-grow", "flex-shrink"] aNumber,
    prefixed [webkit] ["flex-basis"] offset,
    prefixed [webkit, ms] ["flex"] flex,
    prefixed [webkit] ["order"] anInteger,
    prefixed [webkit] ["align-content"] alignContent,
    prefixed [webkit] ["justify-content"] justifyContent,
    family ["place-content"] placeContent,
    prefixed [webkit] ["align-self"] (alignItem ["auto"]),
    family ["justify-self"] (justifyItem ["auto"]),
    family ["place-self"] (twoAlignments (alignItem ["auto"]) (justifyItem ["auto"])),
    prefixed [webkit] ["align-items"] (alignItem []),
    family ["justify-items"] justifyItems,
    family ["place-items"] (twoAlignments (alignItem []) justifyItems),
    family ["row-gap", "column-gap"] gap,
    family ["gap"] (pair gap),
    old ["box-orient"] ["horizontal", "vertical", "inline-axis", "block-axis"],
    old ["box-direction"] ["normal", "reverse"],
    onlyPrefixed [webkit, moz] ["box-ordinal-group"] anInteger,
    old ["box-align"] ["start", "end", "center", "baseline", "stretch"],
    onlyPrefixed [webkit, moz] ["box-flex"] aNumber,
    onlyPrefixed [webkit] ["box-flex-group"] anInteger,
    old ["box-pack"] ["start", "end", "center", "justify"],
    old ["box-lines"] ["single", "multiple"],
    onlyPrefixed [ms] ["flex-pack"] (oneOf ["start", "end", "center", "justify", "distribute"]),
    onlyPrefixed [ms] ["flex-order"] anInteger,
    onlyPrefixed [ms] ["flex-align"] (oneOf ["start", "end", "center", "baseline", "stretch"]),
    onlyPrefixed [ms] ["flex-item-align"]
      (oneOf ["auto", "start", "end", "center", "baseline", "stretch"]),
    onlyPrefixed [ms] ["flex-line-pack"]
      (oneOf ["start", "end", "center", "justify", "distribute", "stretch"]),
    onlyPrefixed [ms] ["flex-positive", "flex-negative"] aNumber,
    onlyPrefixed [ms] ["flex-preferred-size"] offset]

end StyledMarkup.Css.Property
