import StyledMarkup.Css.Property.Basic

namespace StyledMarkup.Css.Property

/-!
# Boxes

Sizes, distances, positions and display of boxes.
-/

open Value

/-- Takes a distance that may be left to the layout. -/
def offset : Parser Written := orWord ["auto"] anExtent

/-- Takes a size, given the word for a size without a limit. -/
def size (unlimited : String) : Parser Written :=
  Parser.firstOf
    [oneOf [unlimited, "min-content", "-webkit-min-content", "-moz-min-content", "max-content",
        "-webkit-max-content", "-moz-max-content", "fit-content", "-webkit-fit-content",
        "-moz-fit-content", "stretch", "-webkit-fill-available", "-moz-available", "contain"],
      do
        let limit ← Parser.function ["fit-content"] extent
        pure (.of (Text.of "fit-content(" ++ limit.text ++ [')'])),
      anExtent]

/-- Takes a ratio of the sides of a box, which may depend on its content. -/
def aspectRatio : Parser Written := do
  let before ← Parser.succeeds (Parser.keyword "auto")
  let ratio ← Parser.optional ratio
  let after ← if before then pure false else Parser.succeeds (Parser.keyword "auto")
  let auto := if before || after then [Text.of "auto"] else []
  if auto.isEmpty && ratio.isNone then Parser.fail .invalidValue
  pure (.of (Text.join [' '] (auto ++ ratio.toList)))

/-- How a box takes part in the layout around it. -/
def outsideWords : List String := ["block", "inline", "run-in"]

/-- How a box lays out its content. -/
def insideWords : List String :=
  ["flow", "flow-root", "table", "flex", "-webkit-flex", "-ms-flexbox", "-webkit-box", "-moz-box",
    "grid", "ruby"]

/-- Words for both at once, with how the content is laid out. -/
def inlineWords : List (String × String) :=
  [("inline-block", "flow-root"), ("inline-table", "table"), ("inline-flex", "flex"),
    ("-webkit-inline-flex", "-webkit-flex"), ("-ms-inline-flexbox", "-ms-flexbox"),
    ("-webkit-inline-box", "-webkit-box"), ("-moz-inline-box", "-moz-box"),
    ("inline-grid", "grid")]

/-- The text of an outer and an inner display. -/
def displayText (outside inside : Text) (isItem : Bool) : Text :=
  let short := inlineWords.find? fun (_, other) =>
    outside == Text.of "inline" && inside == Text.of other && ! isItem
  match short with
  | some (word, _) => Text.of word
  | none =>
      let isFlow := inside = Text.of "flow"
      let usual := if inside = Text.of "ruby" then Text.of "inline" else Text.of "block"
      let outsideTexts := if outside ≠ usual ∨ (isFlow ∧ ! isItem) then [outside] else []
      let insideTexts := if isFlow then [] else [inside]
      let itemTexts := if isItem then [Text.of "list-item"] else []
      Text.join [' '] (outsideTexts ++ insideTexts ++ itemTexts)

/-- Takes an outer and an inner display; between them, the word for items of lists may be given
more than once. -/
def displayPair : Parser Written := do
  let items : Parser Bool := do pure ! (← Parser.many (Parser.keyword "list-item")).isEmpty
  let followed := fun (words : List String) => do
    let word ← Parser.word words
    pure (word, ← items)
  let isItem ← items
  match ← Parser.inAnyOrder [followed outsideWords, followed insideWords] with
  | [outside, inside] =>
      let isItem := isItem || (outside.map Prod.snd).getD false || (inside.map Prod.snd).getD false
      if ! isItem && outside.isNone && inside.isNone then oneOf (inlineWords.map Prod.fst)
      else
        let inside := (inside.map Prod.fst).getD (Text.of "flow")
        let usual := if inside = Text.of "ruby" then Text.of "inline" else Text.of "block"
        let outside := (outside.map Prod.fst).getD usual
        if isItem && inside ≠ Text.of "flow" && inside ≠ Text.of "flow-root" then
          Parser.fail .invalidValue
        pure (.of (displayText outside inside isItem))
  | _ => Parser.fail .invalidValue

/-- Takes a display. -/
def display : Parser Written :=
  Parser.orElse displayPair
    (oneOf ["none", "contents", "table-row-group", "table-header-group", "table-footer-group",
      "table-row", "table-cell", "table-column-group", "table-column", "table-caption",
      "ruby-base", "ruby-text", "ruby-base-container", "ruby-text-container"])

/-- Takes a name of a container. -/
def containerNameWord : Parser Written := do
  let name ← ownName
  if isOneOf ["none", "and", "not", "or"] name then Parser.fail .invalidValue
  pure (.of (identText name))

/-- Takes the names of a container. -/
def containerNames : Parser Written :=
  Parser.orElse (oneOf ["none"]) do
    let names ← Parser.many containerNameWord
    if names.isEmpty then Parser.fail .invalidValue
    pure (.of (spaced names))

/-- What is known about a container. -/
def containerTypes : List String := ["normal", "inline-size", "size", "scroll-state"]

/-- Takes the names of a container and what is known about it. -/
def container : Parser Written := do
  let names ← containerNames
  let kind ←
    if ← Parser.succeeds Parser.slash then Parser.word containerTypes
    else pure (Text.of "normal")
  pure (if kind = Text.of "normal" then names else .of (names.text ++ Text.of " / " ++ kind))

/-- Words for what happens to content that does not fit. -/
def overflowWords : List String := ["visible", "hidden", "clip", "scroll", "auto"]

/-- The four sides of a box behind a name. -/
def withSides (head : String) : List String :=
  ["top", "right", "bottom", "left", "block-start", "block-end", "inline-start", "inline-end"].map
    fun side => head ++ "-" ++ side

/-- Properties of boxes. -/
def boxFamilies : List Family :=
  [family ["width", "height", "min-width", "min-height", "block-size", "inline-size",
      "min-block-size", "min-inline-size"] (size "auto"),
    family ["max-width", "max-height", "max-block-size", "max-inline-size"] (size "none"),
    prefixed [webkit, moz] ["box-sizing"] (oneOf ["content-box", "border-box"]),
    family ["aspect-ratio"] aspectRatio,
    family ["overflow"] (pair (oneOf overflowWords)),
    words ["overflow-x", "overflow-y"] overflowWords,
    prefixed [opera] ["text-overflow"] (oneOf ["clip", "ellipsis"]),
    words ["position"] ["static", "relative", "absolute", "fixed", "sticky", "-webkit-sticky"],
    family (["top", "right", "bottom", "left", "inset-block-start", "inset-block-end",
      "inset-inline-start", "inset-inline-end"] ++
      ["margin", "padding", "scroll-margin", "scroll-padding"].flatMap withSides) offset,
    family ["inset", "margin", "padding", "scroll-margin", "scroll-padding"] (sides offset),
    family (["inset", "margin", "padding", "scroll-margin", "scroll-padding"].flatMap fun name =>
      [name ++ "-block", name ++ "-inline"]) (pair offset),
    family ["display"] display,
    words ["visibility"] ["visible", "hidden", "collapse"],
    family ["z-index"] (orWord ["auto"] anInteger),
    words ["container-type"] containerTypes,
    family ["container-name"] containerNames,
    family ["container"] container]

end StyledMarkup.Css.Property
