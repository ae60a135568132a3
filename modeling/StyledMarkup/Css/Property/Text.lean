import StyledMarkup.Css.Property.Font

namespace StyledMarkup.Css.Property

/-!
# Text

How text is broken into lines, aligned, decorated and emphasised.
-/

open Value

/-- Changes of the width of letters, in the order in which they are written. -/
def widthChanges : List String := ["full-width", "full-size-kana"]

/-- Takes a change of the case of letters, and of their width; no change at all ends the value. -/
def textTransform : Parser Written := do
  let widths := Parser.many (Parser.word widthChanges)
  let before ← widths
  match ← Parser.optional (Parser.word ["none", "uppercase", "lowercase", "capitalize"]) with
  | some letters =>
      if letters = Text.of "none" then pure (.word "none")
      else do
        let found := before ++ (← widths)
        let changes := (widthChanges.map Text.of).filter found.contains
        pure (.of (Text.join [' '] (letters :: changes)))
  | none =>
      let changes := (widthChanges.map Text.of).filter before.contains
      pure (.of (if changes.isEmpty then Text.of "none" else Text.join [' '] changes))

/-- Takes a distance between letters or words. -/
def spacing : Parser Written := orWord ["normal"] aLength

/-- Takes an indentation of lines. -/
def textIndent : Parser Written := do
  match ← Parser.inAnyOrder [anExtent, oneOf ["hanging"], oneOf ["each-line"]] with
  | [some extent, hanging, eachLine] =>
      pure (.of (spaced (extent :: hanging.toList ++ eachLine.toList)))
  | _ => Parser.fail .invalidValue

/-! ## Decoration -/

/-- Lines that decorate text, in the order in which they are written. -/
def decorationLines : List String :=
  ["underline", "overline", "line-through", "blink"]

/-- Takes the lines that decorate a text.  A mark for an error goes in front of lines, which then
are not written. -/
def decorationLine : Parser Written := do
  let nones ← Parser.many (Parser.keyword "none")
  let mark ← Parser.optional (Parser.word ["spelling-error", "grammar-error"])
  let found ← Parser.many (Parser.word decorationLines)
  if nones.isEmpty && mark.isNone && found.isEmpty then Parser.fail .invalidValue
  let lines := (decorationLines.map Text.of).filter found.contains
  match mark with
  | some mark => pure (.of mark)
  | none => pure (.of (if lines.isEmpty then Text.of "none" else Text.join [' '] lines))

/-- Takes a thickness of a line. -/
def decorationThickness : Parser Written := Parser.orElse (oneOf ["auto", "from-font"]) anExtent

/-- Styles of decorating lines. -/
def decorationStyles : List String := ["solid", "double", "dotted", "dashed", "wavy"]

/-- Takes decorating lines with their thickness, style and color. -/
def decoration : Parser Written := do
  let choices : List Part :=
    [⟨decorationLine, .word "none"⟩, ⟨decorationThickness, .word "auto"⟩,
      ⟨oneOf decorationStyles, .word "solid"⟩, ⟨aColor, .ofColor .current⟩]
  match ← parts choices with
  | line :: rest =>
      if line == .word "none" then pure line
      else pure (.of (spaced (line :: written (choices.drop 1) rest)))
  | [] => Parser.fail .invalidValue

/-! ## Emphasis -/

/-- Shapes of marks. -/
def emphasisShapes : List String := ["dot", "circle", "double-circle", "triangle", "sesame"]

/-- Takes marks for emphasis: a string, or a shape that may be open. -/
def emphasisStyle : Parser Written :=
  Parser.firstOf
    [oneOf ["none"], aString,
    do
      match ← Parser.inAnyOrder [Parser.word emphasisShapes, Parser.word ["filled", "open"]] with
      | [none, none] => Parser.fail .invalidValue
      | [shape, fill] =>
          let fill := fill.getD (Text.of "filled")
          let fills := if fill = Text.of "open" ∨ shape.isNone then [fill] else []
          pure (.of (Text.join [' '] (fills ++ shape.toList)))
      | _ => Parser.fail .invalidValue]

/-- Takes marks for emphasis and their color. -/
def emphasis : Parser Written := do
  let choices : List Part := [⟨emphasisStyle, .word "none"⟩, ⟨aColor, .ofColor .current⟩]
  match ← parts choices with
  | style :: rest =>
      if style == .word "none" then pure style
      else pure (.of (spaced (style :: written (choices.drop 1) rest)))
  | [] => Parser.fail .invalidValue

/-- Takes where marks for emphasis stand. -/
def emphasisPosition : Parser Written := do
  let sides := Parser.word ["left", "right"]
  let heights := Parser.word ["over", "under"]
  let (height, side) ←
    match ← Parser.optional sides with
    | some side => do pure (← heights, side)
    | none => do
        let height ← heights
        pure (height, ← Parser.withDefault (Text.of "right") sides)
  pure (.of (if side = Text.of "left" then height ++ Text.of " left" else height))

/-- Properties of text. -/
def textFamilies : List Family :=
  [family ["text-transform"] textTransform,
    words ["white-space"] ["normal", "pre", "nowrap", "pre-wrap", "break-spaces", "pre-line"],
    prefixed [moz, opera] ["tab-size"] (Parser.orElse aNumber aLength),
    words ["word-break"] ["normal", "keep-all", "break-all", "break-word"],
    words ["line-break"] ["auto", "loose", "normal", "strict", "anywhere"],
    prefixed [webkit, moz, ms] ["hyphens"] (oneOf ["none", "manual", "auto"]),
    words ["overflow-wrap", "word-wrap"] ["normal", "anywhere", "break-word"],
    words ["text-align"] ["start", "end", "left", "right", "center", "justify", "match-parent",
      "justify-all"],
    prefixed [moz] ["text-align-last"]
      (oneOf ["auto", "start", "end", "left", "right", "center", "justify", "match-parent"]),
    words ["text-justify"] ["auto", "none", "inter-word", "inter-character"],
    family ["word-spacing", "letter-spacing"] spacing,
    family ["text-indent"] textIndent,
    prefixed [webkit, moz] ["text-decoration-line"] decorationLine,
    prefixed [webkit, moz] ["text-decoration-style"] (oneOf decorationStyles),
    prefixed [webkit, moz] ["text-decoration-color"] aColor,
    family ["text-decoration-thickness"] decorationThickness,
    prefixed [webkit, moz] ["text-decoration"] decoration,
    prefixed [webkit] ["text-decoration-skip-ink"] (oneOf ["auto", "none", "all"]),
    prefixed [webkit] ["text-emphasis-style"] emphasisStyle,
    prefixed [webkit] ["text-emphasis-color"] aColor,
    prefixed [webkit] ["text-emphasis"] emphasis,
    prefixed [webkit] ["text-emphasis-position"] emphasisPosition,
    prefixed [webkit, moz, ms] ["text-size-adjust"] (orWord ["auto", "none"] aShare),
    words ["direction"] ["ltr", "rtl"],
    words ["unicode-bidi"] ["normal", "embed", "isolate", "bidi-override", "isolate-override",
      "plaintext"],
    prefixed [webkit] ["box-decoration-break"] (oneOf ["slice", "clone"])]

end StyledMarkup.Css.Property
