import StyledMarkup.Css.Property.Box

namespace StyledMarkup.Css.Property

/-!
# Fonts

Names of fonts, their size, weight, style and width, and the height of lines.
-/

open Value

/-- Names that stand for a kind of font, and words that every property knows. -/
def genericFonts : List String :=
  ["serif", "sans-serif", "cursive", "fantasy", "monospace", "system-ui", "emoji", "math",
    "fangsong", "ui-serif", "ui-sans-serif", "ui-monospace", "ui-rounded"] ++ wideWords

/-- The name of a font, in quotes if that is shorter or needed. -/
def fontName (name : Text) : Text :=
  let words := Text.join [' '] ((Text.splitOn ' ' name).map identText)
  if name.isEmpty || isOneOf genericFonts name then stringText name
  else if Text.occursIn [' ', ' '] name then stringText name
  else if words.length < name.length + 2 then words
  else stringText name

/-- Takes the name of a font: a string, or identifiers with blanks between them. -/
def ownFontName : Parser Written :=
  Parser.orElse (do pure (.of (fontName (← Parser.string)))) do
    let first ← Parser.ident
    let more ← Parser.many Parser.ident
    pure (.of (fontName (Text.join [' '] (first :: more))))

/-- Takes one font: the name of a kind of font, or a name of its own. -/
def fontFamily : Parser Written := Parser.orElse (oneOf genericFonts) ownFontName

/-- Takes a weight of a font. -/
def fontWeight : Parser Written := Parser.orElse aNumber (oneOf ["normal", "bold", "bolder", "lighter"])

/-- Takes a size of a font. -/
def fontSize : Parser Written :=
  Parser.orElse anExtent
    (oneOf ["xx-small", "x-small", "small", "medium", "large", "x-large", "xx-large",
      "xxx-large", "smaller", "larger"])

/-- Widths of fonts. -/
def fontWidths : List String :=
  ["normal", "ultra-condensed", "extra-condensed", "condensed", "semi-condensed", "semi-expanded",
    "expanded", "extra-expanded", "ultra-expanded"]

/-- Takes a width of a font. -/
def fontWidth : Parser Written := Parser.orElse (oneOf fontWidths) aShare

/-- Takes an angle of oblique letters; the usual one is not written. -/
def obliqueAngle : Parser Text := do
  let angle ← angle
  pure (if angle.degrees.sameValue (.ofNat 14) then [] else ' ' :: angle.fullText)

/-- Takes a style of a font. -/
def fontStyle : Parser Written := do
  let word ← Parser.word ["normal", "italic", "oblique"]
  if word = Text.of "oblique" then
    pure (.of (word ++ (← Parser.withDefault [] obliqueAngle)))
  else pure (.of word)

/-- Takes a height of lines. -/
def lineHeight : Parser Written := Parser.firstOf [oneOf ["normal"], aNumber, anExtent]

/-- Takes the parts in front of the size of a font, at most `fuel` of them, and counts them. -/
def fontParts (parsers : List (Parser Written)) :
    Nat → List (Option Written) → Nat → Parser (List (Option Written) × Nat)
  | 0, found, count => pure (found, count)
  | fuel + 1, found, count => do
      if ← Parser.succeeds (Parser.keyword "normal") then
        fontParts parsers fuel found (count + 1)
      else
        match ← Parser.firstFree parsers found 0 with
        | some (value, place) =>
            fontParts parsers fuel (found.set place (some value)) (count + 1)
        | none => pure (found, count)

/-- Takes a whole font. -/
def font : Parser Written := do
  let widths : Parser Written := oneOf fontWidths
  let parsers := [fontStyle, fontWeight, oneOf ["normal", "small-caps"], widths]
  let (found, count) ← fontParts parsers ((← Parser.remaining) + 1) (parsers.map fun _ => none) 0
  let size ← fontSize
  if 4 < count then Parser.fail .invalidValue
  let height ←
    if ← Parser.succeeds Parser.slash then lineHeight else pure (.word "normal")
  let families ← Parser.commaList fontFamily
  let normal : Written := .word "normal"
  let shown := fun (value : Option Written) =>
    match value with
    | some value => if value == normal then [] else [value.text]
    | none => []
  match found with
  | [style, weight, caps, width] =>
      let heightText := if height == normal then [] else Text.of " / " ++ height.text
      pure (.of (Text.join [' ']
        (shown style ++ shown caps ++ shown weight ++ shown width ++
          [size.text ++ heightText, listed families])))
  | _ => Parser.fail .invalidValue

/-- Properties of fonts. -/
def fontFamilies : List Family :=
  [family ["font-weight"] fontWeight,
    family ["font-size"] fontSize,
    family ["font-stretch"] fontWidth,
    family ["font-family"] (commas fontFamily),
    family ["font-style"] fontStyle,
    words ["font-variant-caps"] ["normal", "small-caps", "all-small-caps", "petite-caps",
      "all-petite-caps", "unicase", "titling-caps"],
    family ["line-height"] lineHeight,
    family ["font"] font,
    family ["vertical-align"]
      (Parser.orElse (oneOf ["baseline", "sub", "super", "top", "text-top", "middle", "bottom",
        "text-bottom"]) anExtent),
    family ["font-palette"] (do pure (.of (identText (← dashedName))))]

end StyledMarkup.Css.Property
