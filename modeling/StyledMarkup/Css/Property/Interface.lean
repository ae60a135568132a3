import StyledMarkup.Css.Property.Transform

namespace StyledMarkup.Css.Property

/-!
# Controls, lists and drawings

Cursors and controls, markers of lists, and the strokes and fills of drawings.
-/

open Value

/-- Cursors with a name. -/
def cursorWords : List String :=
  ["auto", "default", "none", "context-menu", "help", "pointer", "progress", "wait", "cell",
    "crosshair", "text", "vertical-text", "alias", "copy", "move", "no-drop", "not-allowed",
    "grab", "grabbing", "e-resize", "n-resize", "ne-resize", "nw-resize", "s-resize",
    "se-resize", "sw-resize", "w-resize", "ew-resize", "ns-resize", "nesw-resize",
    "nwse-resize", "col-resize", "row-resize", "all-scroll", "zoom-in", "zoom-out"]

/-- Takes an image of a cursor, with the point that it shows, and a comma. -/
def cursorImage : Parser Text := do
  let address ← address
  let point ← Parser.optional do
    let x ← number
    pure [floatText x, floatText (← number)]
  Parser.comma
  pure (Text.join [' '] (addressText address :: point.getD []))

/-- Takes a cursor. -/
def cursor : Parser Written := do
  let images ← Parser.many cursorImage
  let word ← Parser.word cursorWords
  pure (.of (Text.join [',', ' '] (images ++ [word])))

/-- Takes a color that may be left to the browser. -/
def colorOrAuto : Parser Written := orWord ["auto"] aColor

/-- Shapes of the mark where text is inserted. -/
def caretShapes : List String := ["auto", "bar", "block", "underscore"]

/-- Takes an appearance of a control. -/
def appearance : Parser Written := do
  let known := ["none", "auto", "textfield", "menulist-button", "button", "checkbox", "listbox",
    "menulist", "meter", "progress-bar", "push-button", "radio", "searchfield",
    "slider-horizontal", "square-button", "textarea"]
  let name ← Parser.ident
  pure (.of (if isOneOf known name then Text.lower name else name))

/-! ## Lists -/

/-- Styles of counters with a name. -/
def counterStyles : List String :=
  ["decimal", "decimal-leading-zero", "arabic-indic", "armenian", "upper-armenian",
    "lower-armenian", "bengali", "cambodian", "khmer", "cjk-decimal", "devanagari", "georgian",
    "gujarati", "gurmukhi", "hebrew", "kannada", "lao", "malayalam", "mongolian", "myanmar",
    "oriya", "persian", "lower-roman", "upper-roman", "tamil", "telugu", "thai", "tibetan",
    "lower-alpha", "lower-latin", "upper-alpha", "upper-latin", "lower-greek", "hiragana",
    "hiragana-iroha", "katakana", "katakana-iroha", "disc", "circle", "square",
    "disclosure-open", "disclosure-closed", "cjk-earthly-branch", "cjk-heavenly-stem",
    "japanese-informal", "japanese-formal", "korean-hangul-formal", "korean-hanja-informal",
    "korean-hanja-formal", "simp-chinese-informal", "simp-chinese-formal",
    "trad-chinese-informal", "trad-chinese-formal", "ethiopic-numeric"]

/-- Takes symbols of a counter. -/
def symbols : Parser Written := do
  let text ← Parser.function ["symbols"] do
    let kind ← Parser.optional
      (Parser.word ["cyclic", "numeric", "alphabetic", "symbolic", "fixed"])
    let symbols ← Parser.many (Parser.orElse aString anImage)
    let kinds := kind.toList.filter fun kind => kind ≠ Text.of "symbolic"
    pure (Text.join [' '] (kinds ++ symbols.map Written.text))
  pure (.of (Text.of "symbols(" ++ text ++ [')']))

/-- Takes a marker of a list. -/
def listMarker : Parser Written :=
  Parser.firstOf [oneOf ["none"], oneOf counterStyles, symbols, aName, aString]

/-- Where the marker of a list stands. -/
def listPositions : List String := ["inside", "outside"]

/-- Takes position and kind of the marker of a list.  A word is a kind rather than an image, but
the image is written first. -/
def listStyle : Parser Written := do
  match ← Parser.inAnyOrder [oneOf listPositions, listMarker, anImage] with
  | [position, marker, image] =>
      let usual := [Written.word "outside", noImage, .word "disc"]
      let values := List.zipWith Option.getD [position, image, marker] usual
      let shown := ((values.zip usual).filter fun (value, usual) => value != usual).map Prod.fst
      pure (.of (if shown.isEmpty then Text.of "outside" else spaced shown))
  | _ => Parser.fail .invalidValue

/-! ## Drawings -/

/-- Takes a paint of a drawing. -/
def paint : Parser Written :=
  let fallback : Parser Written := orWord ["none"] aColor
  Parser.firstOf
    [do
      let address ← anAddress
      match ← Parser.optional fallback with
      | some color => pure (.of (spaced [address, color]))
      | none => pure address,
    aColor, oneOf ["context-fill", "context-stroke", "none"]]

/-- The text of an extent; pixels need no unit. -/
def pixelText (extent : Calc) : Text :=
  match extent with
  | .measure quantity => if quantity.unit = Text.of "px" then floatText quantity.value else extent.text
  | _ => extent.text

/-- Takes dashes behind a first one, with or without commas between them. -/
def moreDashes : Nat → Parser (List Text)
  | 0 => pure []
  | fuel + 1 => do
      let hasComma ← Parser.succeeds Parser.comma
      match ← Parser.optional extent with
      | some dash => do pure (pixelText dash :: (← moreDashes fuel))
      | none => if hasComma then Parser.fail .invalidValue else pure []

/-- Takes dashes of a stroke. -/
def dashes : Parser Written :=
  Parser.orElse (oneOf ["none"]) do
    let first ← extent
    let rest ← moreDashes ((← Parser.remaining) + 1)
    pure (.of (Text.join [' '] (pixelText first :: rest)))

/-- The schemes that a page is designed for. -/
structure Schemes where
  light : Bool
  dark : Bool
  only : Bool

/-- The schemes with the one of a name. -/
def Schemes.add? (schemes : Schemes) (name : Text) : Option Schemes :=
  if isOneOf ["only"] name then (if schemes.only then none else some { schemes with only := true })
  else if isOneOf ["light"] name then some { schemes with light := true }
  else if isOneOf ["dark"] name then some { schemes with dark := true }
  else none

/-- Takes more schemes, at most `fuel` of them; behind `only` there are no more. -/
def moreSchemes : Nat → Schemes → Parser Schemes
  | 0, schemes => pure schemes
  | fuel + 1, schemes => do
      match ← Parser.optional Parser.ident with
      | none => pure schemes
      | some name =>
          match schemes.add? name with
          | some more => if isOneOf ["only"] name then pure more else moreSchemes fuel more
          | none => Parser.fail .invalidValue

/-- Takes the schemes that a page is designed for; there is a blank in front of the last word. -/
def colorScheme : Parser Written := do
  let name ← Parser.ident
  if isOneOf ["normal"] name then pure (.word "normal")
  else
    match Schemes.add? ⟨false, false, false⟩ name with
    | none => Parser.fail .invalidValue
    | some first => do
        let schemes ← moreSchemes ((← Parser.remaining) + 1) first
        let shown :=
          (if schemes.light then ["light"] else []) ++ (if schemes.dark then ["dark"] else [])
        let only := if schemes.only then Text.of " only" else []
        pure (.of (Text.join [' '] (shown.map Text.of) ++ only))

/-- Takes names that an author has chosen. -/
def authorNames : Parser Written :=
  Parser.orElse (oneOf ["none"]) do
    let names ← Parser.many aName
    if names.isEmpty then Parser.fail .invalidValue
    pure (.of (spaced names))

/-- Classes of other rules, which have no grammar outside of a module of styles. -/
def composed : Family := family ["composes"] (Parser.fail .invalidValue)

/-- Properties of controls, lists and drawings. -/
def interfaceFamilies : List Family :=
  [family ["color"] aColor,
    words ["resize"] ["none", "both", "horizontal", "vertical", "block", "inline"],
    family ["cursor"] cursor,
    family ["caret-color", "accent-color"] colorOrAuto,
    words ["caret-shape"] caretShapes,
    family ["caret"]
      (anyOf (Text.of "auto") [⟨colorOrAuto, .word "auto"⟩, ⟨oneOf caretShapes, .word "auto"⟩]),
    prefixed [webkit, moz, ms] ["user-select"] (oneOf ["auto", "text", "none", "contain", "all"]),
    prefixed [webkit, moz, ms] ["appearance"] appearance,
    family ["list-style-type"] listMarker,
    family ["list-style-image"] anImage,
    words ["list-style-position"] listPositions,
    family ["list-style"] listStyle,
    words ["marker-side"] ["match-self", "match-parent"],
    family ["fill", "stroke"] paint,
    words ["fill-rule", "clip-rule"] ["nonzero", "evenodd"],
    family ["stroke-width", "stroke-dashoffset"] anExtent,
    words ["stroke-linecap"] ["butt", "round", "square"],
    words ["stroke-linejoin"] ["miter", "miter-clip", "round", "bevel", "arcs"],
    family ["stroke-miterlimit"] aNumber,
    family ["stroke-dasharray"] dashes,
    family ["marker-start", "marker-mid", "marker-end", "marker"]
      (Parser.orElse (oneOf ["none"]) anAddress),
    words ["color-interpolation", "color-interpolation-filters"] ["auto", "srgb", "linearrgb"],
    words ["color-rendering", "image-rendering"] ["auto", "optimize-speed", "optimize-quality"],
    words ["shape-rendering"] ["auto", "optimizespeed", "crispedges", "geometricprecision"],
    words ["text-rendering"] ["auto", "optimizespeed", "optimizelegibility", "geometricprecision"],
    family ["view-transition-name"] (orWord ["none", "auto"] aName),
    family ["view-transition-class"] authorNames,
    family ["view-transition-group"] (orWord ["normal", "contain", "nearest"] aName),
    family ["color-scheme"] colorScheme,
    composed,
    prefixed [webkit] ["print-color-adjust"] (oneOf ["economy", "exact"])]

end StyledMarkup.Css.Property
