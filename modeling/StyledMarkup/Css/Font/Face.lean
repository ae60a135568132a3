import StyledMarkup.Css.Declaration
import StyledMarkup.Css.Font.CodeRange

namespace StyledMarkup.Css.Font

/-!
# Fonts of a stylesheet

Descriptors of fonts that a stylesheet brings along, palettes of colors for
fonts, and names for alternate glyphs.  Faulty descriptors are left out.
-/

open Value

/-! ## Where a font comes from -/

/-- Formats of fonts with names of their own. -/
def formats : List String :=
  ["woff", "woff2", "truetype", "opentype", "embedded-opentype", "collection", "svg"]

/-- What a font can do. -/
def technologies : List String :=
  ["features-opentype", "features-aat", "features-graphite", "color-colrv0", "color-colrv1",
    "color-svg", "color-sbix", "color-cbdt", "variations", "palettes", "incremental"]

/-- Takes the format of a font, which is printed as a string. -/
def takeFormat : Parser Text := do
  let name ← Parser.orElse Parser.ident Parser.string
  pure (stringText (if isOneOf formats name then Text.lower name else name))

/-- Something in the brackets of a function. -/
def inside (name : String) (text : Text) : Text := Text.of name ++ '(' :: text ++ [')']

/-- Takes a place where a font comes from. -/
def takeSource : Parser Written :=
  Parser.orElse
    (do
      let address ← address
      let format ← Parser.functionIfAny ["format"] takeFormat
      let abilities ← Parser.functionIfAny ["tech"] (commas (oneOf technologies))
      let formats := (format.map (inside "format")).toList
      let abilities := (abilities.map fun value => inside "tech" value.text).toList
      pure (.of (Text.join [' '] (addressText address :: formats ++ abilities))))
    (do pure (.of (inside "local" (← Parser.function ["local"] Property.fontFamily).text)))

/-! ## Descriptors -/

/-- Takes one or two angles of oblique letters; the usual ones are not written. -/
def takeObliqueAngles : Parser Text := do
  let first ← angle
  let second ← Parser.withDefault first angle
  let isUsual := fun (angle : Quantity) => angle.degrees.sameValue (.ofNat 14)
  if isUsual first && isUsual second then pure []
  else pure (' ' :: pairText (.ofQuantity first) (.ofQuantity second))

/-- Takes a style of a font with a range of angles. -/
def takeStyle : Parser Written := do
  let word ← Parser.word ["normal", "italic", "oblique"]
  if word = Text.of "oblique" then
    pure (.of (word ++ (← Parser.withDefault [] takeObliqueAngles)))
  else pure (.of word)

/-- The grammar of a descriptor of a font. -/
def descriptor? (name : Text) : Option (Parser Written) :=
  let choices : List (String × Parser Written) :=
    [("src", commas takeSource),
      ("font-family", Property.fontFamily),
      ("font-weight", pair Property.fontWeight),
      ("font-style", takeStyle),
      ("font-stretch", pair Property.fontWidth),
      ("unicode-range", commas do pure (.of (← CodeRange.take).text))]
  (choices.find? fun (other, _) => isOneOf [other] name).map Prod.snd

/-- Takes a value that is printed token by token, under the name as it was written. -/
def takeOther (name : Text) : Parser Declaration := do
  let isEnd := fun (token : Token) => token == .delim '!' || token == .semicolon
  let rows ← Parser.before isEnd Declaration.takeTokens
  Parser.finished
  pure ⟨name, rows, false⟩

/-- Takes a value of a grammar to its end, or a value that is printed token by token. -/
def takeEither (name : Text) (grammar : Parser Written) : Parser Declaration := fun input =>
  match Parser.onInput input grammar with
  | .ok value => .ok (⟨Text.lower name, (.one value.text), false⟩, { input with components := [] })
  | .error _ => takeOther name input

/-- Takes a descriptor of a font after its name. -/
def takeDescriptor (name : Text) : Parser Declaration :=
  Declaration.takeWith
    (match descriptor? name with
      | some grammar => takeEither name grammar
      | none => takeOther name)

/-- Takes the descriptors of a font. -/
def takeFace : Parser (List Declaration) := Declaration.takeTolerantly takeDescriptor

/-! ## Palettes -/

/-- Takes a whole number that is not negative, of which sixteen bits are kept. -/
def takeIndex : Parser Text := do
  let index ← integer
  if index < 0 then Parser.fail .invalidValue else pure (Text.ofNat (index.toNat % 65536))

/-- Takes the palette that is the base of another one. -/
def takeBase : Parser Written :=
  Parser.orElse (do pure (.of (← takeIndex))) (oneOf ["light", "dark"])

/-- Takes a color for an entry of a palette. -/
def takeOverride : Parser Written := do
  let index ← takeIndex
  match ← Color.take with
  | .current => Parser.fail .invalidValue
  | color => pure (.of (index ++ ' ' :: color.print))

/-- Takes a grammar, which may end before the value does. -/
def takeStart (name : Text) (grammar : Parser Written) : Parser Declaration := fun input =>
  match grammar input with
  | .ok (value, rest) => .ok (⟨Text.lower name, (.one value.text), false⟩, rest)
  | .error _ => takeOther name input

/-- Takes a descriptor of a palette after its name. -/
def takePaletteDescriptor (name : Text) : Parser Declaration :=
  Declaration.takeWith do
    if isOneOf ["font-family"] name then
      match ← Parser.optional (oneOf Property.genericFonts) with
      | some _ => Parser.fail .invalidValue
      | none => takeStart name Property.ownFontName
    else if isOneOf ["base-palette"] name then takeStart name takeBase
    else if isOneOf ["override-colors"] name then takeStart name (commas takeOverride)
    else Parser.fail .invalidValue

/-- Takes the descriptors of a palette. -/
def takePalette : Parser (List Declaration) := Declaration.takeTolerantly takePaletteDescriptor

/-! ## Alternate glyphs -/

/-- Kinds of alternate glyphs. -/
def alternateKinds : List String :=
  ["stylistic", "historical-forms", "styleset", "character-variant", "swash", "ornaments",
    "annotation"]

/-- Takes the numbers of the glyphs behind a name. -/
def takeGlyphs (name : Text) : Parser (Text × Text) := do
  let numbers ← Parser.before isSemicolon do
    Parser.token .colon
    let numbers ← Parser.many anInteger
    if numbers.isEmpty then Parser.fail .invalidValue
    pure (spaced numbers)
  let _ ← Parser.optional (Parser.token .semicolon)
  pure (identText name, numbers)

/-- Adds a pair, whose value replaces the one of an earlier pair with the same name. -/
def record {α : Type} (name : Text) (value : α) : List (Text × α) → List (Text × α)
  | [] => [(name, value)]
  | (other, old) :: rest =>
      if other = name then (name, value) :: rest else (other, old) :: record name value rest

/-- Takes the sets of alternate glyphs of a font, at most `fuel` of them. -/
def takeAlternates : Nat → Parser (List (Text × List (Text × Text)))
  | 0 => pure []
  | fuel + 1 => do
      Declaration.skipSeparators
      match ← Parser.optional Parser.next with
      | none => pure []
      | some component =>
          match component.token with
          | .atKeyword name => do
              if ! isOneOf alternateKinds name then Parser.fail (.unknownRule name)
              Parser.before endsHead Parser.finished
              match ← Parser.optional (Parser.block .openBrace) with
              | none => do
                  let _ ← Parser.optional Parser.next
                  Parser.fail (.unexpectedToken .semicolon)
              | some (content, closing) => do
                  let glyphs ← Parser.onContent content closing
                    (Declaration.takeStrictly takeGlyphs)
                  let set := glyphs.foldl (fun set (name, numbers) => record name numbers set) []
                  pure ((Text.lower name, set) :: (← takeAlternates fuel))
          | .ident name => do
              Parser.before isSemicolon (Parser.token .colon)
              Parser.fail (.unexpectedToken (.ident name))
          | token => Parser.failAt component.start (.unexpectedToken token)

/-- Takes all sets of alternate glyphs of a font. -/
def takeAlternateSets : Parser (List AlternateSet) := do
  let sets ← takeAlternates ((← Parser.remaining) + 1)
  let sets := sets.foldl (fun all (kind, set) => record kind set all) []
  pure (sets.map fun (kind, set) => ⟨kind, set⟩)

/-- Takes the names of the fonts that have alternate glyphs. -/
def takeFontNames : Parser Text := do
  pure (← commas Property.ownFontName).text

end StyledMarkup.Css.Font
