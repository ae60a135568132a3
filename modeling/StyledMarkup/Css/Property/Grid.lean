import StyledMarkup.Css.Property.Box

namespace StyledMarkup.Css.Property

/-!
# Grids

Tracks, named lines and named areas of grids, and the places of items in them.
-/

open Value

/-! ## Tracks -/

/-- Takes names of a line in square brackets. -/
def lineNames : Parser (List Text) := do
  let (content, closing) ← Parser.block .openBracket
  Parser.onContent content closing (Parser.many ownName)

/-- The text of names of a line. -/
def lineNamesText (names : List Text) : Text :=
  '[' :: Text.join [' '] (names.map identText) ++ [']']

/-- Takes a breadth of a track. -/
def breadth (flexible : Bool) : Parser Written :=
  let share : Parser Written := Parser.expect fun component =>
    match component.token with
    | .dimension numeral unit =>
        if flexible && isOneOf ["fr"] unit && ! numeral.value.negative then
          some (.of (dimensionText numeral.value (Text.of "fr")))
        else none
    | _ => none
  Parser.firstOf [anExtent, share, oneOf ["auto", "min-content", "max-content"]]

/-- Takes a size of a track. -/
def trackSize : Parser Written :=
  Parser.firstOf
    [breadth true,
      do
        let (least, most) ← Parser.function ["minmax"] do
          let least ← breadth false
          Parser.comma
          pure (least, ← breadth true)
        pure (.of (Text.of "minmax(" ++ listed [least, most] ++ [')'])),
      do
        let limit ← Parser.function ["fit-content"] extent
        pure (.of (Text.of "fit-content(" ++ limit.text ++ [')']))]

/-- The usual size of a track. -/
def usualTrack : Written := .word "auto"

/-- Tracks, each with the names of the line in front of it, and the names of the last line. -/
structure Tracks where
  tracks : List (List Text × Written)
  lastNames : List Text

namespace Tracks

/-- The text of tracks; names of a line follow the track in front of them without a blank. -/
def textAfter (isFirst : Bool) (last : List Text) : List (List Text × Written) → Text
  | [] => if last.isEmpty then [] else lineNamesText last
  | (names, track) :: rest =>
      (if names.isEmpty then (if isFirst then [] else [' '])
        else lineNamesText names ++ [' ']) ++
        track.text ++ textAfter false last rest

/-- The text of tracks. -/
def text (tracks : Tracks) : Text := textAfter true tracks.lastNames tracks.tracks

/-- Takes tracks of some kind. -/
def takeUpTo (track : Parser Written) : Nat → Parser Tracks
  | 0 => pure ⟨[], []⟩
  | fuel + 1 => do
      let names ← Parser.withDefault [] lineNames
      match ← Parser.optional track with
      | none => pure ⟨[], names⟩
      | some found => do
          let rest ← takeUpTo track fuel
          pure { rest with tracks := (names, found) :: rest.tracks }

/-- Takes tracks of some kind. -/
def takeOf (track : Parser Written) : Parser Tracks := do
  takeUpTo track ((← Parser.remaining) + 1)

/-- Takes repeated tracks. -/
def repetition : Parser Written := do
  let text ← Parser.function ["repeat"] do
    let count ← Parser.orElse anInteger (oneOf ["auto-fill", "auto-fit"])
    Parser.comma
    let tracks ← takeOf trackSize
    pure (count.text ++ ',' :: ' ' :: tracks.text)
  pure (.of (Text.of "repeat(" ++ text ++ [')']))

/-- Takes tracks, one at least. -/
def takeSome (track : Parser Written) : Parser Tracks := do
  let tracks ← takeOf track
  if tracks.tracks.isEmpty then Parser.fail .invalidValue
  pure tracks

/-- Takes tracks, which may be repeated. -/
def take : Parser Tracks := takeSome (Parser.orElse trackSize repetition)

end Tracks

/-- Takes tracks, or none at all. -/
def template : Parser (Option Tracks) :=
  Parser.orElse
    (do
      Parser.keyword "none"
      pure none)
    (do pure (some (← Tracks.take)))

/-- The text of tracks, or of none at all. -/
def templateText (tracks : Option Tracks) : Text := (tracks.map Tracks.text).getD (Text.of "none")

/-- Takes sizes of tracks that are added where they are needed. -/
def addedTracks : Parser (List Written) := do
  let tracks ← Parser.many trackSize
  pure (match tracks with
    | [only] => if only == usualTrack then [] else [only]
    | tracks => tracks)

/-- The text of sizes of added tracks. -/
def addedText (tracks : List Written) : Text :=
  if tracks.isEmpty then Text.of "auto" else spaced tracks

/-- Takes the direction in which items are placed. -/
def autoFlow : Parser Written := do
  let direction := Parser.word ["row", "column"]
  let isFirst ← Parser.succeeds (Parser.keyword "dense")
  let word ← direction
  let isDense ← if isFirst then pure true else Parser.succeeds (Parser.keyword "dense")
  pure (.of (if isDense then word ++ Text.of " dense" else word))

/-! ## Areas -/

/-- Characters of names in rows of areas. -/
def isAreaChar (c : Char) : Bool := isNameChar c

/-- The cells of a row; a cell without a name is given by a point. -/
def cells : Nat → Text → Option (List Text)
  | 0, _ => none
  | fuel + 1, row =>
      match row.dropWhile Lexer.isSpace with
      | [] => some []
      | first :: rest =>
          if first = '.' then
            (cells fuel (rest.dropWhile (· == '.'))).map fun more => ['.'] :: more
          else if isAreaChar first then
            let name := (first :: rest).takeWhile isAreaChar
            (cells fuel ((first :: rest).drop name.length)).map fun more => name :: more
          else none

/-- Takes a row of areas: its cells, of which there is one at least. -/
def areaRow : Parser (List Text) := do
  let row ← Parser.string
  match cells (row.length + 1) row with
  | some (first :: rest) => pure (first :: rest)
  | _ => Parser.fail .invalidValue

/-- The text of a cell: a point or the name of an area. -/
def cellText (cell : Text) : Text := if cell = ['.'] then cell else identText cell

/-- The text of a row of areas. -/
def rowText (cells : List Text) : Text := '"' :: Text.join [' '] (cells.map cellText) ++ ['"']

/-- All rows have the same number of cells. -/
def areEven : List (List Text) → Bool
  | [] => true
  | first :: rest => rest.all fun row => row.length == first.length

/-- Takes rows as long as there are strings; a faulty one is a fault. -/
def areaRows : Nat → Parser (List (List Text))
  | 0 => pure []
  | fuel + 1 => do
      match (← Parser.peek?).map Component.token with
      | some (.string _) => do
          let row ← areaRow
          pure (row :: (← areaRows fuel))
      | _ => pure []

/-- Takes the areas of a grid: the texts of its rows. -/
def areas : Parser Rows :=
  Parser.orElse
    (do
      Parser.keyword "none"
      pure (.one (Text.of "none")))
    (do
      let rows ← areaRows ((← Parser.remaining) + 1)
      if areEven rows then pure (if rows.isEmpty then .one [] else ⟨rows.map rowText, true⟩)
      else Parser.fail .invalidValue)

/-! ## Templates -/

/-- Rows and columns of a grid.

The rows may consist of named areas.  Then there are names of lines for the rows from the first one
on, and the names behind them stand after the last row. -/
inductive Template where
  | tracks (rows columns : Option Tracks)
  | areas (rows : List (List Text × Written)) (names : List (List Text)) (columns : Option Tracks)

namespace Template

/-- Names of lines with more names for the last of them, or for a first one. -/
def addNames (names : List (List Text)) (more : List Text) : List (List Text) :=
  match names.reverse with
  | [] => [more]
  | last :: before => ((last ++ more) :: before).reverse

/-- Takes rows of areas with their sizes and the names of lines behind them. -/
def takeRows :
    Nat → List (List Text) → Parser (List (List Text × Written) × List (List Text))
  | 0, names => pure ([], names)
  | fuel + 1, names => do
      let names ←
        match ← Parser.optional lineNames with
        | some more => pure (addNames names more)
        | none => pure names
      match (← Parser.peek?).map Component.token with
      | some (.string _) => do
          let row ← areaRow
          let size ← Parser.withDefault usualTrack trackSize
          let behind ← Parser.withDefault [] lineNames
          let (rest, names) ← takeRows fuel (names ++ [behind])
          pure ((row, size) :: rest, names)
      | _ => pure ([], names)

/-- Takes a template with named areas. -/
def takeAreas : Parser Template := do
  let (rows, names) ← takeRows ((← Parser.remaining) + 1) []
  if rows.isEmpty || ! areEven (rows.map Prod.fst) then Parser.fail .invalidValue
  let columns ←
    if ← Parser.succeeds Parser.slash then do pure (some (← Tracks.takeSome trackSize))
    else pure none
  pure (.areas rows names columns)

/-- Takes a template; behind the word for none nothing may follow. -/
def take : Parser Template := do
  if ← Parser.succeeds (Parser.keyword "none") then do
    Parser.finished
    pure (.tracks none none)
  else
    Parser.orElse takeAreas do
      let rows ← template
      Parser.slash
      pure (.tracks rows (← template))

/-- The text of a row of areas with the names in front of it: the first part of the text stays on
the line of the row before, and each further part has a line of its own. -/
def rowParts (isFirst : Bool) (names : List Text) (row : List Text × Written) : List Text :=
  let (cells, size) := row
  let body := rowText cells ++ if size == usualTrack then [] else ' ' :: size.text
  match names with
  | [last, first] => [' ' :: lineNamesText [last], lineNamesText [first] ++ ' ' :: body]
  | _ =>
      let line := (if names.isEmpty then [] else lineNamesText names ++ [' ']) ++ body
      if isFirst then [line] else [[], line]

/-- Lines with parts of a text behind them, the first one on the last line. -/
def addParts (lines parts : List Text) : List Text :=
  match lines.reverse, parts with
  | last :: rest, first :: more => rest.reverse ++ (last ++ first) :: more
  | _, parts => parts

/-- The lines of rows of areas behind other lines. -/
def areaLines (lines : List Text) : List (List Text) → List (List Text × Written) → List Text
  | names, [] =>
      match names with
      | last :: _ => addParts lines [if last.isEmpty then [] else ' ' :: lineNamesText last]
      | [] => lines
  | names, row :: rest =>
      let parts := rowParts lines.isEmpty (names.head?.getD []) row
      areaLines (addParts lines parts) names.tail rest

/-- The text of a template. -/
def written : Template → Rows
  | .tracks none none => .one (Text.of "none")
  | .tracks rows columns => .one (templateText rows ++ Text.of " / " ++ templateText columns)
  | .areas rows names columns =>
      let lines := areaLines [] names rows
      ⟨lines ++ (columns.map fun columns => Text.of "/ " ++ columns.text).toList,
        1 < lines.length⟩

end Template

/-- Takes the words for items that are placed one after another, in any order. -/
def autoFlowWords : Parser Text := do
  let flow := Parser.keyword "auto-flow"
  let dense := Parser.keyword "dense"
  let both := Text.of "auto-flow dense"
  if ← Parser.succeeds flow then do
    pure (if ← Parser.succeeds dense then both else Text.of "auto-flow")
  else do
    dense
    flow
    pure both

/-- Takes a whole grid.  Items that are placed along rows whose size is not given need no words. -/
def grid : Parser Rows :=
  let added := fun (tracks : List Written) =>
    if tracks.isEmpty then [] else ' ' :: addedText tracks
  Parser.firstOf
    [do pure (← Template.take).written,
    do
      let rows ← template
      Parser.slash
      let flow ← autoFlowWords
      let columns ← addedTracks
      pure (.one (templateText rows ++ Text.of " / " ++ flow ++ added columns)),
    do
      let flow ← autoFlowWords
      let rows ← addedTracks
      Parser.slash
      let columns ← template
      pure (if flow = Text.of "auto-flow" ∧ rows.isEmpty then Template.written (.tracks none columns)
        else .one (flow ++ added rows ++ Text.of " / " ++ templateText columns))]

/-! ## Places of items -/

/-- A line of a grid, or an area that has a name. -/
inductive GridLine where
  | auto
  | area (name : Text)
  | line (text : Text)
deriving DecidableEq, Repr

namespace GridLine

/-- The text of a line. -/
def text : GridLine → Text
  | .auto => Text.of "auto"
  | .area name => identText name
  | .line text => text

/-- Takes a number of a line, which is not zero. -/
def index : Parser Int := do
  let index ← integer
  if index = 0 then Parser.fail .invalidValue else pure index

/-- Takes a number and a name of a line in any order. -/
def indexAndName : Parser (Option Int × Option Text) := do
  match ← Parser.optional integer with
  | some number => do
      if number = 0 then Parser.fail .invalidValue
      pure (some number, ← Parser.optional ownName)
  | none => do
      let name ← ownName
      match ← Parser.optional integer with
      | some number => do
          if number = 0 then Parser.fail .invalidValue
          pure (some number, some name)
      | none => pure (none, some name)

/-- Takes a line. -/
def take : Parser GridLine := do
  if ← Parser.succeeds (Parser.keyword "auto") then pure .auto
  else if ← Parser.succeeds (Parser.keyword "span") then
    let (number, name) ← indexAndName
    let number := number.getD 1
    let numberTexts := if number ≠ 1 ∨ name.isNone then [Text.ofInt number] else []
    pure (.line (Text.join [' '] (Text.of "span" :: numberTexts ++ (name.map identText).toList)))
  else
    match ← indexAndName with
    | (none, some name) => pure (.area name)
    | (number, name) =>
        pure (.line (Text.join [' ']
          ((number.map Text.ofInt).toList ++ (name.map identText).toList)))

/-- The line that is meant if a second one is left out. -/
def usualEnd : GridLine → GridLine
  | .area name => .area name
  | _ => .auto

/-- The second line can be left out. -/
def canOmit (first second : GridLine) : Bool := first.usualEnd == second

/-- Takes a line behind a slash. -/
def takeAfterSlash (fallback : GridLine) : Parser GridLine := do
  if ← Parser.succeeds Parser.slash then take else pure fallback

/-- Takes a first and a last line. -/
def takeSpan : Parser Written := do
  let first ← take
  let last ← takeAfterSlash first.usualEnd
  pure (.of (if first.canOmit last then first.text
    else first.text ++ Text.of " / " ++ last.text))

/-- Takes the lines around an area. -/
def takeArea : Parser Written := do
  let rowStart ← take
  let columnStart ← takeAfterSlash rowStart.usualEnd
  let rowEnd ← takeAfterSlash rowStart.usualEnd
  let columnEnd ← takeAfterSlash columnStart.usualEnd
  let omitsLast := columnStart.canOmit columnEnd
  let omitsRow := omitsLast && rowStart.canOmit rowEnd
  let omitsColumn := omitsRow && rowStart.canOmit columnStart
  let lines := [rowStart] ++ (if omitsColumn then [] else [columnStart]) ++
    (if omitsRow then [] else [rowEnd]) ++ (if omitsLast then [] else [columnEnd])
  pure (.of (Text.join (Text.of " / ") (lines.map text)))

end GridLine

/-- Properties of grids. -/
def gridFamilies : List Family :=
  let templates : Parser Written := do pure (.of (templateText (← template)))
  let added : Parser Written := do pure (.of (addedText (← addedTracks)))
  let line : Parser Written := do pure (.of (← GridLine.take).text)
  [family ["grid-template-columns", "grid-template-rows"] templates,
    family ["grid-auto-columns", "grid-auto-rows"] added,
    family ["grid-auto-flow"] autoFlow,
    ⟨["grid-template-areas"], [""], areas⟩,
    ⟨["grid-template"], [""], do pure (← Template.take).written⟩,
    ⟨["grid"], [""], grid⟩,
    family ["grid-row-start", "grid-row-end", "grid-column-start", "grid-column-end"] line,
    family ["grid-row", "grid-column"] GridLine.takeSpan,
    family ["grid-area"] GridLine.takeArea]

end StyledMarkup.Css.Property
