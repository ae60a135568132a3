import StyledMarkup.Css.Value.Group

namespace StyledMarkup.Css

/-!
# Positions

A place in a box is given by its distance from the sides of the box.  Each
coordinate is a side, a distance from a side, or the center.
-/

/-- A coordinate of a position; the names of the sides depend on the axis. -/
inductive Coordinate where
  | center
  | distance (extent : Calc)
  | side (name : Text) (offset : Option Calc)

namespace Coordinate

/-- Half of the box. -/
def half : Calc := .ofShare (Floating.ofQuotient false 1 2)

/-- The whole box. -/
def whole : Calc := .ofShare Floating.one

/-- The middle of the axis. -/
def isCenter : Coordinate → Bool
  | .center => true
  | .distance extent => extent == half
  | .side _ _ => false

/-- A distance of zero. -/
def isZero : Coordinate → Bool
  | .distance extent => extent.isZero
  | _ => false

/-- The text of a coordinate. -/
def text : Coordinate → Text
  | .center => Text.of "center"
  | .distance extent => extent.text
  | .side name none => name
  | .side name (some offset) => name ++ ' ' :: offset.text

/-- The first side of its axis. -/
def isFirstSide (name : Text) : Bool := name == Text.of "left" || name == Text.of "top"

/-- The distance from the first side, if it can be given. -/
def distance? : Coordinate → Option Calc
  | .center => some half
  | .distance extent => some (if extent.isZero then .noLength else extent)
  | .side name offset =>
      if ! isFirstSide name then none
      else
        match offset with
        | none => some .noLength
        | some offset => some (if offset.isZero then .noLength else offset)

/-- The distance of a side from the first side. -/
def sideDistance (name : Text) : Calc := if isFirstSide name then .noLength else whole

/-- Takes a coordinate on an axis with two sides. -/
def take (sides : List String) : Parser Coordinate :=
  Parser.firstOf
    [do
      Parser.keyword "center"
      pure .center,
    do pure (.distance (← Value.extent)),
    do
      let name ← Parser.word sides
      pure (.side name (← Parser.optional Value.extent))]

end Coordinate

/-- A position in a box. -/
structure Position where
  horizontal : Coordinate
  vertical : Coordinate

namespace Position

/-- The sides of the horizontal axis. -/
def horizontalSides : List String := ["left", "right"]

/-- The sides of the vertical axis. -/
def verticalSides : List String := ["top", "bottom"]

/-- The center of the box. -/
def middle : Position := ⟨.center, .center⟩

/-- The first corner of the box. -/
def origin : Position :=
  ⟨.distance (.ofShare Floating.nought), .distance (.ofShare Floating.nought)⟩

/-- The first corner, given by distances. -/
def isZero (position : Position) : Bool :=
  position.horizontal.isZero && position.vertical.isZero

/-- The center of the box. -/
def isCenter (position : Position) : Bool :=
  position.horizontal.isCenter && position.vertical.isCenter

/-- The text of a position. -/
def text (position : Position) : Text :=
  let horizontal := position.horizontal
  let vertical := position.vertical
  let both :=
    match horizontal.distance?, vertical.distance? with
    | some x, some y => x.text ++ ' ' :: y.text
    | _, _ => horizontal.text ++ ' ' :: vertical.text
  match horizontal, vertical with
  | .side name (some _), .distance distance =>
      if name ≠ Text.of "left" then
        horizontal.text ++ Text.of " top " ++ distance.text
      else both
  | .side name (some offset), .center =>
      if name ≠ Text.of "left" then horizontal.text ++ Text.of " center" else offset.text
  | .distance distance, .side name (some _) =>
      if name ≠ Text.of "top" then
        Text.of "left " ++ distance.text ++ ' ' :: vertical.text
      else both
  | .center, .side name (some _) =>
      if name ≠ Text.of "top" then Text.of "center " ++ vertical.text else both
  | .center, _ =>
      if vertical.isCenter then Text.of "center"
      else
        match vertical with
        | .side _ none => vertical.text
        | _ => both
  | .distance distance, _ =>
      if vertical.isCenter then distance.text
      else if horizontal.isCenter then
        match vertical with
        | .side _ none => vertical.text
        | _ => both
      else both
  | .side name none, _ =>
      if vertical.isCenter then (Coordinate.sideDistance name).text
      else
        match vertical with
        | .side other none =>
            (Coordinate.sideDistance name).text ++ ' ' :: (Coordinate.sideDistance other).text
        | _ => both
  | _, _ => both

/-- A coordinate as a value. -/
def coordinateWritten (coordinate : Coordinate) : Value.Written :=
  match coordinate with
  | .distance extent => .ofCalc extent
  | .side name (some offset) => .joined coordinate.text [.of name, .ofCalc offset]
  | other => .of other.text

/-- Takes a position whose first word is a vertical side. -/
def takeVerticalFirst : Parser Position := do
  let side ← Parser.word verticalSides
  let rest ← Parser.optional do
    let offset ← Parser.optional Value.extent
    match ← Parser.optional (Parser.word horizontalSides) with
    | some name => do pure (offset, Coordinate.side name (← Parser.optional Value.extent))
    | none => do
        Parser.keyword "center"
        pure (offset, Coordinate.center)
  match rest with
  | some (offset, horizontal) => pure ⟨horizontal, .side side offset⟩
  | none => pure ⟨.center, .side side none⟩

/-- Takes a position. -/
def take : Parser Position := do
  match ← Parser.optional (Coordinate.take horizontalSides) with
  | some .center => do
      match ← Parser.optional (Coordinate.take verticalSides) with
      | some vertical => pure ⟨.center, vertical⟩
      | none => do
          pure ⟨← Parser.withDefault .center (Coordinate.take horizontalSides), .center⟩
  | some (.distance distance) => do
      match ← Parser.optional (Parser.word verticalSides) with
      | some side => pure ⟨.distance distance, .side side none⟩
      | none => do
          match ← Parser.optional Value.extent with
          | some vertical => pure ⟨.distance distance, .distance vertical⟩
          | none => do
              let _ ← Parser.optional (Parser.keyword "center")
              pure ⟨.distance distance, .center⟩
  | some (.side name offset) => do
      if ← Parser.succeeds (Parser.keyword "center") then pure ⟨.side name offset, .center⟩
      else
        match ← Parser.optional (Parser.word verticalSides) with
        | some side => do
            pure ⟨.side name offset, .side side (← Parser.optional Value.extent)⟩
        | none =>
            pure ⟨.side name none, (offset.map Coordinate.distance).getD .center⟩
  | none => takeVerticalFirst

/-- The position as a value. -/
def written (position : Position) : Value.Written :=
  .joined position.text
    [coordinateWritten position.horizontal, coordinateWritten position.vertical]

end Position

/-- Takes a position as a value. -/
def Value.aPosition : Parser Value.Written := do pure (← Position.take).written

end StyledMarkup.Css
