import StyledMarkup.Css.Color.Parser

namespace StyledMarkup.Css.Value

/-!
# Words and groups of values

A value that has been read is kept as its text.  Values with the same text may
still be different, like a length of zero in two units or two numbers whose
digits are cut, so that a second text tells them apart.
-/

/-- The text of a value, and a text that no different value has.

There is no such text for a value that is different even from itself. -/
structure Written where
  text : Text
  identity? : Option Text
deriving Repr

namespace Written

/-- Equality of values. -/
def isSame (first second : Written) : Bool :=
  match first.identity?, second.identity? with
  | some own, some other => own == other
  | _, _ => false

instance : BEq Written := ⟨isSame⟩

/-- A value that is told apart by its text. -/
def of (text : Text) : Written := ⟨text, some text⟩

/-- A text that tells apart values that consist of several ones. -/
def identities? (values : List Written) : Option Text :=
  (values.mapM identity?).map (Text.join [';'])

/-- A value that consists of other values. -/
def joined (text : Text) (values : List Written) : Written := ⟨text, identities? values⟩

/-- A value that is given by a word. -/
def word (text : String) : Written := of (Text.of text)

/-- The text of a calculation. -/
def ofCalc (calculation : Calc) : Written := ⟨calculation.text, calculation.identity?⟩

/-- The text of a quantity. -/
def ofQuantity (quantity : Quantity) : Written := ⟨quantity.text, quantity.identity?⟩

/-- The text of a number. -/
def ofNumber (value : Floating) : Written := ⟨floatText value, valueIdentity? value⟩

/-- The text of a share of one as a percentage. -/
def ofShare (share : Floating) : Written :=
  ⟨percentText share, (valueIdentity? share).map (· ++ ['%'])⟩

/-- The text of a color. -/
def ofColor (color : Color) : Written := ⟨color.print, color.identity?⟩

end Written

/-! ## Single values -/

/-- Takes one of some words. -/
def oneOf (words : List String) : Parser Written := do pure (.of (← Parser.word words))

/-- Takes a length. -/
def aLength : Parser Written := do pure (.ofCalc (← length))

/-- Takes a length or a percentage. -/
def anExtent : Parser Written := do pure (.ofCalc (← extent))

/-- Takes a number. -/
def aNumber : Parser Written := do pure (.ofNumber (← number))

/-- Takes a whole number. -/
def anInteger : Parser Written := do pure (.of (Text.ofInt (← integer)))

/-- Takes a percentage. -/
def aShare : Parser Written := do pure (.ofShare (← percentage))

/-- Takes a number or a percentage, which is kept as such. -/
def aNumberOrShare : Parser Written := Parser.orElse aNumber aShare

/-- Takes a number or a percentage, which is printed as a number. -/
def anAmount : Parser Written := do pure (.ofNumber (← numberOrShare))

/-- Takes a time. -/
def aTime : Parser Written := do pure (.ofQuantity (← time))

/-- Takes a color. -/
def aColor : Parser Written := do pure (.ofColor (← Color.take))

/-- Takes a string. -/
def aString : Parser Written := do pure (.of (stringText (← Parser.string)))

/-- Words that are known to every property. -/
def wideWords : List String := ["initial", "inherit", "unset", "default", "revert", "revert-layer"]

/-- Takes an identifier that is not known to every property. -/
def ownName : Parser Text := do
  let location ← Parser.here
  let name ← Parser.ident
  if isOneOf wideWords name then Parser.failAt location (.unexpectedToken (.ident name))
  else pure name

/-- Takes a name that an author has chosen. -/
def aName : Parser Written := do pure (.of (identText (← ownName)))

/-- Takes an identifier that starts with two hyphens. -/
def dashedName : Parser Text := do
  let location ← Parser.here
  let name ← Parser.ident
  if (Text.of "--").isPrefixOf name then pure name
  else Parser.failAt location (.unexpectedToken (.ident name))

/-- Takes a value or one of some words. -/
def orWord (words : List String) (value : Parser Written) : Parser Written :=
  Parser.orElse (oneOf words) value

/-! ## Groups -/

/-- A value on several lines, which start below the value or below the name of the property. -/
structure Rows where
  texts : List Text
  aligned : Bool
deriving DecidableEq, Repr

/-- A value on one line. -/
def Rows.one (text : Text) : Rows := ⟨[text], true⟩

/-- Values with blanks between them. -/
def spaced (values : List Written) : Text := Text.join [' '] (values.map Written.text)

/-- The texts of values with commas between them. -/
def listed (values : List Written) : Text := Text.join [',', ' '] (values.map Written.text)

/-- Takes values between commas. -/
def commas (value : Parser Written) : Parser Written := do
  let values ← Parser.commaList value
  pure (.joined (listed values) values)

/-- Values for the four sides of a box. -/
structure Sides where
  top : Written
  right : Written
  bottom : Written
  left : Written
deriving BEq

namespace Sides

/-- The same value for all sides. -/
def all (value : Written) : Sides := ⟨value, value, value, value⟩

/-- Takes one to four values; sides without a value of their own have that of the opposite side. -/
def take (value : Parser Written) : Parser Sides := do
  let top ← value
  let right ← Parser.withDefault top value
  let bottom ← Parser.withDefault top value
  let left ← Parser.withDefault right value
  pure ⟨top, right, bottom, left⟩

/-- The values with as few of them as possible. -/
def text (sides : Sides) : Text :=
  let values :=
    if sides.left != sides.right then [sides.top, sides.right, sides.bottom, sides.left]
    else if sides.bottom != sides.top then [sides.top, sides.right, sides.bottom]
    else if sides.right != sides.top then [sides.top, sides.right]
    else [sides.top]
  spaced values

/-- The sides as one value. -/
def written (sides : Sides) : Written :=
  .joined sides.text [sides.top, sides.right, sides.bottom, sides.left]

end Sides

/-- Takes values for four sides. -/
def sides (value : Parser Written) : Parser Written := do pure (← Sides.take value).written

/-- Two values, of which equal ones are written once. -/
def pairText (first second : Written) : Text :=
  if second == first then first.text else first.text ++ ' ' :: second.text

/-- Two values as one. -/
def Written.ofPair (first second : Written) : Written :=
  .joined (pairText first second) [first, second]

/-- Takes one or two values. -/
def pair (value : Parser Written) : Parser Written := do
  let first ← value
  pure (.ofPair first (← Parser.withDefault first value))

/-- A part of a value in any order, and its initial value, which is not written. -/
structure Part where
  value : Parser Written
  initial : Written

/-- Takes parts in any order; the result holds initial values for those that are missing. -/
def parts (parts : List Part) : Parser (List Written) := do
  let found ← Parser.inAnyOrder (parts.map Part.value)
  pure (List.zipWith (fun part value => value.getD part.initial) parts found)

/-- The values that differ from their initial ones. -/
def written (parts : List Part) (values : List Written) : List Written :=
  ((parts.zip values).filter fun (part, value) => value != part.initial).map Prod.snd

/-- Takes parts in any order, of which there may be none; a text stands for initial values only. -/
def anyOf (fallback : Text) (choices : List Part) : Parser Written := do
  let values ← written choices <$> parts choices
  pure (.of (if values.isEmpty then fallback else spaced values))

/-- Takes parts in any order, but at least one. -/
def someOf (fallback : Text) (choices : List Part) : Parser Written := do
  let found ← Parser.inAnyOrder (choices.map Part.value)
  if found.all Option.isNone then Parser.fail .invalidValue
  let values := List.zipWith (fun part value => value.getD part.initial) choices found
  let values := written choices values
  pure (.of (if values.isEmpty then fallback else spaced values))

end StyledMarkup.Css.Value
