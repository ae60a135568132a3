import StyledMarkup.Json.Value

namespace StyledMarkup.Json

/-!
# Compact JSON text

Values are written without blanks between tokens.  Whole numbers are written
with all their digits, floats with the fewest digits that read back.
-/

/-- A float is positional when its decimal point stands at one of these positions. -/
def positionalPoints : Int × Int := (-4, 16)

/-- Digits with a decimal point after `point` of them, at least one digit on either side. -/
def positional (digits : Text) (point : Int) : Text :=
  match point with
  | .ofNat (whole + 1) =>
      if digits.length ≤ whole + 1 then
        digits ++ Text.repeated ['0'] (whole + 1 - digits.length) ++ Text.of ".0"
      else
        digits.take (whole + 1) ++ '.' :: digits.drop (whole + 1)
  | fraction => Text.of "0." ++ Text.repeated ['0'] fraction.natAbs ++ digits

/-- Digits with a point after the first one, and a power of ten with its sign. -/
def scientific (digits : Text) (point : Int) : Text :=
  let exponent := point - 1
  let fraction := if digits.length = 1 then [] else '.' :: digits.drop 1
  let sign := if 0 ≤ exponent then '+' else '-'
  digits.take 1 ++ fraction ++ 'e' :: sign :: Text.ofNat exponent.natAbs

/-- Text of a float: the fewest digits that read back. -/
def floatText (value : Binary) : Text :=
  let sign := if value.negative then ['-'] else []
  if value.isZero then
    sign ++ Text.of "0.0"
  else
    let decimal := value.shortest .double
    let point := decimal.pointPosition
    if positionalPoints.1 ≤ point ∧ point ≤ positionalPoints.2 then
      sign ++ positional decimal.digitText point
    else
      sign ++ scientific decimal.digitText point

/-- Text of a number. -/
def Number.print : Number → Text
  | .integer value => Text.ofInt value
  | .real value => floatText value

/-- Lower-case hexadecimal digits of a number, at least `width` of them. -/
def hexDigits (width : Nat) (value : Nat) : Text :=
  let digits := Nat.toDigits 16 value
  Text.repeated ['0'] (width - digits.length) ++ digits

/-- A character inside a quoted text. -/
def escapedChar (c : Char) : Text :=
  if c = '"' then Text.of "\\\""
  else if c = '\\' then Text.of "\\\\"
  else if c = '\n' then Text.of "\\n"
  else if c = '\r' then Text.of "\\r"
  else if c = '\t' then Text.of "\\t"
  else if c = '\x08' then Text.of "\\b"
  else if c = '\x0c' then Text.of "\\f"
  else if c.toNat < 0x20 then Text.of "\\u" ++ hexDigits 4 c.toNat
  else [c]

/-- A text in quotes, its special characters escaped. -/
def quoted (text : Text) : Text := '"' :: text.flatMap escapedChar ++ ['"']

namespace Value

mutual

/-- Compact text of a value. -/
def print : Value → Text
  | .null => Text.of "null"
  | .bool true => Text.of "true"
  | .bool false => Text.of "false"
  | .number value => value.print
  | .text value => quoted value
  | .list items => '[' :: printItems items ++ [']']
  | .record fields => '\x7b' :: printFields fields ++ ['\x7d']

/-- Items with commas between them. -/
def printItems : List Value → Text
  | [] => []
  | [item] => item.print
  | item :: next :: rest => item.print ++ ',' :: printItems (next :: rest)

/-- Fields with commas between them. -/
def printFields : List (Text × Value) → Text
  | [] => []
  | [(key, value)] => quoted key ++ ':' :: value.print
  | (key, value) :: next :: rest => quoted key ++ ':' :: value.print ++ ',' :: printFields (next :: rest)

end

end Value

end StyledMarkup.Json
