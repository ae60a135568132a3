import StyledMarkup.Css.Parser

namespace StyledMarkup.Css

/-!
# Ranges of code points

A font can be limited to ranges of code points.  A range is written with one
code point, with two of them, or with question marks for its last digits.
-/

/-- A range of code points with both ends. -/
structure CodeRange where
  first : Nat
  last : Nat
deriving DecidableEq, Repr

namespace CodeRange

/-- The value of hexadecimal digits. -/
def valueOf (digits : Text) : Nat :=
  digits.foldl (fun value digit => value * 16 + Lexer.hexDigitValue digit) 0

/-- A power of sixteen. -/
def ofDigits : Nat → Nat
  | 0 => 1
  | digits + 1 => 16 * ofDigits digits

/-- The last code point that there is. -/
def greatest : Nat := 0x10ffff

/-- The range that is written behind the letter. -/
def read? : Text → Option CodeRange
  | '+' :: text =>
      let digits := text.takeWhile Lexer.isHexDigit
      let rest := text.dropWhile Lexer.isHexDigit
      let marks := (rest.takeWhile (· == '?')).length
      let rest := rest.drop marks
      let count := digits.length + marks
      let value := valueOf digits
      if count = 0 ∨ 6 < count then none
      else
        match marks, rest with
        | 0, [] => some ⟨value, value⟩
        | 0, '-' :: more =>
            let isShort := ! more.isEmpty && more.length ≤ 6
            if isShort && more.all Lexer.isHexDigit then some ⟨value, valueOf more⟩ else none
        | marks, [] => some ⟨value * ofDigits marks, (value + 1) * ofDigits marks - 1⟩
        | _, _ => none
  | _ => none

/-- The range is not empty, and all of its code points exist. -/
def isGood (range : CodeRange) : Bool := range.last ≤ greatest && range.first ≤ range.last

/-- Takes question marks that follow at once. -/
def takeMarks : Parser Text := fun input =>
  let isMark := fun (component : Component) => component.token == .delim '?'
  .ok (Component.sources (input.components.takeWhile isMark), input.dropWhile isMark)

/-- Takes the next component if it satisfies a condition, even if it is a blank. -/
def takeAtOnce (condition : Token → Bool) : Parser Text := do
  let component ← Parser.nextWithBlanks
  if condition component.token then pure component.source else Parser.fail .invalidValue

/-- The token is an identifier or a question mark. -/
def isNameOrMark : Token → Bool
  | .ident _ => true
  | token => token == .delim '?'

/-- The token is a dimension. -/
def isDimension : Token → Bool
  | .dimension _ _ => true
  | _ => false

/-- The token is a number. -/
def isNumber : Token → Bool
  | .number _ => true
  | _ => false

/-- Takes what is written behind the letter of a range. -/
def takeWritten : Parser Text :=
  Parser.firstOf
    [do
      let plus ← takeAtOnce (· == .delim '+')
      let name ← takeAtOnce isNameOrMark
      pure (plus ++ name ++ (← takeMarks)),
    do
      let dimension ← takeAtOnce isDimension
      pure (dimension ++ (← takeMarks)),
    do
      let number ← takeAtOnce isNumber
      match ← Parser.optional (takeAtOnce fun token => isDimension token || isNumber token) with
      | some second => pure (number ++ second)
      | none => do pure (number ++ (← takeMarks))]

/-- Takes a range. -/
def take : Parser CodeRange := do
  Parser.keyword "u"
  match (read? (← takeWritten)).filter isGood with
  | some range => pure range
  | none => Parser.fail .invalidValue

/-- The hexadecimal digits of a number, in upper case. -/
def hexadecimal (value : Nat) : Text := (Nat.toDigits 16 value).map Char.toUpper

/-- How many of the last digits are zero at the start and greatest at the end of a range. -/
def openDigits (range : CodeRange) : Nat → Option Nat
  | 0 => none
  | digits + 1 =>
      let unit := ofDigits digits
      if range.first / unit ≠ range.last / unit ∨ digits = 0 then
        let block := ofDigits (digits + 1)
        if range.first % block = 0 ∧ range.last % block = block - 1 then some (digits + 1) else none
      else openDigits range digits

/-- The text of a range; question marks stand for digits that can have any value. -/
def text (range : CodeRange) : Text :=
  let letters := Text.of "U+"
  let plain :=
    letters ++ hexadecimal range.first ++
      if range.first = range.last then [] else '-' :: hexadecimal range.last
  if range.first = range.last then plain
  else
    match openDigits range 7 with
    | some digits =>
        let start := range.first / ofDigits digits
        letters ++ (if start = 0 then [] else hexadecimal start) ++ Text.repeated ['?'] digits
    | none => plain

end CodeRange

end StyledMarkup.Css
