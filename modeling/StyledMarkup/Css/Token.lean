import StyledMarkup.Css.Numeral
import StyledMarkup.Css.Location
import StyledMarkup.Text.Quoted

namespace StyledMarkup.Css

/-!
# Tokens

The tokens of a stylesheet, how they are shown in messages and how they are
printed.
-/

/-- A token of a stylesheet. -/
inductive Token where
  | ident (name : Text)
  | atKeyword (name : Text)
  | hash (name : Text)
  | idHash (name : Text)
  | string (value : Text)
  | badString (value : Text)
  | url (value : Text)
  | badUrl (value : Text)
  | delim (c : Char)
  | number (numeral : Numeral)
  | percentage (numeral : Numeral)
  | dimension (numeral : Numeral) (unit : Text)
  | blank (text : Text)
  | comment (text : Text)
  | colon
  | semicolon
  | comma
  | includeMatch
  | dashMatch
  | startMatch
  | endMatch
  | insideMatch
  | cdo
  | cdc
  | function (name : Text)
  | openParen
  | openBracket
  | openBrace
  | closeParen
  | closeBracket
  | closeBrace
deriving DecidableEq, Repr

/-! ## Tokens in messages -/

/-- A finite number in a message: all digits that read back and a fraction. -/
def shownNumber (number : Binary) : Text :=
  let decimal := number.shortest .single
  let digits := decimal.digitText
  let point := decimal.pointPosition
  if decimal.digits = 0 then Text.of "0.0"
  else if 17 ≤ point ∨ point ≤ -4 then
    let fraction := if digits.length = 1 then [] else '.' :: digits.drop 1
    digits.take 1 ++ fraction ++ 'e' :: Text.ofInt (point - 1)
  else
    match point with
    | .ofNat (whole + 1) =>
        if digits.length ≤ whole + 1 then
          digits ++ Text.repeated ['0'] (whole + 1 - digits.length) ++ Text.of ".0"
        else digits.take (whole + 1) ++ '.' :: digits.drop (whole + 1)
    | fraction => Text.of "0." ++ Text.repeated ['0'] fraction.natAbs ++ digits

/-- A 32-bit float in a message. -/
def shownFloat (value : Floating) : Text :=
  let sign := if value.negative then ['-'] else []
  match value with
  | .finite number => sign ++ shownNumber number
  | .infinite _ => sign ++ Text.of "inf"
  | .undefined => Text.of "NaN"

/-- A named token with its text in a message. -/
def shownNamed (name : String) (value : Text) : Text :=
  Text.of name ++ '(' :: Text.quoted value ++ [')']

/-- A numeric token in a message. -/
def shownNumeral (name value : String) (numeral : Numeral) (unit : Text) : Text :=
  let whole :=
    match numeral.whole? with
    | none => Text.of "None"
    | some whole => Text.of "Some(" ++ Text.ofInt whole ++ [')']
  Text.of name ++ Text.of " \x7b has_sign: " ++
    Text.of (if numeral.hasSign then "true" else "false") ++ Text.of ", " ++ Text.of value ++
    Text.of ": " ++ shownFloat numeral.value ++ Text.of ", int_value: " ++ whole ++ unit ++
    Text.of " \x7d"

/-- A token in a message. -/
def Token.shown : Token → Text
  | .ident name => shownNamed "Ident" name
  | .atKeyword name => shownNamed "AtKeyword" name
  | .hash name => shownNamed "Hash" name
  | .idHash name => shownNamed "IDHash" name
  | .string value => shownNamed "String" value
  | .badString value => shownNamed "BadString" value
  | .url value => shownNamed "UnquotedUrl" value
  | .badUrl value => shownNamed "BadUrl" value
  | .delim c => Text.of "Delim(" ++ Text.quotedChar c ++ [')']
  | .number numeral => shownNumeral "Number" "value" numeral []
  | .percentage numeral => shownNumeral "Percentage" "unit_value" numeral []
  | .dimension numeral unit =>
      shownNumeral "Dimension" "value" numeral (Text.of ", unit: " ++ Text.quoted unit)
  | .blank text => shownNamed "WhiteSpace" text
  | .comment text => shownNamed "Comment" text
  | .colon => Text.of "Colon"
  | .semicolon => Text.of "Semicolon"
  | .comma => Text.of "Comma"
  | .includeMatch => Text.of "IncludeMatch"
  | .dashMatch => Text.of "DashMatch"
  | .startMatch => Text.of "PrefixMatch"
  | .endMatch => Text.of "SuffixMatch"
  | .insideMatch => Text.of "SubstringMatch"
  | .cdo => Text.of "CDO"
  | .cdc => Text.of "CDC"
  | .function name => shownNamed "Function" name
  | .openParen => Text.of "ParenthesisBlock"
  | .openBracket => Text.of "SquareBracketBlock"
  | .openBrace => Text.of "CurlyBracketBlock"
  | .closeParen => Text.of "CloseParenthesis"
  | .closeBracket => Text.of "CloseSquareBracket"
  | .closeBrace => Text.of "CloseCurlyBracket"

/-! ## Printed tokens -/

/-- The character that takes the place of one that must not appear. -/
def replacement : Char := Char.ofNat 0xFFFD

/-- A character written by its code. -/
def codeText (c : Char) : Text := '\\' :: Nat.toDigits 16 c.toNat ++ [' ']

/-- Characters that stand for themselves in a name. -/
def isNameChar (c : Char) : Bool := c.isAlphanum || c == '_' || c == '-' || 0x80 ≤ c.toNat

/-- Control characters, which are written by their code. -/
def isControl (c : Char) : Bool := c.toNat < 0x20 || c.toNat == 0x7F

/-- A character inside a name. -/
def nameCharText (c : Char) : Text :=
  if isNameChar c then [c]
  else if c.toNat = 0 then [replacement]
  else if isControl c then codeText c
  else ['\\', c]

/-- Characters that may follow the start of a name. -/
def nameText (name : Text) : Text := name.flatMap nameCharText

/-- A name whose first character must not be a digit. -/
def startedNameText : Text → Text
  | [] => []
  | first :: rest => if first.isDigit then codeText first ++ nameText rest else nameText (first :: rest)

/-- An identifier, escaped where needed. -/
def identText : Text → Text
  | [] => []
  | '-' :: '-' :: rest => '-' :: '-' :: nameText rest
  | ['-'] => ['\\', '-']
  | '-' :: rest => '-' :: startedNameText rest
  | name => startedNameText name

/-- A character inside a string. -/
def stringCharText (c : Char) : Text :=
  if c = '"' then ['\\', '"']
  else if c = '\\' then ['\\', '\\']
  else if c.toNat = 0 then [replacement]
  else if isControl c then codeText c
  else [c]

/-- A string in double quotes. -/
def stringText (value : Text) : Text := '"' :: value.flatMap stringCharText ++ ['"']

/-- A unit; one that would be read as a power of ten is escaped. -/
def unitText : Text → Text
  | ['e'] => Text.of "\\65 "
  | ['E'] => Text.of "\\65 "
  | 'e' :: '-' :: rest => Text.of "\\65 " ++ nameText ('-' :: rest)
  | 'E' :: '-' :: rest => Text.of "\\65 " ++ nameText ('-' :: rest)
  | unit => identText unit

/-- A number with its unit. -/
def dimensionText (value : Floating) (unit : Text) : Text := scalarText value ++ unitText unit

/-- The text of a token. -/
def Token.print : Token → Text
  | .ident name => identText name
  | .atKeyword name => '@' :: identText name
  | .hash name => '#' :: nameText name
  | .idHash name => '#' :: identText name
  | .string value => stringText value
  | .badString value => '"' :: value.flatMap stringCharText
  | .url value => Text.of "url(" ++ stringText value ++ [')']
  | .badUrl value => Text.of "url(" ++ value ++ [')']
  | .delim c => [c]
  | .number numeral => floatText numeral.value
  | .percentage numeral => numeral.percentText
  | .dimension numeral unit => dimensionText numeral.value unit
  | .blank text => text
  | .comment text => Text.of "/*" ++ text ++ Text.of "*/"
  | .colon => [':']
  | .semicolon => [';']
  | .comma => [',']
  | .includeMatch => Text.of "~="
  | .dashMatch => Text.of "|="
  | .startMatch => Text.of "^="
  | .endMatch => Text.of "$="
  | .insideMatch => Text.of "*="
  | .cdo => Text.of "<!--"
  | .cdc => Text.of "-->"
  | .function name => identText name ++ ['(']
  | .openParen => ['(']
  | .openBracket => ['[']
  | .openBrace => ['\x7b']
  | .closeParen => [')']
  | .closeBracket => [']']
  | .closeBrace => ['\x7d']

/-- The text of a token whose number is printed as it was written. -/
def Token.printWritten : Token → Text
  | .number numeral => numeral.text
  | .dimension numeral unit => numeral.text ++ unitText unit
  | token => token.print

end StyledMarkup.Css
