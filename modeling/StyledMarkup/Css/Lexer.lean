import StyledMarkup.Css.Token

namespace StyledMarkup.Css

/-!
# Reading tokens

The tokens of a stylesheet together are the whole stylesheet: blanks and
comments are tokens, too.  Strings, comments and addresses that are not closed
end with the stylesheet.
-/

namespace Lexer

/-- Characters between tokens. -/
def isSpace (c : Char) : Bool := c == ' ' || c == '\t' || isNewline c

/-- A backslash that is not followed by a line end starts an escape. -/
def escapes : Text → Bool
  | [] => true
  | next :: _ => ! isNewline next

/-- Characters that start a name, apart from hyphens and escapes. -/
def isNameStart (c : Char) : Bool := c.isAlpha || c == '_' || c.toNat == 0 || 0x80 ≤ c.toNat

/-- The text starts with a name. -/
def startsName : Text → Bool
  | '-' :: '-' :: _ => true
  | '-' :: '\\' :: _ => true
  | '-' :: next :: _ => isNameStart next
  | '-' :: [] => false
  | '\\' :: rest => escapes rest
  | first :: _ => isNameStart first
  | [] => false

/-- The text starts with a digit, or with a point and a digit. -/
def startsNumber : Text → Bool
  | '.' :: next :: _ => next.isDigit
  | first :: _ => first.isDigit
  | [] => false

/-- Hexadecimal digits. -/
def isHexDigit (c : Char) : Bool :=
  c.isDigit || ('a' ≤ c && c ≤ 'f') || ('A' ≤ c && c ≤ 'F')

/-- Value of a hexadecimal digit. -/
def hexDigitValue (c : Char) : Nat :=
  if c.isDigit then c.toNat - '0'.toNat else c.toLower.toNat - 'a'.toNat + 10

/-- The character with a code, unless the code belongs to no character. -/
def charOfCode (code : Nat) : Char :=
  if code = 0 ∨ 0x10FFFF < code ∨ (0xD800 ≤ code ∧ code ≤ 0xDFFF) then replacement
  else Char.ofNat code

/-- One blank after a code belongs to the escape. -/
def afterCode : Text → Text
  | '\r' :: '\n' :: rest => rest
  | first :: rest => if isSpace first then rest else first :: rest
  | [] => []

/-- Reads an escape after its backslash. -/
def readEscape : Text → Char × Text
  | [] => (replacement, [])
  | first :: rest =>
      if isHexDigit first then
        let digits := ((first :: rest).take 6).takeWhile isHexDigit
        let code := digits.foldl (fun code digit => code * 16 + hexDigitValue digit) 0
        (charOfCode code, afterCode ((first :: rest).drop digits.length))
      else if first.toNat = 0 then (replacement, rest)
      else (first, rest)

/-- Reads a name of at most `fuel` characters. -/
def readName : Nat → Text → Text × Text
  | 0, text => ([], text)
  | fuel + 1, text =>
      match text with
      | [] => ([], [])
      | '\\' :: rest =>
          if escapes rest then
            let (c, rest) := readEscape rest
            let (name, rest) := readName fuel rest
            (c :: name, rest)
          else ([], text)
      | first :: rest =>
          if first.toNat = 0 then
            let (name, rest) := readName fuel rest
            (replacement :: name, rest)
          else if isNameChar first then
            let (name, rest) := readName fuel rest
            (first :: name, rest)
          else ([], text)

/-- Reads the name at the front of a text. -/
def name (text : Text) : Text × Text := readName text.length text

/-- The text after a line end at its front. -/
def afterNewline : Text → Text
  | '\r' :: '\n' :: rest => rest
  | _ :: rest => rest
  | [] => []

/-- Reads a string after its opening quote: the value, whether it is whole, and the rest. -/
def readString (quote : Char) : Nat → Text → Text × Bool × Text
  | 0, text => ([], true, text)
  | fuel + 1, text =>
      match text with
      | [] => ([], true, [])
      | first :: rest =>
          if first = quote then ([], true, rest)
          else if isNewline first then ([], false, text)
          else if first = '\\' then
            match rest with
            | [] => ([], true, [])
            | next :: _ =>
                if isNewline next then readString quote fuel (afterNewline rest)
                else
                  let (c, rest) := readEscape rest
                  let (value, whole, rest) := readString quote fuel rest
                  (c :: value, whole, rest)
          else
            let (value, whole, rest) := readString quote fuel rest
            ((if first.toNat = 0 then replacement else first) :: value, whole, rest)

/-- A string token after its opening quote. -/
def string (quote : Char) (text : Text) : Token × Text :=
  match readString quote text.length text with
  | (value, true, rest) => (.string value, rest)
  | (value, false, rest) => (.badString value, rest)

/-- Reads a comment after its opening: its text and the rest. -/
def readComment : Text → Text × Text
  | [] => ([], [])
  | '*' :: '/' :: rest => ([], rest)
  | first :: rest =>
      let (text, rest) := readComment rest
      (first :: text, rest)

/-- Reads a bad address up to its closing parenthesis. -/
def readBadUrl : Text → Text × Text
  | [] => ([], [])
  | ')' :: rest => ([], rest)
  | '\\' :: ')' :: rest =>
      let (value, rest) := readBadUrl rest
      ('\\' :: ')' :: value, rest)
  | '\\' :: '\\' :: rest =>
      let (value, rest) := readBadUrl rest
      ('\\' :: '\\' :: value, rest)
  | first :: rest =>
      let (value, rest) := readBadUrl rest
      (first :: value, rest)

/-- Characters that must not stand in an address without quotes. -/
def isBadInUrl (c : Char) : Bool :=
  c == '"' || c == '\x27' || c == '(' || (isControl c && c.toNat != 0)

/-- Reads an address without quotes; `none` if it is a bad one. -/
def readUrl : Nat → Text → Option (Text × Text)
  | 0, text => some ([], text)
  | fuel + 1, text =>
      match text with
      | [] => some ([], [])
      | ')' :: rest => some ([], rest)
      | '\\' :: rest =>
          if escapes rest then
            let (c, rest) := readEscape rest
            (readUrl fuel rest).map fun (value, rest) => (c :: value, rest)
          else none
      | first :: rest =>
          if isSpace first then
            match rest.dropWhile isSpace with
            | [] => some ([], [])
            | ')' :: rest => some ([], rest)
            | _ => none
          else if isBadInUrl first then none
          else
            (readUrl fuel rest).map fun (value, rest) =>
              ((if first.toNat = 0 then replacement else first) :: value, rest)

/-- A token that starts with a name and a parenthesis. -/
def afterParen (functionName rest : Text) : Token × Text :=
  if Text.sameIgnoringCase functionName (Text.of "url") then
    let inner := rest.dropWhile isSpace
    match inner with
    | '"' :: _ => (.function functionName, rest)
    | '\x27' :: _ => (.function functionName, rest)
    | _ =>
        match readUrl inner.length inner with
        | some (value, rest) => (.url value, rest)
        | none =>
            let (value, rest) := readBadUrl inner
            (.badUrl value, rest)
  else (.function functionName, rest)

/-- A token that starts with a name. -/
def identLike (text : Text) : Token × Text :=
  match name text with
  | (functionName, '(' :: rest) => afterParen functionName rest
  | (ident, rest) => (.ident ident, rest)

/-- The power of ten at the front of a text, if there is one. -/
def readPower : Text → Option Int × Text
  | letter :: rest =>
      let positive := (some (Int.ofNat (digitsValue (rest.takeWhile Char.isDigit))),
        rest.dropWhile Char.isDigit)
      if letter = 'e' ∨ letter = 'E' then
        match rest with
        | sign :: first :: more =>
            let digits := (first :: more).takeWhile Char.isDigit
            let after := (first :: more).dropWhile Char.isDigit
            if sign.isDigit then positive
            else if first.isDigit ∧ sign = '+' then (some (digitsValue digits), after)
            else if first.isDigit ∧ sign = '-' then (some (-(digitsValue digits : Int)), after)
            else (none, letter :: rest)
        | [digit] => if digit.isDigit then positive else (none, letter :: rest)
        | [] => (none, letter :: rest)
      else (none, letter :: rest)
  | [] => (none, [])

/-- A token that starts with a number. -/
def numeric (text : Text) : Token × Text :=
  let (hasSign, negative, text) :=
    match text with
    | '+' :: rest => (true, false, rest)
    | '-' :: rest => (true, true, rest)
    | _ => (false, false, text)
  let whole := text.takeWhile Char.isDigit
  let rest := text.dropWhile Char.isDigit
  let (fraction, rest) :=
    match rest with
    | '.' :: more => (more.takeWhile Char.isDigit, more.dropWhile Char.isDigit)
    | _ => ([], rest)
  let rest := if fraction.isEmpty then text.dropWhile Char.isDigit else rest
  let (power, rest) := readPower rest
  let whole? :=
    if fraction.isEmpty ∧ power.isNone then some (clampedWhole negative whole) else none
  let value := doubleOf negative whole fraction power
  match rest with
  | '%' :: rest =>
      let share := Floating.quotientIn .double value (.ofQuotientIn .double false 100 1)
      (.percentage ⟨hasSign, share.roundedTo .single, whole?⟩, rest)
  | _ =>
      if startsName rest then
        let (unit, rest) := name rest
        (.dimension ⟨hasSign, value.roundedTo .single, whole?⟩ unit, rest)
      else (.number ⟨hasSign, value.roundedTo .single, whole?⟩, rest)

/-- A token that starts with a number sign. -/
def hash (rest : Text) : Token × Text :=
  if startsName rest then
    let (value, rest) := name rest
    (.idHash value, rest)
  else
    match rest with
    | next :: _ =>
        if next.isDigit || next == '-' then
          let (value, rest) := name rest
          (.hash value, rest)
        else (.delim '#', rest)
    | [] => (.delim '#', [])

/-- The token at the front of a text and the rest of the text. -/
def next (first : Char) (rest : Text) : Token × Text :=
  if isSpace first then
    (.blank (first :: rest.takeWhile isSpace), rest.dropWhile isSpace)
  else
    match first, rest with
    | '"', _ => string '"' rest
    | '\x27', _ => string '\x27' rest
    | '#', _ => hash rest
    | '$', '=' :: after => (.endMatch, after)
    | '*', '=' :: after => (.insideMatch, after)
    | '^', '=' :: after => (.startMatch, after)
    | '|', '=' :: after => (.dashMatch, after)
    | '~', '=' :: after => (.includeMatch, after)
    | '(', _ => (.openParen, rest)
    | ')', _ => (.closeParen, rest)
    | '[', _ => (.openBracket, rest)
    | ']', _ => (.closeBracket, rest)
    | '\x7b', _ => (.openBrace, rest)
    | '\x7d', _ => (.closeBrace, rest)
    | ',', _ => (.comma, rest)
    | ':', _ => (.colon, rest)
    | ';', _ => (.semicolon, rest)
    | '/', '*' :: after =>
        let (text, rest) := readComment after
        (.comment text, rest)
    | '<', '!' :: '-' :: '-' :: after => (.cdo, after)
    | '@', _ =>
        if startsName rest then
          let (keyword, rest) := name rest
          (.atKeyword keyword, rest)
        else (.delim '@', rest)
    | '-', '-' :: '>' :: after => (.cdc, after)
    | _, _ =>
        if startsNumber (first :: rest) then numeric (first :: rest)
        else if (first = '+' ∨ first = '-') ∧ startsNumber rest then numeric (first :: rest)
        else if startsName (first :: rest) then identLike (first :: rest)
        else (.delim first, rest)

end Lexer

/-- A token, the text it was read from, and where it starts. -/
structure Lexeme where
  token : Token
  source : Text
  start : Location
deriving DecidableEq, Repr

/-- The location after a lexeme. -/
def Lexeme.stop (lexeme : Lexeme) : Location := lexeme.start.after lexeme.source

/-- The lexemes of a text of at most `fuel` characters. -/
def Lexeme.readFrom : Nat → Location → Text → List Lexeme
  | 0, _, _ => []
  | _, _, [] => []
  | fuel + 1, location, first :: rest =>
      let (token, after) := Lexer.next first rest
      let source := (first :: rest).take (rest.length + 1 - after.length)
      let lexeme : Lexeme := ⟨token, source, location⟩
      lexeme :: readFrom fuel lexeme.stop after

/-- The lexemes of a stylesheet. -/
def Lexeme.read (text : Text) : List Lexeme := Lexeme.readFrom text.length .start text

end StyledMarkup.Css
