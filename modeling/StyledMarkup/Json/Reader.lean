import StyledMarkup.Json.Fault

namespace StyledMarkup.Json

/-!
# Reading JSON text

Readers consume a text from the front.  A reader that stops records where it
stopped; faults of a value that was read completely are placed after the
list or record around it.

Nesting is limited: a reader for values gets the number of lists and records
it may still open.  Values that nobody asked for are skipped without a limit
and with a weaker check.
-/

/-- Where reading stopped. -/
inductive Place where
  /-- So many bytes into the rest of the text. -/
  | into (bytes : Nat) (rest : Text)
  /-- After the list or record around this place. -/
  | aroundHere (rest : Text)

/-- A fault and the place where reading stopped. -/
structure Halt where
  fault : Fault
  place : Place

/-- Readers consume a text from the front. -/
abbrev Reader := StateT Text (Except Halt)

namespace Reader

/-- Stops in front of the rest of the text. -/
def failHere {α : Type} (fault : Fault) : Reader α :=
  fun rest => .error ⟨fault, .into 0 rest⟩

/-- Stops after the next byte, or at the end of the text. -/
def failAtNext {α : Type} (fault : Fault) : Reader α :=
  fun rest => .error ⟨fault, .into 1 rest⟩

/-- Stops with a fault that belongs to the list or record around this place. -/
def failAround {α : Type} (fault : Fault) : Reader α :=
  fun rest => .error ⟨fault, .aroundHere rest⟩

/-- The next character, which is not consumed. -/
def peek : Reader (Option Char) := fun rest => .ok (rest.head?, rest)

/-- Consumes the next character. -/
def advance : Reader Unit := fun rest => .ok ((), rest.drop 1)

/-- Space, tab, line feed and carriage return separate tokens. -/
def isSpace (c : Char) : Bool := c == ' ' || c == '\t' || c == '\n' || c == '\r'

/-- Skips blanks and shows the next character. -/
def peekToken : Reader (Option Char) := fun rest =>
  let rest := rest.dropWhile isSpace
  .ok (rest.head?, rest)

/-- Consumes the digits at the front. -/
def digits : Reader Text := fun rest =>
  .ok (rest.takeWhile Char.isDigit, rest.dropWhile Char.isDigit)

/-- Number of characters that are left. -/
def remaining : Reader Nat := fun rest => .ok (rest.length, rest)

/-- The rest of a text after the end of a list that was left at this place. -/
def afterListEnd (rest : Text) : Text :=
  match rest.dropWhile isSpace with
  | ']' :: rest => rest
  | ',' :: rest => rest.dropWhile isSpace
  | rest => rest

/-- The rest of a text after the end of a record that was left at this place. -/
def afterRecordEnd (rest : Text) : Text :=
  match rest.dropWhile isSpace with
  | '\x7d' :: rest => rest
  | rest => rest

/-- Places a fault that belongs to the list or record that is left. -/
def leaving (after : Text → Text) (halt : Halt) : Halt :=
  match halt.place with
  | .into _ _ => halt
  | .aroundHere rest => ⟨halt.fault, .into 0 (after rest)⟩

/-- Reads what is inside a list or record and then its end. -/
def enclosed {α : Type} (body : Reader α) (close : Reader Unit) (after : Text → Text) : Reader α :=
  fun rest =>
    match (do let value ← body; close; pure value : Reader α) rest with
    | .ok result => .ok result
    | .error halt => .error (leaving after halt)

/-- Consumes the letters of a word. -/
def word : List Char → Reader Unit
  | [] => pure ()
  | letter :: letters => do
      match ← peek with
      | none => failHere .endInValue
      | some c => if c = letter then do advance; word letters else failAtNext .expectedWord

/-! ## Numbers -/

/-- The greatest whole number that is kept exactly. -/
def greatestWhole : Nat := 18446744073709551615

/-- Adds digits to a number while it stays exact; also returns how many digits were added. -/
def addDigits (number count : Nat) : Text → Nat × Nat
  | [] => (number, count)
  | digit :: rest =>
      let next := number * 10 + (digit.toNat - '0'.toNat)
      if next ≤ greatestWhole then addDigits next (count + 1) rest else (number, count)

/-- The greatest power of ten that a float holds. -/
def greatestTen : Nat := 308

/-- A float times a power of ten, in one step. -/
def scaledOnce? (number : Binary) (exponent : Int) : Option Binary :=
  match Binary.ofDecimal? .double false 1 exponent.natAbs with
  | none => none
  | some power =>
      if 0 ≤ exponent then Binary.times? .double number power
      else Binary.dividedBy? .double number power

/-- A float times a power of ten, in at most `steps` further steps that a float can hold. -/
def scaledIn? : Nat → Binary → Int → Option Binary
  | 0, number, exponent => scaledOnce? number exponent
  | steps + 1, number, exponent =>
      if exponent.natAbs ≤ greatestTen then scaledOnce? number exponent
      else if number.isZero then some number
      else if 0 ≤ exponent then none
      else
        match scaledOnce? number (-greatestTen) with
        | none => none
        | some smaller => scaledIn? steps smaller (exponent + greatestTen)

/-- A float that began as a whole number of 64 bits, times a power of ten.

Three steps downwards take every such float to zero. -/
def scaled? (number : Binary) (exponent : Int) : Option Binary := scaledIn? 4 number exponent

/-- The float for a sign, a whole number and a power of ten. -/
def float (negative : Bool) (significand : Nat) (exponent : Int) : Reader Number :=
  match (Binary.nearest? .double false significand 1).bind (scaled? · exponent) with
  | some value => pure (.real { value with negative := negative })
  | none => failHere .numberTooLarge

/-- The greatest power of ten that is read. -/
def greatestPower : Nat := 2147483647

/-- The first digits of a power of ten that make it too great, if there are any. -/
def excessiveDigits? (power : Nat) (seen : Text) : Text → Option Text
  | [] => none
  | digit :: rest =>
      let next := power * 10 + (digit.toNat - '0'.toNat)
      if next ≤ greatestPower then excessiveDigits? next (seen ++ [digit]) rest
      else some (seen ++ [digit])

/-- Keeps a power of ten in the range of 32-bit numbers. -/
def clampedPower (power : Int) : Int := max (-2147483648) (min power 2147483647)

/-- Reads the power of ten after the letter `e`. -/
def exponentPart (negative : Bool) (significand : Nat) (exponent : Int) : Reader Number := do
  advance
  let downwards ←
    match ← peek with
    | some '+' => do advance; pure false
    | some '-' => do advance; pure true
    | _ => pure false
  match ← peek with
  | none => failHere .endInValue
  | some c =>
      if ! c.isDigit then failAtNext .invalidNumber
      else fun rest =>
        let power := rest.takeWhile Char.isDigit
        let after := rest.dropWhile Char.isDigit
        match excessiveDigits? 0 [] power with
        | some excess =>
            if significand ≠ 0 ∧ ! downwards then failHere .numberTooLarge (rest.drop excess.length)
            else .ok (.real (Binary.zero .double negative), after)
        | none =>
            let amount : Int := (addDigits 0 0 power).1
            let total := if downwards then exponent - amount else exponent + amount
            float negative significand (clampedPower total) after

/-- Reads an optional power of ten and makes the float. -/
def floatEnd (negative : Bool) (significand : Nat) (exponent : Int) : Reader Number := do
  match ← peek with
  | some 'e' => exponentPart negative significand exponent
  | some 'E' => exponentPart negative significand exponent
  | _ => float negative significand exponent

/-- Reads the digits after the decimal point. -/
def fractionPart (negative : Bool) (significand : Nat) (exponent : Int) : Reader Number := do
  advance
  let fraction ← digits
  if fraction.isEmpty then
    match ← peek with
    | none => failAtNext .endInValue
    | some _ => failAtNext .invalidNumber
  else
    let (significand, used) := addDigits significand 0 fraction
    floatEnd negative significand (exponent - used)

/-- A whole number with a sign; zero with a minus sign and great numbers are floats. -/
def wholeNumber (negative : Bool) (significand : Nat) : Reader Number :=
  if ! negative then pure (.integer significand)
  else if significand = 0 ∨ 9223372036854775808 < significand then float true significand 0
  else pure (.integer (-significand))

/-- Reads a number after its sign. -/
def number (negative : Bool) : Reader Number := do
  match ← peek with
  | none => failHere .endInValue
  | some first =>
      if ! first.isDigit then failAtNext .invalidNumber
      else
        let whole ← if first = '0' then do advance; pure ['0'] else digits
        match first, ← peek with
        | '0', some next => if next.isDigit then failAtNext .invalidNumber else pure ()
        | _, _ => pure ()
        let (significand, used) := addDigits 0 0 whole
        let dropped : Nat := whole.length - used
        match ← peek with
        | some '.' => fractionPart negative significand dropped
        | some 'e' => exponentPart negative significand dropped
        | some 'E' => exponentPart negative significand dropped
        | _ => if dropped = 0 then wholeNumber negative significand
               else float negative significand dropped

/-- Skips a number after its sign; its size does not matter. -/
def skipNumber : Reader Unit := do
  match ← peek with
  | none => failHere .invalidNumber
  | some first =>
      if ! first.isDigit then failAtNext .invalidNumber
      else
        if first = '0' then do
          advance
          match ← peek with
          | some next => if next.isDigit then failAtNext .invalidNumber else pure ()
          | none => pure ()
        else discard digits
        if (← peek) = some '.' then do
          advance
          if (← digits).isEmpty then failAtNext .invalidNumber
        match ← peek with
        | some letter =>
            if letter = 'e' ∨ letter = 'E' then do
              advance
              match ← peek with
              | some sign => if sign = '+' ∨ sign = '-' then advance else pure ()
              | none => pure ()
              match ← peek with
              | some digit => if digit.isDigit then discard digits else failAtNext .invalidNumber
              | none => failHere .invalidNumber
            else pure ()
        | none => pure ()

/-! ## Texts -/

/-- Value of a hexadecimal digit. -/
def hexValue? (c : Char) : Option Nat :=
  if c.isDigit then some (c.toNat - '0'.toNat)
  else if 'a' ≤ c ∧ c ≤ 'f' then some (c.toNat - 'a'.toNat + 10)
  else if 'A' ≤ c ∧ c ≤ 'F' then some (c.toNat - 'A'.toNat + 10)
  else none

/-- Reads four hexadecimal digits. -/
def hexUnit : Reader Nat := fun rest =>
  match (rest.take 4).map hexValue? with
  | [some first, some second, some third, some fourth] =>
      .ok (((first * 16 + second) * 16 + third) * 16 + fourth, rest.drop 4)
  | _ =>
      if Text.byteLength rest < 4 then .error ⟨.endInText, .into 0 []⟩
      else .error ⟨.invalidEscape, .into 4 rest⟩

/-- Reads one character of the second escape of a surrogate pair. -/
def pairSign (sign : Char) : Reader Unit := do
  match ← peek with
  | none => failHere .endInText
  | some c => if c = sign then advance else failAtNext .cutSurrogatePair

/-- Reads a character that is written by its code, with two escapes for a surrogate pair. -/
def codedChar : Reader Char := do
  let first ← hexUnit
  if 0xDC00 ≤ first ∧ first ≤ 0xDFFF then failHere .loneSurrogate
  else if first < 0xD800 ∨ 0xDBFF < first then pure (Char.ofNat first)
  else
    pairSign '\\'
    pairSign 'u'
    let second ← hexUnit
    if second < 0xDC00 ∨ 0xDFFF < second then failHere .loneSurrogate
    else pure (Char.ofNat (0x10000 + (first - 0xD800) * 0x400 + (second - 0xDC00)))

/-- The character that a letter after a backslash stands for. -/
def shortEscape? : Char → Option Char
  | '"' => some '"'
  | '\\' => some '\\'
  | '/' => some '/'
  | 'b' => some '\x08'
  | 'f' => some '\x0c'
  | 'n' => some '\n'
  | 'r' => some '\r'
  | 't' => some '\t'
  | _ => none

/-- Reads what follows a backslash, with a reader for the code after `u`. -/
def escapeWith {α : Type} (coded : Reader α) (short : Char → α) : Reader α := do
  match ← peek with
  | none => failHere .endInText
  | some 'u' => do advance; coded
  | some letter =>
      match shortEscape? letter with
      | some c => do advance; pure (short c)
      | none => failAtNext .invalidEscape

/-- Reads the rest of a text after its opening quote, at most `fuel` characters. -/
def textRest : Nat → Reader Text
  | 0 => failHere .endInText
  | fuel + 1 => do
      match ← peek with
      | none => failHere .endInText
      | some '"' => do advance; pure []
      | some '\\' => do
          advance
          let c ← escapeWith codedChar id
          let rest ← textRest fuel
          pure (c :: rest)
      | some c =>
          if c.toNat < 0x20 then failAtNext .controlCharacter
          else do
            advance
            let rest ← textRest fuel
            pure (c :: rest)

/-- Reads a text that starts with a quote. -/
def text : Reader Text := do
  advance
  textRest ((← remaining) + 1)

/-- Skips the rest of a text after its opening quote; codes need not be characters. -/
def skipTextRest : Nat → Reader Unit
  | 0 => failHere .endInText
  | fuel + 1 => do
      match ← peek with
      | none => failHere .endInText
      | some '"' => advance
      | some '\\' => do
          advance
          escapeWith (discard hexUnit) (fun _ => ())
          skipTextRest fuel
      | some c =>
          if c.toNat < 0x20 then failHere .controlCharacter
          else do advance; skipTextRest fuel

/-- Skips a text that starts with a quote. -/
def skipText : Reader Unit := do
  advance
  skipTextRest ((← remaining) + 1)

/-! ## Lists and records -/

/-- Checks that an item follows the comma in a list. -/
def itemAfterComma : Reader Unit := do
  match ← peekToken with
  | some ']' => failAtNext .trailingComma
  | some _ => pure ()
  | none => failAtNext .endInValue

/-- Whether another item follows, given what has to follow a comma. -/
def nextItem (afterComma : Reader Unit) (first : Bool) : Reader Bool := do
  match ← peekToken with
  | none => failAtNext .endInList
  | some ']' => pure false
  | some c =>
      if first then pure true
      else if c = ',' then do advance; afterComma; pure true
      else failAtNext .expectedListSeparator

/-- Checks that a key follows the comma in a record. -/
def keyAfterComma : Reader Unit := do
  match ← peekToken with
  | some '"' => pure ()
  | some '\x7d' => failAtNext .trailingComma
  | some _ => failAtNext .keyNotText
  | none => failAtNext .endInValue

/-- Checks that a key follows the comma in a record that is skipped. -/
def skippedKeyAfterComma : Reader Unit := do
  match ← peekToken with
  | some '"' => pure ()
  | some _ => failAtNext .keyNotText
  | none => failAtNext .endInRecord

/-- Whether another key follows, given what has to follow a comma. -/
def nextKey (afterComma : Reader Unit) (first : Bool) : Reader Bool := do
  match ← peekToken with
  | none => failAtNext .endInRecord
  | some '\x7d' => pure false
  | some c =>
      if first then
        if c = '"' then pure true else failAtNext .keyNotText
      else if c = ',' then do advance; afterComma; pure true
      else failAtNext .expectedRecordSeparator

/-- Reads the colon after a key. -/
def colon : Reader Unit := do
  match ← peekToken with
  | some ':' => advance
  | some _ => failAtNext .expectedColon
  | none => failAtNext .endInRecord

/-- Reads the end of a list. -/
def listEnd : Reader Unit := do
  match ← peekToken with
  | some ']' => advance
  | some ',' => do
      advance
      match ← peekToken with
      | some ']' => failAtNext .trailingComma
      | _ => failAtNext .trailingText
  | some _ => failAtNext .trailingText
  | none => failAtNext .endInList

/-- Reads the end of a record. -/
def recordEnd : Reader Unit := do
  match ← peekToken with
  | some '\x7d' => advance
  | some ',' => failAtNext .trailingComma
  | some _ => failAtNext .trailingText
  | none => failAtNext .endInRecord

/-- Goes on with a value for each item of a list, at most `fuel` of them. -/
def foldItems {σ : Type} (afterComma : Reader Unit) (step : σ → Reader σ) :
    Nat → Bool → σ → Reader σ
  | 0, _, state => pure state
  | fuel + 1, first, state => do
      if ← nextItem afterComma first then
        let state ← step state
        foldItems afterComma step fuel false state
      else pure state

/-- Goes on with a value for each key of a record, at most `fuel` of them. -/
def foldKeys {σ : Type} (afterComma : Reader Unit) (step : σ → Reader σ) :
    Nat → Bool → σ → Reader σ
  | 0, _, state => pure state
  | fuel + 1, first, state => do
      if ← nextKey afterComma first then
        let state ← step state
        foldKeys afterComma step fuel false state
      else pure state

/-- Reads a list that starts at its bracket; the items are collected in order. -/
def listOf {α : Type} (item : Reader α) : Reader (List α) := do
  advance
  let fuel := (← remaining) + 1
  let step := fun (items : List α) => do
    let next ← item
    pure (next :: items)
  let items ← enclosed (foldItems itemAfterComma step fuel true []) listEnd afterListEnd
  pure items.reverse

/-- Reads a record that starts at its brace; each key, already read, is handed to the step. -/
def recordFold {σ : Type} (step : σ → Text → Reader σ) (start : σ) (finish : σ → Reader α) :
    Reader α := do
  advance
  let fuel := (← remaining) + 1
  let keyed := fun state => do
    let key ← text
    step state key
  let body := do
    let state ← foldKeys keyAfterComma keyed fuel true start
    finish state
  enclosed body recordEnd afterRecordEnd

/-! ## Values -/

/-- Reads a value, given readers for lists and for records that start at their bracket. -/
def valueWith (list record : Reader Value) : Reader Value := do
  match ← peekToken with
  | none => failAtNext .endInValue
  | some 'n' => do word ['n', 'u', 'l', 'l']; pure .null
  | some 't' => do word ['t', 'r', 'u', 'e']; pure (.bool true)
  | some 'f' => do word ['f', 'a', 'l', 's', 'e']; pure (.bool false)
  | some '"' => do pure (.text (← text))
  | some '-' => do advance; pure (.number (← number true))
  | some '[' => list
  | some '\x7b' => record
  | some c => if c.isDigit then do pure (.number (← number false)) else failAtNext .expectedValue

/-- Reads a value that opens at most `depth` lists and records inside each other. -/
def value : Nat → Reader Value
  | 0 => valueWith (failAtNext .tooDeep) (failAtNext .tooDeep)
  | depth + 1 =>
      let list := do pure (.list (← listOf (value depth)))
      let field := fun (fields : List (Text × Value)) key => do
        colon
        let item ← value depth
        pure ((key, item) :: fields)
      valueWith list (recordFold field [] fun fields => pure (.record fields.reverse))

/-- Skips a value, given readers that skip lists and records. -/
def skipValueWith (list record : Reader Unit) : Reader Unit := do
  match ← peekToken with
  | none => failAtNext .endInValue
  | some 'n' => word ['n', 'u', 'l', 'l']
  | some 't' => word ['t', 'r', 'u', 'e']
  | some 'f' => word ['f', 'a', 'l', 's', 'e']
  | some '"' => skipText
  | some '-' => do advance; skipNumber
  | some '[' => list
  | some '\x7b' => record
  | some c => if c.isDigit then skipNumber else failAtNext .expectedValue

/-- Skips a value that opens at most `depth` lists and records inside each other. -/
def skipNested : Nat → Reader Unit
  | 0 => skipValueWith (failAtNext .tooDeep) (failAtNext .tooDeep)
  | depth + 1 =>
      let list := do
        advance
        foldItems (pure ()) (fun _ => skipNested depth) ((← remaining) + 1) true ()
        advance
      let field := fun (_ : Unit) => do
        skipText
        colon
        skipNested depth
      let record := do
        advance
        foldKeys skippedKeyAfterComma field ((← remaining) + 1) true ()
        advance
      skipValueWith list record

/-- Skips a value, however deep it is. -/
def skipValue : Reader Unit := do
  skipNested ((← remaining) + 1)

/-- Stops because of a value of the wrong kind; a value without parts is read first. -/
def wrongKind {α : Type} (expected : Expected) : Reader α := do
  match ← peek with
  | some '[' => failHere (.wrongKind .list expected)
  | some '\x7b' => failHere (.wrongKind .record expected)
  | _ => do
      let found ← valueWith (failAtNext .expectedValue) (failAtNext .expectedValue)
      failHere (.wrongKind (Found.of found) expected)

/-- Reads a text, or stops because of a value of another kind. -/
def expectText (expected : Expected) : Reader Text := do
  match ← peekToken with
  | none => failAtNext .endInValue
  | some '"' => text
  | some _ => wrongKind expected

/-- Reads a truth value, or stops because of a value of another kind. -/
def expectBool : Reader Bool := do
  match ← peekToken with
  | none => failAtNext .endInValue
  | some 't' => do word ['t', 'r', 'u', 'e']; pure true
  | some 'f' => do word ['f', 'a', 'l', 's', 'e']; pure false
  | some _ => wrongKind .bool

/-- Reads the word `null`, or stops because of a value of another kind. -/
def expectNull : Reader Unit := do
  match ← peekToken with
  | none => failAtNext .endInValue
  | some 'n' => word ['n', 'u', 'l', 'l']
  | some _ => wrongKind .null

/-- Reads a list, or stops because of a value of another kind; lists may open `depth` more. -/
def expectList {α : Type} (depth : Nat) (item : Nat → Reader α) : Reader (List α) := do
  match ← peekToken with
  | none => failAtNext .endInValue
  | some '[' =>
      match depth with
      | 0 => failAtNext .tooDeep
      | depth + 1 => listOf (item depth)
  | some _ => wrongKind .list

/-- Number of lists and records that may be open at once. -/
def depthLimit : Nat := 127

/-- Position at which a reader stopped in a text. -/
def stopPosition (source : Text) (halt : Halt) : Position :=
  let (bytes, rest) :=
    match halt.place with
    | .into bytes rest => (bytes, rest)
    | .aroundHere rest => (0, rest)
  Position.afterBytes ⟨1, 0⟩ (Text.byteLength source - Text.byteLength rest + bytes) source

/-- Reads a whole text; only blanks may follow the value. -/
def run {α : Type} (reader : Reader α) (source : Text) : Except Failure α :=
  let whole := do
    let value ← reader
    match ← peekToken with
    | none => pure value
    | some _ => failAtNext .trailingText
  match whole source with
  | .ok (value, _) => .ok value
  | .error halt => .error ⟨halt.fault, some (stopPosition source halt)⟩

end Reader

/-- The value written in a text. -/
def Value.read (source : Text) : Except Failure Value :=
  (Reader.value Reader.depthLimit).run source

end StyledMarkup.Json
