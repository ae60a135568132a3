import StyledMarkup.Css.Declaration

namespace StyledMarkup.Css

/-!
# Registering custom properties

A custom property can be registered with a grammar for its values.  The
grammar is a string of alternatives; its initial value has to follow one of
them, except for the grammar that allows everything.
-/

/-- How often a part of a grammar may occur. -/
inductive Repetition where
  | once
  | spaced
  | listed
deriving DecidableEq, Repr

/-- An alternative of a grammar: a type of values, or a word. -/
structure Alternative where
  isType : Bool
  name : Text
  repetition : Repetition
deriving DecidableEq, Repr

namespace Alternative

/-- Types of values. -/
def typeNames : List String :=
  ["length", "number", "percentage", "length-percentage", "string", "color", "image", "url",
    "integer", "angle", "time", "resolution", "transform-function", "transform-list",
    "custom-ident"]

/-- Characters that may stand between alternatives. -/
def isSpace (c : Char) : Bool := c == ' ' || c == '\t'

/-- Characters that a word can start with. -/
def startsWord (c : Char) : Bool := c.isAlpha || c == '_' || 0x80 ≤ c.toNat

/-- Characters of a word. -/
def isInWord (c : Char) : Bool := startsWord c || c.isDigit || c == '-'

/-- What the character behind an alternative says about repetitions. -/
def readRepetition : Text → Repetition × Text
  | '+' :: rest => (.spaced, rest)
  | '#' :: rest => (.listed, rest)
  | rest => (.once, rest)

/-- The alternative at the front of a text. -/
def read? (text : Text) : Option (Alternative × Text) :=
  match text.dropWhile isSpace with
  | '<' :: rest =>
      let name := rest.takeWhile (· != '>')
      match rest.drop name.length with
      | [] => none
      | _ :: rest =>
          if isOneOf ["transform-list"] name then some (⟨true, Text.lower name, .once⟩, rest)
          else if isOneOf typeNames name then
            let (repetition, rest) := readRepetition rest
            some (⟨true, Text.lower name, repetition⟩, rest)
          else none
  | first :: rest =>
      if startsWord first then
        let more := rest.takeWhile isInWord
        let (repetition, rest) := readRepetition (rest.drop more.length)
        some (⟨false, first :: more, repetition⟩, rest)
      else none
  | [] => none

/-- The text of an alternative. -/
def text (alternative : Alternative) : Text :=
  let name := if alternative.isType then '<' :: alternative.name ++ ['>'] else alternative.name
  match alternative.repetition with
  | .once => name
  | .spaced => name ++ ['+']
  | .listed => name ++ ['#']

/-- Takes a single value of an alternative. -/
def takeOne (alternative : Alternative) : Parser Text := do
  let is := fun (name : String) => alternative.isType && alternative.name == Text.of name
  let written := fun (value : Parser Value.Written) => do pure (← value).text
  if is "length" then written Value.aLength
  else if is "number" then written Value.aNumber
  else if is "percentage" then written Value.aShare
  else if is "length-percentage" then written Value.anExtent
  else if is "string" then written Value.aString
  else if is "color" then written Value.aColor
  else if is "image" then written Value.anImage
  else if is "url" then written Value.anAddress
  else if is "integer" then written Value.anInteger
  else if is "angle" then do pure (← Value.angle).fullText
  else if is "time" then written Value.aTime
  else if is "resolution" then do pure (← Value.resolution).text
  else if is "transform-function" then Property.transformStep
  else if is "transform-list" then written Property.transform
  else if is "custom-ident" then written Value.aName
  else do
    let name ← Parser.ident
    if name = alternative.name then pure (identText name) else Parser.fail .invalidValue

/-- Takes values with blanks between them up to the end, at most `fuel` of them. -/
def takeSpaced (alternative : Alternative) : Nat → Parser (List Text)
  | 0 => pure []
  | fuel + 1 => do
      let value ← alternative.takeOne
      if ← Parser.isFinished then pure [value]
      else do pure (value :: (← takeSpaced alternative fuel))

/-- Takes values with commas between them up to the end, at most `fuel` of them. -/
def takeListed (alternative : Alternative) : Nat → Parser (List Text)
  | 0 => pure []
  | fuel + 1 => do
      let value ← alternative.takeOne
      if ← Parser.isFinished then pure [value]
      else do
        Parser.comma
        pure (value :: (← takeListed alternative fuel))

/-- Takes the values of an alternative. -/
def take (alternative : Alternative) : Parser Text := do
  let fuel := (← Parser.remaining) + 1
  match alternative.repetition with
  | .once => alternative.takeOne
  | .spaced => do pure (Text.join [' '] (← alternative.takeSpaced fuel))
  | .listed => do pure (Text.join [',', ' '] (← alternative.takeListed fuel))

end Alternative

/-- The values that a custom property can have: everything, or some alternatives. -/
inductive PropertyGrammar where
  | everything
  | oneOf (alternatives : List Alternative)
deriving DecidableEq, Repr

namespace PropertyGrammar

/-- The alternatives of a text with bars between them, at most `fuel` of them. -/
def alternatives? : Nat → Text → Option (List Alternative)
  | 0, _ => none
  | fuel + 1, text =>
      match Alternative.read? text with
      | none => none
      | some (alternative, rest) =>
          match rest.dropWhile Alternative.isSpace with
          | [] => some [alternative]
          | '|' :: rest => (alternatives? fuel rest).map fun more => alternative :: more
          | _ => none

/-- A text without blanks at both ends. -/
def trimmed (text : Text) : Text :=
  ((text.dropWhile Alternative.isSpace).reverse.dropWhile Alternative.isSpace).reverse

/-- The grammar that a text describes. -/
def read? (text : Text) : Option PropertyGrammar :=
  let text := trimmed text
  if text = ['*'] then some .everything
  else (alternatives? (text.length + 1) text).map .oneOf

/-- The text of a grammar, in quotes. -/
def text : PropertyGrammar → Text
  | .everything => Text.of "\"*\""
  | .oneOf alternatives =>
      '"' :: Text.join (Text.of " | ") (alternatives.map Alternative.text) ++ ['"']

/-- Fails behind the next token, which no alternative could take. -/
def refuse : Parser Text := do
  let component ← Parser.next
  Parser.failAt component.first.stop (.unexpectedToken component.token)

/-- Takes a value of a grammar. -/
def take : PropertyGrammar → Parser Text
  | .everything => do
      if ← Parser.isFinished then pure [] else do pure (tokensText (← takeGood))
  | .oneOf alternatives => fun input =>
      match alternatives.findSome? fun alternative =>
        match alternative.take input with
        | .ok result => some result
        | .error _ => none
      with
      | some result => .ok result
      | none => refuse input

/-- The value that is written in a text of its own, whose locations start anew. -/
def readValue (grammar : PropertyGrammar) (source : Text) : Except Failure Text :=
  let finish := Location.start.after source
  let components := Component.ofLexemes finish (Lexeme.read source)
  match grammar.take ⟨components, finish⟩ with
  | .ok (value, _) => .ok value
  | .error failure => .error failure

end PropertyGrammar

/-- What has been said about a custom property so far. -/
structure Particulars where
  grammar : Option PropertyGrammar
  inherits : Option Bool
  initial : Option Text
deriving DecidableEq, Repr

namespace Registration

/-- Takes the string that describes a grammar. -/
def takeGrammar : Parser PropertyGrammar := do
  match PropertyGrammar.read? (← Parser.string) with
  | some grammar => pure grammar
  | none => Parser.fail .invalidValue

/-- Takes a word for yes or no. -/
def takeSwitch : Parser Bool := do
  pure ((← Parser.word ["true", "false"]) == Text.of "true")

/-- Takes something that is said about a custom property. -/
def takeParticular (name : Text) : Parser (Particulars → Particulars) := do
  let change ← Parser.before isSemicolon do
    Parser.token .colon
    let change : Parser (Particulars → Particulars) :=
      if isOneOf ["syntax"] name then do
        let grammar ← takeGrammar
        pure fun particulars => { particulars with grammar := some grammar }
      else if isOneOf ["inherits"] name then do
        let inherits ← takeSwitch
        pure fun particulars => { particulars with inherits := some inherits }
      else if isOneOf ["initial-value"] name then do
        let source := Component.sources (← Parser.takeAll)
        pure fun particulars => { particulars with initial := some source }
      else Parser.fail .invalidDeclaration
    change
  let _ ← Parser.optional (Parser.token .semicolon)
  pure change

/-- A value or the fault of a text of its own. -/
def lift {α : Type} (result : Except Failure α) : Parser α := fun input =>
  result.map fun value => (value, input)

/-- Takes a value that must be there. -/
def demand {α : Type} (value : Option α) : Parser α :=
  match value with
  | some value => pure value
  | none => Parser.fail .invalidRuleBody

/-- Takes the registration of a custom property with a name. -/
def take (name : Text) : Parser Registration := do
  let changes ← Declaration.takeStrictly takeParticular
  let particulars := changes.foldl (fun particulars change => change particulars) ⟨none, none, none⟩
  let grammar ← demand particulars.grammar
  let inherits ← demand particulars.inherits
  let initial ←
    match grammar, particulars.initial with
    | .everything, none => pure none
    | grammar, source => do
        let source ← demand source
        pure (some (← lift (grammar.readValue source)))
  pure ⟨name, grammar.text, inherits, initial⟩

end Registration

end StyledMarkup.Css
