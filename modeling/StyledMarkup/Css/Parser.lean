import StyledMarkup.Css.Component
import StyledMarkup.Css.Fault

namespace StyledMarkup.Css

/-!
# Parsers

A parser takes components from the front of its input.  The input of a nested
parser ends in front of a delimiter or a closing bracket, and a parser that is
run on its own input has to take all of it.
-/

/-- Components that are left, and where they end. -/
structure Input where
  components : List Component
  stop : Location

/-- Parsers take components from the front of an input. -/
abbrev Parser := StateT Input (Except Failure)

/-- The location in front of the next component. -/
def Input.here (input : Input) : Location :=
  match input.components with
  | [] => input.stop
  | component :: _ => component.start

/-- The input without the components at its front that satisfy a condition. -/
def Input.dropWhile (condition : Component → Bool) (input : Input) : Input :=
  { input with components := input.components.dropWhile condition }

/-- Blanks and comments may stand between components. -/
def isGap (component : Component) : Bool := component.isBlank || component.isComment

namespace Parser

/-- Fails at a location. -/
def failAt {α : Type} (location : Location) (fault : Fault) : Parser α :=
  fun _ => .error ⟨fault, location⟩

/-- The location in front of the next component. -/
def here : Parser Location := fun input => .ok (input.here, input)

/-- Fails in front of the next component. -/
def fail {α : Type} (fault : Fault) : Parser α := fun input => .error ⟨fault, input.here⟩

/-- Takes the next component, which may be a blank. -/
def nextWithBlanks : Parser Component := fun input =>
  let input := input.dropWhile Component.isComment
  match input.components with
  | [] => .error ⟨.endOfInput, input.stop⟩
  | component :: rest => .ok (component, { input with components := rest })

/-- Takes the next component after blanks. -/
def next : Parser Component := fun input =>
  let input := input.dropWhile isGap
  match input.components with
  | [] => .error ⟨.endOfInput, input.stop⟩
  | component :: rest => .ok (component, { input with components := rest })

/-- Skips blanks and comments. -/
def skipGaps : Parser Unit := fun input => .ok ((), input.dropWhile isGap)

/-- The next component after blanks, which stays. -/
def peek? : Parser (Option Component) := fun input =>
  .ok ((input.dropWhile isGap).components.head?, input)

/-- The result of a parser, or nothing taken and no result. -/
def optional {α : Type} (parser : Parser α) : Parser (Option α) := fun input =>
  match parser input with
  | .ok (value, input) => .ok (some value, input)
  | .error _ => .ok (none, input)

/-- The first parser, or the second one if the first one fails. -/
def orElse {α : Type} (first second : Parser α) : Parser α := fun input =>
  match first input with
  | .ok result => .ok result
  | .error _ => second input

/-- Nothing but blanks may be left. -/
def finished : Parser Unit := fun input =>
  match (input.dropWhile isGap).components with
  | [] => .ok ((), input)
  | component :: _ => .error ⟨.unexpectedToken component.token, input.here⟩

/-- Runs a parser that has to take a whole input. -/
def onInput {α : Type} (input : Input) (parser : Parser α) : Except Failure α :=
  match (do let value ← parser; finished; pure value : Parser α) input with
  | .ok (value, _) => .ok value
  | .error failure => .error failure

/-- Runs a parser on the content of a block. -/
def onContent {α : Type} (content : List Component) (closing : Location) (parser : Parser α) :
    Parser α := fun input =>
  match onInput ⟨content, closing⟩ parser with
  | .ok value => .ok (value, input)
  | .error failure => .error failure

/-- The components in front of a delimiter, as an input of their own. -/
def splitBefore (isDelimiter : Token → Bool) (input : Input) : Input × Input :=
  let inside := input.components.takeWhile fun component => ! isDelimiter component.token
  let rest := { input with
    components := input.components.dropWhile fun component => ! isDelimiter component.token }
  (⟨inside, rest.here⟩, rest)

/-- Runs a parser on all components in front of a delimiter. -/
def before {α : Type} (isDelimiter : Token → Bool) (parser : Parser α) : Parser α := fun input =>
  let (inside, rest) := splitBefore isDelimiter input
  match onInput inside parser with
  | .ok value => .ok (value, rest)
  | .error failure => .error failure

/-- Takes a component that is a certain one. -/
def expect {α : Type} (accept : Component → Option α) : Parser α := fun input =>
  let rest := input.dropWhile isGap
  match rest.components with
  | [] => .error ⟨.endOfInput, rest.stop⟩
  | component :: after =>
      match accept component with
      | some value => .ok (value, { rest with components := after })
      | none => .error ⟨.unexpectedToken component.token, input.here⟩

/-- Takes an identifier. -/
def ident : Parser Text := expect Component.ident?

/-- Takes a certain token. -/
def token (expected : Token) : Parser Unit :=
  expect fun component => if component.token = expected then some () else none

/-- Takes a certain identifier, in upper or lower case. -/
def keyword (expected : String) : Parser Unit :=
  expect fun component =>
    match component.token with
    | .ident name => if Text.sameIgnoringCase name (Text.of expected) then some () else none
    | _ => none

/-- Takes a block that is opened by a certain token. -/
def block (opening : Token) : Parser (List Component × Location) :=
  expect fun component =>
    match component with
    | .block first content closing _ => if first.token = opening then some (content, closing) else none
    | .leaf _ => none

/-- Takes one of some identifiers, in upper or lower case; the result is in lower case. -/
def word (words : List String) : Parser Text :=
  expect fun component =>
    match component.token with
    | .ident name => if isOneOf words name then some (Text.lower name) else none
    | _ => none

/-- Takes the string of a string token. -/
def string : Parser Text :=
  expect fun component =>
    match component.token with
    | .string value => some value
    | _ => none

/-- Takes any function: its name in lower case, its content and where that ends. -/
def anyFunction : Parser (Text × List Component × Location) :=
  expect fun component =>
    match component with
    | .block opening content closing _ =>
        match opening.token with
        | .function name => some (Text.lower name, content, closing)
        | _ => none
    | .leaf _ => none

/-- Takes a function with one of some names and runs a parser on its arguments. -/
def function {α : Type} (names : List String) (arguments : Parser α) : Parser α := do
  let (content, closing) ← expect fun component =>
    match component with
    | .block opening content closing _ =>
        match opening.token with
        | .function name => if isOneOf names name then some (content, closing) else none
        | _ => none
    | .leaf _ => none
  onContent content closing arguments

/-- The next component opens a function with one of some names. -/
def startsFunction (names : List String) : Parser Bool := do
  match ← peek? with
  | some component =>
      match component.token with
      | .function name => pure (isOneOf names name)
      | _ => pure false
  | none => pure false

/-- Takes a function with one of some names, if it is there. -/
def functionIfAny {α : Type} (names : List String) (arguments : Parser α) : Parser (Option α) := do
  if ← startsFunction names then do pure (some (← function names arguments)) else pure none

/-- Takes a comma. -/
def comma : Parser Unit := token .comma

/-- Takes a slash. -/
def slash : Parser Unit := token (.delim '/')

/-- The result of a parser, or a value if the parser fails. -/
def withDefault {α : Type} (value : α) (parser : Parser α) : Parser α := orElse parser (pure value)

/-- The first of some parsers that succeeds. -/
def firstOf {α : Type} : List (Parser α) → Parser α
  | [] => fail .invalidValue
  | parser :: rest => orElse parser (firstOf rest)

/-- The parser succeeds; then its result is taken. -/
def succeeds {α : Type} (parser : Parser α) : Parser Bool := do
  pure (← optional parser).isSome

/-- Takes everything that is left. -/
def takeAll : Parser (List Component) := fun input =>
  .ok (input.components, { input with components := [] })

/-- Number of components that are left, those inside of blocks included. -/
def remaining : Parser Nat := fun input => .ok (Component.sizes input.components, input)

/-- Only blanks and comments are left. -/
def isFinished : Parser Bool := fun input =>
  .ok ((input.dropWhile isGap).components.isEmpty, input)

/-- Takes results as long as there are some, at most `fuel` of them. -/
def upTo {α : Type} (one : Parser α) : Nat → Parser (List α)
  | 0 => pure []
  | fuel + 1 => do
      match ← optional one with
      | some value => do pure (value :: (← upTo one fuel))
      | none => pure []

/-- Takes as many results as there are. -/
def many {α : Type} (one : Parser α) : Parser (List α) := do upTo one (← remaining)

/-- Takes results between commas, at most `fuel` of them. -/
def betweenCommas {α : Type} (one : Parser α) : Nat → Parser (List α)
  | 0 => pure []
  | fuel + 1 => do
      let value ← before (fun token => token == .comma) one
      match ← optional next with
      | none => pure [value]
      | some _ => do pure (value :: (← betweenCommas one fuel))

/-- Takes results between commas, one at least. -/
def commaList {α : Type} (one : Parser α) : Parser (List α) := do
  skipGaps
  betweenCommas one ((← remaining) + 1)

/-- The first of some parsers that succeeds, with its place; places that are taken are left out. -/
def firstFree {α : Type} : List (Parser α) → List (Option α) → Nat → Parser (Option (α × Nat))
  | [], _, _ => pure none
  | _, [], _ => pure none
  | _ :: parsers, some _ :: found, place => firstFree parsers found (place + 1)
  | parser :: parsers, none :: found, place => do
      match ← optional parser with
      | some value => pure (some (value, place))
      | none => firstFree parsers found (place + 1)

/-- Takes results as long as a free place has one, at most `fuel` times. -/
def fillPlaces {α : Type} (parsers : List (Parser α)) :
    Nat → List (Option α) → Parser (List (Option α))
  | 0, found => pure found
  | fuel + 1, found => do
      match ← firstFree parsers found 0 with
      | none => pure found
      | some (value, place) => fillPlaces parsers fuel (found.set place (some value))

/-- Takes the result of each parser at most once and in any order; earlier parsers go first. -/
def inAnyOrder {α : Type} (parsers : List (Parser α)) : Parser (List (Option α)) :=
  fillPlaces parsers parsers.length (parsers.map fun _ => none)

end Parser

end StyledMarkup.Css
