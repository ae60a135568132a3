import StyledMarkup.Css.Tokens
import StyledMarkup.Css.Value.Group

namespace StyledMarkup.Css

/-!
# What may be printed token by token

A value that follows no grammar may hold all tokens but those that are broken
or close nothing.  References to variables have a form of their own, and
brackets do not nest deeper than a fixed number of times.
-/

/-- A bad string, a bad address or a closing bracket that closes nothing. -/
def isBad : Token → Bool
  | .badString _ => true
  | .badUrl _ => true
  | .closeParen => true
  | .closeBracket => true
  | .closeBrace => true
  | _ => false

/-- How often brackets may nest. -/
def greatestDepth : Nat := 500

/-- Takes whole numbers that choose one of several values of a variable, at most `fuel` of them. -/
def takeIndices : Nat → Parser Unit
  | 0 => pure ()
  | fuel + 1 => do
      match ← Parser.optional Value.integer with
      | some _ => takeIndices fuel
      | none => pure ()

/-- Takes the name of a variable, and whole numbers behind the name of one of the environment. -/
def takeReferenceName (isVariable : Bool) : Parser Unit := do
  if isVariable then do
    let _ ← Value.dashedName
  else do
    let _ ← Value.ownName
    takeIndices ((← Parser.remaining) + 1)

/-- Takes the arguments of a reference in front of the value that stands in for a missing one. -/
def takeReferenceHead (isVariable : Bool) : Parser Bool := do
  takeReferenceName isVariable
  if ← Parser.succeeds Parser.comma then pure true
  else do
    Parser.finished
    pure false

/-- What stands in for a missing value, if the head of a reference is followed by a comma. -/
def standIn? (isVariable : Bool) (arguments : Input) : Except Failure (Option Input) :=
  match takeReferenceHead isVariable arguments with
  | .ok (true, rest) => .ok (some rest)
  | .ok (false, _) => .ok none
  | .error failure => .error failure

/-- Takes the argument of an address. -/
def takeAddressArgument : Parser Unit := do let _ ← Parser.string

/-- What is wrong with the arguments of a function before their components are looked at. -/
def argumentFailure? (name : Text) (arguments : Input) : Option Failure :=
  if isReference name then
    match standIn? (name == Text.of "var") arguments with
    | .ok _ => none
    | .error failure => some failure
  else if name = Text.of "url" then
    match Parser.onInput arguments takeAddressArgument with
    | .ok _ => none
    | .error failure => some failure
  else none

/-- Brackets nest too deep at a location. -/
def depthFailure? (depth : Nat) (location : Location) : Option Failure :=
  if greatestDepth < depth then some ⟨.tooDeep, location⟩ else none

/-- Where the components that are looked at start, if they are the arguments of a function. -/
def contentStart (name : Text) (arguments : Input) : Option Location :=
  if isReference name then
    match standIn? (name == Text.of "var") arguments with
    | .ok (some rest) => some rest.here
    | _ => none
  else some arguments.here

mutual

/-- The first thing in a component at a depth that must not stand in a value. -/
def valueFailure? (depth : Nat) : Component → Option Failure
  | .leaf lexeme =>
      if isBad lexeme.token then some ⟨.unexpectedToken lexeme.token, lexeme.start⟩ else none
  | .block opening content closing _ =>
      let arguments : Input := ⟨content, closing⟩
      match opening.token with
      | .function name =>
          let tooDeep := (contentStart name arguments).bind (depthFailure? (depth + 1))
          ((argumentFailure? name arguments).or tooDeep).or (valuesFailure? (depth + 1) content)
      | _ => (depthFailure? (depth + 1) arguments.here).or (valuesFailure? (depth + 1) content)

/-- The first thing in components at a depth that must not stand in a value. -/
def valuesFailure? (depth : Nat) : List Component → Option Failure
  | [] => none
  | component :: rest => (valueFailure? depth component).or (valuesFailure? depth rest)

end

/-- Takes everything that is left, which must be good as a value. -/
def takeGood : Parser (List Component) := do
  let components ← Parser.takeAll
  match valuesFailure? 0 components with
  | some failure => Parser.failAt failure.location failure.fault
  | none => pure components

mutual

/-- The first broken token in a component at a depth. -/
def tokenFailure? (depth : Nat) : Component → Option Failure
  | .leaf lexeme =>
      if isBad lexeme.token then some ⟨.unexpectedToken lexeme.token, lexeme.start⟩ else none
  | .block _ content closing _ =>
      (depthFailure? (depth + 1) (Input.here ⟨content, closing⟩)).or
        (tokensFailure? (depth + 1) content)

/-- The first broken token in components at a depth. -/
def tokensFailure? (depth : Nat) : List Component → Option Failure
  | [] => none
  | component :: rest => (tokenFailure? depth component).or (tokensFailure? depth rest)

end

/-- Takes everything that is left, none of which may be broken, as plain tokens. -/
def takePlain : Parser Text := do
  let components ← Parser.takeAll
  match tokensFailure? 0 components with
  | some failure => Parser.failAt failure.location failure.fault
  | none => pure (plainTexts components)

mutual

/-- The location behind the first broken token in a component, and that token. -/
def brokenToken? : Component → Option Failure
  | .leaf lexeme =>
      if isBad lexeme.token then some ⟨.unexpectedToken lexeme.token, lexeme.stop⟩ else none
  | .block _ content _ _ => brokenTokens? content

/-- The location behind the first broken token in components, and that token. -/
def brokenTokens? : List Component → Option Failure
  | [] => none
  | component :: rest => (brokenToken? component).or (brokenTokens? rest)

end

/-- Takes everything that is left, none of which may be broken, as it is written. -/
def takeSource : Parser Text := do
  let components ← Parser.takeAll
  match brokenTokens? components with
  | some failure => Parser.failAt failure.location failure.fault
  | none => pure (Component.sources components)

end StyledMarkup.Css
