import StyledMarkup.Css.Admitted
import StyledMarkup.Css.Condition
import StyledMarkup.Css.Property.Table

namespace StyledMarkup.Css

/-!
# Supported features

A condition on supported features tests declarations, whose values are kept
as they are written.  Declarations of one property with letters for several
browsers are joined to a single test.
-/

namespace Supports

/-- A declaration that is tested, for the property with each of some letters in front. -/
structure Test where
  vendors : List String
  name : Text
  value : Text
deriving DecidableEq, Repr

/-- A part of a condition: a test of a declaration, or anything else. -/
inductive Part where
  | declared (test : Test)
  | other (condition : Condition)

namespace Test

/-- Letters for browsers in the order in which tests are printed. -/
def vendorOrder : List String := [Property.webkit, Property.moz, Property.ms, Property.opera, ""]

/-- A test that two tests of the same declaration are joined to. -/
def join (first second : Test) : Test :=
  { first with vendors := first.vendors ++ second.vendors }

/-- Both tests are about the same declaration. -/
def isLike (first second : Test) : Bool :=
  first.name == second.name && first.value == second.value

/-- The condition that a test stands for. -/
def condition (test : Test) : Condition :=
  let written := fun (vendor : String) =>
    Text.of vendor ++ nameText test.name ++ ':' :: ' ' :: test.value
  let texts := (vendorOrder.filter test.vendors.contains).map written
  let inner := Text.join (Text.of ") or (") texts
  if test.vendors.all (· == "") then .question ('(' :: inner ++ [')'])
  else .question ('(' :: '(' :: inner ++ [')', ')'])

end Test

/-- The condition that a part stands for. -/
def Part.condition : Part → Condition
  | .declared test => test.condition
  | .other condition => condition

/-- Adds a part behind others; a test is joined to an earlier one of the same declaration. -/
def addPart (part : Part) : List Part → List Part
  | [] => [part]
  | first :: rest =>
      match first, part with
      | .declared earlier, .declared later =>
          if earlier.isLike later then .declared (earlier.join later) :: rest
          else first :: addPart part rest
      | _, _ => first :: addPart part rest

/-- Takes a declaration in brackets. -/
def declaration : Parser Part := do
  let name ← Parser.ident
  Parser.token .colon
  Parser.skipGaps
  let value ← takeSource
  let (vendor, plain) := Property.split name
  pure (.declared ⟨[vendor], plain, value⟩)

/-- A text as it is written, if nothing in it is broken. -/
def unknown (component : Component) (content : List Component) (closing : Location) :
    Parser Part := do
  let _ ← Parser.onContent content closing takeSource
  pure (.other (.question component.source))

/-- Takes a selector, whose text is kept. -/
def selectorTest : Parser Part := do
  pure (.other (.question (Text.of "selector(" ++ (← takeSource) ++ [')'])))

/-- Takes a condition in brackets, given how to take one without. -/
def bracketed (inner : Parser Part) : Parser Part := do
  Parser.skipGaps
  let location ← Parser.here
  let component ← Parser.next
  match component with
  | .leaf lexeme => Parser.failAt location (.unexpectedToken lexeme.token)
  | .block opening content closing _ =>
      let rest := unknown component content closing
      match opening.token with
      | .openParen =>
          Parser.orElse
            (Parser.onContent content closing (Parser.orElse inner declaration)) rest
      | .function name =>
          if isOneOf ["selector"] name then
            Parser.orElse (Parser.onContent content closing selectorTest) rest
          else rest
      | token => Parser.failAt location (.unexpectedToken token)

/-- Takes parts with the same junction in front of each, at most `fuel` of them. -/
def more (inner : Parser Part) : Nat → Option Junction → Parser (Option Junction × List Part)
  | 0, junction => pure (junction, [])
  | fuel + 1, junction => do
      let next := do
        let location ← Parser.here
        let found ← Junction.take
        if junction.any (· ≠ found) then
          Parser.failAt location (.unexpectedToken (.ident (Text.of found.keyword)))
        let part ← bracketed inner
        pure (found, part)
      match ← Parser.optional next with
      | none => pure (junction, [])
      | some (found, part) => do
          let (junction, rest) ← more inner fuel (some found)
          pure (junction, part :: rest)

/-- Takes a condition whose brackets nest at most `depth` times. -/
def condition : Nat → Parser Part
  | 0 => Parser.fail .tooDeep
  | depth + 1 => do
      match ← Parser.optional (Parser.keyword "not") with
      | some _ => do
          let part ← bracketed (condition depth)
          pure (.other (.negated part.condition))
      | none => do
          let first ← bracketed (condition depth)
          let (junction, rest) ← more (condition depth) ((← Parser.remaining) + 1) none
          match junction with
          | none => pure first
          | some junction =>
              match rest.foldl (fun parts part => addPart part parts) [first] with
              | [only] => pure only
              | parts => pure (.other (.joined junction (parts.map Part.condition)))

/-- Takes a condition on supported features. -/
def takePart : Parser Part := do condition ((← Parser.remaining) + 1)

/-- Takes a condition on supported features. -/
def take : Parser Condition := do pure (← takePart).condition

/-- The condition of an import, in its brackets; those of a test are enough. -/
def Part.bracketedText (part : Part) : Text :=
  match part with
  | .declared test => test.condition.print
  | .other condition => '(' :: condition.print ++ [')']

/-- Takes a condition, or a declaration without brackets. -/
def takeOrDeclaration : Parser Part := Parser.orElse takePart declaration

end Supports

end StyledMarkup.Css
