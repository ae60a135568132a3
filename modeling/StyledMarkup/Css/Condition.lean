import StyledMarkup.Css.Parser

namespace StyledMarkup.Css

/-!
# Conditions

Conditions of media, containers and supported features are built from tests
with `not`, `and` and `or`.  They are printed with the brackets that they
need.
-/

/-- How conditions are joined. -/
inductive Junction where
  | all
  | any
deriving DecidableEq, Repr

/-- A condition.

A test is given by its printed text; if it is a comparison, also by that of the opposite one.  An
inverse is a negation that is given by a condition with the same meaning. -/
inductive Condition where
  | test (text : Text) (opposite? : Option Text)
  | negated (condition : Condition)
  | inverse (condition : Condition)
  | joined (junction : Junction) (conditions : List Condition)

/-- The word between joined conditions. -/
def Junction.word : Junction → Text
  | .all => Text.of " and "
  | .any => Text.of " or "

namespace Condition

/-- A test that is no comparison. -/
def question (text : Text) : Condition := .test text none

/-- The condition needs brackets inside of a negation. -/
def needsBrackets : Condition → Bool
  | .test _ _ => false
  | _ => true

/-- The condition needs brackets inside of a junction. -/
def needsBracketsIn (junction : Junction) : Condition → Bool
  | .joined other _ => other != junction
  | condition => condition.needsBrackets

/-- A text with brackets around it if they are needed. -/
def bracketed (needed : Bool) (text : Text) : Text :=
  if needed then '(' :: text ++ [')'] else text

mutual

/-- The text of a condition. -/
def print : Condition → Text
  | .test text _ => text
  | .negated condition => Text.of "not " ++ bracketed condition.needsBrackets (print condition)
  | .inverse condition => print condition
  | .joined junction conditions => printJoined junction conditions

/-- The text of joined conditions. -/
def printJoined (junction : Junction) : List Condition → Text
  | [] => []
  | condition :: rest =>
      bracketed (condition.needsBracketsIn junction) (print condition) ++
        if rest.isEmpty then [] else junction.word ++ printJoined junction rest

end

/-- The negation of a condition, without `not` where it can be avoided. -/
def negate : Condition → Condition
  | .test text (some opposite) => .inverse (.test opposite (some text))
  | .negated condition => .inverse condition
  | .inverse condition => negate condition
  | condition => .negated condition

/-- The condition is a junction of alternatives. -/
def isAlternative : Condition → Bool
  | .joined .any _ => true
  | _ => false

end Condition

/-! ## Reading conditions -/

/-- Takes the word of a junction. -/
def Junction.take : Parser Junction := do
  let location ← Parser.here
  let name ← Parser.ident
  if isOneOf ["and"] name then pure .all
  else if isOneOf ["or"] name then pure .any
  else Parser.failAt location (.unexpectedToken (.ident name))

/-- The word that joins further conditions. -/
def Junction.keyword : Junction → String
  | .all => "and"
  | .any => "or"

/-- What stands in conditions: features in brackets, and functions for other questions, and how a
condition is negated. -/
structure ConditionRule where
  feature : Parser Condition
  functions : List (String × Parser Condition)
  negate : Condition → Condition

namespace ConditionRule

/-- The function for another question, if there is one with this name. -/
def function? (rule : ConditionRule) (name : Text) : Option (Parser Condition) :=
  (rule.functions.find? fun (other, _) => isOneOf [other] name).map Prod.snd

/-- Takes what stands in brackets, given how to take a condition. -/
def content (rule : ConditionRule) (inner : Parser Condition) : Parser Condition := do
  if ← Parser.isFinished then Parser.fail .emptyBrackets
  Parser.orElse inner rule.feature

/-- Takes a condition in brackets or a function, given how to take a condition without them. -/
def bracketed (rule : ConditionRule) (inner : Parser Condition) : Parser Condition := do
  let location ← Parser.here
  let component ← Parser.next
  match component with
  | .block opening content closing _ =>
      match opening.token with
      | .openParen => Parser.onContent content closing (rule.content inner)
      | .function name =>
          match rule.function? name with
          | some question => Parser.onContent content closing question
          | none => Parser.failAt location (.unexpectedToken (.function name))
      | token => Parser.failAt location (.unexpectedToken token)
  | .leaf lexeme => Parser.failAt location (.unexpectedToken lexeme.token)

/-- Takes conditions in brackets with a junction in front of each, at most `fuel` of them. -/
def more (junction : Junction) (inner : Parser Condition) : Nat → Parser (List Condition)
  | 0 => pure []
  | fuel + 1 => do
      match ← Parser.optional (Parser.keyword junction.keyword) with
      | none => pure []
      | some _ => do
          let condition ← inner
          pure (condition :: (← more junction inner fuel))

/-- Takes a condition whose brackets nest at most `depth` times. -/
def condition (rule : ConditionRule) : Nat → Bool → Parser Condition
  | 0, _ => Parser.fail .tooDeep
  | depth + 1, alternatives => do
      let inner := rule.bracketed (rule.condition depth true)
      match ← Parser.optional (Parser.keyword "not") with
      | some _ => do pure (rule.negate (← inner))
      | none => do
          let location ← Parser.here
          let first ← inner
          match ← Parser.optional Junction.take with
          | none => pure first
          | some found => do
              if found = .any ∧ ! alternatives then
                Parser.failAt location (.unexpectedToken (.ident (Text.of "or")))
              let second ← inner
              let rest ← more found inner ((← Parser.remaining) + 1)
              pure (.joined found (first :: second :: rest))

/-- Takes a condition. -/
def take (rule : ConditionRule) (alternatives : Bool) : Parser Condition := do
  rule.condition ((← Parser.remaining) + 1) alternatives

end ConditionRule

end StyledMarkup.Css
