import StyledMarkup.Css.Declaration
import StyledMarkup.Css.Feature

namespace StyledMarkup.Css.Container

/-!
# Containers

A condition on a container asks for its features, for its style or for how far
it has been scrolled.
-/

/-- Takes the value of a declaration.  The word for important ones may follow it, but then the value
of a known property follows no grammar. -/
def takeStyleValue (name : Text) : Parser Value.Rows := fun input =>
  let isBang := fun (token : Token) => token == .delim '!'
  let (_, behind) := Parser.splitBefore isBang input
  let hasGrammar := ! Property.isAll name && ! Property.isCustom name
  let value : Parser Value.Rows :=
    if hasGrammar && ! behind.components.isEmpty then Declaration.takeTokens
    else Declaration.takeRows name
  Parser.before isBang value input

/-- Takes a declaration or the name of a property as a question about style, and adds brackets. -/
def takeStyleFeature : Parser Condition := do
  let name ← Parser.ident
  if ← Parser.succeeds (Parser.token .colon) then do
    Parser.skipGaps
    let rows ← takeStyleValue name
    let _ ← Declaration.takeImportant
    let printed := Property.printedName name
    let indented := '\n' :: Text.repeated [' '] (printed.length + 2)
    pure (.question
      ('(' :: printed ++ ':' :: ' ' :: Text.join indented rows.texts ++ [')']))
  else pure (.question ('(' :: Property.nameInValue name ++ [')']))

/-- Questions about style. -/
def styleRule : ConditionRule := ⟨takeStyleFeature, [], .negated⟩

/-- Questions about how far a container has been scrolled. -/
def scrollRule : ConditionRule := ⟨Feature.take scrollFeatures, [], .negated⟩

/-- A question in the brackets of a function; those of a single feature are enough. -/
def questionText (name : String) (condition : Condition) : Text :=
  match condition with
  | .test text _ => Text.of name ++ text
  | other => Text.of name ++ '(' :: other.print ++ [')']

/-- Takes a question in the brackets of a function with a name. -/
def question (name : String) (rule : ConditionRule) : String × Parser Condition :=
  (name, do
    let condition ← Parser.orElse (rule.take true) rule.feature
    pure (.question (questionText name condition)))

/-- Conditions of containers. -/
def rule : ConditionRule :=
  ⟨Feature.take containerFeatures,
    [question "style" styleRule, question "scroll-state" scrollRule], .negated⟩

/-- Takes the optional name of a container. -/
def takeName : Parser Text := do
  let name ← Value.ownName
  if isOneOf ["none", "and", "or", "not"] name then Parser.fail .invalidValue
  else pure (identText name)

/-- Takes what is printed in front of the block of a container. -/
def takeHead : Parser Text := do
  let name ← Parser.optional takeName
  let shown := (name.map fun name => ' ' :: name).getD []
  if name.isSome && (← Parser.isFinished) then pure (Text.of "@container" ++ shown)
  else do
    let condition ← rule.take true
    pure (Text.of "@container" ++ shown ++ ' ' :: condition.print)

end StyledMarkup.Css.Container
