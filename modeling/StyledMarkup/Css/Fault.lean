import StyledMarkup.Css.Token

namespace StyledMarkup.Css

/-!
# Faults of stylesheets

A stylesheet with a fault is not read at all.  The error names the first fault
and its location.
-/

/-- What can be wrong with a stylesheet. -/
inductive Fault where
  | unexpectedToken (token : Token)
  | endOfInput
  | emptySelector
  | danglingCombinator
  | classWithoutName (token : Token)
  | pseudoWithoutName (token : Token)
  | noAttributeName (token : Token)
  | unexpectedInAttribute (token : Token)
  | badAttributeValue (token : Token)
  | badAttributeNamespace (token : Token)
  | unexpectedInNamespace (token : Token)
  | noBarInAttribute (token : Token)
  | afterPseudoElement (token : Token)
  | notAnAction
  | notForScrollbars
  | onlyForScrollbars
  | noNesting
  | emptyBrackets
  | lateImport
  | lateNamespace
  | invalidValue
  | invalidDeclaration
  | invalidMedia
  | invalidPage
  | invalidRuleBody
  | invalidState
  | tooDeep
  | unknownRule (name : Text)
deriving DecidableEq, Repr

/-- Words for a fault. -/
def Fault.message : Fault → Text
  | .unexpectedToken token => Text.of "Unexpected token " ++ token.shown
  | .endOfInput => Text.of "Unexpected end of input"
  | .emptySelector => Text.of "Invalid empty selector"
  | .danglingCombinator => Text.of "Invalid dangling combinator in selector"
  | .classWithoutName token =>
      Text.of "Expected identifier in class selector, got " ++ token.shown
  | .pseudoWithoutName token => Text.of "Invalid token in pseudo element: " ++ token.shown
  | .noAttributeName token =>
      Text.of "No qualified name in attribute selector: " ++ token.shown ++ ['.']
  | .unexpectedInAttribute token =>
      Text.of "Unexpected token in attribute selector: " ++ token.shown
  | .badAttributeValue token => Text.of "Invalid value in attribute selector: " ++ token.shown
  | .badAttributeNamespace token =>
      Text.of "Invalid qualified name in attribute selector: " ++ token.shown
  | .unexpectedInNamespace token =>
      Text.of "Unexpected token in namespace selector: " ++ token.shown
  | .noBarInAttribute token => Text.of "Expected | in attribute, got " ++ token.shown
  | .afterPseudoElement token =>
      Text.of "Pseudo-elements like '::before' or '::after' can't be followed by selectors like '" ++
        token.shown ++ ['\x27']
  | .notAnAction =>
      Text.of "Invalid pseudo class after pseudo element, only user action pseudo classes (e.g. :hover, :active) are allowed"
  | .notForScrollbars => Text.of "Invalid pseudo class after ::-webkit-scrollbar pseudo element"
  | .onlyForScrollbars =>
      Text.of "Pseudo class must be prefixed by a ::-webkit-scrollbar pseudo element"
  | .noNesting =>
      Text.of "A nesting selector (&) is required in each selector of a @nest rule"
  | .emptyBrackets => Text.of "The brackets cannot be empty"
  | .lateImport =>
      Text.of "@import rules must precede all rules aside from @charset and @layer statements"
  | .lateNamespace =>
      Text.of "@namespaces rules must precede all rules aside from @charset, @import, and @layer statements"
  | .invalidValue => Text.of "Invalid value"
  | .invalidDeclaration => Text.of "Invalid declaration"
  | .invalidMedia => Text.of "Invalid media query"
  | .invalidPage => Text.of "Invalid page selector"
  | .invalidRuleBody => Text.of "Invalid @ rule body"
  | .invalidState => Text.of "Invalid state"
  | .tooDeep => Text.of "Overflowed the maximum nesting depth"
  | .unknownRule name => Text.of "Unknown at rule: @" ++ name

/-- A fault and where it was found. -/
structure Failure where
  fault : Fault
  location : Location
deriving DecidableEq, Repr

end StyledMarkup.Css
