import StyledMarkup.Css.Parser
import StyledMarkup.Css.Selector.Basic

namespace StyledMarkup.Css.SelectorParser

/-!
# Names with namespaces, and attributes

A name may stand behind a namespace and a bar.  An attribute is tested for
being there, or compared with a value.
-/

/-- The next component, comments left out, and the input behind it. -/
def front (input : Input) : Option (Component × Input) :=
  let input := input.dropWhile Component.isComment
  match input.components with
  | [] => none
  | component :: rest => some (component, { input with components := rest })

/-- Looks at the next component, comments left out. -/
def look : Parser (Option Component) := fun input => .ok ((front input).map Prod.fst, input)

/-- Takes the name after a namespace; there is none for an asterisk. -/
def nameAfterBar (inAttribute : Bool) : Parser (Option Text) := do
  let location ← Parser.here
  let component ← Parser.nextWithBlanks
  match component.token with
  | .ident name => pure (some name)
  | .delim '*' =>
      if inAttribute then Parser.failAt location (.badAttributeNamespace (.delim '*'))
      else pure none
  | token =>
      if inAttribute then Parser.failAt location (.badAttributeNamespace token)
      else Parser.failAt location (.unexpectedInNamespace token)

/-- Takes a bar that follows at once, if there is one. -/
def bar : Parser Bool := do
  match ← look with
  | some component =>
      if component.token == .delim '|' then do
        let _ ← Parser.nextWithBlanks
        pure true
      else pure false
  | none => pure false

/-- A name with its namespace; the name is missing for an asterisk. -/
abbrev QualifiedName := Namespace × Option Text

/-- Takes a name with its namespace, if there is one. -/
def qualifiedName (inAttribute : Bool) : Parser (Option QualifiedName) := do
  match ← look with
  | none => pure none
  | some component =>
      match component.token with
      | .ident name => do
          let _ ← Parser.nextWithBlanks
          if ← bar then do
            let localName ← nameAfterBar inAttribute
            pure (some (.named name, localName))
          else pure (some (.implied, some name))
      | .delim '*' => do
          let _ ← Parser.nextWithBlanks
          let location ← Parser.here
          if ← bar then do
            let localName ← nameAfterBar inAttribute
            pure (some (.any, localName))
          else if inAttribute then do
            let after ← Parser.nextWithBlanks
            Parser.failAt location (.noBarInAttribute after.token)
          else pure (some (.implied, none))
      | .delim '|' => do
          let _ ← Parser.nextWithBlanks
          let localName ← nameAfterBar inAttribute
          pure (some (.none, localName))
      | _ => pure none

/-- Takes a type selector, if there is one. -/
def typeSelector : Parser (Option Simple) := do
  match ← qualifiedName false with
  | none => pure none
  | some (space, some name) => pure (some (.typeName space name))
  | some (space, none) => pure (some (.universal space))

/-- The comparison that a token stands for. -/
def comparison? : Token → Option Comparison
  | .delim '=' => some .equal
  | .includeMatch => some .includes
  | .dashMatch => some .dash
  | .startMatch => some .start
  | .endMatch => some .finish
  | .insideMatch => some .inside
  | _ => none

/-- Takes the flag behind the value of an attribute, if there is one. -/
def caseRule : Parser CaseRule := do
  let location ← Parser.here
  match ← Parser.optional Parser.next with
  | none => pure .byName
  | some component =>
      match component.token with
      | .ident name =>
          if isOneOf ["i"] name then pure .ignored
          else if isOneOf ["s"] name then pure .kept
          else Parser.failAt location (.unexpectedToken component.token)
      | token => Parser.failAt location (.unexpectedToken token)

/-- Takes the value that an attribute is compared with. -/
def attributeValue : Parser Text := do
  let location ← Parser.here
  let component ← Parser.next
  match component.token with
  | .ident text => pure text
  | .string text => pure text
  | token => Parser.failAt location (.badAttributeValue token)

/-- Takes the comparison of an attribute, if there is one. -/
def attributeTest : Parser (Option AttributeTest) := do
  let location ← Parser.here
  match ← Parser.optional Parser.next with
  | none => pure none
  | some component =>
      match comparison? component.token with
      | none => Parser.failAt location (.unexpectedInAttribute component.token)
      | some comparison => do
          let value ← attributeValue
          pure (some ⟨comparison, value, ← caseRule⟩)

/-- Takes the content of an attribute selector. -/
def attributeContent : Parser Simple := do
  Parser.skipGaps
  match ← qualifiedName true with
  | none => do
      let component ← Parser.nextWithBlanks
      Parser.failAt component.start (.noAttributeName component.token)
  | some (space, localName) =>
      let space := if space = .none then .implied else space
      pure (.attr space (localName.getD []) (← attributeTest))

end StyledMarkup.Css.SelectorParser
