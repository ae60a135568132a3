import StyledMarkup.Css.Head
import StyledMarkup.Text.Blank

namespace StyledMarkup.Css

/-!
# Reading and printing stylesheets

A stylesheet is read as a whole or not at all: the first fault is the result.
Rules inside of style rules may hold declarations, too.
-/

/-- Declarations and rules of a block. -/
structure Body where
  declarations : List Declaration
  rules : List Rule

namespace Body

/-- Nothing. -/
def empty : Body := ⟨[], []⟩

/-- Adds a declaration; after a rule it becomes a rule of its own. -/
def addDeclaration (declaration : Declaration) (body : Body) : Body :=
  match body.rules.getLast? with
  | none => { body with declarations := body.declarations ++ [declaration] }
  | some (.bare declarations) =>
      { body with rules := body.rules.dropLast ++ [.bare (declarations ++ [declaration])] }
  | some _ => { body with rules := body.rules ++ [.bare [declaration]] }

/-- Adds rules. -/
def addRules (rules : List Rule) (body : Body) : Body := { body with rules := body.rules ++ rules }

/-- The rules of a block inside of another rule: declarations in front become a rule. -/
def asRules (body : Body) : List Rule :=
  if body.declarations.isEmpty then body.rules else .bare body.declarations :: body.rules

end Body

/-- How blocks inside of a block are read: inside of style rules or not. -/
abbrev Nested := Bool → Parser Body

/-- Takes the content of the block of a rule. -/
def Head.takeBlock (inStyle : Bool) (nested : Nested) (head : Head) : Parser Rule := do
  let rules : Parser (List Rule) := do pure (← nested inStyle).asRules
  match head with
  | .media queries => do pure (.media queries (← rules))
  | .supports condition => do pure (.supports condition (← rules))
  | .keyframes head => do pure (.keyframes head (← Keyframes.takeAll))
  | .face => do pure (.block (Text.of "@font-face") (← Font.takeFace) [])
  | .palette head => do pure (.block head (← Font.takePalette) [])
  | .alternates head => do pure (.alternates head (← Font.takeAlternateSets))
  | .page head => Page.takeBlock head
  | .layer [] => do pure (.group (Text.of "@layer") (← rules))
  | .layer [name] => do pure (.group (Text.of "@layer " ++ name) (← rules))
  | .layer _ => Parser.fail .invalidRuleBody
  | .group head => do pure (.group head (← rules))
  | .declared head => do pure (.declared head (← Declaration.takeAll))
  | .attempt head => do pure (.declared head (← Declaration.takeAll))
  | .registration name => do pure (.registered (← Registration.take name))
  | .transition => do pure (.block (Text.of "@view-transition") (← Transition.take) [])
  | .nest selectors => do
      let body ← nested true
      pure (.nest selectors body.declarations body.rules)
  | .unknown head => do pure (.unknown head (tokensText (← takeGood)))
  | .importing _ => Parser.fail (.unexpectedToken .openBrace)
  | .namespacing _ => Parser.fail (.unexpectedToken .openBrace)
  | .charset => Parser.fail (.unexpectedToken .openBrace)

/-- Takes the block of a rule or the end of a statement after its head. -/
def Head.takeRest (inStyle : Bool) (nested : Nested) (head : Head) : Parser (List Rule) := do
  match ← Parser.optional Parser.next with
  | some (.block _ content closing _) => do
      let rule ← Parser.onContent content closing (head.takeBlock inStyle nested)
      pure [rule]
  | _ =>
      match head.statement? inStyle with
      | some rules => pure rules
      | none => Parser.fail (.unexpectedToken .semicolon)

/-- Takes a style rule; its selectors are read before its block, but the brace has to be there. -/
def takeStyleRule (inStyle : Bool) (ends : Token → Bool) (nested : Nested) : Parser Rule :=
  fun input =>
    let (inside, rest) := Parser.splitBefore ends input
    let list := if inStyle then Selector.takeNestedList else Selector.takeList
    let rule : Parser Rule := do
      let (content, closing) ← Parser.block .openBrace
      match Parser.onInput inside list with
      | .error failure => Parser.failAt failure.location failure.fault
      | .ok selectors => do
          let body ← Parser.onContent content closing (nested true)
          pure (.style selectors body.declarations body.rules)
    rule rest

/-- Takes a declaration, or a style rule if it is no declaration. -/
def takeDeclarationOrRule (nested : Nested) (name : Text) (body : Body) : Parser Body :=
  fun input =>
    let declared : Parser Body := do
      let _ ← Parser.next
      let declaration ← Declaration.take name
      pure (body.addDeclaration declaration)
    match declared input with
    | .ok result => .ok result
    | .error failure =>
        match takeStyleRule true endsHead nested input with
        | .ok (rule, rest) => .ok (body.addRules [rule], rest)
        | .error _ => .error failure

/-- Tokens at which the selectors of a rule end; a semicolon ends them where declarations may be. -/
def endsSelectors (inStyle : Bool) (token : Token) : Bool :=
  if inStyle then endsHead token else isBrace token

/-- Takes declarations and rules of a block, at most `fuel` of them. -/
def takeItems (inStyle : Bool) (nested : Nested) : Nat → Body → Parser Body
  | 0, body => pure body
  | fuel + 1, body => do
      Declaration.skipSeparators
      match ← Parser.peek? with
      | none => pure body
      | some component =>
          let rule : Parser Body := do
            pure (body.addRules [← takeStyleRule inStyle (endsSelectors inStyle) nested])
          let body ←
            match component.token with
            | .atKeyword name => do
                let _ ← Parser.next
                let head ← Parser.before endsHead (Head.take inStyle name)
                pure (body.addRules (← head.takeRest inStyle nested))
            | .ident name => if inStyle then takeDeclarationOrRule nested name body else rule
            | _ => rule
          takeItems inStyle nested fuel body

/-- Takes the content of a block whose blocks nest at most `depth` times. -/
def takeBody : Nat → Nested
  | 0, _ => Parser.fail .tooDeep
  | depth + 1, inStyle => do
      takeItems inStyle (takeBody depth) ((← Parser.remaining) + 1) .empty

/-! ## Stylesheets -/

/-- How far a stylesheet has come: some statements have to stand before others. -/
inductive Stage where
  | start
  | layers
  | imports
  | namespaces
  | rules
deriving DecidableEq, Repr

/-- The rules that have been read and what may follow them. -/
structure Progress where
  stage : Stage
  rules : List Rule

namespace Progress

/-- Takes the head of a rule outside of all blocks. -/
def takeHead (stage : Stage) (name : Text) : Parser Head := do
  if isOneOf ["import"] name then
    if stage = .namespaces ∨ stage = .rules then Parser.fail .lateImport else Head.takeImport
  else if isOneOf ["namespace"] name then
    if stage = .rules then Parser.fail .lateNamespace else Head.takeNamespace
  else if isOneOf ["charset"] name then do
    let _ ← Parser.string
    pure .charset
  else Head.take false name

/-- The stage after a statement. -/
def stageAfter (stage : Stage) : Head → Stage
  | .importing _ => .imports
  | .namespacing _ => .namespaces
  | .layer _ => if stage = .start ∨ stage = .layers then .layers else .rules
  | _ => stage

/-- Takes a rule that starts with an at sign. -/
def takeAtRule (progress : Progress) (nested : Nested) (name : Text) : Parser Progress := do
  let head ← Parser.before endsHead (takeHead progress.stage name)
  let hasBlock := (← Parser.peek?).any fun component => component.token = .openBrace
  let rules ← head.takeRest false nested
  let stage := if hasBlock then .rules else stageAfter progress.stage head
  pure ⟨stage, progress.rules ++ rules⟩

/-- Skips blanks, comments and the marks that hide stylesheets in markup. -/
def skipMarks : Parser Unit := fun input =>
  .ok ((), input.dropWhile fun component =>
    isGap component || component.token = .cdo || component.token = .cdc)

/-- Takes the rules of a stylesheet, at most `fuel` of them. -/
def takeRules (nested : Nested) : Nat → Bool → Progress → Parser Progress
  | 0, _, progress => pure progress
  | fuel + 1, isFirst, progress => do
      skipMarks
      match ← Parser.peek? with
      | none => pure progress
      | some component =>
          let progress ←
            match component.token with
            | .atKeyword name => do
                let _ ← Parser.next
                if isFirst ∧ isOneOf ["charset"] name then do
                  Declaration.skipBehind endsHead
                  pure progress
                else progress.takeAtRule nested name
            | _ => do
                let rule ← takeStyleRule false isBrace nested
                pure ⟨.rules, progress.rules ++ [rule]⟩
          takeRules nested fuel false progress

end Progress

namespace Stylesheet

/-- Comments at the front of a stylesheet that start with an exclamation mark. -/
def keptComments : List Lexeme → List Text
  | [] => []
  | lexeme :: rest =>
      match lexeme.token with
      | .comment ('!' :: text) => ('!' :: text) :: keptComments rest
      | .blank _ => keptComments rest
      | _ => []

/-- The stylesheet written in a text. -/
def read (source : Text) : Except Failure Stylesheet :=
  let lexemes := Lexeme.read source
  let finish := Location.start.after source
  let components := Component.ofLexemes finish lexemes
  let fuel := Component.sizes components + 1
  match Progress.takeRules (takeBody fuel) fuel true ⟨.start, []⟩ ⟨components, finish⟩ with
  | .ok (progress, _) => .ok ⟨keptComments lexemes, progress.rules⟩
  | .error failure => .error failure

/-- The text of a stylesheet, without blanks at its end. -/
def print (sheet : Stylesheet) : Text :=
  let comments := sheet.comments.flatMap fun comment =>
    Text.of "/*" ++ comment ++ Text.of "*/\n"
  Text.trimEnd (comments ++ Rule.printAll 0 sheet.rules)

end Stylesheet

end StyledMarkup.Css
