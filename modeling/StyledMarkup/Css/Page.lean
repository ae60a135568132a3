import StyledMarkup.Css.Declaration

namespace StyledMarkup.Css.Page

/-!
# Pages

Rules for printed pages hold declarations and the boxes in the margin of a
page.
-/

/-- Kinds of pages. -/
def kinds : List String := ["first", "last", "left", "right", "blank"]

/-- Takes kinds of pages with colons in front, which follow at once, at most `fuel` of them. -/
def takeKinds : Nat → Parser Text
  | 0 => pure []
  | fuel + 1 => do
      let colon : Parser Unit := do
        let component ← Parser.nextWithBlanks
        if component.token ≠ .colon then Parser.fail .invalidPage
      if ← Parser.succeeds colon then do
        let kind ← Parser.word kinds
        pure (':' :: kind ++ (← takeKinds fuel))
      else pure []

/-- Takes a selector of pages: a name, kinds or both. -/
def takeSelector : Parser Text := do
  let name ← Parser.optional Parser.ident
  let kinds ← takeKinds ((← Parser.remaining) + 1)
  if name.isNone && kinds.isEmpty then Parser.fail .invalidPage
  pure (name.getD [] ++ kinds)

/-- Takes what is printed in front of a page; faulty selectors are not taken. -/
def takeHead : Parser Text := do
  let selectors ← Parser.withDefault [] (Parser.commaList takeSelector)
  let shown := if selectors.isEmpty then [] else ' ' :: Text.join [',', ' '] selectors
  pure (Text.of "@page" ++ shown)

/-- Boxes in the margin of a page. -/
def marginBoxes : List String :=
  ["top-left-corner", "top-left", "top-center", "top-right", "top-right-corner",
    "left-top", "left-middle", "left-bottom", "right-top", "right-middle", "right-bottom",
    "bottom-left-corner", "bottom-left", "bottom-center", "bottom-right", "bottom-right-corner"]

/-- Takes a box in the margin of a page behind its name. -/
def takeMarginBox (name : Text) : Parser Rule := do
  if ! isOneOf marginBoxes name then Parser.fail (.unknownRule name)
  Parser.before endsHead Parser.finished
  match ← Parser.optional (Parser.block .openBrace) with
  | some (content, closing) => do
      let declarations ← Parser.onContent content closing Declaration.takeAll
      pure (.declared ('@' :: Text.lower name) declarations)
  | none => do
      let _ ← Parser.optional Parser.next
      Parser.fail (.unexpectedToken .semicolon)

/-- Takes declarations and boxes of a page, at most `fuel` of them. -/
def takeItems : Nat → Parser (List Declaration × List Rule)
  | 0 => pure ([], [])
  | fuel + 1 => do
      Declaration.skipSeparators
      match ← Parser.optional Parser.next with
      | none => pure ([], [])
      | some component =>
          match component.token with
          | .ident name => do
              let declaration ← Declaration.take name
              let (declarations, rules) ← takeItems fuel
              pure (declaration :: declarations, rules)
          | .atKeyword name => do
              let box ← takeMarginBox name
              let (declarations, rules) ← takeItems fuel
              pure (declarations, box :: rules)
          | token => Parser.failAt component.start (.unexpectedToken token)

/-- Takes the block of a page. -/
def takeBlock (head : Text) : Parser Rule := do
  let (declarations, rules) ← takeItems ((← Parser.remaining) + 1)
  pure (.block head declarations rules)

end StyledMarkup.Css.Page
