import StyledMarkup.Css.Container
import StyledMarkup.Css.Font.Face
import StyledMarkup.Css.Keyframes
import StyledMarkup.Css.Page
import StyledMarkup.Css.Property.Registration
import StyledMarkup.Css.Selector.Parser
import StyledMarkup.Css.Supports
import StyledMarkup.Css.Transition

namespace StyledMarkup.Css

/-!
# Heads of rules

A rule that starts with an at sign has a head, and then a block or a semicolon.
Some rules are only known outside of all blocks, and some must not stand inside
of style rules.
-/

/-- The head of a rule that starts with an at sign. -/
inductive Head where
  | media (queries : List MediaQuery)
  | supports (condition : Condition)
  | keyframes (head? : Option Text)
  | face
  | palette (head : Text)
  | alternates (head : Text)
  | page (head : Text)
  | layer (names : List Text)
  | group (head : Text)
  | declared (head : Text)
  | attempt (head : Text)
  | registration (name : Text)
  | transition
  | nest (selectors : List Selector)
  | importing (text : Text)
  | namespacing (text : Text)
  | charset
  | unknown (head : Text)

namespace Head

/-- The rule may stand inside of style rules. -/
def isNestable : Head → Bool
  | .media _ => true
  | .supports _ => true
  | .layer _ => true
  | .group _ => true
  | .attempt _ => true
  | .nest _ => true
  | .unknown _ => true
  | _ => false

/-! ## Layers and imports -/

/-- Takes the parts of the name of a layer behind dots, at most `fuel` of them. -/
def layerParts : Nat → Parser Text
  | 0 => pure []
  | fuel + 1 => do
      let part : Parser Text := do
        let dot ← Parser.nextWithBlanks
        let name ← Parser.nextWithBlanks
        match dot.token, name.token with
        | .delim '.', .ident name => pure ('.' :: identText name)
        | _, _ => Parser.fail .invalidValue
      match ← Parser.optional part with
      | some part => do pure (part ++ (← layerParts fuel))
      | none => pure []

/-- Takes the name of a layer. -/
def layerName : Parser Text := do
  let first ← Parser.ident
  pure (identText first ++ (← layerParts ((← Parser.remaining) + 1)))

/-- Takes at most `fuel` names of layers between commas, or nothing if one is missing. -/
def layerNamesFrom : Nat → Parser (Option (List Text))
  | 0 => pure none
  | fuel + 1 => fun input =>
      let (inside, rest) :=
        Parser.splitBefore (fun token => token == .comma) (input.dropWhile isGap)
      match Parser.onInput inside layerName with
      | .error failure =>
          if failure.fault = .endOfInput then .ok (none, rest) else .error failure
      | .ok name =>
          match Parser.next rest with
          | .error _ => .ok (some [name], rest)
          | .ok (_, rest) =>
              (layerNamesFrom fuel rest).map fun (names, rest) =>
                (names.map fun names => name :: names, rest)

/-- Takes names of layers; none of them counts if one is missing. -/
def layerNames : Parser (List Text) := do
  pure ((← layerNamesFrom ((← Parser.remaining) + 1)).getD [])

/-- Takes a string or an address. -/
def takeAddress : Parser Text := do
  let plain : Parser Text :=
    Parser.expect fun component =>
      match component.token with
      | .string value => some value
      | .url value => some value
      | _ => none
  match ← Parser.functionIfAny ["url"] Parser.string with
  | some address => pure address
  | none => plain

/-- Takes the optional layer of an import. -/
def importLayer : Parser Text := do
  if ← Parser.succeeds (Parser.keyword "layer") then pure (Text.of " layer")
  else
    match ← Parser.functionIfAny ["layer"] layerName with
    | some name => pure (Text.of " layer(" ++ name ++ [')'])
    | none => pure []

/-- Takes the optional condition of an import. -/
def importSupports : Parser Text := do
  match ← Parser.functionIfAny ["supports"] Supports.takeOrDeclaration with
  | some part => pure (Text.of " supports" ++ part.bracketedText)
  | none => pure []

/-- Takes the head of an import. -/
def takeImport : Parser Head := do
  let address ← takeAddress
  let layer ← importLayer
  let supports ← importSupports
  let queries ← MediaQuery.takeList
  let media := if queries.isEmpty then [] else ' ' :: MediaQuery.printList queries
  pure (.importing (Text.of "@import " ++ stringText address ++ layer ++ supports ++ media))

/-- Takes the head of a namespace. -/
def takeNamespace : Parser Head := do
  let name ← Parser.optional Parser.ident
  let address ← takeAddress
  let shown := (name.map fun name => identText name ++ [' ']).getD []
  pure (.namespacing (Text.of "@namespace " ++ shown ++ stringText address))

/-! ## Other heads -/

/-- Takes a list of selectors in brackets. -/
def bracketedSelectors : Parser (List Selector) := do
  let (content, closing) ← Parser.block .openParen
  Parser.onContent content closing Selector.takeScopedList

/-- The next component opens brackets. -/
def startsBrackets : Parser Bool := do
  pure ((← Parser.peek?).any fun component => component.token = .openParen)

/-- Takes the head of a scope; its lower end is related to the upper one. -/
def takeScope : Parser Head := do
  let upper ← if ← startsBrackets then do pure (some (← bracketedSelectors)) else pure none
  let lower ←
    if ← Parser.succeeds (Parser.keyword "to") then do pure (some (← bracketedSelectors))
    else pure none
  let filled := fun (selectors : List Selector) =>
    match upper with
    | some outer => Selector.fillList outer selectors
    | none => selectors
  let shown := fun (before : String) (selectors : List Selector) =>
    Text.of before ++ Selector.listText selectors ++ [')']
  pure (.group (Text.of "@scope" ++ ((upper.map (shown " (")).getD []) ++
    ((lower.map fun selectors => shown " to (" (filled selectors)).getD [])))

/-- Takes the head of a rule for one browser, which has no arguments or an empty string. -/
def takeDocument : Parser Head := do
  Parser.function ["url-prefix"] do
    let empty : Parser Unit := do
      let text ← Parser.string
      if ! text.isEmpty then Parser.fail .invalidValue
    let _ ← Parser.optional empty
    Parser.finished
  pure (.group (Text.of "@-moz-document url-prefix()"))

/-- Takes the head of an unknown rule. -/
def takeUnknown (name : Text) : Parser Head := do
  Parser.skipGaps
  let components ← takeGood
  let shown := if components.isEmpty then [] else ' ' :: tokensText components
  pure (.unknown ('@' :: name ++ shown))

/-- Takes the head of a rule that may stand in blocks. -/
def takeNestable (inStyle : Bool) (name : Text) : Parser Head := do
  let lowered := Text.lower name
  if isOneOf ["media"] name then do pure (.media (← MediaQuery.takeList))
  else if isOneOf ["supports"] name then do pure (.supports (← Supports.take))
  else if isOneOf Keyframes.ruleNames name then do pure (.keyframes (← Keyframes.takeHead name))
  else if isOneOf ["font-face"] name then pure .face
  else if isOneOf ["font-palette-values"] name then do
    pure (.palette (Text.of "@font-palette-values " ++ identText (← Value.dashedName)))
  else if isOneOf ["font-feature-values"] name then do
    pure (.alternates (Text.of "@font-feature-values " ++ (← Font.takeFontNames)))
  else if isOneOf ["counter-style"] name then do
    pure (.declared (Text.of "@counter-style " ++ identText (← Value.ownName)))
  else if isOneOf ["viewport", "-ms-viewport"] name then pure (.declared ('@' :: lowered))
  else if isOneOf ["page"] name then do pure (.page (← Page.takeHead))
  else if isOneOf ["-moz-document"] name then takeDocument
  else if isOneOf ["layer"] name then do pure (.layer (← layerNames))
  else if isOneOf ["container"] name then do pure (.group (← Container.takeHead))
  else if isOneOf ["starting-style"] name then pure (.group (Text.of "@starting-style"))
  else if isOneOf ["scope"] name then takeScope
  else if isOneOf ["view-transition"] name then pure .transition
  else if isOneOf ["property"] name then do
    pure (.registration (identText (← Value.dashedName)))
  else if isOneOf ["position-try"] name then do
    pure (.attempt (Text.of "@position-try " ++ identText (← Value.dashedName)))
  else if inStyle && isOneOf ["nest"] name then do pure (.nest (← Selector.takeNestingList))
  else takeUnknown name

/-- Takes the head of a rule in a block; some rules must not stand inside of style rules. -/
def take (inStyle : Bool) (name : Text) : Parser Head := do
  let head ← takeNestable inStyle name
  if inStyle && ! head.isNestable then Parser.fail (.unknownRule name) else pure head

/-- The rule of a head without a block, if there is one. -/
def statement? (inStyle : Bool) : Head → Option (List Rule)
  | .layer [] => none
  | .layer names =>
      if inStyle then none
      else some [.statement .layering (Text.of "@layer " ++ Text.join [',', ' '] names)]
  | .importing text => some [.statement .importing text]
  | .namespacing text => some [.statement .namespacing text]
  | .charset => some [.encoding]
  | .unknown head => some [.statement .other head]
  | _ => none

end Head

end StyledMarkup.Css
