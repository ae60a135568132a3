import StyledMarkup.Css.Admitted
import StyledMarkup.Css.Selector.Attribute
import StyledMarkup.Css.Selector.Position
import StyledMarkup.Css.Selector.Pseudo
import StyledMarkup.Css.Value.Group

namespace StyledMarkup.Css

/-!
# Reading selectors

A list of selectors is strict, so that a fault in one selector is a fault of
the list, or forgiving, so that faulty selectors are left out.  What may follow
depends on the pseudo-elements that have been read.  Selectors inside of
pseudo-classes may nest as deep as there are components.
-/

/-- What has been read of a selector, and what must not follow. -/
structure Reach where
  afterPart : Bool
  afterSlot : Bool
  afterElement : Bool
  afterScrollbar : Bool
  afterTransition : Bool
  noCombinators : Bool
  noPseudos : Bool
deriving DecidableEq, Repr

namespace Reach

/-- Nothing has been read. -/
def start : Reach := ⟨false, false, false, false, false, false, false⟩

/-- A pseudo-element, a part or a slot has been read; it ends the selector. -/
def isAfterPseudo (reach : Reach) : Bool :=
  reach.afterPart || reach.afterSlot || reach.afterElement

/-- A pseudo-element may follow. -/
def allowsPseudos (reach : Reach) : Bool := ! reach.afterElement && ! reach.noPseudos

/-- A part or a slot may follow. -/
def allowsPlaces (reach : Reach) : Bool := ! reach.isAfterPseudo && ! reach.noPseudos

/-- Without pseudo-elements. -/
def plain (reach : Reach) : Reach := { reach with noPseudos := true }

/-- Without pseudo-elements and combinators. -/
def compoundOnly (reach : Reach) : Reach := { reach with noPseudos := true, noCombinators := true }

end Reach

/-- What a list of selectors may look like. -/
structure ListRule where
  /-- Faulty selectors are left out. -/
  forgiving : Bool
  /-- Selectors may start with a combinator. -/
  isRelative : Bool
  /-- There is exactly one selector. -/
  isSingle : Bool
  /-- What has been read in front of the list. -/
  reach : Reach

/-- A simple selector, and how a new step with it is related to the one before. -/
structure Found where
  simple : Simple
  relation : Option Combinator

namespace SelectorParser

/-- The token separates selectors. -/
def isComma (token : Token) : Bool := token == .comma

/-- Readers for lists of selectors inside of a selector. -/
abbrev Lists := ListRule → Parser (List Selector)

/-- Takes a name of a part of an element, and further ones. -/
def partNames : Parser Text := do
  let first ← Parser.ident
  let more ← Parser.many Parser.ident
  if ! (← Parser.isFinished) then
    let _ ← Parser.ident
  pure (Text.join [' '] ((first :: more).map identText))

/-- Takes classes that follow at once, at most `fuel` of them, up to the end or a last blank. -/
def transitionClasses : Nat → Parser Text
  | 0 => pure []
  | fuel + 1 => do
      match ← Parser.optional Parser.nextWithBlanks with
      | none => pure []
      | some component =>
          if component.isBlank && (← Parser.isFinished) then pure []
          else if component.token ≠ .delim '.' then
            Parser.failAt component.first.stop .invalidState
          else
            match ← Parser.optional Parser.nextWithBlanks with
            | none => Parser.fail .invalidState
            | some after =>
                match after.token with
                | .ident name => do pure ('.' :: identText name ++ (← transitionClasses fuel))
                | _ => Parser.failAt after.first.stop .invalidState

/-- Takes what a pseudo-element of a transition between views belongs to: a name, classes or both. -/
def transitionName : Parser Text := do
  let star : Parser Text := do
    Parser.token (.delim '*')
    pure ['*']
  Parser.skipGaps
  let name ← Parser.withDefault [] (Parser.orElse star do pure (← Value.aName).text)
  let text := name ++ (← transitionClasses ((← Parser.remaining) + 1))
  if text.isEmpty then Parser.fail .invalidState else pure text

/-- A pseudo-class with a list of selectors. -/
def listClass (lists : Lists) (name : Text) (rule : ListRule) : Parser Simple := do
  pure (.withSelectors (':' :: name) (← lists rule))

/-- Takes a position among elements. -/
def countingClass (lists : Lists) (name : Text) (reach : Reach) : Parser Simple := do
  if reach.isAfterPseudo then Parser.fail .invalidState
  let (step, offset) ← positions
  let hasList ←
    if isOneOf countingAmong name then Parser.succeeds (Parser.keyword "of") else pure false
  let among ←
    if hasList then do pure (some (← lists ⟨true, false, false, reach.plain⟩)) else pure none
  pure (.nth (':' :: name) step offset among)

/-- Takes the arguments of a pseudo-class that is not about selectors. -/
def plainClass (name : Text) : Parser Simple := do
  let lowered := Text.lower name
  let text : Parser Text :=
    if isOneOf ["lang"] name then do
      let languages ← Parser.commaList (Parser.orElse Parser.ident Parser.string)
      pure (Text.join [',', ' '] (languages.map identText))
    else if isOneOf ["dir"] name then Parser.word ["ltr", "rtl"]
    else if isOneOf ["active-view-transition-type"] name then do
      pure (← Value.commas Value.aName).text
    else do pure (← Value.aName).text
  if isOneOf ["lang", "dir", "active-view-transition-type", "state"] name then
    pure (.withText (':' :: lowered) (← text))
  else do pure (.withText (':' :: name) (← takePlain))

/-- Takes the arguments of a pseudo-class. -/
def classArguments (lists : Lists) (name : Text) (reach : Reach) : Parser Simple := do
  let lowered := Text.lower name
  if isOneOf countingClasses name then countingClass lists lowered reach
  else if isOneOf ["is", "where", "-webkit-any", "-moz-any"] name then
    listClass lists lowered ⟨true, false, false, reach.plain⟩
  else if isOneOf ["not"] name then listClass lists lowered ⟨false, false, false, reach.plain⟩
  else if isOneOf ["has"] name then do
    let selectors ← lists ⟨true, true, false, reach⟩
    pure (.withSelectors (':' :: lowered) (selectors.map Selector.relative))
  else if isOneOf ["host"] name then
    if reach.isAfterPseudo then Parser.fail .invalidState
    else listClass lists lowered ⟨false, false, true, reach.compoundOnly⟩
  else if reach.isAfterPseudo then Parser.fail .invalidState
  else plainClass name

/-- Takes a pseudo-class without arguments; faults lie behind its colon. -/
def classWithout (name : Text) (reach : Reach) (location : Location) : Parser Simple := do
  let lowered := Text.lower name
  let isTree :=
    (! reach.isAfterPseudo && isOneOf treePseudoClasses name) ||
      (reach.afterTransition && isOneOf ["only-child"] name)
  let isScrollbarClass := isOneOf scrollbarPseudoClasses name
  if reach.afterSlot then Parser.failAt location .invalidState
  else if isTree then pure (.pseudoClass lowered)
  else if reach.afterScrollbar then
    if isScrollbarClass || isOneOf scrollbarStates name then pure (.pseudoClass lowered)
    else Parser.failAt location .notForScrollbars
  else if isScrollbarClass then Parser.failAt location .onlyForScrollbars
  else if reach.afterElement && ! isOneOf actionPseudoClasses name then
    Parser.failAt location .notAnAction
  else if isKnownClass name then pure (.pseudoClass (renamed renamedClasses name))
  else pure (.pseudoClass name)

/-- A pseudo-element without arguments. -/
def elementWithout (name : Text) : Found :=
  let printed := renamed renamedElements name
  if isOneOf singleColonElements name then ⟨.pseudoClass printed, some .pseudo⟩
  else if isKnownElement name then ⟨.pseudoElement printed, some .pseudo⟩
  else ⟨.pseudoElement name, none⟩

/-- Takes the arguments of a pseudo-element. -/
def elementArguments (lists : Lists) (name : Text) (reach : Reach) : Parser Found := do
  let printed := ':' :: ':' :: Text.lower name
  if isOneOf ["part"] name then do pure ⟨.withText printed (← partNames), some .part⟩
  else if isOneOf ["slotted"] name then do
    let selectors ← lists ⟨false, false, true, reach.compoundOnly⟩
    pure ⟨.withSelectors printed selectors, some .slot⟩
  else if isOneOf ["cue", "cue-region"] name then do
    let selectors ← lists ⟨false, false, true, .start⟩
    pure ⟨.withSelectors printed selectors, some .pseudo⟩
  else if isOneOf ["picker"] name then do
    pure ⟨.withText printed (identText (← Parser.ident)), some .pseudo⟩
  else if isOneOf ["highlight"] name then do
    pure ⟨.withText printed (← Value.aName).text, some .pseudo⟩
  else if isOneOf transitionElements name then do
    pure ⟨.withText printed (← transitionName), some .pseudo⟩
  else do pure ⟨.withText (':' :: ':' :: name) (← takePlain), none⟩

/-- What may follow a pseudo-element with a name. -/
def reachAfter (name : Text) (isFunction : Bool) (found : Found) (reach : Reach) : Reach :=
  match found.relation with
  | some .part => { reach with afterPart := true }
  | some .slot => { reach with afterSlot := true }
  | some _ =>
      { reach with
        afterElement := true
        afterScrollbar := reach.afterScrollbar || (! isFunction && isOneOf scrollbarElements name)
        afterTransition :=
          reach.afterTransition || (isFunction && isOneOf transitionElements name) }
  | none => reach

/-- Takes a pseudo-class or a pseudo-element behind its first colon. -/
def pseudo (lists : Lists) (reach : Reach) : Parser (Found × Reach) := do
  let location ← Parser.here
  let first ← Parser.nextWithBlanks
  let double := first.token = .colon
  let component ← if double then Parser.nextWithBlanks else pure first
  let behind := component.first.stop
  match component.token, component with
  | .ident name, _ =>
      if double ∨ isOneOf singleColonElements name then do
        if ! reach.allowsPseudos then Parser.failAt behind .invalidState
        let found := elementWithout name
        if reach.afterSlot && ! isOneOf slottedElements name then
          Parser.failAt behind .invalidState
        pure (found, reachAfter name false found reach)
      else do pure (⟨← classWithout name reach location, none⟩, reach)
  | .function name, .block _ content closing _ =>
      if double ∨ isOneOf singleColonElements name then do
        let isPlace := isOneOf ["part", "slotted"] name
        if ! reach.allowsPseudos ∨ (isPlace ∧ ! reach.allowsPlaces) then
          Parser.failAt behind .invalidState
        let found ← Parser.onContent content closing (elementArguments lists name reach)
        if reach.afterSlot then Parser.fail .invalidState
        pure (found, reachAfter name true found reach)
      else do
        let simple ← Parser.onContent content closing (classArguments lists name reach)
        pure (⟨simple, none⟩, reach)
  | token, _ => Parser.failAt behind (.pseudoWithoutName token)

/-- Nothing but pseudo-classes and pseudo-elements may follow a pseudo-element. -/
def refuse (reach : Reach) (token : Token) : Parser Unit := do
  if reach.isAfterPseudo then Parser.fail (.afterPseudoElement token)

/-- Takes the name of a class behind its dot. -/
def className : Parser Simple := do
  let location ← Parser.here
  let component ← Parser.nextWithBlanks
  match component.token with
  | .ident name => pure (.className name)
  | token => Parser.failAt location (.classWithoutName token)

/-- Takes a simple selector that is not a type, if there is one. -/
def simple (lists : Lists) (reach : Reach) : Parser (Option (Found × Reach)) := do
  match ← look with
  | none => pure none
  | some component =>
      match component.token, component with
      | .idHash name, _ => do
          refuse reach component.token
          let _ ← Parser.nextWithBlanks
          pure (some (⟨.id name, none⟩, reach))
      | .delim '.', _ => do
          refuse reach component.token
          let _ ← Parser.nextWithBlanks
          pure (some (⟨← className, none⟩, reach))
      | .openBracket, .block _ content closing _ => do
          refuse reach component.token
          let _ ← Parser.nextWithBlanks
          let test ← Parser.onContent content closing attributeContent
          pure (some (⟨test, none⟩, reach))
      | .colon, _ => do
          let _ ← Parser.nextWithBlanks
          pure (some (← pseudo lists reach))
      | .delim '&', _ => do
          let _ ← Parser.nextWithBlanks
          pure (some (⟨.nesting, none⟩, reach))
      | _, _ => pure none

/-- Takes simple selectors in a row, at most `fuel` of them. -/
def simples (lists : Lists) : Nat → Reach → Parser (List Found × Reach)
  | 0, reach => pure ([], reach)
  | fuel + 1, reach => do
      match ← simple lists reach with
      | none => pure ([], reach)
      | some (found, reach) => do
          let (rest, reach) ← simples lists fuel reach
          pure (found :: rest, reach)

/-- Takes a type selector, if there is one and it may stand here. -/
def leadingType (reach : Reach) : Parser (List Found) := do
  match ← typeSelector with
  | none => pure []
  | some simple =>
      if reach.isAfterPseudo then Parser.fail .invalidState else pure [⟨simple, none⟩]

/-- Takes a compound. -/
def compound (lists : Lists) (reach : Reach) : Parser (List Found × Reach) := do
  Parser.skipGaps
  let nesting : List Found :=
    if ← Parser.succeeds (Parser.token (.delim '&')) then [⟨.nesting, none⟩] else []
  let typed ← leadingType reach
  let (rest, reach) ← simples lists ((← Parser.remaining) + 1) reach
  pure (nesting ++ typed ++ rest, reach)

/-- The steps of a compound: each pseudo-element that ends a selector is a step of its own. -/
def stepsOf (relation : Option Combinator) : List Found → List Step
  | [] => [.mk relation []]
  | ⟨simple, none⟩ :: rest =>
      match stepsOf relation rest with
      | .mk relation compound :: more => .mk relation (simple :: compound) :: more
      | [] => []
  | ⟨simple, some inner⟩ :: rest =>
      match stepsOf (some inner) rest with
      | .mk inner compound :: more => .mk relation [] :: .mk inner (simple :: compound) :: more
      | [] => []

/-- The combinator that a token stands for. -/
def combinator? : Token → Option Combinator
  | .delim '>' => some .child
  | .delim '+' => some .nextSibling
  | .delim '~' => some .laterSibling
  | _ => none

/-- Takes a combinator, if another compound has to follow. -/
def combinator : Parser (Option Combinator) := fun input =>
  let gaps := input.components.takeWhile isGap
  let rest := input.dropWhile isGap
  match rest.components with
  | [] => .ok (none, rest)
  | component :: after =>
      match combinator? component.token with
      | some found => .ok (some found, { rest with components := after })
      | none =>
          if gaps.any Component.isBlank then .ok (some .descendant, rest) else .ok (none, input)

/-- Nothing may be left behind a pseudo-element. -/
def nothingLeft : Parser Unit := do
  let location ← Parser.here
  match ← Parser.optional Parser.next with
  | some component => Parser.failAt location (.afterPseudoElement component.token)
  | none => pure ()

/-- Takes compounds and combinators by turns, at most `fuel` of them. -/
def chain (lists : Lists) : Nat → Reach → Option Combinator → Bool → Parser (List Step)
  | 0, _, _, _ => pure []
  | fuel + 1, reach, relation, isFirst => do
      let (found, reach) ← compound lists reach
      let steps := stepsOf relation found
      if found.isEmpty then
        Parser.fail (if isFirst then .emptySelector else .danglingCombinator)
      else if reach.isAfterPseudo then do
        nothingLeft
        pure steps
      else
        match ← combinator with
        | none => pure steps
        | some next => do
            if reach.noCombinators then Parser.fail .invalidState
            pure (steps ++ (← chain lists fuel reach (some next) false))

/-- Takes a combinator in front of a selector, if there is one. -/
def leadingCombinator : Parser (Option Combinator) := do
  let component ← fun input => (Parser.next input).map fun (component, _) => (component, input)
  match combinator? component.token with
  | some found => do
      let _ ← Parser.next
      pure (some found)
  | none => pure none

/-- Takes one selector. -/
def selector (lists : Lists) (rule : ListRule) : Parser Selector := do
  let relation ← if rule.isRelative then leadingCombinator else pure none
  let steps ← chain lists ((← Parser.remaining) + 1) rule.reach relation true
  pure (.chain steps)

/-- Skips what is left in front of a comma. -/
def skipToComma : Parser Unit := fun input =>
  .ok ((), (Parser.splitBefore isComma input).2)

/-- Takes one selector in front of a comma; a faulty one is left out of a forgiving list. -/
def separate (forgiving : Bool) (one : Parser Selector) : Parser (List Selector) := do
  if forgiving then
    match ← Parser.optional (Parser.before isComma one) with
    | some selector => pure [selector]
    | none => do
        skipToComma
        pure []
  else do pure [← Parser.before isComma one]

/-- Takes selectors between commas, at most `fuel` of them. -/
def separated (forgiving : Bool) (one : Parser Selector) : Nat → Parser (List Selector)
  | 0 => pure []
  | fuel + 1 => do
      let found ← separate forgiving one
      match ← Parser.optional Parser.next with
      | none => pure found
      | some _ => do pure (found ++ (← separated forgiving one fuel))

/-- Takes a list of selectors that nest at most `depth` lists inside each other. -/
def listAt : Nat → Lists
  | 0, _ => Parser.fail .tooDeep
  | depth + 1, rule =>
      let one := selector (listAt depth) rule
      if rule.isSingle then do pure [← one]
      else do separated rule.forgiving one ((← Parser.remaining) + 1)

/-- Takes a list of selectors. -/
def list (rule : ListRule) : Parser (List Selector) := do
  listAt ((← Parser.remaining) + 1) rule

end SelectorParser

namespace Selector

/-- Takes the selectors of a rule outside of other rules. -/
def takeList : Parser (List Selector) := SelectorParser.list ⟨false, false, false, .start⟩

/-- Takes the selectors of a rule inside of another rule. -/
def takeNestedList : Parser (List Selector) := do
  pure ((← SelectorParser.list ⟨false, true, false, .start⟩).map nested)

/-- Takes selectors in relation to the elements of a scope; faulty ones are left out. -/
def takeScopedList : Parser (List Selector) := do
  let scope : Simple := .pseudoClass (Text.of "scope")
  pure ((← SelectorParser.list ⟨true, true, false, .start⟩).map (anchored scope))

/-- Takes a selector that mentions the nesting selector, given how to take one. -/
def takeNesting (one : Parser Selector) : Parser Selector := do
  let selector ← one
  if selector.nests then pure selector else Parser.fail .noNesting

/-- Takes selectors each of which mentions the nesting selector. -/
def takeNestingList : Parser (List Selector) := do
  let fuel := (← Parser.remaining) + 1
  let one := SelectorParser.selector (SelectorParser.listAt fuel) ⟨false, false, false, .start⟩
  SelectorParser.separated false (takeNesting one) fuel

end Selector

end StyledMarkup.Css
