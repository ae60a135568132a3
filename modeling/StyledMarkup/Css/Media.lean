import StyledMarkup.Css.Feature

namespace StyledMarkup.Css

/-!
# Media queries

A media query asks for a medium and for features of it.  Features that limit a
value are printed as comparisons.
-/

/-- A word in front of a medium. -/
inductive Qualifier where
  | only
  | negated
deriving DecidableEq, Repr

/-- A medium with a condition. -/
structure MediaQuery where
  qualifier : Option Qualifier
  medium : Option Text
  condition : Option Condition

namespace MediaQuery

/-- The text of a medium; all media need not be named. -/
def mediumText (query : MediaQuery) : Text :=
  match query.medium with
  | some medium => medium
  | none => if query.qualifier.isSome || query.condition.isNone then Text.of "all" else []

/-- The text of a media query. -/
def print (query : MediaQuery) : Text :=
  let qualifier :=
    match query.qualifier with
    | none => []
    | some .only => Text.of "only "
    | some .negated => Text.of "not "
  let medium := query.mediumText
  let condition :=
    match query.condition with
    | none => []
    | some condition =>
        if medium.isEmpty then condition.print
        else if condition.isAlternative then Text.of " and (" ++ condition.print ++ [')']
        else Text.of " and " ++ condition.print
  qualifier ++ medium ++ condition

/-- The text of a list of media queries; an empty list never matches. -/
def printList (queries : List MediaQuery) : Text :=
  if queries.isEmpty then Text.of "not all" else Text.join [',', ' '] (queries.map print)

end MediaQuery

/-! ## Reading media queries -/

/-- Conditions of media. -/
def mediaRule : ConditionRule := ⟨Feature.take mediaFeatures, [], Condition.negate⟩

namespace MediaQuery

/-- Takes the word in front of a medium. -/
def takeQualifier : Parser Qualifier := do
  let location ← Parser.here
  let name ← Parser.ident
  if isOneOf ["only"] name then pure .only
  else if isOneOf ["not"] name then pure .negated
  else Parser.failAt location (.unexpectedToken (.ident name))

/-- The name of a medium; none for all media. -/
def mediumOf (name : Text) : Option Text :=
  if isOneOf ["all"] name then none
  else if isOneOf ["print", "screen"] name then some (Text.lower name)
  else some name

/-- Takes a medium with an optional word in front. -/
def takeMedium : Parser (Option Qualifier × Option Text) := do
  let qualifier ← Parser.optional takeQualifier
  let name ← Parser.ident
  pure (qualifier, mediumOf name)

/-- Takes a media query. -/
def take : Parser MediaQuery := do
  match ← Parser.optional takeMedium with
  | none => do
      let condition ← mediaRule.take true
      pure ⟨none, none, some condition⟩
  | some (qualifier, medium) => do
      match ← Parser.optional (Parser.keyword "and") with
      | none => pure ⟨qualifier, medium, none⟩
      | some _ => do
          let condition ← mediaRule.take false
          pure ⟨qualifier, medium, some condition⟩

/-- Takes media queries between commas, at most `fuel` of them; an unfinished one ends the list. -/
def takeSome : Nat → Parser (List MediaQuery)
  | 0 => pure []
  | fuel + 1 => fun input =>
      let (inside, rest) := Parser.splitBefore (fun token => token == .comma) input
      match Parser.onInput inside take with
      | .error failure => if failure.fault = .endOfInput then .ok ([], rest) else .error failure
      | .ok query =>
          match Parser.next rest with
          | .error _ => .ok ([query], { rest with components := [] })
          | .ok (_, rest) => (takeSome fuel rest).map fun (queries, rest) => (query :: queries, rest)

/-- Takes a list of media queries, which may be empty. -/
def takeList : Parser (List MediaQuery) := do
  match ← Parser.peek? with
  | none => pure []
  | some _ => takeSome ((← Parser.remaining) + 1)

end MediaQuery

end StyledMarkup.Css
