import StyledMarkup.Css.Error

namespace StyledMarkup.Css

/-!
# Selecting rules by class names

A style rule belongs to a class name if it declares something and the name
occurs in the text of one of its selectors.  Selecting rules of a stylesheet
keeps the style rules that belong to one of the names, and after them the media
and supports rules that hold such rules directly.  All other rules are dropped.
-/

namespace Rule

/-- A style rule with these selectors and declarations belongs to one of the names. -/
def belongsTo (names : List Text) (selectors : List Selector)
    (declarations : List Declaration) : Bool :=
  if declarations.isEmpty then false
  else
    let texts := selectorTexts selectors
    names.any fun name => texts.any fun text => Text.occursIn name text

/-- Whether a style rule belongs to one of the names; other rules have no answer. -/
def belongs? (names : List Text) : Rule → Option Bool
  | .style selectors declarations _ => some (belongsTo names selectors declarations)
  | _ => none

/-- The style rules that belong to one of the names. -/
def selectStyles (names : List Text) (rules : List Rule) : List Rule :=
  rules.filter fun rule => (rule.belongs? names).getD false

/-- A media or supports rule with the style rules that belong to one of the names, if there are any. -/
def selectInside? (names : List Text) : Rule → Option Rule
  | .media queries rules =>
      let rules := selectStyles names rules
      if rules.isEmpty then none else some (.media queries rules)
  | .supports condition rules =>
      let rules := selectStyles names rules
      if rules.isEmpty then none else some (.supports condition rules)
  | _ => none

end Rule

/-- The style rules that have been selected, and the rules that hold selected ones. -/
structure Selection where
  styles : List Rule
  containers : List Rule

namespace Selection

/-- Nothing has been selected. -/
def empty : Selection := ⟨[], []⟩

/-- Adds a rule to the selection, or what is left of it, or nothing. -/
def add (names : List Text) (selection : Selection) (rule : Rule) : Selection :=
  match rule.belongs? names with
  | some true => { selection with styles := selection.styles ++ [rule] }
  | some false => selection
  | none =>
      match rule.selectInside? names with
      | some container => { selection with containers := selection.containers ++ [container] }
      | none => selection

/-- The selected style rules, and after them the rules that hold some. -/
def rules (selection : Selection) : List Rule := selection.styles ++ selection.containers

end Selection

/-- The style rules that belong to one of the names, and after them the rules that hold some. -/
def Rule.selectAll (names : List Text) (rules : List Rule) : List Rule :=
  (rules.foldl (Selection.add names) .empty).rules

/-- The stylesheet with only the rules that belong to one of the names. -/
def Stylesheet.select (names : List Text) (sheet : Stylesheet) : Stylesheet :=
  { sheet with rules := Rule.selectAll names sheet.rules }

/-- The printed rules of a stylesheet that belong to one of the names. -/
def extract (names : List Text) (source : Text) : Except Error Text := do
  let sheet ← parse source
  pure (sheet.select names).print

end StyledMarkup.Css
