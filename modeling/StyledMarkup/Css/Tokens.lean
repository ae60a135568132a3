import StyledMarkup.Css.Color.Parser

namespace StyledMarkup.Css

/-!
# Values token by token

A value that does not follow a grammar is printed token by token.  Blanks and
comments stay; colors, addresses and quantities are written in their usual
form.
-/

/-- A token outside of blocks. -/
def leafText (token : Token) : Text :=
  match Quantity.ofToken? token, token with
  | some quantity, .dimension _ _ => quantity.fullText
  | _, .hash digits => ((Color.ofDigits? digits).map Color.print).getD ('#' :: nameText digits)
  | _, .idHash digits => ((Color.ofDigits? digits).map Color.print).getD ('#' :: nameText digits)
  | _, token => token.print

/-- The argument of a `url` function, if it is a string. -/
def urlArgument? (content : List Component) : Option Text :=
  match (content.filter fun component => ! isGap component).map Component.token with
  | [.string value] => some value
  | _ => none

/-- Items without one blank at either end, unless there is only one item. -/
def trimEnds {α : Type} (isGap : α → Bool) (items : List α) : List α :=
  if items.length < 2 then items
  else
    let items :=
      match items with
      | first :: rest => if isGap first then rest else first :: rest
      | [] => []
    match items.reverse with
    | last :: rest => if isGap last then rest.reverse else items
    | [] => []

/-- Components without one blank at either end, unless there is only one. -/
def trimmed (components : List Component) : List Component := trimEnds Component.isBlank components

/-- A component with its text. -/
abbrev Labelled := Component × Text

/-- The text of a value. -/
def valueOf (parts : List Labelled) : Text :=
  (trimEnds (fun part => part.1.isBlank) parts).flatMap Prod.snd

/-- The function refers to a custom property or to a variable of the environment. -/
def isReference (name : Text) : Bool := name == Text.of "var" || name == Text.of "env"

/-- Variables that every environment has. -/
def environmentNames : List String :=
  ["safe-area-inset-top", "safe-area-inset-right", "safe-area-inset-bottom",
    "safe-area-inset-left", "viewport-segment-width", "viewport-segment-height",
    "viewport-segment-top", "viewport-segment-left", "viewport-segment-bottom",
    "viewport-segment-right"]

/-- The text of a part of the name of a reference. -/
def referenceName (isVariable : Bool) (part : Labelled) : Text :=
  match part.1.token with
  | .ident name =>
      if ! isVariable && isOneOf environmentNames name then Text.lower name else part.2
  | _ => part.2

/-- The arguments of a reference: a name and, after a comma, what stands in for a missing value. -/
def referenceOf (isVariable : Bool) (parts : List Labelled) : Text :=
  let name := parts.takeWhile fun part => part.1.token ≠ .comma
  let shown := Text.join [' ']
    ((name.filter fun part => ! isGap part.1).map (referenceName isVariable))
  match parts.drop name.length with
  | [] => shown
  | _ :: fallback => shown ++ ',' :: ' ' :: valueOf fallback

/-- The parts in front of a token and behind it. -/
def cutAt? (token : Token) (parts : List Labelled) : Option (List Labelled × List Labelled) :=
  let before := parts.takeWhile fun part => part.1.token ≠ token
  match parts.drop before.length with
  | [] => none
  | _ :: after => some (before, after)

/-- The components of a color in front of an opacity. -/
def componentsOf? {α : Type} (parts : List Labelled) (parser : Parser α) : Option α :=
  let components := parts.map Prod.fst
  match Parser.onInput ⟨components, .start⟩ parser with
  | .ok value => some value
  | .error _ => none

/-- The text of a color with an opacity that follows no grammar, given the text in front of it. -/
def openedText (opacity : List Labelled) (components : Text) : Text :=
  components ++ Text.of " / " ++ valueOf opacity ++ [')']

/-- A color, or two for light and dark, with components in front of an opacity that follows no
grammar. -/
def openComponents? (space : Space) (scale : Float32)
    (arguments : Color.Components → Parser (Channels × Bool)) (shown : Channels → Text)
    (parts : List Labelled) : Option Text := do
  let (before, opacity) ← cutAt? (.delim '/') parts
  let parser := do
    Color.referring false space scale arguments (← Color.referredColor Color.take)
  match ← componentsOf? before parser with
  | ((channels, false), none) => some (openedText opacity (shown channels))
  | ((light, false), some (dark, false)) =>
      some (Text.of "light-dark(" ++ openedText opacity (shown light) ++ Text.of ", " ++
        openedText opacity (shown dark) ++ [')'])
  | _ => none

/-- A color whose opacity, or whose two choices, do not follow a grammar. -/
def openColor? (name : Text) (parts : List Labelled) : Option Text :=
  let byte := fun (component : Float32) => Text.ofNat (Color.byteOf component)
  let shown := fun (head : String) (components : List Text) =>
    Text.of head ++ Text.join [' '] components
  if isOneOf ["rgb"] name then
    openComponents? .srgb 255.0 Color.Components.rgb (fun channels =>
      shown "rgb(" [byte channels.first, byte channels.second, byte channels.third]) parts
  else if isOneOf ["hsl"] name then
    openComponents? .hsl 1.0 (fun components => components.hueAndShares false) (fun channels =>
      shown "hsl(" [Color.componentText channels.first,
        Color.shareText (channels.second / 100.0), Color.shareText (channels.third / 100.0)]) parts
  else if isOneOf ["light-dark"] name then do
    let (light, dark) ← cutAt? .comma parts
    some (Text.of "light-dark(" ++ valueOf light ++ ',' :: ' ' :: valueOf dark ++ [')'])
  else none

/-- The text of a function. -/
def functionOf (name : Text) (parts : List Labelled) : Text :=
  match openColor? name parts with
  | some text => text
  | none =>
      identText name ++ '(' ::
        (if isReference name then referenceOf (name == Text.of "var") parts else valueOf parts) ++
        [')']

mutual

/-- A component, token by token. -/
def componentText : Component → Text
  | .leaf lexeme => leafText lexeme.token
  | .block opening content closing close? =>
      match Color.ofComponent? (.block opening content closing close?) with
      | some color => color.print
      | none =>
          match opening.token with
          | .function name => functionOf name (labelled content)
          | token => token.print ++ (labelled content).flatMap Prod.snd ++ Component.closerText token

/-- Components with their texts. -/
def labelled : List Component → List Labelled
  | [] => []
  | component :: rest => (component, componentText component) :: labelled rest

end

/-- The text of a value that is printed token by token. -/
def tokensText (components : List Component) : Text := valueOf (labelled components)

mutual

/-- A component whose tokens are printed as they were written. -/
def plainText : Component → Text
  | .leaf lexeme => lexeme.token.printWritten
  | .block opening content _ _ =>
      opening.token.printWritten ++ plainTexts content ++ Component.closerText opening.token

/-- Components whose tokens are printed as they were written. -/
def plainTexts : List Component → Text
  | [] => []
  | component :: rest => plainText component ++ plainTexts rest

end

end StyledMarkup.Css
