import StyledMarkup.Css.Admitted
import StyledMarkup.Css.Condition
import StyledMarkup.Css.Value.Group

namespace StyledMarkup.Css

/-!
# Features

A feature of a medium or of a container is compared with a value of a certain
kind.  Features that limit a value are printed as comparisons.
-/

/-- How a feature is compared with a value. -/
inductive Order where
  | equal
  | less
  | lessOrEqual
  | greater
  | greaterOrEqual
deriving DecidableEq, Repr

namespace Order

/-- The sign between two blanks. -/
def print : Order → Text
  | .equal => Text.of " = "
  | .less => Text.of " < "
  | .lessOrEqual => Text.of " <= "
  | .greater => Text.of " > "
  | .greaterOrEqual => Text.of " >= "

/-- The comparison with its sides exchanged. -/
def flipped : Order → Order
  | .equal => .equal
  | .less => .greater
  | .lessOrEqual => .greaterOrEqual
  | .greater => .less
  | .greaterOrEqual => .lessOrEqual

/-- The comparison that holds where this one does not; the one for equal values stays. -/
def opposite : Order → Order
  | .equal => .equal
  | .less => .greaterOrEqual
  | .lessOrEqual => .greater
  | .greater => .lessOrEqual
  | .greaterOrEqual => .less

/-- Two comparisons that can stand on both sides of a feature. -/
def agrees : Order → Order → Bool
  | .less, .less => true
  | .less, .lessOrEqual => true
  | .lessOrEqual, .less => true
  | .lessOrEqual, .lessOrEqual => true
  | .greater, .greater => true
  | .greater, .greaterOrEqual => true
  | .greaterOrEqual, .greater => true
  | .greaterOrEqual, .greaterOrEqual => true
  | _, _ => false

end Order

/-- What kind of value a feature has. -/
inductive FeatureKind where
  | length
  | number
  | whole
  | switch
  | resolution
  | ratio
  | word
  | unknown
deriving DecidableEq, Repr

namespace FeatureKind

/-- Values of the kind can be greater and smaller. -/
def hasOrder : FeatureKind → Bool
  | .switch => false
  | .word => false
  | _ => true

/-- A value of the second kind can be a value of a feature of the first one. -/
def fits (expected found : FeatureKind) : Bool :=
  expected == .unknown || found == .unknown || expected == found

/-- Takes a ratio whose second number is written. -/
def writtenRatio : Parser Text := do
  let first ← Value.number
  Parser.slash
  let second ← Value.number
  pure (if second.isOne then floatText first
    else floatText first ++ Text.of " / " ++ floatText second)

/-- Takes a reference to a variable of the environment. -/
def environmentReference : Parser Text := do
  let component ← Parser.expect fun component =>
    match component.token with
    | .function name => if isOneOf ["env"] name then some component else none
    | _ => none
  match component with
  | .leaf _ => pure []
  | .block _ content closing _ => do
      Parser.onContent content closing do
        if ← takeReferenceHead false then
          let _ ← takeGood
      pure (Text.of "env(" ++ referenceOf false (labelled content) ++ [')'])

/-- Takes a value of a kind. -/
def takeExpected : FeatureKind → Parser Text
  | .length => do pure (← Value.length).text
  | .number => do pure (floatText (← Value.number))
  | .whole => do pure (Text.ofInt (← Value.integer))
  | .switch => do
      let value ← Value.integer
      if value = 0 ∨ value = 1 then pure (Text.ofInt value) else Parser.fail .invalidValue
  | .resolution => do pure (← Value.resolution).text
  | .ratio => Value.ratio
  | .word => do pure (identText (← Parser.ident))
  | .unknown => Parser.fail .invalidValue

/-- Takes a value of any kind and tells which kind it is. -/
def takeAny : Parser (FeatureKind × Text) :=
  Parser.firstOf
    [do pure (.ratio, ← writtenRatio),
      do pure (.number, ← takeExpected .number),
      do pure (.length, ← takeExpected .length),
      do pure (.resolution, ← takeExpected .resolution),
      do pure (.unknown, ← environmentReference)]
  |>.orElse do pure (.word, ← takeExpected .word)

/-- Takes a value, if possible of the expected kind, and tells which kind it is. -/
def take (expected : FeatureKind) : Parser (FeatureKind × Text) :=
  Parser.orElse (do pure (expected, ← takeExpected expected)) takeAny

end FeatureKind

/-- Names of features with the kinds of their values. -/
abbrev FeatureTable := List (FeatureKind × List String)

/-- Features of media. -/
def mediaFeatures : FeatureTable :=
  [(.length, ["width", "height", "device-width", "device-height"]),
    (.ratio, ["aspect-ratio", "device-aspect-ratio"]),
    (.whole, ["color", "color-index", "monochrome", "horizontal-viewport-segments",
      "vertical-viewport-segments"]),
    (.resolution, ["resolution"]),
    (.switch, ["grid"]),
    (.number, ["-webkit-device-pixel-ratio", "-moz-device-pixel-ratio"]),
    (.word, ["orientation", "overflow-block", "overflow-inline", "display-mode", "scan", "update",
      "environment-blending", "color-gamut", "dynamic-range", "inverted-colors", "pointer",
      "hover", "any-pointer", "any-hover", "nav-controls", "video-color-gamut",
      "video-dynamic-range", "scripting", "prefers-reduced-motion",
      "prefers-reduced-transparency", "prefers-contrast", "forced-colors",
      "prefers-color-scheme", "prefers-reduced-data"])]

/-- Features of containers. -/
def containerFeatures : FeatureTable :=
  [(.length, ["width", "height", "inline-size", "block-size"]),
    (.ratio, ["aspect-ratio"]),
    (.word, ["orientation"])]

/-- Features of how far a container has been scrolled. -/
def scrollFeatures : FeatureTable := [(.word, ["stuck", "snapped", "scrollable", "scrolled"])]

/-- A name of a feature: what is printed, and the comparison that was part of the name. -/
structure FeatureName where
  text : Text
  kind : FeatureKind
  bound : Option Order
deriving DecidableEq, Repr

namespace FeatureName

/-- A word in front of a name in upper or lower case, cut off. -/
def withoutWord? (word : String) (name : Text) : Option Text :=
  if Text.sameIgnoringCase (name.take word.length) (Text.of word) then some (name.drop word.length)
  else none

/-- The name without a word for a limit, and the comparison that this word stands for. -/
def limited (name : Text) : Text × Option Order :=
  match withoutWord? "min-" name, withoutWord? "max-" name with
  | some rest, _ => (rest, some .greaterOrEqual)
  | none, some rest => (rest, some .lessOrEqual)
  | none, none => (name, none)

/-- The feature that a name stands for; the word for a limit is behind the letters of a browser. -/
def of (table : FeatureTable) (name : Text) : FeatureName :=
  let unknown : FeatureName := ⟨identText name, .unknown, none⟩
  if (Text.of "--").isPrefixOf name then unknown
  else
    let (full, bound) :=
      match withoutWord? "-webkit-" name with
      | some rest =>
          let (plain, bound) := limited rest
          (Text.of "-webkit-" ++ plain, bound)
      | none => limited name
    match table.find? fun (_, names) => isOneOf names full with
    | some (kind, _) => ⟨Text.lower full, kind, bound⟩
    | none => unknown

end FeatureName

namespace Feature

/-- Takes the name of a feature. -/
def takeName (table : FeatureTable) : Parser FeatureName := do
  pure (.of table (← Parser.ident))

/-- Takes a comparison, or a colon if there may be one. -/
def takeOrder (colonAllowed : Bool) : Parser (Option Order) := do
  let location ← Parser.here
  let component ← Parser.next
  let orEqual := fun (strict weak : Order) => do
    if ← Parser.succeeds (Parser.token (.delim '=')) then pure (some weak) else pure (some strict)
  match component.token with
  | .colon => if colonAllowed then pure none else Parser.failAt location (.unexpectedToken .colon)
  | .delim '=' => pure (some .equal)
  | .delim '>' => orEqual .greater .greaterOrEqual
  | .delim '<' => orEqual .less .lessOrEqual
  | token => Parser.failAt location (.unexpectedToken token)

/-- Takes a value that fits a feature. -/
def takeValue (kind : FeatureKind) : Parser Text := do
  let (found, text) ← kind.take
  if kind.fits found then pure text else Parser.fail .invalidMedia

/-- A feature in brackets. -/
def test (parts : List Text) : Condition := .question ('(' :: parts.flatten ++ [')'])

/-- A comparison of a feature with a value, in brackets. -/
def comparison (name : Text) (order : Order) (value : Text) : Condition :=
  let text := fun (order : Order) => '(' :: name ++ order.print ++ value ++ [')']
  .test (text order) (some (text order.opposite))

/-- Takes a feature that starts with its name. -/
def takeNamed (table : FeatureTable) : Parser Condition := do
  let name ← takeName table
  match ← Parser.optional (takeOrder true) with
  | none => pure (test [name.text])
  | some order => do
      if order.isSome && name.bound.isSome then Parser.fail .invalidMedia
      let value ← takeValue name.kind
      match order.or name.bound with
      | none => pure (test [name.text, Text.of ": ", value])
      | some order =>
          if name.kind.hasOrder then pure (comparison name.text order value)
          else Parser.fail .invalidMedia

/-- The first name of a feature outside of blocks, or the location behind the components. -/
def firstName (table : FeatureTable) (last : Location) :
    List Component → Except Location (FeatureName × Location)
  | [] => .error last
  | component :: rest =>
      if isGap component then firstName table last rest
      else
        match component.ident? with
        | some name => .ok (.of table name, component.first.stop)
        | none => firstName table component.first.stop rest

/-- Takes a feature that starts with a value of the kind that its name asks for. -/
def takeAfterValue (table : FeatureTable) (name : FeatureName) : Parser Condition := do
  let (kind, first) ← name.kind.take
  let order := (← takeOrder false).getD .equal
  let _ ← takeName table
  if ! name.kind.hasOrder || ! name.kind.fits kind then Parser.fail .invalidMedia
  match ← Parser.optional (takeOrder false) with
  | none => pure (comparison name.text order.flipped first)
  | some second => do
      let second := second.getD .equal
      if ! order.agrees second then Parser.fail .invalidMedia
      let last ← takeValue name.kind
      pure (test [first, order.print, name.text, second.print, last])

/-- Takes a feature that starts with a value. -/
def takeValued (table : FeatureTable) : Parser Condition := fun input =>
  match firstName table input.here input.components with
  | .error last => .error ⟨.invalidMedia, last⟩
  | .ok (name, location) =>
      if name.bound.isSome then .error ⟨.invalidMedia, location⟩
      else takeAfterValue table name input

/-- Takes a feature. -/
def take (table : FeatureTable) : Parser Condition := fun input =>
  match takeNamed table input with
  | .ok result => .ok result
  | .error failure =>
      if failure.fault = .invalidMedia then .error failure else takeValued table input

end Feature

end StyledMarkup.Css
