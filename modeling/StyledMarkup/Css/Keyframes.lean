import StyledMarkup.Css.Declaration
import StyledMarkup.Css.Property.Motion

namespace StyledMarkup.Css.Keyframes

/-!
# Keyframes

A keyframe gives declarations for places in an animation.  Faulty keyframes
are left out.
-/

/-- Takes a place in an animation, or in a named part of the way of a box. -/
def takePlace : Parser Text :=
  Parser.firstOf
    [do pure (percentText (← Value.percentage)),
      Parser.word ["from", "to"],
      do
        let name ← Parser.word Property.rangeNames
        pure (name ++ ' ' :: percentText (← Value.percentage))]

/-- Takes the block of a keyframe with its places in front. -/
def takeFrame (inside : Input) : Parser Keyframe := do
  let (content, closing) ← Parser.block .openBrace
  match Parser.onInput inside (Parser.commaList takePlace) with
  | .error failure => Parser.failAt failure.location failure.fault
  | .ok places => do
      let declarations ← Parser.onContent content closing Declaration.takeAll
      pure ⟨places, declarations⟩

/-- Takes a keyframe; a faulty one, or a rule in its place, is none. -/
def takeItem (component : Component) : Parser (List Keyframe) := fun input =>
  match component.token with
  | .atKeyword _ => (Declaration.skipBehind endsHead input).map fun (_, rest) => ([], rest)
  | _ =>
      let (inside, rest) := Parser.splitBefore isBrace input
      match takeFrame inside rest with
      | .ok (frame, rest) => .ok ([frame], rest)
      | .error _ => (Parser.optional Parser.next rest).map fun (_, rest) => ([], rest)

/-- Takes keyframes, at most `fuel` of them. -/
def takeItems : Nat → Parser (List Keyframe)
  | 0 => pure []
  | fuel + 1 => do
      Declaration.skipSeparators
      match ← Parser.peek? with
      | none => pure []
      | some component => do
          let frames ← takeItem component
          pure (frames ++ (← takeItems fuel))

/-- Takes all keyframes. -/
def takeAll : Parser (List Keyframe) := do takeItems ((← Parser.remaining) + 1)

/-- Words that are no names of keyframes unless they have quotes. -/
def reservedNames : List String := "none" :: Value.wideWords

/-- Takes the name of keyframes; a string needs no quotes unless it is a word with a meaning. -/
def takeName : Parser Text := do
  let component ← Parser.next
  let refuse : Parser Text := Parser.failAt component.first.stop (.unexpectedToken component.token)
  match component.token with
  | .ident name => if isOneOf reservedNames name then refuse else pure (identText name)
  | .string name => pure (if isOneOf reservedNames name then stringText name else identText name)
  | _ => refuse

/-- The letters for browsers in front of the name of the rule. -/
def ruleNames : List String :=
  ["keyframes", "-webkit-keyframes", "-moz-keyframes", "-o-keyframes", "-ms-keyframes"]

/-- Takes what is printed in front of keyframes; those with some letters are not printed. -/
def takeHead (name : Text) : Parser (Option Text) := do
  let shown ← takeName
  pure (if isOneOf ["-ms-keyframes"] name then none
    else some ('@' :: Text.lower name ++ ' ' :: shown))

end StyledMarkup.Css.Keyframes
