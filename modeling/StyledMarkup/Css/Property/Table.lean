import StyledMarkup.Css.Property.Background
import StyledMarkup.Css.Property.Effect
import StyledMarkup.Css.Property.Flex
import StyledMarkup.Css.Property.Grid
import StyledMarkup.Css.Property.Interface
import StyledMarkup.Css.Property.Motion
import StyledMarkup.Css.Property.Text
import StyledMarkup.Css.Tokens

namespace StyledMarkup.Css.Property

/-!
# All properties

A property of a known family is printed in lower case, and its value in the
form of its grammar.  A value that does not follow the grammar, and the value
of an unknown property, are printed token by token.
-/

/-- All families but those of motion, whose values name properties. -/
def plainFamilies : List Family :=
  boxFamilies ++ borderFamilies ++ backgroundFamilies ++ flexFamilies ++ gridFamilies ++
    fontFamilies ++ textFamilies ++ transformFamilies ++ effectFamilies ++ interfaceFamilies

/-- The name stands for all properties at once; letters for a browser change nothing. -/
def isAll (name : Text) : Bool :=
  let name := Text.lower name
  ["", webkit, moz, ms, opera].any fun vendor => Text.of (vendor ++ "all") == name

/-- The name belongs to a family of properties. -/
def isKnown (name : Text) : Bool :=
  let name := Text.lower name
  isAll name || (plainFamilies ++ motionFamilies id).any fun family => family.has name

/-- A custom property, whose name an author has chosen. -/
def isCustom (name : Text) : Bool := (Text.of "--").isPrefixOf name

/-- The name of a property inside of a value. -/
def nameInValue (name : Text) : Text :=
  if isAll name then Text.of "all" else if isKnown name then Text.lower name else name

/-- The name under which a property is declared. -/
def printedName (name : Text) : Text :=
  if isAll name then Text.of "all" else if isKnown name then Text.lower name else identText name

/-- The letters for a browser in front of a known name, and what is behind them. -/
def split (name : Text) : String × Text :=
  let lowered := Text.lower name
  if isAll name then ("", Text.of "all")
  else
    match (plainFamilies ++ motionFamilies id).findSome? fun family => family.split? lowered with
    | some (vendor, rest) => (vendor, rest)
    | none => ("", name)

/-- All families of properties. -/
def families : List Family := plainFamilies ++ motionFamilies nameInValue

/-- Words for the value of all properties at once. -/
def allWords : List String := ["initial", "inherit", "unset", "revert", "revert-layer"]

/-- The rows of a value in the form of its grammar, if it follows one. -/
def grammarRows? (name : Text) (value : Input) : Option Value.Rows :=
  let name := Text.lower name
  match families.find? fun family => family.has name with
  | none => none
  | some family =>
      match Parser.onInput value family.value with
      | .ok rows => some rows
      | .error _ => none

end StyledMarkup.Css.Property
