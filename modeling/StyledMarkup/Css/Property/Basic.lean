import StyledMarkup.Css.Value.Shape
import StyledMarkup.Css.Value.Easing

namespace StyledMarkup.Css.Property

/-!
# Families of properties

A family is a set of properties whose values follow the same grammar.  Some
properties are also known with the letters of a browser in front of their name.
-/

/-- A family of properties. -/
structure Family where
  /-- Names without letters for a browser. -/
  names : List String
  /-- What may stand in front of the names. -/
  vendors : List String
  /-- Takes a value; its text may have several rows. -/
  value : Parser Value.Rows

/-- Properties whose names have no letters for a browser. -/
def family (names : List String) (value : Parser Value.Written) : Family :=
  ⟨names, [""], do pure (.one (← value).text)⟩

/-- Properties that are also known with letters for a browser. -/
def prefixed (vendors : List String) (names : List String) (value : Parser Value.Written) : Family :=
  ⟨names, "" :: vendors, do pure (.one (← value).text)⟩

/-- Properties that are only known with letters for a browser. -/
def onlyPrefixed (vendors : List String) (names : List String) (value : Parser Value.Written) :
    Family :=
  ⟨names, vendors, do pure (.one (← value).text)⟩

/-- Properties whose values are words. -/
def words (names : List String) (choices : List String) : Family :=
  family names (Value.oneOf choices)

/-- The letters in front of a name in lower case, and the name of the family behind them. -/
def Family.split? (family : Family) (name : Text) : Option (String × Text) :=
  family.vendors.findSome? fun vendor =>
    match (Text.of vendor).isPrefixOf? name with
    | some rest =>
        if family.names.any fun other => Text.of other == rest then some (vendor, rest) else none
    | none => none

/-- A family has a property with a name in lower case. -/
def Family.has (family : Family) (name : Text) : Bool := (family.split? name).isSome

/-- The letters of four browsers. -/
def webkit : String := "-webkit-"

/-- The letters of one browser. -/
def moz : String := "-moz-"

/-- The letters of one browser. -/
def ms : String := "-ms-"

/-- The letters of one browser. -/
def opera : String := "-o-"

end StyledMarkup.Css.Property
