import StyledMarkup.Text.Basic

namespace StyledMarkup.Css

/-!
# Locations

A location in a stylesheet is a line and a column, both counted from one.
Columns count UTF-16 units.
-/

/-- A line and a column, both counted from one. -/
structure Location where
  line : Nat
  column : Nat
deriving DecidableEq, Repr

/-- Line feeds, form feeds and carriage returns end a line. -/
def isNewline (c : Char) : Bool := c == '\n' || c == '\r' || c == '\x0c'

/-- Number of UTF-16 units of a character. -/
def unitCount (c : Char) : Nat := if c.toNat < 0x10000 then 1 else 2

namespace Location

/-- The start of a stylesheet. -/
def start : Location := ⟨1, 1⟩

/-- The location after a text; a carriage return and a line feed are one line end. -/
def after (location : Location) : Text → Location
  | [] => location
  | '\r' :: '\n' :: rest => Location.after ⟨location.line + 1, 1⟩ rest
  | first :: rest =>
      if isNewline first then Location.after ⟨location.line + 1, 1⟩ rest
      else Location.after ⟨location.line, location.column + unitCount first⟩ rest

end Location

end StyledMarkup.Css
