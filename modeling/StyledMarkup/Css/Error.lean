import StyledMarkup.Css.Stylesheet

namespace StyledMarkup.Css

/-!
# Errors of stylesheets

An error of a text that is no stylesheet names a line and a column, both
counted from one.  Its offset is the number of bytes in front of that place.
-/

/-- Why a stylesheet could not be read or printed. -/
inductive Error where
  | malformed (message : Text) (line column : Nat)
  | unprintable (message : Text)
deriving DecidableEq, Repr

namespace Error

/-- The error for a fault at a location. -/
def ofFailure (failure : Failure) : Error :=
  .malformed failure.fault.message failure.location.line failure.location.column

/-- What went wrong. -/
def message : Error → Text
  | .malformed message _ _ => message
  | .unprintable message => message

/-- The error as it is shown. -/
def shown : Error → Text
  | .malformed message line column =>
      Text.of "Invalid stylesheet at " ++ Text.ofNat line ++ ':' :: Text.ofNat column ++
        Text.of ": " ++ message
  | .unprintable message => Text.of "Failed to print stylesheet: " ++ message

/-- The text after a number of line ends, and how many bytes were in front of it. -/
def afterLines? : Nat → Text → Option (Nat × Text)
  | 0, source => some (0, source)
  | _ + 1, [] => none
  | lines + 1, first :: rest =>
      let next := if first = '\n' then afterLines? lines rest else afterLines? (lines + 1) rest
      next.map fun (bytes, after) => (first.utf8Size + bytes, after)

/-- Number of bytes in front of a character of the first line, or in front of its end. -/
def columnBytes : Nat → Text → Nat
  | 0, _ => 0
  | _ + 1, [] => 0
  | characters + 1, first :: rest =>
      if first = '\n' then 0 else first.utf8Size + columnBytes characters rest

/-- The offset of an error in its source; line and column zero count as one. -/
def offset? (source : Text) : Error → Option Nat
  | .malformed _ line column =>
      (afterLines? (line - 1) source).map fun (bytes, rest) => bytes + columnBytes (column - 1) rest
  | .unprintable _ => none

end Error

/-- The stylesheet written in a text, or the error that it has. -/
def parse (source : Text) : Except Error Stylesheet :=
  match Stylesheet.read source with
  | .ok sheet => .ok sheet
  | .error failure => .error (.ofFailure failure)

end StyledMarkup.Css
