import StyledMarkup.Alias.Delimiter

namespace StyledMarkup

/-!
# Segments

A delimiter opens a segment.  The class names up to the next delimiter are the
members of the segment, unless the class name with the delimiter goes on after
it: then the names that follow belong to no segment.
-/

/-- The stem and suffix of a delimiter and the class names that follow it. -/
structure Segment where
  stem : Text
  suffix : Text
  members : List Text
deriving DecidableEq, Repr

namespace Segment

/-- The members in the text after a delimiter, which must start with a space. -/
def membersOf : Text → List Text
  | ' ' :: rest => Text.words rest
  | _ => []

/-- The first two parts of a delimiter between hyphens are its stem and its suffix. -/
def ofOccurrence (delimiter gap : Text) : Option Segment :=
  match Text.splitOn '-' delimiter with
  | stem :: suffix :: _ => some ⟨stem, suffix, membersOf gap⟩
  | _ => none

/-- The segments of a list of class names. -/
def ofNames (names : List Text) : List Segment :=
  (Delimiter.occurrences (Text.join [' '] names)).filterMap fun (delimiter, gap) =>
    ofOccurrence delimiter gap

end Segment

end StyledMarkup
