namespace StyledMarkup

/-!
# Text

Everything this library reads or writes is a sequence of characters.  A text
is kept as the list of its characters, so that searching, cutting and
replacing are recursions on the list.
-/

/-- A text is the list of its characters. -/
abbrev Text := List Char

namespace Text

/-- The pattern occurs somewhere inside the text; the empty pattern always does. -/
def occursIn (pattern : Text) : Text → Bool
  | [] => pattern.isEmpty
  | first :: rest => pattern.isPrefixOf (first :: rest) || occursIn pattern rest

/-- Splits at the first place where the pattern starts; both sides exclude the pattern. -/
def cutFirst? (pattern : Text) : Text → Option (Text × Text)
  | [] => if pattern.isEmpty then some ([], []) else none
  | first :: rest =>
      if pattern.isPrefixOf (first :: rest) then
        some ([], (first :: rest).drop pattern.length)
      else
        (cutFirst? pattern rest).map fun (before, after) => (first :: before, after)

/-- Writes the text before, between and after all characters. -/
def intersperse (inserted : Text) : Text → Text
  | [] => inserted
  | first :: rest => inserted ++ first :: intersperse inserted rest

/-- Replaces the occurrences of a pattern that begins with `head`, left to right without overlap. -/
def replaceFrom (head : Char) (more replacement : Text) : Text → Text
  | [] => []
  | first :: rest =>
      if (head :: more).isPrefixOf (first :: rest) then
        replacement ++ replaceFrom head more replacement (rest.drop more.length)
      else
        first :: replaceFrom head more replacement rest
termination_by text => text.length
decreasing_by all_goals simp_all; try omega

/-- Replaces every occurrence of the pattern, left to right without overlap.

The empty pattern occurs at every gap between characters and at both ends. -/
def replaceAll (pattern replacement : Text) (text : Text) : Text :=
  match pattern with
  | [] => intersperse replacement text
  | head :: more => replaceFrom head more replacement text

/-- Joins texts with a separator between neighbours. -/
def join (separator : Text) : List Text → Text
  | [] => []
  | [last] => last
  | first :: rest => first ++ separator ++ join separator rest

/-- A text written the given number of times. -/
def repeated (text : Text) : Nat → Text
  | 0 => []
  | count + 1 => text ++ repeated text count

/-- Parts of a text between the separator characters; `n` separators make `n + 1` parts. -/
def splitOn (separator : Char) : Text → List Text
  | [] => [[]]
  | first :: rest =>
      if first = separator then
        [] :: splitOn separator rest
      else
        match splitOn separator rest with
        | [] => [[first]]
        | part :: parts => (first :: part) :: parts

/-- Lexicographic order by code point, which is also the order of the encoded bytes. -/
def lessThan : Text → Text → Bool
  | _, [] => false
  | [], _ :: _ => true
  | first :: rest, other :: others =>
      first.val < other.val || (first = other && lessThan rest others)

/-- Decimal digits of a natural number. -/
def ofNat (n : Nat) : Text := Nat.toDigits 10 n

/-- Decimal digits of an integer, with a minus sign for the negative ones. -/
def ofInt : Int → Text
  | .ofNat n => ofNat n
  | .negSucc n => '-' :: ofNat (n + 1)

/-- ASCII letters become lower case, all other characters stay. -/
def lower (text : Text) : Text := text.map Char.toLower

/-- Equality of texts up to the case of ASCII letters. -/
def sameIgnoringCase (first second : Text) : Bool := lower first == lower second

/-- Number of bytes of the text in UTF-8. -/
def byteLength : Text → Nat
  | [] => 0
  | first :: rest => first.utf8Size + byteLength rest

end Text

/-- The characters of a string literal. -/
abbrev Text.of (literal : String) : Text := literal.toList

/-- A text is one of some words, in upper or lower case. -/
def isOneOf (words : List String) (text : Text) : Bool :=
  words.any fun word => Text.of word == Text.lower text

end StyledMarkup
