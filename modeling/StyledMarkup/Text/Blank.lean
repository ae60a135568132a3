import StyledMarkup.Text.Basic

namespace StyledMarkup

/-!
# Blank characters

The characters of the Unicode property `White_Space`, the words of a text
between them, and trimming at the end of a text.
-/

/-- The 25 characters of the Unicode property `White_Space`. -/
def isBlank (c : Char) : Bool :=
  let code := c.toNat
  (9 ≤ code && code ≤ 13) || code == 0x20 || code == 0x85 || code == 0xA0 ||
    code == 0x1680 || (0x2000 ≤ code && code ≤ 0x200A) || code == 0x2028 ||
    code == 0x2029 || code == 0x202F || code == 0x205F || code == 0x3000

namespace Text

/-- Words of a text, given the word that is being read. -/
def wordsFrom (current : Text) : Text → List Text
  | [] => if current.isEmpty then [] else [current]
  | first :: rest =>
      if isBlank first then
        if current.isEmpty then wordsFrom [] rest else current :: wordsFrom [] rest
      else
        wordsFrom (current ++ [first]) rest

/-- The maximal non-blank runs of a text, in order. -/
def words (text : Text) : List Text := wordsFrom [] text

/-- The text without the blank characters at its end. -/
def trimEnd (text : Text) : Text := (text.reverse.dropWhile isBlank).reverse

end Text

end StyledMarkup
