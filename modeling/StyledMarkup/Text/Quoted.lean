import StyledMarkup.Text.CharRange

namespace StyledMarkup.Text

/-!
# Quoted text in messages

Messages show a text in double quotes and a character in single quotes.  What
could not be seen on its own is written as an escape.
-/

/-- Lower-case hexadecimal digits of a character's code, in braces. -/
def codeEscape (c : Char) : Text :=
  Text.of "\\u\x7b" ++ Nat.toDigits 16 c.toNat ++ Text.of "\x7d"

/-- A character between the given quotes. -/
def shownChar (quote : Char) (c : Char) : Text :=
  if c = quote then ['\\', c]
  else if c = '\\' then Text.of "\\\\"
  else if c = '\n' then Text.of "\\n"
  else if c = '\r' then Text.of "\\r"
  else if c = '\t' then Text.of "\\t"
  else if c = '\x00' then Text.of "\\0"
  else if isUnseen c then codeEscape c
  else [c]

/-- A text in double quotes. -/
def quoted (text : Text) : Text := '"' :: text.flatMap (shownChar '"') ++ ['"']

/-- A character in single quotes. -/
def quotedChar (c : Char) : Text := '\x27' :: shownChar '\x27' c ++ ['\x27']

end StyledMarkup.Text
