import StyledMarkup.Tree.Basic
import StyledMarkup.Json.Printer

namespace StyledMarkup

/-!
# Markup

A tree is printed as indented markup.  Props are printed one per line in key
order, texts in quotes and other values as compact JSON in braces.  Elements
without children close themselves.
-/

namespace Markup

/-- A text inside quotes: backslashes and quotes get a backslash. -/
def escapeProp (text : Text) : Text :=
  Text.replaceAll ['"'] ['\\', '"'] (Text.replaceAll ['\\'] ['\\', '\\'] text)

/-- A text between tags: angle brackets are written by name. -/
def escapeText (text : Text) : Text :=
  Text.replaceAll ['>'] (Text.of "&gt;") (Text.replaceAll ['<'] (Text.of "&lt;") text)

/-- The printed value of a prop. -/
def propValue : Json.Value → Text
  | .text text => '"' :: escapeProp text ++ ['"']
  | value => '\x7b' :: value.print ++ ['\x7d']

/-- One line for each prop. -/
def propLines (indent : Text) : List (Text × Json.Value) → Text
  | [] => []
  | (key, value) :: rest =>
      '\n' :: indent ++ key ++ '=' :: propValue value ++ propLines indent rest

mutual

/-- An element at a depth; the first line is not indented. -/
def element (indent : Text) (depth : Nat) : Node → Text
  | .element _ tag props children _ =>
      let inside := optionalChildren indent (depth + 1) children
      let opening :=
        if props.fields.isEmpty then '<' :: tag
        else
          '<' :: tag ++ propLines (Text.repeated indent (depth + 1)) props.fields ++
            '\n' :: Text.repeated indent depth
      if inside.isEmpty then
        opening ++ if props.fields.isEmpty then Text.of " />" else Text.of "/>"
      else
        opening ++ '>' :: inside ++ '\n' :: Text.repeated indent depth ++ Text.of "</" ++ tag ++ ['>']

/-- Optional children at a depth. -/
def optionalChildren (indent : Text) (depth : Nat) : Option (List Child) → Text
  | none => []
  | some children => childLines indent depth children

/-- Children at a depth, each on a line of its own. -/
def childLines (indent : Text) (depth : Nat) : List Child → Text
  | [] => []
  | child :: rest =>
      '\n' :: Text.repeated indent depth ++ childText indent depth child ++
        childLines indent depth rest

/-- A child at a depth; the first line is not indented. -/
def childText (indent : Text) (depth : Nat) : Child → Text
  | .node node => element indent depth node
  | .text text => escapeText text

end

/-- The markup of a tree with the given indentation step. -/
def printWith (indent : Text) (node : Node) : Text := element indent 0 node

/-- The markup of a tree, indented by two spaces. -/
def print (node : Node) : Text := printWith [' ', ' '] node

end Markup

end StyledMarkup
