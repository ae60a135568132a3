import StyledMarkup.Alias.Table

namespace StyledMarkup

/-!
# Renaming class names

Class names that still occur in the style are replaced by their aliases,
everywhere in a text and one name after the other.
-/

/-- The text with every used class name replaced by its alias. -/
def rename (names : List Text) (style : Text) (table : AliasTable) (text : Text) : Text :=
  (names.filter fun name => Text.occursIn name style).foldl
    (fun text name =>
      match table.aliasFor? name with
      | some alternative => Text.replaceAll name alternative text
      | none => text)
    text

end StyledMarkup
