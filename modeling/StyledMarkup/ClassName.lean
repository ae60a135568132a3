import StyledMarkup.Tree.Basic
import StyledMarkup.Text.Blank

namespace StyledMarkup

/-!
# Class names

Class names are the words in the class attributes of elements.
-/

namespace ClassName

/-- The value that carries the class names: the first attribute with a text that is not empty. -/
def selected? (attributes : List Text) (node : Node) : Option Text :=
  (attributes.filterMap (node.prop? ·)).find? fun value => ! value.isEmpty

/-- The class names of one element. -/
def words (attributes : List Text) (node : Node) : List Text :=
  match selected? attributes node with
  | some value => Text.words value
  | none => []

/-- Adds the names that are not there yet, in order. -/
def addNew (names : List Text) : List Text → List Text
  | [] => names
  | name :: rest => if names.contains name then addNew names rest else addNew (names ++ [name]) rest

/-- The distinct class names of elements, in the order in which they first appear. -/
def collect (attributes : List Text) (nodes : List Node) : List Text :=
  addNew [] (nodes.flatMap (words attributes))

/-- The names that are registered, in the same order. -/
def registered (hashes names : List Text) : List Text :=
  names.filter fun name => hashes.contains name

end ClassName

end StyledMarkup
