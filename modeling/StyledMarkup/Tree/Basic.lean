import StyledMarkup.Json.Value
import StyledMarkup.Json.Canonical

namespace StyledMarkup

/-!
# Rendered trees

A rendered tree consists of elements with a kind, a type name, props and
children; a child is another element or a text.  Each element also remembers
whether the serializer has handled it.
-/

/-- Whether the value was rendered for a test or comes from somewhere else. -/
inductive Kind where
  | testJson
  | unknown
deriving DecidableEq, Repr

/-- Props are the fields of a record in canonical form. -/
structure Props where
  fields : List (Text × Json.Value)
  canonical : (Json.Value.record fields).isCanonical = true

namespace Props

/-- No props. -/
def empty : Props := ⟨[], rfl⟩

/-- Props from fields in the order written; the last value of a key counts. -/
def ofFields (fields : List (Text × Json.Value)) : Props :=
  ⟨Json.Value.orderFields [] (Json.Value.canonicalFields fields),
    Json.Value.isCanonical_canonical (.record fields)⟩

/-- Sets one prop. -/
def set (key : Text) (value : Json.Value) (props : Props) : Props :=
  ofFields (props.fields ++ [(key, value)])

/-- Value of a prop, if it is a text. -/
def text? (key : Text) (props : Props) : Option Text :=
  (Json.lookup? key props.fields).bind Json.Value.text?

end Props

mutual

/-- An element of a rendered tree. -/
inductive Node where
  | element (kind : Kind) (tag : Text) (props : Props) (children : Option (List Child))
      (processed : Bool)

/-- A child of an element. -/
inductive Child where
  | node (node : Node)
  | text (text : Text)

end

namespace Node

/-- The kind of an element. -/
def kind : Node → Kind
  | .element kind _ _ _ _ => kind

/-- The type name of an element. -/
def tag : Node → Text
  | .element _ tag _ _ _ => tag

/-- The props of an element. -/
def props : Node → Props
  | .element _ _ props _ _ => props

/-- The list of children, if the element has one. -/
def childList? : Node → Option (List Child)
  | .element _ _ _ children _ => children

/-- The children of an element; a missing list counts as an empty one. -/
def children (node : Node) : List Child := node.childList?.getD []

/-- The serializer has handled the element. -/
def processed : Node → Bool
  | .element _ _ _ _ processed => processed

/-- Value of a prop, if it is a text. -/
def prop? (key : Text) (node : Node) : Option Text := node.props.text? key

/-- A new element without props and without a list of children. -/
def new (tag : Text) : Node := .element .testJson tag .empty none false

/-- The element with another kind. -/
def withKind (kind : Kind) : Node → Node
  | .element _ tag props children processed => .element kind tag props children processed

/-- The element with a prop set to any value. -/
def withProp (key : Text) (value : Json.Value) : Node → Node
  | .element kind tag props children processed =>
      .element kind tag (props.set key value) children processed

/-- The element with a class name. -/
def withClassName (value : Text) (node : Node) : Node :=
  node.withProp (Text.of "className") (.text value)

/-- The element with more children at the end. -/
def withChildren (added : List Child) : Node → Node
  | .element kind tag props children processed =>
      .element kind tag props (some (children.getD [] ++ added)) processed

/-- The element was rendered for a test. -/
def isSerializable (node : Node) : Bool := node.kind == .testJson

end Node

/-- The elements among children. -/
def Child.nodes : List Child → List Node
  | [] => []
  | .node element :: rest => element :: nodes rest
  | .text _ :: rest => nodes rest

mutual

/-- Equality of trees, including what the serializer has handled. -/
def Node.same : Node → Node → Bool
  | .element kind tag props children processed,
    .element otherKind otherTag otherProps otherChildren otherProcessed =>
      kind == otherKind && tag == otherTag &&
        Json.Value.sameFields props.fields otherProps.fields &&
        Child.sameLists children otherChildren && processed == otherProcessed

/-- Equality of optional lists of children. -/
def Child.sameLists : Option (List Child) → Option (List Child) → Bool
  | none, none => true
  | some children, some others => Child.sameAll children others
  | _, _ => false

/-- Equality of children in order. -/
def Child.sameAll : List Child → List Child → Bool
  | [], [] => true
  | child :: rest, other :: others => Child.same child other && Child.sameAll rest others
  | _, _ => false

/-- Equality of children. -/
def Child.same : Child → Child → Bool
  | .node element, .node other => Node.same element other
  | .text text, .text other => text == other
  | _, _ => false

end

end StyledMarkup
