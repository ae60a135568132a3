import StyledMarkup.Tree.Basic
import StyledMarkup.Json.Fault

namespace StyledMarkup

/-!
# Trees as JSON values

An element is written as a record of its kind, type name, props and children.
It is read from such a record, in which all but the type name may be missing
and other fields do not matter, or from a list of the four in order.  A child
is read as an element if it can be and else as a text.
-/

/-- Name of the field for the kind. -/
def kindField : Text := Text.of "$$typeof"

/-- Name of the field for the type name. -/
def typeField : Text := Text.of "type"

/-- Name of the field for the props. -/
def propsField : Text := Text.of "props"

/-- Name of the field for the children. -/
def childrenField : Text := Text.of "children"

/-- The name under which a kind is written. -/
def Kind.name : Kind → Text
  | .testJson => Text.of "react.test.json"
  | .unknown => Text.of "Unknown"

/-- The kind with a name; every foreign name stands for an unknown kind. -/
def Kind.ofName (name : Text) : Kind :=
  if name = Text.of "react.test.json" then .testJson else .unknown

mutual

/-- An element as a JSON value; whether it has been handled is not written. -/
def Node.encode : Node → Json.Value
  | .element kind tag props children _ =>
      .record [(kindField, .text kind.name), (childrenField, Child.encodeLists children),
        (propsField, .record props.fields), (typeField, .text tag)]

/-- An optional list of children as a JSON value. -/
def Child.encodeLists : Option (List Child) → Json.Value
  | none => .null
  | some children => .list (Child.encodeAll children)

/-- Children as JSON values. -/
def Child.encodeAll : List Child → List Json.Value
  | [] => []
  | child :: rest => Child.encode child :: Child.encodeAll rest

/-- A child as a JSON value. -/
def Child.encode : Child → Json.Value
  | .node element => Node.encode element
  | .text text => .text text

end

/-- The kind written as a name, or as a record of the name and `null`. -/
def Kind.decode : Json.Value → Except Json.Fault Kind
  | .text name => .ok (.ofName name)
  | .record [(name, .null)] => .ok (.ofName name)
  | .record [(_, value)] => .error (.wrongKind (.of value) .null)
  | .record _ => .error .notOneKey
  | value => .error (.wrongKind (.of value) .textOrRecord)

/-- The type name of an element. -/
def decodeTag : Json.Value → Except Json.Fault Text
  | .text tag => .ok tag
  | value => .error (.wrongKind (.of value) .text)

/-- The props of an element. -/
def Props.decode : Json.Value → Except Json.Fault Props
  | .record fields => .ok (.ofFields fields)
  | value => .error (.wrongKind (.of value) .record)

/-- The parts of an element that have been read. -/
structure NodeParts where
  kind : Option Kind
  tag : Option Text
  props : Option Props
  children : Option (Option (List Child))

/-- Nothing has been read. -/
def NodeParts.unread : NodeParts := ⟨none, none, none, none⟩

/-- The element from its parts; only the type name must be there. -/
def NodeParts.node (parts : NodeParts) : Except Json.Fault Node :=
  match parts.tag with
  | none => .error (.missingField typeField)
  | some tag =>
      .ok (.element (parts.kind.getD .testJson) tag (parts.props.getD .empty)
        (parts.children.getD none) false)

mutual

/-- Reads an element from a record or from a list of its parts. -/
def Node.decode : Json.Value → Except Json.Fault Node
  | .record fields => Node.decodeFields .unread fields
  | .list [] => .error (.tooFewItems 1)
  | .list [kind] => do
      let _ ← Kind.decode kind
      .error (.tooFewItems 1)
  | .list [kind, tag] => do
      let kind ← Kind.decode kind
      let tag ← decodeTag tag
      NodeParts.node ⟨some kind, some tag, none, none⟩
  | .list [kind, tag, props] => do
      let kind ← Kind.decode kind
      let tag ← decodeTag tag
      let props ← Props.decode props
      NodeParts.node ⟨some kind, some tag, some props, none⟩
  | .list (kind :: tag :: props :: children :: more) => do
      let kind ← Kind.decode kind
      let tag ← decodeTag tag
      let props ← Props.decode props
      let children ← Child.decodeLists children
      if more.isEmpty then NodeParts.node ⟨some kind, some tag, some props, some children⟩
      else .error (.tooManyItems (more.length + 4))
  | value => .error (.wrongKind (.of value) .node)

/-- Reads the remaining fields of an element; a field must not be repeated. -/
def Node.decodeFields (parts : NodeParts) :
    List (Text × Json.Value) → Except Json.Fault Node
  | [] => parts.node
  | (key, value) :: rest =>
      if key = kindField then
        if parts.kind.isSome then .error (.repeatedField key)
        else do
          let kind ← Kind.decode value
          Node.decodeFields { parts with kind := some kind } rest
      else if key = typeField then
        if parts.tag.isSome then .error (.repeatedField key)
        else do
          let tag ← decodeTag value
          Node.decodeFields { parts with tag := some tag } rest
      else if key = propsField then
        if parts.props.isSome then .error (.repeatedField key)
        else do
          let props ← Props.decode value
          Node.decodeFields { parts with props := some props } rest
      else if key = childrenField then
        if parts.children.isSome then .error (.repeatedField key)
        else do
          let children ← Child.decodeLists value
          Node.decodeFields { parts with children := some children } rest
      else Node.decodeFields parts rest

/-- Reads an optional list of children. -/
def Child.decodeLists : Json.Value → Except Json.Fault (Option (List Child))
  | .null => .ok none
  | .list items => do
      let children ← Child.decodeAll items
      .ok (some children)
  | value => .error (.wrongKind (.of value) .list)

/-- Reads children in order. -/
def Child.decodeAll : List Json.Value → Except Json.Fault (List Child)
  | [] => .ok []
  | item :: rest => do
      let child ← Child.decode item
      let rest ← Child.decodeAll rest
      .ok (child :: rest)

/-- Reads a child; what is neither an element nor a text is refused with one fault for all. -/
def Child.decode : Json.Value → Except Json.Fault Child
  | .text text => .ok (.text text)
  | value =>
      match Node.decode value with
      | .ok element => .ok (.node element)
      | .error _ => .error .notAChild

end

/-- Reads an element from a JSON value, whose fields have no order of their own. -/
def Node.ofValue (value : Json.Value) : Except Json.Failure Node :=
  match Node.decode value.canonical with
  | .ok node => .ok node
  | .error fault => .error (.unplaced fault)

end StyledMarkup
