import StyledMarkup.Tree.Encoded
import StyledMarkup.Json.Reader

namespace StyledMarkup

/-!
# Reading trees from JSON text

The root of a tree is read field by field, so that the first fault in the text
is the one that is reported.  Children are read as values first.
-/

open Json

/-- Reads a kind: a name, or a record of the name and `null`. -/
def Kind.reader : Reader Kind := do
  match ← Reader.peekToken with
  | none => Reader.failAtNext .endInValue
  | some '"' => do pure (Kind.ofName (← Reader.text))
  | some '\x7b' => do
      Reader.advance
      let name ← Reader.expectText .variantName
      Reader.colon
      Reader.expectNull
      match ← Reader.peekToken with
      | some '\x7d' => do Reader.advance; pure (Kind.ofName name)
      | some _ => Reader.failHere .expectedValue
      | none => Reader.failHere .endInRecord
  | some _ => Reader.failAtNext .expectedValue

/-- Reads props that may open `depth` records and lists. -/
def Props.reader (depth : Nat) : Reader Props := do
  match ← Reader.peekToken with
  | none => Reader.failAtNext .endInValue
  | some '\x7b' =>
      match depth with
      | 0 => Reader.failAtNext .tooDeep
      | depth + 1 =>
          let field := fun (fields : List (Text × Value)) key => do
            Reader.colon
            let value ← Reader.value depth
            pure ((key, value) :: fields)
          Reader.recordFold field [] fun fields => pure (Props.ofFields fields.reverse)
  | some _ => Reader.wrongKind .record

/-- Reads a child that may open `depth` records and lists. -/
def Child.reader (depth : Nat) : Reader Child := do
  let value ← Reader.value depth
  match Child.decode value with
  | .ok child => pure child
  | .error fault => Reader.failAround fault

/-- Reads an optional list of children that may open `depth` records and lists. -/
def Child.listReader (depth : Nat) : Reader (Option (List Child)) := do
  match ← Reader.peekToken with
  | some 'n' => do Reader.word ['n', 'u', 'l', 'l']; pure none
  | _ => do
      let children ← Reader.expectList depth Child.reader
      pure (some children)

/-- Reads one field of an element. -/
def NodeParts.readField (depth : Nat) (parts : NodeParts) (key : Text) : Reader NodeParts := do
  if key = kindField then
    if parts.kind.isSome then Reader.failAround (.repeatedField key)
    Reader.colon
    let kind ← Kind.reader
    pure { parts with kind := some kind }
  else if key = typeField then
    if parts.tag.isSome then Reader.failAround (.repeatedField key)
    Reader.colon
    let tag ← Reader.expectText .text
    pure { parts with tag := some tag }
  else if key = propsField then
    if parts.props.isSome then Reader.failAround (.repeatedField key)
    Reader.colon
    let props ← Props.reader depth
    pure { parts with props := some props }
  else if key = childrenField then
    if parts.children.isSome then Reader.failAround (.repeatedField key)
    Reader.colon
    let children ← Child.listReader depth
    pure { parts with children := some children }
  else
    Reader.colon
    Reader.skipValue
    pure parts

/-- Reads the parts of an element from the items of a list. -/
def NodeParts.readItems (depth : Nat) : Reader NodeParts := do
  if ← Reader.nextItem Reader.itemAfterComma true then
    let kind ← Kind.reader
    if ← Reader.nextItem Reader.itemAfterComma false then
      let tag ← Reader.expectText .text
      if ← Reader.nextItem Reader.itemAfterComma false then
        let props ← Props.reader depth
        if ← Reader.nextItem Reader.itemAfterComma false then
          let children ← Child.listReader depth
          pure ⟨some kind, some tag, some props, some children⟩
        else pure ⟨some kind, some tag, some props, none⟩
      else pure ⟨some kind, some tag, none, none⟩
    else Reader.failAround (.tooFewItems 1)
  else Reader.failAround (.tooFewItems 1)

/-- The element from its parts; a missing part is a fault of the whole element. -/
def NodeParts.reader (parts : NodeParts) : Reader Node :=
  match parts.node with
  | .ok node => pure node
  | .error fault => Reader.failAround fault

/-- Reads an element whose parts may open `depth` records and lists. -/
def Node.reader (depth : Nat) : Reader Node := do
  match ← Reader.peekToken with
  | none => Reader.failAtNext .endInValue
  | some '[' => do
      Reader.advance
      let items := do
        let parts ← NodeParts.readItems depth
        parts.reader
      Reader.enclosed items Reader.listEnd Reader.afterListEnd
  | some '\x7b' => Reader.recordFold (NodeParts.readField depth) .unread NodeParts.reader
  | some _ => Reader.wrongKind .node

/-- The tree written in a JSON text. -/
def Node.read (source : Text) : Except Failure Node :=
  (Node.reader (Reader.depthLimit - 1)).run source

end StyledMarkup
