import StyledMarkup.Tree.Encoded
import StyledMarkup.Proofs.Json.Settled
import StyledMarkup.Proofs.Tree.Flags

namespace StyledMarkup

open List

/-!
# Trees survive JSON

Reading the JSON value of a tree gives the tree back, except that no element
counts as handled any more.  A tree that was read has no handled elements, so
it is given back as it is, whatever form it was read from.
-/

/-! ## Written trees are canonical -/

mutual

/-- The JSON value of an element is canonical. -/
theorem Node.isCanonical_encode :
    ∀ node : Node, node.encode.isCanonical = true
  | .element kind tag props children processed => by
      have fieldsIncrease :
          ∀ kindValue childrenValue propsValue typeValue : Json.Value,
            Json.Value.keysIncrease
              [(kindField, kindValue), (childrenField, childrenValue),
                (propsField, propsValue), (typeField, typeValue)] = true := by
        intro _ _ _ _
        rfl
      have propsCanonical : (Json.Value.record props.fields).isCanonical = true :=
        props.canonical
      rw [Node.encode, Json.Value.isCanonical, fieldsIncrease]
      simp only [Json.Value.fieldsAreCanonical, Child.isCanonical_encodeLists children,
        propsCanonical]
      rfl

/-- The JSON value of an optional list of children is canonical. -/
theorem Child.isCanonical_encodeLists :
    ∀ children : Option (List Child), (Child.encodeLists children).isCanonical = true
  | none => rfl
  | some children => Child.areCanonical_encodeAll children

/-- The JSON values of children are canonical. -/
theorem Child.areCanonical_encodeAll :
    ∀ children : List Child, Json.Value.areCanonical (Child.encodeAll children) = true
  | [] => rfl
  | child :: rest => by
      rw [Child.encodeAll, Json.Value.areCanonical, Child.isCanonical_encode child,
        Child.areCanonical_encodeAll rest, Bool.and_self]

/-- The JSON value of a child is canonical. -/
theorem Child.isCanonical_encode :
    ∀ child : Child, child.encode.isCanonical = true
  | .node element => Node.isCanonical_encode element
  | .text _ => rfl

end

/-! ## Reading what was written -/

/-- A kind is read under the name it is written with, known or not. -/
theorem Kind.decode_name
    (kind : Kind) :
    Kind.decode (.text kind.name) = .ok kind := by
  cases kind <;> rfl

/-- Props are read from the record of their fields. -/
theorem Props.decode_fields
    (props : Props) :
    Props.decode (.record props.fields) = .ok props := by
  rw [Props.decode, Props.ofFields_fields]

mutual

/-- Reading an element that was written gives it back without flags. -/
theorem Node.decode_encode :
    ∀ node : Node, Node.decode node.encode = .ok (node.flagged false)
  | .element kind tag props children processed => by
      have childrenRead := Child.decodeLists_encodeLists children
      have typeIsNotKind : typeField ≠ kindField := by decide
      have propsIsNotKind : propsField ≠ kindField := by decide
      have propsIsNotType : propsField ≠ typeField := by decide
      have childrenIsNotKind : childrenField ≠ kindField := by decide
      have childrenIsNotType : childrenField ≠ typeField := by decide
      have childrenIsNotProps : childrenField ≠ propsField := by decide
      simp [Node.encode, Node.decode, Node.decodeFields, NodeParts.unread, NodeParts.node,
        Kind.decode_name, Props.decode_fields, decodeTag, childrenRead, typeIsNotKind,
        propsIsNotKind, propsIsNotType, childrenIsNotKind, childrenIsNotType,
        childrenIsNotProps, Node.flagged, bind, Except.bind]

/-- Reading an optional list of children that was written gives it back without flags. -/
theorem Child.decodeLists_encodeLists :
    ∀ children : Option (List Child),
      Child.decodeLists (Child.encodeLists children) = .ok (Child.flaggedLists false children)
  | none => by
      rw [Child.encodeLists, Child.decodeLists, Child.flaggedLists]
  | some children => by
      rw [Child.encodeLists, Child.decodeLists, Child.decodeAll_encodeAll children]
      rfl

/-- Reading children that were written gives them back without flags. -/
theorem Child.decodeAll_encodeAll :
    ∀ children : List Child,
      Child.decodeAll (Child.encodeAll children) = .ok (Child.flaggedAll false children)
  | [] => by
      rw [Child.encodeAll, Child.decodeAll, Child.flaggedAll]
  | child :: rest => by
      rw [Child.encodeAll, Child.decodeAll, Child.decode_encode child,
        Child.decodeAll_encodeAll rest]
      rfl

/-- Reading a child that was written gives it back without flags, an element as an element. -/
theorem Child.decode_encode :
    ∀ child : Child, Child.decode child.encode = .ok (child.flagged false)
  | .node element => by
      have isRead := Node.decode_encode element
      obtain ⟨kind, tag, props, children, processed⟩ := element
      have notText : ∀ text, Node.encode (.element kind tag props children processed) ≠ .text text := by
        intro text
        simp [Node.encode]
      rw [Child.encode, Child.decode.eq_2 _ notText, isRead]
      rfl
  | .text _ => by
      rw [Child.encode, Child.decode, Child.flagged]

end

/-! ## What was read has no flags -/

/-- A computation in two steps gives a result only if both steps do. -/
theorem exists_of_bind_eq_ok
    {failure first second : Type}
    {start : Except failure first}
    {next : first → Except failure second}
    {result : second}
    (succeeds : start.bind next = .ok result) :
    ∃ between, start = .ok between ∧ next between = .ok result := by
  cases start with
  | error fault =>
      simp [Except.bind] at succeeds
  | ok between =>
      exact ⟨between, rfl, succeeds⟩

/-- The element from parts has the children that were read. -/
theorem NodeParts.flagged_of_node
    {parts : NodeParts}
    {node : Node}
    (isNode : parts.node = .ok node)
    (unflagged :
      ∀ children ∈ parts.children, Child.flaggedLists false children = children) :
    node.flagged false = node := by
  obtain ⟨kind, tag, props, children⟩ := parts
  cases tag with
  | none =>
      simp [NodeParts.node] at isNode
  | some tag =>
      obtain rfl := Except.ok.inj isNode
      cases children with
      | none =>
          rfl
      | some children =>
          simp [Node.flagged, unflagged children rfl]

/-- One more field is read; only a list of children changes the children. -/
theorem Node.exists_of_decodeFields_cons
    {parts : NodeParts}
    {key : Text}
    {value : Json.Value}
    {rest : List (Text × Json.Value)}
    {node : Node}
    (isRead : Node.decodeFields parts ((key, value) :: rest) = .ok node) :
    ∃ next : NodeParts,
      Node.decodeFields next rest = .ok node ∧
        (next.children = parts.children ∨
          ∃ children, Child.decodeLists value = .ok children ∧ next.children = some children) := by
  rw [Node.decodeFields] at isRead
  split at isRead
  · split at isRead
    · simp at isRead
    · obtain ⟨kind, -, isRead⟩ := exists_of_bind_eq_ok isRead
      exact ⟨_, isRead, Or.inl rfl⟩
  · split at isRead
    · split at isRead
      · simp at isRead
      · obtain ⟨tag, -, isRead⟩ := exists_of_bind_eq_ok isRead
        exact ⟨_, isRead, Or.inl rfl⟩
    · split at isRead
      · split at isRead
        · simp at isRead
        · obtain ⟨props, -, isRead⟩ := exists_of_bind_eq_ok isRead
          exact ⟨_, isRead, Or.inl rfl⟩
      · split at isRead
        · split at isRead
          · simp at isRead
          · obtain ⟨children, childrenRead, isRead⟩ := exists_of_bind_eq_ok isRead
            exact ⟨_, isRead, Or.inr ⟨children, childrenRead, rfl⟩⟩
        · exact ⟨parts, isRead, Or.inl rfl⟩

/-- A child that was read is a text, or the element that was read from the same value. -/
theorem Child.exists_of_decode
    {value : Json.Value}
    {child : Child}
    (isRead : Child.decode value = .ok child) :
    (∃ text, child = .text text) ∨
      ∃ element, Node.decode value = .ok element ∧ child = .node element := by
  rw [Child.decode.eq_def] at isRead
  split at isRead
  · exact Or.inl ⟨_, (Except.ok.inj isRead).symm⟩
  · split at isRead
    · rename_i element elementRead
      exact Or.inr ⟨element, elementRead, (Except.ok.inj isRead).symm⟩
    · simp at isRead

mutual

/-- An element that was read has no flags. -/
theorem Node.flagged_of_decode :
    ∀ (value : Json.Value) (node : Node), Node.decode value = .ok node → node.flagged false = node
  | .record fields, node, isRead => by
      rw [Node.decode] at isRead
      exact Node.flagged_of_decodeFields fields .unread node isRead (by simp [NodeParts.unread])
  | .list [], _, isRead => by
      simp [Node.decode] at isRead
  | .list [kind], node, isRead => by
      rw [Node.decode] at isRead
      obtain ⟨_, -, isRead⟩ := exists_of_bind_eq_ok isRead
      simp at isRead
  | .list [kind, tag], node, isRead => by
      rw [Node.decode] at isRead
      obtain ⟨_, -, isRead⟩ := exists_of_bind_eq_ok isRead
      obtain ⟨_, -, isRead⟩ := exists_of_bind_eq_ok isRead
      exact NodeParts.flagged_of_node isRead (by simp)
  | .list [kind, tag, props], node, isRead => by
      rw [Node.decode] at isRead
      obtain ⟨_, -, isRead⟩ := exists_of_bind_eq_ok isRead
      obtain ⟨_, -, isRead⟩ := exists_of_bind_eq_ok isRead
      obtain ⟨_, -, isRead⟩ := exists_of_bind_eq_ok isRead
      exact NodeParts.flagged_of_node isRead (by simp)
  | .list (kind :: tag :: props :: children :: more), node, isRead => by
      rw [Node.decode] at isRead
      obtain ⟨_, -, isRead⟩ := exists_of_bind_eq_ok isRead
      obtain ⟨_, -, isRead⟩ := exists_of_bind_eq_ok isRead
      obtain ⟨_, -, isRead⟩ := exists_of_bind_eq_ok isRead
      obtain ⟨found, childrenRead, isRead⟩ := exists_of_bind_eq_ok isRead
      split at isRead
      · have unflagged := Child.flaggedLists_of_decodeLists children found childrenRead
        exact NodeParts.flagged_of_node isRead (by simpa using unflagged)
      · simp at isRead
  | .null, _, isRead => by
      simp [Node.decode] at isRead
  | .bool _, _, isRead => by
      simp [Node.decode] at isRead
  | .number _, _, isRead => by
      simp [Node.decode] at isRead
  | .text _, _, isRead => by
      simp [Node.decode] at isRead

/-- An element that was read from further fields has no flags, if its children have none. -/
theorem Node.flagged_of_decodeFields :
    ∀ (fields : List (Text × Json.Value)) (parts : NodeParts) (node : Node),
      Node.decodeFields parts fields = .ok node →
        (∀ children ∈ parts.children, Child.flaggedLists false children = children) →
          node.flagged false = node
  | [], parts, node, isRead, unflagged => by
      rw [Node.decodeFields] at isRead
      exact NodeParts.flagged_of_node isRead unflagged
  | (key, value) :: rest, parts, node, isRead, unflagged => by
      obtain ⟨next, restRead, sameChildren | ⟨found, childrenRead, isNew⟩⟩ :=
        Node.exists_of_decodeFields_cons isRead
      · exact Node.flagged_of_decodeFields rest next node restRead (sameChildren ▸ unflagged)
      · refine Node.flagged_of_decodeFields rest next node restRead ?_
        have unflaggedToo := Child.flaggedLists_of_decodeLists value found childrenRead
        simpa [isNew] using unflaggedToo

/-- Children that were read have no flags, if there is a list. -/
theorem Child.flaggedLists_of_decodeLists :
    ∀ (value : Json.Value) (children : Option (List Child)),
      Child.decodeLists value = .ok children → Child.flaggedLists false children = children
  | .null, children, isRead => by
      rw [Child.decodeLists] at isRead
      obtain rfl := Except.ok.inj isRead
      rfl
  | .list items, children, isRead => by
      rw [Child.decodeLists] at isRead
      obtain ⟨found, itemsRead, isRead⟩ := exists_of_bind_eq_ok isRead
      obtain rfl := Except.ok.inj isRead
      rw [Child.flaggedLists, Child.flaggedAll_of_decodeAll items found itemsRead]
  | .bool _, _, isRead => by
      simp [Child.decodeLists] at isRead
  | .number _, _, isRead => by
      simp [Child.decodeLists] at isRead
  | .text _, _, isRead => by
      simp [Child.decodeLists] at isRead
  | .record _, _, isRead => by
      simp [Child.decodeLists] at isRead

/-- Children that were read have no flags. -/
theorem Child.flaggedAll_of_decodeAll :
    ∀ (items : List Json.Value) (children : List Child),
      Child.decodeAll items = .ok children → Child.flaggedAll false children = children
  | [], children, isRead => by
      rw [Child.decodeAll] at isRead
      obtain rfl := Except.ok.inj isRead
      rfl
  | item :: rest, children, isRead => by
      rw [Child.decodeAll] at isRead
      obtain ⟨child, itemRead, isRead⟩ := exists_of_bind_eq_ok isRead
      obtain ⟨others, restRead, isRead⟩ := exists_of_bind_eq_ok isRead
      obtain rfl := Except.ok.inj isRead
      rw [Child.flaggedAll, Child.flagged_of_decode item child itemRead,
        Child.flaggedAll_of_decodeAll rest others restRead]

/-- A child that was read has no flags. -/
theorem Child.flagged_of_decode :
    ∀ (value : Json.Value) (child : Child),
      Child.decode value = .ok child → child.flagged false = child
  | value, child, isRead => by
      rcases Child.exists_of_decode isRead with ⟨text, rfl⟩ | ⟨element, elementRead, rfl⟩
      · rfl
      · rw [Child.flagged, Node.flagged_of_decode value element elementRead]

end

/--
Writing a tree as a JSON value and reading it again clears all flags and
changes nothing else.  A tree that was read from any value comes back as it is.
-/
theorem Node.ofValue_encode
    (node : Node) :
    ofValue node.encode = .ok (node.flagged false) ∧
      ∀ value, ofValue value = .ok node → ofValue node.encode = .ok node := by
  have comesBack : ofValue node.encode = .ok (node.flagged false) := by
    rw [ofValue, Json.Value.canonical_of_isCanonical _ node.isCanonical_encode, decode_encode]
  refine ⟨comesBack, ?_⟩
  intro value isRead
  have unflagged : node.flagged false = node := by
    rw [ofValue] at isRead
    split at isRead
    · rename_i found isFound
      obtain rfl := Except.ok.inj isRead
      exact flagged_of_decode _ found isFound
    · simp at isRead
  rw [comesBack, unflagged]

/-- A list of parts with a foreign kind and children in all forms, one with an unknown field. -/
def Json.Value.listedParts : Json.Value :=
  .list [.text (Text.of "foreign"), .text (Text.of "ul"),
    .record [(Text.of "class", .list [.null]), (Text.of "start", .number (.integer 2))],
    .list [.text (Text.of "text"),
      .record [(childrenField, .list []), (Text.of "processed", .bool true),
        (typeField, .text (Text.of "li"))],
      .list [.text (Text.of "react.test.json"), .text (Text.of "br")]]]

/-- The tree that is read from listed parts. -/
def Node.ofListedParts : Node :=
  .element .unknown (Text.of "ul")
    (.ofFields [(Text.of "class", .list [.null]), (Text.of "start", .number (.integer 2))])
    (some [.text (Text.of "text"),
      .node (.element .testJson (Text.of "li") .empty (some []) false),
      .node (.element .testJson (Text.of "br") .empty none false)])
    false

/-- The tree that is read from listed parts comes back from its own JSON value. -/
theorem Node.ofValue_encode_of_listedParts :
    ofValue Json.Value.listedParts = .ok ofListedParts ∧
      ofValue ofListedParts.encode = .ok ofListedParts := by
  have isRead : ofValue Json.Value.listedParts = .ok ofListedParts := by
    have item :
        Node.decode (.record [(childrenField, .list []), (Text.of "processed", .bool true),
          (typeField, .text (Text.of "li"))]) =
            .ok (.element .testJson (Text.of "li") .empty (some []) false) := by
      have childrenIsNoOther :
          childrenField ≠ kindField ∧ childrenField ≠ typeField ∧ childrenField ≠ propsField := by
        decide
      have processedIsUnknown :
          Text.of "processed" ≠ kindField ∧ Text.of "processed" ≠ typeField ∧
            Text.of "processed" ≠ propsField ∧ Text.of "processed" ≠ childrenField := by
        decide
      have typeIsNotKind : typeField ≠ kindField := by
        decide
      rw [Node.decode]
      simp only [Node.decodeFields, childrenIsNoOther, processedIsUnknown, typeIsNotKind,
        ↓reduceIte, Child.decodeLists, Child.decodeAll]
      rfl
    have canonicalForm : Json.Value.listedParts.canonical = Json.Value.listedParts :=
      Json.Value.canonical_of_isCanonical _ rfl
    rw [ofValue, canonicalForm, Json.Value.listedParts]
    simp only [Node.decode, Child.decodeLists, Child.decodeAll, Child.decode, item]
    rfl
  exact ⟨isRead, (ofValue_encode ofListedParts).2 Json.Value.listedParts isRead⟩

end StyledMarkup
