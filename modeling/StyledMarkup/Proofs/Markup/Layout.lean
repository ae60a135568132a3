import StyledMarkup.Markup
import StyledMarkup.Proofs.Json.Settled
import StyledMarkup.Proofs.Text.Encoding
import StyledMarkup.Proofs.Tree.Preorder

namespace StyledMarkup.Markup

open List

/-!
# Markup as fragments at depths

The markup of a tree is a list of fragments, each on a line of its own behind
its indentation.  The fragments and their depths come from the tree alone; the
indentation step only says how far a depth is from the margin.  The fragments
of an element stand together in those of the whole tree, deeper by its depth.
-/

/-- A part of the markup that is indented as one, and how deep. -/
structure Fragment where
  depth : Nat
  text : Text
deriving DecidableEq, Repr

namespace Fragment

/-- The fragment some levels deeper. -/
def deeper (levels : Nat) (fragment : Fragment) : Fragment :=
  ⟨levels + fragment.depth, fragment.text⟩

/-- The fragment behind its indentation. -/
def shown (indent : Text) (fragment : Fragment) : Text :=
  Text.repeated indent fragment.depth ++ fragment.text

theorem map_deeper_deeper
    (outer inner : Nat)
    (fragments : List Fragment) :
    (fragments.map (deeper inner)).map (deeper outer) = fragments.map (deeper (outer + inner)) := by
  simp [deeper, Function.comp_def, Nat.add_assoc]

theorem map_deeper_zero
    (fragments : List Fragment) :
    fragments.map (deeper 0) = fragments := by
  have unmoved : deeper 0 = id := by
    funext fragment
    simp [deeper]
  rw [unmoved, List.map_id]

end Fragment

/-- The fragments with their indentations, joined by line ends. -/
def layout (indent : Text) (fragments : List Fragment) : Text :=
  Text.join ['\n'] (fragments.map (Fragment.shown indent))

/-! ## The fragments of a tree -/

/-- The start of an element; without props it has the bracket too. -/
def openingFragment (tag : Text) (hasProps hasChildren : Bool) : Fragment :=
  ⟨0, '<' :: tag ++
    if hasProps then [] else if hasChildren then ['>'] else Text.of " />"⟩

def propFragment (field : Text × Json.Value) : Fragment :=
  ⟨1, field.1 ++ '=' :: propValue field.2⟩

/-- The bracket behind props, if there are any. -/
def bracketFragments (hasProps hasChildren : Bool) : List Fragment :=
  if hasProps then [⟨0, if hasChildren then ['>'] else Text.of "/>"⟩] else []

/-- The end tag behind children, if there are any. -/
def endFragments (tag : Text) (hasChildren : Bool) : List Fragment :=
  if hasChildren then [⟨0, Text.of "</" ++ tag ++ ['>']⟩] else []

mutual

/-- The fragments of an element: its start, its props, its children and its end. -/
def elementFragments : Node → List Fragment
  | .element _ tag props children _ =>
      let hasProps := ! props.fields.isEmpty
      let hasChildren := ! (children.getD []).isEmpty
      openingFragment tag hasProps hasChildren ::
        (props.fields.map propFragment ++ bracketFragments hasProps hasChildren ++
          (optionalFragments children).map (Fragment.deeper 1) ++ endFragments tag hasChildren)

def optionalFragments : Option (List Child) → List Fragment
  | none => []
  | some children => childrenFragments children

def childrenFragments : List Child → List Fragment
  | [] => []
  | child :: rest => childFragments child ++ childrenFragments rest

/-- The fragments of a child; a text is one fragment, with all its lines. -/
def childFragments : Child → List Fragment
  | .node node => elementFragments node
  | .text text => [⟨0, escapeText text⟩]

end

theorem childrenFragments_eq_flatMap
    (children : List Child) :
    childrenFragments children = children.flatMap childFragments := by
  induction children with
  | nil =>
      rfl
  | cons child rest inductionHypothesis =>
      rw [childrenFragments, inductionHypothesis, List.flatMap_cons]

/-- The fragments of an element come from its type, its props and its children in order. -/
theorem elementFragments_eq
    (node : Node) :
    elementFragments node =
      openingFragment node.tag (! node.props.fields.isEmpty) (! node.children.isEmpty) ::
        (node.props.fields.map propFragment ++
          bracketFragments (! node.props.fields.isEmpty) (! node.children.isEmpty) ++
            (node.children.flatMap childFragments).map (Fragment.deeper 1) ++
              endFragments node.tag (! node.children.isEmpty)) := by
  obtain ⟨kind, tag, props, children, processed⟩ := node
  rw [← childrenFragments_eq_flatMap]
  cases children with
  | none =>
      rfl
  | some children =>
      rfl

/-! ## Fragments are printed line by line -/

/-- Every fragment behind a line end and its indentation. -/
def rows (indent : Text) (fragments : List Fragment) : Text :=
  fragments.flatMap fun fragment => '\n' :: fragment.shown indent

section Rows

variable (indent : Text)

@[simp] theorem rows_nil : rows indent [] = [] := rfl

@[simp] theorem rows_cons
    (fragment : Fragment)
    (rest : List Fragment) :
    rows indent (fragment :: rest) = '\n' :: fragment.shown indent ++ rows indent rest := by
  rw [rows, List.flatMap_cons, rows]

@[simp] theorem rows_append
    (left right : List Fragment) :
    rows indent (left ++ right) = rows indent left ++ rows indent right := by
  rw [rows, List.flatMap_append, rows, rows]

/-- The layout of fragments has no line end in front of the first one. -/
theorem cons_layout
    (fragment : Fragment)
    (rest : List Fragment) :
    '\n' :: layout indent (fragment :: rest) = rows indent (fragment :: rest) := by
  induction rest generalizing fragment with
  | nil =>
      simp [layout, Text.join]
  | cons next others inductionHypothesis =>
      rw [rows_cons, ← inductionHypothesis next]
      simp [layout, Text.join]

theorem rows_propFragments
    (depth : Nat)
    (fields : List (Text × Json.Value)) :
    rows indent ((fields.map propFragment).map (Fragment.deeper depth)) =
      propLines (Text.repeated indent (depth + 1)) fields := by
  induction fields with
  | nil =>
      rfl
  | cons field rest inductionHypothesis =>
      rw [List.map_cons, List.map_cons, rows_cons, inductionHypothesis, propLines]
      simp [Fragment.shown, Fragment.deeper, propFragment]

theorem isEmpty_optionalChildren
    (depth : Nat)
    (children : Option (List Child)) :
    (optionalChildren indent depth children).isEmpty = (children.getD []).isEmpty := by
  obtain _ | _ | ⟨child, rest⟩ := children
  · rfl
  · rfl
  · simp [optionalChildren, childLines]

mutual

/-- An element is printed line by line, behind the indentation of its depth. -/
theorem rows_elementFragments :
    ∀ (node : Node) (depth : Nat),
      rows indent ((elementFragments node).map (Fragment.deeper depth)) =
        '\n' :: Text.repeated indent depth ++ element indent depth node
  | .element kind tag props children processed, depth => by
      have inside := rows_optionalFragments children (depth + 1)
      have lines := rows_propFragments indent depth props.fields
      have isLeaf := isEmpty_optionalChildren indent (depth + 1) children
      rw [elementFragments, element, isLeaf, List.map_cons, List.map_append, List.map_append,
        List.map_append, Fragment.map_deeper_deeper, rows_cons, rows_append, rows_append, rows_append,
        lines, inside]
      have noLines (noProps : props.fields.isEmpty = true) :
          propLines (Text.repeated indent (depth + 1)) props.fields = [] := by
        rw [List.isEmpty_iff.mp noProps, propLines]
      cases hasChildren : (children.getD []).isEmpty with
      | true =>
          -- Without children nothing is printed inside, and the element closes itself.
          rw [hasChildren, List.isEmpty_iff] at isLeaf
          cases hasProps : props.fields.isEmpty <;>
            simp [isLeaf, hasProps, noLines, openingFragment, bracketFragments, endFragments,
              Fragment.shown, Fragment.deeper]
      | false =>
          cases hasProps : props.fields.isEmpty <;>
            simp [hasProps, noLines, openingFragment, bracketFragments, endFragments,
              Fragment.shown, Fragment.deeper]

theorem rows_optionalFragments :
    ∀ (children : Option (List Child)) (depth : Nat),
      rows indent ((optionalFragments children).map (Fragment.deeper depth)) =
        optionalChildren indent depth children
  | none, _ => rfl
  | some children, depth => rows_childrenFragments children depth

theorem rows_childrenFragments :
    ∀ (children : List Child) (depth : Nat),
      rows indent ((childrenFragments children).map (Fragment.deeper depth)) =
        childLines indent depth children
  | [], _ => rfl
  | child :: rest, depth => by
      rw [childrenFragments, List.map_append, rows_append, rows_childFragments child depth,
        rows_childrenFragments rest depth, childLines]

theorem rows_childFragments :
    ∀ (child : Child) (depth : Nat),
      rows indent ((childFragments child).map (Fragment.deeper depth)) =
        '\n' :: Text.repeated indent depth ++ childText indent depth child
  | .node node, depth => rows_elementFragments node depth
  | .text text, depth => by
      simp [childFragments, childText, Fragment.shown, Fragment.deeper]

end

theorem printWith_of_fragments
    (node : Node) :
    printWith indent node = layout indent (elementFragments node) := by
  have printed := rows_elementFragments indent node 0
  rw [Fragment.map_deeper_zero, elementFragments_eq, ← cons_layout] at printed
  rw [elementFragments_eq, printWith]
  simpa [Text.repeated] using printed.symm

end Rows

/-! ## Elements below -/

/-- The fragments of a child stand together among those of its parent, one level deeper. -/
theorem deeper_infix_of_child
    {node : Node}
    {child : Child}
    (isChild : child ∈ node.children) :
    (childFragments child).map (Fragment.deeper 1) <:+: elementFragments node := by
  obtain ⟨before, after, areChildren⟩ := List.append_of_mem isChild
  have inside :
      (childFragments child).map (Fragment.deeper 1) <:+:
        (node.children.flatMap childFragments).map (Fragment.deeper 1) := by
    rw [areChildren, List.flatMap_append, List.flatMap_cons]
    exact (List.infix_append' _ _ _).map _
  rw [elementFragments_eq]
  refine inside.trans ?_
  refine (List.infix_append _ _ _).trans (List.infix_cons (List.infix_refl _))

/-- The fragments of an element stand together in those of a tree, deeper by its depth. -/
theorem deeper_infix_of_at?
    {path : List Nat}
    {node element : Node}
    (isThere : node.at? path = some element) :
    (elementFragments element).map (Fragment.deeper path.length) <:+: elementFragments node := by
  induction path generalizing node with
  | nil =>
      obtain rfl := Option.some.inj isThere
      simp only [List.length_nil, Fragment.map_deeper_zero, List.infix_refl]
  | cons index path inductionHypothesis =>
      rw [Node.at?_cons, Option.bind_eq_some_iff] at isThere
      obtain ⟨child, isChild, isBelow⟩ := isThere
      cases child with
      | text text =>
          simp at isBelow
      | node child =>
          have inChild := (inductionHypothesis isBelow).map (Fragment.deeper 1)
          rw [Fragment.map_deeper_deeper, Nat.add_comm] at inChild
          exact inChild.trans (deeper_infix_of_child (List.mem_of_getElem? isChild))

/-- The keys of props increase in the order of their bytes. -/
theorem pairwise_bytes_lt
    (props : Props) :
    props.fields.Pairwise fun field later => Text.bytes field.1 < Text.bytes later.1 := by
  have isCanonical := props.canonical
  rw [Json.Value.isCanonical, Bool.and_eq_true, Json.Value.keysIncrease_iff_pairwise]
    at isCanonical
  exact isCanonical.1.imp Text.bytes_lt_of_lessThan

/--
With every indentation step, the markup of a tree is the layout of its
fragments, which come from the tree alone: the start of the element, its props
in the order of the bytes of their keys one level deeper, a bracket behind
them, the fragments of the children in order one level deeper, and an end tag
if there are children.  What an element below prints on its own stands in the
whole, deeper by the depth of the element.
-/
theorem printWith_eq_layout
    (node : Node) :
    (∀ indent, printWith indent node = layout indent (elementFragments node)) ∧
      elementFragments node =
        openingFragment node.tag (! node.props.fields.isEmpty) (! node.children.isEmpty) ::
          (node.props.fields.map propFragment ++
            bracketFragments (! node.props.fields.isEmpty) (! node.children.isEmpty) ++
              (node.children.flatMap childFragments).map (Fragment.deeper 1) ++
                endFragments node.tag (! node.children.isEmpty)) ∧
        (node.props.fields.Pairwise fun field later =>
          Text.bytes field.1 < Text.bytes later.1) ∧
          ∀ path element,
            node.at? path = some element →
              (elementFragments element).map (Fragment.deeper path.length) <:+:
                elementFragments node :=
  ⟨fun indent => printWith_of_fragments indent node, elementFragments_eq node,
    pairwise_bytes_lt node.props, fun _ _ isThere => deeper_infix_of_at? isThere⟩

/-- An element with props and with children: a text of two lines and an element with a prop. -/
def framed : Node :=
  (((Node.new (Text.of "div")).withProp (Text.of "id") (.text (Text.of "x"))).withClassName
    (Text.of "a")).withChildren
      [.text (Text.of "one\ntwo"),
        .node ((Node.new (Text.of "img")).withProp (Text.of "alt") (.bool true))]

/-- The fragments of an element and of the element inside it. -/
theorem printWith_eq_layout_of_framed :
    let image := (Node.new (Text.of "img")).withProp (Text.of "alt") (.bool true)
    framed.at? [1] = some image ∧
      elementFragments framed =
        [⟨0, Text.of "<div"⟩, ⟨1, Text.of "className=\"a\""⟩, ⟨1, Text.of "id=\"x\""⟩,
          ⟨0, Text.of ">"⟩, ⟨1, Text.of "one\ntwo"⟩, ⟨1, Text.of "<img"⟩,
          ⟨2, Text.of "alt=\x7btrue\x7d"⟩, ⟨1, Text.of "/>"⟩, ⟨0, Text.of "</div>"⟩] ∧
        (∀ indent, printWith indent framed = layout indent (elementFragments framed)) ∧
          (elementFragments image).map (Fragment.deeper 1) <:+: elementFragments framed := by
  intro image
  have isThere : framed.at? [1] = some image := rfl
  obtain ⟨printed, -, -, inside⟩ := printWith_eq_layout framed
  exact ⟨isThere, by decide +kernel, printed, inside [1] image isThere⟩

end StyledMarkup.Markup
