import StyledMarkup.Tree.Walk

namespace StyledMarkup

/-!
# What the serializer remembers about elements

Marking a tree sets the flag of every element and changes nothing else: the
marked tree is the tree with the same flag everywhere, and walking through it
meets the same elements in the same order.
-/

mutual

/-- The element with the same flag on itself and on all elements below it. -/
def Node.flagged (flag : Bool) : Node → Node
  | .element kind tag props children _ =>
      .element kind tag props (Child.flaggedLists flag children) flag

/-- An optional list of children with the same flag on all elements. -/
def Child.flaggedLists (flag : Bool) : Option (List Child) → Option (List Child)
  | none => none
  | some children => some (Child.flaggedAll flag children)

/-- A list of children with the same flag on all elements. -/
def Child.flaggedAll (flag : Bool) : List Child → List Child
  | [] => []
  | child :: rest => Child.flagged flag child :: Child.flaggedAll flag rest

/-- A child with the same flag on all elements; a text stays as it is. -/
def Child.flagged (flag : Bool) : Child → Child
  | .node element => .node (Node.flagged flag element)
  | .text text => .text text

end

mutual

/-- A walk through the whole tree sets the flag of every element. -/
theorem Node.markVisited_fst
    (trail : List Node) :
    ∀ node : Node, (node.markVisited (fun _ => true) trail).1 = node.flagged true
  | .element kind tag props children processed => by
      simp only [Node.markVisited, Node.flagged, ↓reduceIte]
      rw [Child.markVisitedLists_fst]

/-- A walk through an optional list of children sets the flag of every element. -/
theorem Child.markVisitedLists_fst
    (trail : List Node) :
    ∀ children : Option (List Child),
      (Child.markVisitedLists (fun _ => true) trail children).1 = Child.flaggedLists true children
  | none => rfl
  | some children => by
      simp only [Child.markVisitedLists, Child.flaggedLists]
      rw [Child.markVisitedAll_fst]

/-- A walk through a list of children sets the flag of every element. -/
theorem Child.markVisitedAll_fst
    (trail : List Node) :
    ∀ children : List Child,
      (Child.markVisitedAll (fun _ => true) trail children).1 = Child.flaggedAll true children
  | [] => rfl
  | child :: rest => by
      simp only [Child.markVisitedAll, Child.flaggedAll]
      rw [Child.markVisited_fst, Child.markVisitedAll_fst]

/-- A walk through a child sets the flag of every element. -/
theorem Child.markVisited_fst
    (trail : List Node) :
    ∀ child : Child, (child.markVisited (fun _ => true) trail).1 = child.flagged true
  | .node element => by
      simp only [Child.markVisited, Child.flagged]
      rw [Node.markVisited_fst]
  | .text _ => rfl

end

/-- The marked tree has the flag on every element. -/
theorem Node.mark_fst
    (node : Node) :
    node.mark.1 = node.flagged true :=
  Node.markVisited_fst [] node

mutual

/-- A walk through a flagged tree meets the flagged elements of the tree. -/
theorem Node.visited_flagged
    (descend : Text → Bool)
    (flag : Bool) :
    ∀ node : Node,
      (node.flagged flag).visited descend = (node.visited descend).map (Node.flagged flag)
  | .element kind tag props children processed => by
      simp only [Node.flagged, Node.visited, List.map_cons]
      split
      · rw [Child.visitedLists_flagged]
      · rfl

/-- A walk through flagged children meets the flagged elements, if there is a list. -/
theorem Child.visitedLists_flagged
    (descend : Text → Bool)
    (flag : Bool) :
    ∀ children : Option (List Child),
      Child.visitedLists descend (Child.flaggedLists flag children) =
        (Child.visitedLists descend children).map (Node.flagged flag)
  | none => rfl
  | some children => Child.visitedAll_flagged descend flag children

/-- A walk through flagged children meets the flagged elements. -/
theorem Child.visitedAll_flagged
    (descend : Text → Bool)
    (flag : Bool) :
    ∀ children : List Child,
      Child.visitedAll descend (Child.flaggedAll flag children) =
        (Child.visitedAll descend children).map (Node.flagged flag)
  | [] => rfl
  | child :: rest => by
      simp only [Child.flaggedAll, Child.visitedAll, List.map_append]
      rw [Child.visited_flagged, Child.visitedAll_flagged]

/-- A walk through a flagged child meets the flagged elements of the child. -/
theorem Child.visited_flagged
    (descend : Text → Bool)
    (flag : Bool) :
    ∀ child : Child,
      Child.visited descend (child.flagged flag) =
        (Child.visited descend child).map (Node.flagged flag)
  | .node element => Node.visited_flagged descend flag element
  | .text _ => rfl

end

namespace Node

/-- All elements of a flagged tree are the flagged elements of the tree. -/
theorem flatten_flagged
    (flag : Bool)
    (node : Node) :
    (node.flagged flag).flatten = node.flatten.map (flagged flag) :=
  visited_flagged (fun _ => true) flag node

/-- A tree is one of its elements. -/
theorem mem_flatten_self
    (node : Node) :
    node ∈ node.flatten := by
  cases node
  simp [flatten, visited]

/-- Flags do not change the props of an element. -/
@[simp] theorem props_flagged
    (flag : Bool)
    (node : Node) :
    (node.flagged flag).props = node.props := by
  cases node
  rfl

end Node

end StyledMarkup
