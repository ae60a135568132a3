import StyledMarkup.Tree.Basic

namespace StyledMarkup

/-!
# Walks through a tree

A walk visits an element and then, in order, the elements among its children.
It goes below an element only if the type of the element allows it.  One walk
lists the elements it visits; the other one marks them as handled and leaves
a trail of what it has marked.
-/

mutual

/-- The elements that are visited, in order. -/
def Node.visited (descend : Text → Bool) : Node → List Node
  | .element kind tag props children processed =>
      .element kind tag props children processed ::
        if descend tag then Child.visitedLists descend children else []

/-- The elements visited in an optional list of children. -/
def Child.visitedLists (descend : Text → Bool) : Option (List Child) → List Node
  | none => []
  | some children => Child.visitedAll descend children

/-- The elements visited in a list of children. -/
def Child.visitedAll (descend : Text → Bool) : List Child → List Node
  | [] => []
  | child :: rest => Child.visited descend child ++ Child.visitedAll descend rest

/-- The elements visited in a child; in a text there are none. -/
def Child.visited (descend : Text → Bool) : Child → List Node
  | .node element => Node.visited descend element
  | .text _ => []

end

mutual

/-- Marks the visited elements; every element is put on the trail as it was before. -/
def Node.markVisited (descend : Text → Bool) (trail : List Node) : Node → Node × List Node
  | .element kind tag props children processed =>
      let trail := .element kind tag props children processed :: trail
      if descend tag then
        let (children, trail) := Child.markVisitedLists descend trail children
        (.element kind tag props children true, trail)
      else
        (.element kind tag props children true, trail)

/-- Marks the visited elements in an optional list of children. -/
def Child.markVisitedLists (descend : Text → Bool) (trail : List Node) :
    Option (List Child) → Option (List Child) × List Node
  | none => (none, trail)
  | some children =>
      let (children, trail) := Child.markVisitedAll descend trail children
      (some children, trail)

/-- Marks the visited elements in a list of children. -/
def Child.markVisitedAll (descend : Text → Bool) (trail : List Node) :
    List Child → List Child × List Node
  | [] => ([], trail)
  | child :: rest =>
      let (child, trail) := Child.markVisited descend trail child
      let (rest, trail) := Child.markVisitedAll descend trail rest
      (child :: rest, trail)

/-- Marks the visited elements in a child. -/
def Child.markVisited (descend : Text → Bool) (trail : List Node) : Child → Child × List Node
  | .node element =>
      let (element, trail) := Node.markVisited descend trail element
      (.node element, trail)
  | .text text => (.text text, trail)

end

namespace Node

/-- All elements of the tree, parents before their children. -/
def flatten (node : Node) : List Node := node.visited fun _ => true

/-- The tree with all elements marked as handled, and how many were marked. -/
def mark (node : Node) : Node × Nat :=
  let (node, trail) := node.markVisited (fun _ => true) []
  (node, trail.length)

mutual

/-- Applies a change to the element that a path of child indices leads to. -/
def modifyAt? (change : Node → Node) : List Nat → Node → Option Node
  | [], node => some (change node)
  | index :: path, .element kind tag props children processed =>
      match children with
      | none => none
      | some children =>
          (modifyChild? change path index children).map fun children =>
            .element kind tag props (some children) processed
termination_by path _ => (path.length, 0)

/-- Applies a change below the child with the given index. -/
def modifyChild? (change : Node → Node) (path : List Nat) :
    Nat → List Child → Option (List Child)
  | _, [] => none
  | 0, .node node :: rest => (modifyAt? change path node).map fun node => .node node :: rest
  | 0, .text _ :: _ => none
  | index + 1, child :: rest => (modifyChild? change path index rest).map (child :: ·)
termination_by _ children => (path.length, children.length + 1)

end

/-- The element that a path of child indices leads to. -/
def at? : List Nat → Node → Option Node
  | [], node => some node
  | index :: path, node =>
      match node.children[index]? with
      | some (.node child) => child.at? path
      | _ => none

end Node

end StyledMarkup
