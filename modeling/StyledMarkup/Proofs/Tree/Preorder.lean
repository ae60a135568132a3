import StyledMarkup.Proofs.Tree.Paths
import Mathlib.Data.List.Forall2

namespace StyledMarkup

open List

/-!
# The order of elements

A walk through a whole tree meets the element at every path once, in the order
of the paths: what a path leads to comes before everything below it, and what
is below a child comes before everything below a later one.
-/

mutual

/-- The paths of all elements, in the order in which a walk meets them. -/
def Node.paths : Node → List (List Nat)
  | .element _ _ _ children _ => [] :: Child.pathsLists children

/-- The paths of all elements below an optional list of children. -/
def Child.pathsLists : Option (List Child) → List (List Nat)
  | none => []
  | some children => Child.pathsFrom 0 children

/-- The paths of all elements below children, the first of which has this index. -/
def Child.pathsFrom (index : Nat) : List Child → List (List Nat)
  | [] => []
  | child :: rest => Child.pathsBelow index child ++ Child.pathsFrom (index + 1) rest

/-- The paths of all elements below the child with this index. -/
def Child.pathsBelow (index : Nat) : Child → List (List Nat)
  | .node element => element.paths.map (index :: ·)
  | .text _ => []

end

/-- All paths below a child start with its index. -/
theorem Child.exists_of_mem_pathsBelow
    {index : Nat}
    {child : Child}
    {path : List Nat}
    (isPath : path ∈ Child.pathsBelow index child) :
    ∃ below, path = index :: below := by
  cases child with
  | node element =>
      rw [Child.pathsBelow] at isPath
      obtain ⟨below, -, rfl⟩ := List.mem_map.mp isPath
      exact ⟨below, rfl⟩
  | text text =>
      simp [Child.pathsBelow] at isPath

/-- All paths below children start with an index of one of them. -/
theorem Child.exists_of_mem_pathsFrom
    {index : Nat}
    {children : List Child}
    {path : List Nat}
    (isPath : path ∈ Child.pathsFrom index children) :
    ∃ first below, index ≤ first ∧ path = first :: below := by
  induction children generalizing index with
  | nil =>
      simp [Child.pathsFrom] at isPath
  | cons child rest inductionHypothesis =>
      rw [Child.pathsFrom, List.mem_append] at isPath
      rcases isPath with isBelow | isLater
      · obtain ⟨below, rfl⟩ := Child.exists_of_mem_pathsBelow isBelow
        exact ⟨index, below, Nat.le_refl index, rfl⟩
      · obtain ⟨first, below, isGreater, rfl⟩ := inductionHypothesis isLater
        exact ⟨first, below, by omega, rfl⟩

mutual

/-- The paths of a tree increase. -/
theorem Node.pairwise_paths :
    ∀ node : Node, node.paths.Pairwise (· < ·)
  | .element kind tag props children processed => by
      rw [Node.paths, List.pairwise_cons]
      refine ⟨?_, Child.pairwise_pathsLists children⟩
      intro path isPath
      cases children with
      | none =>
          simp [Child.pathsLists] at isPath
      | some children =>
          obtain ⟨first, below, -, rfl⟩ := Child.exists_of_mem_pathsFrom isPath
          exact List.nil_lt_cons first below

/-- The paths below an optional list of children increase. -/
theorem Child.pairwise_pathsLists :
    ∀ children : Option (List Child), (Child.pathsLists children).Pairwise (· < ·)
  | none => List.Pairwise.nil
  | some children => Child.pairwise_pathsFrom 0 children

/-- The paths below children increase. -/
theorem Child.pairwise_pathsFrom
    (index : Nat) :
    ∀ children : List Child, (Child.pathsFrom index children).Pairwise (· < ·)
  | [] => List.Pairwise.nil
  | child :: rest => by
      rw [Child.pathsFrom, List.pairwise_append]
      refine ⟨Child.pairwise_pathsBelow index child, Child.pairwise_pathsFrom (index + 1) rest, ?_⟩
      intro path isBelow later isLater
      obtain ⟨below, rfl⟩ := Child.exists_of_mem_pathsBelow isBelow
      obtain ⟨first, laterBelow, isGreater, rfl⟩ := Child.exists_of_mem_pathsFrom isLater
      exact List.cons_lt_cons_iff.mpr (Or.inl isGreater)

/-- The paths below a child increase. -/
theorem Child.pairwise_pathsBelow
    (index : Nat) :
    ∀ child : Child, (Child.pathsBelow index child).Pairwise (· < ·)
  | .node element => by
      rw [Child.pathsBelow, List.pairwise_map]
      refine (Node.pairwise_paths element).imp ?_
      intro path later isLess
      exact List.cons_lt_cons_iff.mpr (Or.inr ⟨rfl, isLess⟩)
  | .text _ => List.Pairwise.nil

end

/-- A path leads from children, the first of which has this index, to an element below them. -/
def Child.LeadsTo
    (index : Nat)
    (children : List Child)
    (path : List Nat)
    (element : Node) :
    Prop :=
  ∃ offset child below,
    children[offset]? = some (.node child) ∧ path = (index + offset) :: below ∧
      child.at? below = some element

/-- What a path leads to from an element, it leads to from the children of the element. -/
theorem Node.at?_of_leadsTo
    {node element : Node}
    {path : List Nat}
    (leads : Child.LeadsTo 0 node.children path element) :
    node.at? path = some element := by
  obtain ⟨offset, child, below, isChild, rfl, isThere⟩ := leads
  rw [Nat.zero_add, Node.at?_cons, isChild, Option.bind_some]
  exact isThere

/-- What a path leads to from later children, it leads to from all of them. -/
theorem Child.LeadsTo.cons
    {index : Nat}
    {children : List Child}
    {path : List Nat}
    {element : Node}
    (leads : Child.LeadsTo (index + 1) children path element)
    (first : Child) :
    Child.LeadsTo index (first :: children) path element := by
  obtain ⟨offset, child, below, isChild, rfl, isThere⟩ := leads
  exact ⟨offset + 1, child, below, isChild, by rw [Nat.add_right_comm, Nat.add_assoc], isThere⟩

mutual

/-- The elements of a tree are, in order, what the paths of the tree lead to. -/
theorem Node.forall₂_paths_flatten :
    ∀ node : Node,
      List.Forall₂ (fun path element => node.at? path = some element) node.paths node.flatten
  | .element kind tag props none processed => .cons rfl .nil
  | .element kind tag props (some children) processed => by
      refine .cons rfl ((Child.forall₂_pathsFrom_visitedAll 0 children).imp ?_)
      intro path element leads
      exact Node.at?_of_leadsTo leads

/-- The elements below children are, in order, what the paths below them lead to. -/
theorem Child.forall₂_pathsFrom_visitedAll
    (index : Nat) :
    ∀ children : List Child,
      List.Forall₂ (Child.LeadsTo index children) (Child.pathsFrom index children)
        (Child.visitedAll (fun _ => true) children)
  | [] => .nil
  | child :: rest =>
      List.rel_append (Child.forall₂_pathsBelow_visited index rest child)
        ((Child.forall₂_pathsFrom_visitedAll (index + 1) rest).imp fun _ _ leads =>
          leads.cons child)

/-- The elements below a child are, in order, what the paths below it lead to. -/
theorem Child.forall₂_pathsBelow_visited
    (index : Nat)
    (rest : List Child) :
    ∀ child : Child,
      List.Forall₂ (Child.LeadsTo index (child :: rest)) (Child.pathsBelow index child)
        (Child.visited (fun _ => true) child)
  | .node element => by
      rw [Child.pathsBelow, List.forall₂_map_left_iff]
      refine (Node.forall₂_paths_flatten element).imp ?_
      intro below inner isThere
      exact ⟨0, element, below, rfl, rfl, isThere⟩
  | .text _ => .nil

end

/-- The paths below a child are paths below the children. -/
theorem Child.mem_pathsFrom
    (index : Nat)
    {offset : Nat}
    {children : List Child}
    {child : Node}
    (isChild : children[offset]? = some (.node child))
    {below : List Nat}
    (isPath : below ∈ child.paths) :
    (index + offset) :: below ∈ Child.pathsFrom index children := by
  induction children generalizing index offset with
  | nil =>
      simp at isChild
  | cons first rest inductionHypothesis =>
      rw [Child.pathsFrom, List.mem_append]
      cases offset with
      | zero =>
          obtain rfl : first = .node child := by
            simpa using isChild
          exact Or.inl (List.mem_map.mpr ⟨below, isPath, rfl⟩)
      | succ offset =>
          rw [List.getElem?_cons_succ] at isChild
          have isLater := inductionHypothesis (index + 1) isChild
          rw [Nat.add_right_comm, Nat.add_assoc] at isLater
          exact Or.inr isLater

/-- What is in the first of two related lists is related to something in the second one. -/
theorem exists_mem_of_forall₂
    {First Second : Type}
    {related : First → Second → Prop}
    {firsts : List First}
    {seconds : List Second}
    (areRelated : List.Forall₂ related firsts seconds)
    {first : First}
    (isFirst : first ∈ firsts) :
    ∃ second ∈ seconds, related first second := by
  induction areRelated with
  | nil =>
      simp at isFirst
  | cons isRelated _ inductionHypothesis =>
      rcases List.mem_cons.mp isFirst with rfl | inRest
      · exact ⟨_, List.mem_cons_self .., isRelated⟩
      · obtain ⟨second, isSecond, restRelated⟩ := inductionHypothesis inRest
        exact ⟨second, List.mem_cons_of_mem _ isSecond, restRelated⟩

/-- The paths of a tree are those that lead to an element. -/
theorem Node.mem_paths_iff
    {node : Node}
    {path : List Nat} :
    path ∈ node.paths ↔ ∃ element, node.at? path = some element := by
  constructor
  · intro isPath
    obtain ⟨element, -, isThere⟩ := exists_mem_of_forall₂ (Node.forall₂_paths_flatten node) isPath
    exact ⟨element, isThere⟩
  · rintro ⟨element, isThere⟩
    induction path generalizing node with
    | nil =>
        cases node
        simp [Node.paths]
    | cons index path inductionHypothesis =>
        rw [Node.at?_cons, Option.bind_eq_some_iff] at isThere
        obtain ⟨child, isChild, isBelow⟩ := isThere
        cases child with
        | text text =>
            simp at isBelow
        | node child =>
            obtain ⟨kind, tag, props, children, processed⟩ := node
            cases children with
            | none =>
                simp [Node.children, Node.childList?] at isChild
            | some children =>
                have inAll := Child.mem_pathsFrom 0 isChild (inductionHypothesis isBelow)
                rw [Nat.zero_add] at inAll
                exact List.mem_cons_of_mem _ inAll

/-- The elements of a tree are those that a path leads to. -/
theorem Node.mem_flatten_iff
    {node element : Node} :
    element ∈ node.flatten ↔ ∃ path, node.at? path = some element := by
  constructor
  · intro isElement
    have elements := List.Forall₂.flip (Node.forall₂_paths_flatten node)
    obtain ⟨path, -, isThere⟩ := exists_mem_of_forall₂ elements isElement
    exact ⟨path, isThere⟩
  · rintro ⟨path, isThere⟩
    exact Node.mem_flatten_of_at? isThere

end StyledMarkup
