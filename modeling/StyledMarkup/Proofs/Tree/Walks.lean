import StyledMarkup.Proofs.Tree.Preorder

namespace StyledMarkup

open List

/-!
# Two walks through a tree

One walk lists the elements it visits, the other one marks them.  With the same
elements to go below, both visit what the same paths lead to, in the order of
these paths, and marking sets the flags there and changes nothing else.  An
element is known by its path: equal elements can stand at several places.
-/

/-! ## What a walk visits -/

/-- A walk may go below all elements that are above a path. -/
def Node.Allows (descend : Text → Bool) (node : Node) (path : List Nat) : Prop :=
  ∀ front element,
    front <+: path → front ≠ path → node.at? front = some element → descend element.tag = true

/-- The elements that some paths lead to, each path once and in the order of the paths. -/
def Node.Lists (node : Node) (isListed : List Nat → Prop) (elements : List Node) : Prop :=
  ∃ places : List (List Nat × Node),
    places.map Prod.snd = elements ∧
      places.Pairwise (fun place later => place.1 < later.1) ∧
        ∀ path element,
          (path, element) ∈ places ↔ node.at? path = some element ∧ isListed path

/-- A tree in which exactly the elements at some paths have got the flag, and all else is the same. -/
structure Node.MarksOnly (isMarked : List Nat → Prop) (before after : Node) : Prop where
  unchanged : ∀ flag, after.flagged flag = before.flagged flag
  processed_iff :
    ∀ path element,
      before.at? path = some element →
        ∃ marked,
          after.at? path = some marked ∧
            (marked.processed = true ↔ element.processed = true ∨ isMarked path)

/-! ## Places of the visited elements -/

mutual

/-- The visited elements with their paths. -/
def Node.places (descend : Text → Bool) : Node → List (List Nat × Node)
  | .element kind tag props children processed =>
      ([], .element kind tag props children processed) ::
        if descend tag then Child.placesLists descend children else []

def Child.placesLists (descend : Text → Bool) : Option (List Child) → List (List Nat × Node)
  | none => []
  | some children => Child.placesFrom descend 0 children

/-- The elements visited below children, the first of which has this index, with their paths. -/
def Child.placesFrom (descend : Text → Bool) (index : Nat) :
    List Child → List (List Nat × Node)
  | [] => []
  | child :: rest =>
      Child.placesBelow descend index child ++ Child.placesFrom descend (index + 1) rest

/-- The elements visited below the child with this index, with their paths. -/
def Child.placesBelow (descend : Text → Bool) (index : Nat) : Child → List (List Nat × Node)
  | .node element => (element.places descend).map fun place => (index :: place.1, place.2)
  | .text _ => []

end

section Places

variable (descend : Text → Bool)

mutual

theorem Node.map_snd_places :
    ∀ node : Node, (node.places descend).map Prod.snd = node.visited descend
  | .element kind tag props children processed => by
      rw [Node.places, Node.visited, List.map_cons]
      split
      · rw [Child.map_snd_placesLists]
      · rfl

theorem Child.map_snd_placesLists :
    ∀ children : Option (List Child),
      (Child.placesLists descend children).map Prod.snd = Child.visitedLists descend children
  | none => rfl
  | some children => Child.map_snd_placesFrom 0 children

theorem Child.map_snd_placesFrom
    (index : Nat) :
    ∀ children : List Child,
      (Child.placesFrom descend index children).map Prod.snd = Child.visitedAll descend children
  | [] => rfl
  | child :: rest => by
      rw [Child.placesFrom, Child.visitedAll, List.map_append, Child.map_snd_placesBelow,
        Child.map_snd_placesFrom]

theorem Child.map_snd_placesBelow
    (index : Nat) :
    ∀ child : Child,
      (Child.placesBelow descend index child).map Prod.snd = Child.visited descend child
  | .node element => by
      rw [Child.placesBelow, Child.visited, List.map_map]
      exact Node.map_snd_places element
  | .text _ => rfl

end

mutual

/-- The paths of a walk are, in order, some of the paths of the tree. -/
theorem Node.map_fst_places_sublist :
    ∀ node : Node, (node.places descend).map Prod.fst <+ node.paths
  | .element kind tag props children processed => by
      rw [Node.places, Node.paths, List.map_cons, List.cons_sublist_cons]
      split
      · exact Child.map_fst_placesLists_sublist children
      · exact List.nil_sublist _

theorem Child.map_fst_placesLists_sublist :
    ∀ children : Option (List Child),
      (Child.placesLists descend children).map Prod.fst <+ Child.pathsLists children
  | none => List.Sublist.slnil
  | some children => Child.map_fst_placesFrom_sublist 0 children

theorem Child.map_fst_placesFrom_sublist
    (index : Nat) :
    ∀ children : List Child,
      (Child.placesFrom descend index children).map Prod.fst <+ Child.pathsFrom index children
  | [] => List.Sublist.slnil
  | child :: rest => by
      rw [Child.placesFrom, Child.pathsFrom, List.map_append]
      exact (Child.map_fst_placesBelow_sublist index child).append
        (Child.map_fst_placesFrom_sublist (index + 1) rest)

theorem Child.map_fst_placesBelow_sublist
    (index : Nat) :
    ∀ child : Child,
      (Child.placesBelow descend index child).map Prod.fst <+ Child.pathsBelow index child
  | .node element => by
      have inside := (Node.map_fst_places_sublist element).map (index :: ·)
      rw [List.map_map] at inside
      rw [Child.placesBelow, Child.pathsBelow, List.map_map]
      exact inside
  | .text _ => List.Sublist.slnil

end

/-- The places below children are those below one of them, behind its index. -/
theorem Child.mem_placesFrom
    {index : Nat}
    {children : List Child}
    {path : List Nat}
    {element : Node} :
    (path, element) ∈ Child.placesFrom descend index children ↔
      ∃ offset child below,
        children[offset]? = some (.node child) ∧ path = (index + offset) :: below ∧
          (below, element) ∈ child.places descend := by
  induction children generalizing index with
  | nil =>
      simp [Child.placesFrom]
  | cons first rest inductionHypothesis =>
      rw [Child.placesFrom, List.mem_append, inductionHypothesis]
      constructor
      · rintro (isFirst | ⟨offset, child, below, isChild, rfl, isPlace⟩)
        · cases first with
          | node child =>
              obtain ⟨⟨below, _⟩, isPlace, same⟩ := List.mem_map.mp isFirst
              obtain ⟨rfl, rfl⟩ := Prod.mk.inj same
              exact ⟨0, child, below, rfl, rfl, isPlace⟩
          | text text =>
              simp [Child.placesBelow] at isFirst
        · exact ⟨offset + 1, child, below, isChild, by rw [Nat.add_right_comm, Nat.add_assoc],
            isPlace⟩
      · rintro ⟨offset, child, below, isChild, rfl, isPlace⟩
        cases offset with
        | zero =>
            obtain rfl : first = .node child := by
              simpa using isChild
            exact Or.inl (List.mem_map.mpr ⟨(below, element), isPlace, rfl⟩)
        | succ offset =>
            exact Or.inr ⟨offset, child, below, isChild,
              by rw [Nat.add_right_comm, Nat.add_assoc], isPlace⟩

/-- Below the first element of a path the walk goes on if it may go below this element. -/
theorem Node.mem_places_cons
    {node element : Node}
    {index : Nat}
    {path : List Nat} :
    (index :: path, element) ∈ node.places descend ↔
      descend node.tag = true ∧
        ∃ child, node.children[index]? = some (.node child) ∧
          (path, element) ∈ child.places descend := by
  obtain ⟨kind, tag, props, children, processed⟩ := node
  rw [Node.places, Node.tag]
  cases goesBelow : descend tag with
  | false =>
      simp
  | true =>
      cases children with
      | none =>
          simp [Child.placesLists, Node.children, Node.childList?]
      | some children =>
          simp only [Child.placesLists, ↓reduceIte, List.mem_cons, Prod.mk.injEq,
            List.cons_ne_nil, false_and, false_or, Child.mem_placesFrom, true_and]
          simp [Node.children, Node.childList?, and_left_comm]

theorem Node.mem_places_nil
    {node element : Node} :
    ([], element) ∈ node.places descend ↔ node = element := by
  obtain ⟨kind, tag, props, children, processed⟩ := node
  have notBelow : ([], element) ∉ Child.placesLists descend children := by
    intro isPlace
    cases children with
    | none =>
        simp [Child.placesLists] at isPlace
    | some children =>
        obtain ⟨offset, child, below, -, isNil, -⟩ :=
          (Child.mem_placesFrom descend).mp isPlace
        simp at isNil
  rw [Node.places, List.mem_cons]
  constructor
  · rintro (same | isBelow)
    · exact (Prod.mk.inj same).2.symm
    · split at isBelow
      · exact absurd isBelow notBelow
      · simp at isBelow
  · rintro rfl
    exact Or.inl rfl

theorem Node.allows_nil
    (node : Node) :
    node.Allows descend [] := by
  intro front element isAbove isOther
  exact absurd (List.prefix_nil.mp isAbove) isOther

/-- Above a path are the tree itself and what is above the rest of the path in the child. -/
theorem Node.allows_cons
    {node child : Node}
    {index : Nat}
    (isChild : node.children[index]? = some (.node child))
    (path : List Nat) :
    node.Allows descend (index :: path) ↔
      descend node.tag = true ∧ child.Allows descend path := by
  constructor
  · intro allows
    refine ⟨allows [] node List.nil_prefix (by simp) rfl, ?_⟩
    intro front element isAbove isOther isThere
    refine allows (index :: front) element ?_ (by simpa using isOther) ?_
    · exact List.cons_prefix_cons.mpr ⟨rfl, isAbove⟩
    · rw [Node.at?_cons, isChild, Option.bind_some]
      exact isThere
  · rintro ⟨isRoot, isBelow⟩ front element isAbove isOther isThere
    cases front with
    | nil =>
        obtain rfl := Option.some.inj isThere
        exact isRoot
    | cons first front =>
        obtain ⟨rfl, isAboveBelow⟩ := List.cons_prefix_cons.mp isAbove
        rw [Node.at?_cons, isChild, Option.bind_some] at isThere
        exact isBelow front element isAboveBelow (by simpa using isOther) isThere

/-- The places of a walk are the paths that it may follow, with the elements they lead to. -/
theorem Node.mem_places_iff
    {node element : Node}
    {path : List Nat} :
    (path, element) ∈ node.places descend ↔
      node.at? path = some element ∧ node.Allows descend path := by
  induction path generalizing node with
  | nil =>
      rw [Node.mem_places_nil, Node.at?, Option.some.injEq]
      exact (and_iff_left (Node.allows_nil descend node)).symm
  | cons index path inductionHypothesis =>
      rw [Node.mem_places_cons, Node.at?_cons, Option.bind_eq_some_iff]
      constructor
      · rintro ⟨goesBelow, child, isChild, isPlace⟩
        obtain ⟨isThere, allows⟩ := inductionHypothesis.mp isPlace
        exact ⟨⟨.node child, isChild, isThere⟩,
          (Node.allows_cons descend isChild path).mpr ⟨goesBelow, allows⟩⟩
      · rintro ⟨⟨child, isChild, isThere⟩, allows⟩
        cases child with
        | text text =>
            simp at isThere
        | node child =>
            obtain ⟨goesBelow, allowsBelow⟩ := (Node.allows_cons descend isChild path).mp allows
            exact ⟨goesBelow, child, isChild, inductionHypothesis.mpr ⟨isThere, allowsBelow⟩⟩

/-- A walk lists what the paths lead to that it may follow. -/
theorem Node.lists_visited
    (node : Node) :
    node.Lists (node.Allows descend) (node.visited descend) := by
  refine ⟨node.places descend, Node.map_snd_places descend node, ?_, ?_⟩
  · rw [← List.pairwise_map]
    exact (Node.pairwise_paths node).sublist (Node.map_fst_places_sublist descend node)
  · intro path element
    exact Node.mem_places_iff descend

end Places

theorem Node.lists_flatten
    (node : Node) :
    node.Lists (fun _ => True) node.flatten := by
  obtain ⟨places, areElements, ordered, mem_places⟩ := Node.lists_visited (fun _ => true) node
  refine ⟨places, areElements, ordered, ?_⟩
  intro path element
  rw [mem_places]
  exact and_congr_right fun _ => iff_true_intro fun _ _ _ _ _ => rfl

/-! ## What marking changes -/

mutual

/-- The element with the flag on all elements that a walk visits. -/
def Node.flaggedWhere (descend : Text → Bool) : Node → Node
  | .element kind tag props children _ =>
      .element kind tag props
        (if descend tag then Child.flaggedWhereLists descend children else children) true

def Child.flaggedWhereLists (descend : Text → Bool) : Option (List Child) → Option (List Child)
  | none => none
  | some children => some (Child.flaggedWhereAll descend children)

def Child.flaggedWhereAll (descend : Text → Bool) : List Child → List Child
  | [] => []
  | child :: rest => Child.flaggedWhere descend child :: Child.flaggedWhereAll descend rest

def Child.flaggedWhere (descend : Text → Bool) : Child → Child
  | .node element => .node (element.flaggedWhere descend)
  | .text text => .text text

end

section Marking

variable (descend : Text → Bool)

mutual

/-- The marking walk sets the flags and puts what it visits on the trail, one after the other. -/
theorem Node.markVisited_eq
    (trail : List Node) :
    ∀ node : Node,
      node.markVisited descend trail =
        (node.flaggedWhere descend, (node.visited descend).reverse ++ trail)
  | .element kind tag props children processed => by
      rw [Node.markVisited, Node.flaggedWhere, Node.visited]
      split
      · simp [Child.markVisitedLists_eq]
      · simp

theorem Child.markVisitedLists_eq
    (trail : List Node) :
    ∀ children : Option (List Child),
      Child.markVisitedLists descend trail children =
        (Child.flaggedWhereLists descend children,
          (Child.visitedLists descend children).reverse ++ trail)
  | none => rfl
  | some children => by
      rw [Child.markVisitedLists, Child.markVisitedAll_eq]
      rfl

theorem Child.markVisitedAll_eq
    (trail : List Node) :
    ∀ children : List Child,
      Child.markVisitedAll descend trail children =
        (Child.flaggedWhereAll descend children,
          (Child.visitedAll descend children).reverse ++ trail)
  | [] => rfl
  | child :: rest => by
      rw [Child.markVisitedAll, Child.markVisited_eq]
      simp [Child.markVisitedAll_eq, Child.flaggedWhereAll, Child.visitedAll]

theorem Child.markVisited_eq
    (trail : List Node) :
    ∀ child : Child,
      child.markVisited descend trail =
        (child.flaggedWhere descend, (child.visited descend).reverse ++ trail)
  | .node element => by
      rw [Child.markVisited, Node.markVisited_eq]
      rfl
  | .text _ => rfl

end

mutual

/-- Marking changes nothing but flags. -/
theorem Node.flagged_flaggedWhere
    (flag : Bool) :
    ∀ node : Node, (node.flaggedWhere descend).flagged flag = node.flagged flag
  | .element kind tag props children processed => by
      rw [Node.flaggedWhere, Node.flagged, Node.flagged]
      split
      · rw [Child.flaggedLists_flaggedWhereLists]
      · rfl

theorem Child.flaggedLists_flaggedWhereLists
    (flag : Bool) :
    ∀ children : Option (List Child),
      Child.flaggedLists flag (Child.flaggedWhereLists descend children) =
        Child.flaggedLists flag children
  | none => rfl
  | some children => by
      rw [Child.flaggedWhereLists, Child.flaggedLists, Child.flaggedLists,
        Child.flaggedAll_flaggedWhereAll]

theorem Child.flaggedAll_flaggedWhereAll
    (flag : Bool) :
    ∀ children : List Child,
      Child.flaggedAll flag (Child.flaggedWhereAll descend children) =
        Child.flaggedAll flag children
  | [] => rfl
  | child :: rest => by
      rw [Child.flaggedWhereAll, Child.flaggedAll, Child.flaggedAll,
        Child.flagged_flaggedWhere, Child.flaggedAll_flaggedWhereAll]

theorem Child.flagged_flaggedWhere
    (flag : Bool) :
    ∀ child : Child, (child.flaggedWhere descend).flagged flag = child.flagged flag
  | .node element => by
      rw [Child.flaggedWhere, Child.flagged, Child.flagged, Node.flagged_flaggedWhere]
  | .text _ => rfl

end

theorem Child.getElem?_flaggedWhereAll
    (children : List Child)
    (index : Nat) :
    (Child.flaggedWhereAll descend children)[index]? =
      children[index]?.map (Child.flaggedWhere descend) := by
  induction children generalizing index with
  | nil =>
      rfl
  | cons child rest inductionHypothesis =>
      cases index with
      | zero =>
          rfl
      | succ index =>
          exact inductionHypothesis index

/-- The children of a marked element are marked if the walk goes below it. -/
theorem Node.getElem?_children_flaggedWhere
    (node : Node)
    (index : Nat) :
    (node.flaggedWhere descend).children[index]? =
      if descend node.tag then node.children[index]?.map (Child.flaggedWhere descend)
      else node.children[index]? := by
  obtain ⟨kind, tag, props, children, processed⟩ := node
  rw [Node.flaggedWhere, Node.tag]
  split
  · cases children with
    | none =>
        rfl
    | some children =>
        exact Child.getElem?_flaggedWhereAll descend children index
  · rfl

/-- Marking sets the flags at the paths that the walk may follow, and no others. -/
theorem Node.processed_flaggedWhere
    {path : List Nat}
    {node element : Node}
    (isThere : node.at? path = some element) :
    ∃ marked,
      (node.flaggedWhere descend).at? path = some marked ∧
        (marked.processed = true ↔ element.processed = true ∨ node.Allows descend path) := by
  induction path generalizing node with
  | nil =>
      have isMarked : (node.flaggedWhere descend).processed = true := by
        cases node
        rfl
      exact ⟨_, rfl, by simp [isMarked, Node.allows_nil]⟩
  | cons index path inductionHypothesis =>
      rw [Node.at?_cons, Option.bind_eq_some_iff] at isThere
      obtain ⟨child, isChild, isBelow⟩ := isThere
      cases child with
      | text text =>
          simp at isBelow
      | node child =>
          rw [Node.at?_cons, Node.getElem?_children_flaggedWhere, isChild,
            Node.allows_cons descend isChild]
          cases goesBelow : descend node.tag with
          | false =>
              exact ⟨element, isBelow, by simp⟩
          | true =>
              obtain ⟨marked, isMarked, marked_iff⟩ := inductionHypothesis isBelow
              exact ⟨marked, isMarked, by simpa using marked_iff⟩

theorem Node.marksOnly_flaggedWhere
    (node : Node) :
    node.MarksOnly (node.Allows descend) (node.flaggedWhere descend) where
  unchanged := fun flag => Node.flagged_flaggedWhere descend flag node
  processed_iff := fun _ _ isThere => Node.processed_flaggedWhere descend isThere

end Marking

theorem Node.mark_snd
    (node : Node) :
    node.mark.2 = node.flatten.length := by
  rw [Node.mark, Node.markVisited_eq, Node.flatten]
  simp

/-- Marking a marked tree changes nothing and counts the same elements. -/
theorem Node.mark_mark
    (node : Node) :
    node.mark.1.mark = node.mark := by
  have sameTree : node.mark.1.mark.1 = node.mark.1 := by
    rw [Node.mark_fst, Node.mark_fst, Node.flagged_flagged]
  have sameCount : node.mark.1.mark.2 = node.mark.2 := by
    rw [Node.mark_snd, Node.mark_snd, Node.mark_fst, Node.flatten_flagged, List.length_map]
  exact Prod.ext sameTree sameCount

/--
With the same elements to go below, the walk that lists and the walk that marks
visit the same elements in the same order, namely what the paths lead to that
may be followed; marking sets the flags there and changes nothing else.  If all
paths may be followed, every element is listed once, parents before their
children and children in order; as many are marked; the marked tree has the
same elements with their flags set; and marking it again changes nothing.
-/
theorem Node.walks_visit_the_same
    (descend : Text → Bool)
    (node : Node) :
    (node.Lists (node.Allows descend) (node.visited descend) ∧
        (node.markVisited descend []).2.reverse = node.visited descend ∧
          node.MarksOnly (node.Allows descend) (node.markVisited descend []).1) ∧
      node.Lists (fun _ => True) node.flatten ∧
        node.mark.2 = node.flatten.length ∧
          node.mark.1.flatten = node.flatten.map (Node.flagged true) ∧
            node.mark.1.mark = node.mark := by
  refine ⟨⟨Node.lists_visited descend node, ?_, ?_⟩, Node.lists_flatten node, Node.mark_snd node,
    ?_, Node.mark_mark node⟩
  · simp [Node.markVisited_eq]
  · rw [Node.markVisited_eq]
    exact Node.marksOnly_flaggedWhere descend node
  · rw [Node.mark_fst, Node.flatten_flagged]

end StyledMarkup
