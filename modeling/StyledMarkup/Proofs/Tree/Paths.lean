import StyledMarkup.Proofs.Tree.Flags

namespace StyledMarkup

open List

/-!
# Elements by their paths

A path leads to the same element of a tree whatever its flags are.  Marking
the element at a path sets the flags of all elements whose paths go on from
it, keeps the flags of all others, and changes nothing but flags.
-/

/-! ## Lists of children with flags -/

/-- Flags are set child by child. -/
theorem Child.flaggedAll_eq_map
    (flag : Bool)
    (children : List Child) :
    Child.flaggedAll flag children = children.map (Child.flagged flag) := by
  induction children with
  | nil =>
      rfl
  | cons child rest inductionHypothesis =>
      rw [Child.flaggedAll, inductionHypothesis, List.map_cons]

mutual

/-- The flags set last count. -/
theorem Node.flagged_flagged
    (flag other : Bool) :
    ∀ node : Node, (node.flagged other).flagged flag = node.flagged flag
  | .element kind tag props children processed => by
      rw [Node.flagged, Node.flagged, Node.flagged, Child.flaggedLists_flaggedLists]

/-- The flags set last count in an optional list of children. -/
theorem Child.flaggedLists_flaggedLists
    (flag other : Bool) :
    ∀ children : Option (List Child),
      Child.flaggedLists flag (Child.flaggedLists other children) =
        Child.flaggedLists flag children
  | none => rfl
  | some children => by
      rw [Child.flaggedLists, Child.flaggedLists, Child.flaggedLists,
        Child.flaggedAll_flaggedAll]

/-- The flags set last count in a list of children. -/
theorem Child.flaggedAll_flaggedAll
    (flag other : Bool) :
    ∀ children : List Child,
      Child.flaggedAll flag (Child.flaggedAll other children) = Child.flaggedAll flag children
  | [] => rfl
  | child :: rest => by
      rw [Child.flaggedAll, Child.flaggedAll, Child.flaggedAll, Child.flagged_flagged,
        Child.flaggedAll_flaggedAll]

/-- The flags set last count in a child. -/
theorem Child.flagged_flagged
    (flag other : Bool) :
    ∀ child : Child, (child.flagged other).flagged flag = child.flagged flag
  | .node element => by
      rw [Child.flagged, Child.flagged, Child.flagged, Node.flagged_flagged]
  | .text _ => rfl

end

mutual

/-- If all elements have a flag already, setting it changes nothing. -/
theorem Node.flagged_of_forall
    (flag : Bool) :
    ∀ node : Node, (∀ element ∈ node.flatten, element.processed = flag) → node.flagged flag = node
  | .element kind tag props children processed, same => by
      have isSame : processed = flag := same _ (Node.mem_flatten_self _)
      have sameBelow :
          ∀ element ∈ Child.visitedLists (fun _ => true) children, element.processed = flag := by
        intro element isBelow
        refine same element ?_
        simp only [Node.flatten, Node.visited, ↓reduceIte, List.mem_cons]
        exact Or.inr isBelow
      rw [Node.flagged, Child.flaggedLists_of_forall flag children sameBelow, isSame]

/-- If all elements below have a flag already, setting it changes nothing. -/
theorem Child.flaggedLists_of_forall
    (flag : Bool) :
    ∀ children : Option (List Child),
      (∀ element ∈ Child.visitedLists (fun _ => true) children, element.processed = flag) →
        Child.flaggedLists flag children = children
  | none, _ => rfl
  | some children, same => by
      rw [Child.flaggedLists, Child.flaggedAll_of_forall flag children same]

/-- If all elements of children have a flag already, setting it changes nothing. -/
theorem Child.flaggedAll_of_forall
    (flag : Bool) :
    ∀ children : List Child,
      (∀ element ∈ Child.visitedAll (fun _ => true) children, element.processed = flag) →
        Child.flaggedAll flag children = children
  | [], _ => rfl
  | child :: rest, same => by
      rw [Child.visitedAll, List.forall_mem_append] at same
      rw [Child.flaggedAll, Child.flagged_of_forall flag child same.1,
        Child.flaggedAll_of_forall flag rest same.2]

/-- If all elements of a child have a flag already, setting it changes nothing. -/
theorem Child.flagged_of_forall
    (flag : Bool) :
    ∀ child : Child,
      (∀ element ∈ Child.visited (fun _ => true) child, element.processed = flag) →
        child.flagged flag = child
  | .node element, same => by
      rw [Child.flagged, Node.flagged_of_forall flag element same]
  | .text _, _ => rfl

end

namespace Node

/-- An element with a flag on it and below it has that flag. -/
@[simp] theorem processed_flagged
    (flag : Bool)
    (node : Node) :
    (node.flagged flag).processed = flag := by
  cases node
  rfl

/-- Flags do not change the kind of an element. -/
@[simp] theorem kind_flagged
    (flag : Bool)
    (node : Node) :
    (node.flagged flag).kind = node.kind := by
  cases node
  rfl

/-- The children of an element with flags are its children with flags. -/
theorem children_flagged
    (flag : Bool)
    (node : Node) :
    (node.flagged flag).children = node.children.map (Child.flagged flag) := by
  obtain ⟨kind, tag, props, children, processed⟩ := node
  cases children with
  | none =>
      rfl
  | some children =>
      exact Child.flaggedAll_eq_map flag children

/-- All elements of a tree with flags have the flag. -/
theorem processed_of_mem_flatten_flagged
    {flag : Bool}
    {node element : Node}
    (isElement : element ∈ (node.flagged flag).flatten) :
    element.processed = flag := by
  rw [flatten_flagged] at isElement
  obtain ⟨before, -, rfl⟩ := List.mem_map.mp isElement
  exact processed_flagged flag before

/-! ## Paths -/

/-- A path goes on below the child with its first index. -/
theorem at?_cons
    (index : Nat)
    (path : List Nat)
    (node : Node) :
    node.at? (index :: path) =
      (node.children[index]?).bind fun
        | .node child => child.at? path
        | .text _ => none := by
  rw [at?]
  cases node.children[index]? with
  | none =>
      rfl
  | some child =>
      cases child <;> rfl

/-- A path leads to the same element, with flags, in a tree with flags. -/
theorem at?_flagged
    (flag : Bool)
    (path : List Nat)
    (node : Node) :
    (node.flagged flag).at? path = (node.at? path).map (flagged flag) := by
  induction path generalizing node with
  | nil =>
      rfl
  | cons index path inductionHypothesis =>
      rw [at?_cons, at?_cons, children_flagged, List.getElem?_map]
      cases node.children[index]? with
      | none =>
          rfl
      | some child =>
          cases child with
          | node child =>
              exact inductionHypothesis child
          | text text =>
              rfl

/-- The child of an element is one of the elements of the tree, and so is what is below it. -/
theorem mem_flatten_of_child
    {node child element : Node}
    (isChild : Child.node child ∈ node.children)
    (isElement : element ∈ child.flatten) :
    element ∈ node.flatten := by
  obtain ⟨kind, tag, props, children, processed⟩ := node
  cases children with
  | none =>
      simp [Node.children, childList?] at isChild
  | some children =>
      have inAll : element ∈ Child.visitedAll (fun _ => true) children := by
        replace isChild : Child.node child ∈ children := isChild
        induction children with
        | nil =>
            simp at isChild
        | cons first rest inductionHypothesis =>
            rw [Child.visitedAll, List.mem_append]
            rcases List.mem_cons.mp isChild with isFirst | inRest
            · exact Or.inl (isFirst ▸ isElement)
            · exact Or.inr (inductionHypothesis inRest)
      simp only [flatten, visited, ↓reduceIte, Child.visitedLists, List.mem_cons]
      exact Or.inr inAll

/-- A path leads to one of the elements of the tree. -/
theorem mem_flatten_of_at?
    {path : List Nat}
    {node element : Node}
    (isThere : node.at? path = some element) :
    element ∈ node.flatten := by
  induction path generalizing node with
  | nil =>
      obtain rfl := Option.some.inj isThere
      exact mem_flatten_self node
  | cons index path inductionHypothesis =>
      rw [at?_cons, Option.bind_eq_some_iff] at isThere
      obtain ⟨child, isChild, isBelow⟩ := isThere
      cases child with
      | text text =>
          simp at isBelow
      | node child =>
          exact mem_flatten_of_child (List.mem_of_getElem? isChild) (inductionHypothesis isBelow)

/-! ## Changing the element at a path -/

/-- A change below a child replaces this child in the list. -/
theorem modifyChild?_eq_some_iff
    {change : Node → Node}
    {path : List Nat}
    {index : Nat}
    {children changed : List Child} :
    modifyChild? change path index children = some changed ↔
      ∃ child new,
        children[index]? = some (.node child) ∧
          child.modifyAt? change path = some new ∧ changed = children.set index (.node new) := by
  induction children generalizing index changed with
  | nil =>
      simp [modifyChild?]
  | cons first rest inductionHypothesis =>
      cases index with
      | zero =>
          cases first with
          | node child =>
              simp only [modifyChild?, Option.map_eq_some_iff, List.getElem?_cons_zero,
                Option.some.injEq, Child.node.injEq, List.set_cons_zero]
              constructor
              · rintro ⟨new, isNew, rfl⟩
                exact ⟨child, new, rfl, isNew, rfl⟩
              · rintro ⟨_, new, rfl, isNew, rfl⟩
                exact ⟨new, isNew, rfl⟩
          | text text =>
              simp [modifyChild?]
      | succ previous =>
          simp only [modifyChild?, Option.map_eq_some_iff, inductionHypothesis,
            List.getElem?_cons_succ, List.set_cons_succ]
          constructor
          · rintro ⟨-, ⟨child, new, isChild, isNew, rfl⟩, rfl⟩
            exact ⟨child, new, isChild, isNew, rfl⟩
          · rintro ⟨child, new, isChild, isNew, rfl⟩
            exact ⟨_, ⟨child, new, isChild, isNew, rfl⟩, rfl⟩

/-- A change below the first index of a path replaces the child there. -/
theorem modifyAt?_cons_eq_some_iff
    {change : Node → Node}
    {index : Nat}
    {path : List Nat}
    {kind : Kind}
    {tag : Text}
    {props : Props}
    {children : Option (List Child)}
    {processed : Bool}
    {changed : Node} :
    modifyAt? change (index :: path) (.element kind tag props children processed) = some changed ↔
      ∃ present child new,
        children = some present ∧ present[index]? = some (.node child) ∧
          child.modifyAt? change path = some new ∧
            changed = .element kind tag props (some (present.set index (.node new))) processed := by
  cases children with
  | none =>
      simp [modifyAt?]
  | some present =>
      simp only [modifyAt?, Option.map_eq_some_iff, modifyChild?_eq_some_iff,
        Option.some.injEq]
      constructor
      · rintro ⟨-, ⟨child, new, isChild, isNew, rfl⟩, rfl⟩
        exact ⟨present, child, new, rfl, isChild, isNew, rfl⟩
      · rintro ⟨_, child, new, rfl, isChild, isNew, rfl⟩
        exact ⟨_, ⟨child, new, isChild, isNew, rfl⟩, rfl⟩

/-- The element at a path can be changed. -/
theorem exists_modifyAt?
    {path : List Nat}
    {tree target : Node}
    (isTarget : tree.at? path = some target)
    (change : Node → Node) :
    ∃ changed, tree.modifyAt? change path = some changed := by
  induction path generalizing tree with
  | nil =>
      exact ⟨change tree, by rw [modifyAt?]⟩
  | cons index path inductionHypothesis =>
      obtain ⟨kind, tag, props, children, processed⟩ := tree
      rw [at?_cons, Option.bind_eq_some_iff] at isTarget
      obtain ⟨child, isChild, isBelow⟩ := isTarget
      cases child with
      | text text =>
          simp at isBelow
      | node child =>
          obtain ⟨new, isNew⟩ := inductionHypothesis isBelow
          cases children with
          | none =>
              simp [Node.children, childList?] at isChild
          | some present =>
              exact ⟨_, modifyAt?_cons_eq_some_iff.mpr ⟨present, child, new, rfl, isChild, isNew, rfl⟩⟩

/-- Putting the element at a path in its own place changes nothing. -/
theorem modifyAt?_self
    {path : List Nat}
    {tree target : Node}
    (isTarget : tree.at? path = some target) :
    tree.modifyAt? (fun _ => target) path = some tree := by
  induction path generalizing tree with
  | nil =>
      obtain rfl := Option.some.inj isTarget
      rw [modifyAt?]
  | cons index path inductionHypothesis =>
      obtain ⟨kind, tag, props, children, processed⟩ := tree
      rw [at?_cons, Option.bind_eq_some_iff] at isTarget
      obtain ⟨child, isChild, isBelow⟩ := isTarget
      cases child with
      | text text =>
          simp at isBelow
      | node child =>
          cases children with
          | none =>
              simp [Node.children, childList?] at isChild
          | some present =>
              replace isChild : present[index]? = some (.node child) := isChild
              obtain ⟨inBounds, isItem⟩ := List.getElem?_eq_some_iff.mp isChild
              refine modifyAt?_cons_eq_some_iff.mpr
                ⟨present, child, child, rfl, isChild, inductionHypothesis isBelow, ?_⟩
              rw [← isItem, List.set_getElem_self inBounds]

/-- Marking the element at a path changes nothing but flags. -/
theorem flagged_of_markedAt
    {path : List Nat}
    {tree target changed : Node}
    (isTarget : tree.at? path = some target)
    (isChanged : tree.modifyAt? (fun _ => target.mark.1) path = some changed)
    (flag : Bool) :
    changed.flagged flag = tree.flagged flag := by
  induction path generalizing tree changed with
  | nil =>
      obtain rfl := Option.some.inj isTarget
      rw [modifyAt?, mark_fst] at isChanged
      obtain rfl := Option.some.inj isChanged
      exact flagged_flagged flag true tree
  | cons index path inductionHypothesis =>
      obtain ⟨kind, tag, props, children, processed⟩ := tree
      obtain ⟨present, child, new, rfl, isChild, isNew, rfl⟩ :=
        modifyAt?_cons_eq_some_iff.mp isChanged
      rw [at?_cons] at isTarget
      simp only [Node.children, childList?, Option.getD_some, isChild, Option.bind_some]
        at isTarget
      have same : (Child.node new).flagged flag = (Child.node child).flagged flag := by
        rw [Child.flagged, Child.flagged, inductionHypothesis isTarget isNew]
      have isThere : (present.map (Child.flagged flag))[index]? =
          some ((Child.node child).flagged flag) := by
        rw [List.getElem?_map, isChild, Option.map_some]
      obtain ⟨inBounds, isItem⟩ := List.getElem?_eq_some_iff.mp isThere
      simp only [flagged, Child.flaggedLists, Child.flaggedAll_eq_map, List.map_set, same]
      rw [← isItem, List.set_getElem_self inBounds]

/-- Marking the element at a path sets exactly the flags from there on. -/
theorem processed_of_markedAt
    {path : List Nat}
    {tree target changed : Node}
    (isTarget : tree.at? path = some target)
    (isChanged : tree.modifyAt? (fun _ => target.mark.1) path = some changed)
    {other : List Nat}
    {element : Node}
    (isThere : changed.at? other = some element) :
    ∃ before,
      tree.at? other = some before ∧
        (element.processed = true ↔ before.processed = true ∨ path <+: other) := by
  induction path generalizing tree changed other with
  | nil =>
      obtain rfl := Option.some.inj isTarget
      rw [modifyAt?, mark_fst] at isChanged
      obtain rfl := Option.some.inj isChanged
      rw [at?_flagged, Option.map_eq_some_iff] at isThere
      obtain ⟨before, isBefore, rfl⟩ := isThere
      exact ⟨before, isBefore, by simp⟩
  | cons index path inductionHypothesis =>
      obtain ⟨kind, tag, props, children, processed⟩ := tree
      obtain ⟨present, child, new, rfl, isChild, isNew, rfl⟩ :=
        modifyAt?_cons_eq_some_iff.mp isChanged
      rw [at?_cons] at isTarget
      simp only [Node.children, childList?, Option.getD_some, isChild, Option.bind_some]
        at isTarget
      cases other with
      | nil =>
          obtain rfl := Option.some.inj isThere
          exact ⟨_, rfl, by simp [Node.processed]⟩
      | cons otherIndex rest =>
          rw [at?_cons] at isThere
          simp only [Node.children, childList?, Option.getD_some] at isThere
          by_cases same : index = otherIndex
          · subst otherIndex
            have inBounds : index < present.length := (List.getElem?_eq_some_iff.mp isChild).1
            rw [List.getElem?_set_self inBounds, Option.bind_some] at isThere
            obtain ⟨before, isBefore, before_iff⟩ := inductionHypothesis isTarget isNew isThere
            refine ⟨before, ?_, ?_⟩
            · rw [at?_cons]
              simp only [Node.children, childList?, Option.getD_some, isChild, Option.bind_some]
              exact isBefore
            · rw [before_iff, List.cons_prefix_cons]
              simp
          · rw [List.getElem?_set_ne same] at isThere
            refine ⟨element, ?_, ?_⟩
            · rw [at?_cons]
              exact isThere
            · rw [List.cons_prefix_cons]
              simp [same]

end Node

end StyledMarkup
