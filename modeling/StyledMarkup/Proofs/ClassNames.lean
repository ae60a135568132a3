import StyledMarkup.Proofs.Tree.Preorder
import StyledMarkup.Proofs.WorkingNames

namespace StyledMarkup

open List

/-!
# Class names in the order of their appearance

Every element has at most one value with class names.  The registered names of
a tree are the registered words of these values, in the order of the elements
and within a value in the order of the words, each one where it appears first.
-/

namespace ClassName

/-! ## The value of an element -/

/-- No class names are read from a prop: it is missing, or it has no text or an empty one. -/
def IsUnusable (node : Node) (key : Text) : Prop :=
  ∀ text, Json.lookup? key node.props.fields = some (.text text) → text = []

/-- The value with the class names of an element: the text of the first usable attribute. -/
inductive Selects (attributes : List Text) (node : Node) (value : Text) : Prop where
  | first
      {passed later : List Text}
      {key : Text}
      (listed : attributes = passed ++ key :: later)
      (unusable : ∀ other ∈ passed, IsUnusable node other)
      (isText : Json.lookup? key node.props.fields = some (.text value))
      (nonempty : value ≠ [])

/-- The words of the value with the class names of an element, or none without such a value. -/
inductive Carries (attributes : List Text) (node : Node) : List Text → Prop where
  | names
      {value : Text}
      (selects : Selects attributes node value) :
      Carries attributes node (Text.words value)
  | nothing
      (unusable : ∀ value, ¬ Selects attributes node value) :
      Carries attributes node []

/-- A prop has a text if its value is this text. -/
theorem prop?_eq_some_iff
    {key : Text}
    {node : Node}
    {text : Text} :
    node.prop? key = some text ↔ Json.lookup? key node.props.fields = some (.text text) := by
  rw [Node.prop?, Props.text?, Option.bind_eq_some_iff]
  constructor
  · rintro ⟨value, isValue, isText⟩
    rw [isValue]
    cases value <;> simp_all [Json.Value.text?]
  · intro isValue
    exact ⟨.text text, isValue, rfl⟩

/-- An attribute in front that is not usable makes no difference for the selected value. -/
theorem selects_cons_of_isUnusable
    {key : Text}
    {node : Node}
    (isUnusable : IsUnusable node key)
    {attributes : List Text}
    {value : Text} :
    Selects (key :: attributes) node value ↔ Selects attributes node value := by
  constructor
  · rintro @⟨passed, later, other, listed, unusable, isText, nonempty⟩
    cases passed with
    | nil =>
        obtain ⟨rfl, -⟩ := List.cons_eq_cons.mp listed
        exact absurd (isUnusable value isText) nonempty
    | cons first passed =>
        obtain ⟨rfl, listedLater⟩ := List.cons_eq_cons.mp listed
        rw [List.forall_mem_cons] at unusable
        exact .first listedLater unusable.2 isText nonempty
  · rintro ⟨listed, unusable, isText, nonempty⟩
    exact .first (congrArg (key :: ·) listed) (List.forall_mem_cons.mpr ⟨isUnusable, unusable⟩)
      isText nonempty

/-- A usable attribute in front has the selected value. -/
theorem selects_cons_of_text
    {key : Text}
    {node : Node}
    {text : Text}
    (isText : Json.lookup? key node.props.fields = some (.text text))
    (nonempty : text ≠ [])
    {attributes : List Text}
    {value : Text} :
    Selects (key :: attributes) node value ↔ text = value := by
  constructor
  · rintro @⟨passed, later, other, listed, unusable, isOther, -⟩
    cases passed with
    | nil =>
        obtain ⟨rfl, -⟩ := List.cons_eq_cons.mp listed
        simpa [isText] using isOther
    | cons first passed =>
        obtain ⟨rfl, -⟩ := List.cons_eq_cons.mp listed
        exact absurd (unusable key (List.mem_cons_self ..) text isText) nonempty
  · rintro rfl
    exact .first (List.nil_append _).symm (by simp) isText nonempty

/-- The selected value is the text of the first usable attribute. -/
theorem selected?_eq_some_iff
    {attributes : List Text}
    {node : Node}
    {value : Text} :
    selected? attributes node = some value ↔ Selects attributes node value := by
  induction attributes with
  | nil =>
      simp only [selected?, List.filterMap_nil, List.find?_nil, reduceCtorEq, false_iff]
      rintro ⟨listed, -, -, -⟩
      simp at listed
  | cons key rest inductionHypothesis =>
      by_cases isUnusable : IsUnusable node key
      · rw [selects_cons_of_isUnusable isUnusable, ← inductionHypothesis]
        cases isProp : node.prop? key with
        | none =>
            simp [selected?, isProp]
        | some text =>
            have isEmpty := isUnusable text (prop?_eq_some_iff.mp isProp)
            simp [selected?, isProp, isEmpty]
      · obtain ⟨text, isText, nonempty⟩ :
            ∃ text, Json.lookup? key node.props.fields = some (.text text) ∧ text ≠ [] := by
          simpa [IsUnusable] using isUnusable
        rw [selects_cons_of_text isText nonempty]
        simp [selected?, prop?_eq_some_iff.mpr isText, nonempty]

/-- The class names of an element are the words of its value, if it has one. -/
theorem carries_words
    (attributes : List Text)
    (node : Node) :
    Carries attributes node (words attributes node) := by
  unfold words
  split
  · rename_i value isSelected
    exact .names (selected?_eq_some_iff.mp isSelected)
  · rename_i isMissing
    refine .nothing fun value selects => ?_
    rw [selected?_eq_some_iff.mpr selects] at isMissing
    cases isMissing

/-! ## First appearances -/

/-- Adding new names to others appends those that are not there, each where it appears first. -/
theorem addNew_eq_append_eraseDups
    (names added : List Text) :
    addNew names added = names ++ (added.removeAll names).eraseDups := by
  induction added generalizing names with
  | nil =>
      simp [addNew, List.removeAll]
  | cons first rest inductionHypothesis =>
      rw [addNew]
      by_cases isKnown : first ∈ names
      · rw [if_pos (by simpa using isKnown), inductionHypothesis, List.cons_removeAll,
          if_neg (by simpa using isKnown)]
      · have others :
            rest.removeAll (names ++ [first]) =
              (rest.removeAll names).filter fun other => ! other == first := by
          rw [List.removeAll, List.removeAll, List.filter_filter]
          refine List.filter_congr fun other _ => ?_
          rw [Bool.eq_iff_iff]
          simp [and_comm]
        rw [if_neg (by simpa using isKnown), inductionHypothesis, List.cons_removeAll,
          if_pos (by simpa using isKnown), List.eraseDups_cons, others, List.append_assoc,
          List.singleton_append]

/-- Of names with a property only those with the property are added. -/
theorem filter_addNew
    (keeps : Text → Bool)
    (names added : List Text) :
    (addNew names added).filter keeps = addNew (names.filter keeps) (added.filter keeps) := by
  induction added generalizing names with
  | nil =>
      rfl
  | cons first rest inductionHypothesis =>
      rw [addNew]
      by_cases kept : keeps first = true
      · rw [List.filter_cons_of_pos kept, addNew]
        have sameAnswer : (names.filter keeps).contains first = names.contains first := by
          simp [kept]
        rw [sameAnswer]
        split_ifs
        · exact inductionHypothesis names
        · rw [inductionHypothesis, List.filter_append, List.filter_cons_of_pos kept,
            List.filter_nil]
      · rw [List.filter_cons_of_neg kept]
        split_ifs
        · exact inductionHypothesis names
        · rw [inductionHypothesis, List.filter_append, List.filter_cons_of_neg kept,
            List.filter_nil, List.append_nil]

/-- Registered class names are the registered ones of all words, each where it appears first. -/
theorem registered_collect_eq_eraseDups
    (hashes attributes : List Text)
    (nodes : List Node) :
    registered hashes (collect attributes nodes) =
      ((nodes.flatMap (words attributes)).filter (· ∈ hashes)).eraseDups := by
  rw [registered, collect, filter_addNew, List.filter_nil, addNew_eq_append_eraseDups]
  simp [List.removeAll]

/-! ## Whole trees -/

/-- The class names at all paths of a tree, in the order of the paths. -/
structure Reading
    (attributes : List Text)
    (tree : Node)
    (paths : List (List Nat))
    (readings : List (List Text)) :
    Prop where
  ordered : paths.Pairwise (· < ·)
  complete : ∀ path, path ∈ paths ↔ ∃ element, tree.at? path = some element
  carried :
    List.Forall₂
      (fun path names =>
        ∃ element, tree.at? path = some element ∧ Carries attributes element names)
      paths readings

/-- A walk through a tree reads the class names at all paths. -/
theorem reading_flatten
    (attributes : List Text)
    (tree : Node) :
    Reading attributes tree tree.paths (tree.flatten.map (words attributes)) := by
  refine ⟨Node.pairwise_paths tree, fun _ => Node.mem_paths_iff, ?_⟩
  rw [List.forall₂_map_right_iff]
  refine (Node.forall₂_paths_flatten tree).imp ?_
  intro path element isThere
  exact ⟨element, isThere, carries_words attributes element⟩

/-- Class names of an element are the words of its selected value. -/
theorem mem_words_iff
    {attributes : List Text}
    {node : Node}
    {name : Text} :
    name ∈ words attributes node ↔
      ∃ value, Selects attributes node value ∧ name ∈ Text.words value := by
  unfold words
  constructor
  · intro isName
    split at isName
    · rename_i value isSelected
      exact ⟨value, selected?_eq_some_iff.mp isSelected, isName⟩
    · simp at isName
  · rintro ⟨value, selects, isName⟩
    rw [selected?_eq_some_iff.mpr selects]
    exact isName

/--
The registered class names of a tree are the registered words of the values
that its elements select, read in the order of their paths, without repetitions
and each one where it appears first.  They are words, and they are exactly the
registered words of selected values.
-/
theorem registered_collect_in_preorder
    (hashes attributes : List Text)
    (tree : Node) :
    ∃ paths readings,
      Reading attributes tree paths readings ∧
        registered hashes (collect attributes tree.flatten) =
            (readings.flatten.filter (· ∈ hashes)).eraseDups ∧
          (registered hashes (collect attributes tree.flatten)).Nodup ∧
            (∀ name ∈ registered hashes (collect attributes tree.flatten), name.IsWord) ∧
              ∀ name, name ∈ registered hashes (collect attributes tree.flatten) ↔
                name ∈ hashes ∧
                  ∃ path element value,
                    tree.at? path = some element ∧ Selects attributes element value ∧
                      name ∈ Text.words value := by
  refine ⟨_, _, reading_flatten attributes tree, ?_, ?_, ?_, ?_⟩
  · rw [registered_collect_eq_eraseDups, List.flatMap_def]
  · exact (collect_nodup attributes tree.flatten).filter _
  · intro name isName
    obtain ⟨-, element, -, isWord⟩ := mem_registered_collect.mp isName
    exact isWord_of_mem_words isWord
  · intro name
    simp only [mem_registered_collect, Node.mem_flatten_iff, mem_words_iff]
    constructor
    · rintro ⟨isHash, element, ⟨path, isThere⟩, value, selects, isWord⟩
      exact ⟨isHash, path, element, value, isThere, selects, isWord⟩
    · rintro ⟨isHash, path, element, value, isThere, selects, isWord⟩
      exact ⟨isHash, element, ⟨path, isThere⟩, value, selects, isWord⟩

end ClassName

end StyledMarkup
