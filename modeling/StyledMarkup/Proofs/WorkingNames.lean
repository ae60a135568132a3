import StyledMarkup.Snapshot
import StyledMarkup.Proofs.Text.Words
import StyledMarkup.Proofs.Tree.Flags

namespace StyledMarkup

/-!
# Working names

The working names of a tree are the registered words of its class attributes.
Class names are collected without repetition.  Working names are words, and
they do not depend on what the serializer remembers about the elements of the
tree.
-/

namespace ClassName

/-- New names are added to the names that are there. -/
theorem mem_addNew
    {names added : List Text}
    {name : Text} :
    name ∈ addNew names added ↔ name ∈ names ∨ name ∈ added := by
  induction added generalizing names with
  | nil =>
      simp [addNew]
  | cons first rest inductionHypothesis =>
      simp only [addNew]
      split
      · rename_i known
        have firstMember : first ∈ names := by
          simpa using known
        rw [inductionHypothesis, List.mem_cons]
        constructor
        · rintro (inNames | inRest)
          · exact Or.inl inNames
          · exact Or.inr (Or.inr inRest)
        · rintro (inNames | isFirst | inRest)
          · exact Or.inl inNames
          · subst name
            exact Or.inl firstMember
          · exact Or.inr inRest
      · rw [inductionHypothesis]
        simp [or_assoc]

/-- Adding new names keeps the names distinct. -/
theorem addNew_nodup
    {names : List Text}
    (distinct : names.Nodup)
    (added : List Text) :
    (addNew names added).Nodup := by
  induction added generalizing names with
  | nil =>
      exact distinct
  | cons first rest inductionHypothesis =>
      simp only [addNew]
      split
      · exact inductionHypothesis distinct
      · rename_i unknown
        have absent : first ∉ names := by
          simpa using unknown
        refine inductionHypothesis (List.nodup_append.mpr ⟨distinct, by simp, ?_⟩)
        intro name member other isFirst same
        rw [List.mem_singleton.mp isFirst] at same
        exact absent (same ▸ member)

/-- The collected names are the words in the class attributes of the elements. -/
theorem mem_collect
    {attributes : List Text}
    {nodes : List Node}
    {name : Text} :
    name ∈ collect attributes nodes ↔ ∃ node ∈ nodes, name ∈ words attributes node := by
  simp [collect, mem_addNew, List.mem_flatMap]

/-- Registered names are the registered words in the class attributes of the elements. -/
theorem mem_registered_collect
    {hashes attributes : List Text}
    {nodes : List Node}
    {name : Text} :
    name ∈ registered hashes (collect attributes nodes) ↔
      name ∈ hashes ∧ ∃ node ∈ nodes, name ∈ words attributes node := by
  simp [registered, mem_collect, and_comm]

/-- The collected names are distinct. -/
theorem collect_nodup
    (attributes : List Text)
    (nodes : List Node) :
    (collect attributes nodes).Nodup :=
  addNew_nodup List.nodup_nil _

/-- The class names of an element are words. -/
theorem isWord_of_mem_words
    {attributes : List Text}
    {node : Node}
    {name : Text}
    (member : name ∈ words attributes node) :
    name.IsWord := by
  unfold words at member
  split at member
  · exact Text.isWord_of_mem_words member
  · simp at member

/-- Flags do not change the class attribute of an element. -/
@[simp] theorem selected?_flagged
    (attributes : List Text)
    (flag : Bool)
    (node : Node) :
    selected? attributes (node.flagged flag) = selected? attributes node := by
  simp [selected?, Node.prop?]

/-- Flags do not change the class names of an element. -/
@[simp] theorem words_flagged
    (attributes : List Text)
    (flag : Bool)
    (node : Node) :
    words attributes (node.flagged flag) = words attributes node := by
  simp [words]

/-- Flags do not change the collected class names. -/
theorem collect_map_flagged
    (attributes : List Text)
    (flag : Bool)
    (nodes : List Node) :
    collect attributes (nodes.map (Node.flagged flag)) = collect attributes nodes := by
  simp [collect, List.flatMap_map]

end ClassName

namespace Serializer

/-- Working names are the registered class names of the elements. -/
theorem mem_workingNames
    {serializer : Serializer}
    {node : Node}
    {name : Text} :
    name ∈ serializer.workingNames node ↔
      name ∈ serializer.registry.hashes ∧
        ∃ element ∈ node.flatten,
          name ∈ ClassName.words serializer.settings.classAttributes element :=
  ClassName.mem_registered_collect

/-- Working names are words. -/
theorem isWord_of_mem_workingNames
    {serializer : Serializer}
    {node : Node}
    {name : Text}
    (member : name ∈ serializer.workingNames node) :
    name.IsWord := by
  obtain ⟨_, element, _, isClassName⟩ := mem_workingNames.mp member
  exact ClassName.isWord_of_mem_words isClassName

/-- Flags do not change the working names of a tree. -/
theorem workingNames_flagged
    (serializer : Serializer)
    (flag : Bool)
    (node : Node) :
    serializer.workingNames (node.flagged flag) = serializer.workingNames node := by
  rw [workingNames, workingNames, Node.flatten_flagged, ClassName.collect_map_flagged]

/-- Marking a tree does not change its working names. -/
theorem workingNames_mark
    (serializer : Serializer)
    (node : Node) :
    serializer.workingNames node.mark.1 = serializer.workingNames node := by
  rw [Node.mark_fst, workingNames_flagged]

end Serializer

end StyledMarkup
