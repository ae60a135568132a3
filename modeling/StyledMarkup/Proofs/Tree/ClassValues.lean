import StyledMarkup.Proofs.Json.Settled
import StyledMarkup.Tree.Walk

namespace StyledMarkup

open List

/-!
# Trees that differ in class values

The class values of a tree are the texts of its class attributes, on whatever
element they stand.  Two trees differ in nothing else if they are the same
tree once their class values are emptied.
-/

/-- The value with another text, if it is a text. -/
def Json.Value.mapText (change : Text → Text) : Json.Value → Json.Value
  | .text value => .text (change value)
  | value => value

/-- Where keys increase, every field is found by its key. -/
theorem Json.lookup?_of_mem
    {fields : List (Text × Json.Value)}
    (ordered : fields.Pairwise fun field later => Text.lessThan field.1 later.1 = true)
    {key : Text}
    {value : Json.Value}
    (isField : (key, value) ∈ fields) :
    Json.lookup? key fields = some value := by
  induction fields with
  | nil =>
      simp at isField
  | cons field rest inductionHypothesis =>
      obtain ⟨other, stored⟩ := field
      obtain ⟨isLeast, orderedRest⟩ := List.pairwise_cons.mp ordered
      rw [Json.lookup?]
      rcases List.mem_cons.mp isField with isHere | inRest
      · obtain ⟨rfl, rfl⟩ := Prod.mk.inj isHere
        rw [if_pos rfl]
      · have different : other ≠ key := by
          rintro rfl
          have isLess := isLeast _ inRest
          simp [Text.lessThan_irrefl] at isLess
        rw [if_neg different]
        exact inductionHypothesis orderedRest inRest

namespace Props

/-- A field with another text, if it is a class attribute and has a text. -/
def changeField
    (attributes : List Text)
    (change : Text → Text)
    (field : Text × Json.Value) :
    Text × Json.Value :=
  (field.1, if attributes.contains field.1 then field.2.mapText change else field.2)

/-- Other class values leave the keys in order and the values canonical. -/
theorem isCanonical_map_changeField
    (attributes : List Text)
    (change : Text → Text)
    {fields : List (Text × Json.Value)}
    (isCanonical : (Json.Value.record fields).isCanonical = true) :
    (Json.Value.record (fields.map (changeField attributes change))).isCanonical = true := by
  rw [Json.Value.isCanonical, Bool.and_eq_true, Json.Value.keysIncrease_iff_pairwise]
    at isCanonical ⊢
  obtain ⟨ordered, valuesCanonical⟩ := isCanonical
  refine ⟨?_, ?_⟩
  · rw [List.pairwise_map]
    exact ordered
  · clear ordered
    induction fields with
    | nil =>
        rfl
    | cons field rest inductionHypothesis =>
        obtain ⟨key, value⟩ := field
        rw [Json.Value.fieldsAreCanonical, Bool.and_eq_true] at valuesCanonical
        have changedCanonical : (value.mapText change).isCanonical = true := by
          cases value with
          | text value =>
              rfl
          | _ =>
              exact valuesCanonical.1
        rw [List.map_cons, changeField, Json.Value.fieldsAreCanonical, Bool.and_eq_true]
        refine ⟨?_, inductionHypothesis valuesCanonical.2⟩
        split
        · exact changedCanonical
        · exact valuesCanonical.1

/-- The props with other class values. -/
def mapClassValues (attributes : List Text) (change : Text → Text) (props : Props) : Props :=
  ⟨props.fields.map (changeField attributes change),
    isCanonical_map_changeField attributes change props.canonical⟩

theorem mapClassValues_mapClassValues
    (attributes : List Text)
    (first second : Text → Text)
    (props : Props) :
    (props.mapClassValues attributes first).mapClassValues attributes second =
      props.mapClassValues attributes (second ∘ first) := by
  apply eq_of_fields_eq
  show (props.fields.map _).map _ = props.fields.map _
  rw [List.map_map]
  congr 1
  funext field
  obtain ⟨key, value⟩ := field
  by_cases isClass : key ∈ attributes
  · cases value <;> simp [changeField, isClass, Json.Value.mapText]
  · simp [changeField, isClass]

/-- A text that is stored under a key is the text of this prop. -/
theorem text?_of_mem
    {key value : Text}
    {props : Props}
    (isField : (key, .text value) ∈ props.fields) :
    props.text? key = some value := by
  have isCanonical := props.canonical
  rw [Json.Value.isCanonical, Bool.and_eq_true, Json.Value.keysIncrease_iff_pairwise]
    at isCanonical
  rw [text?, Json.lookup?_of_mem isCanonical.1 isField]
  rfl

end Props

mutual

/-- The tree with other class values. -/
def Node.mapClassValues (attributes : List Text) (change : Text → Text) : Node → Node
  | .element kind tag props children processed =>
      .element kind tag (props.mapClassValues attributes change)
        (Child.mapClassValuesLists attributes change children) processed

/-- An optional list of children with other class values. -/
def Child.mapClassValuesLists (attributes : List Text) (change : Text → Text) :
    Option (List Child) → Option (List Child)
  | none => none
  | some children => some (Child.mapClassValuesAll attributes change children)

/-- A list of children with other class values. -/
def Child.mapClassValuesAll (attributes : List Text) (change : Text → Text) :
    List Child → List Child
  | [] => []
  | child :: rest =>
      Child.mapClassValues attributes change child ::
        Child.mapClassValuesAll attributes change rest

/-- A child with other class values; a text stays as it is. -/
def Child.mapClassValues (attributes : List Text) (change : Text → Text) : Child → Child
  | .node element => .node (Node.mapClassValues attributes change element)
  | .text text => .text text

end

section Composition

variable (attributes : List Text) (first second : Text → Text)

mutual

/-- Changing the class values twice is one change. -/
theorem Node.mapClassValues_mapClassValues :
    ∀ node : Node,
      (node.mapClassValues attributes first).mapClassValues attributes second =
        node.mapClassValues attributes (second ∘ first)
  | .element kind tag props children processed => by
      simp only [Node.mapClassValues, Props.mapClassValues_mapClassValues]
      rw [Child.mapClassValuesLists_mapClassValuesLists]

theorem Child.mapClassValuesLists_mapClassValuesLists :
    ∀ children : Option (List Child),
      Child.mapClassValuesLists attributes second
          (Child.mapClassValuesLists attributes first children) =
        Child.mapClassValuesLists attributes (second ∘ first) children
  | none => rfl
  | some children => by
      simp only [Child.mapClassValuesLists]
      rw [Child.mapClassValuesAll_mapClassValuesAll]

theorem Child.mapClassValuesAll_mapClassValuesAll :
    ∀ children : List Child,
      Child.mapClassValuesAll attributes second
          (Child.mapClassValuesAll attributes first children) =
        Child.mapClassValuesAll attributes (second ∘ first) children
  | [] => rfl
  | child :: rest => by
      simp only [Child.mapClassValuesAll]
      rw [Child.mapClassValues_mapClassValues, Child.mapClassValuesAll_mapClassValuesAll]

theorem Child.mapClassValues_mapClassValues :
    ∀ child : Child,
      (child.mapClassValues attributes first).mapClassValues attributes second =
        child.mapClassValues attributes (second ∘ first)
  | .node element => by
      simp only [Child.mapClassValues]
      rw [Node.mapClassValues_mapClassValues]
  | .text _ => rfl

end

end Composition

namespace Node

/-- The tree with all class values empty. -/
def withoutClassValues (attributes : List Text) (node : Node) : Node :=
  node.mapClassValues attributes fun _ => []

/-- The trees are the same but for their class values. -/
def SameButClassValues (attributes : List Text) (node other : Node) : Prop :=
  node.withoutClassValues attributes = other.withoutClassValues attributes

theorem sameButClassValues_mapClassValues
    (attributes : List Text)
    (change : Text → Text)
    (node : Node) :
    node.SameButClassValues attributes (node.mapClassValues attributes change) :=
  (mapClassValues_mapClassValues attributes change (fun _ => []) node).symm

end Node

end StyledMarkup
