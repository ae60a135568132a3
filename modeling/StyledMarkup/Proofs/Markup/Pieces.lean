import StyledMarkup.Markup
import StyledMarkup.Proofs.Tree.ClassValues

namespace StyledMarkup.Markup

open List

/-!
# Fixed pieces and class values

The markup of a tree consists of class values, each printed in quotes behind
its key, and of fixed pieces between them.  Other class values change the
former and none of the latter.
-/

/-- A piece of markup: a class attribute with its value, or text without class values. -/
inductive Piece where
  | fixed (text : Text)
  | classValue (key value : Text)
deriving DecidableEq, Repr

namespace Piece

/-- The printed piece. -/
def shown : Piece → Text
  | .fixed text => text
  | .classValue key value => key ++ '=' :: '"' :: escapeProp value ++ ['"']

/-- The piece with another value, if it has one. -/
def mapValue (change : Text → Text) : Piece → Piece
  | .fixed text => .fixed text
  | .classValue key value => .classValue key (change value)

end Piece

/-- The printed pieces, one after the other. -/
def joined (pieces : List Piece) : Text := pieces.flatMap Piece.shown

@[simp] theorem joined_nil : joined [] = [] := rfl

@[simp] theorem joined_cons
    (piece : Piece)
    (rest : List Piece) :
    joined (piece :: rest) = piece.shown ++ joined rest := by
  rw [joined, List.flatMap_cons, joined]

@[simp] theorem joined_append
    (left right : List Piece) :
    joined (left ++ right) = joined left ++ joined right := by
  rw [joined, List.flatMap_append, joined, joined]

/-- The piece of a prop. -/
def propPiece (attributes : List Text) : Text × Json.Value → Piece
  | (key, .text value) =>
      if attributes.contains key then .classValue key value
      else .fixed (key ++ '=' :: propValue (.text value))
  | (key, value) => .fixed (key ++ '=' :: propValue value)

/-- The pieces of the lines for props. -/
def propPieces (attributes : List Text) (indent : Text) (fields : List (Text × Json.Value)) :
    List Piece :=
  fields.flatMap fun field => [.fixed ('\n' :: indent), propPiece attributes field]

mutual

/-- The pieces of an element at a depth. -/
def elementPieces (attributes : List Text) (indent : Text) (depth : Nat) : Node → List Piece
  | .element _ tag props children _ =>
      let inside := optionalPieces attributes indent (depth + 1) children
      let opening :=
        if props.fields.isEmpty then [.fixed ('<' :: tag)]
        else
          .fixed ('<' :: tag) ::
            propPieces attributes (Text.repeated indent (depth + 1)) props.fields ++
              [.fixed ('\n' :: Text.repeated indent depth)]
      if inside.isEmpty then
        opening ++ [.fixed (if props.fields.isEmpty then Text.of " />" else Text.of "/>")]
      else
        opening ++ .fixed ['>'] :: inside ++
          [.fixed ('\n' :: Text.repeated indent depth ++ Text.of "</" ++ tag ++ ['>'])]

/-- The pieces of optional children. -/
def optionalPieces (attributes : List Text) (indent : Text) (depth : Nat) :
    Option (List Child) → List Piece
  | none => []
  | some children => linePieces attributes indent depth children

/-- The pieces of children, each on a line of its own. -/
def linePieces (attributes : List Text) (indent : Text) (depth : Nat) :
    List Child → List Piece
  | [] => []
  | child :: rest =>
      .fixed ('\n' :: Text.repeated indent depth) :: childPieces attributes indent depth child ++
        linePieces attributes indent depth rest

/-- The pieces of a child. -/
def childPieces (attributes : List Text) (indent : Text) (depth : Nat) : Child → List Piece
  | .node node => elementPieces attributes indent depth node
  | .text text => [.fixed (escapeText text)]

end

theorem shown_propPiece
    (attributes : List Text)
    (field : Text × Json.Value) :
    (propPiece attributes field).shown = field.1 ++ '=' :: propValue field.2 := by
  obtain ⟨key, value⟩ := field
  cases value with
  | text value =>
      by_cases isClass : key ∈ attributes
      · simp [propPiece, isClass, Piece.shown, propValue]
      · simp [propPiece, isClass, Piece.shown]
  | _ =>
      rfl

theorem joined_propPieces
    (attributes : List Text)
    (indent : Text)
    (fields : List (Text × Json.Value)) :
    joined (propPieces attributes indent fields) = propLines indent fields := by
  induction fields with
  | nil =>
      rfl
  | cons field rest inductionHypothesis =>
      rw [propPieces] at inductionHypothesis
      rw [propPieces, List.flatMap_cons, joined_append, inductionHypothesis, joined_cons,
        joined_cons, joined_nil, shown_propPiece, propLines]
      simp [Piece.shown]

/-- Children print something if and only if they have pieces. -/
theorem isEmpty_joined_optionalPieces
    (attributes : List Text)
    (indent : Text)
    (depth : Nat)
    (children : Option (List Child)) :
    (joined (optionalPieces attributes indent depth children)).isEmpty =
      (optionalPieces attributes indent depth children).isEmpty := by
  obtain _ | children := children
  · rfl
  · obtain _ | ⟨child, rest⟩ := children
    · rfl
    · simp [optionalPieces, linePieces, Piece.shown]

section Printing

variable (attributes : List Text) (indent : Text)

mutual

/-- The pieces of an element are its markup. -/
theorem joined_elementPieces :
    ∀ (node : Node) (depth : Nat),
      joined (elementPieces attributes indent depth node) = element indent depth node
  | .element kind tag props children processed, depth => by
      have inside := joined_optionalPieces children (depth + 1)
      have empty := isEmpty_joined_optionalPieces attributes indent (depth + 1) children
      rw [inside] at empty
      simp only [elementPieces, element, ← empty]
      split
      · -- Without children the element closes itself.
        split <;> simp [Piece.shown, joined_propPieces]
      · split <;> simp [Piece.shown, joined_propPieces, inside]

theorem joined_optionalPieces :
    ∀ (children : Option (List Child)) (depth : Nat),
      joined (optionalPieces attributes indent depth children) =
        optionalChildren indent depth children
  | none, _ => rfl
  | some children, depth => joined_linePieces children depth

theorem joined_linePieces :
    ∀ (children : List Child) (depth : Nat),
      joined (linePieces attributes indent depth children) = childLines indent depth children
  | [], _ => rfl
  | child :: rest, depth => by
      rw [linePieces, childLines, List.cons_append, joined_cons, joined_append,
        joined_childPieces child depth, joined_linePieces rest depth]
      simp [Piece.shown]

theorem joined_childPieces :
    ∀ (child : Child) (depth : Nat),
      joined (childPieces attributes indent depth child) = childText indent depth child
  | .node node, depth => joined_elementPieces node depth
  | .text text, _ => by
      simp [childPieces, childText, Piece.shown]

end

end Printing

theorem propPieces_map_changeField
    (attributes : List Text)
    (change : Text → Text)
    (indent : Text)
    (fields : List (Text × Json.Value)) :
    propPieces attributes indent (fields.map (Props.changeField attributes change)) =
      (propPieces attributes indent fields).map (Piece.mapValue change) := by
  rw [propPieces, propPieces, List.flatMap_map, List.map_flatMap]
  congr 1
  funext field
  obtain ⟨key, value⟩ := field
  by_cases isClass : key ∈ attributes
  · cases value <;> simp [Props.changeField, propPiece, isClass, Json.Value.mapText, Piece.mapValue]
  · cases value <;> simp [Props.changeField, propPiece, isClass, Piece.mapValue]

section Change

variable (attributes : List Text) (change : Text → Text) (indent : Text)

mutual

/-- Other class values change the values of the pieces. -/
theorem elementPieces_mapClassValues :
    ∀ (node : Node) (depth : Nat),
      elementPieces attributes indent depth (node.mapClassValues attributes change) =
        (elementPieces attributes indent depth node).map (Piece.mapValue change)
  | .element kind tag props children processed, depth => by
      have inside := optionalPieces_mapClassValuesLists children (depth + 1)
      have fields : (props.mapClassValues attributes change).fields =
          props.fields.map (Props.changeField attributes change) := rfl
      simp only [Node.mapClassValues, elementPieces, inside, fields, List.isEmpty_map,
        propPieces_map_changeField]
      split
      · split <;> simp [Piece.mapValue]
      · split <;> simp [Piece.mapValue]

theorem optionalPieces_mapClassValuesLists :
    ∀ (children : Option (List Child)) (depth : Nat),
      optionalPieces attributes indent depth
          (Child.mapClassValuesLists attributes change children) =
        (optionalPieces attributes indent depth children).map (Piece.mapValue change)
  | none, _ => rfl
  | some children, depth => linePieces_mapClassValuesAll children depth

theorem linePieces_mapClassValuesAll :
    ∀ (children : List Child) (depth : Nat),
      linePieces attributes indent depth (Child.mapClassValuesAll attributes change children) =
        (linePieces attributes indent depth children).map (Piece.mapValue change)
  | [], _ => rfl
  | child :: rest, depth => by
      rw [Child.mapClassValuesAll, linePieces, linePieces, childPieces_mapClassValues child depth,
        linePieces_mapClassValuesAll rest depth]
      simp [Piece.mapValue]

theorem childPieces_mapClassValues :
    ∀ (child : Child) (depth : Nat),
      childPieces attributes indent depth (child.mapClassValues attributes change) =
        (childPieces attributes indent depth child).map (Piece.mapValue change)
  | .node node, depth => elementPieces_mapClassValues node depth
  | .text _, _ => rfl

end

end Change

theorem mem_propPieces
    {attributes : List Text}
    {indent key value : Text}
    {fields : List (Text × Json.Value)}
    (isPiece : .classValue key value ∈ propPieces attributes indent fields) :
    key ∈ attributes ∧ (key, .text value) ∈ fields := by
  rw [propPieces, List.mem_flatMap] at isPiece
  obtain ⟨⟨name, stored⟩, isField, isPiece⟩ := isPiece
  have same : .classValue key value = propPiece attributes (name, stored) := by
    simpa using isPiece
  cases stored with
  | text written =>
      by_cases isClass : name ∈ attributes
      · rw [propPiece, if_pos (List.contains_iff_mem.mpr isClass), Piece.classValue.injEq] at same
        obtain ⟨rfl, rfl⟩ := same
        exact ⟨isClass, isField⟩
      · simp [propPiece, isClass] at same
  | _ =>
      simp [propPiece] at same

section Values

variable {attributes : List Text} {indent key value : Text}

mutual

/-- The values in the pieces are class values of elements. -/
theorem mem_elementPieces :
    ∀ (node : Node) (depth : Nat),
      .classValue key value ∈ elementPieces attributes indent depth node →
        key ∈ attributes ∧ ∃ element ∈ node.flatten, element.prop? key = some value
  | .element kind tag props children processed, depth => by
      intro isPiece
      have isBelow :
          .classValue key value ∈
              propPieces attributes (Text.repeated indent (depth + 1)) props.fields ∨
            .classValue key value ∈ optionalPieces attributes indent (depth + 1) children := by
        simp only [elementPieces] at isPiece
        split at isPiece
        · split at isPiece
          · simp at isPiece
          · exact Or.inl (by simpa using isPiece)
        · split at isPiece
          · exact Or.inr (by simpa using isPiece)
          · simpa using isPiece
      rw [Node.flatten, Node.visited, if_pos rfl]
      rcases isBelow with inProps | inside
      · obtain ⟨isClass, isField⟩ := mem_propPieces inProps
        exact ⟨isClass, _, List.mem_cons_self, Props.text?_of_mem isField⟩
      · obtain ⟨isClass, element, isElement, isProp⟩ :=
          mem_optionalPieces children (depth + 1) inside
        exact ⟨isClass, element, List.mem_cons_of_mem _ isElement, isProp⟩

theorem mem_optionalPieces :
    ∀ (children : Option (List Child)) (depth : Nat),
      .classValue key value ∈ optionalPieces attributes indent depth children →
        key ∈ attributes ∧
          ∃ element ∈ Child.visitedLists (fun _ => true) children, element.prop? key = some value
  | none, _ => by
      intro isPiece
      simp [optionalPieces] at isPiece
  | some children, depth => mem_linePieces children depth

theorem mem_linePieces :
    ∀ (children : List Child) (depth : Nat),
      .classValue key value ∈ linePieces attributes indent depth children →
        key ∈ attributes ∧
          ∃ element ∈ Child.visitedAll (fun _ => true) children, element.prop? key = some value
  | [], _ => by
      intro isPiece
      simp [linePieces] at isPiece
  | child :: rest, depth => by
      intro isPiece
      have isBelow :
          .classValue key value ∈ childPieces attributes indent depth child ∨
            .classValue key value ∈ linePieces attributes indent depth rest := by
        simpa [linePieces] using isPiece
      rw [Child.visitedAll]
      rcases isBelow with inChild | inRest
      · obtain ⟨isClass, element, isElement, isProp⟩ := mem_childPieces child depth inChild
        exact ⟨isClass, element, List.mem_append_left _ isElement, isProp⟩
      · obtain ⟨isClass, element, isElement, isProp⟩ := mem_linePieces rest depth inRest
        exact ⟨isClass, element, List.mem_append_right _ isElement, isProp⟩

theorem mem_childPieces :
    ∀ (child : Child) (depth : Nat),
      .classValue key value ∈ childPieces attributes indent depth child →
        key ∈ attributes ∧
          ∃ element ∈ Child.visited (fun _ => true) child, element.prop? key = some value
  | .node node, depth => mem_elementPieces node depth
  | .text text, _ => by
      intro isPiece
      simp [childPieces] at isPiece

end

end Values

end StyledMarkup.Markup
