import StyledMarkup.Markup
import StyledMarkup.Tree.Walk
import StyledMarkup.Proofs.Text.Replacement
import StyledMarkup.Proofs.Text.Splitting

namespace StyledMarkup

open List

/-!
# Where props are printed

The markup of a tree has the markup of each of its elements in it, and the
markup of an element has a line for each of its props.  A text value without
quotes and backslashes is therefore a part of the markup between two quotes,
right behind its prop.
-/

namespace Markup

/-- What is inside an element is printed in it. -/
theorem optionalChildren_infix_element
    (indent : Text)
    (depth : Nat)
    (kind : Kind)
    (tag : Text)
    (props : Props)
    (children : Option (List Child))
    (processed : Bool) :
    optionalChildren indent (depth + 1) children <:+:
      element indent depth (.element kind tag props children processed) := by
  have enclosed (opening inside closing : Text) :
      inside <:+: opening ++ '>' :: inside ++ closing :=
    ⟨opening ++ ['>'], closing, by simp⟩
  simp only [element]
  split
  · rename_i empty
    rw [List.isEmpty_iff.mp empty]
    exact List.nil_infix
  · rw [List.append_assoc, List.append_assoc, List.append_assoc]
    exact enclosed _ _ _

mutual

/-- The markup of a tree has the markup of each element that a walk visits. -/
theorem element_infix
    (indent : Text)
    (descend : Text → Bool)
    (inner : Node) :
    ∀ (node : Node) (depth : Nat), inner ∈ node.visited descend →
      ∃ innerDepth, element indent innerDepth inner <:+: element indent depth node
  | .element kind tag props children processed, depth => by
      intro member
      rw [Node.visited, List.mem_cons] at member
      rcases member with isThis | isBelow
      · exact ⟨depth, isThis ▸ List.infix_refl _⟩
      · split at isBelow
        · obtain ⟨innerDepth, occurs⟩ :=
            optionalChildren_infix indent descend inner children (depth + 1) isBelow
          exact ⟨innerDepth,
            occurs.trans (optionalChildren_infix_element indent depth kind tag props children _)⟩
        · simp at isBelow

/-- The markup of a list of children has the markup of each element that is visited. -/
theorem optionalChildren_infix
    (indent : Text)
    (descend : Text → Bool)
    (inner : Node) :
    ∀ (children : Option (List Child)) (depth : Nat),
      inner ∈ Child.visitedLists descend children →
        ∃ innerDepth, element indent innerDepth inner <:+: optionalChildren indent depth children
  | none, _ => by
      intro member
      simp [Child.visitedLists] at member
  | some children, depth => childLines_infix indent descend inner children depth

/-- The lines of children have the markup of each element that is visited. -/
theorem childLines_infix
    (indent : Text)
    (descend : Text → Bool)
    (inner : Node) :
    ∀ (children : List Child) (depth : Nat),
      inner ∈ Child.visitedAll descend children →
        ∃ innerDepth, element indent innerDepth inner <:+: childLines indent depth children
  | [], _ => by
      intro member
      simp [Child.visitedAll] at member
  | child :: rest, depth => by
      intro member
      rw [Child.visitedAll, List.mem_append] at member
      rw [childLines]
      rcases member with inChild | inRest
      · obtain ⟨innerDepth, occurs⟩ := childText_infix indent descend inner child depth inChild
        refine ⟨innerDepth, occurs.trans ?_⟩
        exact ⟨'\n' :: Text.repeated indent depth, childLines indent depth rest, by simp⟩
      · obtain ⟨innerDepth, occurs⟩ := childLines_infix indent descend inner rest depth inRest
        exact ⟨innerDepth, occurs.trans (List.suffix_append _ _).isInfix⟩

/-- The markup of a child has the markup of each element that is visited. -/
theorem childText_infix
    (indent : Text)
    (descend : Text → Bool)
    (inner : Node) :
    ∀ (child : Child) (depth : Nat),
      inner ∈ Child.visited descend child →
        ∃ innerDepth, element indent innerDepth inner <:+: childText indent depth child
  | .node node, depth => element_infix indent descend inner node depth
  | .text _, _ => by
      intro member
      simp [Child.visited] at member

end

/-- The lines of the props are printed in an element. -/
theorem propLines_infix_element
    (indent : Text)
    (depth : Nat)
    (node : Node) :
    propLines (Text.repeated indent (depth + 1)) node.props.fields <:+:
      element indent depth node := by
  obtain ⟨kind, tag, props, children, processed⟩ := node
  by_cases noProps : props.fields.isEmpty = true
  · rw [Node.props, List.isEmpty_iff.mp noProps]
    exact List.nil_infix
  · have inOpening (behind : Text) :
        propLines (Text.repeated indent (depth + 1)) props.fields <:+:
          '<' :: tag ++ propLines (Text.repeated indent (depth + 1)) props.fields ++
            '\n' :: Text.repeated indent depth ++ behind :=
      ⟨'<' :: tag, '\n' :: Text.repeated indent depth ++ behind, by simp⟩
    simp only [element, noProps, Bool.false_eq_true, ↓reduceIte, Node.props]
    split
    · exact inOpening _
    · simpa only [List.append_assoc] using inOpening _

/-- A prop is printed on a line of its own. -/
theorem prop_infix_propLines
    (indent : Text)
    {fields : List (Text × Json.Value)}
    {key : Text}
    {value : Json.Value}
    (isProp : Json.lookup? key fields = some value) :
    indent ++ key ++ '=' :: propValue value <:+: propLines indent fields := by
  induction fields with
  | nil =>
      simp [Json.lookup?] at isProp
  | cons first rest inductionHypothesis =>
      obtain ⟨other, otherValue⟩ := first
      rw [Json.lookup?] at isProp
      rw [propLines]
      split at isProp
      · rename_i same
        obtain rfl := Option.some.inj isProp
        subst other
        exact ⟨['\n'], propLines indent rest, by simp⟩
      · exact (inductionHypothesis isProp).trans (List.suffix_append _ _).isInfix

/-- A value without quotes and backslashes is printed as it is. -/
theorem escapeProp_of_plain
    {value : Text}
    (quoteFree : '"' ∉ value)
    (backslashFree : '\\' ∉ value) :
    escapeProp value = value := by
  have noBackslash : ¬ ['\\'] <:+: value :=
    fun occurs => backslashFree (occurs.subset (by simp))
  have noQuote : ¬ ['"'] <:+: value :=
    fun occurs => quoteFree (occurs.subset (by simp))
  rw [escapeProp, Text.replaceAll_of_absent noBackslash, Text.replaceAll_of_absent noQuote]

/-- Repeating a text once more puts it at the end as well. -/
theorem repeated_succ_eq_append
    (text : Text)
    (count : Nat) :
    Text.repeated text (count + 1) = Text.repeated text count ++ text := by
  induction count with
  | zero =>
      simp [Text.repeated]
  | succ previous inductionHypothesis =>
      simp only [Text.repeated] at inductionHypothesis ⊢
      rw [List.append_assoc, inductionHypothesis]

/-- A text prop of an element is printed behind a space, in quotes. -/
theorem prop_infix_print
    {node element : Node}
    (isElement : element ∈ node.flatten)
    {key value : Text}
    (isProp : element.prop? key = some value)
    (quoteFree : '"' ∉ value)
    (backslashFree : '\\' ∉ value) :
    ' ' :: key ++ '=' :: '"' :: value ++ ['"'] <:+: print node := by
  obtain ⟨depth, inTree⟩ := element_infix [' ', ' '] _ element node 0 isElement
  have isField : Json.lookup? key element.props.fields = some (.text value) := by
    rw [Node.prop?, Props.text?, Option.bind_eq_some_iff] at isProp
    obtain ⟨found, isFound, isText⟩ := isProp
    cases found with
    | text found =>
        rw [isFound, ← Option.some.inj isText]
    | _ =>
        simp [Json.Value.text?] at isText
  have line := prop_infix_propLines (Text.repeated [' ', ' '] (depth + 1)) isField
  have behindSpace :
      ' ' :: key ++ '=' :: '"' :: value ++ ['"'] <:+:
        Text.repeated [' ', ' '] (depth + 1) ++ key ++ '=' :: propValue (.text value) := by
    rw [propValue, escapeProp_of_plain quoteFree backslashFree, repeated_succ_eq_append]
    exact ⟨Text.repeated [' ', ' '] depth ++ [' '], [], by simp⟩
  exact ((behindSpace.trans line).trans (propLines_infix_element _ depth element)).trans inTree

/-- In a text the value stands behind the key and the quote of this number. -/
structure ValueAt (key value text : Text) (index : Nat) : Prop where
  opening :
    ∃ front, (Text.splitOn '"' text)[index]? = some front ∧ ' ' :: key ++ ['='] <:+ front
  value : (Text.splitOn '"' text)[index + 1]? = some value

/-- Behind a key and a quote only one value stands. -/
theorem ValueAt.unique
    {key first second text : Text}
    {index : Nat}
    (isFirst : ValueAt key first text index)
    (isSecond : ValueAt key second text index) :
    first = second :=
  Option.some.inj (isFirst.value.symm.trans isSecond.value)

/-- A key with a value in quotes is found behind some quote. -/
theorem exists_valueAt
    {key value text : Text}
    (keyQuoteFree : '"' ∉ key)
    (valueQuoteFree : '"' ∉ value)
    (occurs : ' ' :: key ++ '=' :: '"' :: value ++ ['"'] <:+: text) :
    ∃ index, ValueAt key value text index := by
  obtain ⟨left, right, shape⟩ := occurs
  have openingQuoteFree : '"' ∉ ' ' :: key ++ ['='] := by
    simp [keyQuoteFree]
  obtain ⟨parts, last, front⟩ := Text.exists_splitOn_append openingQuoteFree left
  have split :
      Text.splitOn '"' text =
        parts ++ (last ++ (' ' :: key ++ ['='])) :: value :: Text.splitOn '"' right := by
    calc
      Text.splitOn '"' text
        = Text.splitOn '"'
            ((left ++ (' ' :: key ++ ['='])) ++ '"' :: (value ++ '"' :: right)) := by
          rw [← shape]
          simp
      _ = (parts ++ [last ++ (' ' :: key ++ ['='])]) ++
            value :: Text.splitOn '"' right := by
          rw [Text.splitOn_append_cons, front, Text.splitOn_append_separator valueQuoteFree]
      _ = _ := by
          simp
  refine ⟨parts.length, ⟨last ++ (' ' :: key ++ ['=']), ?_, List.suffix_append _ _⟩, ?_⟩
  · simp [split]
  · rw [split, List.getElem?_append_right (by omega)]
    simp

end Markup

end StyledMarkup
