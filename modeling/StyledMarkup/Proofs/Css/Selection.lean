import StyledMarkup.Css.Selection
import StyledMarkup.Proofs.Text.Occurrence
import Mathlib.Data.List.Forall2

namespace StyledMarkup.Css

open List

/-!
# Exactly the rules of the names

Selecting reads a stylesheet once, from its first rule to its last, and keeps
two lists.  After every rule, one of them holds the style rules that apply to
the names and the other one the media and supports rules that hold such rules,
each reduced to them.  Both keep the order of the stylesheet, and no other rule
gets into either.
-/

namespace Rule

/-- A style rule that declares something and has a name in the text of a selector. -/
inductive Applies (names : List Text) : Rule → Prop where
  | style
      {selectors : List Selector}
      {declarations : List Declaration}
      {rules : List Rule}
      {selector : Selector}
      {name : Text}
      (declares : declarations ≠ [])
      (isListed : selector ∈ selectors)
      (isName : name ∈ names)
      (occurs : name <:+: selector.print) :
      Applies names (.style selectors declarations rules)

/-- The answer of a style rule tells whether it applies to the names. -/
theorem belongsTo_iff
    {names : List Text}
    {selectors : List Selector}
    {declarations : List Declaration} :
    belongsTo names selectors declarations = true ↔
      declarations ≠ [] ∧
        ∃ selector ∈ selectors, ∃ name ∈ names, name <:+: selector.print := by
  unfold belongsTo
  cases declarations with
  | nil =>
      simp
  | cons first rest =>
      simp only [List.isEmpty_cons, Bool.false_eq_true, ↓reduceIte, selectorTexts,
        List.any_eq_true, List.mem_map, Text.occursIn_eq_true_iff]
      constructor
      · rintro ⟨name, isName, _, ⟨selector, isListed, rfl⟩, occurs⟩
        exact ⟨by simp, selector, isListed, name, isName, occurs⟩
      · rintro ⟨_, selector, isListed, name, isName, occurs⟩
        exact ⟨name, isName, selector.print, ⟨selector, isListed, rfl⟩, occurs⟩

/-- A rule applies to the names if and only if it is a style rule with that answer. -/
theorem applies_iff
    {names : List Text}
    {rule : Rule} :
    Applies names rule ↔ rule.belongs? names = some true := by
  constructor
  · rintro ⟨declares, isListed, isName, occurs⟩
    rw [belongs?, Option.some.injEq, belongsTo_iff]
    exact ⟨declares, _, isListed, _, isName, occurs⟩
  · intro answers
    cases rule with
    | style selectors declarations rules =>
        rw [belongs?, Option.some.injEq, belongsTo_iff] at answers
        obtain ⟨declares, selector, isListed, name, isName, occurs⟩ := answers
        exact .style declares isListed isName occurs
    | _ =>
        simp [belongs?] at answers

instance (names : List Text) (rule : Rule) : Decidable (Applies names rule) :=
  decidable_of_iff (rule.belongs? names = some true) applies_iff.symm

/-- Among rules, exactly those are selected that apply to the names. -/
theorem selectStyles_eq_filter
    (names : List Text)
    (rules : List Rule) :
    selectStyles names rules = rules.filter (Applies names) := by
  refine List.filter_congr fun rule _ => ?_
  rw [Bool.eq_iff_iff, decide_eq_true_iff, applies_iff]
  cases rule.belongs? names <;> simp

/-- A media or supports rule with a rule directly inside that applies to the names. -/
inductive Holds (names : List Text) : Rule → Prop where
  | media
      {queries : List MediaQuery}
      {rules : List Rule}
      {inner : Rule}
      (isInside : inner ∈ rules)
      (applies : Applies names inner) :
      Holds names (.media queries rules)
  | supports
      {condition : Condition}
      {rules : List Rule}
      {inner : Rule}
      (isInside : inner ∈ rules)
      (applies : Applies names inner) :
      Holds names (.supports condition rules)

/-- A media or supports rule and the same rule with only the rules that apply to the names. -/
inductive Reduces (names : List Text) : Rule → Rule → Prop where
  | media
      (queries : List MediaQuery)
      (rules : List Rule) :
      Reduces names (.media queries rules) (.media queries (rules.filter (Applies names)))
  | supports
      (condition : Condition)
      (rules : List Rule) :
      Reduces names (.supports condition rules)
        (.supports condition (rules.filter (Applies names)))

/-- The selected rules are missing exactly if no rule applies to the names. -/
theorem selectStyles_isEmpty_iff
    {names : List Text}
    {rules : List Rule} :
    (selectStyles names rules).isEmpty = true ↔ ∀ inner ∈ rules, ¬ Applies names inner := by
  rw [List.isEmpty_iff, selectStyles_eq_filter, List.filter_eq_nil_iff]
  simp

/-- If a rule inside applies to the names, something is selected inside. -/
theorem selectStyles_present
    {names : List Text}
    {rules : List Rule}
    {inner : Rule}
    (isInside : inner ∈ rules)
    (applies : Applies names inner) :
    (selectStyles names rules).isEmpty = false := by
  by_contra absent
  have empty : (selectStyles names rules).isEmpty = true := by
    simpa using absent
  exact selectStyles_isEmpty_iff.mp empty inner isInside applies

/-- What is left of a rule is the rule reduced to what applies, if there is anything. -/
theorem selectInside?_eq_some
    {names : List Text}
    {rule : Rule}
    (holds : Holds names rule) :
    ∃ reduced, rule.selectInside? names = some reduced ∧ Reduces names rule reduced := by
  cases holds with
  | @media queries rules inner isInside applies =>
      have present := selectStyles_present isInside applies
      refine ⟨.media queries (rules.filter (Applies names)), ?_, .media queries rules⟩
      simp only [selectInside?, present]
      simp [selectStyles_eq_filter]
  | @supports condition rules inner isInside applies =>
      have present := selectStyles_present isInside applies
      refine ⟨.supports condition (rules.filter (Applies names)), ?_,
        .supports condition rules⟩
      simp only [selectInside?, present]
      simp [selectStyles_eq_filter]

/-- Nothing is left of a rule that holds no rule for the names. -/
theorem selectInside?_eq_none
    {names : List Text}
    {rule : Rule}
    (holdsNone : ¬ Holds names rule) :
    rule.selectInside? names = none := by
  cases rule with
  | media queries rules =>
      have absent : (selectStyles names rules).isEmpty = true := by
        rw [selectStyles_isEmpty_iff]
        exact fun _ isInside applies => holdsNone (.media isInside applies)
      simp [selectInside?, absent]
  | supports condition rules =>
      have absent : (selectStyles names rules).isEmpty = true := by
        rw [selectStyles_isEmpty_iff]
        exact fun _ isInside applies => holdsNone (.supports isInside applies)
      simp [selectInside?, absent]
  | _ =>
      rfl

instance (names : List Text) (rule : Rule) : Decidable (Holds names rule) :=
  decidable_of_iff ((rule.selectInside? names).isSome = true) (by
    constructor
    · intro isSome
      by_contra holdsNone
      simp [selectInside?_eq_none holdsNone] at isSome
    · intro holds
      obtain ⟨reduced, isLeft, _⟩ := selectInside?_eq_some holds
      simp [isLeft])

/-- A rule that applies to the names is a style rule and holds nothing by itself. -/
theorem Applies.not_holds
    {names : List Text}
    {rule : Rule}
    (applies : Applies names rule) :
    ¬ Holds names rule := by
  cases applies
  intro holds
  cases holds

/-- A rule that holds rules for the names has no answer of its own. -/
theorem Holds.belongs?_eq_none
    {names : List Text}
    {rule : Rule}
    (holds : Holds names rule) :
    rule.belongs? names = none := by
  cases holds <;> rfl

end Rule

namespace Selection

open Rule

/-- The selection holds what the names have in the rules that have been read. -/
structure Covers (names : List Text) (seen : List Rule) (selection : Selection) : Prop where
  styles : selection.styles = seen.filter (Applies names)
  containers : List.Forall₂ (Reduces names) (seen.filter (Holds names)) selection.containers

/-- Before the first rule nothing is selected. -/
theorem covers_nil
    (names : List Text) :
    Covers names [] .empty :=
  ⟨rfl, .nil⟩

/-- One more rule that is read brings in itself, or what is left of it, or nothing. -/
theorem Covers.add
    {names : List Text}
    {seen : List Rule}
    {selection : Selection}
    (covers : Covers names seen selection)
    (rule : Rule) :
    Covers names (seen ++ [rule]) (selection.add names rule) := by
  by_cases applies : Applies names rule
  · have added :
        selection.add names rule =
          { selection with styles := selection.styles ++ [rule] } := by
      simp only [Selection.add, applies_iff.mp applies]
    rw [added]
    constructor
    · simp [covers.styles, applies]
    · simpa [applies.not_holds] using covers.containers
  · by_cases holds : Holds names rule
    · obtain ⟨reduced, isLeft, reduces⟩ := selectInside?_eq_some holds
      have added :
          selection.add names rule =
            { selection with containers := selection.containers ++ [reduced] } := by
        simp only [Selection.add, holds.belongs?_eq_none, isLeft]
      rw [added]
      constructor
      · simp [covers.styles, applies]
      · simpa [holds] using
          List.rel_append covers.containers (.cons reduces .nil)
    · have unchanged : selection.add names rule = selection := by
        have refused : rule.belongs? names ≠ some true :=
          fun answers => applies (applies_iff.mpr answers)
        unfold Selection.add
        split
        · contradiction
        · rfl
        · rw [selectInside?_eq_none holds]
      rw [unchanged]
      constructor
      · simp [covers.styles, applies]
      · simpa [holds] using covers.containers

/-- Reading further rules keeps the selection complete and free of other rules. -/
theorem Covers.foldl_add
    {names : List Text}
    {seen : List Rule}
    {selection : Selection}
    (covers : Covers names seen selection)
    (rules : List Rule) :
    Covers names (seen ++ rules) (rules.foldl (Selection.add names) selection) := by
  induction rules generalizing seen selection with
  | nil =>
      simpa using covers
  | cons rule rest inductionHypothesis =>
      simpa using inductionHypothesis (covers.add rule)

end Selection

/--
Selecting leaves exactly the style rules that apply to the names, and after
them exactly the media and supports rules that hold such rules, reduced to
them; both stand in the order of the stylesheet.
-/
theorem Stylesheet.select_leaves_exactly
    (names : List Text)
    (sheet : Stylesheet) :
    (sheet.select names).comments = sheet.comments ∧
      ∃ containers,
        (sheet.select names).rules =
            sheet.rules.filter (Rule.Applies names) ++ containers ∧
          List.Forall₂ (Rule.Reduces names)
            (sheet.rules.filter (Rule.Holds names)) containers := by
  have covers := (Selection.covers_nil names).foldl_add sheet.rules
  rw [List.nil_append] at covers
  refine ⟨rfl, _, ?_, covers.containers⟩
  rw [← covers.styles]
  rfl

end StyledMarkup.Css
