import StyledMarkup.Proofs.Css.Reselection

namespace StyledMarkup.Css

open List

/-!
# Rules with a class selector of a name

The text of a selector has the text of each class selector in it, however deep
that one stands in arguments.  There the name is written with escapes, while
rules are selected by the name itself.  A rule with a class selector of a name
is therefore selected whenever this name occurs in the text of its class
selector, as all names do that need no escapes; a name that does not occur
there misses the rule that has nothing but this class selector.
-/

/-! ## Names without escapes -/

/-- A name in which every character may stand where it stands. -/
structure NeedsNoEscape (name : Text) : Prop where
  nameChars : ∀ c ∈ name, isNameChar c = true
  notHyphen : name ≠ ['-']
  noDigit : name.head?.any Char.isDigit = false
  noDigitBehind : name.head? = some '-' → name.tail.head?.any Char.isDigit = false

instance (name : Text) : Decidable (NeedsNoEscape name) :=
  decidable_of_iff
    (name.all isNameChar = true ∧ name ≠ ['-'] ∧ name.head?.any Char.isDigit = false ∧
      (name.head? = some '-' → name.tail.head?.any Char.isDigit = false))
    ⟨fun ⟨nameChars, notHyphen, noDigit, noDigitBehind⟩ =>
        ⟨by simpa using nameChars, notHyphen, noDigit, noDigitBehind⟩,
      fun ⟨nameChars, notHyphen, noDigit, noDigitBehind⟩ =>
        ⟨by simpa using nameChars, notHyphen, noDigit, noDigitBehind⟩⟩

theorem nameText_of_nameChars
    {name : Text}
    (nameChars : ∀ c ∈ name, isNameChar c = true) :
    nameText name = name := by
  induction name with
  | nil =>
      rfl
  | cons first rest inductionHypothesis =>
      rw [List.forall_mem_cons] at nameChars
      rw [nameText, List.flatMap_cons, ← nameText, inductionHypothesis nameChars.2,
        nameCharText, if_pos nameChars.1, List.singleton_append]

theorem startedNameText_of_nameChars
    {name : Text}
    (nameChars : ∀ c ∈ name, isNameChar c = true)
    (noDigit : name.head?.any Char.isDigit = false) :
    startedNameText name = name := by
  cases name with
  | nil =>
      rfl
  | cons first rest =>
      have notDigit : ¬ first.isDigit = true := by
        simpa using noDigit
      rw [startedNameText, if_neg notDigit, nameText_of_nameChars nameChars]

/-- A name that needs no escape is written as it is. -/
theorem NeedsNoEscape.identText_eq
    {name : Text}
    (needsNoEscape : NeedsNoEscape name) :
    identText name = name := by
  obtain ⟨nameChars, notHyphen, noDigit, noDigitBehind⟩ := needsNoEscape
  unfold identText
  split
  · rfl
  · simp only [List.forall_mem_cons] at nameChars
    rw [nameText_of_nameChars nameChars.2.2]
  · exact absurd rfl notHyphen
  · rw [List.forall_mem_cons] at nameChars
    rw [startedNameText_of_nameChars nameChars.2]
    apply noDigitBehind
    rfl
  · exact startedNameText_of_nameChars nameChars noDigit

/-! ## Class selectors in selectors -/

mutual

/-- A simple selector is the class selector of the name, or has it in its arguments. -/
inductive Simple.HasClass (name : Text) : Simple → Prop where
  | itself :
      Simple.HasClass name (.className name)
  | inArguments
      {function : Text}
      {arguments : List Selector}
      {selector : Selector}
      (isListed : selector ∈ arguments)
      (hasClass : Selector.HasClass name selector) :
      Simple.HasClass name (.withSelectors function arguments)
  | inPosition
      {function : Text}
      {step offset : Int}
      {among : List Selector}
      {selector : Selector}
      (isListed : selector ∈ among)
      (hasClass : Selector.HasClass name selector) :
      Simple.HasClass name (.nth function step offset (some among))

/-- A selector has the class selector of the name in one of its compounds. -/
inductive Selector.HasClass (name : Text) : Selector → Prop where
  | inCompound
      {steps : List Step}
      {relation : Option Combinator}
      {compound : List Simple}
      {simple : Simple}
      (isStep : .mk relation compound ∈ steps)
      (isPart : simple ∈ compound)
      (hasClass : Simple.HasClass name simple) :
      Selector.HasClass name (.chain steps)

end

/-- A selector with a class selector in it is not left out of a compound. -/
theorem Simple.HasClass.isSilent_eq
    {name : Text}
    {simple : Simple}
    (hasClass : simple.HasClass name) :
    simple.isSilent = false := by
  cases hasClass <;> rfl

namespace Selector

/-- A compound has the text of each of its simple selectors that is not silent. -/
theorem printSimple_infix_printCompound
    {compound : List Simple}
    {simple : Simple}
    (isPart : simple ∈ compound)
    (isHeard : simple.isSilent = false)
    (keepsSilent : Bool) :
    printSimple simple <:+: printCompound keepsSilent compound := by
  induction compound with
  | nil =>
      simp at isPart
  | cons first rest inductionHypothesis =>
      rw [printCompound]
      rcases List.mem_cons.mp isPart with isFirst | inRest
      · subst simple
        rw [isHeard, Bool.and_false, if_neg Bool.false_ne_true]
        exact (List.prefix_append _ _).isInfix
      · split_ifs
        · exact inductionHypothesis inRest
        · exact (inductionHypothesis inRest).trans (List.suffix_append _ _).isInfix

/-- A chain has the text of each simple selector in it that is not silent. -/
theorem printSimple_infix_printSteps
    {steps : List Step}
    {relation : Option Combinator}
    {compound : List Simple}
    {simple : Simple}
    (isStep : .mk relation compound ∈ steps)
    (isPart : simple ∈ compound)
    (isHeard : simple.isSilent = false)
    (isFirst : Bool) :
    printSimple simple <:+: printSteps isFirst steps := by
  induction steps generalizing isFirst with
  | nil =>
      simp at isStep
  | cons step rest inductionHypothesis =>
      rw [printSteps]
      rcases List.mem_cons.mp isStep with isHere | inRest
      · subst step
        have inCompound := printSimple_infix_printCompound isPart isHeard
          (Css.keepsSilent isFirst (nextRelation? rest) compound)
        rw [printStep]
        exact (inCompound.trans (List.suffix_append _ _).isInfix).trans
          (List.prefix_append _ _).isInfix
      · exact (inductionHypothesis inRest _).trans (List.suffix_append _ _).isInfix

/-- A printed list has the text of each of its selectors. -/
theorem print_infix_printList
    {selectors : List Selector}
    {selector : Selector}
    (isListed : selector ∈ selectors) :
    selector.print <:+: printList selectors := by
  induction selectors with
  | nil =>
      simp at isListed
  | cons first rest inductionHypothesis =>
      rcases List.mem_cons.mp isListed with isFirst | inRest
      · subst selector
        cases rest <;> exact (List.prefix_append _ _).isInfix
      · cases rest with
        | nil =>
            simp at inRest
        | cons second more =>
            have behind :
                printList (second :: more) <:+ printList (first :: second :: more) :=
              ((List.suffix_cons _ _).trans (List.suffix_cons _ _)).trans
                (List.suffix_append first.print _)
            exact (inductionHypothesis inRest).trans behind.isInfix

end Selector

mutual

/-- The text of a simple selector has the text of each class selector in it. -/
theorem Simple.HasClass.infix_printSimple
    {name : Text} :
    ∀ {simple : Simple}, simple.HasClass name →
      '.' :: identText name <:+: Selector.printSimple simple
  | _, .itself => List.infix_refl _
  | .withSelectors function arguments, .inArguments isListed hasClass => by
      have inList := hasClass.infix_print.trans (Selector.print_infix_printList isListed)
      rw [Selector.printSimple]
      split_ifs
      · exact inList
      · exact inList.trans ⟨function ++ ['('], [')'], by simp⟩
  | .nth function step offset (some _), .inPosition isListed hasClass => by
      have inList := hasClass.infix_print.trans (Selector.print_infix_printList isListed)
      rw [Selector.printSimple]
      exact inList.trans
        ⟨function ++ '(' :: positionsText step offset ++ Text.of " of ", [')'], by simp⟩

/-- The text of a selector has the text of each class selector in it. -/
theorem Selector.HasClass.infix_print
    {name : Text} :
    ∀ {selector : Selector}, selector.HasClass name →
      '.' :: identText name <:+: selector.print
  | .chain _, .inCompound isStep isPart hasClass =>
      hasClass.infix_printSimple.trans
        (Selector.printSimple_infix_printSteps isStep isPart hasClass.isSilent_eq true)

end

/-! ## Rules -/

namespace Rule

/-- A style rule that declares something and has a class selector of the name. -/
inductive Targets (name : Text) : Rule → Prop where
  | style
      {selectors : List Selector}
      {declarations : List Declaration}
      {rules : List Rule}
      {selector : Selector}
      (declares : declarations ≠ [])
      (isListed : selector ∈ selectors)
      (hasClass : selector.HasClass name) :
      Targets name (.style selectors declarations rules)

/-- A rule is selected for the names, at the top of a stylesheet and directly inside of others. -/
structure Stays (names : List Text) (rule : Rule) : Prop where
  answers : rule.belongs? names = some true
  at_top : ∀ sheet : Stylesheet, rule ∈ sheet.rules → rule ∈ (sheet.select names).rules
  in_media :
    ∀ (sheet : Stylesheet) (queries : List MediaQuery) (rules : List Rule),
      .media queries rules ∈ sheet.rules → rule ∈ rules →
        ∃ kept, .media queries kept ∈ (sheet.select names).rules ∧ rule ∈ kept
  in_supports :
    ∀ (sheet : Stylesheet) (condition : Condition) (rules : List Rule),
      .supports condition rules ∈ sheet.rules → rule ∈ rules →
        ∃ kept, .supports condition kept ∈ (sheet.select names).rules ∧ rule ∈ kept

/-- A rule that applies to the names is selected wherever it may stand. -/
theorem Applies.stays
    {names : List Text}
    {rule : Rule}
    (applies : Applies names rule) :
    Stays names rule := by
  have isKept {rules : List Rule} (isInside : rule ∈ rules) :
      rule ∈ rules.filter (Applies names) := by
    simp [isInside, applies]
  constructor
  · exact applies_iff.mp applies
  · intro sheet isRule
    apply Stylesheet.mem_select_iff.mpr
    exact Or.inl ⟨isRule, applies⟩
  · intro sheet queries rules isContainer isInside
    refine ⟨_, ?_, isKept isInside⟩
    apply Stylesheet.mem_select_iff.mpr
    refine Or.inr ⟨_, isContainer, ?_⟩
    rw [insideWhere?, passing?_of_mem isInside applies, Option.map_some]
  · intro sheet condition rules isContainer isInside
    refine ⟨_, ?_, isKept isInside⟩
    apply Stylesheet.mem_select_iff.mpr
    refine Or.inr ⟨_, isContainer, ?_⟩
    rw [insideWhere?, passing?_of_mem isInside applies, Option.map_some]

/-- A rule with a class selector of a name applies to it if the name occurs in that selector. -/
theorem Targets.applies
    {name : Text}
    (occurs : name <:+: '.' :: identText name)
    {names : List Text}
    (isName : name ∈ names)
    {rule : Rule}
    (targets : Targets name rule) :
    Applies names rule := by
  obtain ⟨declares, isListed, hasClass⟩ := targets
  exact .style declares isListed isName (occurs.trans hasClass.infix_print)

theorem targets_ofClass
    (name : Text) :
    Targets name (ofClass name) :=
  .style (by simp) (List.mem_singleton.mpr rfl)
    (.inCompound (List.mem_singleton.mpr rfl) (List.mem_singleton.mpr rfl) .itself)

/-- The selector that is the class selector of a name and nothing else. -/
def selectorOfClass (name : Text) : Selector := .chain [.mk none [.className name]]

theorem print_selectorOfClass
    (name : Text) :
    (selectorOfClass name).print = '.' :: identText name := by
  simp [selectorOfClass, Selector.print, Selector.printSteps, Selector.printStep,
    Selector.printCompound, Selector.printSimple, Simple.isSilent]

/-- A rule with one class selector is selected by the names that occur in its text. -/
theorem belongsTo_selectorOfClass_iff
    {name other : Text}
    {declarations : List Declaration} :
    belongsTo [other] [selectorOfClass name] declarations = true ↔
      declarations ≠ [] ∧ other <:+: '.' :: identText name := by
  simp only [belongsTo_iff, List.mem_singleton, exists_eq_left, print_selectorOfClass]

/--
All rules with a class selector of a name are selected for lists with the name,
at the top of stylesheets and directly inside of media and supports rules,
exactly if the name occurs in the text of its class selector.  Every name that
needs no escape does.  A rule that has only this class selector is refused for
a name that does not occur in it, and otherwise only if it declares nothing.
-/
theorem targets_stay_iff
    (name : Text) :
    ((∀ names, name ∈ names → ∀ rule, Targets name rule → Stays names rule) ↔
        name <:+: '.' :: identText name) ∧
      (NeedsNoEscape name → name <:+: '.' :: identText name) ∧
        ∀ (declarations : List Declaration) (rules : List Rule),
          (Rule.style [selectorOfClass name] declarations rules).belongs? [name] = some false ↔
            ¬ name <:+: '.' :: identText name ∨ declarations = [] := by
  refine ⟨⟨?_, ?_⟩, ?_, ?_⟩
  · intro allStay
    have stays := allStay [name] (List.mem_singleton.mpr rfl) (ofClass name) (targets_ofClass name)
    have answers := Option.some.inj stays.answers
    exact (belongsTo_selectorOfClass_iff.mp answers).2
  · intro occurs names isName rule targets
    exact (targets.applies occurs isName).stays
  · intro needsNoEscape
    rw [needsNoEscape.identText_eq]
    exact (List.suffix_cons _ _).isInfix
  · intro declarations rules
    rw [belongs?, Option.some.injEq, ← Bool.not_eq_true, belongsTo_selectorOfClass_iff]
    tauto

/-- A name with a hyphen in front, an underscore and a character beyond ASCII. -/
theorem targets_stay_iff_of_hyphened_name :
    let name := Text.of "-sc_é9"
    NeedsNoEscape name ∧
      ∀ names, name ∈ names → ∀ rule, Targets name rule → Stays names rule := by
  intro name
  have needsNoEscape : NeedsNoEscape name := by
    decide
  obtain ⟨stay_iff, occurs, -⟩ := targets_stay_iff name
  exact ⟨needsNoEscape, stay_iff.mpr (occurs needsNoEscape)⟩

/-- The rule for a name that is written with an escape is not selected for the name. -/
theorem select_misses_escaped_name :
    let name := Text.of "sc:x"
    Targets name (ofClass name) ∧
      (ofClass name).belongs? [name] = some false ∧
        (extract [name] (Text.of ".sc\\:x\x7ball:unset\x7d")).toOption = some [] ∧
          ¬ ∀ names, name ∈ names → ∀ rule, Targets name rule → Stays names rule := by
  intro name
  have refused : (ofClass name).belongs? [name] = some false := by
    decide +kernel
  refine ⟨targets_ofClass name, refused, by decide +kernel, ?_⟩
  intro allStay
  have stays := allStay [name] (List.mem_singleton.mpr rfl) (ofClass name) (targets_ofClass name)
  rw [stays.answers] at refused
  exact absurd refused (by decide)

end Rule

end StyledMarkup.Css
