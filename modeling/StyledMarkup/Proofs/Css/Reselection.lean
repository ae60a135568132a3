import StyledMarkup.Proofs.Css.Selection

namespace StyledMarkup.Css

open List

/-!
# Selecting more than once

What is left after rules have been selected for some names can be selected
from again.  Whatever has been moved behind the style rules or taken out of a
media or supports rule before, the result is the same as if the rules had been
selected once, by all the tests together.
-/

namespace Rule

/-! ## Selecting by a test -/

/-- The rules that pass a test, if there are any. -/
def passing? (passes : Rule → Prop) [DecidablePred passes] (rules : List Rule) :
    Option (List Rule) :=
  if (rules.filter passes).isEmpty then none else some (rules.filter passes)

/-- A media or supports rule with only the rules inside that pass a test, if there are any. -/
def insideWhere? (passes : Rule → Prop) [DecidablePred passes] : Rule → Option Rule
  | .media queries rules => (passing? passes rules).map (.media queries)
  | .supports condition rules => (passing? passes rules).map (.supports condition)
  | _ => none

/--
The rules that pass a test, and after them the media and supports rules that
hold such rules directly, reduced to them.
-/
def selectWhere (passes : Rule → Prop) [DecidablePred passes] (rules : List Rule) : List Rule :=
  rules.filter passes ++ rules.filterMap (insideWhere? passes)

/-- Only style rules pass the test. -/
def TestsStyles (passes : Rule → Prop) : Prop :=
  ∀ rule, passes rule →
    ∃ selectors declarations rules, rule = .style selectors declarations rules

section Tests

variable {passes others : Rule → Prop} [DecidablePred passes] [DecidablePred others]

/-- Tests with the same answers select the same rules. -/
theorem selectWhere_congr
    (same : ∀ rule, passes rule ↔ others rule)
    (rules : List Rule) :
    selectWhere passes rules = selectWhere others rules := by
  obtain rfl : passes = others := funext fun rule => propext (same rule)
  congr

/-- The rules that pass one test and then another one pass both. -/
theorem filter_filter_eq
    (rules : List Rule) :
    (rules.filter passes).filter others =
      rules.filter fun rule => passes rule ∧ others rule := by
  rw [List.filter_filter]
  refine List.filter_congr fun rule _ => ?_
  rw [Bool.decide_and, Bool.and_comm]

theorem passing?_bind
    (rules : List Rule) :
    (passing? passes rules).bind (passing? others) =
      passing? (fun rule => passes rule ∧ others rule) rules := by
  rw [passing?, passing?, ← filter_filter_eq]
  by_cases isEmpty : (rules.filter passes).isEmpty = true
  · simp [List.isEmpty_iff.mp isEmpty]
  · simp [isEmpty, passing?]

theorem passing?_of_mem
    {rules : List Rule}
    {rule : Rule}
    (isInside : rule ∈ rules)
    (passesTest : passes rule) :
    passing? passes rules = some (rules.filter passes) := by
  have isLeft : rule ∈ rules.filter passes := by
    simp [isInside, passesTest]
  rw [passing?, if_neg]
  simpa using List.ne_nil_of_mem isLeft

/-- What is left inside by one test and then by another one has passed both. -/
theorem insideWhere?_bind
    (rule : Rule) :
    (insideWhere? passes rule).bind (insideWhere? others) =
      insideWhere? (fun rule => passes rule ∧ others rule) rule := by
  cases rule with
  | media queries rules =>
      rw [insideWhere?, insideWhere?, ← passing?_bind, Option.bind_map, Option.map_bind]
      rfl
  | supports condition rules =>
      rw [insideWhere?, insideWhere?, ← passing?_bind, Option.bind_map, Option.map_bind]
      rfl
  | _ =>
      rfl

/-- What is left of a media or supports rule is no style rule. -/
theorem insideWhere?_ne_style
    (rule : Rule)
    (selectors : List Selector)
    (declarations : List Declaration)
    (rules : List Rule) :
    insideWhere? passes rule ≠ some (.style selectors declarations rules) := by
  cases rule <;> simp [insideWhere?]

/-- Selecting by one test and then by another one is selecting once by both. -/
theorem selectWhere_selectWhere
    (testsStyles : TestsStyles passes)
    (othersTestStyles : TestsStyles others)
    (rules : List Rule) :
    selectWhere others (selectWhere passes rules) =
      selectWhere (fun rule => passes rule ∧ others rule) rules := by
  have noStyles : (rules.filterMap (insideWhere? passes)).filter others = [] := by
    rw [List.filter_eq_nil_iff]
    intro rule isLeft
    obtain ⟨container, -, isReduced⟩ := List.mem_filterMap.mp isLeft
    rw [decide_eq_true_iff]
    intro passesOther
    obtain ⟨selectors, declarations, inner, rfl⟩ := othersTestStyles rule passesOther
    exact insideWhere?_ne_style _ _ _ _ isReduced
  have noContainers : (rules.filter passes).filterMap (insideWhere? others) = [] := by
    rw [List.filterMap_eq_nil_iff]
    intro rule isKept
    obtain ⟨selectors, declarations, inner, rfl⟩ :=
      testsStyles rule (by simpa using (List.mem_filter.mp isKept).2)
    rfl
  calc
    selectWhere others (selectWhere passes rules) =
        (rules.filter passes).filter others ++
          (rules.filterMap (insideWhere? passes)).filterMap (insideWhere? others) := by
      simp only [selectWhere, List.filter_append, List.filterMap_append, noStyles, noContainers,
        List.append_nil, List.nil_append]
    _ = selectWhere (fun rule => passes rule ∧ others rule) rules := by
      simp only [selectWhere, filter_filter_eq, List.filterMap_filterMap, insideWhere?_bind]

end Tests

/-! ## Selecting by names -/

/-- Only style rules apply to names. -/
theorem testsStyles_applies
    (names : List Text) :
    TestsStyles (Applies names) := by
  rintro rule ⟨_, _, _, _⟩
  exact ⟨_, _, _, rfl⟩

/-- What is left inside for the names are the rules that apply to the names. -/
theorem selectInside?_eq_insideWhere?
    (names : List Text)
    (rule : Rule) :
    rule.selectInside? names = insideWhere? (Applies names) rule := by
  cases rule with
  | media queries rules =>
      simp only [selectInside?, insideWhere?, passing?, selectStyles_eq_filter]
      split_ifs <;> rfl
  | supports condition rules =>
      simp only [selectInside?, insideWhere?, passing?, selectStyles_eq_filter]
      split_ifs <;> rfl
  | _ =>
      rfl

/-- What a rule reduces to for the names is what is left of it. -/
theorem Reduces.selectInside?_eq
    {names : List Text}
    {rule reduced : Rule}
    (reduces : Reduces names rule reduced)
    (holds : Holds names rule) :
    rule.selectInside? names = some reduced := by
  obtain ⟨other, isLeft, otherReduces⟩ := selectInside?_eq_some holds
  cases reduces <;> cases otherReduces <;> exact isLeft

/-- The rules that hold rules for the names are, one by one, what is left of the rules. -/
theorem filterMap_selectInside?_eq
    {names : List Text}
    {rules containers : List Rule}
    (reduced : List.Forall₂ (Reduces names) (rules.filter (Holds names)) containers) :
    rules.filterMap (selectInside? names) = containers := by
  induction rules generalizing containers with
  | nil =>
      simpa using reduced
  | cons rule rest inductionHypothesis =>
      by_cases holds : Holds names rule
      · rw [List.filter_cons_of_pos (by simpa using holds)] at reduced
        obtain ⟨first, others, reduces, reducedRest, rfl⟩ := List.forall₂_cons_left_iff.mp reduced
        rw [List.filterMap_cons_some (reduces.selectInside?_eq holds),
          inductionHypothesis reducedRest]
      · rw [List.filter_cons_of_neg (by simpa using holds)] at reduced
        rw [List.filterMap_cons_none (selectInside?_eq_none holds), inductionHypothesis reduced]

/-- The rules that are selected for the names are those that apply to the names. -/
theorem selectAll_eq_selectWhere
    (names : List Text)
    (rules : List Rule) :
    selectAll names rules = selectWhere (Applies names) rules := by
  have covers := (Selection.covers_nil names).foldl_add rules
  rw [List.nil_append] at covers
  have containers := filterMap_selectInside?_eq covers.containers
  rw [selectAll, Selection.rules, covers.styles, ← containers, selectWhere]
  simp only [selectInside?_eq_insideWhere?]

/-- A rule that applies to some names applies to others that are parts of them. -/
theorem Applies.of_parts
    {names parts : List Text}
    (areParts : ∀ name ∈ names, ∃ part ∈ parts, part <:+: name)
    {rule : Rule}
    (applies : Applies names rule) :
    Applies parts rule := by
  obtain ⟨declares, isListed, isName, occurs⟩ := applies
  obtain ⟨part, isPart, inName⟩ := areParts _ isName
  exact .style declares isListed isPart (inName.trans occurs)

/-- Names among others select no rule that the others do not select. -/
theorem Applies.of_subset
    {names others : List Text}
    (subset : names ⊆ others)
    {rule : Rule}
    (applies : Applies names rule) :
    Applies others rule :=
  applies.of_parts fun name isName => ⟨name, subset isName, List.infix_refl name⟩

/-- A style rule with one class selector and one declaration. -/
def ofClass (name : Text) : Rule :=
  .style [.chain [.mk none [.className name]]]
    [⟨Text.of "all", .one (Text.of "unset"), false⟩] []

end Rule

namespace Stylesheet

/-- A selected rule is a rule that applies to the names, or what is left of one that holds some. -/
theorem mem_select_iff
    {names : List Text}
    {sheet : Stylesheet}
    {rule : Rule} :
    rule ∈ (sheet.select names).rules ↔
      rule ∈ sheet.rules ∧ rule.Applies names ∨
        ∃ container ∈ sheet.rules,
          Rule.insideWhere? (Rule.Applies names) container = some rule := by
  rw [select, Rule.selectAll_eq_selectWhere, Rule.selectWhere, List.mem_append,
    List.mem_filterMap, List.mem_filter, decide_eq_true_iff]

/-- Selecting twice is selecting the rules that apply to both lists of names. -/
theorem select_select
    (first second : List Text)
    (sheet : Stylesheet) :
    (sheet.select first).select second =
      { sheet with
        rules :=
          Rule.selectWhere (fun rule => rule.Applies first ∧ rule.Applies second)
            sheet.rules } := by
  simp only [select, Rule.selectAll_eq_selectWhere]
  rw [Rule.selectWhere_selectWhere (Rule.testsStyles_applies first)
    (Rule.testsStyles_applies second)]

/-- Lists of names that the same rules apply to select the same rules. -/
theorem select_congr
    {first second : List Text}
    (same : ∀ rule : Rule, rule.Applies first ↔ rule.Applies second)
    (sheet : Stylesheet) :
    sheet.select first = sheet.select second := by
  simp only [select, Rule.selectAll_eq_selectWhere]
  rw [Rule.selectWhere_congr same]

/-- Names for which fewer rules apply select from what is left as they select from all. -/
theorem select_select_of_applies
    {first second : List Text}
    (fewer : ∀ rule : Rule, rule.Applies second → rule.Applies first)
    (sheet : Stylesheet) :
    (sheet.select first).select second = sheet.select second := by
  rw [select_select]
  simp only [select, Rule.selectAll_eq_selectWhere]
  rw [Rule.selectWhere_congr fun rule => and_iff_right_of_imp (fewer rule)]

/--
Selecting for two lists of names, one after the other, does not depend on their
order and leaves what passes both tests; selecting again changes nothing; names
that have parts among the names before them, or are some of these names, select
as if nothing had been selected before; and neither the order of the names nor
their number matters.
-/
theorem select_commutes_and_absorbs
    (first second : List Text)
    (sheet : Stylesheet) :
    (sheet.select first).select second = (sheet.select second).select first ∧
      ((sheet.select first).select second).rules =
        Rule.selectWhere (fun rule => rule.Applies first ∧ rule.Applies second) sheet.rules ∧
      (sheet.select first).select first = sheet.select first ∧
      ((∀ name ∈ second, ∃ part ∈ first, part <:+: name) →
        (sheet.select first).select second = sheet.select second) ∧
      (second ⊆ first → (sheet.select first).select second = sheet.select second) ∧
      ((∀ name, name ∈ first ↔ name ∈ second) → sheet.select first = sheet.select second) := by
  refine ⟨?_, ?_, ?_, ?_, ?_, ?_⟩
  · rw [select_select, select_select, Rule.selectWhere_congr fun rule => and_comm]
  · rw [select_select]
  · exact select_select_of_applies (fun _ applies => applies) sheet
  · intro areParts
    exact select_select_of_applies (fun _ applies => applies.of_parts areParts) sheet
  · intro subset
    exact select_select_of_applies (fun _ applies => applies.of_subset subset) sheet
  · intro sameNames
    refine select_congr (fun rule => ⟨?_, ?_⟩) sheet
    · exact fun applies => applies.of_subset fun name isName => (sameNames name).mp isName
    · exact fun applies => applies.of_subset fun name isName => (sameNames name).mpr isName

/-- A longer name after a part of it, with a media rule that loses only one of its rules. -/
theorem select_commutes_and_absorbs_of_longer_name :
    let part := Text.of "btn"
    let name := Text.of "btn-large"
    let sheet : Stylesheet :=
      ⟨[], [.media [] [.ofClass part, .ofClass name], .ofClass (Text.of "nav"), .ofClass name]⟩
    (∀ longer ∈ [name], ∃ shorter ∈ [part], shorter <:+: longer) ∧
      (sheet.select [part]).select [name] = sheet.select [name] ∧
      (sheet.select [name]).rules = [.ofClass name, .media [] [.ofClass name]] ∧
      [name] ⊆ [name, part] ∧
      (sheet.select [name, part]).select [name] = sheet.select [name] ∧
      (∀ other, other ∈ [part, name, part] ↔ other ∈ [name, part]) ∧
      sheet.select [part, name, part] = sheet.select [name, part] := by
  intro part name sheet
  have areParts : ∀ longer ∈ [name], ∃ shorter ∈ [part], shorter <:+: longer := by
    decide
  have subset : [name] ⊆ [name, part] := by
    decide
  have sameNames : ∀ other, other ∈ [part, name, part] ↔ other ∈ [name, part] := by
    intro other
    simp only [List.mem_cons, List.not_mem_nil, or_false]
    tauto
  obtain ⟨-, -, -, absorbsParts, -, -⟩ := select_commutes_and_absorbs [part] [name] sheet
  obtain ⟨-, -, -, -, absorbsSubset, -⟩ := select_commutes_and_absorbs [name, part] [name] sheet
  obtain ⟨-, -, -, -, -, sameSelection⟩ :=
    select_commutes_and_absorbs [part, name, part] [name, part] sheet
  exact ⟨areParts, absorbsParts areParts, rfl, subset, absorbsSubset subset, sameNames,
    sameSelection sameNames⟩

end Stylesheet

end StyledMarkup.Css
