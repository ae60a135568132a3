import StyledMarkup.Proofs.Session
import StyledMarkup.Proofs.Snapshot.Halves
import StyledMarkup.Proofs.Tree.Walks
import Mathlib.Data.List.Forall2

namespace StyledMarkup

open List

/-!
# Snapshots and flags

Nothing that a snapshot is made of depends on the flags of the tree: not its
class names, not its styles and not its markup.  So trees that differ in flags
only have the same snapshot or the same error, and whatever has been done in a
session before, an element is printed as in a fresh copy of the tree.
-/

/-- The trees differ in nothing but flags. -/
def Node.SameButFlags (first second : Node) : Prop :=
  first.flagged false = second.flagged false

section Trees

variable {first second : Node}

theorem Node.SameButFlags.flagged
    (same : first.SameButFlags second)
    (flag : Bool) :
    first.flagged flag = second.flagged flag := by
  rw [← Node.flagged_flagged flag false first, ← Node.flagged_flagged flag false second, same]

theorem Node.SameButFlags.mark_fst
    (same : first.SameButFlags second) :
    first.mark.1 = second.mark.1 := by
  rw [Node.mark_fst, Node.mark_fst, same.flagged true]

theorem Node.SameButFlags.mark_eq
    (same : first.SameButFlags second) :
    first.mark = second.mark := by
  refine Prod.ext same.mark_fst ?_
  have sameCount := congrArg List.length (Node.flatten_flagged false first)
  rw [same, Node.flatten_flagged, List.length_map, List.length_map] at sameCount
  rw [Node.mark_snd, Node.mark_snd, sameCount]

/-- A path leads to elements that differ in flags only. -/
theorem Node.SameButFlags.exists_at?
    (same : first.SameButFlags second)
    {path : List Nat}
    {element : Node}
    (isThere : second.at? path = some element) :
    ∃ other, first.at? path = some other ∧ other.SameButFlags element := by
  have isFlagged : (first.at? path).map (Node.flagged false) = some (element.flagged false) := by
    rw [← Node.at?_flagged, same, Node.at?_flagged, isThere, Option.map_some]
  exact Option.map_eq_some_iff.mp isFlagged

end Trees

/-! ## What a snapshot is made of -/

namespace Markup

variable (indent : Text) (flag : Bool)

mutual

/-- Markup does not show flags. -/
theorem element_flagged :
    ∀ (node : Node) (depth : Nat),
      element indent depth (node.flagged flag) = element indent depth node
  | .element kind tag props children processed, depth => by
      rw [Node.flagged, element, element, optionalChildren_flagged children]

theorem optionalChildren_flagged :
    ∀ (children : Option (List Child)) (depth : Nat),
      optionalChildren indent depth (Child.flaggedLists flag children) =
        optionalChildren indent depth children
  | none, _ => rfl
  | some children, depth => childLines_flagged children depth

theorem childLines_flagged :
    ∀ (children : List Child) (depth : Nat),
      childLines indent depth (Child.flaggedAll flag children) = childLines indent depth children
  | [], _ => rfl
  | child :: rest, depth => by
      rw [Child.flaggedAll, childLines, childLines, childText_flagged child,
        childLines_flagged rest]

theorem childText_flagged :
    ∀ (child : Child) (depth : Nat),
      childText indent depth (child.flagged flag) = childText indent depth child
  | .node node, depth => element_flagged node depth
  | .text _, _ => rfl

end

end Markup

namespace Serializer

variable (serializer : Serializer)

theorem snapshot_flagged
    (flag : Bool)
    (node : Node) :
    serializer.snapshot Markup.print (node.flagged flag) =
      serializer.snapshot Markup.print node := by
  have sameMarkup : Markup.print (node.flagged flag) = Markup.print node :=
    Markup.element_flagged _ flag node 0
  rw [snapshot, snapshot, workingNames_flagged, sameMarkup]

/-- What is printed is the snapshot that the tree has before it is marked. -/
theorem print_snd
    (node : Node) :
    (serializer.print node).2 = serializer.snapshot Markup.print node := by
  rw [print, printWith, Node.mark_fst, snapshot_flagged]

end Serializer

/-! ## Sessions on a tree with any flags -/

namespace Session

/-- Unless it is a test, the step is answered as on the element of the other tree. -/
def AnswersAsOn (other : Node) (step : Step) (answer : Answer) : Prop :=
  step.action.marks = true →
    ∃ element, other.at? step.path = some element ∧ answer = step.action.answer element

/-- Elements that differ in flags only answer alike, unless they are tested. -/
theorem answer_of_sameButFlags
    {first second : Node}
    (same : first.SameButFlags second)
    {action : Action}
    (marks : action.marks = true) :
    action.answer first = action.answer second := by
  cases action with
  | test =>
      simp [Action.marks] at marks
  | mark =>
      rw [Action.answer, Action.answer, same.mark_eq]
  | printWith serializer markup =>
      rw [Action.answer, Action.answer, Serializer.printWith, Serializer.printWith, same.mark_fst]
  | print serializer =>
      rw [Action.answer, Action.answer, Serializer.print_snd, Serializer.print_snd,
        ← serializer.snapshot_flagged false first, same, serializer.snapshot_flagged]

/-- A step on a tree that differs in flags only leads to such a tree, and answers as on the other. -/
theorem exists_step?_of_sameButFlags
    {session : Session}
    {other : Node}
    (same : session.tree.SameButFlags other)
    {step : Step}
    (isAimed : (other.at? step.path).isSome = true) :
    ∃ tree answer received,
      session.step? step = some ⟨tree, session.answers ++ [answer], received⟩ ∧
        tree.SameButFlags other ∧ AnswersAsOn other step answer := by
  obtain ⟨element, isElement⟩ := Option.isSome_iff_exists.mp isAimed
  obtain ⟨target, isTarget, sameTarget⟩ := same.exists_at? isElement
  obtain ⟨tree, isStep, -, -⟩ := exists_step? isTarget
  refine ⟨tree, _, _, isStep, (flagged_of_step? isStep false).trans same, ?_⟩
  intro marks
  exact ⟨element, isElement, answer_of_sameButFlags sameTarget marks⟩

/-- Steps on a tree that differs in flags only lead to such a tree, and answer as on the other. -/
theorem exists_run?_of_sameButFlags
    {other : Node}
    {steps : List Step}
    (areAimed : ∀ step ∈ steps, (other.at? step.path).isSome = true)
    {session : Session}
    (same : session.tree.SameButFlags other) :
    ∃ next answers,
      run? steps session = some next ∧ next.answers = session.answers ++ answers ∧
        next.tree.SameButFlags other ∧ List.Forall₂ (AnswersAsOn other) steps answers := by
  induction steps generalizing session with
  | nil =>
      exact ⟨session, [], rfl, (List.append_nil _).symm, same, .nil⟩
  | cons step rest inductionHypothesis =>
      rw [List.forall_mem_cons] at areAimed
      obtain ⟨tree, answer, received, isStep, sameTree, answers⟩ :=
        exists_step?_of_sameButFlags same areAimed.1
      have sameBetween :
          (⟨tree, session.answers ++ [answer], received⟩ : Session).tree.SameButFlags other :=
        sameTree
      obtain ⟨next, others, isRun, areAnswers, sameNext, restAnswers⟩ :=
        inductionHypothesis areAimed.2 sameBetween
      refine ⟨next, answer :: others, ?_, ?_, sameNext, .cons answers restAnswers⟩
      · rw [run?, isStep, Option.bind_some, isRun]
      · rw [areAnswers, List.append_assoc, List.singleton_append]

end Session

/--
Trees that differ in flags only have the same snapshot or the same error, and
printing makes them the same tree; the snapshot is the one the tree has without
any marks.  In a session on one of them, every print of the tree or of an
element below it is answered as on the other one, whatever was marked or
printed before.
-/
theorem Serializer.print_of_sameButFlags
    {first second : Node}
    (same : first.SameButFlags second) :
    (∀ serializer : Serializer,
        serializer.print first = serializer.print second ∧
          (serializer.print first).2 = serializer.snapshot Markup.print second) ∧
      ∀ steps : List Step,
        (∀ step ∈ steps, (second.at? step.path).isSome = true) →
          ∃ session,
            Session.run? steps (Session.fresh first) = some session ∧
              session.tree.SameButFlags second ∧
                List.Forall₂ (Session.AnswersAsOn second) steps session.answers := by
  refine ⟨?_, ?_⟩
  · intro serializer
    have samePrint : serializer.print first = serializer.print second := by
      rw [print, print, printWith, printWith, same.mark_fst]
    exact ⟨samePrint, by rw [samePrint, print_snd]⟩
  · intro steps areAimed
    have sameFresh : (Session.fresh first).tree.SameButFlags second := same
    obtain ⟨session, answers, isRun, areAnswers, sameTree, areSame⟩ :=
      Session.exists_run?_of_sameButFlags areAimed sameFresh
    rw [Session.fresh, List.nil_append] at areAnswers
    exact ⟨session, isRun, sameTree, areAnswers ▸ areSame⟩

namespace Session

/-- An element with a class name that has an alias, and an element with this name below it. -/
def styled : Node :=
  ((Node.new (Text.of "p")).withClassName (Text.of "sc-a1")).withChildren
    [.text (Text.of "text"),
      .node ((Node.new (Text.of "b")).withClassName (Text.of "sc-a1 other"))]

def styledAndMarked : Node :=
  ((Node.new (Text.of "p")).withClassName (Text.of "sc-a1")).withChildren
    [.text (Text.of "text"),
      .node ((Node.new (Text.of "b")).withClassName (Text.of "sc-a1 other")).mark.1]

/-- Prints of a tree, of the element below and of the tree again answer as on an unmarked tree. -/
theorem print_of_sameButFlags_of_repeated_print :
    let serializer := Serializer.ofOneRule true (Text.of "sc-a1") (Text.of ".sc-a1\x7ball:unset\x7d")
    let steps : List Step := [⟨[], .print serializer⟩, ⟨[1], .print serializer⟩,
      ⟨[], .print unreadable⟩, ⟨[], .print serializer⟩]
    styledAndMarked.SameButFlags styled ∧ styledAndMarked.flatten.length = 2 ∧
      (styledAndMarked.flatten.map Node.processed) ≠ (styled.flatten.map Node.processed) ∧
        serializer.print styledAndMarked = serializer.print styled ∧
          ∃ session,
            run? steps (fresh styledAndMarked) = some session ∧
              List.Forall₂ (AnswersAsOn styled) steps session.answers := by
  intro serializer steps
  have same : styledAndMarked.SameButFlags styled := rfl
  have areAimed : ∀ step ∈ steps, (styled.at? step.path).isSome = true := by
    decide
  obtain ⟨alike, inSessions⟩ := Serializer.print_of_sameButFlags same
  obtain ⟨session, isRun, -, areSame⟩ := inSessions steps areAimed
  exact ⟨same, by decide, by decide, (alike serializer).1, session, isRun, areSame⟩

end Session

end StyledMarkup
