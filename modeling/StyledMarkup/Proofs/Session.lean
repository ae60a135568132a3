import StyledMarkup.Proofs.Tree.Paths
import StyledMarkup.Proofs.WorkingNames

namespace StyledMarkup

open List

/-!
# Sessions

A session works on the elements of one tree: it tests whether they are
accepted, marks them, and prints them with one serializer or another.  After
every step an element counts as handled if and only if it, or an element above
it, was marked or printed before, whether or not there was a snapshot, and
nothing but flags has changed.  What a printer for the markup is handed is
marked throughout.
-/

/-! ## What the printer is handed -/

namespace Serializer

/-- The snapshot of a marked tree, with a printer for the markup that may have effects. -/
def snapshotM
    {m : Type → Type}
    [Monad m]
    (serializer : Serializer)
    (markup : Node → m Text)
    (node : Node) :
    m (Except Css.Error Text) :=
  let names := serializer.workingNames node
  match Css.extract names serializer.registry.styles with
  | .error error => pure (.error error)
  | .ok style => do
      let code ← markup node
      pure (.ok (Snapshot.stabilize names style serializer.registry.hashes
        (AliasTable.build names) serializer.settings (Snapshot.combine style code)))

/-- Marks a tree, then takes its snapshot with a printer for the markup that may have effects. -/
def printWithM
    {m : Type → Type}
    [Monad m]
    (serializer : Serializer)
    (markup : Node → m Text)
    (node : Node) :
    m (Node × Except Css.Error Text) := do
  let marked := node.mark.1
  let result ← serializer.snapshotM markup marked
  pure (marked, result)

/-- A printer for the markup that records the trees it is handed. -/
def recorded (markup : Node → Text) (node : Node) : StateM (List Node) Text := do
  modify (· ++ [node])
  pure (markup node)

/-- The printer is handed the marked tree, unless there is no style for it. -/
def handed (serializer : Serializer) (node : Node) : List Node :=
  match Css.extract (serializer.workingNames node.mark.1) serializer.registry.styles with
  | .error _ => []
  | .ok _ => [node.mark.1]

/-- Printing with a recording printer is printing, and records what the printer is handed. -/
theorem run_printWithM_recorded
    (serializer : Serializer)
    (markup : Node → Text)
    (node : Node)
    (received : List Node) :
    (serializer.printWithM (recorded markup) node).run received =
      (serializer.printWith markup node, received ++ serializer.handed node) := by
  simp only [printWithM, snapshotM, printWith, snapshot, handed]
  cases Css.extract (serializer.workingNames node.mark.1) serializer.registry.styles with
  | error failure =>
      simp only [List.append_nil]
      rfl
  | ok style =>
      rfl

/-- Every element of a tree that the printer is handed is marked. -/
theorem processed_of_mem_handed
    {serializer : Serializer}
    {node received element : Node}
    (isHanded : received ∈ serializer.handed node)
    (isElement : element ∈ received.flatten) :
    element.processed = true := by
  rw [handed] at isHanded
  split at isHanded
  · simp at isHanded
  · rw [List.mem_singleton.mp isHanded, Node.mark_fst] at isElement
    exact Node.processed_of_mem_flatten_flagged isElement

end Serializer

/-! ## Steps and runs -/

/-- What can be done with an element. -/
inductive Action where
  | test
  | mark
  | printWith (serializer : Serializer) (markup : Node → Text)
  | print (serializer : Serializer)

/-- The answer to an action. -/
inductive Answer where
  | tested (accepted : Bool)
  | marked (count : Nat)
  | printed (result : Except Css.Error Text)

namespace Action

/-- Every action but a test marks its element. -/
def marks : Action → Bool
  | .test => false
  | _ => true

/-- The element after an action, and the answer; printers record what they are handed. -/
def perform (target : Node) : Action → StateM (List Node) (Node × Answer)
  | .test => pure (target, .tested (Serializer.accepts target))
  | .mark => pure (target.mark.1, .marked target.mark.2)
  | .printWith serializer markup => do
      let (printed, result) ← serializer.printWithM (Serializer.recorded markup) target
      pure (printed, .printed result)
  | .print serializer => do
      let (printed, result) ← serializer.printWithM (Serializer.recorded Markup.print) target
      pure (printed, .printed result)

/-- The answer to an action. -/
def answer (target : Node) : Action → Answer
  | .test => .tested (Serializer.accepts target)
  | .mark => .marked target.mark.2
  | .printWith serializer markup => .printed (serializer.printWith markup target).2
  | .print serializer => .printed (serializer.print target).2

/-- The trees that a printer is handed during an action. -/
def handed (target : Node) : Action → List Node
  | .printWith serializer _ => serializer.handed target
  | .print serializer => serializer.handed target
  | _ => []

/-- An action marks its element or leaves it, answers, and records what printers are handed. -/
theorem run_perform
    (action : Action)
    (target : Node)
    (received : List Node) :
    (action.perform target).run received =
      ((if action.marks then target.mark.1 else target, action.answer target),
        received ++ action.handed target) := by
  have printed (serializer : Serializer) (markup : Node → Text) :=
    serializer.run_printWithM_recorded markup target received
  cases action with
  | test =>
      simp only [handed, List.append_nil]
      rfl
  | mark =>
      simp only [handed, List.append_nil]
      rfl
  | printWith serializer markup =>
      rw [perform, StateT.run_bind, printed]
      rfl
  | print serializer =>
      rw [perform, StateT.run_bind, printed]
      rfl

/-- Every element of a tree that a printer is handed during an action is marked. -/
theorem processed_of_mem_handed
    {action : Action}
    {target received element : Node}
    (isHanded : received ∈ action.handed target)
    (isElement : element ∈ received.flatten) :
    element.processed = true := by
  cases action with
  | test =>
      simp [handed] at isHanded
  | mark =>
      simp [handed] at isHanded
  | printWith serializer markup =>
      exact Serializer.processed_of_mem_handed isHanded isElement
  | print serializer =>
      exact Serializer.processed_of_mem_handed isHanded isElement

end Action

/-- An action on the element that a path leads to. -/
structure Step where
  path : List Nat
  action : Action

/-- The tree of a session, the answers given so far, and all trees that printers were handed. -/
structure Session where
  tree : Node
  answers : List Answer
  received : List Node

namespace Session

/-- A session that has not begun. -/
def fresh (tree : Node) : Session := ⟨tree, [], []⟩

/-- The session after a step, whose path must lead to an element. -/
def step? (session : Session) (step : Step) : Option Session := do
  let target ← session.tree.at? step.path
  let ((changed, answer), received) := (step.action.perform target).run session.received
  let tree ← session.tree.modifyAt? (fun _ => changed) step.path
  some ⟨tree, session.answers ++ [answer], received⟩

/-- The session after some steps. -/
def run? : List Step → Session → Option Session
  | [], session => some session
  | step :: rest, session => (session.step? step).bind (run? rest)

/-- One of the steps has marked the element at a path, or an element above it. -/
def Marked (steps : List Step) (path : List Nat) : Prop :=
  ∃ step ∈ steps, step.action.marks = true ∧ step.path <+: path

/-- What holds of a session that began with a tree, after some steps. -/
structure Tracks (start : Node) (steps : List Step) (session : Session) : Prop where
  processed_iff :
    ∀ path element,
      session.tree.at? path = some element → (element.processed = true ↔ Marked steps path)
  unchanged : session.tree.flagged false = start
  received_processed :
    ∀ received ∈ session.received, ∀ element ∈ received.flatten, element.processed = true
  length_answers : session.answers.length = steps.length
  answers_test :
    ∀ index step,
      steps[index]? = some step →
        step.action = .test →
          ∃ element accepted,
            start.at? step.path = some element ∧
              session.answers[index]? = some (.tested accepted) ∧
                (accepted = true ↔
                  element.kind = .testJson ∧ ¬ Marked (steps.take index) step.path)

/-- A further step marks what is below its element, unless it is a test. -/
theorem marked_append_singleton
    (steps : List Step)
    (step : Step)
    (path : List Nat) :
    Marked (steps ++ [step]) path ↔
      Marked steps path ∨ step.action.marks = true ∧ step.path <+: path := by
  simp [Marked, or_and_right, exists_or]

/-- An element of a session is an element of the tree that it began with, up to its flags. -/
theorem Tracks.exists_at?
    {start : Node}
    {steps : List Step}
    {session : Session}
    (tracks : Tracks start steps session)
    {path : List Nat}
    {element : Node}
    (isThere : session.tree.at? path = some element) :
    start.at? path = some (element.flagged false) := by
  rw [← tracks.unchanged, Node.at?_flagged, isThere, Option.map_some]

/-- An element is accepted if it was rendered for a test and no step has marked it. -/
theorem Tracks.accepts_iff
    {start : Node}
    {steps : List Step}
    {session : Session}
    (tracks : Tracks start steps session)
    {path : List Nat}
    {element : Node}
    (isThere : session.tree.at? path = some element) :
    Serializer.accepts element = true ↔ element.kind = .testJson ∧ ¬ Marked steps path := by
  rw [← tracks.processed_iff path element isThere]
  simp [Serializer.accepts, Node.isSerializable]

/-- Nothing is marked in a session that begins with a tree without flags. -/
theorem tracks_fresh
    {start : Node}
    (unmarked : ∀ element ∈ start.flatten, element.processed = false) :
    Tracks start [] (fresh start) where
  processed_iff := by
    intro path element isThere
    simp [Marked, unmarked element (Node.mem_flatten_of_at? isThere)]
  unchanged := Node.flagged_of_forall false start unmarked
  received_processed := by
    simp [fresh]
  length_answers := rfl
  answers_test := by
    simp

/-- A step that is aimed at an element leads to a session with one more answer. -/
theorem exists_step?
    {session : Session}
    {step : Step}
    {target : Node}
    (isTarget : session.tree.at? step.path = some target) :
    ∃ tree,
      session.step? step =
          some ⟨tree, session.answers ++ [step.action.answer target],
            session.received ++ step.action.handed target⟩ ∧
        (step.action.marks = true →
          session.tree.modifyAt? (fun _ => target.mark.1) step.path = some tree) ∧
        (step.action.marks = false → tree = session.tree) := by
  have outcome :
      session.step? step =
        (session.tree.modifyAt? (fun _ => if step.action.marks then target.mark.1 else target)
            step.path).bind fun tree =>
          some ⟨tree, session.answers ++ [step.action.answer target],
            session.received ++ step.action.handed target⟩ := by
    simp only [step?, isTarget, Action.run_perform]
    rfl
  cases marks : step.action.marks with
  | true =>
      obtain ⟨tree, isChanged⟩ := Node.exists_modifyAt? isTarget fun _ => target.mark.1
      refine ⟨tree, ?_, fun _ => isChanged, by simp⟩
      rw [outcome]
      simp only [marks, ↓reduceIte, isChanged, Option.bind_some]
  | false =>
      refine ⟨session.tree, ?_, by simp, fun _ => rfl⟩
      rw [outcome]
      simp only [marks, Bool.false_eq_true, ↓reduceIte, Node.modifyAt?_self isTarget,
        Option.bind_some]

/-- A step changes nothing but flags. -/
theorem flagged_of_step?
    {session next : Session}
    {step : Step}
    (isStep : session.step? step = some next)
    (flag : Bool) :
    next.tree.flagged flag = session.tree.flagged flag := by
  cases isTarget : session.tree.at? step.path with
  | none =>
      simp [step?, isTarget] at isStep
  | some target =>
      obtain ⟨tree, leads, whenMarking, otherwise⟩ := exists_step? isTarget
      obtain rfl := Option.some.inj (leads.symm.trans isStep)
      cases marks : step.action.marks with
      | true =>
          exact Node.flagged_of_markedAt isTarget (whenMarking marks) flag
      | false =>
          exact congrArg (Node.flagged flag) (otherwise marks)

/-- What holds of a session holds after one more step that is aimed at an element. -/
theorem Tracks.exists_step?
    {start : Node}
    {steps : List Step}
    {session : Session}
    (tracks : Tracks start steps session)
    {step : Step}
    (isAimed : (start.at? step.path).isSome = true) :
    ∃ next, session.step? step = some next ∧ Tracks start (steps ++ [step]) next := by
  obtain ⟨target, isTarget⟩ : ∃ target, session.tree.at? step.path = some target := by
    rw [← tracks.unchanged, Node.at?_flagged, Option.isSome_map] at isAimed
    exact Option.isSome_iff_exists.mp isAimed
  obtain ⟨tree, isStep, whenMarking, otherwise⟩ := Session.exists_step? isTarget
  refine ⟨_, isStep, ?_⟩
  constructor
  case processed_iff =>
    intro path element isThere
    rw [marked_append_singleton]
    cases marks : step.action.marks with
    | true =>
        obtain ⟨before, isBefore, before_iff⟩ :=
          Node.processed_of_markedAt isTarget (whenMarking marks) isThere
        rw [before_iff, tracks.processed_iff path before isBefore]
        simp
    | false =>
        rw [otherwise marks] at isThere
        rw [tracks.processed_iff path element isThere]
        simp
  case unchanged =>
    exact (flagged_of_step? isStep false).trans tracks.unchanged
  case received_processed =>
    intro received isReceived element isElement
    rcases List.mem_append.mp isReceived with isEarlier | isNow
    · exact tracks.received_processed received isEarlier element isElement
    · exact Action.processed_of_mem_handed isNow isElement
  case length_answers =>
    simp [tracks.length_answers]
  case answers_test =>
    intro index asked isAsked isTest
    have sameLength := tracks.length_answers
    by_cases isEarlier : index < steps.length
    · rw [List.getElem?_append_left isEarlier] at isAsked
      rw [List.getElem?_append_left (by omega), List.take_append_of_le_length (by omega)]
      exact tracks.answers_test index asked isAsked isTest
    · -- The step that was asked is the last one.
      have inBounds := (List.getElem?_eq_some_iff.mp isAsked).1
      rw [List.length_append, List.length_singleton] at inBounds
      obtain rfl : index = steps.length := by
        omega
      rw [List.getElem?_concat_length, Option.some.injEq] at isAsked
      subst asked
      refine ⟨_, Serializer.accepts target, tracks.exists_at? isTarget, ?_, ?_⟩
      · rw [← sameLength, List.getElem?_concat_length, isTest]
        rfl
      · rw [List.take_left, tracks.accepts_iff isTarget, Node.kind_flagged]

/-- What holds of a session holds after any further steps that are aimed at elements. -/
theorem Tracks.exists_run?
    {start : Node}
    {done : List Step}
    {session : Session}
    (tracks : Tracks start done session)
    {steps : List Step}
    (areAimed : ∀ step ∈ steps, (start.at? step.path).isSome = true) :
    ∃ next, run? steps session = some next ∧ Tracks start (done ++ steps) next := by
  induction steps generalizing done session with
  | nil =>
      exact ⟨session, rfl, by simpa using tracks⟩
  | cons step rest inductionHypothesis =>
      rw [List.forall_mem_cons] at areAimed
      obtain ⟨between, isStep, tracksBetween⟩ := tracks.exists_step? areAimed.1
      obtain ⟨next, isRun, tracksNext⟩ := inductionHypothesis tracksBetween areAimed.2
      refine ⟨next, ?_, by simpa using tracksNext⟩
      rw [run?, isStep, Option.bind_some, isRun]

/--
In a session on a tree without flags, whose steps are aimed at elements, after
every step: an element counts as handled exactly if it or an element above it
was marked or printed; it is accepted exactly if moreover it was rendered for a
test, which is also what earlier tests answered; nothing but flags has changed;
and every printer was handed a tree that was marked throughout.
-/
theorem exists_tracks_of_prefix
    {start : Node}
    (unmarked : ∀ element ∈ start.flatten, element.processed = false)
    {steps : List Step}
    (areAimed : ∀ step ∈ steps, (start.at? step.path).isSome = true)
    {done : List Step}
    (isPrefix : done <+: steps) :
    ∃ session,
      run? done (fresh start) = some session ∧
        Tracks start done session ∧
          ∀ path element,
            session.tree.at? path = some element →
              (Serializer.accepts element = true ↔
                element.kind = .testJson ∧ ¬ Marked done path) := by
  have doneAimed : ∀ step ∈ done, (start.at? step.path).isSome = true := by
    intro step isDone
    exact areAimed step (isPrefix.subset isDone)
  obtain ⟨session, isRun, tracks⟩ := (tracks_fresh unmarked).exists_run? doneAimed
  refine ⟨session, isRun, tracks, ?_⟩
  intro path element isThere
  exact tracks.accepts_iff isThere

/-- A serializer whose styles cannot be read. -/
def unreadable : Serializer := ⟨⟨[Text.of "a"], Text.of "..a\x7b\x7d"⟩, .standard⟩

/-- An element with a text and two more levels of elements. -/
def nested : Node :=
  (Node.new (Text.of "div")).withChildren
    [.text (Text.of "text"),
      .node ((Node.new (Text.of "p")).withChildren [.node (Node.new (Text.of "b"))])]

/-- Tests around a print that fails, then a print of the whole tree. -/
def nestedSteps : List Step :=
  [⟨[1], .test⟩, ⟨[1], .print unreadable⟩, ⟨[1, 0], .test⟩,
    ⟨[], .printWith ⟨.empty, .standard⟩ Node.tag⟩]

/-- What holds after a print that failed, and a test of an element below. -/
theorem exists_tracks_of_failed_print :
    (Css.parse unreadable.registry.styles).isOk = false ∧
      ∃ session,
        run? (nestedSteps.take 3) (fresh nested) = some session ∧
          Tracks nested (nestedSteps.take 3) session ∧
            ∀ path element,
              session.tree.at? path = some element →
                (Serializer.accepts element = true ↔
                  element.kind = .testJson ∧ ¬ Marked (nestedSteps.take 3) path) := by
  have cannotBeRead : (Css.parse unreadable.registry.styles).isOk = false := by
    decide +kernel
  have unmarked : ∀ element ∈ nested.flatten, element.processed = false := by
    decide
  have areAimed : ∀ step ∈ nestedSteps, (nested.at? step.path).isSome = true := by
    decide
  exact ⟨cannotBeRead, exists_tracks_of_prefix unmarked areAimed (List.take_prefix 3 _)⟩

end Session

end StyledMarkup
