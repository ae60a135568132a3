import StyledMarkup.Proofs.Renaming
import Mathlib.Data.List.Nodup

namespace StyledMarkup

open List

/-!
# Renaming runs

The names are replaced one after the other, each in the text that the earlier
ones left.  If every name that is replaced stands in the text only as a whole
run of name characters, and in no alias of another name, this is the same as
replacing all runs at once, so the order of the names does not matter.
-/

namespace Text

/-- ASCII letters and digits, underscores and hyphens. -/
def isNameChar (character : Char) : Bool :=
  character.isAlphanum || character == '_' || character == '-'

/-- The maximal runs of name characters, with an empty one between two other characters. -/
def nameRuns (text : Text) : List Text := text.splitOnP (! isNameChar ·)

/-- Changes every maximal run of a text, given the run that is being read. -/
def mapRunsFrom (change : Text → Text) (run : Text) : Text → Text
  | [] => change run
  | first :: rest =>
      if isNameChar first then mapRunsFrom change (run ++ [first]) rest
      else change run ++ first :: mapRunsFrom change [] rest

/-- Changes every maximal run of name characters and keeps all other characters. -/
def mapRuns (change : Text → Text) (text : Text) : Text := mapRunsFrom change [] text

theorem nameRuns_append_other
    {other : Char}
    (isOther : isNameChar other = false)
    (left right : Text) :
    nameRuns (left ++ other :: right) = nameRuns left ++ nameRuns right := by
  apply List.splitOnP_append_cons
  simpa using isOther

theorem nameRuns_of_run
    {run : Text}
    (isRun : ∀ character ∈ run, isNameChar character = true) :
    nameRuns run = [run] := by
  apply List.splitOnP_eq_singleton
  intro character member
  simpa using isRun character member

/-- Name characters go into the run that is being read. -/
theorem mapRunsFrom_append_run
    {run : Text}
    (isRun : ∀ character ∈ run, isNameChar character = true)
    (change : Text → Text)
    (before after : Text) :
    mapRunsFrom change before (run ++ after) = mapRunsFrom change (before ++ run) after := by
  induction run generalizing before with
  | nil =>
      simp
  | cons first rest inductionHypothesis =>
      rw [List.forall_mem_cons] at isRun
      simp [mapRunsFrom, isRun.1, inductionHypothesis isRun.2]

theorem mapRuns_of_run
    {run : Text}
    (isRun : ∀ character ∈ run, isNameChar character = true)
    (change : Text → Text) :
    mapRuns change run = change run := by
  have whole := mapRunsFrom_append_run isRun change [] []
  rw [List.append_nil] at whole
  exact whole

theorem mapRuns_append_other
    {run : Text}
    (isRun : ∀ character ∈ run, isNameChar character = true)
    {other : Char}
    (isOther : isNameChar other = false)
    (change : Text → Text)
    (after : Text) :
    mapRuns change (run ++ other :: after) = change run ++ other :: mapRuns change after := by
  rw [mapRuns, mapRunsFrom_append_run isRun, List.nil_append, mapRunsFrom, isOther]
  rfl

end Text

/-- The alias of a name that the style uses. -/
def usedAlias? (style : Text) (table : AliasTable) (name : Text) : Option Text :=
  if Text.occursIn name style then table.aliasFor? name else none

/-- A run that is one of the names becomes the alias of that name, any other run stays. -/
def renamedRun (names : List Text) (style : Text) (table : AliasTable) (run : Text) : Text :=
  if run ∈ names then (usedAlias? style table run).getD run else run

/--
Distinct names of name characters.  One that is used and has an alias stands in
the text only as a whole run, and in no alias of another one.
-/
structure StandApart
    (names : List Text)
    (style : Text)
    (table : AliasTable)
    (text : Text) : Prop where
  distinct : names.Nodup
  nonempty : ∀ name ∈ names, name ≠ []
  nameChars : ∀ name ∈ names, name.all Text.isNameChar = true
  wholeRun :
    ∀ run ∈ Text.nameRuns text, ∀ name ∈ names, (usedAlias? style table name).isSome →
      name <:+: run → run = name
  apart :
    ∀ name ∈ names, ∀ alternative ∈ usedAlias? style table name,
      ∀ other ∈ names, (usedAlias? style table other).isSome → other ≠ name →
        ¬ other <:+: alternative

theorem renameOne_eq
    (style : Text)
    (table : AliasTable)
    (name text : Text) :
    renameOne style table name text =
      match usedAlias? style table name with
      | some alternative => Text.replaceAll name alternative text
      | none => text := by
  unfold renameOne usedAlias?
  split <;> rfl

section Run

variable {names : List Text} {style : Text} {table : AliasTable}

theorem renameOne_of_absent
    {name text : Text}
    (absent : (usedAlias? style table name).isSome → ¬ name <:+: text) :
    renameOne style table name text = text := by
  rw [renameOne_eq]
  cases isUsed : usedAlias? style table name with
  | none =>
      rfl
  | some alternative =>
      exact Text.replaceAll_of_absent (absent (by simp [isUsed])) alternative

theorem rename_of_unused
    {text : Text}
    (absent : ∀ name ∈ names, (usedAlias? style table name).isSome → ¬ name <:+: text) :
    rename names style table text = text := by
  induction names with
  | nil =>
      rfl
  | cons name rest inductionHypothesis =>
      rw [List.forall_mem_cons] at absent
      rw [rename_cons, renameOne_of_absent absent.1]
      exact inductionHypothesis absent.2

/-- A name is renamed to its alias if no other name occurs in it or in the alias. -/
theorem rename_name
    (distinct : names.Nodup)
    {name alternative : Text}
    (nonempty : name ≠ [])
    (isName : name ∈ names)
    (isAlias : usedAlias? style table name = some alternative)
    (apart :
      ∀ other ∈ names, (usedAlias? style table other).isSome → other ≠ name →
        ¬ other <:+: name ∧ ¬ other <:+: alternative) :
    rename names style table name = alternative := by
  induction names with
  | nil =>
      simp at isName
  | cons first rest inductionHypothesis =>
      obtain ⟨firstNew, restDistinct⟩ := List.nodup_cons.mp distinct
      rw [List.forall_mem_cons] at apart
      obtain ⟨firstApart, restApart⟩ := apart
      rw [rename_cons]
      by_cases isFirst : first = name
      · subst first
        rw [renameOne_eq, isAlias]
        simp only [Text.replaceAll_self nonempty]
        -- The name does not come again, so the alias stays even if it holds the name.
        apply rename_of_unused
        intro other isOther isUsed
        have different : other ≠ name := by
          rintro rfl
          exact firstNew isOther
        exact (restApart other isOther isUsed different).2
      · have inRest : name ∈ rest := by
          rcases List.mem_cons.mp isName with same | inRest
          · exact absurd same.symm isFirst
          · exact inRest
        rw [renameOne_of_absent fun isUsed => (firstApart isUsed isFirst).1]
        exact inductionHypothesis restDistinct inRest restApart

/-- A text is renamed run by run, because no name reaches across another character. -/
theorem rename_eq_mapRuns_of_runs
    (nonempty : ∀ name ∈ names, name ≠ [])
    (nameChars : ∀ name ∈ names, name.all Text.isNameChar = true)
    {change : Text → Text}
    {text : Text}
    (runs : ∀ run ∈ Text.nameRuns text, rename names style table run = change run) :
    rename names style table text = Text.mapRuns change text := by
  have isRun {run : Text} (noStop : ∀ character ∈ run, (! Text.isNameChar character) = false) :
      ∀ character ∈ run, Text.isNameChar character = true := by
    intro character member
    simpa using noStop character member
  induction text using Text.induction_on_stops (! Text.isNameChar ·) with
  | whole text noStop =>
      rw [Text.nameRuns_of_run (isRun noStop), List.forall_mem_singleton] at runs
      rw [runs, Text.mapRuns_of_run (isRun noStop)]
  | parted left stop right noStop isStop inductionHypothesis =>
      have isOther : Text.isNameChar stop = false := by
        simpa using isStop
      have absent : ∀ name ∈ names, stop ∉ name := by
        intro name isName member
        simp [List.all_eq_true.mp (nameChars name isName) stop member] at isOther
      rw [Text.nameRuns_append_other isOther, Text.nameRuns_of_run (isRun noStop),
        List.singleton_append, List.forall_mem_cons] at runs
      rw [rename_append_separator nonempty absent, runs.1, inductionHypothesis runs.2,
        Text.mapRuns_append_other (isRun noStop) isOther]

namespace StandApart

variable {text : Text}

theorem rename_run
    (stand : StandApart names style table text)
    {run : Text}
    (isRun : run ∈ Text.nameRuns text) :
    rename names style table run = renamedRun names style table run := by
  have others :
      ∀ other ∈ names, (usedAlias? style table other).isSome → other ≠ run →
        ¬ other <:+: run := by
    intro other isOther isUsed different occurs
    exact different (stand.wholeRun run isRun other isOther isUsed occurs).symm
  by_cases isName : run ∈ names
  · rw [renamedRun, if_pos isName]
    cases isAlias : usedAlias? style table run with
    | none =>
        apply rename_of_unused
        intro other isOther isUsed
        have different : other ≠ run := by
          rintro rfl
          simp [isAlias] at isUsed
        exact others other isOther isUsed different
    | some alternative =>
        apply rename_name stand.distinct (stand.nonempty run isName) isName isAlias
        intro other isOther isUsed different
        exact ⟨others other isOther isUsed different,
          stand.apart run isName alternative isAlias other isOther isUsed different⟩
  · rw [renamedRun, if_neg isName]
    apply rename_of_unused
    intro other isOther isUsed
    have different : other ≠ run := by
      rintro rfl
      exact isName isOther
    exact others other isOther isUsed different

theorem of_perm
    (stand : StandApart names style table text)
    {reordered : List Text}
    (order : reordered.Perm names) :
    StandApart reordered style table text where
  distinct := order.nodup_iff.mpr stand.distinct
  nonempty name isName := stand.nonempty name (order.mem_iff.mp isName)
  nameChars name isName := stand.nameChars name (order.mem_iff.mp isName)
  wholeRun run isRun name isName := stand.wholeRun run isRun name (order.mem_iff.mp isName)
  apart name isName alternative isAlias other isOther :=
    stand.apart name (order.mem_iff.mp isName) alternative isAlias other
      (order.mem_iff.mp isOther)

theorem rename_eq
    (stand : StandApart names style table text) :
    rename names style table text =
      Text.mapRuns (renamedRun names style table) text :=
  rename_eq_mapRuns_of_runs stand.nonempty stand.nameChars fun _ isRun => stand.rename_run isRun

end StandApart

theorem renamedRun_of_perm
    {reordered : List Text}
    (order : reordered.Perm names) :
    renamedRun reordered style table = renamedRun names style table := by
  funext run
  simp only [renamedRun, order.mem_iff]

end Run

/--
If the names stand apart, renaming replaces every run that is a used name by
its alias, all at once, and gives the same text for every order of the names.
-/
theorem rename_eq_mapRuns
    {names : List Text}
    {style : Text}
    {table : AliasTable}
    {text : Text}
    (stand : StandApart names style table text) :
    rename names style table text = Text.mapRuns (renamedRun names style table) text ∧
      ∀ reordered : List Text, reordered.Perm names →
        rename reordered style table text = rename names style table text := by
  refine ⟨stand.rename_eq, ?_⟩
  intro reordered order
  rw [stand.rename_eq, (stand.of_perm order).rename_eq, renamedRun_of_perm order]

/-- A table in which one name has an empty alias and another one an alias with a blank. -/
def AliasTable.ofStrangeStems : AliasTable :=
  ⟨[⟨[], [⟨[], [Text.of "x1"]⟩]⟩, ⟨Text.of "a b", [⟨[], [Text.of "y2"]⟩]⟩]⟩

/-- Names side by side, with strange aliases or one that is a part of the name itself. -/
theorem rename_eq_mapRuns_of_strange_stems :
    let names := [Text.of "x1", Text.of "y2", Text.of "sc-a1", Text.of "z3"]
    let style := Text.of ".x1 .y2, .sc-a1 {}"
    let text := Text.of ".x1.y2, .sc-a1 {} class=\"y2 x1 z3 sc-a1 other\""
    StandApart names style AliasTable.ofStrangeStems text ∧
      (rename names style AliasTable.ofStrangeStems text =
          Text.mapRuns (renamedRun names style AliasTable.ofStrangeStems) text ∧
        ∀ reordered : List Text, reordered.Perm names →
          rename reordered style AliasTable.ofStrangeStems text =
            rename names style AliasTable.ofStrangeStems text) ∧
      Text.mapRuns (renamedRun names style AliasTable.ofStrangeStems) text =
        Text.of "..a b, .sc {} class=\"a b  z3 sc other\"" := by
  intro names style text
  have stand : StandApart names style AliasTable.ofStrangeStems text :=
    { distinct := by decide
      nonempty := by decide
      nameChars := by decide
      wholeRun := by decide
      apart := by decide }
  exact ⟨stand, rename_eq_mapRuns stand, by decide⟩

end StyledMarkup
