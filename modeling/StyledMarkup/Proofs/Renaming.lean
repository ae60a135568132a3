import StyledMarkup.Rename
import StyledMarkup.Proofs.Text.Replacement
import StyledMarkup.Proofs.Text.Words
import Mathlib.Data.List.Count

namespace StyledMarkup

open List

/-!
# Renaming texts

Renaming replaces the used names one after the other.  A character that is in
none of the names separates a text for good, so the words and the parts of a
text are renamed on their own; and what every single replacement preserves, all
of them preserve.
-/

/-- The text with one class name replaced by its alias, if the style uses the name. -/
def renameOne
    (style : Text)
    (table : AliasTable)
    (name text : Text) : Text :=
  if Text.occursIn name style then
    match table.aliasFor? name with
    | some alternative => Text.replaceAll name alternative text
    | none => text
  else
    text

/-- Renaming takes the names one after the other. -/
theorem rename_cons
    (name : Text)
    (rest : List Text)
    (style : Text)
    (table : AliasTable)
    (text : Text) :
    rename (name :: rest) style table text =
      rename rest style table (renameOne style table name text) := by
  by_cases used : Text.occursIn name style = true
  · cases isAlias : table.aliasFor? name with
    | none =>
        simp [rename, renameOne, used, isAlias]
    | some alternative =>
        simp [rename, renameOne, used, isAlias]
  · simp [rename, renameOne, used]

/-- There is no name to replace in the empty text. -/
theorem renameOne_nil
    {name : Text}
    (nonempty : name ≠ [])
    (style : Text)
    (table : AliasTable) :
    renameOne style table name [] = [] := by
  unfold renameOne
  split
  · cases table.aliasFor? name with
    | none =>
        rfl
    | some alternative =>
        exact Text.replaceAll_nil nonempty alternative
  · rfl

/-- One name is replaced on both sides of a separator that is not in it. -/
theorem renameOne_append_separator
    {name : Text}
    {separator : Char}
    (nonempty : name ≠ [])
    (absent : separator ∉ name)
    (style : Text)
    (table : AliasTable)
    (left right : Text) :
    renameOne style table name (left ++ separator :: right) =
      renameOne style table name left ++ separator :: renameOne style table name right := by
  unfold renameOne
  split
  · cases table.aliasFor? name with
    | none =>
        rfl
    | some alternative =>
        exact Text.replaceAll_append_separator nonempty absent alternative left right
  · rfl

/-- Renaming happens on both sides of a separator that is in none of the names. -/
theorem rename_append_separator
    {names : List Text}
    {separator : Char}
    (nonempty : ∀ name ∈ names, name ≠ [])
    (absent : ∀ name ∈ names, separator ∉ name)
    (style : Text)
    (table : AliasTable)
    (left right : Text) :
    rename names style table (left ++ separator :: right) =
      rename names style table left ++ separator :: rename names style table right := by
  induction names generalizing left right with
  | nil =>
      rfl
  | cons name rest inductionHypothesis =>
      rw [List.forall_mem_cons] at nonempty absent
      simp only [rename_cons]
      rw [renameOne_append_separator nonempty.1 absent.1]
      exact inductionHypothesis nonempty.2 absent.2 _ _

/-- The empty text has nothing to rename. -/
theorem rename_nil
    {names : List Text}
    (nonempty : ∀ name ∈ names, name ≠ [])
    (style : Text)
    (table : AliasTable) :
    rename names style table [] = [] := by
  induction names with
  | nil =>
      rfl
  | cons name rest inductionHypothesis =>
      rw [List.forall_mem_cons] at nonempty
      rw [rename_cons, renameOne_nil nonempty.1]
      exact inductionHypothesis nonempty.2

/-- Nothing is renamed for an empty style. -/
theorem rename_of_empty_style
    {names : List Text}
    (nonempty : ∀ name ∈ names, name ≠ [])
    (table : AliasTable)
    (text : Text) :
    rename names [] table text = text := by
  induction names with
  | nil =>
      rfl
  | cons name rest inductionHypothesis =>
      rw [List.forall_mem_cons] at nonempty
      have unused : Text.occursIn name [] = false := by
        simpa using nonempty.1
      rw [rename_cons]
      simp only [renameOne, unused, Bool.false_eq_true, ↓reduceIte]
      exact inductionHypothesis nonempty.2

/--
What is true of a text, and stays true whenever a name that occurs is replaced
by its alias, is true of the renamed text.
-/
theorem rename_preserves
    {motive : Text → Prop}
    {names : List Text}
    {table : AliasTable}
    (step :
      ∀ name ∈ names, ∀ alternative, table.aliasFor? name = some alternative →
        ∀ text, name <:+: text → motive text →
          motive (Text.replaceAll name alternative text))
    (style : Text)
    {text : Text}
    (start : motive text) :
    motive (rename names style table text) := by
  induction names generalizing text with
  | nil =>
      exact start
  | cons name rest inductionHypothesis =>
      rw [List.forall_mem_cons] at step
      rw [rename_cons]
      refine inductionHypothesis step.2 ?_
      unfold renameOne
      split
      · cases isAlias : table.aliasFor? name with
        | none =>
            exact start
        | some alternative =>
            by_cases occurs : name <:+: text
            · exact step.1 alternative isAlias text occurs start
            · simpa only [Text.replaceAll_of_absent occurs] using start
      · exact start

/-- A text in which no name with an alias occurs stays as it is. -/
theorem rename_of_absent
    {names : List Text}
    {table : AliasTable}
    {text : Text}
    (absent : ∀ name ∈ names, (table.aliasFor? name).isSome → ¬ name <:+: text)
    (style : Text) :
    rename names style table text = text := by
  refine rename_preserves (motive := fun renamed => renamed = text) ?_ style rfl
  rintro name isName alternative isAlias _ occurs rfl
  exact absurd occurs (absent name isName (by simp [isAlias]))

/-- A word is renamed to a word if the aliases are words. -/
theorem isWord_rename
    {names : List Text}
    {table : AliasTable}
    (areWords : ∀ name ∈ names, name.IsWord)
    (aliasWords :
      ∀ name ∈ names, ∀ alternative, table.aliasFor? name = some alternative →
        alternative.IsWord)
    (style : Text)
    {text : Text}
    (word : text.IsWord) :
    (rename names style table text).IsWord := by
  refine rename_preserves ?_ style word
  intro name isName alternative isAlias text _ isWord
  have aliasWord := aliasWords name isName alternative isAlias
  have nonempty := (areWords name isName).nonempty
  refine ⟨Text.replaceAll_ne_nil nonempty aliasWord.nonempty isWord.nonempty, ?_⟩
  intro character member
  rcases Text.mem_replaceAll nonempty member with inText | inAlias
  · exact isWord.blankFree character inText
  · exact aliasWord.blankFree character inAlias

/-- Renaming a text renames its words. -/
theorem words_rename
    {names : List Text}
    {table : AliasTable}
    (areWords : ∀ name ∈ names, name.IsWord)
    (aliasWords :
      ∀ name ∈ names, ∀ alternative, table.aliasFor? name = some alternative →
        alternative.IsWord)
    (style text : Text) :
    Text.words (rename names style table text) =
      (Text.words text).map (rename names style table) := by
  have nonempty : ∀ name ∈ names, name ≠ [] := fun name isName => (areWords name isName).nonempty
  have ofBlankFree {text : Text} (blankFree : ∀ character ∈ text, isBlank character = false) :
      Text.words (rename names style table text) =
        (Text.words text).map (rename names style table) := by
    by_cases empty : text = []
    · subst text
      rw [rename_nil nonempty]
      rfl
    · have word : text.IsWord := ⟨empty, blankFree⟩
      rw [word.words_eq, (isWord_rename areWords aliasWords style word).words_eq]
      rfl
  induction text using Text.induction_on_stops isBlank with
  | whole text blankFree =>
      exact ofBlankFree blankFree
  | parted left blank right blankFree isBreak inductionHypothesis =>
      have absent : ∀ name ∈ names, blank ∉ name :=
        fun name isName => (areWords name isName).not_mem_of_isBlank isBreak
      rw [rename_append_separator nonempty absent, Text.words_append_blank isBreak,
        Text.words_append_blank isBreak, ofBlankFree blankFree, inductionHypothesis,
        List.map_append]

/-- Renaming a text renames its parts, if the separator is in no name and in no alias. -/
theorem splitOn_rename
    {names : List Text}
    {table : AliasTable}
    {separator : Char}
    (nonempty : ∀ name ∈ names, name ≠ [])
    (absent : ∀ name ∈ names, separator ∉ name)
    (aliasAbsent :
      ∀ name ∈ names, ∀ alternative, table.aliasFor? name = some alternative →
        separator ∉ alternative)
    (style text : Text) :
    Text.splitOn separator (rename names style table text) =
      (Text.splitOn separator text).map (rename names style table) := by
  have staysAbsent {part : Text} (absentPart : separator ∉ part) :
      separator ∉ rename names style table part := by
    refine rename_preserves (motive := (separator ∉ ·)) ?_ style absentPart
    intro name isName alternative isAlias text _ absentText member
    rcases Text.mem_replaceAll (nonempty name isName) member with inText | inAlias
    · exact absentText inText
    · exact aliasAbsent name isName alternative isAlias inAlias
  induction text using Text.induction_on_separator separator with
  | whole text absentText =>
      rw [Text.splitOn_of_not_mem absentText, Text.splitOn_of_not_mem (staysAbsent absentText)]
      rfl
  | parted left right absentLeft inductionHypothesis =>
      rw [rename_append_separator nonempty absent,
        Text.splitOn_append_separator absentLeft,
        Text.splitOn_append_separator (staysAbsent absentLeft), inductionHypothesis,
        List.map_cons]

/-- Renaming makes no text into one that has no alias in it. -/
theorem rename_ne
    {names : List Text}
    {table : AliasTable}
    {kept : Text}
    (nonempty : ∀ name ∈ names, name ≠ [])
    (aliasAbsent :
      ∀ name ∈ names, ∀ alternative, table.aliasFor? name = some alternative →
        ¬ alternative <:+: kept)
    (style : Text)
    {text : Text}
    (different : text ≠ kept) :
    rename names style table text ≠ kept := by
  refine rename_preserves (motive := (· ≠ kept)) ?_ style different
  intro name isName alternative isAlias text occurs _ same
  have isThere := Text.infix_replaceAll (nonempty name isName) occurs alternative
  exact aliasAbsent name isName alternative isAlias (same ▸ isThere)

/-- A word that is renamed to itself and has no alias in it is as frequent as before. -/
theorem count_words_rename
    {names : List Text}
    {table : AliasTable}
    {kept : Text}
    (areWords : ∀ name ∈ names, name.IsWord)
    (aliasWords :
      ∀ name ∈ names, ∀ alternative, table.aliasFor? name = some alternative →
        alternative.IsWord)
    (aliasAbsent :
      ∀ name ∈ names, ∀ alternative, table.aliasFor? name = some alternative →
        ¬ alternative <:+: kept)
    {style : Text}
    (fixed : rename names style table kept = kept)
    (text : Text) :
    (Text.words (rename names style table text)).count kept = (Text.words text).count kept := by
  have nonempty : ∀ name ∈ names, name ≠ [] := fun name isName => (areWords name isName).nonempty
  have sameWord : ∀ word : Text, rename names style table word = kept ↔ word = kept := by
    intro word
    constructor
    · intro same
      by_contra different
      exact rename_ne nonempty aliasAbsent style different same
    · rintro rfl
      exact fixed
  rw [words_rename areWords aliasWords, List.count_eq_countP, List.countP_map,
    List.count_eq_countP]
  refine List.countP_congr ?_
  intro word _
  simp [sameWord]

/--
If hashes occur in a text only as the whole text, and in no alias, the renamed
text is like that too.
-/
theorem eq_of_infix_rename
    {names hashes : List Text}
    {table : AliasTable}
    (nonempty : ∀ name ∈ names, name ≠ [])
    (areHashes : ∀ name ∈ names, name ∈ hashes)
    (aliasFree :
      ∀ name ∈ names, ∀ alternative, table.aliasFor? name = some alternative →
        ∀ hash ∈ hashes, ¬ hash <:+: alternative)
    (style : Text)
    {text : Text}
    (whole : ∀ hash ∈ hashes, hash <:+: text → text = hash) :
    ∀ hash ∈ hashes,
      hash <:+: rename names style table text → rename names style table text = hash := by
  refine rename_preserves
    (motive := fun text => ∀ hash ∈ hashes, hash <:+: text → text = hash) ?_ style whole
  intro name isName alternative isAlias text occurs wholeText hash isHash inResult
  rw [wholeText name (areHashes name isName) occurs,
    Text.replaceAll_self (nonempty name isName)] at inResult
  exact absurd inResult (aliasFree name isName alternative isAlias hash isHash)

end StyledMarkup
