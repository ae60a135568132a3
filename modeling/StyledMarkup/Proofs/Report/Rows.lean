import StyledMarkup.Proofs.Css.Offsets

namespace StyledMarkup.Report

open List Text

/-!
# Rows of a source

A report finds the row of a place by the number of characters in front of it.
If lines end at line feeds only, a character of the source stands in the row
with as many rows above it as there are line feeds in front of the character,
behind the characters of its line; and no other place has this row and column.
-/

/-- Of the characters that end a line, a text has line feeds only. -/
def EndsAtLineFeeds (text : Text) : Prop :=
  ∀ character ∈ text, endsLine character = true → character = '\n'

instance (text : Text) : Decidable (EndsAtLineFeeds text) :=
  List.decidableBAll (fun character => endsLine character = true → character = '\n') text

/-! ## Lines -/

theorem linesFrom_cons
    {first : Char}
    (goesOn : endsLine first = false)
    (line rest : Text) :
    linesFrom line (first :: rest) = linesFrom (line ++ [first]) rest := by
  rw [linesFrom]
  · rw [if_neg (by simp [goesOn])]
  · rintro rest rfl
    simp [endsLine] at goesOn

/-- Up to the next line end everything belongs to the line. -/
theorem linesFrom_append
    {more : Text}
    (goesOn : ∀ character ∈ more, endsLine character = false)
    (line rest : Text) :
    linesFrom line (more ++ rest) = linesFrom (line ++ more) rest := by
  induction more generalizing line with
  | nil =>
      simp
  | cons first others inductionHypothesis =>
      rw [List.forall_mem_cons] at goesOn
      rw [List.cons_append, linesFrom_cons goesOn.1, inductionHypothesis goesOn.2]
      simp

theorem linesFrom_lineFeed
    (line rest : Text) :
    linesFrom line ('\n' :: rest) = (line ++ ['\n']) :: linesFrom [] rest := by
  rw [linesFrom]
  · rfl
  · rintro rest ⟨⟩

/-- In a text with line feeds only, a line without one goes on to its end. -/
theorem EndsAtLineFeeds.goesOn
    {text line : Text}
    (lineFeeds : EndsAtLineFeeds text)
    (isPart : line ⊆ text)
    (endless : '\n' ∉ line) :
    ∀ character ∈ line, endsLine character = false := by
  intro character isThere
  cases isEnd : endsLine character with
  | false =>
      rfl
  | true =>
      obtain rfl := lineFeeds character (isPart isThere) isEnd
      exact absurd isThere endless

/-- So many lines with their ends are the first lines of every text that starts with them. -/
theorem exists_lines_append
    {count : Nat}
    {text : Text}
    (areLines : Lines count text)
    (lineFeeds : EndsAtLineFeeds text) :
    ∃ firsts,
      firsts.length = count ∧ firsts.flatten = text ∧
        ∀ rest, lines (text ++ rest) = firsts ++ lines rest := by
  induction areLines with
  | none =>
      exact ⟨[], rfl, rfl, fun _ => rfl⟩
  | @more count line others endless areLines inductionHypothesis =>
      have goesOn := lineFeeds.goesOn (List.subset_append_left line ('\n' :: others)) endless
      have othersEnd : EndsAtLineFeeds others := by
        intro character isThere
        exact lineFeeds character (by simp [isThere])
      obtain ⟨firsts, sameLength, isText, areFirst⟩ := inductionHypothesis othersEnd
      refine ⟨(line ++ ['\n']) :: firsts, by simp [sameLength], by simp [isText], ?_⟩
      intro rest
      rw [List.append_assoc, List.cons_append, lines, linesFrom_append goesOn,
        linesFrom_lineFeed, List.nil_append, List.cons_append]
      exact congrArg _ (areFirst rest)

/-- The line of a character is the first one of what starts with the line. -/
theorem exists_lines_cons
    {front after : Text}
    {character : Char}
    (endless : '\n' ∉ front ++ [character])
    (lineFeeds : EndsAtLineFeeds (front ++ character :: after)) :
    ∃ ending more,
      (ending = [] ∨ ending = ['\n']) ∧
        lines (front ++ character :: after) =
          (front ++ character :: lineRest after ++ ending) :: more := by
  have wholeEndless : '\n' ∉ front ++ character :: lineRest after := by
    intro isThere
    rw [← List.singleton_append, ← List.append_assoc, List.mem_append] at isThere
    rcases isThere with inFront | inRest
    · exact endless inFront
    · simpa using List.mem_takeWhile_imp inRest
  have isPart : front ++ character :: lineRest after <+: front ++ character :: after := by
    rw [List.prefix_append_right_inj, List.cons_prefix_cons]
    exact ⟨rfl, List.takeWhile_prefix _⟩
  have goesOn := lineFeeds.goesOn isPart.subset wholeEndless
  have shape : front ++ character :: after =
      (front ++ character :: lineRest after) ++ after.dropWhile (· ≠ '\n') := by
    rw [List.append_assoc, List.cons_append, lineRest, List.takeWhile_append_dropWhile]
  rw [shape, lines, linesFrom_append goesOn, List.nil_append]
  cases behind : after.dropWhile (· ≠ '\n') with
  | nil =>
      refine ⟨[], [], Or.inl rfl, ?_⟩
      simp [linesFrom]
  | cons feed rest =>
      have isFeed : feed = '\n' := by
        have head := List.head?_dropWhile_not (· ≠ '\n') after
        rw [behind] at head
        simpa using head
      rw [isFeed, linesFrom_lineFeed]
      exact ⟨['\n'], linesFrom [] rest, Or.inr rfl, rfl⟩

/-! ## Rows -/

/-- The search passes over lines that end in front of the place. -/
theorem rowFrom_append
    {firsts : List Text}
    {start place : Nat}
    (passed : start + firsts.flatten.length ≤ place)
    (number : Nat)
    (line : Text)
    (more : List Text) :
    rowFrom number start place (firsts ++ line :: more) =
      rowFrom (number + firsts.length) (start + firsts.flatten.length) place (line :: more) := by
  induction firsts generalizing number start with
  | nil =>
      rfl
  | cons first others inductionHypothesis =>
      rw [List.flatten_cons, List.length_append] at passed
      obtain ⟨next, rest, isNext⟩ : ∃ next rest, others ++ line :: more = next :: rest :=
        List.exists_cons_of_ne_nil (by simp)
      rw [List.cons_append, isNext, rowFrom, if_neg (by omega), ← isNext,
        inductionHypothesis (by omega)]
      simp [Nat.add_assoc, Nat.add_comm, Nat.add_left_comm]

theorem rowFrom_cons
    {start place : Nat}
    {line : Text}
    (isInside : place < start + line.length)
    (number : Nat)
    (more : List Text) :
    rowFrom number start place (line :: more) = some ⟨number, start, line⟩ := by
  cases more with
  | nil =>
      rw [rowFrom, if_pos (Nat.le_of_lt isInside)]
  | cons next rest =>
      rw [rowFrom, if_pos isInside]

/-- A row that was found has its number and its start from the lines in front of it. -/
theorem exists_of_rowFrom
    {lines : List Text}
    {number start place : Nat}
    {row : Row}
    (isFound : rowFrom number start place lines = some row)
    (isBehind : start ≤ place) :
    ∃ firsts more,
      lines = firsts ++ more ∧ row.number = number + firsts.length ∧
        row.start = start + firsts.flatten.length ∧ row.start ≤ place := by
  induction lines generalizing number start with
  | nil =>
      simp [rowFrom] at isFound
  | cons line rest inductionHypothesis =>
      cases rest with
      | nil =>
          rw [rowFrom] at isFound
          split at isFound
          · obtain rfl := Option.some.inj isFound
            exact ⟨[], [line], rfl, rfl, rfl, isBehind⟩
          · simp at isFound
      | cons next others =>
          rw [rowFrom] at isFound
          split at isFound
          · obtain rfl := Option.some.inj isFound
            exact ⟨[], line :: next :: others, rfl, rfl, rfl, isBehind⟩
          · rename_i notHere
            obtain ⟨firsts, more, isSplit, isNumber, isStart, isInside⟩ :=
              inductionHypothesis isFound (by omega)
            refine ⟨line :: firsts, more, by rw [isSplit, List.cons_append], ?_, ?_, isInside⟩
            · rw [isNumber, List.length_cons]
              omega
            · rw [isStart, List.flatten_cons, List.length_append, Nat.add_assoc]

section Rows

variable {before after : Text} {character : Char}

/-- The rows above a character are the lines in front of its line. -/
theorem exists_rows_above
    (visible : character ≠ '\n')
    (lineFeeds : EndsAtLineFeeds (before ++ character :: after)) :
    ∃ firsts ending more,
      lines (before ++ character :: after) =
          firsts ++ (lineFront before ++ character :: lineRest after ++ ending) :: more ∧
        (ending = [] ∨ ending = ['\n']) ∧ firsts.length = before.count '\n' ∧
          firsts.flatten.length + (lineFront before).length = before.length := by
  obtain ⟨above, shape, areLines, endless⟩ := exists_lines_lineFront before
  have sourceShape : before ++ character :: after =
      above ++ (lineFront before ++ character :: after) := by
    rw [← List.append_assoc, ← shape]
  rw [sourceShape] at lineFeeds ⊢
  obtain ⟨firsts, sameLength, isAbove, areFirst⟩ :=
    exists_lines_append areLines fun other isThere =>
      lineFeeds other (List.mem_append_left _ isThere)
  obtain ⟨ending, more, isEnding, isLine⟩ :=
    exists_lines_cons (by simpa [visible.symm] using endless) fun other isThere =>
      lineFeeds other (List.mem_append_right _ isThere)
  refine ⟨firsts, ending, more, ?_, isEnding, sameLength, ?_⟩
  · rw [areFirst, isLine]
  · rw [isAbove, ← List.length_append, ← shape]

/-- The row of a character has its line, and starts so many characters in front of it. -/
theorem exists_row?_of_character
    (visible : character ≠ '\n')
    (lineFeeds : EndsAtLineFeeds (before ++ character :: after)) :
    ∃ row ending,
      row? (before ++ character :: after) before.length = some row ∧
        row.number = before.count '\n' ∧
          row.start + (lineFront before).length = before.length ∧
            row.text = lineFront before ++ character :: lineRest after ++ ending ∧
              (ending = [] ∨ ending = ['\n']) := by
  obtain ⟨firsts, ending, more, areLines, isEnding, isNumber, isStart⟩ :=
    exists_rows_above visible lineFeeds
  refine ⟨⟨firsts.length, firsts.flatten.length,
    lineFront before ++ character :: lineRest after ++ ending⟩, ending, ?_, isNumber, isStart,
    rfl, isEnding⟩
  rw [row?, areLines, rowFrom_append (by omega), rowFrom_cons, Nat.zero_add, Nat.zero_add]
  simp only [List.length_append, List.length_cons]
  omega

/-- The only place in the row and the column of a character is its own. -/
theorem place_of_row?
    (visible : character ≠ '\n')
    (lineFeeds : EndsAtLineFeeds (before ++ character :: after))
    {place : Nat}
    {row : Row}
    (isFound : row? (before ++ character :: after) place = some row)
    (sameNumber : row.number = before.count '\n')
    (sameColumn : place - row.start = (lineFront before).length) :
    place = before.length := by
  obtain ⟨firsts, ending, more, areLines, -, isNumber, isStart⟩ :=
    exists_rows_above visible lineFeeds
  obtain ⟨passed, rest, isSplit, passedNumber, passedStart, isBehind⟩ :=
    exists_of_rowFrom isFound (Nat.zero_le place)
  -- As many rows are above the found one as above the character, so they are the same rows.
  rw [areLines] at isSplit
  have sameRows : firsts = passed :=
    (List.append_inj isSplit (by omega)).1
  rw [sameRows] at isStart
  omega

end Rows

end StyledMarkup.Report
