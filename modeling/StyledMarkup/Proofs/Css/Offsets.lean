import StyledMarkup.Report
import Mathlib.Data.List.DropRight

namespace StyledMarkup

/-!
# Offsets and positions

A position is a line and a column, both counted from one; an offset counts
bytes.  The offset of an error at the position behind a text is the number of
bytes of this text.  A position on a line that the source has leads to a place
on this line, at its end if the line is too short; no other position leads
anywhere.
-/

namespace Text

theorem byteLength_append
    (left right : Text) :
    byteLength (left ++ right) = byteLength left + byteLength right := by
  induction left with
  | nil =>
      simp [byteLength]
  | cons first rest inductionHypothesis =>
      rw [List.cons_append, byteLength, byteLength, inductionHypothesis, Nat.add_assoc]

/-! ## Lines -/

/-- The characters behind the last line end of a text. -/
def lineFront (before : Text) : Text := before.rtakeWhile (· ≠ '\n')

/-- The characters in front of the first line end of a text. -/
def lineRest (after : Text) : Text := after.takeWhile (· ≠ '\n')

/-- What is in front of a line end does not belong to the last line. -/
theorem lineFront_append_end
    (left right : Text) :
    lineFront (left ++ '\n' :: right) = lineFront right := by
  simp only [lineFront, List.rtakeWhile, List.reverse_append, List.reverse_cons,
    List.append_assoc, List.singleton_append, List.takeWhile_append]
  split_ifs with whole
  · have isWhole := (List.takeWhile_prefix _).eq_of_length whole
    simpa using congrArg List.reverse isWhole.symm
  · rfl

theorem lineFront_of_endless
    {line : Text}
    (endless : '\n' ∉ line) :
    lineFront line = line := by
  rw [lineFront, List.rtakeWhile_eq_self_iff]
  intro character isThere
  rw [decide_eq_true_iff]
  rintro rfl
  exact endless isThere

theorem lineRest_append
    {line : Text}
    (endless : '\n' ∉ line)
    (after : Text) :
    lineRest (line ++ after) = line ++ lineRest after := by
  rw [lineRest, List.takeWhile_append_of_pos, lineRest]
  intro character isThere
  rw [decide_eq_true_iff]
  rintro rfl
  exact endless isThere

/-- A text of so many lines, all with their ends. -/
inductive Lines : Nat → Text → Prop where
  | none :
      Lines 0 []
  | more
      {count : Nat}
      {line rest : Text}
      (endless : '\n' ∉ line)
      (lines : Lines count rest) :
      Lines (count + 1) (line ++ '\n' :: rest)

/-- There are as many lines as line ends. -/
theorem Lines.count_eq
    {count : Nat}
    {text : Text}
    (lines : Lines count text) :
    text.count '\n' = count := by
  induction lines with
  | none =>
      rfl
  | more endless lines inductionHypothesis =>
      rw [List.count_append, List.count_eq_zero_of_not_mem endless, List.count_cons_self,
        inductionHypothesis, Nat.zero_add]

/-- The last line starts behind all lines with an end. -/
theorem Lines.lineFront_append
    {count : Nat}
    {text : Text}
    (lines : Lines count text)
    (front : Text) :
    lineFront (text ++ front) = lineFront front := by
  induction lines with
  | none =>
      rfl
  | more endless lines inductionHypothesis =>
      rw [List.append_assoc, List.cons_append, lineFront_append_end, inductionHypothesis]

/-- A text starts with as many lines as it has line ends, and with any smaller number of lines. -/
theorem exists_lines
    {count : Nat}
    {text : Text}
    (enough : count ≤ text.count '\n') :
    ∃ lines rest, text = lines ++ rest ∧ Lines count lines := by
  induction count generalizing text with
  | zero =>
      exact ⟨[], text, rfl, .none⟩
  | succ count inductionHypothesis =>
      have hasEnd : '\n' ∈ text := by
        rw [← List.count_pos_iff]
        omega
      obtain ⟨line, behind, rfl, endless⟩ := List.eq_append_cons_of_mem hasEnd
      rw [List.count_append, List.count_eq_zero_of_not_mem endless, List.count_cons_self] at enough
      obtain ⟨lines, rest, rfl, areLines⟩ := @inductionHypothesis behind (by omega)
      exact ⟨line ++ '\n' :: lines, rest, by simp, .more endless areLines⟩

/-- A text is the lines in front of its last one, and its last line. -/
theorem exists_lines_lineFront
    (before : Text) :
    ∃ lines,
      before = lines ++ lineFront before ∧ Lines (before.count '\n') lines ∧
        '\n' ∉ lineFront before := by
  obtain ⟨lines, front, shape, areLines⟩ := exists_lines (le_refl (before.count '\n'))
  have endless : '\n' ∉ front := by
    rw [← List.count_eq_zero]
    have counts := congrArg (List.count '\n') shape
    rw [List.count_append, areLines.count_eq] at counts
    omega
  have isFront : lineFront before = front := by
    rw [shape, areLines.lineFront_append, lineFront_of_endless endless]
  rw [isFront]
  exact ⟨lines, shape, areLines, endless⟩

end Text

namespace Css.Error

open Text

/-! ## The search for a place -/

/-- The search goes over the first line end. -/
theorem afterLines?_append_end
    {line : Text}
    (endless : '\n' ∉ line)
    (count : Nat)
    (rest : Text) :
    afterLines? (count + 1) (line ++ '\n' :: rest) =
      (afterLines? count rest).map fun (bytes, after) =>
        (byteLength (line ++ ['\n']) + bytes, after) := by
  induction line with
  | nil =>
      simp [afterLines?, byteLength]
  | cons first more inductionHypothesis =>
      simp only [List.mem_cons, not_or] at endless
      rw [List.cons_append, afterLines?, if_neg (Ne.symm endless.1), inductionHypothesis endless.2,
        Option.map_map]
      congr 1
      funext found
      simp [byteLength, Nat.add_assoc]

/-- Behind so many lines the search finds the rest and the bytes of these lines. -/
theorem afterLines?_of_lines
    {count : Nat}
    {lines : Text}
    (areLines : Lines count lines)
    (rest : Text) :
    afterLines? count (lines ++ rest) = some (byteLength lines, rest) := by
  induction areLines with
  | none =>
      simp [afterLines?, byteLength]
  | more endless areLines inductionHypothesis =>
      rw [List.append_assoc, List.cons_append, afterLines?_append_end endless,
        inductionHypothesis, Option.map_some]
      simp [byteLength_append, byteLength, Nat.add_assoc]

/-- Behind more lines than there are the search finds nothing. -/
theorem afterLines?_eq_none
    {count : Nat}
    {source : Text}
    (few : source.count '\n' < count) :
    afterLines? count source = none := by
  induction source generalizing count with
  | nil =>
      obtain ⟨fewer, rfl⟩ := Nat.exists_eq_succ_of_ne_zero (Nat.ne_zero_of_lt few)
      rfl
  | cons first rest inductionHypothesis =>
      obtain ⟨fewer, rfl⟩ := Nat.exists_eq_succ_of_ne_zero (Nat.ne_zero_of_lt few)
      rw [afterLines?]
      by_cases isEnd : first = '\n'
      · subst first
        rw [List.count_cons_self] at few
        rw [if_pos rfl, inductionHypothesis (by omega), Option.map_none]
      · rw [List.count_cons_of_ne isEnd] at few
        rw [if_neg isEnd, inductionHypothesis few, Option.map_none]

/-- The bytes of a column are those of the first characters of the line. -/
theorem columnBytes_eq
    (characters : Nat)
    (rest : Text) :
    columnBytes characters rest = byteLength ((lineRest rest).take characters) := by
  induction characters generalizing rest with
  | zero =>
      simp [columnBytes, byteLength]
  | succ characters inductionHypothesis =>
      cases rest with
      | nil =>
          simp [columnBytes, lineRest, byteLength]
      | cons first more =>
          by_cases isEnd : first = '\n'
          · simp [columnBytes, lineRest, byteLength, isEnd]
          · simp [columnBytes, lineRest, byteLength, isEnd, inductionHypothesis more]

/-- The offset of a position is behind the lines above it and the characters in front of it. -/
theorem offset?_of_lines
    {line column : Nat}
    {lines : Text}
    (areLines : Lines (line - 1) lines)
    (message rest : Text) :
    (malformed message line column).offset? (lines ++ rest) =
      some (byteLength (lines ++ (lineRest rest).take (column - 1))) := by
  rw [offset?, afterLines?_of_lines areLines, Option.map_some, byteLength_append,
    ← columnBytes_eq]

/-! ## Positions -/

/-- The line of the position behind a text. -/
def lineOf (before : Text) : Nat := 1 + before.count '\n'

/-- The column of the position behind a text. -/
def columnOf (before : Text) : Nat := 1 + (lineFront before).length

/-- The place between two texts is on this line, at this column or where the line ends before. -/
structure IsPlace (line column : Nat) (before after : Text) : Prop where
  line : before.count '\n' = line - 1
  column :
    (lineFront before).length = min (column - 1) (lineFront before ++ lineRest after).length

/-- The position behind a text leads to the bytes of this text. -/
theorem offset?_of_position
    (message before after : Text) :
    (malformed message (lineOf before) (columnOf before)).offset? (before ++ after) =
      some (byteLength before) := by
  obtain ⟨lines, shape, areLines, endless⟩ := exists_lines_lineFront before
  have isLine : Lines (lineOf before - 1) lines := by
    rwa [lineOf, Nat.add_sub_cancel_left]
  have isFront :
      (lineRest (lineFront before ++ after)).take (columnOf before - 1) = lineFront before := by
    rw [lineRest_append endless, columnOf, Nat.add_sub_cancel_left, List.take_left]
  calc
    (malformed message (lineOf before) (columnOf before)).offset? (before ++ after) =
        (malformed message (lineOf before) (columnOf before)).offset?
          (lines ++ (lineFront before ++ after)) := by
      rw [← List.append_assoc, ← shape]
    _ = some (byteLength before) := by
      rw [offset?_of_lines isLine, isFront, ← shape]

/-- A position on a line that the source has leads to a place on this line. -/
theorem exists_place
    (message : Text)
    {source : Text}
    {line : Nat}
    (enough : line - 1 ≤ source.count '\n')
    (column : Nat) :
    ∃ before after,
      source = before ++ after ∧
        (malformed message line column).offset? source = some (byteLength before) ∧
          IsPlace line column before after := by
  obtain ⟨lines, rest, rfl, areLines⟩ := exists_lines enough
  have endless : '\n' ∉ (lineRest rest).take (column - 1) := by
    intro isThere
    simpa using List.mem_takeWhile_imp (List.mem_of_mem_take isThere)
  obtain ⟨after, restShape⟩ : (lineRest rest).take (column - 1) <+: rest :=
    (List.take_prefix _ _).trans (List.takeWhile_prefix _)
  have isFront :
      lineFront (lines ++ (lineRest rest).take (column - 1)) =
        (lineRest rest).take (column - 1) := by
    rw [areLines.lineFront_append, lineFront_of_endless endless]
  have isLine : (lineRest rest).take (column - 1) ++ lineRest after = lineRest rest := by
    rw [← lineRest_append endless, restShape]
  refine ⟨lines ++ (lineRest rest).take (column - 1), after, ?_,
    offset?_of_lines areLines message rest, ?_, ?_⟩
  · rw [List.append_assoc, restShape]
  · rw [List.count_append, areLines.count_eq, List.count_eq_zero_of_not_mem endless, Nat.add_zero]
  · rw [isFront, isLine, List.length_take]

/-- A position on a line that the source does not have leads nowhere. -/
theorem offset?_eq_none
    (message : Text)
    {source : Text}
    {line : Nat}
    (few : source.count '\n' < line - 1)
    (column : Nat) :
    (malformed message line column).offset? source = none := by
  rw [offset?, afterLines?_eq_none few, Option.map_none]

/-- The label at the place between two texts is ordered and inside of the source. -/
theorem labelStop_bounds
    (before after : Text) :
    byteLength before ≤ Report.labelStop (before ++ after) (byteLength before) ∧
      Report.labelStop (before ++ after) (byteLength before) =
        min (byteLength before + 1) (byteLength (before ++ after)) := by
  rw [Report.labelStop, byteLength_append]
  omega

/--
The position behind a text leads to the bytes of this text.  A position on a
line that the source does not have leads nowhere; any other one leads to the
bytes of what is in front of its line and of so many characters of the line, or
of all if it has less, and the label of a report from there on is inside of the
source.  An error of printing has no place.
-/
theorem offset?_inverts_position
    (message : Text) :
    (∀ before after,
        (malformed message (lineOf before) (columnOf before)).offset? (before ++ after) =
          some (byteLength before)) ∧
      (∀ source line column,
        if source.count '\n' < line - 1 then
          (malformed message line column).offset? source = none
        else
          ∃ before after,
            source = before ++ after ∧
              (malformed message line column).offset? source = some (byteLength before) ∧
                IsPlace line column before after ∧
                  byteLength before ≤ Report.labelStop source (byteLength before) ∧
                    Report.labelStop source (byteLength before) =
                      min (byteLength before + 1) (byteLength source)) ∧
        ∀ source, (unprintable message).offset? source = none := by
  refine ⟨offset?_of_position message, ?_, fun _ => rfl⟩
  intro source line column
  split_ifs with few
  · exact offset?_eq_none message few column
  · obtain ⟨before, after, rfl, leads, isPlace⟩ :=
      exists_place message (Nat.le_of_not_lt few) column
    exact ⟨before, after, rfl, leads, isPlace, labelStop_bounds before after⟩

/-- Characters of two and of four bytes stand in front of the third character of the second line. -/
example :
    (malformed [] 2 3).offset? (Text.of "éa\n😀..b") = some 9 ∧
      (malformed [] 2 40).offset? (Text.of "éa\n😀..b") = some 11 ∧
        (malformed [] 0 0).offset? (Text.of "éa\n😀..b") = some 0 := by
  decide

end Css.Error

end StyledMarkup
