import StyledMarkup.Proofs.Report.Rows
import StyledMarkup.Proofs.Text.Encoding
import StyledMarkup.Proofs.Text.Splitting

namespace StyledMarkup.Report

open List Text

/-!
# Where a report points

A report points at a character if it names the line and the column of the
character and has its label on this character alone.  Places in the source are
counted in characters, but the offset of an error counts bytes: the report of an
error points at its character if and only if no character in front of it has
more than one byte.
-/

/-! ## Parts of a report -/

/-- The first line of a report. -/
def title (error : Css.Error) : Text :=
  shaded .marked (Text.of "Error:") ++ ' ' :: error.shown ++ ['\n']

/-- The line of a report that names the position of the error. -/
def heading (filename : Text) (line column : Nat) : Text :=
  repeated [' '] ((Text.ofNat line).length + 2) ++ shaded .frame ['╭'] ++ shaded .frame ['─'] ++
    shaded .frame ['['] ++ filename ++
      ':' :: Text.ofNat line ++ ':' :: Text.ofNat column ++ shaded .frame [']'] ++ ['\n']

/-- Characters from a column on, all in one color. -/
def charsIn (shade : Shade) (column : Nat) : Text → Text
  | [] => []
  | c :: rest =>
      let (shown, width) := cell column c
      (if isBlank shown then repeated (shaded shade [shown]) width else shaded shade [shown]) ++
        charsIn shade (column + 1) rest

/--
A line with the character of one column in the color of the label.  Behind the
line no character is in this color: blanks at its end are not shown, and a label
on one of them is only the mark below.
-/
def labelledChars (place : Nat) (text : Text) : Text :=
  charsIn .plain 0 (text.take place) ++ charsIn .marked place ((text.drop place).take 1) ++
    charsIn .plain (place + 1) (text.drop (place + 1))

/-- The width of a character in a column; behind the line every column has width one. -/
def widthOf (column : Nat) : Option Char → Nat
  | some c => (cell column c).2
  | none => 1

/-- The mark below a character, behind as much space as the characters in front of it take. -/
def markBelow (place : Nat) (text : Text) : Text :=
  (widthsFrom 0 place text).flatMap (repeated [' ']) ++
    widened (widthOf place text[place]?) (shaded .marked ['┬']) (shaded .marked ['─'])

/-- A report up to the mark of its label, which is on the character in the column it names. -/
def pointed (error : Css.Error) (filename : Text) (line column : Nat) (text : Text) : Text :=
  let width := (Text.ofNat line).length
  title error ++ heading filename line column ++
    repeated [' '] (width + 2) ++ shaded .frame ['│'] ++ ['\n'] ++
      ' ' :: shaded .frame (Text.ofNat line ++ Text.of " │") ++
        ' ' :: labelledChars (column - 1) text ++ ['\n'] ++
          emptyMargin width ++ markBelow (column - 1) text

/-- The report names the position of a character. -/
def NamesPosition (report : Text) (error : Css.Error) (filename before : Text) : Prop :=
  title error ++ heading filename (Css.Error.lineOf before) (Css.Error.columnOf before) <+: report

/-- The report names the position of a character and has its label on this character alone. -/
def PointsAt
    (report : Text)
    (error : Css.Error)
    (filename before : Text)
    (character : Char)
    (after : Text) :
    Prop :=
  pointed error filename (Css.Error.lineOf before) (Css.Error.columnOf before)
    (trimEnd (lineFront before ++ character :: lineRest after)) <+: report

/-! ## The label of one character -/

theorem charsFrom_of_behind
    {place column : Nat}
    (isBehind : place < column)
    (text : Text) :
    charsFrom place (place + 1) column text = charsIn .plain column text := by
  induction text generalizing column with
  | nil =>
      rfl
  | cons c rest inductionHypothesis =>
      rw [charsFrom, charsIn, inductionHypothesis (by omega), if_neg (by omega)]

/-- The label of one column marks the character in this column and no other one. -/
theorem charsFrom_eq
    {place column : Nat}
    (notBehind : column ≤ place)
    (text : Text) :
    charsFrom place (place + 1) column text =
      charsIn .plain column (text.take (place - column)) ++
        charsIn .marked place ((text.drop (place - column)).take 1) ++
          charsIn .plain (place + 1) (text.drop (place - column + 1)) := by
  induction text generalizing column with
  | nil =>
      simp [charsFrom, charsIn]
  | cons c rest inductionHypothesis =>
      rw [charsFrom]
      rcases Nat.eq_or_lt_of_le notBehind with rfl | isFront
      · rw [charsFrom_of_behind (Nat.lt_succ_self _), if_pos (by omega)]
        simp [charsIn]
      · obtain ⟨between, isBetween⟩ : ∃ between, place - column = between + 1 :=
          ⟨place - column - 1, by omega⟩
        have later : place - (column + 1) = between := by
          omega
        rw [inductionHypothesis isFront, if_neg (by omega), isBetween, later]
        simp [charsIn]

theorem widthsFrom_succ
    (column count : Nat)
    (text : Text) :
    widthsFrom column (count + 1) text =
      widthOf column text.head? :: widthsFrom (column + 1) count text.tail := by
  cases text <;> rfl

/-- The mark of a row stands below its column. -/
theorem exists_pointerRow_eq
    (mark tail after : Text)
    (column front more : Nat)
    (text : Text) :
    ∃ rest,
      pointerRow (column + front) mark tail after column (widthsFrom column (front + more + 1) text) =
        (widthsFrom column front text).flatMap (repeated [' ']) ++
          widened (widthOf (column + front) text[front]?) mark tail ++ rest := by
  induction front generalizing column text with
  | zero =>
      rw [widthsFrom_succ, Nat.add_zero, pointerRow, if_pos rfl, List.head?_eq_getElem?]
      exact ⟨_, rfl⟩
  | succ front inductionHypothesis =>
      obtain ⟨rest, isRest⟩ := inductionHypothesis (column + 1) text.tail
      have samePlace : column + (front + 1) = column + 1 + front := by
        omega
      have sameCount : front + 1 + more = front + more + 1 := by
        omega
      refine ⟨rest, ?_⟩
      rw [samePlace, widthsFrom_succ, pointerRow, if_neg (by omega), if_neg (by omega), sameCount,
        isRest, widthsFrom_succ, List.flatMap_cons, List.getElem?_tail]
      simp only [List.append_assoc]

/-! ## The start of a report -/

/-- The row of a label of one character shows its line and has the mark below the character. -/
theorem prefix_labelledLine
    (width : Nat)
    (row : Row)
    (place : Nat)
    (message : Text) :
    ' ' :: shaded .frame (Text.ofNat (row.number + 1) ++ Text.of " │") ++
        ' ' :: labelledChars place (trimEnd row.text) ++ ['\n'] ++
          emptyMargin width ++ markBelow place (trimEnd row.text) <+:
      labelledLine width row place (place + 1) message := by
  obtain ⟨rest, isRest⟩ :=
    exists_pointerRow_eq (shaded .marked ['┬']) (shaded .marked ['─']) [' '] 0 place 2
      (trimEnd row.text)
  rw [Nat.zero_add] at isRest
  have shown := charsFrom_eq (Nat.zero_le place) (trimEnd row.text)
  rw [Nat.sub_zero] at shown
  simp only [labelledLine, Nat.ne_of_lt (Nat.lt_succ_self place), if_false, isRest, shown]
  simp only [labelledChars, markBelow, List.append_assoc, List.cons_append, List.cons_prefix_cons,
    List.prefix_append_right_inj, true_and]
  exact List.prefix_append _ _

/-- The part that shows the source names the line of its row and the column in it. -/
theorem exists_excerpt_eq
    (filename message : Text)
    (row : Row)
    (start stop : Nat) :
    ∃ rest,
      excerpt filename message row start stop =
        heading filename (row.number + 1) (start - row.start + 1) ++ rest := by
  rw [excerpt, heading]
  simp only [List.append_assoc, List.cons_append, List.nil_append]
  exact ⟨_, rfl⟩

/-- If the label is inside of the row, its line is shown with the label. -/
theorem exists_excerpt_eq_of_inside
    (filename message : Text)
    {row : Row}
    {start stop : Nat}
    (isInside : stop ≤ row.stop) :
    ∃ rest,
      excerpt filename message row start stop =
        heading filename (row.number + 1) (start - row.start + 1) ++
          (repeated [' '] ((Text.ofNat (row.number + 1)).length + 2) ++ shaded .frame ['│'] ++ ['\n'] ++
            labelledLine (Text.ofNat (row.number + 1)).length row (start - row.start)
              (stop - row.start) message ++ rest) := by
  rw [excerpt, heading, if_pos isInside]
  simp only [List.append_assoc, List.cons_append, List.nil_append]
  exact ⟨_, rfl⟩

theorem print_of_offset?
    {source : Text}
    {error : Css.Error}
    {start : Nat}
    (hasPlace : error.offset? source = some start)
    (filename : Text) :
    print source filename error =
      title error ++
        ((row? source start).map fun row =>
          excerpt filename error.message row start (labelStop source start)).getD [] := by
  rw [print, hasPlace, title]
  cases isFound : row? source start with
  | none =>
      simp [isFound]
  | some row =>
      simp [isFound]

/-- A text in front of the first of some characters can be read back. -/
theorem append_cons_inj
    {separator : Char}
    {left other right rest : Text}
    (absent : separator ∉ left)
    (absentToo : separator ∉ other)
    (same : left ++ separator :: right = other ++ separator :: rest) :
    left = other ∧ right = rest := by
  have cuts := congrArg (Text.cutFirst? [separator]) same
  rw [cutFirst?_append_separator absent, cutFirst?_append_separator absentToo] at cuts
  simpa using cuts

theorem not_mem_repeated_space
    {character : Char}
    (isOther : character ≠ ' ')
    (count : Nat) :
    character ∉ repeated [' '] count := by
  induction count with
  | zero =>
      simp [repeated]
  | succ count inductionHypothesis =>
      simp [repeated, isOther, inductionHypothesis]

/-- The line and the column can be read back from the line of a report that names them. -/
theorem heading_inj
    {filename : Text}
    {line column otherLine otherColumn : Nat}
    {rest others : Text}
    (same :
      heading filename line column ++ rest = heading filename otherLine otherColumn ++ others) :
    line = otherLine ∧ column = otherColumn := by
  -- Escapes and colons end the numbers: neither is a digit, and the margin has only spaces.
  have spaces : ∀ count, '\x1b' ∉ repeated [' '] count := not_mem_repeated_space (by decide)
  have colons : ∀ number, ':' ∉ Text.ofNat number := Text.not_mem_ofNat rfl
  have escapes : ∀ number, '\x1b' ∉ Text.ofNat number := Text.not_mem_ofNat rfl
  simp only [heading, shaded, List.append_assoc, List.cons_append, List.nil_append] at same
  obtain ⟨-, same⟩ := append_cons_inj (spaces _) (spaces _) same
  simp only [List.append_cancel_left_eq, List.cons.injEq, true_and] at same
  obtain ⟨sameLine, same⟩ := append_cons_inj (colons line) (colons otherLine) same
  obtain ⟨sameColumn, -⟩ := append_cons_inj (escapes column) (escapes otherColumn) same
  exact ⟨Text.ofNat_injective sameLine, Text.ofNat_injective sameColumn⟩

theorem trimEnd_append_lineFeed
    (text : Text) :
    trimEnd (text ++ ['\n']) = trimEnd text := by
  simp [trimEnd, isBlank]

/-! ## Bytes and characters -/

theorem length_le_byteLength
    (text : Text) :
    text.length ≤ byteLength text := by
  induction text with
  | nil =>
      exact Nat.le_refl 0
  | cons first rest inductionHypothesis =>
      have hasByte := first.utf8Size_pos
      rw [List.length_cons, byteLength]
      omega

theorem byteLength_eq_length_iff
    (text : Text) :
    byteLength text = text.length ↔ ∀ character ∈ text, character.utf8Size = 1 := by
  induction text with
  | nil =>
      simp [byteLength]
  | cons first rest inductionHypothesis =>
      have hasByte := first.utf8Size_pos
      have enough := length_le_byteLength rest
      rw [List.forall_mem_cons, ← inductionHypothesis, byteLength, List.length_cons]
      omega

/-! ## Where the report of an error points -/

section Reports

variable {before after : Text} {character : Char}

/-- A report that names the position of the character has counted one byte for each in front. -/
theorem NamesPosition.oneByte
    (visible : character ≠ '\n')
    (lineFeeds : EndsAtLineFeeds (before ++ character :: after))
    {error : Css.Error}
    (hasPlace : error.offset? (before ++ character :: after) = some (byteLength before))
    {filename : Text}
    (names :
      NamesPosition (print (before ++ character :: after) filename error) error filename before) :
    ∀ other ∈ before, other.utf8Size = 1 := by
  rw [NamesPosition, print_of_offset? hasPlace, List.prefix_append_right_inj] at names
  rw [← byteLength_eq_length_iff]
  cases isFound : row? (before ++ character :: after) (byteLength before) with
  | none =>
      rw [isFound] at names
      simp [heading] at names
  | some row =>
      obtain ⟨rest, isExcerpt⟩ :=
        exists_excerpt_eq filename error.message row (byteLength before)
          (labelStop (before ++ character :: after) (byteLength before))
      rw [isFound, Option.map_some, Option.getD_some, isExcerpt] at names
      obtain ⟨others, same⟩ := names
      obtain ⟨sameLine, sameColumn⟩ := heading_inj same
      rw [Css.Error.lineOf] at sameLine
      rw [Css.Error.columnOf] at sameColumn
      exact place_of_row? visible lineFeeds isFound (by omega) (by omega)

/-- With one byte for each character in front, the report points at the character. -/
theorem pointsAt_of_oneByte
    (visible : character ≠ '\n')
    (lineFeeds : EndsAtLineFeeds (before ++ character :: after))
    {error : Css.Error}
    (hasPlace : error.offset? (before ++ character :: after) = some (byteLength before))
    (oneByte : ∀ other ∈ before, other.utf8Size = 1)
    (filename : Text) :
    PointsAt (print (before ++ character :: after) filename error) error filename before character
      after := by
  rw [← byteLength_eq_length_iff] at oneByte
  obtain ⟨row, ending, isFound, isNumber, isStart, isText, isEnding⟩ :=
    exists_row?_of_character visible lineFeeds
  -- The line feed of a row is a blank at its end, which no report shows.
  have sameText :
      trimEnd row.text = trimEnd (lineFront before ++ character :: lineRest after) := by
    rcases isEnding with rfl | rfl
    · rw [isText, List.append_nil]
    · rw [isText, trimEnd_append_lineFeed]
  have isStop :
      labelStop (before ++ character :: after) before.length = before.length + 1 := by
    have bounds := Css.Error.labelStop_bounds before (character :: after)
    have hasByte := character.utf8Size_pos
    rw [oneByte, byteLength_append, byteLength, oneByte] at bounds
    omega
  have isInside : before.length + 1 ≤ row.stop := by
    rw [Row.stop, isText]
    simp only [List.length_append, List.length_cons]
    omega
  have lineIs : row.number + 1 = Css.Error.lineOf before := by
    rw [Css.Error.lineOf, isNumber, Nat.add_comm]
  have columnIs : before.length - row.start + 1 = Css.Error.columnOf before := by
    rw [Css.Error.columnOf]
    omega
  have firstIs : before.length - row.start = Css.Error.columnOf before - 1 := by
    omega
  have lastIs : before.length + 1 - row.start = Css.Error.columnOf before - 1 + 1 := by
    omega
  obtain ⟨rest, isExcerpt⟩ := exists_excerpt_eq_of_inside filename error.message isInside
  obtain ⟨others, isLabelled⟩ :=
    prefix_labelledLine (Text.ofNat (Css.Error.lineOf before)).length row
      (Css.Error.columnOf before - 1) error.message
  rw [lineIs, sameText] at isLabelled
  rw [lineIs, columnIs, firstIs, lastIs, ← isLabelled] at isExcerpt
  rw [PointsAt, print_of_offset? hasPlace, oneByte, isFound, Option.map_some, Option.getD_some, isStop,
    isExcerpt, pointed]
  simp only [List.append_assoc, List.cons_append, List.nil_append, List.prefix_append_right_inj,
    List.cons_prefix_cons, true_and]
  exact List.prefix_append _ _

theorem PointsAt.namesPosition
    {report filename : Text}
    {error : Css.Error}
    (points : PointsAt report error filename before character after) :
    NamesPosition report error filename before := by
  refine List.IsPrefix.trans ?_ points
  simp only [pointed, List.append_assoc, List.prefix_append_right_inj]
  exact List.prefix_append _ _

/--
In a source whose lines end at line feeds, the report of an error at the
position of a character points at this character exactly if no character in
front of it has more than one byte; otherwise it even names another position.
-/
theorem pointsAt_iff_oneByte
    (visible : character ≠ '\n')
    (lineFeeds : EndsAtLineFeeds (before ++ character :: after))
    (message filename : Text) :
    let error := Css.Error.malformed message (Css.Error.lineOf before) (Css.Error.columnOf before)
    let report := print (before ++ character :: after) filename error
    (PointsAt report error filename before character after ↔
        ∀ other ∈ before, other.utf8Size = 1) ∧
      (NamesPosition report error filename before ↔ ∀ other ∈ before, other.utf8Size = 1) := by
  intro error report
  have hasPlace : error.offset? (before ++ character :: after) = some (byteLength before) :=
    Css.Error.offset?_of_position message before (character :: after)
  have points (oneByte : ∀ other ∈ before, other.utf8Size = 1) :
      PointsAt report error filename before character after :=
    pointsAt_of_oneByte visible lineFeeds hasPlace oneByte filename
  have oneByte (names : NamesPosition report error filename before) :
      ∀ other ∈ before, other.utf8Size = 1 :=
    names.oneByte visible lineFeeds hasPlace
  constructor
  · exact ⟨fun pointsAt => oneByte pointsAt.namesPosition, points⟩
  · exact ⟨oneByte, fun areBytes => (points areBytes).namesPosition⟩

end Reports

/-- Longer characters behind the error do no harm. -/
theorem pointsAt_iff_oneByte_of_later_bytes :
    let before := Text.of "a\x7b\x7d\n\t."
    let after := Text.of "é\x7b\x7d\n"
    let error := Css.Error.malformed (Text.of "bad") 2 3
    let report := print (before ++ '.' :: after) (Text.of "a.css") error
    '.' ≠ '\n' ∧ EndsAtLineFeeds (before ++ '.' :: after) ∧
      (∀ other ∈ before, other.utf8Size = 1) ∧
        PointsAt report error (Text.of "a.css") before '.' after ∧
          NamesPosition report error (Text.of "a.css") before := by
  intro before after error report
  have visible : '.' ≠ '\n' := by
    decide
  have lineFeeds : EndsAtLineFeeds (before ++ '.' :: after) := by
    decide
  have oneByte : ∀ other ∈ before, other.utf8Size = 1 :=
    (byteLength_eq_length_iff before).mp (by decide)
  obtain ⟨points_iff, names_iff⟩ :=
    pointsAt_iff_oneByte visible lineFeeds (Text.of "bad") (Text.of "a.css")
  exact ⟨visible, lineFeeds, oneByte, points_iff.mpr oneByte, names_iff.mpr oneByte⟩

/-- Behind a character of two bytes the report of an error names and marks the next character. -/
theorem print_points_behind_longer_character :
    let before := Text.of "/*é*/."
    let after := Text.of "b\x7b\x7d"
    let error := Css.Error.malformed
      (Text.of "Expected identifier in class selector, got Delim('.')") 1 7
    let report := print (before ++ '.' :: after) (Text.of "styles.css") error
    (match Css.parse (before ++ '.' :: after) with
      | .error found => some found
      | .ok _ => none) = some error ∧
      EndsAtLineFeeds (before ++ '.' :: after) ∧
        (Css.Error.lineOf before, Css.Error.columnOf before) = (1, 7) ∧
          pointed error (Text.of "styles.css") 1 8 (before ++ '.' :: after) <+: report ∧
            ¬ NamesPosition report error (Text.of "styles.css") before ∧
              ¬ PointsAt report error (Text.of "styles.css") before '.' after := by
  intro before after error report
  refine ⟨by decide +kernel, by decide, by decide, by decide +kernel, ?_, ?_⟩
  · unfold NamesPosition
    decide +kernel
  · unfold PointsAt
    decide +kernel

end StyledMarkup.Report
