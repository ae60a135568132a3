import StyledMarkup.Css.Error
import StyledMarkup.Text.CharRange

namespace StyledMarkup

/-!
# Reports of errors

A report shows an error with the line of the source where it was found, in
the colors of a terminal.  Places in the source are counted in characters.
-/

namespace Report

/-! ## Lines of a source -/

/-- Characters that end a line. -/
def endsLine (c : Char) : Bool :=
  c == '\n' || c == '\r' || c.toNat == 0x0B || c.toNat == 0x0C || c.toNat == 0x85 ||
    c.toNat == 0x2028 || c.toNat == 0x2029

/-- The lines of a source with the characters that end them; `line` holds what was read so far. -/
def linesFrom (line : Text) : Text → List Text
  | [] => if line.isEmpty then [] else [line]
  | '\r' :: '\n' :: rest => (line ++ ['\r', '\n']) :: linesFrom [] rest
  | first :: rest =>
      if endsLine first then (line ++ [first]) :: linesFrom [] rest
      else linesFrom (line ++ [first]) rest

/-- The lines of a source; a source without characters has none. -/
def lines (source : Text) : List Text := linesFrom [] source

/-- A line with its number, counted from zero, and the number of characters in front of it. -/
structure Row where
  number : Nat
  start : Nat
  text : Text
deriving DecidableEq, Repr

/-- Number of characters up to the end of a line. -/
def Row.stop (row : Row) : Nat := row.start + row.text.length

/-- The line that holds a character, or the last one for the end of the source. -/
def rowFrom (number start place : Nat) : List Text → Option Row
  | [] => none
  | [last] => if place ≤ start + last.length then some ⟨number, start, last⟩ else none
  | line :: next :: rest =>
      if place < start + line.length then some ⟨number, start, line⟩
      else rowFrom (number + 1) (start + line.length) place (next :: rest)

/-- The line of a source that holds a character. -/
def row? (source : Text) (place : Nat) : Option Row := rowFrom 0 0 place (lines source)

/-! ## Colors -/

/-- The colors of a report. -/
inductive Shade where
  | frame
  | skipped
  | plain
  | marked

/-- The sequence that starts a color. -/
def Shade.code : Shade → Text
  | .frame => Text.of "[38;5;246m"
  | .skipped => Text.of "[38;5;240m"
  | .plain => Text.of "[38;5;249m"
  | .marked => Text.of "[31m"

/-- A text in a color. -/
def shaded (shade : Shade) (text : Text) : Text :=
  '\x1b' :: shade.code ++ text ++ '\x1b' :: Text.of "[0m"

/-! ## Columns -/

/-- Columns between two stops of a tabulator. -/
def tabWidth : Nat := 4

/-- How a character is shown in a column, and how many columns it takes. -/
def cell (column : Nat) (c : Char) : Char × Nat :=
  if c = '\t' then (' ', (column / tabWidth + 1) * tabWidth - column)
  else if isBlank c then (' ', 1)
  else (c, columnWidth c)

/-- The characters from a column on, each in its color; the marked range is given by columns. -/
def charsFrom (first last column : Nat) : Text → Text
  | [] => []
  | c :: rest =>
      let shade := if first ≤ column ∧ column < last then Shade.marked else .plain
      let (shown, width) := cell column c
      (if isBlank shown then Text.repeated (shaded shade [shown]) width else shaded shade [shown]) ++
        charsFrom first last (column + 1) rest

/-- The widths of some columns of a line; behind the line every column has width one. -/
def widthsFrom (column : Nat) : Nat → Text → List Nat
  | 0, _ => []
  | count + 1, [] => 1 :: widthsFrom (column + 1) count []
  | count + 1, c :: rest => (cell column c).2 :: widthsFrom (column + 1) count rest

/-- A mark and what fills the other columns of a wide character. -/
def widened (width : Nat) (mark tail : Text) : Text :=
  match width with
  | 0 => []
  | more + 1 => mark ++ Text.repeated tail more

/-- The row under a line that points at a column; `column` is the first of the widths. -/
def pointerRow (place : Nat) (mark tail after : Text) (column : Nat) : List Nat → Text
  | [] => []
  | width :: rest =>
      (if column = place then widened width mark tail
        else if place < column then widened width after after
        else Text.repeated [' '] width) ++
        pointerRow place mark tail after (column + 1) rest

/-! ## Reports -/

/-- The left margin of a row without a number, for line numbers of some width. -/
def emptyMargin (width : Nat) : Text :=
  ' ' :: shaded .skipped (Text.repeated [' '] (width + 1) ++ ['│']) ++ [' ']

/-- A line with the rows that point at a range of its columns. -/
def labelledLine (width : Nat) (row : Row) (first last : Nat) (message : Text) : Text :=
  let text := Text.trimEnd row.text
  let widths := widthsFrom 0 (last + 2) text
  let isEmpty := first = last
  let mark := shaded .marked (if isEmpty then ['│'] else ['┬'])
  let tail := shaded .marked (if isEmpty then [' '] else ['─'])
  ' ' :: shaded .frame (Text.ofNat (row.number + 1) ++ Text.of " │") ++
    ' ' :: charsFrom first last 0 text ++ ['\n'] ++
    emptyMargin width ++ pointerRow first mark tail [' '] 0 widths ++ ['\n'] ++
    emptyMargin width ++
    pointerRow first (shaded .marked ['╰']) (shaded .marked ['─']) (shaded .marked ['─']) 0 widths ++
    ' ' :: message ++ ['\n']

/-- The part of a report that shows the source between `start` and `stop`. -/
def excerpt (filename message : Text) (row : Row) (start stop : Nat) : Text :=
  let line := Text.ofNat (row.number + 1)
  let width := line.length
  let margin := Text.repeated [' '] (width + 2)
  let heading :=
    margin ++ shaded .frame ['╭'] ++ shaded .frame ['─'] ++ shaded .frame ['['] ++ filename ++
      ':' :: line ++ ':' :: Text.ofNat (start - row.start + 1) ++ shaded .frame [']'] ++ ['\n']
  let body :=
    if stop ≤ row.stop then
      labelledLine width row (start - row.start) (stop - row.start) message
    else emptyMargin width ++ ['\n']
  heading ++ margin ++ shaded .frame ['│'] ++ ['\n'] ++ body ++
    shaded .frame (Text.repeated ['─'] (width + 2) ++ ['╯']) ++ ['\n']

/-- Where a label that starts at an offset stops: one behind it, but not behind the source. -/
def labelStop (source : Text) (start : Nat) : Nat :=
  max (min (start + 1) (Text.byteLength source)) start

/-- The report of an error in a source; an error without a place is only shown. -/
def print (source filename : Text) (error : Css.Error) : Text :=
  match error.offset? source with
  | none => error.shown
  | some start =>
      let stop := labelStop source start
      let title := shaded .marked (Text.of "Error:") ++ ' ' :: error.shown ++ ['\n']
      match row? source start with
      | none => title
      | some row => title ++ excerpt filename error.message row start stop

end Report

end StyledMarkup
