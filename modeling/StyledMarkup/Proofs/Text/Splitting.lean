import StyledMarkup.Text.Basic
import Mathlib.Data.List.TakeWhile

namespace StyledMarkup.Text

/-!
# Splitting at a character

A text with `n` separators has `n + 1` parts between them.  The first part of a
text ends at its first separator, and what follows is split on its own.
-/

/--
What holds of texts without a stop, and in front of a text behind the first
stop, holds of every text.
-/
theorem induction_on_stops
    (stops : Char → Bool)
    {motive : Text → Prop}
    (whole : ∀ text, (∀ character ∈ text, stops character = false) → motive text)
    (parted :
      ∀ left stop right,
        (∀ character ∈ left, stops character = false) →
          stops stop = true → motive right → motive (left ++ stop :: right))
    (text : Text) :
    motive text := by
  induction length : text.length using Nat.strongRecOn generalizing text with
  | ind size inductionHypothesis =>
      have front :
          ∀ character ∈ text.takeWhile (fun character => ! stops character),
            stops character = false := by
        intro character member
        simpa using List.mem_takeWhile_imp member
      have shape :
          text.takeWhile (fun character => ! stops character) ++
            text.dropWhile (fun character => ! stops character) = text :=
        List.takeWhile_append_dropWhile
      cases after : text.dropWhile (fun character => ! stops character) with
      | nil =>
          rw [after, List.append_nil] at shape
          exact whole text (shape ▸ front)
      | cons stop right =>
          have isStop : stops stop = true := by
            have notFront := List.head?_dropWhile_not (fun character => ! stops character) text
            simpa [after] using notFront
          rw [after] at shape
          have shorter : right.length < size := by
            rw [← length, ← shape]
            simp
            omega
          rw [← shape]
          exact parted _ stop right front isStop
            (inductionHypothesis right.length shorter right rfl)

/--
What holds of texts without the separator, and in front of a text behind the
first separator, holds of every text.
-/
theorem induction_on_separator
    (separator : Char)
    {motive : Text → Prop}
    (whole : ∀ text, separator ∉ text → motive text)
    (parted :
      ∀ left right, separator ∉ left → motive right → motive (left ++ separator :: right))
    (text : Text) :
    motive text := by
  have absent_of_noStop {part : Text}
      (noStop : ∀ character ∈ part, (character == separator) = false) :
      separator ∉ part := by
    intro isThere
    simpa using noStop separator isThere
  induction text using induction_on_stops (· == separator) with
  | whole text noStop =>
      exact whole text (absent_of_noStop noStop)
  | parted left stop right noStop isStop inductionHypothesis =>
      obtain rfl : stop = separator := by
        simpa using isStop
      exact parted left right (absent_of_noStop noStop) inductionHypothesis

/-- A text without the separator is its only part. -/
theorem splitOn_of_not_mem
    {separator : Char}
    {text : Text}
    (absent : separator ∉ text) :
    splitOn separator text = [text] := by
  induction text with
  | nil =>
      rfl
  | cons first rest inductionHypothesis =>
      simp only [List.mem_cons, not_or] at absent
      simp only [splitOn, if_neg (Ne.symm absent.1), inductionHypothesis absent.2]

/-- What stands in front of the first separator is the first part. -/
theorem splitOn_append_separator
    {separator : Char}
    {left : Text}
    (absent : separator ∉ left)
    (right : Text) :
    splitOn separator (left ++ separator :: right) = left :: splitOn separator right := by
  induction left with
  | nil =>
      simp [splitOn]
  | cons first rest inductionHypothesis =>
      simp only [List.mem_cons, not_or] at absent
      simp only [List.cons_append, splitOn, if_neg (Ne.symm absent.1),
        inductionHypothesis absent.2]

/-- Every text has a part. -/
theorem splitOn_ne_nil
    (separator : Char)
    (text : Text) :
    splitOn separator text ≠ [] := by
  induction text using induction_on_separator separator with
  | whole text absent =>
      simp [splitOn_of_not_mem absent]
  | parted left right absent _ =>
      simp [splitOn_append_separator absent]

/-- A separator anywhere in a text separates its parts. -/
theorem splitOn_append_cons
    (separator : Char)
    (left right : Text) :
    splitOn separator (left ++ separator :: right) =
      splitOn separator left ++ splitOn separator right := by
  induction left using induction_on_separator separator with
  | whole left absent =>
      rw [splitOn_append_separator absent, splitOn_of_not_mem absent]
      rfl
  | parted first rest absent inductionHypothesis =>
      rw [List.append_assoc, List.cons_append, splitOn_append_separator absent,
        splitOn_append_separator absent, inductionHypothesis, List.cons_append]

/-- The first part of a text is empty if the text is, or if it starts with the separator. -/
theorem head_splitOn_eq_nil_iff
    {separator : Char}
    {text first : Text}
    {others : List Text}
    (shape : splitOn separator text = first :: others) :
    first = [] ↔ text = [] ∨ [separator] <+: text := by
  cases text with
  | nil =>
      obtain ⟨rfl, -⟩ := List.cons_eq_cons.mp shape
      simp
  | cons character rest =>
      by_cases isSeparator : character = separator
      · rw [splitOn, if_pos isSeparator] at shape
        obtain ⟨rfl, -⟩ := List.cons_eq_cons.mp shape
        simp [isSeparator]
      · rw [splitOn, if_neg isSeparator] at shape
        have notEmpty : first ≠ [] := by
          split at shape <;> simp [← (List.cons_eq_cons.mp shape).1]
        simp [notEmpty, Ne.symm isSeparator]

/-- An end without the separator is an end of the last part. -/
theorem exists_splitOn_append
    {separator : Char}
    {ending : Text}
    (absent : separator ∉ ending)
    (text : Text) :
    ∃ parts last, splitOn separator (text ++ ending) = parts ++ [last ++ ending] := by
  induction text using induction_on_separator separator with
  | whole text absentText =>
      refine ⟨[], text, splitOn_of_not_mem ?_⟩
      rw [List.mem_append]
      exact not_or.mpr ⟨absentText, absent⟩
  | parted first rest absentFirst inductionHypothesis =>
      obtain ⟨parts, last, shape⟩ := inductionHypothesis
      refine ⟨first :: parts, last, ?_⟩
      rw [List.append_assoc, List.cons_append, splitOn_append_separator absentFirst, shape]
      rfl

/-- The parts of a text with the separator between them are the text. -/
theorem join_splitOn
    (separator : Char)
    (text : Text) :
    join [separator] (splitOn separator text) = text := by
  induction text using induction_on_separator separator with
  | whole text absent =>
      rw [splitOn_of_not_mem absent]
      rfl
  | parted left right absent inductionHypothesis =>
      obtain ⟨first, rest, shape⟩ := List.exists_cons_of_ne_nil (splitOn_ne_nil separator right)
      rw [shape] at inductionHypothesis
      rw [splitOn_append_separator absent, shape, join, inductionHypothesis]
      · simp
      · simp

/-- The parts of a text determine it. -/
theorem splitOn_injective
    (separator : Char) :
    Function.Injective (splitOn separator) :=
  Function.LeftInverse.injective (join_splitOn separator)

/-- The parts of a text have its characters. -/
theorem mem_of_mem_splitOn
    {separator character : Char}
    {text part : Text}
    (isPart : part ∈ splitOn separator text)
    (member : character ∈ part) :
    character ∈ text := by
  induction text using induction_on_separator separator generalizing part with
  | whole text absent =>
      rw [splitOn_of_not_mem absent, List.mem_singleton] at isPart
      exact isPart ▸ member
  | parted left right absent inductionHypothesis =>
      rw [splitOn_append_separator absent, List.mem_cons] at isPart
      rcases isPart with isLeft | isRight
      · exact List.mem_append_left _ (isLeft ▸ member)
      · exact List.mem_append_right _ (List.mem_cons_of_mem _ (inductionHypothesis isRight member))

/-- Cutting leaves the text before the pattern and the text after it. -/
theorem eq_append_of_cutFirst?
    {pattern text before after : Text}
    (isCut : cutFirst? pattern text = some (before, after)) :
    text = before ++ pattern ++ after := by
  induction text generalizing before with
  | nil =>
      simp only [cutFirst?] at isCut
      split at isCut
      · rename_i empty
        simp only [Option.some.injEq, Prod.mk.injEq] at isCut
        obtain ⟨rfl, rfl⟩ := isCut
        simpa using empty
      · simp at isCut
  | cons first rest inductionHypothesis =>
      simp only [cutFirst?] at isCut
      split at isCut
      · rename_i isHere
        simp only [Option.some.injEq, Prod.mk.injEq] at isCut
        obtain ⟨rfl, rfl⟩ := isCut
        exact List.prefix_iff_eq_append.mp (List.isPrefixOf_iff_prefix.mp isHere) |>.symm
      · simp only [Option.map_eq_some_iff, Prod.mk.injEq, Prod.exists] at isCut
        obtain ⟨between, _, isInRest, rfl, rfl⟩ := isCut
        simp [inductionHypothesis isInRest]

/-- A text without the character cannot be cut at it. -/
theorem cutFirst?_of_not_mem
    {separator : Char}
    {text : Text}
    (absent : separator ∉ text) :
    cutFirst? [separator] text = none := by
  induction text with
  | nil =>
      rfl
  | cons first rest inductionHypothesis =>
      simp only [List.mem_cons, not_or] at absent
      simp [cutFirst?, absent.1, inductionHypothesis absent.2]

theorem cutFirst?_append_separator
    {separator : Char}
    {left : Text}
    (absent : separator ∉ left)
    (right : Text) :
    cutFirst? [separator] (left ++ separator :: right) = some (left, right) := by
  induction left with
  | nil =>
      simp [cutFirst?]
  | cons first rest inductionHypothesis =>
      simp only [List.mem_cons, not_or] at absent
      simp [cutFirst?, absent.1, inductionHypothesis absent.2]

end StyledMarkup.Text
