import StyledMarkup.Text.Basic
import Mathlib.Data.List.Infix

namespace StyledMarkup.Text

open List

/-!
# Occurrences

A pattern occurs in a text if the text is the pattern with something before and
something after it.  An occurrence cannot reach across a character that is not
in the pattern.
-/

/-- Text search decides whether the pattern is an infix of the text. -/
theorem occursIn_eq_true_iff
    {pattern text : Text} :
    occursIn pattern text = true ↔ pattern <:+: text := by
  induction text with
  | nil =>
      simp [occursIn]
  | cons first rest inductionHypothesis =>
      simp only [occursIn, Bool.or_eq_true, List.isPrefixOf_iff_prefix,
        inductionHypothesis, List.infix_cons_iff]

/-- Only the empty pattern occurs in the empty text. -/
@[simp] theorem occursIn_nil
    (pattern : Text) :
    occursIn pattern [] = pattern.isEmpty :=
  rfl

/-- A pattern without the separator starts a text only if it starts the part before it. -/
theorem isPrefixOf_append_separator
    {pattern : Text}
    {separator : Char}
    (absent : separator ∉ pattern)
    (left right : Text) :
    pattern.isPrefixOf (left ++ separator :: right) = pattern.isPrefixOf left := by
  induction pattern generalizing left with
  | nil =>
      simp
  | cons head more inductionHypothesis =>
      simp only [List.mem_cons, not_or] at absent
      cases left with
      | nil =>
          simp [List.isPrefixOf, Ne.symm absent.1]
      | cons first rest =>
          simp only [List.cons_append, List.isPrefixOf]
          rw [inductionHypothesis absent.2 rest]

/-- A front part without the separator ends before the separator. -/
theorem exists_between_of_append_eq
    {front after left right : Text}
    {separator : Char}
    (absent : separator ∉ front)
    (same : left ++ separator :: right = front ++ after) :
    ∃ between, left = front ++ between ∧ after = between ++ separator :: right := by
  rcases List.append_eq_append_iff.mp same with
      ⟨more, frontShape, rightShape⟩ | ⟨between, leftShape, afterShape⟩
  · cases more with
    | nil =>
        exact ⟨[], by simpa using frontShape.symm, by simpa using rightShape.symm⟩
    | cons first others =>
        have isSeparator : separator = first := (List.cons_eq_cons.mp rightShape).1
        exact absurd (by simp [frontShape, isSeparator]) absent
  · exact ⟨between, leftShape, afterShape⟩

end StyledMarkup.Text
