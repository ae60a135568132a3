import StyledMarkup.Proofs.Text.Occurrence

namespace StyledMarkup.Text

open List

/-!
# Replacing a pattern

A pattern that does not occur is not replaced, and one that occurs leaves its
replacement.  A character that is not in the pattern separates a text for good:
what stands before and after it is replaced as two texts of their own.
-/

/-- Replacing happens on both sides of a separator that is not in the pattern. -/
theorem replaceFrom_append_separator
    {head : Char}
    {more : Text}
    {separator : Char}
    (absent : separator ∉ head :: more)
    (replacement left right : Text) :
    replaceFrom head more replacement (left ++ separator :: right) =
      replaceFrom head more replacement left ++
        separator :: replaceFrom head more replacement right := by
  induction left using replaceFrom.induct head more with
  | case1 =>
      have notHere : (head :: more).isPrefixOf (separator :: right) = false := by
        have same := isPrefixOf_append_separator absent [] right
        simpa using same
      simp [replaceFrom, notHere]
  | case2 first rest isHere inductionHypothesis =>
      have isHereToo :
          (head :: more).isPrefixOf (first :: (rest ++ separator :: right)) = true := by
        rw [← List.cons_append, isPrefixOf_append_separator absent]
        exact isHere
      have fits : more.length ≤ rest.length := by
        have prefixed := (List.isPrefixOf_iff_prefix.mp isHere).length_le
        simpa using prefixed
      rw [List.cons_append, replaceFrom, if_pos isHereToo,
        List.drop_append_of_le_length fits, inductionHypothesis,
        replaceFrom, if_pos isHere, List.append_assoc]
  | case3 first rest notHere inductionHypothesis =>
      have notHereEither :
          ¬ (head :: more).isPrefixOf (first :: (rest ++ separator :: right)) = true := by
        rw [← List.cons_append, isPrefixOf_append_separator absent]
        exact notHere
      rw [List.cons_append, replaceFrom, if_neg notHereEither, inductionHypothesis,
        replaceFrom, if_neg notHere, List.cons_append]

/-- A pattern that is not empty is replaced on both sides of a separator that is not in it. -/
theorem replaceAll_append_separator
    {pattern : Text}
    {separator : Char}
    (nonempty : pattern ≠ [])
    (absent : separator ∉ pattern)
    (replacement left right : Text) :
    replaceAll pattern replacement (left ++ separator :: right) =
      replaceAll pattern replacement left ++
        separator :: replaceAll pattern replacement right := by
  cases pattern with
  | nil =>
      exact absurd rfl nonempty
  | cons head more =>
      exact replaceFrom_append_separator absent replacement left right

/-- A pattern that is not empty does not occur in the empty text. -/
theorem replaceAll_nil
    {pattern : Text}
    (nonempty : pattern ≠ [])
    (replacement : Text) :
    replaceAll pattern replacement [] = [] := by
  cases pattern with
  | nil =>
      exact absurd rfl nonempty
  | cons head more =>
      simp [replaceAll, replaceFrom]

/-- A pattern that does not occur is replaced nowhere. -/
theorem replaceAll_of_absent
    {pattern text : Text}
    (absent : ¬ pattern <:+: text)
    (replacement : Text) :
    replaceAll pattern replacement text = text := by
  cases pattern with
  | nil =>
      exact absurd List.nil_infix absent
  | cons head more =>
      simp only [replaceAll]
      induction text with
      | nil =>
          simp [replaceFrom]
      | cons first rest inductionHypothesis =>
          rw [List.infix_cons_iff, not_or] at absent
          have notHere : ¬ (head :: more).isPrefixOf (first :: rest) = true := by
            rw [List.isPrefixOf_iff_prefix]
            exact absent.1
          rw [replaceFrom, if_neg notHere, inductionHypothesis absent.2]

/-- The replacement of a pattern that occurs is found in the result. -/
theorem infix_replaceAll
    {pattern text : Text}
    (nonempty : pattern ≠ [])
    (occurs : pattern <:+: text)
    (replacement : Text) :
    replacement <:+: replaceAll pattern replacement text := by
  cases pattern with
  | nil =>
      exact absurd rfl nonempty
  | cons head more =>
      simp only [replaceAll]
      induction text using replaceFrom.induct head more with
      | case1 =>
          simp at occurs
      | case2 first rest isHere inductionHypothesis =>
          rw [replaceFrom, if_pos isHere]
          exact (List.prefix_append _ _).isInfix
      | case3 first rest notHere inductionHypothesis =>
          rw [List.isPrefixOf_iff_prefix] at notHere
          have inRest := (List.infix_cons_iff.mp occurs).resolve_left notHere
          rw [replaceFrom, if_neg (by rwa [List.isPrefixOf_iff_prefix])]
          exact List.infix_cons (inductionHypothesis inRest)

/-- A pattern of one character is replaced wherever it stands. -/
theorem replaceAll_singleton
    (target : Char)
    (replacement text : Text) :
    replaceAll [target] replacement text =
      text.flatMap fun character => if character = target then replacement else [character] := by
  simp only [replaceAll]
  induction text with
  | nil =>
      rw [replaceFrom, List.flatMap_nil]
  | cons first rest inductionHypothesis =>
      rw [replaceFrom, List.flatMap_cons]
      by_cases isTarget : first = target
      · simp [isTarget, inductionHypothesis]
      · simp [isTarget, Ne.symm isTarget, inductionHypothesis]

/-- Characters of the result come from the text or from the replacement. -/
theorem mem_replaceAll
    {pattern replacement text : Text}
    (nonempty : pattern ≠ [])
    {character : Char}
    (member : character ∈ replaceAll pattern replacement text) :
    character ∈ text ∨ character ∈ replacement := by
  cases pattern with
  | nil =>
      exact absurd rfl nonempty
  | cons head more =>
      simp only [replaceAll] at member
      induction text using replaceFrom.induct head more with
      | case1 =>
          simp [replaceFrom] at member
      | case2 first rest isHere inductionHypothesis =>
          rw [replaceFrom, if_pos isHere] at member
          rcases List.mem_append.mp member with inReplacement | inRest
          · exact Or.inr inReplacement
          · rcases inductionHypothesis inRest with inDropped | inReplacement
            · exact Or.inl (List.mem_cons_of_mem _ (List.mem_of_mem_drop inDropped))
            · exact Or.inr inReplacement
      | case3 first rest notHere inductionHypothesis =>
          rw [replaceFrom, if_neg notHere] at member
          rcases List.mem_cons.mp member with isFirst | inRest
          · exact Or.inl (by simp [isFirst])
          · rcases inductionHypothesis inRest with inText | inReplacement
            · exact Or.inl (List.mem_cons_of_mem _ inText)
            · exact Or.inr inReplacement

/-- Replacing by something leaves something. -/
theorem replaceAll_ne_nil
    {pattern replacement text : Text}
    (nonempty : pattern ≠ [])
    (replacementNonempty : replacement ≠ [])
    (textNonempty : text ≠ []) :
    replaceAll pattern replacement text ≠ [] := by
  by_cases occurs : pattern <:+: text
  · intro empty
    have isInfix := infix_replaceAll nonempty occurs replacement
    rw [empty, List.infix_nil] at isInfix
    exact replacementNonempty isInfix
  · rwa [replaceAll_of_absent occurs]

/-- A pattern that is the whole text is replaced as a whole. -/
theorem replaceAll_self
    {pattern : Text}
    (nonempty : pattern ≠ [])
    (replacement : Text) :
    replaceAll pattern replacement pattern = replacement := by
  cases pattern with
  | nil =>
      exact absurd rfl nonempty
  | cons head more =>
      have isHere : (head :: more).isPrefixOf (head :: more) = true := by
        rw [List.isPrefixOf_iff_prefix]
      rw [replaceAll, replaceFrom, if_pos isHere]
      simp [replaceFrom]

end StyledMarkup.Text
