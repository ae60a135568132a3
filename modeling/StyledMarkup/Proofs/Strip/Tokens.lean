import StyledMarkup.Proofs.Strip.Parts
import Mathlib.Data.List.Count

namespace StyledMarkup.Strip

open List

/-!
# What stripping leaves of the class names

If a hash occurs in the class names of a value only as a whole name, stripping
takes one such name out of the value.  Stripping all hashes therefore leaves
the difference of the class names and the hashes, both with repetitions.
-/

/-- Behind a text without the hash and a blank, the hash is taken out of the rest. -/
theorem removeFirst_append_blank
    {hash : Text}
    (word : hash.IsWord)
    {left : Text}
    (absent : ¬ hash <:+: left)
    {blank : Char}
    (isBreak : isBlank blank = true)
    (right : Text) :
    removeFirst hash (left ++ blank :: right) = left ++ blank :: removeFirst hash right := by
  have notBlank := word.not_mem_of_isBlank isBreak
  induction left with
  | nil =>
      have notHere : ¬ hash.isPrefixOf (blank :: right) = true := by
        rw [← List.nil_append (blank :: right), Text.isPrefixOf_append_separator notBlank]
        simpa using word.nonempty
      rw [List.nil_append, removeFirst, if_neg notHere, List.nil_append]
  | cons first rest inductionHypothesis =>
      rw [List.infix_cons_iff, not_or] at absent
      have notHere : ¬ hash.isPrefixOf (first :: (rest ++ blank :: right)) = true := by
        rw [← List.cons_append, Text.isPrefixOf_append_separator notBlank,
          List.isPrefixOf_iff_prefix]
        exact absent.1
      rw [List.cons_append, removeFirst, if_neg notHere, inductionHypothesis absent.2,
        List.cons_append]

/-- If a hash occurs only as a whole name, stripping takes out one such name. -/
theorem words_removeFirst
    {hash value : Text}
    (word : hash.IsWord)
    (whole : ∀ name ∈ Text.words value, hash <:+: name → name = hash) :
    Text.words (removeFirst hash value) = (Text.words value).erase hash := by
  induction value using Text.induction_on_stops isBlank with
  | whole text blankFree =>
      by_cases occurs : hash <:+: text
      · have isWord : text.IsWord := by
          refine ⟨?_, blankFree⟩
          rintro rfl
          exact word.nonempty (List.infix_nil.mp occurs)
        have isHash : text = hash := whole text (by simp [isWord.words_eq]) occurs
        have removed := removeFirst_append word.nonempty []
        rw [List.append_nil] at removed
        rw [isHash, removed, word.words_eq, List.erase_cons_head]
        rfl
      · rw [removeFirst_of_absent occurs, List.erase_of_not_mem]
        exact fun member => occurs (Text.infix_of_mem_words member)
  | parted left blank right blankFree isBreak inductionHypothesis =>
      rw [Text.words_append_blank isBreak] at whole ⊢
      by_cases occurs : hash <:+: left
      · have isWord : left.IsWord := by
          refine ⟨?_, blankFree⟩
          rintro rfl
          exact word.nonempty (List.infix_nil.mp occurs)
        have isHash : left = hash := whole left (by simp [isWord.words_eq]) occurs
        rw [isHash, removeFirst_append word.nonempty, word.words_eq, List.singleton_append,
          List.erase_cons_head]
        simp [afterBlank, isBreak]
      · have absent : hash ∉ Text.words left :=
          fun member => occurs (Text.infix_of_mem_words member)
        have wholeRight : ∀ name ∈ Text.words right, hash <:+: name → name = hash :=
          fun name member => whole name (List.mem_append_right _ member)
        rw [removeFirst_append_blank word occurs isBreak, Text.words_append_blank isBreak,
          inductionHypothesis wholeRight, List.erase_append_right _ absent]

/-- Stripping all hashes leaves the difference of the class names and the hashes. -/
theorem words_foldl_removeFirst
    {hashes : List Text}
    (areWords : ∀ hash ∈ hashes, hash.IsWord)
    {value : Text}
    (whole :
      ∀ name ∈ Text.words value, ∀ hash ∈ hashes, hash <:+: name → name = hash) :
    Text.words (hashes.foldl (fun value hash => removeFirst hash value) value) =
      (Text.words value).diff hashes := by
  induction hashes generalizing value with
  | nil =>
      simp
  | cons hash rest inductionHypothesis =>
      rw [List.forall_mem_cons] at areWords
      have step : Text.words (removeFirst hash value) = (Text.words value).erase hash :=
        words_removeFirst areWords.1 fun name member => whole name member hash (by simp)
      have wholeRest :
          ∀ name ∈ Text.words (removeFirst hash value), ∀ other ∈ rest,
            other <:+: name → name = other := by
        intro name member other isOther
        rw [step] at member
        exact whole name (List.mem_of_mem_erase member) other (by simp [isOther])
      rw [List.foldl_cons, inductionHypothesis areWords.2 wholeRest, step, List.diff_cons]

/-- A name is left if it is written more often than it is taken out. -/
theorem mem_diff_iff_count_lt
    {names hashes : List Text}
    {name : Text} :
    name ∈ names.diff hashes ↔ hashes.count name < names.count name := by
  rw [← List.count_pos_iff, List.count_diff]
  omega

end StyledMarkup.Strip
