import StyledMarkup.Text.Blank
import StyledMarkup.Proofs.Text.Splitting

namespace StyledMarkup

/-!
# Words

A word is a text without blanks that is not empty.  Splitting a text into its
words stops at every blank, so a blank cuts the text in two independent parts,
and joining words with spaces can be undone.
-/

/-- A space is a blank. -/
theorem isBlank_space :
    isBlank ' ' = true :=
  rfl

namespace Text

open List

/-- A text that is not empty and has no blank in it. -/
structure IsWord (text : Text) : Prop where
  nonempty : text ≠ []
  blankFree : ∀ character ∈ text, isBlank character = false

instance (text : Text) : Decidable (IsWord text) :=
  decidable_of_iff (text ≠ [] ∧ text.all (fun character => isBlank character == false) = true)
    ⟨fun ⟨nonempty, blankFree⟩ => ⟨nonempty, by simpa using blankFree⟩,
      fun word => ⟨word.nonempty, by simpa using word.blankFree⟩⟩

/-- A blank is in no word. -/
theorem IsWord.not_mem_of_isBlank
    {text : Text}
    (word : text.IsWord)
    {blank : Char}
    (isBreak : isBlank blank = true) :
    blank ∉ text := by
  intro member
  simp [word.blankFree blank member] at isBreak

/-- The word that is being read ends at a blank, and reading starts over. -/
theorem wordsFrom_append_blank
    {blank : Char}
    (isBreak : isBlank blank = true)
    (current left right : Text) :
    wordsFrom current (left ++ blank :: right) = wordsFrom current left ++ words right := by
  induction left generalizing current with
  | nil =>
      cases current <;> simp [wordsFrom, isBreak, words]
  | cons first rest inductionHypothesis =>
      simp only [List.cons_append, wordsFrom]
      split
      · cases current <;> simp [inductionHypothesis]
      · exact inductionHypothesis (current ++ [first])

/-- A blank separates the words before it from the words after it. -/
theorem words_append_blank
    {blank : Char}
    (isBreak : isBlank blank = true)
    (left right : Text) :
    words (left ++ blank :: right) = words left ++ words right :=
  wordsFrom_append_blank isBreak [] left right

/-- A blank at the front of a text is in no word of it. -/
theorem words_cons_blank
    {blank : Char}
    (isBreak : isBlank blank = true)
    (text : Text) :
    words (blank :: text) = words text :=
  words_append_blank isBreak [] text

/-- Characters without a blank all belong to the word that is being read. -/
theorem wordsFrom_of_blankFree
    {text : Text}
    (blankFree : ∀ character ∈ text, isBlank character = false)
    (current : Text) :
    wordsFrom current text = if (current ++ text).isEmpty then [] else [current ++ text] := by
  induction text generalizing current with
  | nil =>
      simp [wordsFrom]
  | cons first rest inductionHypothesis =>
      rw [List.forall_mem_cons] at blankFree
      simp [wordsFrom, blankFree.1, inductionHypothesis blankFree.2]

/-- A text without blanks is its only word, unless it is empty. -/
theorem words_of_blankFree
    {text : Text}
    (blankFree : ∀ character ∈ text, isBlank character = false) :
    words text = if text.isEmpty then [] else [text] :=
  wordsFrom_of_blankFree blankFree []

/-- A word is the only word in it. -/
theorem IsWord.words_eq
    {text : Text}
    (word : text.IsWord) :
    words text = [text] := by
  simp [words_of_blankFree word.blankFree, word.nonempty]

/-- Every piece that is read is a word, if the piece being read has no blank. -/
theorem isWord_of_mem_wordsFrom
    {current text word : Text}
    (blankFree : ∀ character ∈ current, isBlank character = false)
    (member : word ∈ wordsFrom current text) :
    word.IsWord := by
  induction text generalizing current with
  | nil =>
      cases current with
      | nil =>
          simp [wordsFrom] at member
      | cons head more =>
          have same : word = head :: more := by
            simpa [wordsFrom] using member
          subst word
          exact ⟨by simp, blankFree⟩
  | cons first rest inductionHypothesis =>
      simp only [wordsFrom] at member
      split at member
      · cases current with
        | nil =>
            exact inductionHypothesis (by simp) member
        | cons head more =>
            rcases List.mem_cons.mp member with isCurrent | inRest
            · subst word
              exact ⟨by simp, blankFree⟩
            · exact inductionHypothesis (by simp) inRest
      · rename_i notBlank
        refine inductionHypothesis ?_ member
        intro character isThere
        rcases List.mem_append.mp isThere with inCurrent | isFirst
        · exact blankFree character inCurrent
        · rw [List.mem_singleton.mp isFirst]
          simpa using notBlank

/-- Every word of a text is a word. -/
theorem isWord_of_mem_words
    {text word : Text}
    (member : word ∈ words text) :
    word.IsWord :=
  isWord_of_mem_wordsFrom (by simp) member

/-- A word of a text occurs in it. -/
theorem infix_of_mem_words
    {text word : Text}
    (member : word ∈ words text) :
    word <:+: text := by
  induction text using induction_on_stops isBlank with
  | whole text blankFree =>
      rw [words_of_blankFree blankFree] at member
      split at member
      · simp at member
      · exact (List.mem_singleton.mp member) ▸ List.infix_refl text
  | parted left blank right blankFree isBreak inductionHypothesis =>
      rw [words_append_blank isBreak] at member
      rcases List.mem_append.mp member with inLeft | inRight
      · rw [words_of_blankFree blankFree] at inLeft
        split at inLeft
        · simp at inLeft
        · exact (List.mem_singleton.mp inLeft) ▸ (List.prefix_append left _).isInfix
      · have behind : right <:+ left ++ blank :: right :=
          (List.suffix_cons blank right).trans (List.suffix_append left _)
        exact (inductionHypothesis inRight).trans behind.isInfix

/-- Joining a first text to others puts one separator behind it. -/
theorem join_cons_of_ne_nil
    {others : List Text}
    (nonempty : others ≠ [])
    (separator first : Text) :
    join separator (first :: others) = first ++ separator ++ join separator others := by
  cases others with
  | nil =>
      exact absurd rfl nonempty
  | cons second rest =>
      rfl

/-- Characters of joined texts come from one of them or from the separator. -/
theorem mem_join
    {separator : Text}
    {texts : List Text}
    {character : Char}
    (member : character ∈ join separator texts) :
    (∃ text ∈ texts, character ∈ text) ∨ character ∈ separator := by
  induction texts with
  | nil =>
      simp [join] at member
  | cons first rest inductionHypothesis =>
      cases rest with
      | nil =>
          exact Or.inl ⟨first, by simp, member⟩
      | cons second others =>
          rw [join_cons_of_ne_nil (by simp), List.mem_append, List.mem_append] at member
          rcases member with (inFirst | inSeparator) | inOthers
          · exact Or.inl ⟨first, by simp, inFirst⟩
          · exact Or.inr inSeparator
          · rcases inductionHypothesis inOthers with ⟨text, isText, inText⟩ | inSeparator
            · exact Or.inl ⟨text, List.mem_cons_of_mem _ isText, inText⟩
            · exact Or.inr inSeparator

/-- The words of joined words are these words. -/
theorem words_join
    {names : List Text}
    (areWords : ∀ name ∈ names, name.IsWord) :
    words (join [' '] names) = names := by
  induction names with
  | nil =>
      rfl
  | cons first rest inductionHypothesis =>
      rw [List.forall_mem_cons] at areWords
      cases rest with
      | nil =>
          exact areWords.1.words_eq
      | cons second others =>
          rw [join_cons_of_ne_nil (by simp), List.append_assoc, List.singleton_append,
            words_append_blank isBlank_space, areWords.1.words_eq, inductionHypothesis areWords.2]
          rfl

end Text

end StyledMarkup
