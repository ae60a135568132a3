import StyledMarkup.Alias.Segment
import StyledMarkup.Proofs.Text.Occurrence
import StyledMarkup.Proofs.Text.Words
import Mathlib.Data.List.TakeWhile

namespace StyledMarkup.Delimiter

open List

/-!
# Where delimiters are found

Reading finds a delimiter at the front of a text if and only if the text
starts with one that cannot be made longer.  A delimiter has no blank in it, so
whether one starts at some place is settled before the next blank.
-/

/-- Head, component and suffix of a delimiter. -/
structure IsParts (head component suffix : Text) : Prop where
  head_ne_nil : head ≠ []
  head_chars : ∀ character ∈ head, isHeadChar character = true
  component_ne_nil : component ≠ []
  component_chars : ∀ character ∈ component, character.isAlphanum = true
  suffix_ne_nil : suffix ≠ []
  suffix_chars : ∀ character ∈ suffix, character.isAlphanum = true

/-- The text of a delimiter. -/
def written (head component suffix : Text) : Text :=
  head ++ '_' :: '_' :: component ++ '-' :: suffix

/-- Letters and digits are not blank. -/
theorem isBlank_eq_false_of_isAlphanum
    {character : Char}
    (alphanumeric : character.isAlphanum = true) :
    isBlank character = false := by
  have ranges :
      (('A'.val ≤ character.val ∧ character.val ≤ 'Z'.val) ∨
          ('a'.val ≤ character.val ∧ character.val ≤ 'z'.val)) ∨
        ('0'.val ≤ character.val ∧ character.val ≤ '9'.val) := by
    rcases Bool.or_eq_true_iff.mp alphanumeric with letter | digit
    · rcases Bool.or_eq_true_iff.mp letter with upper | lower
      · exact Or.inl (Or.inl (of_decide_eq_true upper))
      · have both := Bool.and_eq_true_iff.mp lower
        exact Or.inl (Or.inr ⟨of_decide_eq_true both.1, of_decide_eq_true both.2⟩)
    · have both := Bool.and_eq_true_iff.mp digit
      exact Or.inr ⟨of_decide_eq_true both.1, of_decide_eq_true both.2⟩
  simp only [UInt32.le_iff_toNat_le] at ranges
  change ((65 ≤ character.toNat ∧ character.toNat ≤ 90) ∨
      (97 ≤ character.toNat ∧ character.toNat ≤ 122)) ∨
    (48 ≤ character.toNat ∧ character.toNat ≤ 57) at ranges
  simp only [isBlank, Bool.or_eq_false_iff, Bool.and_eq_false_iff, decide_eq_false_iff_not,
    beq_eq_false_iff_ne, ne_eq]
  omega

/-- The longest front part of characters of a kind, when another kind follows. -/
theorem takeWhile_append_of_boundary
    {kind : Char → Bool}
    {front rest : Text}
    (inside : ∀ character ∈ front, kind character = true)
    (boundary : ∀ character, rest.head? = some character → kind character = false) :
    (front ++ rest).takeWhile kind = front := by
  rw [List.takeWhile_append_of_pos inside]
  cases rest with
  | nil =>
      simp
  | cons first more =>
      simp [boundary first rfl]

/-- What follows the longest front part of characters of a kind. -/
theorem dropWhile_append_of_boundary
    {kind : Char → Bool}
    {front rest : Text}
    (inside : ∀ character ∈ front, kind character = true)
    (boundary : ∀ character, rest.head? = some character → kind character = false) :
    (front ++ rest).dropWhile kind = rest := by
  rw [List.dropWhile_append_of_pos inside]
  cases rest with
  | nil =>
      rfl
  | cons first more =>
      simp [boundary first rfl]

/-- A delimiter at the front of a text is read if it cannot be made longer. -/
theorem read?_written_append
    {head component suffix : Text}
    (parts : IsParts head component suffix)
    {after : Text}
    (boundary : ∀ character, after.head? = some character → character.isAlphanum = false) :
    read? (written head component suffix ++ after) =
      some (written head component suffix, after) := by
  have shape :
      written head component suffix ++ after =
        head ++ '_' :: '_' :: (component ++ '-' :: (suffix ++ after)) := by
    simp [written]
  have takesHead :
      (written head component suffix ++ after).takeWhile isHeadChar = head := by
    rw [shape]
    exact takeWhile_append_of_boundary parts.head_chars (by simp [isHeadChar])
  have dropsHead :
      (written head component suffix ++ after).dropWhile isHeadChar =
        '_' :: '_' :: (component ++ '-' :: (suffix ++ after)) := by
    rw [shape]
    exact dropWhile_append_of_boundary parts.head_chars (by simp [isHeadChar])
  have hyphenStops :
      ∀ character,
        ('-' :: (suffix ++ after)).head? = some character → character.isAlphanum = false := by
    intro character isHead
    have isHyphen : '-' = character := by
      simpa using isHead
    subst character
    rfl
  have takesComponent := takeWhile_append_of_boundary parts.component_chars hyphenStops
  have dropsComponent := dropWhile_append_of_boundary parts.component_chars hyphenStops
  have takesSuffix := takeWhile_append_of_boundary parts.suffix_chars boundary
  have dropsSuffix := dropWhile_append_of_boundary parts.suffix_chars boundary
  -- Each part has a first character, so every test of the reader succeeds.
  obtain ⟨_, _, rfl⟩ := List.exists_cons_of_ne_nil parts.head_ne_nil
  obtain ⟨_, _, rfl⟩ := List.exists_cons_of_ne_nil parts.component_ne_nil
  obtain ⟨_, _, rfl⟩ := List.exists_cons_of_ne_nil parts.suffix_ne_nil
  simp only [read?, takesHead, dropsHead]
  simp only [takesComponent, dropsComponent]
  simp only [takesSuffix, dropsSuffix]
  simp [written]

/-- Dropping characters of a kind stops at a character of another kind. -/
theorem head?_dropWhile
    (kind : Char → Bool)
    (text : Text) :
    ∀ character, (text.dropWhile kind).head? = some character → kind character = false := by
  intro character isHead
  have notKind := List.head?_dropWhile_not kind text
  rw [isHead] at notKind
  simpa using notKind

/-- What is read is a delimiter at the front of the text that cannot be made longer. -/
theorem exists_parts_of_read?
    {text found after : Text}
    (isFound : read? text = some (found, after)) :
    ∃ head component suffix,
      IsParts head component suffix ∧
        found = written head component suffix ∧
        text = found ++ after ∧
        ∀ character, after.head? = some character → character.isAlphanum = false := by
  simp only [read?] at isFound
  split at isFound
  · rename_i headFirst headRest rest takesHead dropsHead
    split at isFound
    · rename_i componentFirst componentRest rest' takesComponent dropsComponent
      split at isFound
      · rename_i suffixFirst suffixRest takesSuffix
        simp only [Option.some.injEq, Prod.mk.injEq] at isFound
        obtain ⟨rfl, rfl⟩ := isFound
        refine ⟨text.takeWhile isHeadChar, rest.takeWhile Char.isAlphanum,
          rest'.takeWhile Char.isAlphanum, ?_, by simp [written], ?_, head?_dropWhile _ _⟩
        · exact
            { head_ne_nil := by simp [takesHead]
              head_chars := fun _ member => List.mem_takeWhile_imp member
              component_ne_nil := by simp [takesComponent]
              component_chars := fun _ member => List.mem_takeWhile_imp member
              suffix_ne_nil := by simp [takesSuffix]
              suffix_chars := fun _ member => List.mem_takeWhile_imp member }
        · calc
            text = text.takeWhile isHeadChar ++ text.dropWhile isHeadChar :=
              (List.takeWhile_append_dropWhile).symm
            _ = text.takeWhile isHeadChar ++ '_' :: '_' ::
                  (rest.takeWhile Char.isAlphanum ++ rest.dropWhile Char.isAlphanum) := by
              rw [dropsHead, List.takeWhile_append_dropWhile]
            _ = text.takeWhile isHeadChar ++ '_' :: '_' ::
                  (rest.takeWhile Char.isAlphanum ++ '-' ::
                    (rest'.takeWhile Char.isAlphanum ++ rest'.dropWhile Char.isAlphanum)) := by
              rw [dropsComponent, List.takeWhile_append_dropWhile]
            _ = _ := by simp
      · simp at isFound
    · simp at isFound
  · simp at isFound

/-- There is no blank in a delimiter. -/
theorem IsParts.isWord_written
    {head component suffix : Text}
    (parts : IsParts head component suffix) :
    (written head component suffix).IsWord := by
  refine ⟨by simp [written], ?_⟩
  intro character member
  simp only [written, List.append_assoc, List.cons_append, List.mem_append,
    List.mem_cons] at member
  rcases member with inHead | rfl | rfl | inComponent | rfl | inSuffix
  · simpa [isHeadChar] using (Bool.and_eq_true_iff.mp (parts.head_chars character inHead)).2
  · rfl
  · rfl
  · exact isBlank_eq_false_of_isAlphanum (parts.component_chars character inComponent)
  · rfl
  · exact isBlank_eq_false_of_isAlphanum (parts.suffix_chars character inSuffix)

/-- If no delimiter is read in front of a blank, what follows it does not help. -/
theorem read?_append_blank_of_none
    {text : Text}
    (isAbsent : read? text = none)
    {blank : Char}
    (isBreak : isBlank blank = true)
    (rest : Text) :
    read? (text ++ blank :: rest) = none := by
  by_contra isPresent
  obtain ⟨⟨found, after⟩, isFound⟩ := Option.ne_none_iff_exists'.mp isPresent
  obtain ⟨head, component, suffix, parts, rfl, shape, boundary⟩ := exists_parts_of_read? isFound
  -- The delimiter has no blank in it, so it ends in front of the first one.
  obtain ⟨between, rfl, rfl⟩ :=
    Text.exists_between_of_append_eq (parts.isWord_written.not_mem_of_isBlank isBreak) shape
  have boundaryAlone :
      ∀ character, between.head? = some character → character.isAlphanum = false := by
    intro character isHead
    refine boundary character ?_
    cases between with
    | nil =>
        simp at isHead
    | cons first more =>
        simpa using isHead
  simp [read?_written_append parts boundaryAlone] at isAbsent

/-- No delimiter starts with a blank. -/
theorem read?_cons_blank
    {blank : Char}
    (isBreak : isBlank blank = true)
    (rest : Text) :
    read? (blank :: rest) = none := by
  have nothing : read? [] = none := rfl
  exact read?_append_blank_of_none nothing isBreak rest

/-- A blank at the front belongs to the text before the first delimiter. -/
theorem find?_cons_blank
    {blank : Char}
    (isBreak : isBlank blank = true)
    (rest : Text) :
    find? (blank :: rest) =
      (find? rest).map fun (before, found, after) => (blank :: before, found, after) := by
  simp only [find?, read?_cons_blank isBreak]

/-- A text without delimiters in front of a blank belongs to the text before the first one. -/
theorem find?_append_blank
    {text : Text}
    (isAbsent : find? text = none)
    {blank : Char}
    (isBreak : isBlank blank = true)
    (rest : Text) :
    find? (text ++ blank :: rest) =
      (find? rest).map fun (before, found, after) =>
        (text ++ blank :: before, found, after) := by
  induction text with
  | nil =>
      exact find?_cons_blank isBreak rest
  | cons first more inductionHypothesis =>
      simp only [find?] at isAbsent
      split at isAbsent
      · simp at isAbsent
      · rename_i notHere
        have absentMore : find? more = none := by
          simpa using isAbsent
        have notHereEither := read?_append_blank_of_none notHere isBreak rest
        rw [List.cons_append] at notHereEither
        simp only [List.cons_append, find?, notHereEither, inductionHypothesis absentMore,
          Option.map_map]
        rfl

/-- A delimiter at the front is the first one. -/
theorem find?_of_read?
    {text found after : Text}
    (isRead : read? text = some (found, after)) :
    find? text = some ([], found, after) := by
  cases text with
  | nil =>
      simp [read?] at isRead
  | cons first rest =>
      simp only [find?, isRead]

/-- Something is read at the front of a text if and only if a delimiter stands there. -/
theorem read?_isSome_iff
    (text : Text) :
    (read? text).isSome ↔
      ∃ head component suffix,
        IsParts head component suffix ∧ written head component suffix <+: text := by
  constructor
  · intro isSome
    obtain ⟨⟨found, after⟩, isFound⟩ := Option.isSome_iff_exists.mp isSome
    obtain ⟨head, component, suffix, parts, rfl, shape, -⟩ := exists_parts_of_read? isFound
    exact ⟨head, component, suffix, parts, after, shape.symm⟩
  · rintro ⟨head, component, suffix, parts, rest, rfl⟩
    -- The letters and digits that follow make the suffix longer.
    have longer : IsParts head component (suffix ++ rest.takeWhile Char.isAlphanum) :=
      { parts with
        suffix_ne_nil := by simp [parts.suffix_ne_nil]
        suffix_chars := by
          intro character member
          rcases List.mem_append.mp member with inSuffix | inRest
          · exact parts.suffix_chars character inSuffix
          · exact List.mem_takeWhile_imp inRest }
    have shape :
        written head component suffix ++ rest =
          written head component (suffix ++ rest.takeWhile Char.isAlphanum) ++
            rest.dropWhile Char.isAlphanum := by
      simp [written]
    rw [shape, read?_written_append longer (head?_dropWhile _ rest)]
    rfl

/-- No delimiter occurs in the text, wherever it would start. -/
def IsQuiet (text : Text) : Prop :=
  ∀ head component suffix,
    IsParts head component suffix → ¬ written head component suffix <:+: text

/-- The search finds nothing if and only if no delimiter occurs in the text. -/
theorem find?_eq_none_iff
    (text : Text) :
    find? text = none ↔ IsQuiet text := by
  induction text with
  | nil =>
      simp [find?, IsQuiet, written]
  | cons first rest inductionHypothesis =>
      have split :
          find? (first :: rest) = none ↔
            ¬ (read? (first :: rest)).isSome ∧ find? rest = none := by
        rw [find?]
        cases read? (first :: rest) <;> simp
      rw [split, inductionHypothesis, read?_isSome_iff]
      simp only [IsQuiet, List.infix_cons_iff, not_or, not_exists, not_and]
      constructor
      · rintro ⟨notHere, notLater⟩ head component suffix parts
        exact ⟨notHere head component suffix parts, notLater head component suffix parts⟩
      · intro nowhere
        exact ⟨fun head component suffix parts => (nowhere head component suffix parts).1,
          fun head component suffix parts => (nowhere head component suffix parts).2⟩

instance : DecidablePred IsQuiet :=
  fun text => decidable_of_iff _ (find?_eq_none_iff text)

/-- The first delimiter is read behind the text before it. -/
theorem read?_of_find?
    {text before found after : Text}
    (isFirst : find? text = some (before, found, after)) :
    text = before ++ (found ++ after) ∧ read? (found ++ after) = some (found, after) := by
  induction text generalizing before with
  | nil =>
      simp [find?] at isFirst
  | cons first rest inductionHypothesis =>
      simp only [find?] at isFirst
      split at isFirst
      · rename_i isRead
        simp only [Option.some.injEq, Prod.mk.injEq] at isFirst
        obtain ⟨rfl, rfl, rfl⟩ := isFirst
        obtain ⟨_, _, _, _, _, shape, _⟩ := exists_parts_of_read? isRead
        rw [← shape]
        exact ⟨rfl, isRead⟩
      · simp only [Option.map_eq_some_iff, Prod.mk.injEq, Prod.exists] at isFirst
        obtain ⟨between, _, _, isInRest, rfl, rfl, rfl⟩ := isFirst
        obtain ⟨shape, isRead⟩ := inductionHypothesis isInRest
        exact ⟨by rw [shape, List.cons_append], isRead⟩

/-- Without delimiters there are no occurrences. -/
theorem occurrences_of_find?_eq_none
    {text : Text}
    (isAbsent : find? text = none) :
    occurrences text = [] := by
  rw [occurrences]
  split
  · rfl
  · rename_i isPresent
    simp [isAbsent] at isPresent

/-- The occurrences start with the first delimiter and go on behind it. -/
theorem occurrences_of_find?_eq_some
    {text before found after : Text}
    (isFirst : find? text = some (before, found, after)) :
    occurrences text = (found, gap after) :: occurrences after := by
  rw [occurrences]
  split
  · rename_i isAbsent
    simp [isFirst] at isAbsent
  · rename_i isPresent
    rw [isFirst] at isPresent
    simp only [Option.some.injEq, Prod.mk.injEq] at isPresent
    obtain ⟨-, rfl, rfl⟩ := isPresent
    rfl

/-- Occurrences are not changed by a text without delimiters and a blank in front of them. -/
theorem occurrences_append_blank
    {text : Text}
    (isAbsent : find? text = none)
    {blank : Char}
    (isBreak : isBlank blank = true)
    (rest : Text) :
    occurrences (text ++ blank :: rest) = occurrences rest := by
  have search := find?_append_blank isAbsent isBreak rest
  cases isFirst : find? rest with
  | none =>
      rw [occurrences_of_find?_eq_none isFirst]
      exact occurrences_of_find?_eq_none (by simp [search, isFirst])
  | some split =>
      obtain ⟨before, found, after⟩ := split
      rw [isFirst, Option.map_some] at search
      rw [occurrences_of_find?_eq_some isFirst, occurrences_of_find?_eq_some search]

/-- The text up to the first delimiter is a front part of the text. -/
theorem gap_prefix
    (text : Text) :
    gap text <+: text := by
  rw [gap]
  split
  · rename_i isFirst
    obtain ⟨shape, -⟩ := read?_of_find? isFirst
    exact ⟨_, shape.symm⟩
  · exact List.prefix_refl text

/-- The gap up to the next delimiter holds a text without delimiters and the blank behind it. -/
theorem gap_append_blank
    {text : Text}
    (isAbsent : find? text = none)
    {blank : Char}
    (isBreak : isBlank blank = true)
    (rest : Text) :
    gap (text ++ blank :: rest) = text ++ blank :: gap rest := by
  simp only [gap, find?_append_blank isAbsent isBreak rest]
  cases find? rest <;> rfl

/-- Every occurrence is a delimiter that occurs in the text. -/
theorem exists_parts_of_mem_occurrences
    {text found gap : Text}
    (member : (found, gap) ∈ occurrences text) :
    ∃ head component suffix,
      IsParts head component suffix ∧
        found = written head component suffix ∧ found <:+: text := by
  induction text using occurrences.induct with
  | case1 text isAbsent =>
      rw [occurrences_of_find?_eq_none isAbsent] at member
      simp at member
  | case2 text before first after isFirst inductionHypothesis =>
      obtain ⟨shape, isRead⟩ := read?_of_find? isFirst
      rw [occurrences_of_find?_eq_some isFirst, List.mem_cons] at member
      rcases member with isThis | isLater
      · obtain ⟨head, component, suffix, parts, isWritten, -, -⟩ := exists_parts_of_read? isRead
        obtain rfl : found = first := (Prod.mk.inj isThis).1
        exact ⟨head, component, suffix, parts, isWritten, before, after, by simp [shape]⟩
      · obtain ⟨head, component, suffix, parts, isWritten, occurs⟩ := inductionHypothesis isLater
        have isEnd : after <:+ text := ⟨before ++ first, by simp [shape]⟩
        exact ⟨head, component, suffix, parts, isWritten, occurs.trans isEnd.isInfix⟩

end StyledMarkup.Delimiter
