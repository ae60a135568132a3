import StyledMarkup.Proofs.Markup.Places
import StyledMarkup.Proofs.Strip.Scan

namespace StyledMarkup

open List

/-!
# Values in quotes

A value is printed in quotes with a backslash in front of each of its quotes
and backslashes, so that it can be read back.  A hash without quotes and
backslashes stands in the printed value where it stands in the value, and
stripping finds it in front of the first quote.
-/

namespace Markup

/-- A character as it is written in quotes. -/
def escapeChar (character : Char) : Text :=
  if character = '\\' ∨ character = '"' then ['\\', character] else [character]

/-- The text up to the closing quote with the escapes taken back, and the text after it. -/
def readQuoted? : Text → Option (Text × Text)
  | [] => none
  | '"' :: rest => some ([], rest)
  | '\\' :: character :: rest =>
      (readQuoted? rest).map fun (value, after) => (character :: value, after)
  | character :: rest =>
      (readQuoted? rest).map fun (value, after) => (character :: value, after)

theorem escapeProp_eq_flatMap
    (text : Text) :
    escapeProp text = text.flatMap escapeChar := by
  rw [escapeProp, Text.replaceAll_singleton, Text.replaceAll_singleton, List.flatMap_assoc]
  congr 1
  funext character
  rw [escapeChar]
  by_cases isBackslash : character = '\\'
  · simp [isBackslash]
  · by_cases isQuote : character = '"'
    · simp [isQuote]
    · simp [isBackslash, isQuote]

@[simp] theorem escapeProp_nil : escapeProp [] = [] := by
  rw [escapeProp_eq_flatMap, List.flatMap_nil]

theorem escapeProp_append
    (left right : Text) :
    escapeProp (left ++ right) = escapeProp left ++ escapeProp right := by
  simp [escapeProp_eq_flatMap]

theorem escapeProp_cons_of_escaped
    {first : Char}
    (isEscaped : first = '\\' ∨ first = '"')
    (rest : Text) :
    escapeProp (first :: rest) = '\\' :: first :: escapeProp rest := by
  simp [escapeProp_eq_flatMap, escapeChar, isEscaped]

theorem escapeProp_cons_of_not_escaped
    {first : Char}
    (notEscaped : ¬ (first = '\\' ∨ first = '"'))
    (rest : Text) :
    escapeProp (first :: rest) = first :: escapeProp rest := by
  simp [escapeProp_eq_flatMap, escapeChar, notEscaped]

theorem escapeProp_append_quote
    (left right : Text) :
    escapeProp (left ++ '"' :: right) = (escapeProp left ++ ['\\']) ++ '"' :: escapeProp right := by
  rw [escapeProp_append, escapeProp_cons_of_escaped (Or.inr rfl)]
  simp

/-- A printed value has the characters of the value, and backslashes. -/
theorem mem_escapeProp
    {character : Char}
    {value : Text}
    (member : character ∈ escapeProp value) :
    character ∈ value ∨ character = '\\' := by
  rw [escapeProp_eq_flatMap, List.mem_flatMap] at member
  obtain ⟨source, isSource, inEscape⟩ := member
  rw [escapeChar] at inEscape
  split at inEscape
  · rcases List.mem_pair.mp inEscape with isBackslash | rfl
    · exact Or.inr isBackslash
    · exact Or.inl isSource
  · obtain rfl := List.mem_singleton.mp inEscape
    exact Or.inl isSource

theorem quote_not_mem_escapeProp
    {value : Text}
    (quoteFree : '"' ∉ value) :
    '"' ∉ escapeProp value := by
  intro member
  rcases mem_escapeProp member with inValue | isBackslash
  · exact quoteFree inValue
  · exact absurd isBackslash (by decide)

theorem equals_not_mem_splitOn_escapeProp
    {value : Text}
    (equalsFree : '=' ∉ value) :
    ∀ part ∈ Text.splitOn '"' (escapeProp value), '=' ∉ part := by
  intro part isPart member
  rcases mem_escapeProp (Text.mem_of_mem_splitOn isPart member) with inValue | isBackslash
  · exact equalsFree inValue
  · exact absurd isBackslash (by decide)

/-- The first part of a printed value ends with the escape of its first quote. -/
theorem splitOn_escapeProp_append_quote
    {front : Text}
    (quoteFree : '"' ∉ front)
    (rest : Text) :
    Text.splitOn '"' (escapeProp (front ++ '"' :: rest)) =
      (escapeProp front ++ ['\\']) :: Text.splitOn '"' (escapeProp rest) := by
  have frontQuoteFree : '"' ∉ escapeProp front ++ ['\\'] := by
    simp [quote_not_mem_escapeProp quoteFree]
  rw [escapeProp_append_quote, Text.splitOn_append_separator frontQuoteFree]

/-- What is printed in quotes is read back. -/
theorem readQuoted?_escapeProp
    (value after : Text) :
    readQuoted? (escapeProp value ++ '"' :: after) = some (value, after) := by
  induction value with
  | nil =>
      rw [escapeProp_nil, List.nil_append, readQuoted?]
  | cons first rest inductionHypothesis =>
      by_cases isEscaped : first = '\\' ∨ first = '"'
      · rw [escapeProp_cons_of_escaped isEscaped, List.cons_append, List.cons_append, readQuoted?,
          inductionHypothesis, Option.map_some]
      · rw [escapeProp_cons_of_not_escaped isEscaped, List.cons_append, readQuoted?,
          inductionHypothesis, Option.map_some]
        · exact fun isQuote => isEscaped (Or.inr isQuote)
        · exact fun _ _ isBackslash _ => isEscaped (Or.inl isBackslash)

/-- A value in quotes determines itself and what stands behind it. -/
theorem escapeProp_append_quote_inj
    {value other after otherAfter : Text}
    (same : escapeProp value ++ '"' :: after = escapeProp other ++ '"' :: otherAfter) :
    value = other ∧ after = otherAfter := by
  have read := congrArg readQuoted? same
  rw [readQuoted?_escapeProp, readQuoted?_escapeProp] at read
  simpa using read

end Markup

namespace Strip

/-- A value without the first hash that stands in front of its first quote. -/
def valueWithout (hash value : Text) : Text :=
  removeFirst hash (value.takeWhile (· != '"')) ++ value.dropWhile (· != '"')

private theorem bne_quote_of_quoteFree
    {text : Text}
    (quoteFree : '"' ∉ text) :
    ∀ character ∈ text, (character != '"') = true := by
  intro character member
  rw [bne_iff_ne]
  rintro rfl
  exact quoteFree member

theorem valueWithout_of_quoteFree
    (hash : Text)
    {value : Text}
    (quoteFree : '"' ∉ value) :
    valueWithout hash value = removeFirst hash value := by
  have noQuote := bne_quote_of_quoteFree quoteFree
  rw [valueWithout, List.takeWhile_eq_self_iff.mpr noQuote, List.dropWhile_eq_nil_iff.mpr noQuote,
    List.append_nil]

theorem valueWithout_append_quote
    (hash : Text)
    {front : Text}
    (quoteFree : '"' ∉ front)
    (rest : Text) :
    valueWithout hash (front ++ '"' :: rest) = removeFirst hash front ++ '"' :: rest := by
  have noQuote := bne_quote_of_quoteFree quoteFree
  rw [valueWithout, List.takeWhile_append_of_pos noQuote, List.dropWhile_append_of_pos noQuote]
  simp

theorem valueWithout_subset
    (hash value : Text) :
    valueWithout hash value ⊆ value := by
  intro character member
  rw [valueWithout, List.mem_append] at member
  rcases member with inFront | inRest
  · exact (List.takeWhile_prefix _).subset (removeFirst_subset _ _ inFront)
  · exact (List.dropWhile_suffix _).subset inRest

theorem equals_not_mem_valueWithout
    (hash : Text)
    {value : Text}
    (equalsFree : '=' ∉ value) :
    '=' ∉ valueWithout hash value :=
  fun member => equalsFree (valueWithout_subset hash value member)

/-- Escapes do not change whether a value starts with a text that needs none. -/
theorem prefix_escapeProp_append_iff
    {front ending : Text}
    (quoteFree : '"' ∉ front)
    (backslashFree : '\\' ∉ front)
    (isEnding : ∀ character ∈ ending, character = '\\')
    (value : Text) :
    front <+: Markup.escapeProp value ++ ending ↔ front <+: value := by
  induction front generalizing value with
  | nil =>
      simp
  | cons head more inductionHypothesis =>
      simp only [List.mem_cons, not_or] at quoteFree backslashFree
      cases value with
      | nil =>
          rw [Markup.escapeProp_nil, List.nil_append, List.prefix_nil]
          refine iff_of_false ?_ (List.cons_ne_nil head more)
          intro isPrefix
          exact backslashFree.1 (isEnding head (isPrefix.subset List.mem_cons_self)).symm
      | cons first rest =>
          by_cases isEscaped : first = '\\' ∨ first = '"'
          · rw [Markup.escapeProp_cons_of_escaped isEscaped, List.cons_append,
              List.cons_prefix_cons, List.cons_prefix_cons]
            refine iff_of_false (fun both => backslashFree.1 both.1.symm) ?_
            rintro ⟨rfl, -⟩
            rcases isEscaped with isBackslash | isQuote
            · exact backslashFree.1 isBackslash.symm
            · exact quoteFree.1 isQuote.symm
          · rw [Markup.escapeProp_cons_of_not_escaped isEscaped, List.cons_append,
              List.cons_prefix_cons, List.cons_prefix_cons,
              inductionHypothesis quoteFree.2 backslashFree.2]

/-- A blank needs no escape, so it is skipped in a printed value as in the value. -/
theorem afterBlank_escapeProp_append
    {ending : Text}
    (isEnding : ∀ character ∈ ending, character = '\\')
    (value : Text) :
    afterBlank (Markup.escapeProp value ++ ending) =
      Markup.escapeProp (afterBlank value) ++ ending := by
  have backslashStays (rest : Text) : afterBlank ('\\' :: rest) = '\\' :: rest := by
    rw [afterBlank, if_neg (by decide)]
  cases value with
  | nil =>
      rw [Markup.escapeProp_nil, afterBlank, Markup.escapeProp_nil, List.nil_append]
      cases ending with
      | nil =>
          rfl
      | cons first rest =>
          obtain rfl := isEnding first List.mem_cons_self
          exact backslashStays rest
  | cons first rest =>
      by_cases isEscaped : first = '\\' ∨ first = '"'
      · have notBlank : ¬ isBlank first = true := by
          rcases isEscaped with rfl | rfl <;> decide
        rw [afterBlank, if_neg notBlank, Markup.escapeProp_cons_of_escaped isEscaped,
          List.cons_append, backslashStays]
      · rw [Markup.escapeProp_cons_of_not_escaped isEscaped, List.cons_append, afterBlank,
          afterBlank]
        split
        · rfl
        · rw [Markup.escapeProp_cons_of_not_escaped isEscaped, List.cons_append]

namespace IsPlainHash

variable {hash : Text}

theorem not_infix_backslashes
    (plain : IsPlainHash hash)
    {text : Text}
    (areBackslashes : ∀ character ∈ text, character = '\\') :
    ¬ hash <:+: text := by
  obtain ⟨head, more, rfl⟩ := List.exists_cons_of_ne_nil plain.nonempty
  intro occurs
  have isBackslash := areBackslashes head (occurs.subset List.mem_cons_self)
  exact plain.backslashFree (isBackslash ▸ List.mem_cons_self)

/-- At a character that is written with an escape the hash does not stand. -/
theorem removeFirst_cons_of_escaped
    (plain : IsPlainHash hash)
    {first : Char}
    (isEscaped : first = '\\' ∨ first = '"')
    (rest : Text) :
    removeFirst hash (first :: rest) = first :: removeFirst hash rest := by
  apply removeFirst_cons_of_not_here
  obtain ⟨head, more, rfl⟩ := List.exists_cons_of_ne_nil plain.nonempty
  intro isPrefix
  obtain rfl := (List.cons_prefix_cons.mp isPrefix).1
  rcases isEscaped with rfl | rfl
  · exact plain.backslashFree List.mem_cons_self
  · exact plain.quoteFree List.mem_cons_self

/-- The hash is taken out of a printed value where it is taken out of the value. -/
theorem removeFirst_escapeProp_append
    (plain : IsPlainHash hash)
    {ending : Text}
    (isEnding : ∀ character ∈ ending, character = '\\')
    (value : Text) :
    removeFirst hash (Markup.escapeProp value ++ ending) =
      Markup.escapeProp (removeFirst hash value) ++ ending := by
  induction value with
  | nil =>
      rw [Markup.escapeProp_nil, List.nil_append,
        removeFirst_of_absent (plain.not_infix_backslashes isEnding), removeFirst,
        Markup.escapeProp_nil, List.nil_append]
  | cons first rest inductionHypothesis =>
      by_cases isHere : hash <+: first :: rest
      · obtain ⟨after, shape⟩ := isHere
        calc
          removeFirst hash (Markup.escapeProp (first :: rest) ++ ending)
            = removeFirst hash (hash ++ (Markup.escapeProp after ++ ending)) := by
              rw [← shape, Markup.escapeProp_append,
                Markup.escapeProp_of_plain plain.quoteFree plain.backslashFree, List.append_assoc]
          _ = Markup.escapeProp (afterBlank after) ++ ending := by
              rw [removeFirst_append plain.nonempty, afterBlank_escapeProp_append isEnding]
          _ = Markup.escapeProp (removeFirst hash (first :: rest)) ++ ending := by
              rw [← shape, removeFirst_append plain.nonempty]
      · rw [removeFirst_cons_of_not_here isHere]
        by_cases isEscaped : first = '\\' ∨ first = '"'
        · rw [Markup.escapeProp_cons_of_escaped isEscaped,
            Markup.escapeProp_cons_of_escaped isEscaped, List.cons_append, List.cons_append,
            plain.removeFirst_cons_of_escaped (Or.inl rfl),
            plain.removeFirst_cons_of_escaped isEscaped, inductionHypothesis]
          rfl
        · have notInPrinted : ¬ hash <+: first :: (Markup.escapeProp rest ++ ending) := by
            rw [← List.cons_append, ← Markup.escapeProp_cons_of_not_escaped isEscaped,
              prefix_escapeProp_append_iff plain.quoteFree plain.backslashFree isEnding]
            exact isHere
          rw [Markup.escapeProp_cons_of_not_escaped isEscaped,
            Markup.escapeProp_cons_of_not_escaped isEscaped, List.cons_append,
            removeFirst_cons_of_not_here notInPrinted, inductionHypothesis]
          rfl

/-- A printed value loses the hash, and nothing is open behind it. -/
theorem pass_splitOn_escapeProp
    (plain : IsPlainHash hash)
    (attributes : List Text)
    {value : Text}
    (equalsFree : '=' ∉ value) :
    pass attributes hash true (Text.splitOn '"' (Markup.escapeProp value)) =
        Text.splitOn '"' (Markup.escapeProp (valueWithout hash value)) ∧
      (Text.splitOn '"' (Markup.escapeProp value)).foldl (opensBehind attributes hash) true =
        false := by
  have partsEqualsFree := Markup.equals_not_mem_splitOn_escapeProp equalsFree
  refine ⟨?_, (pass_of_equalsFree partsEqualsFree).2 true (Text.splitOn_ne_nil _ _)⟩
  by_cases hasQuote : '"' ∈ value
  · -- Only the part in front of the first quote is opened.
    obtain ⟨front, rest, rfl, quoteFree⟩ := List.eq_append_cons_of_mem hasQuote
    have removedQuoteFree := not_mem_removeFirst hash quoteFree
    rw [Markup.splitOn_escapeProp_append_quote quoteFree, List.forall_mem_cons] at partsEqualsFree
    have closes : opensBehind attributes hash true (Markup.escapeProp front ++ ['\\']) = false := by
      simp [opensBehind, opens_eq_false partsEqualsFree.1]
    have removed :
        removeFirst hash (Markup.escapeProp front ++ ['\\']) =
          Markup.escapeProp (removeFirst hash front) ++ ['\\'] :=
      plain.removeFirst_escapeProp_append (by simp) front
    rw [valueWithout_append_quote hash quoteFree,
      Markup.splitOn_escapeProp_append_quote quoteFree,
      Markup.splitOn_escapeProp_append_quote removedQuoteFree, pass, if_pos rfl, closes, removed,
      (pass_of_equalsFree partsEqualsFree.2).1]
  · have removedQuoteFree := not_mem_removeFirst hash hasQuote
    have removed := plain.removeFirst_escapeProp_append (List.forall_mem_nil (· = '\\')) value
    rw [List.append_nil, List.append_nil] at removed
    rw [valueWithout_of_quoteFree hash hasQuote,
      Text.splitOn_of_not_mem (Markup.quote_not_mem_escapeProp hasQuote),
      Text.splitOn_of_not_mem (Markup.quote_not_mem_escapeProp removedQuoteFree), pass,
      if_pos rfl, removed, pass]

end IsPlainHash

end Strip

end StyledMarkup
