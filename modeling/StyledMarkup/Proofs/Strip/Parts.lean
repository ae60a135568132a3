import StyledMarkup.Proofs.Strip.Scan
import StyledMarkup.Proofs.Text.Words

namespace StyledMarkup.Strip

open List

/-!
# Stripping part by part

A text is tidy if every value that is opened is closed and has no equals sign,
so that no value opens another one.  In a tidy text each hash is taken out of
every opened value once, and all other parts stay as they are.
-/

/-- The parts of a text between quotes, with the hash taken out of the opened ones. -/
def partsWithout (attributes : List Text) (hash : Text) : List Text → List Text
  | front :: value :: rest =>
      if opens attributes front then
        front :: removeFirst hash value :: partsWithout attributes hash rest
      else
        front :: partsWithout attributes hash (value :: rest)
  | parts => parts

/-- Every opened value has no equals sign and is closed by a quote. -/
def Tidy (attributes : List Text) : List Text → Prop
  | front :: value :: rest =>
      (opens attributes front = true → '=' ∉ value ∧ rest ≠ []) ∧
        Tidy attributes (value :: rest)
  | _ => True

/-- Tidiness is decided part by part. -/
def decideTidy (attributes : List Text) : (parts : List Text) → Decidable (Tidy attributes parts)
  | front :: value :: rest =>
      have := decideTidy attributes (value :: rest)
      inferInstanceAs (Decidable
        ((opens attributes front = true → '=' ∉ value ∧ rest ≠ []) ∧
          Tidy attributes (value :: rest)))
  | [_] => isTrue trivial
  | [] => isTrue trivial

instance (attributes : List Text) : DecidablePred (Tidy attributes) :=
  decideTidy attributes

/-- A part that opens no value does not matter for tidiness. -/
theorem tidy_cons_of_not_opens
    {attributes : List Text}
    {front : Text}
    (closed : opens attributes front = false)
    (rest : List Text) :
    Tidy attributes (front :: rest) ↔ Tidy attributes rest := by
  cases rest with
  | nil =>
      simp [Tidy]
  | cons value others =>
      simp [Tidy, closed]

/-- A part that opens no value stays, and the parts behind it are stripped on their own. -/
theorem partsWithout_cons_of_not_opens
    {attributes : List Text}
    {front : Text}
    (closed : opens attributes front = false)
    (hash : Text)
    (rest : List Text) :
    partsWithout attributes hash (front :: rest) =
      front :: partsWithout attributes hash rest := by
  cases rest with
  | nil =>
      rfl
  | cons value others =>
      simp [partsWithout, closed]

/-- In tidy parts a pass takes the hash out of what is opened. -/
theorem partsWithout_eq_pass
    {attributes : List Text}
    (hash : Text)
    (last : Text) :
    ∀ closed : List Text, Tidy attributes (closed ++ [last]) →
      partsWithout attributes hash (closed ++ [last]) =
        pass attributes hash false closed ++ [last]
  | [], _ => rfl
  | [front], tidy => by
      have staysClosed : opens attributes front = false := by
        by_contra isOpen
        exact (tidy.1 (by simpa using isOpen)).2 rfl
      exact partsWithout_cons_of_not_opens staysClosed hash [last]
  | front :: value :: rest, tidy => by
      by_cases isOpen : opens attributes front = true
      · have noEquals := (tidy.1 isOpen).1
        have tidyRest := (tidy_cons_of_not_opens (opens_eq_false noEquals) _).mp tidy.2
        have later := partsWithout_eq_pass hash last rest tidyRest
        simp [partsWithout, pass, opensBehind, isOpen, opens_eq_false noEquals, later]
      · have staysClosed : opens attributes front = false := by
          simpa using isOpen
        have later := partsWithout_eq_pass hash last (value :: rest) tidy.2
        rw [List.cons_append, partsWithout_cons_of_not_opens staysClosed, later]
        simp [pass, opensBehind, staysClosed]

/-- Stripping a tidy text of a hash takes the hash out of its parts. -/
theorem splitOn_hashFrom
    {attributes : List Text}
    (attributesQuoteFree : ∀ name ∈ attributes, '"' ∉ name)
    {hash : Text}
    (nonempty : hash ≠ [])
    (hashQuoteFree : '"' ∉ hash)
    (text : Text)
    (tidy : Tidy attributes (Text.splitOn '"' text)) :
    Text.splitOn '"' (hashFrom attributes hash text) =
      partsWithout attributes hash (Text.splitOn '"' text) := by
  obtain ⟨last, parts⟩ := exists_splitOn_eq_closedParts text
  rw [parts] at tidy
  rw [splitOn_hashFrom_eq_pass attributesQuoteFree nonempty hashQuoteFree parts, parts,
    partsWithout_eq_pass hash last _ tidy]

/-- Taking out a hash keeps the number of parts. -/
theorem length_partsWithout
    (attributes : List Text)
    (hash : Text)
    (parts : List Text) :
    (partsWithout attributes hash parts).length = parts.length := by
  induction parts using partsWithout.induct attributes with
  | case1 front value rest isOpen inductionHypothesis =>
      simp [partsWithout, isOpen, inductionHypothesis]
  | case2 front value rest isOpen inductionHypothesis =>
      simpa [partsWithout, isOpen] using inductionHypothesis
  | case3 parts short =>
      simp [partsWithout]

/-- Taking out a hash leaves tidy parts tidy. -/
theorem Tidy.partsWithout
    {attributes : List Text}
    {parts : List Text}
    (tidy : Tidy attributes parts)
    (hash : Text) :
    Tidy attributes (partsWithout attributes hash parts) := by
  induction parts using partsWithout.induct attributes with
  | case1 front value rest isOpen inductionHypothesis =>
      obtain ⟨whenOpen, tidyRest⟩ := tidy
      obtain ⟨noEquals, closes⟩ := whenOpen isOpen
      have removedNoEquals := not_mem_removeFirst hash noEquals
      rw [tidy_cons_of_not_opens (opens_eq_false noEquals)] at tidyRest
      have tidyLater := inductionHypothesis tidyRest
      simp only [Strip.partsWithout, isOpen, ↓reduceIte, Tidy]
      refine ⟨fun _ => ⟨removedNoEquals, ?_⟩, ?_⟩
      · rw [← List.length_pos_iff, length_partsWithout]
        exact List.length_pos_iff.mpr closes
      · rw [tidy_cons_of_not_opens (opens_eq_false removedNoEquals)]
        exact tidyLater
  | case2 front value rest isOpen inductionHypothesis =>
      have staysClosed : opens attributes front = false := by
        simpa using isOpen
      rw [partsWithout_cons_of_not_opens staysClosed, tidy_cons_of_not_opens staysClosed]
      exact inductionHypothesis tidy.2
  | case3 parts short =>
      rcases parts with _ | ⟨front, _ | ⟨value, rest⟩⟩
      · trivial
      · trivial
      · exact (short front value rest rfl).elim

/-- A value that is opened in tidy parts loses the hash, and what opens it stays. -/
theorem getElem?_partsWithout
    {attributes : List Text}
    {parts : List Text}
    (tidy : Tidy attributes parts)
    (hash : Text)
    {index : Nat}
    {front value : Text}
    (isFront : parts[index]? = some front)
    (isOpen : opens attributes front = true)
    (isValue : parts[index + 1]? = some value) :
    (partsWithout attributes hash parts)[index]? = some front ∧
      (partsWithout attributes hash parts)[index + 1]? = some (removeFirst hash value) := by
  induction parts using partsWithout.induct attributes generalizing index with
  | case1 first second rest firstOpens inductionHypothesis =>
      obtain ⟨whenOpen, tidyRest⟩ := tidy
      have noEquals := (whenOpen firstOpens).1
      rw [tidy_cons_of_not_opens (opens_eq_false noEquals)] at tidyRest
      simp only [Strip.partsWithout, firstOpens, ↓reduceIte]
      rcases index with _ | _ | later
      · simp only [List.getElem?_cons_zero, List.getElem?_cons_succ, Option.some.injEq]
          at isFront isValue ⊢
        exact ⟨isFront, by rw [isValue]⟩
      · -- A value has no equals sign, so it is not what opens the next one.
        have same : second = front := by
          simpa using isFront
        exact absurd (equals_mem_of_opens isOpen) (same ▸ noEquals)
      · exact inductionHypothesis tidyRest isFront isValue
  | case2 first second rest firstOpens inductionHypothesis =>
      have staysClosed : opens attributes first = false := by
        simpa using firstOpens
      rw [partsWithout_cons_of_not_opens staysClosed]
      cases index with
      | zero =>
          have same : first = front := by
            simpa using isFront
          exact absurd (same ▸ isOpen) firstOpens
      | succ before =>
          exact inductionHypothesis tidy.2 isFront isValue
  | case3 parts short =>
      rcases parts with _ | ⟨first, _ | ⟨second, rest⟩⟩
      · simp at isFront
      · simp at isValue
      · exact (short first second rest rfl).elim

/--
Stripping a tidy text takes the hashes one after the other out of every value
that is opened, and keeps what opens it.
-/
theorem getElem?_splitOn_foldl_hashFrom
    {attributes hashes : List Text}
    (attributesQuoteFree : ∀ name ∈ attributes, '"' ∉ name)
    (nonempty : ∀ hash ∈ hashes, hash ≠ [])
    (quoteFree : ∀ hash ∈ hashes, '"' ∉ hash)
    {text : Text}
    (tidy : Tidy attributes (Text.splitOn '"' text))
    {index : Nat}
    {front value : Text}
    (isFront : (Text.splitOn '"' text)[index]? = some front)
    (isOpen : opens attributes front = true)
    (isValue : (Text.splitOn '"' text)[index + 1]? = some value) :
    (Text.splitOn '"'
        (hashes.foldl (fun text hash => hashFrom attributes hash text) text))[index]? =
      some front ∧
    (Text.splitOn '"'
        (hashes.foldl (fun text hash => hashFrom attributes hash text) text))[index + 1]? =
      some (hashes.foldl (fun value hash => removeFirst hash value) value) := by
  induction hashes generalizing text value with
  | nil =>
      exact ⟨isFront, isValue⟩
  | cons hash rest inductionHypothesis =>
      rw [List.forall_mem_cons] at nonempty quoteFree
      have parts := splitOn_hashFrom attributesQuoteFree nonempty.1 quoteFree.1 text tidy
      have next := getElem?_partsWithout tidy hash isFront isOpen isValue
      have tidyNext := tidy.partsWithout hash
      rw [← parts] at next tidyNext
      exact inductionHypothesis nonempty.2 quoteFree.2 tidyNext next.1 next.2

/-- A text in which no value is opened stays as it is in front of a blank. -/
theorem hashFrom_append_blank
    {attributes : List Text}
    (areWords : ∀ name ∈ attributes, name.IsWord)
    {left : Text}
    (unopened : ∀ name ∈ attributes, ¬ name ++ Text.of "=\"" <:+: left)
    {blank : Char}
    (isBreak : isBlank blank = true)
    (hash right : Text) :
    hashFrom attributes hash (left ++ blank :: right) =
      left ++ blank :: hashFrom attributes hash right := by
  -- No blank is in an opening, so one that starts in the text also ends in it.
  have uncut :
      ∀ part, part <:+ left →
        cutFromAttribute? hash attributes (part ++ blank :: right) = none := by
    intro part isPart
    refine cutFromAttribute?_of_uncut ?_
    intro name isName isPrefix
    have notBlank : blank ∉ name ++ Text.of "=\"" := by
      rw [opening_eq]
      have equalsNotBlank : blank ≠ '=' := by
        rintro rfl
        exact absurd isBreak (by decide)
      have quoteNotBlank : blank ≠ '"' := by
        rintro rfl
        exact absurd isBreak (by decide)
      simp [(areWords name isName).not_mem_of_isBlank isBreak, equalsNotBlank, quoteNotBlank]
    rw [← List.isPrefixOf_iff_prefix, Text.isPrefixOf_append_separator notBlank,
      List.isPrefixOf_iff_prefix] at isPrefix
    exact absurd (isPrefix.isInfix.trans isPart.isInfix) (unopened name isName)
  have atBlank := uncut [] (List.nil_suffix)
  rw [hashFrom_append_of_uncut fun part _ isPart => uncut part isPart]
  rw [List.nil_append] at atBlank
  rw [hashFrom_cons_of_none atBlank]

/-- Stripping starts behind a style in which no value is opened. -/
theorem foldl_hashFrom_combined
    {attributes : List Text}
    (areWords : ∀ name ∈ attributes, name.IsWord)
    {style : Text}
    (unopened : ∀ name ∈ attributes, ¬ name ++ Text.of "=\"" <:+: style)
    (hashes : List Text)
    (markup : Text) :
    hashes.foldl (fun text hash => hashFrom attributes hash text)
        (style ++ '\n' :: '\n' :: markup) =
      style ++ '\n' :: '\n' ::
        hashes.foldl (fun text hash => hashFrom attributes hash text) markup := by
  induction hashes generalizing markup with
  | nil =>
      rfl
  | cons hash rest inductionHypothesis =>
      have nothing : ∀ name ∈ attributes, ¬ name ++ Text.of "=\"" <:+: [] := by
        simp [opening_eq]
      have atBlank : isBlank '\n' = true := rfl
      have lineEnd := hashFrom_append_blank areWords nothing atBlank hash markup
      rw [List.nil_append, List.nil_append] at lineEnd
      rw [List.foldl_cons, hashFrom_append_blank areWords unopened atBlank, lineEnd,
        inductionHypothesis]
      rfl

end StyledMarkup.Strip
