import StyledMarkup.Strip
import StyledMarkup.Proofs.Text.Occurrence
import StyledMarkup.Proofs.Text.Splitting

namespace StyledMarkup.Strip

open List

/-!
# What stripping does to values

Quotes cut a text into parts.  A part that ends with a class attribute and an
equals sign opens a value, which is the next part; stripping takes hashes out
of such values and changes nothing else.
-/

/-- The value without the first occurrence of the hash and one blank after it. -/
def removeFirst (hash : Text) : Text → Text
  | [] => []
  | first :: rest =>
      if hash.isPrefixOf (first :: rest) then
        afterBlank ((first :: rest).drop hash.length)
      else
        first :: removeFirst hash rest

/-- A text in front of a quote opens the value of a class attribute. -/
def opens (attributes : List Text) (text : Text) : Bool :=
  attributes.any fun name => (name ++ ['=']).isSuffixOf text

/-- The text through the first quote ends where the quote stands. -/
theorem throughQuote?_append_quote
    {value : Text}
    (quoteFree : '"' ∉ value)
    (after : Text) :
    throughQuote? (value ++ '"' :: after) = some (value ++ ['"'], after) := by
  induction value with
  | nil =>
      simp [throughQuote?]
  | cons first rest inductionHypothesis =>
      simp only [List.mem_cons, not_or] at quoteFree
      simp [throughQuote?, Ne.symm quoteFree.1, inductionHypothesis quoteFree.2]

/-- A quote is not a blank, so skipping a blank stays in front of it. -/
theorem afterBlank_append_quote
    (value after : Text) :
    afterBlank (value ++ '"' :: after) = afterBlank value ++ '"' :: after := by
  cases value with
  | nil =>
      rfl
  | cons first rest =>
      simp only [List.cons_append, afterBlank]
      split <;> rfl

/-- Skipping a blank leaves an end of the text. -/
theorem afterBlank_suffix
    (text : Text) :
    afterBlank text <:+ text := by
  cases text with
  | nil =>
      exact List.suffix_refl []
  | cons first rest =>
      simp only [afterBlank]
      split
      · exact List.suffix_cons first rest
      · exact List.suffix_refl _

theorem removeFirst_sublist
    (hash value : Text) :
    removeFirst hash value <+ value := by
  induction value with
  | nil =>
      exact List.Sublist.refl []
  | cons first rest inductionHypothesis =>
      rw [removeFirst]
      split
      · exact (afterBlank_suffix _).sublist.trans (List.drop_sublist _ _)
      · exact inductionHypothesis.cons_cons first

/-- Taking out a hash leaves characters of the value. -/
theorem removeFirst_subset
    (hash value : Text) :
    removeFirst hash value ⊆ value :=
  (removeFirst_sublist hash value).subset

theorem not_mem_removeFirst
    (hash : Text)
    {value : Text}
    {character : Char}
    (absent : character ∉ value) :
    character ∉ removeFirst hash value := by
  intro member
  exact absent (removeFirst_subset hash value member)

/-- A hash at the front of a value is taken out together with a blank behind it. -/
theorem removeFirst_append
    {hash : Text}
    (nonempty : hash ≠ [])
    (rest : Text) :
    removeFirst hash (hash ++ rest) = afterBlank rest := by
  obtain ⟨head, more, rfl⟩ := List.exists_cons_of_ne_nil nonempty
  have isHere : (head :: more).isPrefixOf (head :: (more ++ rest)) = true := by
    rw [List.isPrefixOf_iff_prefix]
    exact List.prefix_append (head :: more) rest
  rw [List.cons_append, removeFirst, if_pos isHere]
  simp

theorem removeFirst_cons_of_not_here
    {hash : Text}
    {first : Char}
    {rest : Text}
    (notHere : ¬ hash <+: first :: rest) :
    removeFirst hash (first :: rest) = first :: removeFirst hash rest := by
  rw [removeFirst, if_neg (by rwa [List.isPrefixOf_iff_prefix])]

/-- A hash that does not occur is not taken out. -/
theorem removeFirst_of_absent
    {hash value : Text}
    (absent : ¬ hash <:+: value) :
    removeFirst hash value = value := by
  induction value with
  | nil =>
      rfl
  | cons first rest inductionHypothesis =>
      rw [List.infix_cons_iff, not_or] at absent
      rw [removeFirst_cons_of_not_here absent.1, inductionHypothesis absent.2]

/-- A part that opens a value has an equals sign. -/
theorem equals_mem_of_opens
    {attributes : List Text}
    {front : Text}
    (isOpen : opens attributes front = true) :
    '=' ∈ front := by
  simp only [opens, List.any_eq_true, List.isSuffixOf_iff_suffix] at isOpen
  obtain ⟨name, _, isSuffix⟩ := isOpen
  exact isSuffix.subset (by simp)

/-- A value without an equals sign opens no other value. -/
theorem opens_eq_false
    {attributes : List Text}
    {value : Text}
    (noEquals : '=' ∉ value) :
    opens attributes value = false := by
  by_contra isOpen
  exact noEquals (equals_mem_of_opens (by simpa using isOpen))

/-- A closed value is cut if the hash occurs in it. -/
theorem cutFromValue?_append_quote
    {hash value : Text}
    (nonempty : hash ≠ [])
    (hashQuoteFree : '"' ∉ hash)
    (quoteFree : '"' ∉ value)
    (after : Text) :
    cutFromValue? hash (value ++ '"' :: after) =
      if hash <:+: value then some (removeFirst hash value ++ ['"'], after) else none := by
  induction value with
  | nil =>
      have notHere : hash.isPrefixOf ('"' :: after) = false := by
        have same := Text.isPrefixOf_append_separator hashQuoteFree [] after
        cases hash with
        | nil =>
            exact absurd rfl nonempty
        | cons head more =>
            simpa using same
      simp [cutFromValue?, notHere, nonempty]
  | cons first rest inductionHypothesis =>
      simp only [List.mem_cons, not_or] at quoteFree
      have samePrefix :
          hash.isPrefixOf (first :: (rest ++ '"' :: after)) = hash.isPrefixOf (first :: rest) :=
        Text.isPrefixOf_append_separator hashQuoteFree (first :: rest) after
      rw [List.cons_append, cutFromValue?, samePrefix]
      by_cases isHere : hash.isPrefixOf (first :: rest) = true
      · have isPrefix := List.isPrefixOf_iff_prefix.mp isHere
        have dropped :
            (first :: (rest ++ '"' :: after)).drop hash.length =
              (first :: rest).drop hash.length ++ '"' :: after := by
          rw [← List.cons_append, List.drop_append_of_le_length isPrefix.length_le]
        have leftQuoteFree : '"' ∉ afterBlank ((first :: rest).drop hash.length) := by
          intro member
          have inText := List.mem_of_mem_drop ((afterBlank_suffix _).subset member)
          simp [quoteFree] at inText
        simp only [isHere, ↓reduceIte, dropped, afterBlank_append_quote,
          throughQuote?_append_quote leftQuoteFree, isPrefix.isInfix, removeFirst]
      · have notPrefix : ¬ hash <+: first :: rest := by
          rwa [← List.isPrefixOf_iff_prefix]
        simp only [isHere, Bool.false_eq_true, ↓reduceIte, Ne.symm quoteFree.1,
          inductionHypothesis quoteFree.2, removeFirst, List.infix_cons_iff, notPrefix, false_or]
        split <;> rfl

/-- Where a text does not have the hash, there is nothing to cut. -/
theorem cutFromValue?_of_absent
    {hash text : Text}
    (absent : ¬ hash <:+: text) :
    cutFromValue? hash text = none := by
  induction text with
  | nil =>
      rfl
  | cons first rest inductionHypothesis =>
      rw [List.infix_cons_iff, not_or] at absent
      have notHere : ¬ hash.isPrefixOf (first :: rest) = true := by
        rw [List.isPrefixOf_iff_prefix]
        exact absent.1
      simp [cutFromValue?, notHere, inductionHypothesis absent.2]

/-- The opening of a value ends with an equals sign and a quote. -/
theorem opening_eq
    (name : Text) :
    name ++ Text.of "=\"" = (name ++ ['=']) ++ ['"'] := by
  rw [List.append_assoc]
  rfl

/-- Nothing is cut at the front if no attribute stands there with a value that is cut. -/
theorem cutFromAttribute?_of_uncut
    {hash text : Text}
    {attributes : List Text}
    (uncut :
      ∀ name ∈ attributes, name ++ Text.of "=\"" <+: text →
        cutFromValue? hash (text.drop (name ++ Text.of "=\"").length) = none) :
    cutFromAttribute? hash attributes text = none := by
  induction attributes with
  | nil =>
      rfl
  | cons name names inductionHypothesis =>
      rw [List.forall_mem_cons] at uncut
      rw [cutFromAttribute?, inductionHypothesis uncut.2]
      by_cases isHere : (name ++ Text.of "=\"").isPrefixOf text = true
      · simp only [if_pos isHere, uncut.1 (List.isPrefixOf_iff_prefix.mp isHere),
          Option.map_none]
      · simp only [if_neg isHere]

/-- An attribute is cut at the front if it is one of the attributes and its value is cut. -/
theorem cutFromAttribute?_append_quote
    (hash : Text)
    {attributes : List Text}
    (attributesQuoteFree : ∀ name ∈ attributes, '"' ∉ name)
    {front : Text}
    (quoteFree : '"' ∉ front)
    (tail : Text) :
    cutFromAttribute? hash attributes (front ++ '"' :: tail) =
      if front ∈ attributes.map (· ++ ['=']) then
        (cutFromValue? hash tail).map fun (value, after) => (front ++ '"' :: value, after)
      else none := by
  induction attributes with
  | nil =>
      rfl
  | cons name names inductionHypothesis =>
      rw [List.forall_mem_cons] at attributesQuoteFree
      have nameQuoteFree : '"' ∉ name ++ ['='] := by
        simp [attributesQuoteFree.1]
      have isHere :
          ((name ++ ['=']) ++ ['"']).isPrefixOf (front ++ '"' :: tail) = true ↔
            front = name ++ ['='] := by
        rw [List.isPrefixOf_iff_prefix]
        constructor
        · rintro ⟨rest, shape⟩
          rw [List.append_assoc, List.singleton_append] at shape
          have parts := congrArg (Text.splitOn '"') shape
          rw [Text.splitOn_append_separator nameQuoteFree,
            Text.splitOn_append_separator quoteFree] at parts
          exact (List.cons_eq_cons.mp parts).1.symm
        · rintro rfl
          exact ⟨tail, by simp⟩
      rw [cutFromAttribute?, inductionHypothesis attributesQuoteFree.2]
      simp only [opening_eq]
      by_cases same : front = name ++ ['=']
      · have dropped :
            (front ++ '"' :: tail).drop ((name ++ ['=']) ++ ['"']).length = tail := by
          rw [same]
          simp
        have isOpening : front ∈ (name :: names).map (· ++ ['=']) := by
          simp [same]
        rw [if_pos (isHere.mpr same), if_pos isOpening, dropped, same]
        cases isCut : cutFromValue? hash tail with
        | none =>
            simp
        | some result =>
            simp
      · simp only [if_neg (mt isHere.mp same), List.map_cons, List.mem_cons, same, false_or]

/-- Without an attribute at the front, stripping goes on behind the first character. -/
theorem hashFrom_cons_of_none
    {attributes : List Text}
    {hash : Text}
    {first : Char}
    {rest : Text}
    (isAbsent : cutFromAttribute? hash attributes (first :: rest) = none) :
    hashFrom attributes hash (first :: rest) = first :: hashFrom attributes hash rest := by
  rw [hashFrom]
  split
  · rename_i isPresent
    simp [isAbsent] at isPresent
  · rfl

/-- Behind an attribute that is cut, stripping goes on with the text after it. -/
theorem hashFrom_of_some
    {attributes : List Text}
    {hash text cut after : Text}
    (isPresent : cutFromAttribute? hash attributes text = some (cut, after)) :
    hashFrom attributes hash text = cut ++ hashFrom attributes hash after := by
  cases text with
  | nil =>
      have isAbsent : cutFromAttribute? hash attributes [] = none := by
        refine cutFromAttribute?_of_uncut ?_
        intro name _ _
        rw [List.drop_nil]
        rfl
      simp [isAbsent] at isPresent
  | cons first rest =>
      rw [hashFrom]
      split
      · rename_i isCut
        rw [isPresent] at isCut
        simp only [Option.some.injEq, Prod.mk.injEq] at isCut
        obtain ⟨rfl, rfl⟩ := isCut
        rfl
      · rename_i isAbsent
        simp [isPresent] at isAbsent

/-- A text in which nothing is cut stays, and stripping goes on behind it. -/
theorem hashFrom_append_of_uncut
    {attributes : List Text}
    {hash left right : Text}
    (uncut :
      ∀ part, part ≠ [] → part <:+ left →
        cutFromAttribute? hash attributes (part ++ right) = none) :
    hashFrom attributes hash (left ++ right) = left ++ hashFrom attributes hash right := by
  induction left with
  | nil =>
      rfl
  | cons first rest inductionHypothesis =>
      have here := uncut (first :: rest) (by simp) (List.suffix_refl _)
      rw [List.cons_append] at here
      rw [List.cons_append, hashFrom_cons_of_none here, inductionHypothesis, List.cons_append]
      intro part nonempty isPart
      exact uncut part nonempty (isPart.trans (List.suffix_cons first rest))

/-- A text in which nothing is cut stays as it is. -/
theorem hashFrom_of_uncut
    {attributes : List Text}
    {hash text : Text}
    (uncut :
      ∀ part, part ≠ [] → part <:+ text → cutFromAttribute? hash attributes part = none) :
    hashFrom attributes hash text = text := by
  have nothing : hashFrom attributes hash [] = [] := by
    rw [hashFrom]
  have unchanged :
      hashFrom attributes hash (text ++ []) = text ++ hashFrom attributes hash [] := by
    refine hashFrom_append_of_uncut ?_
    simpa using uncut
  simpa [nothing] using unchanged

/-- A text without quotes stays as it is. -/
theorem hashFrom_of_quoteFree
    {text : Text}
    (quoteFree : '"' ∉ text)
    (attributes : List Text)
    (hash : Text) :
    hashFrom attributes hash text = text := by
  refine hashFrom_of_uncut ?_
  intro part _ isPart
  refine cutFromAttribute?_of_uncut ?_
  intro name _ isPrefix
  rw [opening_eq] at isPrefix
  exact absurd (isPart.subset (isPrefix.subset (by simp))) quoteFree

/-- A text that does not have the hash stays as it is. -/
theorem hashFrom_of_absent
    {hash text : Text}
    (absent : ¬ hash <:+: text)
    (attributes : List Text) :
    hashFrom attributes hash text = text := by
  refine hashFrom_of_uncut ?_
  intro part _ isPart
  refine cutFromAttribute?_of_uncut ?_
  intro name _ _
  refine cutFromValue?_of_absent ?_
  intro occurs
  exact absent (occurs.trans ((List.drop_suffix _ part).trans isPart).isInfix)

/-- A part opens a value if it is an opening or its rest opens one. -/
theorem opens_cons
    (attributes : List Text)
    (first : Char)
    (rest : Text) :
    opens attributes (first :: rest) = true ↔
      first :: rest ∈ attributes.map (· ++ ['=']) ∨ opens attributes rest = true := by
  simp only [opens, List.any_eq_true, List.isSuffixOf_iff_suffix, List.suffix_cons_iff,
    List.mem_map]
  constructor
  · rintro ⟨name, isName, isAll | isInRest⟩
    · exact Or.inl ⟨name, isName, isAll⟩
    · exact Or.inr ⟨name, isName, isInRest⟩
  · rintro (⟨name, isName, isAll⟩ | ⟨name, isName, isInRest⟩)
    · exact ⟨name, isName, Or.inl isAll⟩
    · exact ⟨name, isName, Or.inr isInRest⟩

/-- A part that opens no value, or none that is cut, stays as it is. -/
theorem hashFrom_skip
    {attributes : List Text}
    (attributesQuoteFree : ∀ name ∈ attributes, '"' ∉ name)
    {hash front tail : Text}
    (quoteFree : '"' ∉ front)
    (notCut : opens attributes front = true → cutFromValue? hash tail = none) :
    hashFrom attributes hash (front ++ '"' :: tail) =
      front ++ '"' :: hashFrom attributes hash tail := by
  induction front with
  | nil =>
      have notHere := cutFromAttribute?_append_quote hash attributesQuoteFree
        quoteFree tail
      have noOpening : [] ∉ attributes.map (· ++ ['=']) := by
        simp
      rw [if_neg noOpening] at notHere
      exact hashFrom_cons_of_none notHere
  | cons first rest inductionHypothesis =>
      have notHere := cutFromAttribute?_append_quote hash attributesQuoteFree
        quoteFree tail
      have isAbsent : cutFromAttribute? hash attributes (first :: rest ++ '"' :: tail) = none := by
        rw [notHere]
        split
        · rename_i isOpening
          rw [notCut ((opens_cons attributes first rest).mpr (Or.inl isOpening))]
          rfl
        · rfl
      rw [List.cons_append] at isAbsent
      rw [List.cons_append, hashFrom_cons_of_none isAbsent, List.cons_append]
      rw [inductionHypothesis (fun member => quoteFree (List.mem_cons_of_mem _ member))]
      intro restOpens
      exact notCut ((opens_cons attributes first rest).mpr (Or.inr restOpens))

/-- A value that is opened and cut is replaced, and stripping goes on behind it. -/
theorem hashFrom_cut
    {attributes : List Text}
    (attributesQuoteFree : ∀ name ∈ attributes, '"' ∉ name)
    {hash front tail value after : Text}
    (quoteFree : '"' ∉ front)
    (isOpen : opens attributes front = true)
    (isCut : cutFromValue? hash tail = some (value, after)) :
    hashFrom attributes hash (front ++ '"' :: tail) =
      front ++ '"' :: (value ++ hashFrom attributes hash after) := by
  induction front with
  | nil =>
      simp [opens] at isOpen
  | cons first rest inductionHypothesis =>
      have here := cutFromAttribute?_append_quote hash attributesQuoteFree
        quoteFree tail
      by_cases isOpening : first :: rest ∈ attributes.map (· ++ ['='])
      · rw [if_pos isOpening, isCut, Option.map_some] at here
        rw [hashFrom_of_some here]
        simp
      · rw [if_neg isOpening, List.cons_append] at here
        have restOpens := ((opens_cons attributes first rest).mp isOpen).resolve_left isOpening
        rw [List.cons_append, hashFrom_cons_of_none here, List.cons_append,
          inductionHypothesis (fun member => quoteFree (List.mem_cons_of_mem _ member)) restOpens]

end StyledMarkup.Strip
