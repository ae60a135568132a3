import StyledMarkup.Proofs.Strip.Scan

namespace StyledMarkup.Strip

open List

/-!
# Stripping as a scan

To strip a hash, a scan takes the leftmost opening of a class attribute whose
value, up to the next quote, is closed and has the hash.  The value loses the
hash, and the scan goes on behind its closing quote.
-/

/-- The value of an attribute at the front of a text, if it is closed and has the hash. -/
def valueOf? (hash text name : Text) : Option (Text × Text × Text) :=
  let opening := name ++ Text.of "=\""
  if opening.isPrefixOf text then
    match Text.cutFirst? ['"'] (text.drop opening.length) with
    | some (value, after) =>
        if Text.occursIn hash value then some (opening, value, after) else none
    | none => none
  else none

/--
The opening of a class attribute at the front of a text, its value with the
hash, and the text behind the closing quote.
-/
def valueHere? (attributes : List Text) (hash text : Text) : Option (Text × Text × Text) :=
  attributes.findSome? (valueOf? hash text)

/-- The leftmost opening of a value with the hash, and the text that is skipped before it. -/
def leftmostValue? (attributes : List Text) (hash : Text) :
    Text → Option (Text × Text × Text × Text)
  | [] => none
  | first :: rest =>
      match valueHere? attributes hash (first :: rest) with
      | some found => some ([], found)
      | none =>
          (leftmostValue? attributes hash rest).map fun (skipped, found) =>
            (first :: skipped, found)

theorem eq_append_of_valueHere?
    {attributes : List Text}
    {hash text opening value after : Text}
    (isHere : valueHere? attributes hash text = some (opening, value, after)) :
    text = opening ++ (value ++ '"' :: after) := by
  obtain ⟨name, _, isFound⟩ := List.exists_of_findSome?_eq_some isHere
  simp only [valueOf?] at isFound
  split at isFound
  · rename_i isOpening
    split at isFound
    · rename_i cutValue cutAfter isCut
      split at isFound
      · simp only [Option.some.injEq, Prod.mk.injEq] at isFound
        obtain ⟨rfl, rfl, rfl⟩ := isFound
        have front := List.prefix_iff_eq_append.mp (List.isPrefixOf_iff_prefix.mp isOpening)
        have behind := Text.eq_append_of_cutFirst? isCut
        rw [List.append_assoc] at behind
        rw [← front, behind]
        rfl
      · simp at isFound
    · simp at isFound
  · simp at isFound

theorem eq_append_of_leftmostValue?
    {attributes : List Text}
    {hash text skipped opening value after : Text}
    (isFound : leftmostValue? attributes hash text = some (skipped, opening, value, after)) :
    text = skipped ++ (opening ++ (value ++ '"' :: after)) := by
  induction text generalizing skipped with
  | nil =>
      simp [leftmostValue?] at isFound
  | cons first rest inductionHypothesis =>
      rw [leftmostValue?] at isFound
      cases isHere : valueHere? attributes hash (first :: rest) with
      | some found =>
          simp only [isHere, Option.some.injEq, Prod.mk.injEq] at isFound
          obtain ⟨rfl, rfl⟩ := isFound
          exact eq_append_of_valueHere? isHere
      | none =>
          simp only [isHere, Option.map_eq_some_iff, Prod.mk.injEq, Prod.exists] at isFound
          obtain ⟨between, _, _, _, isInRest, rfl, rfl, rfl, rfl⟩ := isFound
          rw [inductionHypothesis isInRest, List.cons_append]

theorem leftmostValue?_length
    {attributes : List Text}
    {hash text skipped opening value after : Text}
    (isFound : leftmostValue? attributes hash text = some (skipped, opening, value, after)) :
    after.length < text.length := by
  rw [eq_append_of_leftmostValue? isFound]
  simp only [List.length_append, List.length_cons]
  omega

/-- Takes the hash out of the leftmost value that has it, and goes on behind that value. -/
def scan (attributes : List Text) (hash text : Text) : Text :=
  match _ : leftmostValue? attributes hash text with
  | none => text
  | some (skipped, opening, value, after) =>
      skipped ++ opening ++ removeFirst hash value ++ '"' :: scan attributes hash after
termination_by text.length
decreasing_by exact leftmostValue?_length (by assumption)

section Scan

variable {attributes : List Text} {hash : Text}

theorem scan_of_none
    {text : Text}
    (isAbsent : leftmostValue? attributes hash text = none) :
    scan attributes hash text = text := by
  rw [scan]
  split
  · rfl
  · rename_i isPresent
    simp [isAbsent] at isPresent

theorem scan_of_some
    {text skipped opening value after : Text}
    (isFound : leftmostValue? attributes hash text = some (skipped, opening, value, after)) :
    scan attributes hash text =
      skipped ++ opening ++ removeFirst hash value ++ '"' :: scan attributes hash after := by
  rw [scan]
  split
  · rename_i isAbsent
    simp [isFound] at isAbsent
  · rename_i isPresent
    rw [isFound] at isPresent
    simp only [Option.some.injEq, Prod.mk.injEq] at isPresent
    obtain ⟨rfl, rfl, rfl, rfl⟩ := isPresent
    rfl

/-- The hash is cut out up to some quote behind it exactly if it is in the value up to the next. -/
theorem cutFromValue?_eq
    (nonempty : hash ≠ [])
    (hashQuoteFree : '"' ∉ hash)
    (text : Text) :
    cutFromValue? hash text =
      match Text.cutFirst? ['"'] text with
      | some (value, after) =>
          if Text.occursIn hash value then some (removeFirst hash value ++ ['"'], after) else none
      | none => none := by
  induction text using Text.induction_on_separator '"' with
  | whole text quoteFree =>
      rw [cutFromValue?_of_quoteFree hash quoteFree, Text.cutFirst?_of_not_mem quoteFree]
  | parted value after quoteFree _ =>
      rw [cutFromValue?_append_quote nonempty hashQuoteFree quoteFree,
        Text.cutFirst?_append_separator quoteFree]
      simp only [Text.occursIn_eq_true_iff]

/-- The first attribute that can be cut is the first one with a value that has the hash. -/
theorem cutFromAttribute?_eq_map
    (nonempty : hash ≠ [])
    (hashQuoteFree : '"' ∉ hash)
    (attributes : List Text)
    (text : Text) :
    cutFromAttribute? hash attributes text =
      (valueHere? attributes hash text).map fun (opening, value, after) =>
        (opening ++ (removeFirst hash value ++ ['"']), after) := by
  induction attributes with
  | nil =>
      rfl
  | cons name names inductionHypothesis =>
      rw [cutFromAttribute?, inductionHypothesis, valueHere?, valueHere?, List.findSome?_cons,
        valueOf?, cutFromValue?_eq nonempty hashQuoteFree]
      by_cases isOpening : (name ++ Text.of "=\"").isPrefixOf text = true
      · simp only [if_pos isOpening]
        cases Text.cutFirst? ['"'] (text.drop (name ++ Text.of "=\"").length) with
        | none =>
            rfl
        | some split =>
            obtain ⟨value, after⟩ := split
            by_cases occurs : Text.occursIn hash value = true
            · simp [occurs]
            · simp [occurs]
      · simp only [if_neg isOpening]

/-- A character at which no value opens is skipped. -/
theorem scan_cons_of_none
    {first : Char}
    {rest : Text}
    (isAbsent : valueHere? attributes hash (first :: rest) = none) :
    scan attributes hash (first :: rest) = first :: scan attributes hash rest := by
  cases isFound : leftmostValue? attributes hash rest with
  | none =>
      have notFound : leftmostValue? attributes hash (first :: rest) = none := by
        simp [leftmostValue?, isAbsent, isFound]
      rw [scan_of_none notFound, scan_of_none isFound]
  | some found =>
      obtain ⟨skipped, opening, value, after⟩ := found
      have isFoundHere :
          leftmostValue? attributes hash (first :: rest) =
            some (first :: skipped, opening, value, after) := by
        simp [leftmostValue?, isAbsent, isFound]
      rw [scan_of_some isFoundHere, scan_of_some isFound]
      rfl

/-- Stripping a hash is the scan for it. -/
theorem hashFrom_eq_scan
    (nonempty : hash ≠ [])
    (hashQuoteFree : '"' ∉ hash)
    (text : Text) :
    hashFrom attributes hash text = scan attributes hash text := by
  have sameCut := cutFromAttribute?_eq_map nonempty hashQuoteFree attributes
  induction text using hashFrom.induct attributes hash with
  | case1 =>
      rw [hashFrom, scan_of_none rfl]
  | case2 first rest cut after isCut inductionHypothesis =>
      rw [hashFrom_of_some isCut, inductionHypothesis]
      rw [sameCut, Option.map_eq_some_iff] at isCut
      obtain ⟨⟨opening, value, behind⟩, isHere, same⟩ := isCut
      simp only [Prod.mk.injEq] at same
      obtain ⟨rfl, rfl⟩ := same
      have isFound :
          leftmostValue? attributes hash (first :: rest) = some ([], opening, value, behind) := by
        simp [leftmostValue?, isHere]
      rw [scan_of_some isFound]
      simp
  | case3 first rest isAbsent inductionHypothesis =>
      rw [hashFrom_cons_of_none isAbsent, inductionHypothesis]
      rw [sameCut, Option.map_eq_none_iff] at isAbsent
      rw [scan_cons_of_none isAbsent]

end Scan

/-- A pass takes the hash out of some parts that have it, once, and keeps all others. -/
theorem forall₂_pass
    (attributes : List Text)
    (hash : Text)
    (opened : Bool)
    (parts : List Text) :
    List.Forall₂
      (fun part stripped =>
        stripped = part ∨ hash <:+: part ∧ stripped = removeFirst hash part)
      parts (pass attributes hash opened parts) := by
  induction parts generalizing opened with
  | nil =>
      exact List.Forall₂.nil
  | cons part rest inductionHypothesis =>
      refine List.Forall₂.cons ?_ (inductionHypothesis _)
      by_cases occurs : hash <:+: part
      · cases opened with
        | false =>
            exact Or.inl rfl
        | true =>
            exact Or.inr ⟨occurs, rfl⟩
      · left
        rw [removeFirst_of_absent occurs, ite_self]

/--
Hashes are stripped by one scan after the other, whether they occur or not.  A
scan changes nothing if the hash does not occur; between the quotes of a text
it takes out one occurrence of the hash or nothing.
-/
theorem hashes_eq_foldl_scan
    {attributes hashes : List Text}
    (attributesQuoteFree : ∀ name ∈ attributes, '"' ∉ name)
    (hashesQuoteFree : ∀ hash ∈ hashes, '"' ∉ hash)
    (text : Text) :
    Strip.hashes attributes hashes text =
        (if attributes = [] then text
          else
            hashes.foldl
              (fun text hash => if hash = [] then text else scan attributes hash text) text) ∧
      ∀ hash ∈ hashes, hash ≠ [] → ∀ scanned : Text,
        (¬ hash <:+: scanned → scan attributes hash scanned = scanned) ∧
          List.Forall₂
            (fun part stripped =>
              stripped = part ∨ hash <:+: part ∧ stripped = removeFirst hash part)
            (Text.splitOn '"' scanned) (Text.splitOn '"' (scan attributes hash scanned)) := by
  constructor
  · by_cases noAttributes : attributes = []
    · simp [Strip.hashes, noAttributes]
    · rw [Strip.hashes, if_neg (by simpa using noAttributes), if_neg noAttributes]
      apply List.foldl_ext
      intro scanned hash isHash
      by_cases empty : hash = []
      · simp [empty]
      · rw [if_neg empty, hashFrom_of_step empty]
        exact hashFrom_eq_scan empty (hashesQuoteFree hash isHash) scanned
  · intro hash isHash nonempty scanned
    have hashQuoteFree := hashesQuoteFree hash isHash
    rw [← hashFrom_eq_scan nonempty hashQuoteFree]
    refine ⟨fun absent => hashFrom_of_absent absent attributes, ?_⟩
    obtain ⟨last, parts⟩ := exists_splitOn_eq_closedParts scanned
    rw [splitOn_hashFrom_eq_pass attributesQuoteFree nonempty hashQuoteFree parts, parts]
    exact List.rel_append (forall₂_pass attributes hash false _)
      (List.Forall₂.cons (Or.inl rfl) List.Forall₂.nil)

/-- Openings in values and behind other names, an empty hash, and a value without an end. -/
theorem hashes_eq_foldl_scan_of_hidden_opening :
    let attributes := [Text.of "class", Text.of "className", Text.of "s"]
    let hashes := [Text.of "sc-u", [], Text.of "a.b", Text.of "sc-u", Text.of "sc-x"]
    let text :=
      Text.of "class=\"x class=\"sc-u sc-u\" className=\"axb a.b\ty\" data-s=\"sc-u\" s=\"a.b"
    (∀ name ∈ attributes, '"' ∉ name) ∧ (∀ hash ∈ hashes, '"' ∉ hash) ∧
      Strip.hashes attributes hashes text =
        hashes.foldl
          (fun text hash => if hash = [] then text else scan attributes hash text) text ∧
      Strip.hashes attributes hashes text =
        Text.of "class=\"x class=\"\" className=\"axb y\" data-s=\"\" s=\"a.b" := by
  intro attributes hashes text
  have attributesQuoteFree : ∀ name ∈ attributes, '"' ∉ name := by
    decide
  have hashesQuoteFree : ∀ hash ∈ hashes, '"' ∉ hash := by
    decide
  have scans := (hashes_eq_foldl_scan attributesQuoteFree hashesQuoteFree text).1
  exact ⟨attributesQuoteFree, hashesQuoteFree, scans, by decide +kernel⟩

end StyledMarkup.Strip
