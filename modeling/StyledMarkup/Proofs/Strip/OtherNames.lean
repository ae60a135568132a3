import StyledMarkup.Proofs.Strip.Tokens
import StyledMarkup.Settings
import Mathlib.Data.List.Infix

namespace StyledMarkup.Strip

open List

/-!
# Class names that are no hashes

A hash is searched in a value as a text, not as a class name, and a blank
behind it goes with it.  All lists of registered hashes therefore leave the
other class names of a value alone exactly if these hashes occur in its class
names only as whole names.
-/

/-- Class names that are no hashes stay, and no class name is new. -/
structure KeepsOthers (hashes : List Text) (value stripped : Text) : Prop where
  stays : ∀ name ∈ Text.words value, name ∉ hashes → name ∈ Text.words stripped
  no_new : ∀ name ∈ Text.words stripped, name ∈ Text.words value

/-- A key with its value in quotes. -/
def assigned (key value : Text) : Text := key ++ '=' :: '"' :: (value ++ ['"'])

theorem assigned_injective
    {key first second : Text}
    (same : assigned key first = assigned key second) :
    first = second := by
  have values := List.append_cancel_left same
  simpa using values

section Value

variable {attributes : List Text}

/-- Stripping a hash takes it out of the value once. -/
theorem hashFrom_assigned
    (attributesQuoteFree : ∀ name ∈ attributes, '"' ∉ name)
    {hash : Text}
    (nonempty : hash ≠ [])
    (hashQuoteFree : '"' ∉ hash)
    {key : Text}
    (isKey : key ∈ attributes)
    {value : Text}
    (quoteFree : '"' ∉ value) :
    hashFrom attributes hash (assigned key value) =
      assigned key (removeFirst hash value) := by
  have split {part : Text} (partQuoteFree : '"' ∉ part) :
      Text.splitOn '"' (assigned key part) = [key ++ ['='], part] ++ [[]] := by
    have frontQuoteFree : '"' ∉ key ++ ['='] := by
      simp [attributesQuoteFree key isKey]
    have shape : assigned key part = (key ++ ['=']) ++ '"' :: (part ++ '"' :: []) := by
      simp [assigned]
    rw [shape, Text.splitOn_append_separator frontQuoteFree,
      Text.splitOn_append_separator partQuoteFree]
    rfl
  have isOpen : opens attributes (key ++ ['=']) = true := by
    rw [opens, List.any_eq_true]
    exact ⟨key, isKey, List.isSuffixOf_iff_suffix.mpr (List.suffix_refl _)⟩
  have removedQuoteFree := not_mem_removeFirst hash quoteFree
  apply Text.splitOn_injective '"'
  rw [splitOn_hashFrom_eq_pass attributesQuoteFree nonempty hashQuoteFree (split quoteFree),
    split removedQuoteFree]
  simp [pass, opensBehind, isOpen]

/-- Stripping hashes takes them out of the value one after the other. -/
theorem hashes_assigned
    (attributesQuoteFree : ∀ name ∈ attributes, '"' ∉ name)
    {hashes : List Text}
    (nonempty : ∀ hash ∈ hashes, hash ≠ [])
    (hashesQuoteFree : ∀ hash ∈ hashes, '"' ∉ hash)
    {key : Text}
    (isKey : key ∈ attributes)
    {value : Text}
    (quoteFree : '"' ∉ value) :
    Strip.hashes attributes hashes (assigned key value) =
      assigned key (hashes.foldl (fun value hash => removeFirst hash value) value) := by
  rw [hashes_eq_foldl (List.ne_nil_of_mem isKey) nonempty]
  induction hashes generalizing value with
  | nil =>
      rfl
  | cons hash rest inductionHypothesis =>
      rw [List.forall_mem_cons] at nonempty hashesQuoteFree
      have removedQuoteFree := not_mem_removeFirst hash quoteFree
      rw [List.foldl_cons, List.foldl_cons,
        hashFrom_assigned attributesQuoteFree nonempty.1 hashesQuoteFree.1 isKey quoteFree]
      exact inductionHypothesis nonempty.2 hashesQuoteFree.2 removedQuoteFree

end Value

theorem foldl_replicate_of_absent
    {hash value : Text}
    (absent : ¬ hash <:+: value)
    (count : Nat) :
    (List.replicate count hash).foldl (fun value hash => removeFirst hash value) value =
      value := by
  induction count with
  | zero =>
      rfl
  | succ count inductionHypothesis =>
      rw [List.replicate_succ, List.foldl_cons, removeFirst_of_absent absent, inductionHypothesis]

/-- A hash that is taken out often enough does not occur any more. -/
theorem not_infix_foldl_replicate
    {hash : Text}
    (nonempty : hash ≠ [])
    {count : Nat}
    {value : Text}
    (enough : value.length ≤ count) :
    ¬ hash <:+:
      (List.replicate count hash).foldl (fun value hash => removeFirst hash value) value := by
  by_cases occurs : hash <:+: value
  · induction count generalizing value with
    | zero =>
        obtain rfl : value = [] := List.length_eq_zero_iff.mp (Nat.le_zero.mp enough)
        exact absurd (List.infix_nil.mp occurs) nonempty
    | succ count inductionHypothesis =>
        have shorter := length_removeFirst_lt nonempty occurs
        rw [List.replicate_succ, List.foldl_cons]
        by_cases again : hash <:+: removeFirst hash value
        · exact inductionHypothesis (by omega) again
        · rwa [foldl_replicate_of_absent again]
  · rwa [foldl_replicate_of_absent occurs]

/-- Hashes that occur only as whole class names leave the other class names alone. -/
theorem keepsOthers_of_whole
    {hashes : List Text}
    (areWords : ∀ hash ∈ hashes, hash.IsWord)
    {value : Text}
    (whole : ∀ name ∈ Text.words value, ∀ hash ∈ hashes, hash <:+: name → name = hash) :
    KeepsOthers hashes value
      (hashes.foldl (fun value hash => removeFirst hash value) value) := by
  have left := words_foldl_removeFirst areWords whole
  constructor
  · intro name isName isNoHash
    rw [left]
    exact List.mem_diff_of_mem isName isNoHash
  · intro name isLeft
    rw [left] at isLeft
    exact List.diff_subset _ _ isLeft

/--
Whatever hashes are stripped from a value, in whatever order and number, the
other class names stay and none is new exactly if a hash that occurs in a class
name of the value is all of that name.
-/
theorem keepsOthers_iff_whole
    {attributes registered : List Text}
    (attributesQuoteFree : ∀ name ∈ attributes, '"' ∉ name)
    (areWords : ∀ hash ∈ registered, hash.IsWord)
    (registeredQuoteFree : ∀ hash ∈ registered, '"' ∉ hash)
    {key value : Text}
    (isKey : key ∈ attributes)
    (quoteFree : '"' ∉ value) :
    (∀ hashes : List Text, hashes ⊆ registered →
        ∃ stripped : Text,
          Strip.hashes attributes hashes (assigned key value) =
              assigned key stripped ∧
            KeepsOthers hashes value stripped) ↔
      ∀ name ∈ Text.words value, ∀ hash ∈ registered, hash <:+: name → name = hash := by
  have result {hashes : List Text} (fromRegistered : hashes ⊆ registered) :=
    hashes_assigned attributesQuoteFree
      (fun hash isHash => (areWords hash (fromRegistered isHash)).nonempty)
      (fun hash isHash => registeredQuoteFree hash (fromRegistered isHash)) isKey quoteFree
  constructor
  · intro keeps name isName hash isHash occurs
    by_contra different
    -- Stripped as often as the value is long, the hash is nowhere, so the name is torn.
    have fromRegistered : List.replicate value.length hash ⊆ registered := by
      intro other isOther
      rwa [(List.mem_replicate.mp isOther).2]
    obtain ⟨stripped, same, kept⟩ := keeps _ fromRegistered
    rw [result fromRegistered] at same
    have isNoHash : name ∉ List.replicate value.length hash := by
      intro member
      exact different (List.mem_replicate.mp member).2
    have stays := kept.stays name isName isNoHash
    rw [← assigned_injective same] at stays
    have nowhere := not_infix_foldl_replicate (areWords hash isHash).nonempty (le_refl value.length)
    exact nowhere (occurs.trans (Text.infix_of_mem_words stays))
  · intro whole hashes fromRegistered
    refine ⟨_, result fromRegistered, ?_⟩
    apply keepsOthers_of_whole
    · intro hash isHash
      exact areWords hash (fromRegistered isHash)
    · intro name isName hash isHash
      exact whole name isName hash (fromRegistered isHash)

/-- A value with a hash as a whole name, twice, and with other names. -/
theorem keepsOthers_iff_whole_of_repeated_hash :
    let attributes := Settings.standard.classAttributes
    let registered := [Text.of "sc-u", Text.of "kdEaB"]
    let value := Text.of "card sc-u\twide sc-u "
    (∀ name ∈ attributes, '"' ∉ name) ∧ (∀ hash ∈ registered, hash.IsWord) ∧
      (∀ hash ∈ registered, '"' ∉ hash) ∧ Text.of "class" ∈ attributes ∧ '"' ∉ value ∧
        ∀ hashes : List Text, hashes ⊆ registered →
          ∃ stripped : Text,
            Strip.hashes attributes hashes (assigned (Text.of "class") value) =
                assigned (Text.of "class") stripped ∧
              KeepsOthers hashes value stripped := by
  intro attributes registered value
  have attributesQuoteFree : ∀ name ∈ attributes, '"' ∉ name := by
    decide
  have areWords : ∀ hash ∈ registered, hash.IsWord := by
    decide
  have registeredQuoteFree : ∀ hash ∈ registered, '"' ∉ hash := by
    decide
  have isKey : Text.of "class" ∈ attributes := by
    decide
  have quoteFree : '"' ∉ value := by
    decide
  refine ⟨attributesQuoteFree, areWords, registeredQuoteFree, isKey, quoteFree, ?_⟩
  exact (keepsOthers_iff_whole attributesQuoteFree areWords registeredQuoteFree isKey
    quoteFree).mpr (by decide)

/-- A class name that starts with a hash is torn: its rest is left as a new class name. -/
theorem hashes_tears_longer_name :
    let attributes := Settings.standard.classAttributes
    let hashes := [Text.of "btn"]
    let value := Text.of "btn-large"
    Strip.hashes attributes hashes (assigned (Text.of "class") value) =
        assigned (Text.of "class") (Text.of "-large") ∧
      Text.words value = [Text.of "btn-large"] ∧
        Text.words (Text.of "-large") = [Text.of "-large"] ∧
          ¬ ∃ stripped : Text,
            Strip.hashes attributes hashes (assigned (Text.of "class") value) =
                assigned (Text.of "class") stripped ∧
              KeepsOthers hashes value stripped := by
  intro attributes hashes value
  have torn :
      Strip.hashes attributes hashes (assigned (Text.of "class") value) =
        assigned (Text.of "class") (Text.of "-large") := by
    decide +kernel
  refine ⟨torn, by decide, by decide, ?_⟩
  rintro ⟨stripped, same, kept⟩
  rw [torn] at same
  rw [← assigned_injective same] at kept
  have stays := kept.stays (Text.of "btn-large") (by decide) (by decide)
  exact absurd stays (by decide)

end StyledMarkup.Strip
