import StyledMarkup.Proofs.Alias.Scheme

namespace StyledMarkup

open List

/-!
# What aliases are made of

An alias has no other characters than those of the names that the table was
built from, letters and digits, underscores and hyphens.
-/

/-- The characters of the names, and those that the alias scheme can add. -/
def IsAliasChar (names : List Text) (character : Char) : Prop :=
  (∃ name ∈ names, character ∈ name) ∨
    character.isAlphanum = true ∨ character = '_' ∨ character = '-'

/-- A segment is read from a delimiter among the names: its first two parts between hyphens. -/
theorem Segment.exists_delimiter
    {names : List Text}
    {segment : Segment}
    (isSegment : segment ∈ ofNames names) :
    ∃ head component suffix others,
      Delimiter.IsParts head component suffix ∧
        Text.splitOn '-' (Delimiter.written head component suffix) =
          segment.stem :: segment.suffix :: others ∧
        Delimiter.written head component suffix <:+: Text.join [' '] names := by
  rw [ofNames, List.mem_filterMap] at isSegment
  obtain ⟨⟨delimiter, gap⟩, isOccurrence, isOpened⟩ := isSegment
  obtain ⟨head, component, suffix, parts, rfl, occurs⟩ :=
    Delimiter.exists_parts_of_mem_occurrences isOccurrence
  simp only [ofOccurrence] at isOpened
  split at isOpened
  · rename_i stem second others split
    obtain rfl := Option.some.inj isOpened
    exact ⟨head, component, suffix, others, parts, split, occurs⟩
  · simp at isOpened

/-- The stem of a segment is made of alias characters. -/
theorem Segment.isAliasChar_of_mem_stem
    {names : List Text}
    {segment : Segment}
    (isSegment : segment ∈ ofNames names)
    {character : Char}
    (member : character ∈ segment.stem) :
    IsAliasChar names character := by
  obtain ⟨head, component, suffix, others, parts, split, occurs⟩ :=
    exists_delimiter isSegment
  have isPart :
      segment.stem ∈ Text.splitOn '-' (Delimiter.written head component suffix) := by
    simp [split]
  have inDelimiter := Text.mem_of_mem_splitOn isPart member
  have notBlank := parts.isWord_written.blankFree character inDelimiter
  rcases Text.mem_join (occurs.subset inDelimiter) with inNames | isSpace
  · exact Or.inl inNames
  · rw [List.mem_singleton.mp isSpace] at notBlank
    simp [isBlank_space] at notBlank

namespace AliasTable

/-- The families of a table that have a bucket come from segments. -/
theorem exists_segment_of_bucket
    {names : List Text}
    {family : Family}
    (isFamily : family ∈ (build names).families)
    {bucket : Bucket}
    (isBucket : bucket ∈ family.buckets) :
    ∃ segment ∈ Segment.ofNames names, segment.stem = family.stem := by
  rw [(holds_build names).buckets family isFamily] at isBucket
  by_contra noSegment
  have nothing :
      (Segment.ofNames names).filter (fun segment => segment.stem = family.stem) = [] := by
    rw [List.filter_eq_nil_iff]
    intro segment isSegment sameStem
    exact noSegment ⟨segment, isSegment, by simpa using sameStem⟩
  simp [nothing, bucketsOf] at isBucket

/-- The scheme adds nothing but alias characters to a stem. -/
theorem isAliasChar_of_mem_aliasText
    {names : List Text}
    {stem : Text}
    (stemChars : ∀ character ∈ stem, IsAliasChar names character)
    {bucket position : Nat}
    {character : Char}
    (member : character ∈ aliasText stem bucket position) :
    IsAliasChar names character := by
  have ofDigits : ∀ number : Nat, character ∈ Text.ofNat number → IsAliasChar names character := by
    intro number inDigits
    have isDigit := Nat.isDigit_of_mem_toDigits (by decide) (by decide) inDigits
    exact Or.inr (Or.inl (Bool.or_eq_true_iff.mpr (Or.inr isDigit)))
  have ofExtension : character ∈ Text.of "_ext" → IsAliasChar names character := by
    intro inExtension
    have allOf :
        (Text.of "_ext").all (fun each =>
          each.isAlphanum || each == '_' || each == '-') = true := by
      decide
    have oneOf := List.all_eq_true.mp allOf character inExtension
    exact Or.inr (by simpa [or_assoc] using oneOf)
  rw [aliasText_eq, List.mem_append, List.mem_append] at member
  rcases member with (inStem | inBucket) | inPosition
  · exact stemChars character inStem
  · split at inBucket
    · simp at inBucket
    · rcases List.mem_append.mp inBucket with inExtension | inNumber
      · exact ofExtension inExtension
      · exact ofDigits bucket inNumber
  · split at inPosition
    · simp at inPosition
    · rcases List.mem_cons.mp inPosition with isHyphen | inNumber
      · exact Or.inr (Or.inr (Or.inr isHyphen))
      · exact ofDigits position inNumber

/-- The alias of a name is made of alias characters. -/
theorem isAliasChar_of_aliasFor?
    {names : List Text}
    {name alternative : Text}
    (isName : name ∈ names)
    (isAlias : (build names).aliasFor? name = some alternative)
    {character : Char}
    (member : character ∈ alternative) :
    IsAliasChar names character := by
  rw [aliasFor?] at isAlias
  split at isAlias
  · rename_i stem rest isCut
    split at isAlias
    · simp at isAlias
    · obtain rfl := Option.some.inj isAlias
      refine Or.inl ⟨name, isName, ?_⟩
      rw [Text.eq_append_of_cutFirst? isCut]
      simp [member]
  · have isListed := List.mem_of_getLast? isAlias
    obtain ⟨family, isFamily, index, bucket, position, isBucket, -, rfl⟩ :=
      mem_memberAliases.mp isListed
    obtain ⟨segment, isSegment, sameStem⟩ :=
      exists_segment_of_bucket isFamily (List.mem_of_getElem? isBucket)
    refine isAliasChar_of_mem_aliasText ?_ member
    intro each inStem
    exact Segment.isAliasChar_of_mem_stem isSegment (sameStem ▸ inStem)

end AliasTable

end StyledMarkup
