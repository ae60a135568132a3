import StyledMarkup.Proofs.Alias.Characters
import StyledMarkup.Proofs.Text.Encoding

namespace StyledMarkup

open List

/-!
# Different names have different aliases

The stem of a delimiter has no hyphen, and its underscores come in pairs.  The
extension of an alias adds a single underscore and the member number a single
hyphen, so the stem and both numbers can be read back from an alias.  Stems
have one family each, hence no two names without a hyphen share an alias.
-/

/-- A text without hyphens in which the number of underscores is even. -/
structure Text.IsStem (text : Text) : Prop where
  hyphenFree : '-' ∉ text
  paired : text.count '_' % 2 = 0

/-- What stands in front of the first hyphen of a delimiter is a stem. -/
theorem Delimiter.IsParts.isStem_of_splitOn
    {head component suffix : Text}
    (parts : IsParts head component suffix)
    {stem : Text}
    {others : List Text}
    (split : Text.splitOn '-' (written head component suffix) = stem :: others) :
    stem.IsStem := by
  have headUnderscoreFree : '_' ∉ head := by
    intro member
    exact absurd (parts.head_chars '_' member) (by decide)
  have componentFree : ∀ character, character.isAlphanum = false → character ∉ component := by
    intro character notAlphanumeric member
    simp [parts.component_chars character member] at notAlphanumeric
  by_cases inHead : '-' ∈ head
  · -- The stem ends inside the head, where there is no underscore.
    obtain ⟨left, right, rfl, leftFree⟩ := List.eq_append_cons_of_mem inHead
    have shape :
        written (left ++ '-' :: right) component suffix =
          left ++ '-' :: (right ++ '_' :: '_' :: component ++ '-' :: suffix) := by
      simp [written]
    rw [shape, Text.splitOn_append_separator leftFree] at split
    obtain rfl := (List.cons_eq_cons.mp split).1
    refine ⟨leftFree, ?_⟩
    have noUnderscore : '_' ∉ left := by
      intro member
      exact headUnderscoreFree (List.mem_append_left _ member)
    rw [List.count_eq_zero.mpr noUnderscore]
  · -- The stem is the head, two underscores and the component.
    have stemFree : '-' ∉ head ++ '_' :: '_' :: component := by
      simp [inHead, componentFree '-' rfl]
    rw [written, Text.splitOn_append_separator stemFree] at split
    obtain rfl := (List.cons_eq_cons.mp split).1
    refine ⟨stemFree, ?_⟩
    simp [List.count_append, List.count_eq_zero.mpr headUnderscoreFree,
      List.count_eq_zero.mpr (componentFree '_' rfl)]

namespace AliasTable

/-- A family with a bucket has a stem that was read from a delimiter. -/
theorem isStem_of_bucket
    {names : List Text}
    {family : Family}
    (isFamily : family ∈ (build names).families)
    {bucket : Bucket}
    (isBucket : bucket ∈ family.buckets) :
    family.stem.IsStem := by
  obtain ⟨segment, isSegment, sameStem⟩ := exists_segment_of_bucket isFamily isBucket
  obtain ⟨head, component, suffix, others, parts, split, -⟩ :=
    Segment.exists_delimiter isSegment
  exact sameStem ▸ parts.isStem_of_splitOn split

/-- The alias text up to the member number: the stem with its extension. -/
def baseText (stem : Text) (bucket : Nat) : Text :=
  if bucket = 0 then stem else stem ++ '_' :: (Text.of "ext" ++ Text.ofNat bucket)

/-- The alias text is its base, and behind a hyphen the member number unless it is zero. -/
theorem aliasText_eq_baseText
    (stem : Text)
    (bucket member : Nat) :
    aliasText stem bucket member =
      baseText stem bucket ++ (if member = 0 then [] else '-' :: Text.ofNat member) := by
  rw [aliasText_eq, baseText]
  split
  · rw [List.append_nil]
  · rfl

/-- There is no underscore in the text of an extension. -/
theorem underscore_not_mem_extension
    (bucket : Nat) :
    '_' ∉ Text.of "ext" ++ Text.ofNat bucket := by
  rw [List.mem_append, not_or]
  exact ⟨by decide, Text.not_mem_ofNat rfl bucket⟩

/-- There is no hyphen in the base of an alias. -/
theorem hyphen_not_mem_baseText
    {stem : Text}
    (isStem : stem.IsStem)
    (bucket : Nat) :
    '-' ∉ baseText stem bucket := by
  rw [baseText]
  split
  · exact isStem.hyphenFree
  · have extensionFree : '-' ∉ Text.of "ext" := by
      decide
    have numberFree : '-' ∉ Text.ofNat bucket := Text.not_mem_ofNat rfl bucket
    simp [isStem.hyphenFree, extensionFree, numberFree]

/-- The base has an odd number of underscores exactly if the bucket is not the first one. -/
theorem count_underscore_baseText
    {stem : Text}
    (isStem : stem.IsStem)
    (bucket : Nat) :
    (baseText stem bucket).count '_' % 2 = if bucket = 0 then 0 else 1 := by
  have paired := isStem.paired
  rw [baseText]
  split
  · exact paired
  · rw [List.count_append, List.count_cons_self,
      List.count_eq_zero.mpr (underscore_not_mem_extension bucket)]
    omega

/-- The stem and the bucket number can be read back from the base of an alias. -/
theorem baseText_injective
    {first second : Text}
    (isFirst : first.IsStem)
    (isSecond : second.IsStem)
    {bucket otherBucket : Nat}
    (same : baseText first bucket = baseText second otherBucket) :
    first = second ∧ bucket = otherBucket := by
  have sameParity := congrArg (fun text => text.count '_' % 2) same
  simp only [count_underscore_baseText isFirst, count_underscore_baseText isSecond]
    at sameParity
  by_cases isBase : bucket = 0
  · have otherIsBase : otherBucket = 0 := by
      by_contra otherExtends
      simp [isBase, otherExtends] at sameParity
    subst bucket otherBucket
    exact ⟨same, rfl⟩
  · have otherExtends : otherBucket ≠ 0 := by
      rintro rfl
      simp [isBase] at sameParity
    rw [baseText, baseText, if_neg isBase, if_neg otherExtends] at same
    -- The last underscore separates the stem from the extension.
    have parts := congrArg (Text.splitOn '_') same
    rw [Text.splitOn_append_cons, Text.splitOn_append_cons,
      Text.splitOn_of_not_mem (underscore_not_mem_extension bucket),
      Text.splitOn_of_not_mem (underscore_not_mem_extension otherBucket)] at parts
    have sameExtension := List.singleton_inj.mp (List.append_inj_right' parts rfl)
    rw [sameExtension] at same
    exact ⟨List.append_cancel_right same,
      Text.ofNat_injective (List.append_cancel_left sameExtension)⟩

/-- The stem, the bucket number and the member number can be read back from an alias. -/
theorem aliasText_injective
    {first second : Text}
    (isFirst : first.IsStem)
    (isSecond : second.IsStem)
    {bucket member otherBucket otherMember : Nat}
    (same : aliasText first bucket member = aliasText second otherBucket otherMember) :
    first = second ∧ bucket = otherBucket ∧ member = otherMember := by
  have splitAlias {stem : Text} (isStem : stem.IsStem) (bucket member : Nat) :
      Text.splitOn '-' (aliasText stem bucket member) =
        baseText stem bucket :: (if member = 0 then [] else [Text.ofNat member]) := by
    have baseFree := hyphen_not_mem_baseText isStem bucket
    rw [aliasText_eq_baseText]
    split
    · rw [List.append_nil, Text.splitOn_of_not_mem baseFree]
    · rw [Text.splitOn_append_separator baseFree,
        Text.splitOn_of_not_mem (Text.not_mem_ofNat rfl member)]
  have parts := congrArg (Text.splitOn '-') same
  rw [splitAlias isFirst, splitAlias isSecond, List.cons_eq_cons] at parts
  obtain ⟨sameBase, sameNumber⟩ := parts
  obtain ⟨sameStem, sameBucket⟩ := baseText_injective isFirst isSecond sameBase
  refine ⟨sameStem, sameBucket, ?_⟩
  by_cases isZero : member = 0
  · by_contra different
    have otherNotZero : otherMember ≠ 0 := by
      intro otherIsZero
      exact different (isZero.trans otherIsZero.symm)
    simp [isZero, otherNotZero] at sameNumber
  · by_cases otherIsZero : otherMember = 0
    · simp [isZero, otherIsZero] at sameNumber
    · rw [if_neg isZero, if_neg otherIsZero, List.singleton_inj] at sameNumber
      exact Text.ofNat_injective sameNumber

/-- A name without a hyphen that has an alias is called by a place where it stands. -/
theorem exists_place_of_aliasFor?
    {names : List Text}
    {name found : Text}
    (simple : '-' ∉ name)
    (isAlias : (build names).aliasFor? name = some found) :
    ∃ family ∈ (build names).families, ∃ index bucket member,
      family.buckets[index]? = some bucket ∧
        bucket.members.idxOf? name = some member ∧
          found = aliasText family.stem index member := by
  rw [aliasFor?_of_hyphen_not_mem simple] at isAlias
  exact mem_memberAliases.mp (List.mem_of_getLast? isAlias)

/-- Two different names without hyphens that both have an alias have different aliases. -/
theorem aliasFor?_ne_of_ne
    (names : List Text)
    {first second : Text}
    (firstSimple : '-' ∉ first)
    (secondSimple : '-' ∉ second)
    (different : first ≠ second)
    {firstAlias secondAlias : Text}
    (isFirst : (build names).aliasFor? first = some firstAlias)
    (isSecond : (build names).aliasFor? second = some secondAlias) :
    firstAlias ≠ secondAlias := by
  obtain ⟨family, isFamily, index, bucket, member, isBucket, isMember, rfl⟩ :=
    exists_place_of_aliasFor? firstSimple isFirst
  obtain ⟨other, isOther, otherIndex, otherBucket, otherMember, isOtherBucket,
      isOtherMember, rfl⟩ :=
    exists_place_of_aliasFor? secondSimple isSecond
  intro same
  obtain ⟨sameStem, rfl, rfl⟩ :=
    aliasText_injective (isStem_of_bucket isFamily (List.mem_of_getElem? isBucket))
      (isStem_of_bucket isOther (List.mem_of_getElem? isOtherBucket)) same
  obtain rfl : family = other :=
    List.inj_on_of_nodup_map (holds_build names).distinct isFamily isOther sameStem
  obtain rfl : bucket = otherBucket :=
    Option.some.inj (isBucket.symm.trans isOtherBucket)
  exact different (eq_of_idxOf?_eq isMember isOtherMember)

/--
A name in two buckets of different stems, the first of which is empty, and a
name in a later place of the second one.
-/
theorem aliasFor?_ne_of_ne_of_repeated_member :
    let names :=
      [Text.of "-x__y-z", Text.of "aa", Text.of "A__b-c", Text.of "bb", Text.of "cc",
        Text.of "A__b-d", Text.of "dd", Text.of "aa"]
    ((build names).aliasFor? (Text.of "aa") = some (Text.of "A__b_ext1-1") ∧
      (build names).aliasFor? (Text.of "cc") = some (Text.of "A__b-1")) ∧
      Text.of "A__b_ext1-1" ≠ Text.of "A__b-1" := by
  intro names
  have isFirst : (build names).aliasFor? (Text.of "aa") = some (Text.of "A__b_ext1-1") := by
    decide +kernel
  have isSecond : (build names).aliasFor? (Text.of "cc") = some (Text.of "A__b-1") := by
    decide +kernel
  exact ⟨⟨isFirst, isSecond⟩,
    aliasFor?_ne_of_ne names (by decide) (by decide) (by decide) isFirst isSecond⟩

end AliasTable

end StyledMarkup
