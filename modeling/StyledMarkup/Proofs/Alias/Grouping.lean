import StyledMarkup.Proofs.Alias.Table
import Mathlib.Data.List.Induction
import Mathlib.Data.List.Nodup

namespace StyledMarkup

open List

/-!
# Stems and suffixes in the order of their appearance

A table has a family for every stem of the segments, and the family a bucket
for every suffix of its stem, each where it appears first.  A suffix that
appears again keeps its place and starts over, so a bucket has the members of
the last segment with its stem and suffix.
-/

/-! ## First appearances -/

theorem eraseDups_concat
    (items : List Text)
    (item : Text) :
    (items ++ [item]).eraseDups =
      if item ∈ items then items.eraseDups else items.eraseDups ++ [item] := by
  rw [List.eraseDups_append, List.cons_removeAll]
  by_cases isKnown : item ∈ items
  · simp [isKnown]
  · simp [isKnown, List.eraseDups_cons]

theorem nodup_eraseDups
    (items : List Text) :
    items.eraseDups.Nodup := by
  induction items using List.reverseRecOn with
  | nil =>
      simp
  | append_singleton earlier item inductionHypothesis =>
      rw [eraseDups_concat]
      split
      · exact inductionHypothesis
      · rename_i isNew
        have isNotKept : item ∉ earlier.eraseDups := by
          rwa [List.mem_eraseDups]
        rw [← List.concat_eq_append]
        exact List.Nodup.concat isNotKept inductionHypothesis

/--
If putting a segment appends its key unless the key is there, then the keys of
all that was put are there, each where it comes first.
-/
theorem keys_foldl_eq_eraseDups
    {Item : Type}
    {put : Segment → List Item → List Item}
    {key : Item → Text}
    {keyOf : Segment → Text}
    (keys_put :
      ∀ segment items,
        (put segment items).map key =
          if keyOf segment ∈ items.map key then items.map key
          else items.map key ++ [keyOf segment])
    (segments : List Segment) :
    (segments.foldl (fun items segment => put segment items) []).map key =
      (segments.map keyOf).eraseDups := by
  induction segments using List.reverseRecOn with
  | nil =>
      simp
  | append_singleton earlier segment inductionHypothesis =>
      rw [List.foldl_concat, keys_put, inductionHypothesis, List.map_append, List.map_singleton,
        eraseDups_concat]
      simp only [List.mem_eraseDups]

namespace AliasTable

/-- Putting a segment adds its suffix behind the others, unless it is there. -/
theorem suffixes_putBucket
    (segment : Segment)
    (buckets : List Bucket) :
    (putBucket segment buckets).map Bucket.suffix =
      if segment.suffix ∈ buckets.map Bucket.suffix then buckets.map Bucket.suffix
      else buckets.map Bucket.suffix ++ [segment.suffix] := by
  rw [putBucket_eq_putUnder]
  apply keys_putUnder
  · rfl
  · intro bucket
    rfl

theorem stems_build
    (names : List Text) :
    (build names).families.map Family.stem =
      ((Segment.ofNames names).map Segment.stem).eraseDups :=
  keys_foldl_eq_eraseDups stems_putFamily (Segment.ofNames names)

theorem suffixes_bucketsOf
    (segments : List Segment) :
    (bucketsOf segments).map Bucket.suffix = (segments.map Segment.suffix).eraseDups :=
  keys_foldl_eq_eraseDups suffixes_putBucket segments

/-! ## Starting over -/

/-- A bucket is that of the segment that was put, or it was there with another suffix. -/
theorem mem_putBucket
    {segment : Segment}
    {buckets : List Bucket}
    (distinct : (buckets.map Bucket.suffix).Nodup)
    {bucket : Bucket}
    (member : bucket ∈ putBucket segment buckets) :
    bucket = segment.bucket ∨ (bucket ∈ buckets ∧ bucket.suffix ≠ segment.suffix) := by
  rw [putBucket_eq_putUnder] at member
  rcases mem_putUnder distinct member with
      isOld | ⟨old, isOld, sameSuffix, rfl⟩ | ⟨isNew, rfl⟩
  · exact Or.inr isOld
  · rw [sameSuffix]
    exact Or.inl rfl
  · exact Or.inl rfl

/-- A bucket is made by the last segment with its suffix. -/
theorem exists_last_of_mem_bucketsOf
    {segments : List Segment}
    {bucket : Bucket}
    (member : bucket ∈ bucketsOf segments) :
    ∃ earlier segment later,
      segments = earlier ++ segment :: later ∧ bucket = segment.bucket ∧
        ∀ other ∈ later, other.suffix ≠ segment.suffix := by
  induction segments using List.reverseRecOn with
  | nil =>
      simp [bucketsOf] at member
  | append_singleton before added inductionHypothesis =>
      have distinct : ((bucketsOf before).map Bucket.suffix).Nodup := by
        rw [suffixes_bucketsOf]
        exact nodup_eraseDups _
      rw [bucketsOf, List.foldl_concat] at member
      rcases mem_putBucket distinct member with isAdded | ⟨isOld, differs⟩
      · exact ⟨before, added, [], rfl, isAdded, by simp⟩
      · obtain ⟨earlier, segment, later, rfl, rfl, noLater⟩ := inductionHypothesis isOld
        refine ⟨earlier, segment, later ++ [added], by simp, rfl, ?_⟩
        intro other isLater
        rcases List.mem_append.mp isLater with inLater | isAdded
        · exact noLater other inLater
        · rw [List.mem_singleton.mp isAdded]
          exact differs.symm

end AliasTable

/-- No segment behind this one has the same stem and suffix. -/
def Segment.IsLast
    (segments : List Segment)
    (segment : Segment) :
    Prop :=
  ∃ earlier later,
    segments = earlier ++ segment :: later ∧
      ∀ other ∈ later, ¬ (other.stem = segment.stem ∧ other.suffix = segment.suffix)

/-- A segment that is the last one of its suffix among those of its stem is the last one. -/
theorem Segment.IsLast.of_filter
    {segments : List Segment}
    {stem : Text}
    {earlier later : List Segment}
    {segment : Segment}
    (shape : segments.filter (fun each => each.stem = stem) = earlier ++ segment :: later)
    (noLater : ∀ other ∈ later, other.suffix ≠ segment.suffix) :
    segment.stem = stem ∧ IsLast segments segment := by
  obtain ⟨front, back, rfl, -, backShape⟩ := List.filter_eq_append_iff.mp shape
  obtain ⟨passed, rest, rfl, -, isStem, restShape⟩ := List.filter_eq_cons_iff.mp backShape
  have sameStem : segment.stem = stem := by
    simpa using isStem
  refine ⟨sameStem, front ++ passed, rest, by simp, ?_⟩
  rintro other inRest ⟨otherStem, otherSuffix⟩
  refine noLater other ?_ otherSuffix
  rw [← restShape, List.mem_filter]
  exact ⟨inRest, by simp [otherStem, sameStem]⟩

namespace AliasTable

/-- There is a bucket with the stem and the suffix. -/
def HasBucket
    (table : AliasTable)
    (stem suffix : Text) :
    Prop :=
  ∃ family ∈ table.families, family.stem = stem ∧ ∃ bucket ∈ family.buckets, bucket.suffix = suffix

/-- The table groups the segments by stem and suffix in the order of their appearance. -/
structure Groups
    (table : AliasTable)
    (segments : List Segment) :
    Prop where
  stems_distinct : (table.families.map Family.stem).Nodup
  stems : table.families.map Family.stem = (segments.map Segment.stem).eraseDups
  suffixes_distinct : ∀ family ∈ table.families, (family.buckets.map Bucket.suffix).Nodup
  suffixes :
    ∀ family ∈ table.families,
      family.buckets.map Bucket.suffix =
        ((segments.filter fun segment => segment.stem = family.stem).map
          Segment.suffix).eraseDups
  hasBucket_iff :
    ∀ stem suffix,
      table.HasBucket stem suffix ↔
        ∃ segment ∈ segments, segment.stem = stem ∧ segment.suffix = suffix
  last :
    ∀ family ∈ table.families, ∀ bucket ∈ family.buckets,
      Segment.IsLast segments ⟨family.stem, bucket.suffix, bucket.members⟩

/-- With suffixes in the order of their appearance there is a bucket for every segment. -/
theorem hasBucket_iff_of_suffixes
    {table : AliasTable}
    {segments : List Segment}
    (stems : table.families.map Family.stem = (segments.map Segment.stem).eraseDups)
    (suffixes :
      ∀ family ∈ table.families,
        family.buckets.map Bucket.suffix =
          ((segments.filter fun segment => segment.stem = family.stem).map
            Segment.suffix).eraseDups)
    (stem suffix : Text) :
    table.HasBucket stem suffix ↔
      ∃ segment ∈ segments, segment.stem = stem ∧ segment.suffix = suffix := by
  have isSuffix {family : Family} (isFamily : family ∈ table.families) :
      (∃ bucket ∈ family.buckets, bucket.suffix = suffix) ↔
        ∃ segment ∈ segments, segment.stem = family.stem ∧ segment.suffix = suffix := by
    rw [← List.mem_map, suffixes family isFamily, List.mem_eraseDups]
    simp [and_assoc]
  constructor
  · rintro ⟨family, isFamily, rfl, isBucket⟩
    exact (isSuffix isFamily).mp isBucket
  · rintro ⟨segment, isSegment, rfl, sameSuffix⟩
    have isStem : segment.stem ∈ table.families.map Family.stem := by
      rw [stems, List.mem_eraseDups]
      exact List.mem_map_of_mem isSegment
    obtain ⟨family, isFamily, sameStem⟩ := List.mem_map.mp isStem
    refine ⟨family, isFamily, sameStem, (isSuffix isFamily).mpr ?_⟩
    exact ⟨segment, isSegment, sameStem.symm, sameSuffix⟩

/-- The table of class names groups their segments. -/
theorem groups_build
    (names : List Text) :
    (build names).Groups (Segment.ofNames names) := by
  have holds := holds_build names
  have suffixes :
      ∀ family ∈ (build names).families,
        family.buckets.map Bucket.suffix =
          (((Segment.ofNames names).filter fun segment => segment.stem = family.stem).map
            Segment.suffix).eraseDups := by
    intro family isFamily
    rw [holds.buckets family isFamily, suffixes_bucketsOf]
  refine
    { stems_distinct := holds.distinct
      stems := stems_build names
      suffixes_distinct := ?_
      suffixes := suffixes
      hasBucket_iff := hasBucket_iff_of_suffixes (stems_build names) suffixes
      last := ?_ }
  · intro family isFamily
    rw [suffixes family isFamily]
    exact nodup_eraseDups _
  · intro family isFamily bucket isBucket
    rw [holds.buckets family isFamily] at isBucket
    obtain ⟨earlier, segment, later, shape, rfl, noLater⟩ :=
      exists_last_of_mem_bucketsOf isBucket
    obtain ⟨sameStem, isLast⟩ := Segment.IsLast.of_filter shape noLater
    rw [← sameStem]
    exact isLast

end AliasTable

end StyledMarkup
