import StyledMarkup.Proofs.Alias.Insertion
import StyledMarkup.Proofs.Text.Splitting
import Mathlib.Data.List.Basic

namespace StyledMarkup

/-!
# What an alias table holds

The table is built by putting one segment after the other into it.  After every
segment, each stem has one family, and its buckets are those of the segments of
this stem, put one after the other.  A name without a hyphen has an alias for
each bucket that it is in, by the first place where it stands among the members.
-/

/-- The bucket that a segment makes if its suffix is new. -/
def Segment.bucket (segment : Segment) : Bucket := ⟨segment.suffix, segment.members⟩

/-! ## The position of a name among members -/

section

variable {members : List Text} {name : Text} {position : Nat}

/-- The position of a name is the first place where it stands. -/
theorem idxOf?_eq_some_iff_first :
    members.idxOf? name = some position ↔
      members[position]? = some name ∧
        ∀ other, members[other]? = some name → position ≤ other := by
  rw [List.idxOf?_eq_some_iff]
  constructor
  · rintro ⟨inRange, isName, notEarlier⟩
    refine ⟨List.getElem?_eq_some_iff.mpr ⟨inRange, isName⟩, ?_⟩
    intro other isOther
    obtain ⟨_, sameName⟩ := List.getElem?_eq_some_iff.mp isOther
    by_contra isEarlier
    exact notEarlier other (by omega) sameName
  · rintro ⟨standing, notEarlier⟩
    obtain ⟨inRange, isName⟩ := List.getElem?_eq_some_iff.mp standing
    refine ⟨inRange, isName, ?_⟩
    intro earlier isEarlier sameName
    have notBefore := notEarlier earlier (List.getElem?_eq_some_iff.mpr ⟨_, sameName⟩)
    omega

theorem mem_of_idxOf?_eq_some
    (isMember : members.idxOf? name = some position) :
    name ∈ members :=
  List.mem_of_getElem? (idxOf?_eq_some_iff_first.mp isMember).1

/-- Two names with one position are the same. -/
theorem eq_of_idxOf?_eq
    {other : Text}
    (isMember : members.idxOf? name = some position)
    (isOther : members.idxOf? other = some position) :
    name = other := by
  obtain ⟨standing, -⟩ := idxOf?_eq_some_iff_first.mp isMember
  obtain ⟨otherStanding, -⟩ := idxOf?_eq_some_iff_first.mp isOther
  exact Option.some.inj (standing.symm.trans otherStanding)

/-- Among members without repetition every place of a name is its position. -/
theorem idxOf?_eq_some_of_nodup
    (distinct : members.Nodup)
    (standing : members[position]? = some name) :
    members.idxOf? name = some position := by
  obtain ⟨inRange, -⟩ := List.getElem?_eq_some_iff.mp standing
  refine idxOf?_eq_some_iff_first.mpr ⟨standing, ?_⟩
  intro other isOther
  have samePlace := (List.getElem?_inj inRange distinct).mp (standing.trans isOther.symm)
  exact Nat.le_of_eq samePlace

/-- Other names behind the members leave the position of a name as it is. -/
theorem idxOf?_append_of_not_mem
    {taken : List Text}
    (notTaken : name ∉ taken)
    (members : List Text) :
    (members ++ taken).idxOf? name = members.idxOf? name := by
  induction members with
  | nil =>
      simpa using notTaken
  | cons first rest inductionHypothesis =>
      rw [List.cons_append, List.idxOf?_cons, List.idxOf?_cons, inductionHypothesis]

end

namespace AliasTable

/-- The buckets that segments of one stem make. -/
def bucketsOf (segments : List Segment) : List Bucket :=
  segments.foldl (fun buckets segment => putBucket segment buckets) []

/-- A new suffix gets a bucket behind the others. -/
theorem putBucket_of_new
    {segment : Segment}
    {buckets : List Bucket}
    (isNew : ∀ bucket ∈ buckets, bucket.suffix ≠ segment.suffix) :
    putBucket segment buckets = buckets ++ [segment.bucket] := by
  rw [putBucket_eq_putUnder]
  exact putUnder_of_new isNew

/-- New suffixes get buckets behind the others, in order. -/
theorem foldl_putBucket_of_new
    {segments : List Segment}
    {buckets : List Bucket}
    (distinct : (buckets.map Bucket.suffix ++ segments.map Segment.suffix).Nodup) :
    segments.foldl (fun buckets segment => putBucket segment buckets) buckets =
      buckets ++ segments.map Segment.bucket := by
  induction segments generalizing buckets with
  | nil =>
      simp
  | cons segment rest inductionHypothesis =>
      have isNew : ∀ bucket ∈ buckets, bucket.suffix ≠ segment.suffix := by
        intro bucket member
        exact (List.nodup_append.mp distinct).2.2 bucket.suffix
          (List.mem_map_of_mem member) segment.suffix (by simp)
      have distinctAfter :
          ((buckets ++ [segment.bucket]).map Bucket.suffix ++
            rest.map Segment.suffix).Nodup := by
        simpa [Segment.bucket] using distinct
      rw [List.foldl_cons, putBucket_of_new isNew, inductionHypothesis distinctAfter]
      simp

/-- Segments of one stem with distinct suffixes make one bucket each. -/
theorem bucketsOf_of_distinct
    {segments : List Segment}
    (distinct : (segments.map Segment.suffix).Nodup) :
    bucketsOf segments = segments.map Segment.bucket := by
  unfold bucketsOf
  rw [foldl_putBucket_of_new (by simpa using distinct)]
  simp

/-- Putting a segment adds its stem behind the others, unless it is there. -/
theorem stems_putFamily
    (segment : Segment)
    (families : List Family) :
    (putFamily segment families).map Family.stem =
      if segment.stem ∈ families.map Family.stem then families.map Family.stem
      else families.map Family.stem ++ [segment.stem] := by
  rw [putFamily_eq_putUnder]
  apply keys_putUnder
  · rfl
  · intro family
    rfl

/--
A family in the table was there with another stem, or it is the family of the
stem of the segment and has its bucket.
-/
theorem mem_putFamily
    {segment : Segment}
    {families : List Family}
    (distinct : (families.map Family.stem).Nodup)
    {family : Family}
    (member : family ∈ putFamily segment families) :
    (family ∈ families ∧ family.stem ≠ segment.stem) ∨
      (family.stem = segment.stem ∧
        ((∃ old ∈ families,
            old.stem = segment.stem ∧ family.buckets = putBucket segment old.buckets) ∨
          ((∀ old ∈ families, old.stem ≠ segment.stem) ∧
            family.buckets = putBucket segment []))) := by
  rw [putFamily_eq_putUnder] at member
  rcases mem_putUnder distinct member with
      isOld | ⟨old, isOld, oldStem, rfl⟩ | ⟨isNew, rfl⟩
  · exact Or.inl isOld
  · exact Or.inr ⟨oldStem, Or.inl ⟨old, isOld, oldStem, rfl⟩⟩
  · exact Or.inr ⟨rfl, Or.inr ⟨isNew, rfl⟩⟩

/-- The families hold the segments: one family for each stem, with the buckets of the stem. -/
structure Holds (segments : List Segment) (families : List Family) : Prop where
  distinct : (families.map Family.stem).Nodup
  opened : ∀ segment ∈ segments, segment.stem ∈ families.map Family.stem
  buckets :
    ∀ family ∈ families,
      family.buckets = bucketsOf (segments.filter fun segment => segment.stem = family.stem)

/-- Without segments there are no families. -/
theorem holds_nil :
    Holds [] [] :=
  ⟨List.nodup_nil, by simp, by simp⟩

/-- Putting one more segment into the families that hold the segments so far. -/
theorem Holds.putFamily
    {segments : List Segment}
    {families : List Family}
    (holds : Holds segments families)
    (segment : Segment) :
    Holds (segments ++ [segment]) (putFamily segment families) := by
  constructor
  · rw [stems_putFamily]
    split
    · exact holds.distinct
    · rename_i isNew
      refine List.nodup_append.mpr ⟨holds.distinct, by simp, ?_⟩
      intro stem isOld other isAdded same
      rw [List.mem_singleton.mp isAdded] at same
      exact isNew (same ▸ isOld)
  · intro other member
    rw [stems_putFamily]
    rcases List.mem_append.mp member with isEarlier | isLast
    · have isOpen := holds.opened other isEarlier
      split
      · exact isOpen
      · exact List.mem_append_left _ isOpen
    · rw [List.mem_singleton.mp isLast]
      split
      · assumption
      · simp
  · intro family member
    rcases mem_putFamily holds.distinct member with
        ⟨isOld, other⟩ | ⟨sameStem, ⟨old, isOld, oldStem, shape⟩ | ⟨isNew, shape⟩⟩
    · rw [holds.buckets family isOld]
      simp [Ne.symm other]
    · rw [shape, holds.buckets old isOld, sameStem, oldStem]
      simp [bucketsOf]
    · -- A stem without a family has no segments yet.
      have noSegments :
          (segments.filter fun earlier => earlier.stem = segment.stem) = [] := by
        rw [List.filter_eq_nil_iff]
        intro earlier isEarlier
        obtain ⟨same, isOpen, sameAsEarlier⟩ :=
          List.mem_map.mp (holds.opened earlier isEarlier)
        have different := isNew same isOpen
        rw [sameAsEarlier] at different
        simpa using different
      rw [shape, sameStem]
      simp [noSegments, bucketsOf]

/-- Putting further segments into the families that hold the segments so far. -/
theorem Holds.foldl_putFamily
    {segments : List Segment}
    {families : List Family}
    (holds : Holds segments families)
    (more : List Segment) :
    Holds (segments ++ more)
      (more.foldl (fun families segment => AliasTable.putFamily segment families) families) := by
  induction more generalizing segments families with
  | nil =>
      simpa using holds
  | cons segment rest inductionHypothesis =>
      simpa using inductionHypothesis (holds.putFamily segment)

/-- The table of class names holds their segments. -/
theorem holds_build
    (names : List Text) :
    Holds (Segment.ofNames names) (build names).families := by
  simpa [build] using holds_nil.foldl_putFamily (Segment.ofNames names)

/-- The aliases of a name come from the numbered buckets that it is in. -/
theorem bucketAliases_eq_filterMap
    (stem name : Text)
    (start : Nat)
    (buckets : List Bucket) :
    bucketAliases stem name start buckets =
      (buckets.zipIdx start).filterMap fun (bucket, index) =>
        (bucket.members.idxOf? name).map fun member => aliasText stem index member := by
  induction buckets generalizing start with
  | nil =>
      rfl
  | cons first rest inductionHypothesis =>
      rw [bucketAliases, List.zipIdx_cons, List.filterMap_cons, inductionHypothesis]
      cases place : first.members.idxOf? name with
      | none =>
          simp [place]
      | some member =>
          simp [place]

/-- A name has an alias for every bucket that it is in. -/
theorem mem_memberAliases
    {name found : Text}
    {table : AliasTable} :
    found ∈ table.memberAliases name ↔
      ∃ family ∈ table.families, ∃ index bucket member,
        family.buckets[index]? = some bucket ∧
          bucket.members.idxOf? name = some member ∧
            found = aliasText family.stem index member := by
  simp only [memberAliases, List.mem_flatMap, bucketAliases_eq_filterMap, List.mem_filterMap,
    Prod.exists, List.mk_mem_zipIdx_iff_getElem?, Option.map_eq_some_iff]
  constructor
  · rintro ⟨family, isFamily, bucket, index, isBucket, member, isMember, rfl⟩
    exact ⟨family, isFamily, index, bucket, member, isBucket, isMember, rfl⟩
  · rintro ⟨family, isFamily, index, bucket, member, isBucket, isMember, rfl⟩
    exact ⟨family, isFamily, bucket, index, isBucket, member, isMember, rfl⟩

/-- A name without a hyphen is called by its last place in the table. -/
theorem aliasFor?_of_hyphen_not_mem
    {name : Text}
    (simple : '-' ∉ name)
    (table : AliasTable) :
    table.aliasFor? name = (table.memberAliases name).getLast? := by
  rw [aliasFor?, Text.cutFirst?_of_not_mem simple]

/-- A name without a hyphen that is in no bucket has no alias. -/
theorem aliasFor?_eq_none_of_absent
    {name : Text}
    (simple : '-' ∉ name)
    {table : AliasTable}
    (absent : ∀ family ∈ table.families, ∀ bucket ∈ family.buckets, name ∉ bucket.members) :
    table.aliasFor? name = none := by
  rw [aliasFor?_of_hyphen_not_mem simple, List.getLast?_eq_none_iff, List.eq_nil_iff_forall_not_mem]
  intro found isAlias
  obtain ⟨family, isFamily, index, bucket, member, isBucket, isMember, -⟩ :=
    mem_memberAliases.mp isAlias
  exact absent family isFamily bucket (List.mem_of_getElem? isBucket)
    (mem_of_idxOf?_eq_some isMember)

/-- A name without a hyphen that is in one bucket only is called by its place there. -/
theorem aliasFor?_eq_some_of_unique
    {name : Text}
    (simple : '-' ∉ name)
    {table : AliasTable}
    {family : Family}
    (isFamily : family ∈ table.families)
    {index : Nat}
    {bucket : Bucket}
    (isBucket : family.buckets[index]? = some bucket)
    {member : Nat}
    (isMember : bucket.members.idxOf? name = some member)
    (unique :
      ∀ other ∈ table.families, ∀ otherIndex otherBucket,
        other.buckets[otherIndex]? = some otherBucket → name ∈ otherBucket.members →
          other.stem = family.stem ∧ otherIndex = index ∧ otherBucket = bucket) :
    table.aliasFor? name = some (aliasText family.stem index member) := by
  rw [aliasFor?_of_hyphen_not_mem simple]
  have isAlias : aliasText family.stem index member ∈ table.memberAliases name :=
    mem_memberAliases.mpr ⟨family, isFamily, index, bucket, member, isBucket, isMember, rfl⟩
  cases last : (table.memberAliases name).getLast? with
  | none =>
      rw [List.getLast?_eq_none_iff] at last
      simp [last] at isAlias
  | some found =>
      obtain ⟨other, isOther, otherIndex, otherBucket, otherMember, isOtherBucket,
          isOtherMember, rfl⟩ :=
        mem_memberAliases.mp (List.mem_of_getLast? last)
      have isThere := mem_of_idxOf?_eq_some isOtherMember
      obtain ⟨sameStem, rfl, rfl⟩ :=
        unique other isOther otherIndex otherBucket isOtherBucket isThere
      rw [isMember, Option.some.injEq] at isOtherMember
      rw [sameStem, isOtherMember]

end AliasTable

end StyledMarkup
