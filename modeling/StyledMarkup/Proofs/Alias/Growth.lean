import StyledMarkup.Proofs.Alias.Lookup
import StyledMarkup.Proofs.Alias.Members

namespace StyledMarkup

open List

/-!
# Aliases stay when class names are added

New names behind others extend the last bucket, or they open buckets and
families behind those that are there.  No old member gets another slot, so a
name keeps its alias unless it is among the new members itself.
-/

/--
A list that has grown: its old items stay in their places, each one related to
what it was, and fresh items come behind them.
-/
inductive Grown
    {Item : Type}
    (stays : Item → Item → Prop)
    (isFresh : Item → Prop) :
    List Item → List Item → Prop
  | added
      {items : List Item}
      (areFresh : ∀ item ∈ items, isFresh item) :
      Grown stays isFresh [] items
  | kept
      {old new : Item}
      {olds news : List Item}
      (stay : stays old new)
      (rest : Grown stays isFresh olds news) :
      Grown stays isFresh (old :: olds) (new :: news)

theorem Grown.refl
    {Item : Type}
    {stays : Item → Item → Prop}
    {isFresh : Item → Prop}
    (stays_refl : ∀ item, stays item item)
    (items : List Item) :
    Grown stays isFresh items items := by
  induction items with
  | nil =>
      exact .added (by simp)
  | cons first rest inductionHypothesis =>
      exact .kept (stays_refl first) inductionHypothesis

section

variable {Item : Type} {stays : Item → Item → Prop} {isFresh : Item → Prop} {key : Item → Text}

/-- Items go on being what they stayed, if this is so for the one with the key. -/
theorem grown_putUnder
    {wanted : Text}
    {added : Item}
    {change : Item → Item}
    (key_of_stays : ∀ old new, stays old new → key new = key old)
    (addedFresh : isFresh added)
    (fresh_change : ∀ item, isFresh item → isFresh (change item))
    {old new : List Item}
    (grown : Grown stays isFresh old new)
    (stays_change :
      ∀ item ∈ old, key item = wanted → ∀ now, stays item now → stays item (change now)) :
    Grown stays isFresh old (putUnder key wanted added change new) := by
  induction grown with
  | added areFresh =>
      exact .added (forall_mem_putUnder addedFresh fresh_change areFresh)
  | @kept item now olds news stay rest inductionHypothesis =>
      rw [List.forall_mem_cons] at stays_change
      -- An old item has the key exactly if what it has become has it.
      rw [putUnder]
      split
      · rename_i same
        exact .kept (stays_change.1 ((key_of_stays item now stay).symm.trans same) now stay) rest
      · exact .kept stay (inductionHypothesis stays_change.2)

/-- What one change makes of a list has grown, compared with another change under the same key. -/
theorem grown_putUnder_putUnder
    {wanted : Text}
    {added otherAdded : Item}
    {change otherChange : Item → Item}
    (stays_refl : ∀ item, stays item item)
    (stays_added : stays added otherAdded)
    (stays_change : ∀ item, stays (change item) (otherChange item))
    (items : List Item) :
    Grown stays isFresh
      (putUnder key wanted added change items)
      (putUnder key wanted otherAdded otherChange items) := by
  induction items with
  | nil =>
      exact .kept stays_added (.refl stays_refl [])
  | cons first rest inductionHypothesis =>
      by_cases same : key first = wanted
      · rw [putUnder, if_pos same, putUnder, if_pos same]
        exact .kept (stays_change first) (.refl stays_refl rest)
      · rw [putUnder, if_neg same, putUnder, if_neg same]
        exact .kept (stays_refl first) inductionHypothesis

end

section

variable (name : Text)

/-- The bucket has the suffix that it had, and no member behind the old ones is the name. -/
structure Bucket.Stays (old new : Bucket) : Prop where
  suffix : new.suffix = old.suffix
  members : ∃ taken, new.members = old.members ++ taken ∧ name ∉ taken

/-- The name is not in the bucket. -/
def Bucket.IsFresh (bucket : Bucket) : Prop := name ∉ bucket.members

/-- The family has the stem that it had, and buckets that have grown without the name. -/
structure Family.Stays (old new : Family) : Prop where
  stem : new.stem = old.stem
  buckets : Grown (Bucket.Stays name) (Bucket.IsFresh name) old.buckets new.buckets

/-- The name is in no bucket of the family. -/
def Family.IsFresh (family : Family) : Prop := ∀ bucket ∈ family.buckets, bucket.IsFresh name

/-- The families have grown without the name. -/
abbrev FamiliesGrown : List Family → List Family → Prop :=
  Grown (Family.Stays name) (Family.IsFresh name)

end

section

variable {name : Text}

theorem Bucket.Stays.refl
    (bucket : Bucket) :
    bucket.Stays name bucket :=
  ⟨rfl, [], by simp, by simp⟩

theorem Family.Stays.refl
    (family : Family) :
    family.Stays name family :=
  ⟨rfl, Grown.refl Bucket.Stays.refl family.buckets⟩

namespace AliasTable

/-! ## What putting a segment does -/

theorem isFresh_putBucket
    {segment : Segment}
    (notMember : name ∉ segment.members)
    {buckets : List Bucket}
    (areFresh : ∀ bucket ∈ buckets, bucket.IsFresh name) :
    ∀ bucket ∈ putBucket segment buckets, bucket.IsFresh name := by
  rw [putBucket_eq_putUnder]
  apply forall_mem_putUnder
  case ofNew =>
    exact notMember
  case ofChange =>
    exact fun _ _ => notMember
  case ofItems =>
    exact areFresh

theorem grown_putBucket
    {segment : Segment}
    (notMember : name ∉ segment.members)
    {old new : List Bucket}
    (grown : Grown (Bucket.Stays name) (Bucket.IsFresh name) old new)
    (opensNew : ∀ bucket ∈ old, bucket.suffix ≠ segment.suffix) :
    Grown (Bucket.Stays name) (Bucket.IsFresh name) old (putBucket segment new) := by
  rw [putBucket_eq_putUnder]
  apply grown_putUnder
  case key_of_stays =>
    exact fun _ _ => Bucket.Stays.suffix
  case addedFresh =>
    exact notMember
  case fresh_change =>
    exact fun _ _ => notMember
  case grown =>
    exact grown
  case stays_change =>
    intro bucket isOld sameSuffix
    exact absurd sameSuffix (opensNew bucket isOld)

/-- A segment with a stem and suffix that no old bucket has leaves the old families. -/
theorem grown_putFamily
    {segment : Segment}
    (notMember : name ∉ segment.members)
    {old new : List Family}
    (grown : FamiliesGrown name old new)
    (opensNew :
      ∀ family ∈ old, family.stem = segment.stem →
        ∀ bucket ∈ family.buckets, bucket.suffix ≠ segment.suffix) :
    FamiliesGrown name old (putFamily segment new) := by
  rw [putFamily_eq_putUnder]
  apply grown_putUnder
  case key_of_stays =>
    exact fun _ _ => Family.Stays.stem
  case addedFresh =>
    exact isFresh_putBucket notMember (by simp)
  case fresh_change =>
    exact fun _ => isFresh_putBucket notMember
  case grown =>
    exact grown
  case stays_change =>
    intro family isOld sameStem now stay
    exact ⟨stay.stem, grown_putBucket notMember stay.buckets (opensNew family isOld sameStem)⟩

/-- Further members of a segment come behind those that its bucket has without them. -/
theorem grown_putBucket_extended
    {taken : List Text}
    (notTaken : name ∉ taken)
    (segment : Segment)
    (buckets : List Bucket) :
    Grown (Bucket.Stays name) (Bucket.IsFresh name)
      (putBucket segment buckets) (putBucket (segment.extended taken) buckets) := by
  have stays (suffix : Text) :
      Bucket.Stays name ⟨suffix, segment.members⟩ ⟨suffix, (segment.extended taken).members⟩ :=
    ⟨rfl, taken, rfl, notTaken⟩
  rw [putBucket_eq_putUnder, putBucket_eq_putUnder, Segment.suffix_extended]
  exact grown_putUnder_putUnder Bucket.Stays.refl (stays segment.suffix)
    (fun bucket => stays bucket.suffix) buckets

theorem grown_putFamily_extended
    {taken : List Text}
    (notTaken : name ∉ taken)
    (segment : Segment)
    (families : List Family) :
    FamiliesGrown name
      (putFamily segment families) (putFamily (segment.extended taken) families) := by
  have stays (stem : Text) (buckets : List Bucket) :
      Family.Stays name ⟨stem, putBucket segment buckets⟩
        ⟨stem, putBucket (segment.extended taken) buckets⟩ :=
    ⟨rfl, grown_putBucket_extended notTaken segment buckets⟩
  rw [putFamily_eq_putUnder, putFamily_eq_putUnder, Segment.stem_extended]
  exact grown_putUnder_putUnder Family.Stays.refl (stays segment.stem [])
    (fun family => stays family.stem family.buckets) families

/-! ## Runs of segments -/

theorem grown_foldl_modifyLast
    {taken : List Text}
    (notTaken : name ∉ taken)
    (segments : List Segment) :
    FamiliesGrown name
      (segments.foldl (fun families segment => putFamily segment families) [])
      ((segments.modifyLast (·.extended taken)).foldl
        (fun families segment => putFamily segment families) []) := by
  rcases List.eq_nil_or_concat segments with rfl | ⟨earlier, last, rfl⟩
  · exact .refl Family.Stays.refl []
  · rw [List.concat_eq_append, List.modifyLast_concat, List.foldl_concat, List.foldl_concat]
    exact grown_putFamily_extended notTaken last _

/-- Segments that open no old bucket and do not have the name leave the old families. -/
theorem grown_foldl_putFamily
    {segments : List Segment}
    (notMember : ∀ segment ∈ segments, name ∉ segment.members)
    {old new : List Family}
    (grown : FamiliesGrown name old new)
    (opensNew :
      ∀ segment ∈ segments, ∀ family ∈ old, family.stem = segment.stem →
        ∀ bucket ∈ family.buckets, bucket.suffix ≠ segment.suffix) :
    FamiliesGrown name old
      (segments.foldl (fun families segment => putFamily segment families) new) := by
  induction segments generalizing new with
  | nil =>
      exact grown
  | cons segment rest inductionHypothesis =>
      rw [List.forall_mem_cons] at notMember opensNew
      exact inductionHypothesis notMember.2
        (grown_putFamily notMember.1 grown opensNew.1) opensNew.2

/-! ## What the name is called -/

theorem bucketAliases_of_grown
    {old new : List Bucket}
    (grown : Grown (Bucket.Stays name) (Bucket.IsFresh name) old new)
    (stem : Text)
    (start : Nat) :
    bucketAliases stem name start new = bucketAliases stem name start old := by
  induction grown generalizing start with
  | added areFresh =>
      exact bucketAliases_eq_nil_iff.mpr areFresh
  | kept stay rest inductionHypothesis =>
      obtain ⟨taken, members, notTaken⟩ := stay.members
      rw [bucketAliases, bucketAliases, inductionHypothesis, members,
        idxOf?_append_of_not_mem notTaken]

theorem memberAliases_of_grown
    {old new : AliasTable}
    (grown : FamiliesGrown name old.families new.families) :
    new.memberAliases name = old.memberAliases name := by
  rcases old with ⟨old⟩
  rcases new with ⟨new⟩
  simp only [memberAliases] at grown ⊢
  induction grown with
  | added areFresh =>
      rw [List.flatMap_nil, List.flatMap_eq_nil_iff]
      intro family isFamily
      exact bucketAliases_eq_nil_iff.mpr (areFresh family isFamily)
  | kept stay rest inductionHypothesis =>
      rw [List.flatMap_cons, List.flatMap_cons, inductionHypothesis, stay.stem,
        bucketAliases_of_grown stay.buckets]

theorem aliasFor?_of_grown
    {old new : AliasTable}
    (grown : FamiliesGrown name old.families new.families) :
    new.aliasFor? name = old.aliasFor? name := by
  rw [aliasFor?, aliasFor?, memberAliases_of_grown grown]

end AliasTable

end

namespace AliasTable

/-- No segment of the new names has the stem and suffix of a bucket that is there. -/
theorem opensNew_of_segments
    {names : List Text}
    {segment : Segment}
    (isNew :
      ∀ earlier ∈ Segment.ofNames names,
        ¬ (segment.stem = earlier.stem ∧ segment.suffix = earlier.suffix))
    {family : Family}
    (isFamily : family ∈ (build names).families)
    (sameStem : family.stem = segment.stem)
    {bucket : Bucket}
    (isBucket : bucket ∈ family.buckets) :
    bucket.suffix ≠ segment.suffix := by
  intro sameSuffix
  have hasBucket : (build names).HasBucket segment.stem segment.suffix :=
    ⟨family, isFamily, sameStem, bucket, isBucket, sameSuffix⟩
  obtain ⟨earlier, isEarlier, earlierStem, earlierSuffix⟩ :=
    ((groups_build names).hasBucket_iff _ _).mp hasBucket
  exact isNew earlier isEarlier ⟨earlierStem.symm, earlierSuffix.symm⟩

/--
Class names behind others change no alias, if their delimiters open no bucket
that is there: whatever is not the front of a new name is called as before.
-/
theorem aliasFor?_build_append
    {names added : List Text}
    (areWords : ∀ name ∈ names, name.IsWord)
    (addedWords : ∀ name ∈ added, name.IsWord)
    (opensNew :
      ∀ segment ∈ Segment.ofNames added, ∀ earlier ∈ Segment.ofNames names,
        ¬ (segment.stem = earlier.stem ∧ segment.suffix = earlier.suffix))
    {name : Text}
    (isOther : ∀ other ∈ added, ¬ name <+: other) :
    (build (names ++ added)).aliasFor? name = (build names).aliasFor? name := by
  obtain ⟨taken, segments, members⟩ := Segment.exists_ofNames_append areWords addedWords
  -- All that is new in the segments is the front of a new name.
  have notAdded : name ∉ taken ++ Segment.allMembers (Segment.ofNames added) := by
    intro isMember
    obtain ⟨other, isAdded, isFront⟩ := List.mem_map.mp (members.subset isMember)
    exact isOther other isAdded (isFront ▸ Delimiter.gap_prefix other)
  rw [List.mem_append, not_or] at notAdded
  have notMember : ∀ segment ∈ Segment.ofNames added, name ∉ segment.members := by
    intro segment isSegment isMember
    exact notAdded.2 (List.mem_flatMap.mpr ⟨segment, isSegment, isMember⟩)
  apply aliasFor?_of_grown
  rw [build, build, segments, List.foldl_append]
  apply grown_foldl_putFamily notMember (grown_foldl_modifyLast notAdded.1 _)
  intro segment isSegment family isFamily sameStem bucket isBucket
  exact opensNew_of_segments (opensNew segment isSegment) isFamily sameStem isBucket

/--
Behind the member of an open bucket come another member, an extension of an
older component, the front part of a new one and a name that goes on behind its
delimiter.
-/
theorem aliasFor?_build_append_of_extension :
    let names :=
      [Text.of "Button__Wrapper-abc", Text.of "kBQlAf", Text.of "Card__Box-x1", Text.of "cOne"]
    let added :=
      [Text.of "cTwo", Text.of "Button__Wrapper-def", Text.of "qWeRt",
        Text.of "my_New__Comp-z9", Text.of "Btn__W-sc-1ab", Text.of "zz"]
    ((∀ name ∈ names, name.IsWord) ∧ (∀ name ∈ added, name.IsWord) ∧
      (∀ segment ∈ Segment.ofNames added, ∀ earlier ∈ Segment.ofNames names,
        ¬ (segment.stem = earlier.stem ∧ segment.suffix = earlier.suffix)) ∧
      ∀ other ∈ added, ¬ Text.of "cOne" <+: other) ∧
      (build (names ++ added)).aliasFor? (Text.of "cOne") = some (Text.of "Card__Box") := by
  intro names added
  have areWords : ∀ name ∈ names, name.IsWord := by
    decide
  have addedWords : ∀ name ∈ added, name.IsWord := by
    decide
  have opensNew :
      ∀ segment ∈ Segment.ofNames added, ∀ earlier ∈ Segment.ofNames names,
        ¬ (segment.stem = earlier.stem ∧ segment.suffix = earlier.suffix) := by
    decide +kernel
  have isOther : ∀ other ∈ added, ¬ Text.of "cOne" <+: other := by
    decide
  refine ⟨⟨areWords, addedWords, opensNew, isOther⟩, ?_⟩
  rw [aliasFor?_build_append areWords addedWords opensNew isOther]
  decide +kernel

end AliasTable

end StyledMarkup
