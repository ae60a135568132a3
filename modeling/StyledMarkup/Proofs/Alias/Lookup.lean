import StyledMarkup.Proofs.Alias.Grouping

namespace StyledMarkup

open List

/-!
# The slot that decides an alias

A slot of a table is given by the numbers of a family, a bucket of it and a
member of the bucket.  A name without a hyphen can stand in several slots.  The
last bucket with the name decides its alias, and in this bucket the first slot
of the name.
-/

/-- The number of a family, of a bucket in it and of a member in the bucket. -/
structure Slot where
  family : Nat
  bucket : Nat
  member : Nat
deriving DecidableEq, Repr

namespace AliasTable

/-- The name in a slot. -/
def nameAt? (table : AliasTable) (slot : Slot) : Option Text :=
  (table.families[slot.family]?).bind fun family =>
    (family.buckets[slot.bucket]?).bind fun bucket => bucket.members[slot.member]?

/-- The alias that the scheme has for a slot. -/
def aliasAt? (table : AliasTable) (slot : Slot) : Option Text :=
  (table.families[slot.family]?).map fun family =>
    aliasText family.stem slot.bucket slot.member

/-- The slot is the first one of the name in the last bucket with the name. -/
structure Decides
    (table : AliasTable)
    (name : Text)
    (slot : Slot) :
    Prop where
  standing : table.nameAt? slot = some name
  last :
    ∀ other, table.nameAt? other = some name →
      other.family < slot.family ∨
        (other.family = slot.family ∧ other.bucket ≤ slot.bucket)
  first :
    ∀ other, table.nameAt? other = some name →
      other.family = slot.family → other.bucket = slot.bucket → slot.member ≤ other.member

theorem nameAt?_eq_some_iff
    {table : AliasTable}
    {slot : Slot}
    {name : Text} :
    table.nameAt? slot = some name ↔
      ∃ family bucket,
        table.families[slot.family]? = some family ∧
          family.buckets[slot.bucket]? = some bucket ∧
            bucket.members[slot.member]? = some name := by
  simp only [nameAt?, Option.bind_eq_some_iff]
  constructor
  · rintro ⟨family, isFamily, bucket, isBucket, isMember⟩
    exact ⟨family, bucket, isFamily, isBucket, isMember⟩
  · rintro ⟨family, bucket, isFamily, isBucket, isMember⟩
    exact ⟨family, isFamily, bucket, isBucket, isMember⟩

/-- The members of the buckets are the names in the slots. -/
theorem exists_nameAt?_iff
    {table : AliasTable}
    {name : Text} :
    (∃ slot, table.nameAt? slot = some name) ↔
      ∃ family ∈ table.families, ∃ bucket ∈ family.buckets, name ∈ bucket.members := by
  simp only [nameAt?_eq_some_iff, List.mem_iff_getElem?]
  constructor
  · rintro ⟨slot, family, bucket, isFamily, isBucket, isMember⟩
    exact ⟨family, ⟨_, isFamily⟩, bucket, ⟨_, isBucket⟩, _, isMember⟩
  · rintro ⟨family, ⟨familyIndex, isFamily⟩, bucket, ⟨bucketIndex, isBucket⟩, member, isMember⟩
    exact ⟨⟨familyIndex, bucketIndex, member⟩, family, bucket, isFamily, isBucket, isMember⟩

theorem Decides.unique
    {table : AliasTable}
    {name : Text}
    {slot other : Slot}
    (decides : table.Decides name slot)
    (otherDecides : table.Decides name other) :
    slot = other := by
  have notBehind := decides.last other otherDecides.standing
  have otherNotBehind := otherDecides.last slot decides.standing
  have sameFamily : slot.family = other.family := by
    omega
  have sameBucket : slot.bucket = other.bucket := by
    omega
  have notAfter := decides.first other otherDecides.standing sameFamily.symm sameBucket.symm
  have otherNotAfter := otherDecides.first slot decides.standing sameFamily sameBucket
  have sameMember : slot.member = other.member := by
    omega
  rcases slot with ⟨family, bucket, member⟩
  rcases other with ⟨otherFamily, otherBucket, otherMember⟩
  simp_all

/-! ## The last answer -/

/-- The last answer of a list of items comes from the last item that has one. -/
theorem exists_last_of_getLast?_flatMap
    {Item : Type}
    {answers : Item → List Text}
    {items : List Item}
    {found : Text}
    (isLast : (items.flatMap answers).getLast? = some found) :
    ∃ (index : Nat) (item : Item),
      items[index]? = some item ∧ (answers item).getLast? = some found ∧
        ∀ later other, items[later]? = some other → answers other ≠ [] → later ≤ index := by
  -- Seen from the end it is the first answer, so the items passed before have none.
  rw [List.getLast?_flatMap, List.findSome?_eq_some_iff] at isLast
  obtain ⟨after, item, before, reversed, isFound, noLater⟩ := isLast
  have shape : items = before.reverse ++ item :: after.reverse := by
    simpa using congrArg List.reverse reversed
  refine ⟨before.reverse.length, item, by simp [shape], isFound, ?_⟩
  intro later other isOther hasAnswer
  by_contra behind
  have inAfter : other ∈ after := by
    rw [shape, List.getElem?_append_right (by omega),
      List.getElem?_cons, if_neg (by omega)] at isOther
    exact List.mem_reverse.mp (List.mem_of_getElem? isOther)
  exact hasAnswer (List.getLast?_eq_none_iff.mp (noLater other inAfter))

theorem bucketAliases_eq_nil_iff
    {stem name : Text}
    {start : Nat}
    {buckets : List Bucket} :
    bucketAliases stem name start buckets = [] ↔
      ∀ bucket ∈ buckets, name ∉ bucket.members := by
  induction buckets generalizing start with
  | nil =>
      simp [bucketAliases]
  | cons first rest inductionHypothesis =>
      rw [bucketAliases, List.forall_mem_cons, ← @inductionHypothesis (start + 1)]
      cases isThere : first.members.idxOf? name with
      | none =>
          simp [List.idxOf?_eq_none_iff.mp isThere]
      | some member =>
          simp [mem_of_idxOf?_eq_some isThere]

/-- The last alias in a family comes from the last of its buckets with the name. -/
theorem exists_last_bucket
    {stem name found : Text}
    {buckets : List Bucket}
    (isLast : (bucketAliases stem name 0 buckets).getLast? = some found) :
    ∃ (index : Nat) (bucket : Bucket) (member : Nat),
      buckets[index]? = some bucket ∧ bucket.members.idxOf? name = some member ∧
        aliasText stem index member = found ∧
          ∀ later other, buckets[later]? = some other → name ∈ other.members → later ≤ index := by
  rw [bucketAliases_eq_filterMap, List.filterMap_eq_flatMap_toList] at isLast
  obtain ⟨index, ⟨_, _⟩, isBucket, isFound, noLater⟩ := exists_last_of_getLast?_flatMap isLast
  simp only [List.getElem?_zipIdx, Nat.zero_add, Option.map_eq_some_iff, Prod.mk.injEq] at isBucket
  obtain ⟨bucket, isBucket, rfl, rfl⟩ := isBucket
  obtain ⟨member, isMember, isAlias⟩ :=
    Option.map_eq_some_iff.mp (Option.mem_toList.mp (List.mem_of_getLast? isFound))
  refine ⟨index, bucket, member, isBucket, isMember, isAlias, ?_⟩
  intro later other isOther isThere
  refine noLater later (other, later) (by simp [isOther]) ?_
  rw [← List.isSome_idxOf?, Option.isSome_iff_exists] at isThere
  obtain ⟨otherMember, isOtherMember⟩ := isThere
  simp [isOtherMember]

/-- The last alias of a name is the alias of the slot that decides. -/
theorem exists_decides_of_getLast?
    {table : AliasTable}
    {name found : Text}
    (isLast : (table.memberAliases name).getLast? = some found) :
    ∃ slot, table.Decides name slot ∧ table.aliasAt? slot = some found := by
  obtain ⟨familyIndex, family, isFamily, isLastHere, noLaterFamily⟩ :=
    exists_last_of_getLast?_flatMap isLast
  obtain ⟨bucketIndex, bucket, member, isBucket, isMember, isAlias, noLaterBucket⟩ :=
    exists_last_bucket isLastHere
  obtain ⟨standing, notEarlier⟩ := idxOf?_eq_some_iff_first.mp isMember
  refine ⟨⟨familyIndex, bucketIndex, member⟩, ⟨?_, ?_, ?_⟩, ?_⟩
  · exact nameAt?_eq_some_iff.mpr ⟨family, bucket, isFamily, isBucket, standing⟩
  · intro other isOther
    obtain ⟨otherFamily, otherBucket, isOtherFamily, isOtherBucket, isThere⟩ :=
      nameAt?_eq_some_iff.mp isOther
    have inBucket := List.mem_of_getElem? isThere
    -- A family with a slot of the name has an alias of it, so it is not behind the last one.
    have hasAlias : bucketAliases otherFamily.stem name 0 otherFamily.buckets ≠ [] := by
      intro noAlias
      exact bucketAliases_eq_nil_iff.mp noAlias otherBucket
        (List.mem_of_getElem? isOtherBucket) inBucket
    rcases Nat.lt_or_eq_of_le (noLaterFamily _ _ isOtherFamily hasAlias) with before | same
    · exact Or.inl before
    · rw [same, isFamily, Option.some.injEq] at isOtherFamily
      subst otherFamily
      exact Or.inr ⟨same, noLaterBucket _ _ isOtherBucket inBucket⟩
  · rintro other isOther rfl rfl
    obtain ⟨otherFamily, otherBucket, isOtherFamily, isOtherBucket, isThere⟩ :=
      nameAt?_eq_some_iff.mp isOther
    rw [isFamily, Option.some.injEq] at isOtherFamily
    subst otherFamily
    rw [isBucket, Option.some.injEq] at isOtherBucket
    subst otherBucket
    exact notEarlier other.member isThere
  · simp [aliasAt?, isFamily, isAlias]

/-- A name without a hyphen has an alias exactly if it is in a bucket. -/
theorem isSome_aliasFor?_iff
    {table : AliasTable}
    {name : Text}
    (simple : '-' ∉ name) :
    (table.aliasFor? name).isSome ↔
      ∃ family ∈ table.families, ∃ bucket ∈ family.buckets, name ∈ bucket.members := by
  rw [aliasFor?_of_hyphen_not_mem simple, List.getLast?_isSome, ne_eq, memberAliases,
    List.flatMap_eq_nil_iff]
  simp only [bucketAliases_eq_nil_iff, not_forall, not_not, exists_prop]

/-- A name without a hyphen that stands somewhere has the alias of the slot that decides. -/
theorem aliasFor?_eq_some_iff
    {table : AliasTable}
    {name : Text}
    (simple : '-' ∉ name)
    {found : Text} :
    table.aliasFor? name = some found ↔
      ∃ slot, table.Decides name slot ∧ table.aliasAt? slot = some found := by
  constructor
  · intro isAlias
    rw [aliasFor?_of_hyphen_not_mem simple] at isAlias
    exact exists_decides_of_getLast? isAlias
  · rintro ⟨slot, decides, isAlias⟩
    have hasAlias := (isSome_aliasFor?_iff simple).mpr
      (exists_nameAt?_iff.mp ⟨slot, decides.standing⟩)
    obtain ⟨other, isOther⟩ := Option.isSome_iff_exists.mp hasAlias
    have isLast := isOther
    rw [aliasFor?_of_hyphen_not_mem simple] at isLast
    obtain ⟨otherSlot, otherDecides, isAliasThere⟩ := exists_decides_of_getLast? isLast
    rw [← decides.unique otherDecides, isAlias] at isAliasThere
    rw [isOther, isAliasThere]

/--
The table of class names has their stems, under each stem its suffixes, and in
every bucket the members of its last segment.  A name without a hyphen has an
alias if it is in a bucket, and then the alias of the slot that decides.
-/
theorem build_groups_and_decides
    (names : List Text) :
    (build names).Groups (Segment.ofNames names) ∧
      ∀ name, '-' ∉ name →
        (((build names).aliasFor? name).isSome ↔
            ∃ family ∈ (build names).families, ∃ bucket ∈ family.buckets,
              name ∈ bucket.members) ∧
          ∀ found,
            (build names).aliasFor? name = some found ↔
              ∃ slot, (build names).Decides name slot ∧
                (build names).aliasAt? slot = some found :=
  ⟨groups_build names, fun _ simple =>
    ⟨isSome_aliasFor?_iff simple, fun _ => aliasFor?_eq_some_iff simple⟩⟩

end AliasTable

end StyledMarkup
