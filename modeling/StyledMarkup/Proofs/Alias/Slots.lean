import StyledMarkup.Proofs.Alias.Lookup
import StyledMarkup.Proofs.Alias.Members
import Mathlib.Data.List.Perm.Subperm

namespace StyledMarkup

open List

/-!
# How many slots a name takes

A class name is the member of one bucket at most, and so is the front part of a
name with a delimiter in it.  A name therefore takes more than one slot only if
it is also such a front part, and then at most one more for each name that
starts with it in this way.
-/

/-- The text stands in front of the first delimiter of the other one. -/
def Delimiter.isFront (front text : Text) : Bool :=
  (find? text).any fun (before, _, _) => before == front

/-- A text reaches up to the first delimiter of names: of itself, or of those it is a front of. -/
theorem Delimiter.count_map_gap_le
    (front : Text)
    (names : List Text) :
    (names.map gap).count front ≤ names.count front + names.countP (isFront front) := by
  induction names with
  | nil =>
      simp
  | cons name rest inductionHypothesis =>
      have here :
          (if gap name == front then 1 else 0) ≤
            (if name == front then 1 else 0) + if isFront front name then 1 else 0 := by
        rw [gap, isFront]
        cases find? name <;> simp
      rw [List.map_cons, List.count_cons, List.count_cons, List.countP_cons]
      omega

namespace AliasTable

/-! ## Slots and members -/

/-- The slots of a table with the names in them, in their order. -/
def entries (table : AliasTable) : List (Slot × Text) :=
  table.families.zipIdx.flatMap fun (family, familyIndex) =>
    family.buckets.zipIdx.flatMap fun (bucket, bucketIndex) =>
      bucket.members.zipIdx.map fun (name, member) => (⟨familyIndex, bucketIndex, member⟩, name)

/-- The members of all buckets of families in their order. -/
def membersOf (families : List Family) : List Text :=
  families.flatMap fun family => family.buckets.flatMap Bucket.members

theorem mem_entries
    {table : AliasTable}
    {slot : Slot}
    {name : Text}
    (standing : table.nameAt? slot = some name) :
    (slot, name) ∈ table.entries := by
  obtain ⟨family, bucket, isFamily, isBucket, isMember⟩ := nameAt?_eq_some_iff.mp standing
  apply List.mem_flatMap.mpr
  refine ⟨(family, slot.family), List.mk_mem_zipIdx_iff_getElem?.mpr isFamily, ?_⟩
  apply List.mem_flatMap.mpr
  refine ⟨(bucket, slot.bucket), List.mk_mem_zipIdx_iff_getElem?.mpr isBucket, ?_⟩
  apply List.mem_map.mpr
  exact ⟨(name, slot.member), List.mk_mem_zipIdx_iff_getElem?.mpr isMember, rfl⟩

theorem flatMap_zipIdx
    {Item Other : Type}
    (parts : Item → List Other)
    (items : List Item) :
    (items.zipIdx.flatMap fun (item, _) => parts item) = items.flatMap parts := by
  conv_rhs => rw [← List.zipIdx_map_fst 0 items]
  rw [List.flatMap_map]

theorem map_snd_entries
    (table : AliasTable) :
    table.entries.map Prod.snd = membersOf table.families := by
  have ofBucket (familyIndex : Nat) (bucket : Bucket) (bucketIndex : Nat) :
      (bucket.members.zipIdx.map fun (name, member) =>
          ((⟨familyIndex, bucketIndex, member⟩ : Slot), name)).map Prod.snd =
        bucket.members := by
    rw [List.map_map]
    exact List.zipIdx_map_fst 0 bucket.members
  simp only [entries, List.map_flatMap, ofBucket, flatMap_zipIdx]
  exact flatMap_zipIdx (fun family => family.buckets.flatMap Bucket.members) table.families

/-- A name takes as many slots as it is a member at most. -/
theorem length_slots_le_count
    {table : AliasTable}
    {name : Text}
    {slots : List Slot}
    (distinct : slots.Nodup)
    (standing : ∀ slot ∈ slots, table.nameAt? slot = some name) :
    slots.length ≤ (membersOf table.families).count name := by
  have pairsDistinct : (slots.map fun slot => (slot, name)).Nodup := by
    apply distinct.map
    intro slot other same
    exact (Prod.mk.inj same).1
  have areEntries : (slots.map fun slot => (slot, name)) ⊆ table.entries := by
    intro pair isPair
    obtain ⟨slot, isSlot, rfl⟩ := List.mem_map.mp isPair
    exact mem_entries (standing slot isSlot)
  calc
    slots.length = (slots.map fun slot => (slot, name)).countP (·.2 == name) := by
      simp [Function.comp_def]
    _ ≤ table.entries.countP (·.2 == name) :=
      (List.subperm_of_subset pairsDistinct areEntries).countP_le _
    _ = (table.entries.map Prod.snd).count name := by
      rw [List.count, List.countP_map]
      rfl
    _ = (membersOf table.families).count name := by
      rw [map_snd_entries]

/-! ## Members of a table -/

theorem count_putBucket_le
    (name : Text)
    (segment : Segment)
    (buckets : List Bucket) :
    ((putBucket segment buckets).flatMap Bucket.members).count name ≤
      (buckets.flatMap Bucket.members).count name + segment.members.count name := by
  rw [putBucket_eq_putUnder]
  apply count_flatMap_putUnder_le
  · exact le_rfl
  · intro bucket
    exact Nat.le_add_left _ _

theorem count_putFamily_le
    (name : Text)
    (segment : Segment)
    (families : List Family) :
    (membersOf (putFamily segment families)).count name ≤
      (membersOf families).count name + segment.members.count name := by
  rw [putFamily_eq_putUnder]
  apply count_flatMap_putUnder_le
  · simpa using count_putBucket_le name segment []
  · intro family
    exact count_putBucket_le name segment family.buckets

/-- A name is a member of the table at most as often as it is a member of the segments. -/
theorem count_foldl_putFamily_le
    (name : Text)
    (segments : List Segment)
    (families : List Family) :
    (membersOf
        (segments.foldl (fun families segment => putFamily segment families) families)).count
          name ≤
      (membersOf families).count name + (Segment.allMembers segments).count name := by
  induction segments generalizing families with
  | nil =>
      simp
  | cons segment rest inductionHypothesis =>
      have here := count_putFamily_le name segment families
      have later := inductionHypothesis (putFamily segment families)
      simp only [List.foldl_cons, Segment.allMembers, List.flatMap_cons,
        List.count_append] at later ⊢
      omega

/--
With class names that are all different, a name takes one slot at most, and one
more for each class name that has it in front of its first delimiter.
-/
theorem length_slots_le
    {names : List Text}
    (distinct : names.Nodup)
    (areWords : ∀ name ∈ names, name.IsWord)
    {name : Text}
    {slots : List Slot}
    (slotsDistinct : slots.Nodup)
    (standing : ∀ slot ∈ slots, (build names).nameAt? slot = some name) :
    slots.length ≤ 1 + names.countP (Delimiter.isFront name) :=
  calc
    slots.length ≤ (membersOf (build names).families).count name :=
      length_slots_le_count slotsDistinct standing
    _ ≤ (Segment.allMembers (Segment.ofNames names)).count name := by
      simpa [build, membersOf] using count_foldl_putFamily_le name (Segment.ofNames names) []
    _ ≤ (names.map Delimiter.gap).count name :=
      (Segment.allMembers_ofNames_sublist areWords).count_le name
    _ ≤ names.count name + names.countP (Delimiter.isFront name) :=
      Delimiter.count_map_gap_le name names
    _ ≤ 1 + names.countP (Delimiter.isFront name) :=
      Nat.add_le_add_right (List.nodup_iff_count_le_one.mp distinct name) _

/-- A name in front of the delimiter of another one takes the two slots that it may take. -/
theorem length_slots_le_of_front :
    let names :=
      [Text.of "A__b-c", Text.of "my_", Text.of "D__e-f", Text.of "my_comp__W-abc"]
    let slots : List Slot := [⟨0, 0, 0⟩, ⟨1, 0, 0⟩]
    (names.Nodup ∧ (∀ name ∈ names, name.IsWord) ∧ slots.Nodup ∧
      ∀ slot ∈ slots, (build names).nameAt? slot = some (Text.of "my_")) ∧
      slots.length ≤ 1 + names.countP (Delimiter.isFront (Text.of "my_")) ∧
        names.countP (Delimiter.isFront (Text.of "my_")) = 1 := by
  intro names slots
  have distinct : names.Nodup := by
    decide
  have areWords : ∀ name ∈ names, name.IsWord := by
    decide
  have slotsDistinct : slots.Nodup := by
    decide
  have standing : ∀ slot ∈ slots, (build names).nameAt? slot = some (Text.of "my_") := by
    decide +kernel
  exact ⟨⟨distinct, areWords, slotsDistinct, standing⟩,
    length_slots_le distinct areWords slotsDistinct standing, by decide +kernel⟩

/-- A class name stands in two slots, as a member of its own and as a front part of another one. -/
theorem build_repeats_front :
    let names :=
      [Text.of "A__b-c", Text.of "my_", Text.of "D__e-f", Text.of "my_comp__W-abc"]
    names.Nodup ∧ (∀ name ∈ names, name.IsWord) ∧
      (build names).aliasFor? (Text.of "my_") = some (Text.of "D__e") ∧
        ¬ ∀ name ∈ names, ∀ first second : Slot,
          (build names).nameAt? first = some name →
            (build names).nameAt? second = some name → first = second := by
  intro names
  refine ⟨by decide, by decide, by decide +kernel, ?_⟩
  intro unique
  have isName : Text.of "my_" ∈ names := by
    decide
  have ownSlot : (build names).nameAt? ⟨0, 0, 0⟩ = some (Text.of "my_") := by
    decide +kernel
  have frontSlot : (build names).nameAt? ⟨1, 0, 0⟩ = some (Text.of "my_") := by
    decide +kernel
  exact absurd (unique _ isName _ _ ownSlot frontSlot) (by decide)

end AliasTable

end StyledMarkup
