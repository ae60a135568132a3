import StyledMarkup.Proofs.Alias.Blocks
import StyledMarkup.Proofs.Alias.Table
import Mathlib.Data.List.Nodup

namespace StyledMarkup

/-!
# The alias scheme

Working names that come as loose names and blocks get the aliases of the
scheme: a member is called after the stem of its block, the number of earlier
blocks with this stem, and its own number in the block.
-/

/-- Loose names and, behind them, blocks whose names are all told apart. -/
structure Layout where
  loose : List Text
  blocks : List Block
  named : ∀ block ∈ blocks, block.IsNamed
  loose_words : ∀ name ∈ loose, name.IsWord ∧ Delimiter.IsQuiet name
  member_words :
    ∀ block ∈ blocks, ∀ member ∈ block.members, member.IsWord ∧ Delimiter.IsQuiet member
  names_nodup : (loose ++ blocks.flatMap Block.names).Nodup
  pairs_nodup : (blocks.map fun block => (block.stem, block.suffix)).Nodup

/-- An item of a kind stands behind the earlier items of this kind. -/
theorem getElem?_filter_countP
    {Item : Type}
    {kind : Item → Bool}
    {items : List Item}
    {index : Nat}
    {item : Item}
    (isItem : items[index]? = some item)
    (isKind : kind item = true) :
    (items.filter kind)[(items.take index).countP kind]? = some item := by
  induction items generalizing index with
  | nil =>
      simp at isItem
  | cons first rest inductionHypothesis =>
      cases index with
      | zero =>
          have isFirst : first = item := by
            simpa using isItem
          simp [isFirst, isKind]
      | succ before =>
          have later := inductionHypothesis (List.getElem?_cons_succ ▸ isItem)
          by_cases firstKind : kind first = true
          · simpa [firstKind] using later
          · simpa [firstKind] using later

namespace Layout

/-- The names of a layout in their order. -/
def names (layout : Layout) : List Text :=
  layout.loose ++ layout.blocks.flatMap Block.names

/-- The number of blocks in front of a place that have the stem. -/
def earlier (layout : Layout) (index : Nat) (stem : Text) : Nat :=
  (layout.blocks.take index).countP fun block => block.stem = stem

/-- The segments of the names are the blocks. -/
theorem ofNames_names
    (layout : Layout) :
    Segment.ofNames layout.names = layout.blocks.map Block.segment := by
  refine Segment.ofNames_blocks layout.named ?_ ?_ ?_
  · intro block isBlock member isMember
    exact (layout.member_words block isBlock member isMember).1
  · intro name isLoose
    exact (Delimiter.find?_eq_none_iff name).mpr (layout.loose_words name isLoose).2
  · intro block isBlock member isMember
    exact (Delimiter.find?_eq_none_iff member).mpr
      (layout.member_words block isBlock member isMember).2

/-- Every block has a family of its stem in the table. -/
theorem exists_family
    (layout : Layout)
    {block : Block}
    (isBlock : block ∈ layout.blocks) :
    ∃ family ∈ (AliasTable.build layout.names).families, family.stem = block.stem := by
  have holds := AliasTable.holds_build layout.names
  rw [ofNames_names] at holds
  have isOpen := holds.opened block.segment (List.mem_map_of_mem isBlock)
  exact List.mem_map.mp isOpen

/-- The blocks of one stem have different suffixes. -/
theorem suffixes_nodup
    (layout : Layout)
    (stem : Text) :
    ((layout.blocks.filter fun block => block.stem = stem).map Block.suffix).Nodup := by
  have pairs :
      ((layout.blocks.filter fun block => block.stem = stem).map Block.suffix).map
          (fun suffix => (stem, suffix)) =
        (layout.blocks.filter fun block => block.stem = stem).map fun block =>
          (block.stem, block.suffix) := by
    rw [List.map_map]
    refine List.map_congr_left ?_
    intro block isKept
    have sameStem : block.stem = stem := by
      simpa using (List.mem_filter.mp isKept).2
    simp [sameStem]
  refine List.Nodup.of_map (fun suffix => (stem, suffix)) ?_
  rw [pairs]
  exact layout.pairs_nodup.sublist (List.filter_sublist.map _)

/-- The buckets of a family are the blocks of its stem in their order. -/
theorem buckets_of_family
    (layout : Layout)
    {family : Family}
    (isFamily : family ∈ (AliasTable.build layout.names).families) :
    family.buckets =
      (layout.blocks.filter fun block => block.stem = family.stem).map fun block =>
        block.segment.bucket := by
  have holds := AliasTable.holds_build layout.names
  rw [ofNames_names] at holds
  have sameStem :
      (layout.blocks.map Block.segment).filter (fun segment => segment.stem = family.stem) =
        (layout.blocks.filter fun block => block.stem = family.stem).map Block.segment := by
    rw [List.filter_map]
    rfl
  rw [holds.buckets family isFamily, sameStem, AliasTable.bucketsOf_of_distinct, List.map_map]
  · rfl
  · rw [List.map_map]
    exact layout.suffixes_nodup family.stem

/-- A numbered bucket of a family is made by the block of this number among those of its stem. -/
theorem exists_block_of_bucket
    (layout : Layout)
    {family : Family}
    (isFamily : family ∈ (AliasTable.build layout.names).families)
    {index : Nat}
    {bucket : Bucket}
    (isBucket : family.buckets[index]? = some bucket) :
    ∃ block ∈ layout.blocks,
      block.stem = family.stem ∧ block.segment.bucket = bucket ∧
        (layout.blocks.filter fun block => block.stem = family.stem)[index]? = some block := by
  rw [layout.buckets_of_family isFamily, List.getElem?_map, Option.map_eq_some_iff] at isBucket
  obtain ⟨block, place, rfl⟩ := isBucket
  obtain ⟨isBlock, sameStem⟩ := List.mem_filter.mp (List.mem_of_getElem? place)
  exact ⟨block, isBlock, by simpa using sameStem, rfl, place⟩

/-- The names of a block have no name twice. -/
theorem members_nodup
    (layout : Layout)
    {block : Block}
    (isBlock : block ∈ layout.blocks) :
    block.members.Nodup := by
  have inBlocks := (List.nodup_append.mp layout.names_nodup).2.1
  exact (List.nodup_cons.mp ((List.nodup_flatMap.mp inBlocks).1 block isBlock)).2

/-- A name is a member of one block only. -/
theorem block_eq_of_common_member
    (layout : Layout)
    {first second : Block}
    (isFirst : first ∈ layout.blocks)
    (isSecond : second ∈ layout.blocks)
    {name : Text}
    (inFirst : name ∈ first.members)
    (inSecond : name ∈ second.members) :
    first = second := by
  have inBlocks := (List.nodup_append.mp layout.names_nodup).2.1
  have apart := (List.nodup_flatMap.mp inBlocks).2
  have sharedOnce :
      ∀ one ∈ layout.blocks, ∀ other ∈ layout.blocks,
        name ∈ one.members → name ∈ other.members → one = other := by
    refine List.Pairwise.forall_of_forall_of_flip (by simp) (apart.imp ?_) (apart.imp ?_)
    · intro one other disjoint inOne inOther
      exact (disjoint (List.mem_cons_of_mem _ inOne) (List.mem_cons_of_mem _ inOther)).elim
    · intro one other disjoint inOther inOne
      exact (disjoint (List.mem_cons_of_mem _ inOne) (List.mem_cons_of_mem _ inOther)).elim
  exact sharedOnce first isFirst second isSecond inFirst inSecond

/-- No block is there twice. -/
theorem blocks_nodup
    (layout : Layout) :
    layout.blocks.Nodup :=
  List.Nodup.of_map _ layout.pairs_nodup

/-- A name without a hyphen that no block has as a member has no alias. -/
theorem aliasFor?_eq_none
    (layout : Layout)
    {name : Text}
    (simple : '-' ∉ name)
    (absent : ∀ block ∈ layout.blocks, name ∉ block.members) :
    (AliasTable.build layout.names).aliasFor? name = none := by
  refine AliasTable.aliasFor?_eq_none_of_absent simple ?_
  intro family isFamily bucket isBucket
  obtain ⟨index, isPlace⟩ := List.mem_iff_getElem?.mp isBucket
  obtain ⟨block, isBlock, -, rfl, -⟩ := layout.exists_block_of_bucket isFamily isPlace
  exact absent block isBlock

/-- A member without a hyphen is called by the places of its block and of itself. -/
theorem aliasFor?_of_member
    (layout : Layout)
    {index : Nat}
    {block : Block}
    (isBlock : layout.blocks[index]? = some block)
    {position : Nat}
    {name : Text}
    (isMember : block.members[position]? = some name)
    (simple : '-' ∉ name) :
    (AliasTable.build layout.names).aliasFor? name =
      some (AliasTable.aliasText block.stem (layout.earlier index block.stem) position) := by
  have inBlocks := List.mem_of_getElem? isBlock
  have inMembers := List.mem_of_getElem? isMember
  obtain ⟨family, isFamily, sameStem⟩ := layout.exists_family inBlocks
  have place :
      (layout.blocks.filter fun block => block.stem = family.stem)[
        layout.earlier index family.stem]? = some block :=
    getElem?_filter_countP isBlock (by simp [sameStem])
  have isBucket :
      family.buckets[layout.earlier index family.stem]? = some block.segment.bucket := by
    rw [layout.buckets_of_family isFamily, List.getElem?_map, place]
    rfl
  have isPosition : block.segment.bucket.members.idxOf? name = some position :=
    idxOf?_eq_some_of_nodup (layout.members_nodup inBlocks) isMember
  rw [← sameStem]
  refine AliasTable.aliasFor?_eq_some_of_unique simple isFamily isBucket isPosition ?_
  intro other isOther otherIndex otherBucket isOtherBucket inOther
  obtain ⟨otherBlock, isOtherBlock, otherStem, rfl, otherPlace⟩ :=
    layout.exists_block_of_bucket isOther isOtherBucket
  -- The name tells the block, and the block has one place among those of its stem.
  obtain rfl := layout.block_eq_of_common_member isOtherBlock inBlocks inOther inMembers
  have sameFamily : other.stem = family.stem := otherStem.symm.trans sameStem.symm
  rw [sameFamily, ← place] at otherPlace
  have inRange := (List.getElem?_eq_some_iff.mp (otherPlace.trans place)).1
  have kept := layout.blocks_nodup.filter fun block => block.stem = family.stem
  exact ⟨sameFamily, (List.getElem?_inj inRange kept).mp otherPlace, rfl⟩

end Layout

/-- The alias text: extension and member number are written unless they are zero. -/
theorem AliasTable.aliasText_eq
    (stem : Text)
    (bucket member : Nat) :
    aliasText stem bucket member =
      stem ++ (if bucket = 0 then [] else Text.of "_ext" ++ Text.ofNat bucket) ++
        (if member = 0 then [] else '-' :: Text.ofNat member) := by
  cases bucket <;> cases member <;> simp [aliasText]

/--
The aliases of a layout.  With `bucket` earlier blocks of the stem, the member
at `position` of a block is called `stem`, `stem-N`, `stem_extK` or
`stem_extK-N`, and all other names without a hyphen have no alias.
-/
theorem Layout.aliasFor?_build_names
    (layout : Layout) :
    (∀ index block position name,
      layout.blocks[index]? = some block →
        block.members[position]? = some name →
          '-' ∉ name →
            (AliasTable.build layout.names).aliasFor? name =
              some (block.stem ++
                (if layout.earlier index block.stem = 0 then []
                  else Text.of "_ext" ++ Text.ofNat (layout.earlier index block.stem)) ++
                (if position = 0 then [] else '-' :: Text.ofNat position))) ∧
      (∀ name ∈ layout.loose,
        '-' ∉ name → (AliasTable.build layout.names).aliasFor? name = none) ∧
      (∀ name, name ∉ layout.names →
        '-' ∉ name → (AliasTable.build layout.names).aliasFor? name = none) := by
  refine ⟨?_, ?_, ?_⟩
  · intro index block position name isBlock isMember simple
    rw [layout.aliasFor?_of_member isBlock isMember simple, AliasTable.aliasText_eq]
  · intro name isLoose simple
    refine layout.aliasFor?_eq_none simple ?_
    intro block isBlock isMember
    have inBlocks : name ∈ layout.blocks.flatMap Block.names :=
      List.mem_flatMap.mpr ⟨block, isBlock, List.mem_cons_of_mem _ isMember⟩
    exact (List.nodup_append.mp layout.names_nodup).2.2 name isLoose name inBlocks rfl
  · intro name isOutside simple
    refine layout.aliasFor?_eq_none simple ?_
    intro block isBlock isMember
    refine isOutside (List.mem_append_right _ ?_)
    exact List.mem_flatMap.mpr ⟨block, isBlock, List.mem_cons_of_mem _ isMember⟩

/-- Two blocks of one stem with a block of another stem between them. -/
def Layout.alternating : Layout where
  loose := [Text.of "plain"]
  blocks :=
    [⟨Text.of "Button", Text.of "Wrapper", Text.of "a1", [Text.of "sc-x", Text.of "kdEaB"]⟩,
      ⟨Text.of "Card", Text.of "Body", Text.of "c1", [Text.of "hQfGt"]⟩,
      ⟨Text.of "Button", Text.of "Wrapper", Text.of "b2", [Text.of "iWvRn", Text.of "jLmPz"]⟩]
  named := by decide
  loose_words := by decide
  member_words := by decide
  names_nodup := by decide
  pairs_nodup := by decide

/-- The second member of the second block of its stem, a loose name and an unknown name. -/
theorem Layout.aliasFor?_build_names_of_alternating :
    (AliasTable.build Layout.alternating.names).aliasFor? (Text.of "jLmPz") =
        some (Text.of "Button__Wrapper_ext1-1") ∧
      (AliasTable.build Layout.alternating.names).aliasFor? (Text.of "plain") = none ∧
      (AliasTable.build Layout.alternating.names).aliasFor? (Text.of "other") = none := by
  obtain ⟨members, loose, outside⟩ := Layout.aliasFor?_build_names Layout.alternating
  refine ⟨?_, loose _ (by decide) (by decide), outside _ (by decide) (by decide)⟩
  exact members 2 _ 1 _ rfl rfl (by decide)

end StyledMarkup
