import StyledMarkup.Proofs.Alias.Lookup
import StyledMarkup.Proofs.Alias.NameByName

namespace StyledMarkup

open List

/-!
# Aliases without characters

A delimiter that starts with a hyphen has an empty stem, and the first slot of
its family has the stem alone for an alias.  A name that this slot decides is
called by nothing; every other alias has a character.
-/

/-- A segment has an empty stem exactly if a delimiter of the names starts with a hyphen. -/
theorem Segment.exists_empty_stem_iff
    (names : List Text) :
    (∃ segment ∈ ofNames names, segment.stem = []) ↔
      ∃ delimiter gap,
        (delimiter, gap) ∈ Delimiter.occurrences (Text.join [' '] names) ∧
          ['-'] <+: delimiter := by
  have isEmpty_iff {delimiter gap : Text} {segment : Segment}
      (isOccurrence : (delimiter, gap) ∈ Delimiter.occurrences (Text.join [' '] names))
      (opens : ofOccurrence delimiter gap = some segment) :
      segment.stem = [] ↔ ['-'] <+: delimiter := by
    obtain ⟨head, component, suffix, parts, rfl, -⟩ :=
      Delimiter.exists_parts_of_mem_occurrences isOccurrence
    rw [ofOccurrence] at opens
    split at opens
    · rename_i shape
      obtain rfl := Option.some.inj opens
      rw [Text.head_splitOn_eq_nil_iff shape, or_iff_right parts.isWord_written.nonempty]
    · simp at opens
  constructor
  · rintro ⟨segment, isSegment, isEmpty⟩
    obtain ⟨⟨delimiter, gap⟩, isOccurrence, opens⟩ := List.mem_filterMap.mp isSegment
    exact ⟨delimiter, gap, isOccurrence, (isEmpty_iff isOccurrence opens).mp isEmpty⟩
  · rintro ⟨delimiter, gap, isOccurrence, startsWithHyphen⟩
    obtain ⟨head, component, suffix, -, isWritten, -⟩ :=
      Delimiter.exists_parts_of_mem_occurrences isOccurrence
    have opens := @ofOccurrence_written head component suffix gap
    rw [← isWritten] at opens
    exact ⟨_, List.mem_filterMap.mpr ⟨(delimiter, gap), isOccurrence, opens⟩,
      (isEmpty_iff isOccurrence opens).mpr startsWithHyphen⟩

namespace AliasTable

/-- The slot is the first one of a family with an empty stem. -/
def IsNameless (table : AliasTable) (slot : Slot) : Prop :=
  (∃ family, table.families[slot.family]? = some family ∧ family.stem = []) ∧
    slot.bucket = 0 ∧ slot.member = 0

theorem aliasText_eq_nil_iff
    {stem : Text}
    {bucket member : Nat} :
    aliasText stem bucket member = [] ↔ stem = [] ∧ bucket = 0 ∧ member = 0 := by
  cases bucket <;> cases member <;> simp [aliasText]

theorem aliasAt?_eq_nil_iff
    {table : AliasTable}
    {slot : Slot} :
    table.aliasAt? slot = some [] ↔ table.IsNameless slot := by
  simp only [aliasAt?, Option.map_eq_some_iff, aliasText_eq_nil_iff, IsNameless]
  constructor
  · rintro ⟨family, isFamily, isEmpty, isBase, isFirst⟩
    exact ⟨⟨family, isFamily, isEmpty⟩, isBase, isFirst⟩
  · rintro ⟨⟨family, isFamily, isEmpty⟩, isBase, isFirst⟩
    exact ⟨family, isFamily, isEmpty, isBase, isFirst⟩

/-- A name with a hyphen has no empty alias. -/
theorem aliasFor?_ne_nil_of_hyphen_mem
    {table : AliasTable}
    {name : Text}
    (compound : '-' ∈ name) :
    table.aliasFor? name ≠ some [] := by
  obtain ⟨stem, rest, rfl, isFree⟩ := List.eq_append_cons_of_mem compound
  rw [aliasFor?, Text.cutFirst?_append_separator isFree]
  cases stem <;> simp

/-- A name is called by nothing exactly if it has no hyphen and a nameless slot decides. -/
theorem aliasFor?_eq_nil_iff
    {table : AliasTable}
    {name : Text} :
    table.aliasFor? name = some [] ↔
      '-' ∉ name ∧ ∃ slot, table.Decides name slot ∧ table.IsNameless slot := by
  by_cases compound : '-' ∈ name
  · simp [aliasFor?_ne_nil_of_hyphen_mem compound, compound]
  · rw [aliasFor?_eq_some_iff compound]
    simp only [aliasAt?_eq_nil_iff, compound, not_false_eq_true, true_and]

/--
All aliases have a character exactly if no name without a hyphen is decided by
the first slot of a family with an empty stem.  There is such a family exactly
if a delimiter of the names starts with a hyphen.
-/
theorem aliases_ne_nil_iff
    (names : List Text) :
    ((∀ name found, (build names).aliasFor? name = some found → found ≠ []) ↔
        ∀ name slot, '-' ∉ name → (build names).Decides name slot →
          ¬ (build names).IsNameless slot) ∧
      ((∃ family ∈ (build names).families, family.stem = []) ↔
        ∃ delimiter gap,
          (delimiter, gap) ∈ Delimiter.occurrences (Text.join [' '] names) ∧
            ['-'] <+: delimiter) := by
  constructor
  · constructor
    · intro haveCharacters name slot simple decides isNameless
      have isEmpty := aliasFor?_eq_nil_iff.mpr ⟨simple, slot, decides, isNameless⟩
      exact haveCharacters name [] isEmpty rfl
    · rintro noneNameless name found isAlias rfl
      obtain ⟨simple, slot, decides, isNameless⟩ := aliasFor?_eq_nil_iff.mp isAlias
      exact noneNameless name slot simple decides isNameless
  · rw [← Segment.exists_empty_stem_iff, ← List.mem_map, ← List.mem_map, stems_build,
      List.mem_eraseDups]

/-- The member behind a delimiter that starts with a hyphen is called by nothing. -/
theorem aliasFor?_empty_behind_hyphen :
    let names := [Text.of "-x__y-z", Text.of "aa"]
    (∀ name ∈ names, name.IsWord) ∧
      (build names).aliasFor? (Text.of "aa") = some [] ∧
        ¬ ∀ name found, (build names).aliasFor? name = some found → found ≠ [] := by
  intro names
  have isEmpty : (build names).aliasFor? (Text.of "aa") = some [] := by
    decide +kernel
  refine ⟨by decide, isEmpty, ?_⟩
  intro haveCharacters
  exact haveCharacters _ _ isEmpty rfl

end AliasTable

end StyledMarkup
