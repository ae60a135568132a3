import StyledMarkup.Alias.Table
import Mathlib.Data.List.Basic

namespace StyledMarkup

/-!
# Changing an item in its place, or a new one behind the others

Segments go into buckets, and into families, in one way: the item with the key
of the segment changes where it stands, and if there is none, then a new item
comes behind the others.
-/

section

variable {Item : Type} {key : Item → Text} {wanted : Text} {new : Item} {change : Item → Item}

/-- Changes the first item with the key, or puts a new item behind the others. -/
def putUnder
    (key : Item → Text)
    (wanted : Text)
    (new : Item)
    (change : Item → Item) :
    List Item → List Item
  | [] => [new]
  | first :: rest =>
      if key first = wanted then change first :: rest
      else first :: putUnder key wanted new change rest

theorem putUnder_of_new
    {items : List Item}
    (isNew : ∀ item ∈ items, key item ≠ wanted) :
    putUnder key wanted new change items = items ++ [new] := by
  induction items with
  | nil =>
      rfl
  | cons first rest inductionHypothesis =>
      rw [List.forall_mem_cons] at isNew
      rw [putUnder, if_neg isNew.1, inductionHypothesis isNew.2, List.cons_append]

/-- The key comes behind the others, unless it is there. -/
theorem keys_putUnder
    (key_new : key new = wanted)
    (key_change : ∀ item, key (change item) = key item)
    (items : List Item) :
    (putUnder key wanted new change items).map key =
      if wanted ∈ items.map key then items.map key else items.map key ++ [wanted] := by
  induction items with
  | nil =>
      simp [putUnder, key_new]
  | cons first rest inductionHypothesis =>
      by_cases same : key first = wanted
      · simp [putUnder, same, key_change]
      · simp only [putUnder, if_neg same, List.map_cons, inductionHypothesis,
          List.mem_cons, Ne.symm same, false_or]
        split <;> simp

/--
An item was there with another key, or it is what the item with the key was
changed to, or there was no such item and it is the new one.
-/
theorem mem_putUnder
    {items : List Item}
    (distinct : (items.map key).Nodup)
    {item : Item}
    (member : item ∈ putUnder key wanted new change items) :
    (item ∈ items ∧ key item ≠ wanted) ∨
      (∃ old ∈ items, key old = wanted ∧ item = change old) ∨
        ((∀ old ∈ items, key old ≠ wanted) ∧ item = new) := by
  induction items with
  | nil =>
      exact Or.inr (Or.inr ⟨by simp, List.mem_singleton.mp member⟩)
  | cons first rest inductionHypothesis =>
      rw [List.map_cons, List.nodup_cons] at distinct
      by_cases same : key first = wanted
      · rw [putUnder, if_pos same, List.mem_cons] at member
        rcases member with isFirst | inRest
        · exact Or.inr (Or.inl ⟨first, List.mem_cons_self, same, isFirst⟩)
        · -- The keys are distinct, so an item behind the changed one has another key.
          refine Or.inl ⟨List.mem_cons_of_mem _ inRest, ?_⟩
          intro sameToo
          apply distinct.1
          rw [same, ← sameToo]
          exact List.mem_map_of_mem inRest
      · rw [putUnder, if_neg same, List.mem_cons] at member
        rcases member with isFirst | inRest
        · subst item
          exact Or.inl ⟨List.mem_cons_self, same⟩
        · rcases inductionHypothesis distinct.2 inRest with
              ⟨isOld, differs⟩ | ⟨old, isOld, oldKey, isChanged⟩ | ⟨isNew, isAdded⟩
          · exact Or.inl ⟨List.mem_cons_of_mem _ isOld, differs⟩
          · exact Or.inr (Or.inl ⟨old, List.mem_cons_of_mem _ isOld, oldKey, isChanged⟩)
          · exact Or.inr (Or.inr ⟨List.forall_mem_cons.mpr ⟨same, isNew⟩, isAdded⟩)

/-- What holds of the new item, and of what an item is changed to, holds of all items afterwards. -/
theorem forall_mem_putUnder
    {holds : Item → Prop}
    (ofNew : holds new)
    (ofChange : ∀ item, holds item → holds (change item))
    {items : List Item}
    (ofItems : ∀ item ∈ items, holds item) :
    ∀ item ∈ putUnder key wanted new change items, holds item := by
  induction items with
  | nil =>
      intro item isItem
      rw [List.mem_singleton.mp isItem]
      exact ofNew
  | cons first rest inductionHypothesis =>
      rw [List.forall_mem_cons] at ofItems
      rw [putUnder]
      split
      · exact List.forall_mem_cons.mpr ⟨ofChange first ofItems.1, ofItems.2⟩
      · exact List.forall_mem_cons.mpr ⟨ofItems.1, inductionHypothesis ofItems.2⟩

/-- A text is counted at most as often more as in the new item, or as a change adds to an item. -/
theorem count_flatMap_putUnder_le
    {parts : Item → List Text}
    {text : Text}
    {more : Nat}
    (inNew : (parts new).count text ≤ more)
    (inChange : ∀ item, (parts (change item)).count text ≤ (parts item).count text + more)
    (items : List Item) :
    ((putUnder key wanted new change items).flatMap parts).count text ≤
      (items.flatMap parts).count text + more := by
  induction items with
  | nil =>
      simpa [putUnder] using inNew
  | cons first rest inductionHypothesis =>
      have inFirst := inChange first
      rw [putUnder]
      split <;> simp only [List.flatMap_cons, List.count_append] <;> omega

end

namespace AliasTable

theorem putBucket_eq_putUnder
    (segment : Segment)
    (buckets : List Bucket) :
    putBucket segment buckets =
      putUnder Bucket.suffix segment.suffix ⟨segment.suffix, segment.members⟩
        (fun bucket => ⟨bucket.suffix, segment.members⟩) buckets := by
  induction buckets with
  | nil =>
      rfl
  | cons first rest inductionHypothesis =>
      rw [putBucket, putUnder, inductionHypothesis]

theorem putFamily_eq_putUnder
    (segment : Segment)
    (families : List Family) :
    putFamily segment families =
      putUnder Family.stem segment.stem ⟨segment.stem, putBucket segment []⟩
        (fun family => ⟨family.stem, putBucket segment family.buckets⟩) families := by
  induction families with
  | nil =>
      rfl
  | cons first rest inductionHypothesis =>
      rw [putFamily, putUnder, inductionHypothesis]

end AliasTable

end StyledMarkup
