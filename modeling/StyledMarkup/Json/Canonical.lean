import StyledMarkup.Json.Value

namespace StyledMarkup.Json.Value

/-!
# Canonical values

The canonical form of every value is canonical.
-/

/-- One of two different texts is less than the other. -/
theorem lessThan_of_ne
    {first second : Text}
    (different : first ≠ second)
    (notLess : Text.lessThan first second = false) :
    Text.lessThan second first = true := by
  induction first generalizing second with
  | nil =>
      cases second with
      | nil =>
          exact absurd rfl different
      | cons head rest =>
          simp [Text.lessThan] at notLess
  | cons head rest inductionHypothesis =>
      cases second with
      | nil =>
          rfl
      | cons other others =>
          simp only [Text.lessThan, Bool.or_eq_false_iff, Bool.and_eq_false_iff,
            decide_eq_false_iff_not] at notLess
          obtain ⟨heads, rests⟩ := notLess
          simp only [Text.lessThan, Bool.or_eq_true, Bool.and_eq_true, decide_eq_true_eq]
          by_cases equal : head = other
          · subst equal
            right
            refine ⟨rfl, inductionHypothesis ?_ ?_⟩
            · intro same
              exact different (by rw [same])
            · simpa using rests
          · left
            have values : head.val ≠ other.val := fun same => equal (Char.ext same)
            rcases UInt32.lt_or_lt_of_ne values with less | greater
            · exact absurd less heads
            · exact greater

/-- Keys after a key that is less than the first of them. -/
theorem keysIncrease_cons
    {key : Text}
    {value : Value}
    {fields : List (Text × Value)}
    (increase : keysIncrease fields = true)
    (less : ∀ field ∈ fields.head?, Text.lessThan key field.1 = true) :
    keysIncrease ((key, value) :: fields) = true := by
  cases fields with
  | nil =>
      rfl
  | cons field rest =>
      obtain ⟨next, other⟩ := field
      simp only [keysIncrease, Bool.and_eq_true]
      exact ⟨less (next, other) (by simp), increase⟩

/-- The first key after setting a field is the key set or the one that was first. -/
theorem head?_setField
    {key : Text}
    {value : Value}
    {fields : List (Text × Value)}
    {field : Text × Value}
    (isHead : field ∈ (setField key value fields).head?) :
    field.1 = key ∨ ∃ present ∈ fields.head?, field.1 = present.1 := by
  cases fields with
  | nil =>
      simp only [setField, List.head?_cons, Option.mem_some_iff] at isHead
      exact Or.inl (by rw [← isHead])
  | cons present rest =>
      obtain ⟨other, stored⟩ := present
      simp only [setField] at isHead
      split at isHead
      · simp only [List.head?_cons, Option.mem_some_iff] at isHead
        exact Or.inl (by rw [← isHead])
      · split at isHead
        · simp only [List.head?_cons, Option.mem_some_iff] at isHead
          exact Or.inl (by rw [← isHead])
        · simp only [List.head?_cons, Option.mem_some_iff] at isHead
          exact Or.inr ⟨(other, stored), by simp, by rw [← isHead]⟩

theorem keysIncrease_tail
    {field : Text × Value}
    {fields : List (Text × Value)}
    (increase : keysIncrease (field :: fields) = true) :
    keysIncrease fields = true := by
  obtain ⟨key, value⟩ := field
  cases fields with
  | nil =>
      rfl
  | cons next rest =>
      obtain ⟨other, stored⟩ := next
      simp only [keysIncrease, Bool.and_eq_true] at increase
      exact increase.2

theorem keysIncrease_head
    {key : Text}
    {value : Value}
    {fields : List (Text × Value)}
    (increase : keysIncrease ((key, value) :: fields) = true) :
    ∀ field ∈ fields.head?, Text.lessThan key field.1 = true := by
  cases fields with
  | nil =>
      simp
  | cons next rest =>
      obtain ⟨other, stored⟩ := next
      simp only [keysIncrease, Bool.and_eq_true] at increase
      intro field isHead
      simp only [List.head?_cons, Option.mem_some_iff] at isHead
      rw [← isHead]
      exact increase.1

/-- Setting a field keeps the keys in order. -/
theorem keysIncrease_setField
    {key : Text}
    {value : Value}
    {fields : List (Text × Value)}
    (increase : keysIncrease fields = true) :
    keysIncrease (setField key value fields) = true := by
  induction fields with
  | nil =>
      rfl
  | cons field rest inductionHypothesis =>
      obtain ⟨other, stored⟩ := field
      simp only [setField]
      split
      · rename_i equal
        subst equal
        exact keysIncrease_cons (keysIncrease_tail increase) (keysIncrease_head increase)
      · rename_i different
        split
        · rename_i less
          refine keysIncrease_cons increase ?_
          intro field isHead
          simp only [List.head?_cons, Option.mem_some_iff] at isHead
          rw [← isHead]
          exact less
        · rename_i notLess
          refine keysIncrease_cons (inductionHypothesis (keysIncrease_tail increase)) ?_
          intro field isHead
          rcases head?_setField isHead with isKey | ⟨present, isPresent, same⟩
          · rw [isKey]
            exact lessThan_of_ne different (by simpa using notLess)
          · rw [same]
            exact keysIncrease_head increase present isPresent

/-- Setting a field to a canonical value keeps the values canonical. -/
theorem fieldsAreCanonical_setField
    {key : Text}
    {value : Value}
    {fields : List (Text × Value)}
    (valueCanonical : value.isCanonical = true)
    (canonical : fieldsAreCanonical fields = true) :
    fieldsAreCanonical (setField key value fields) = true := by
  induction fields with
  | nil =>
      simp [setField, fieldsAreCanonical, valueCanonical]
  | cons field rest inductionHypothesis =>
      obtain ⟨other, stored⟩ := field
      simp only [fieldsAreCanonical, Bool.and_eq_true] at canonical
      simp only [setField]
      split
      · simp [fieldsAreCanonical, valueCanonical, canonical.2]
      · split
        · simp [fieldsAreCanonical, valueCanonical, canonical]
        · simp [fieldsAreCanonical, canonical.1, inductionHypothesis canonical.2]

/-- Ordering canonical fields gives a canonical record. -/
theorem isCanonical_orderFields
    {fields ordered : List (Text × Value)}
    (increase : keysIncrease ordered = true)
    (canonical : fieldsAreCanonical ordered = true)
    (added : fieldsAreCanonical fields = true) :
    (Value.record (orderFields ordered fields)).isCanonical = true := by
  induction fields generalizing ordered with
  | nil =>
      simp [orderFields, isCanonical, increase, canonical]
  | cons field rest inductionHypothesis =>
      obtain ⟨key, value⟩ := field
      simp only [fieldsAreCanonical, Bool.and_eq_true] at added
      exact inductionHypothesis (keysIncrease_setField increase)
        (fieldsAreCanonical_setField added.1 canonical) added.2

mutual

/-- The canonical form of a value is canonical. -/
theorem isCanonical_canonical :
    ∀ value : Value, value.canonical.isCanonical = true
  | .null => rfl
  | .bool _ => rfl
  | .number _ => rfl
  | .text _ => rfl
  | .list items => by
      simpa [canonical, isCanonical] using areCanonical_canonicalItems items
  | .record fields => by
      have start : keysIncrease [] = true := rfl
      simpa [canonical] using
        isCanonical_orderFields start rfl (fieldsAreCanonical_canonicalFields fields)

theorem areCanonical_canonicalItems :
    ∀ items : List Value, areCanonical (canonicalItems items) = true
  | [] => rfl
  | item :: rest => by
      simp [canonicalItems, areCanonical, isCanonical_canonical item,
        areCanonical_canonicalItems rest]

theorem fieldsAreCanonical_canonicalFields :
    ∀ fields : List (Text × Value), fieldsAreCanonical (canonicalFields fields) = true
  | [] => rfl
  | (key, value) :: rest => by
      simp [canonicalFields, fieldsAreCanonical, isCanonical_canonical value,
        fieldsAreCanonical_canonicalFields rest]

end

end StyledMarkup.Json.Value
