import StyledMarkup.Tree.Basic
import Mathlib.Data.List.Basic

namespace StyledMarkup

open List

/-!
# Canonical values are settled

The keys of a canonical record increase, so putting its fields in key order
finds each of them in its place already: a canonical value is its own
canonical form.
-/

namespace Text

/-- No text is less than itself. -/
theorem lessThan_irrefl
    (text : Text) :
    lessThan text text = false := by
  induction text with
  | nil =>
      rfl
  | cons first rest inductionHypothesis =>
      simp [lessThan, inductionHypothesis]

/-- A text that is less than a lesser text is less than the greater one. -/
theorem lessThan_trans
    {first second third : Text}
    (isLess : lessThan first second = true)
    (isLessToo : lessThan second third = true) :
    lessThan first third = true := by
  induction first generalizing second third with
  | nil =>
      cases third with
      | nil =>
          simp [lessThan] at isLessToo
      | cons head rest =>
          rfl
  | cons head rest inductionHypothesis =>
      obtain _ | ⟨secondHead, secondRest⟩ := second
      · simp [lessThan] at isLess
      obtain _ | ⟨thirdHead, thirdRest⟩ := third
      · simp [lessThan] at isLessToo
      simp only [lessThan, Bool.or_eq_true, Bool.and_eq_true, decide_eq_true_eq] at *
      rcases isLess with headLess | ⟨rfl, restLess⟩
      · rcases isLessToo with secondLess | ⟨rfl, -⟩
        · exact Or.inl (UInt32.lt_trans headLess secondLess)
        · exact Or.inl headLess
      · rcases isLessToo with headLess | ⟨rfl, restLessToo⟩
        · exact Or.inl headLess
        · exact Or.inr ⟨rfl, inductionHypothesis restLess restLessToo⟩

end Text

namespace Json.Value

/-- The keys of fields increase: each is less than all that come later. -/
theorem keysIncrease_iff_pairwise
    (fields : List (Text × Value)) :
    keysIncrease fields = true ↔
      fields.Pairwise fun field later => Text.lessThan field.1 later.1 = true := by
  induction fields with
  | nil =>
      simp [keysIncrease]
  | cons field rest inductionHypothesis =>
      obtain _ | ⟨next, others⟩ := rest
      · simp [keysIncrease]
      · rw [keysIncrease, Bool.and_eq_true, inductionHypothesis]
        constructor
        · rintro ⟨isLess, increase⟩
          refine List.pairwise_cons.mpr ⟨?_, increase⟩
          intro later isLater
          rcases List.mem_cons.mp isLater with isNext | inOthers
          · exact isNext ▸ isLess
          · exact Text.lessThan_trans isLess ((List.pairwise_cons.mp increase).1 later inOthers)
        · intro ordered
          obtain ⟨isLeast, increase⟩ := List.pairwise_cons.mp ordered
          exact ⟨isLeast next List.mem_cons_self, increase⟩

/-- A key that is greater than all others is set at the end. -/
theorem setField_of_greatest
    {key : Text}
    {fields : List (Text × Value)}
    (isGreatest : ∀ field ∈ fields, Text.lessThan field.1 key = true)
    (value : Value) :
    setField key value fields = fields ++ [(key, value)] := by
  induction fields with
  | nil =>
      rfl
  | cons field rest inductionHypothesis =>
      obtain ⟨other, present⟩ := field
      rw [List.forall_mem_cons] at isGreatest
      have different : key ≠ other := by
        rintro rfl
        simp [Text.lessThan_irrefl] at isGreatest
      have notLess : ¬ Text.lessThan key other = true := by
        intro isLess
        have below := Text.lessThan_trans isLess isGreatest.1
        simp [Text.lessThan_irrefl] at below
      rw [setField, if_neg different, if_neg notLess, inductionHypothesis isGreatest.2]
      rfl

/-- Fields with increasing keys are in order already. -/
theorem orderFields_of_keysIncrease
    {ordered fields : List (Text × Value)}
    (increase :
      (ordered ++ fields).Pairwise fun field later => Text.lessThan field.1 later.1 = true) :
    orderFields ordered fields = ordered ++ fields := by
  induction fields generalizing ordered with
  | nil =>
      simp [orderFields]
  | cons field rest inductionHypothesis =>
      obtain ⟨key, value⟩ := field
      have isGreatest : ∀ present ∈ ordered, Text.lessThan present.1 key = true := by
        intro present isPresent
        exact (List.pairwise_append.mp increase).2.2 present isPresent _ List.mem_cons_self
      rw [orderFields, setField_of_greatest isGreatest, inductionHypothesis (by simpa using increase)]
      simp

mutual

/-- A canonical value is its own canonical form. -/
theorem canonical_of_isCanonical :
    ∀ value : Value, value.isCanonical = true → value.canonical = value
  | .null, _ => rfl
  | .bool _, _ => rfl
  | .number _, _ => rfl
  | .text _, _ => rfl
  | .list items, isCanonical => by
      rw [canonical, canonicalItems_of_areCanonical items (by simpa [Value.isCanonical] using isCanonical)]
  | .record fields, isCanonical => by
      rw [Value.isCanonical, Bool.and_eq_true, keysIncrease_iff_pairwise] at isCanonical
      rw [canonical, canonicalFields_of_fieldsAreCanonical fields isCanonical.2,
        orderFields_of_keysIncrease (by simpa using isCanonical.1), List.nil_append]

/-- Canonical items are their own canonical forms. -/
theorem canonicalItems_of_areCanonical :
    ∀ items : List Value, areCanonical items = true → canonicalItems items = items
  | [], _ => rfl
  | item :: rest, areCanonical => by
      rw [Value.areCanonical, Bool.and_eq_true] at areCanonical
      rw [canonicalItems, canonical_of_isCanonical item areCanonical.1,
        canonicalItems_of_areCanonical rest areCanonical.2]

/-- Fields with canonical values stay as they are. -/
theorem canonicalFields_of_fieldsAreCanonical :
    ∀ fields : List (Text × Value),
      fieldsAreCanonical fields = true → canonicalFields fields = fields
  | [], _ => rfl
  | (key, value) :: rest, areCanonical => by
      rw [fieldsAreCanonical, Bool.and_eq_true] at areCanonical
      rw [canonicalFields, canonical_of_isCanonical value areCanonical.1,
        canonicalFields_of_fieldsAreCanonical rest areCanonical.2]

end

end Json.Value

/-- Props are determined by their fields. -/
theorem Props.eq_of_fields_eq
    {first second : Props}
    (same : first.fields = second.fields) :
    first = second := by
  obtain ⟨fields, isCanonical⟩ := first
  obtain ⟨otherFields, isCanonicalToo⟩ := second
  subst same
  rfl

/-- Props read from their own fields are the same props. -/
theorem Props.ofFields_fields
    (props : Props) :
    ofFields props.fields = props := by
  have settled := Json.Value.canonical_of_isCanonical _ props.canonical
  rw [Json.Value.canonical, Json.Value.record.injEq] at settled
  exact eq_of_fields_eq settled

end StyledMarkup
