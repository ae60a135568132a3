import StyledMarkup.Text.Basic
import Mathlib.Data.List.Basic

namespace StyledMarkup.Text

/-!
# Encodings

Texts are in the same order as their bytes: the first byte of a character shows
how many there are, and a greater character has the greater byte where they
differ first.  Numbers are written in digits, from which they can be read back.
-/

/-! ## Bytes -/

/-- The bytes of a text in UTF-8. -/
def bytes (text : Text) : List UInt8 := text.flatMap String.utf8EncodeChar

/-- The bits of a number are taken six at a time. -/
theorem div_sixBits
    (number : Nat) :
    number / 4096 = number / 64 / 64 ∧ number / 262144 = number / 64 / 64 / 64 := by
  simp only [Nat.div_div_eq_div_mul, and_self]

/-- The bytes of a lesser character are less, whatever comes behind. -/
theorem utf8EncodeChar_append_lt
    {lesser greater : Char}
    (isLess : lesser.val < greater.val)
    (left right : List UInt8) :
    String.utf8EncodeChar lesser ++ left < String.utf8EncodeChar greater ++ right := by
  have numbersLess : lesser.val.toNat < greater.val.toNat := isLess
  have inRange : greater.val.toNat < 0x110000 := by
    have isValid := greater.valid
    simp only [UInt32.isValidChar, Nat.isValidChar] at isValid
    omega
  -- The number of bytes shows in the first one; with as many bytes the first difference decides.
  simp only [String.utf8EncodeChar, div_sixBits]
  split_ifs <;>
    simp only [List.cons_append, List.nil_append, List.cons_lt_cons_iff, UInt8.lt_iff_toNat_lt,
      ← UInt8.toNat_inj, UInt8.toNat_ofNat'] <;>
    omega

/-- A lesser text has lesser bytes. -/
theorem bytes_lt_of_lessThan
    {first second : Text}
    (isLess : lessThan first second = true) :
    bytes first < bytes second := by
  induction first generalizing second with
  | nil =>
      obtain _ | ⟨head, rest⟩ := second
      · simp [lessThan] at isLess
      · obtain ⟨byte, more, areBytes⟩ :=
          List.exists_cons_of_ne_nil (String.utf8EncodeChar_ne_nil (c := head))
        simp [bytes, areBytes]
  | cons head rest inductionHypothesis =>
      obtain _ | ⟨other, others⟩ := second
      · simp [lessThan] at isLess
      · simp only [lessThan, Bool.or_eq_true, Bool.and_eq_true, decide_eq_true_eq] at isLess
        rw [bytes, bytes, List.flatMap_cons, List.flatMap_cons]
        rcases isLess with headLess | ⟨rfl, restLess⟩
        · exact utf8EncodeChar_append_lt headLess _ _
        · exact List.append_left_lt (inductionHypothesis restLess)

/-! ## Digits -/

/-- Only digits are in the text of a number. -/
theorem not_mem_ofNat
    {character : Char}
    (notDigit : character.isDigit = false)
    (number : Nat) :
    character ∉ ofNat number := by
  intro member
  have isDigit := Nat.isDigit_of_mem_toDigits (by decide) (by decide) member
  simp [isDigit] at notDigit

/-- A number can be read back from its digits. -/
theorem ofNat_injective
    {first second : Nat}
    (same : ofNat first = ofNat second) :
    first = second := by
  have readBack := congrArg (fun digits => Nat.ofDigitChars 10 digits 0) same
  simpa [ofNat] using readBack

end StyledMarkup.Text
