/-
  File:      IppPrinterApp/Lib/Ascii.lean
  Subject:   ASCII letters and digits, by their codes.

  The tests of the standard library and its lower case, as statements on `Char.toNat`.

  * `isUpper_iff_toNat`, `isLower_iff_toNat`, … -- the classes as ranges of codes;
  * `toNat_toLower` -- lower case moves the capital letters and nothing else;
  * `isAlphanum_toLower`, `lower_or_digit_toLower`, `toLower_of_lower_or_digit` -- what it keeps,
    what it leaves, and what it leaves alone.
-/
import Mathlib.Data.Nat.Basic

namespace Ascii

/-! ## Classes -/

theorem isUpper_iff_toNat (c : Char) : c.isUpper = true ↔ 65 ≤ c.toNat ∧ c.toNat ≤ 90 := by
  have h : c.isUpper = decide (c.val ≥ 'A'.val ∧ c.val ≤ 'Z'.val) := rfl
  simp [h, UInt32.le_iff_toNat_le]

theorem isLower_iff_toNat (c : Char) : c.isLower = true ↔ 97 ≤ c.toNat ∧ c.toNat ≤ 122 := by
  have h : c.isLower = (decide (c.val ≥ 'a'.val) && decide (c.val ≤ 'z'.val)) := rfl
  simp [h, UInt32.le_iff_toNat_le]

theorem isDigit_iff_toNat (c : Char) : c.isDigit = true ↔ 48 ≤ c.toNat ∧ c.toNat ≤ 57 :=
  Char.isDigit_iff_toNat

theorem isAlphanum_iff_toNat (c : Char) :
    c.isAlphanum = true ↔ 48 ≤ c.toNat ∧ c.toNat ≤ 57 ∨ 65 ≤ c.toNat ∧ c.toNat ≤ 90 ∨
      97 ≤ c.toNat ∧ c.toNat ≤ 122 := by
  unfold Char.isAlphanum Char.isAlpha
  rw [Bool.or_eq_true, Bool.or_eq_true, isUpper_iff_toNat, isLower_iff_toNat, isDigit_iff_toNat]
  omega

/-! ## Lower case -/

theorem toNat_toLower (c : Char) :
    c.toLower.toNat = if 65 ≤ c.toNat ∧ c.toNat ≤ 90 then c.toNat + 32 else c.toNat := by
  by_cases h : 65 ≤ c.toNat ∧ c.toNat ≤ 90
  · have h' : c.val ≥ 'A'.val ∧ c.val ≤ 'Z'.val := h
    have hadd : (c.val + 32).toNat = c.val.toNat + 32 := by
      rw [UInt32.toNat_add]
      have hle : c.val.toNat ≤ 90 := h.2
      exact Nat.mod_eq_of_lt (show c.val.toNat + 32 < 4294967296 by omega)
    rw [if_pos h]
    unfold Char.toLower
    rw [dif_pos h']
    exact hadd
  · have h' : ¬(c.val ≥ 'A'.val ∧ c.val ≤ 'Z'.val) := h
    rw [if_neg h]
    unfold Char.toLower
    rw [dif_neg h']

/-- Lower case keeps what is a letter or a digit. -/
theorem isAlphanum_toLower (c : Char) : c.toLower.isAlphanum = c.isAlphanum := by
  rw [Bool.eq_iff_iff, isAlphanum_iff_toNat, isAlphanum_iff_toNat, toNat_toLower]
  split <;> omega

/-- What lower case leaves of a letter or a digit. -/
theorem lower_or_digit_toLower {c : Char} (h : c.isAlphanum = true) :
    c.toLower.isLower = true ∨ c.toLower.isDigit = true := by
  rw [isAlphanum_iff_toNat] at h
  rw [isLower_iff_toNat, isDigit_iff_toNat, toNat_toLower]
  split <;> omega

theorem toLower_of_lower_or_digit {c : Char} (h : c.isLower = true ∨ c.isDigit = true) :
    c.toLower = c := by
  rw [isLower_iff_toNat, isDigit_iff_toNat] at h
  rw [← Char.toNat_inj, toNat_toLower, if_neg (by omega)]

theorem isAlphanum_of_lower_or_digit {c : Char} (h : c.isLower = true ∨ c.isDigit = true) :
    c.isAlphanum = true := by
  rw [isLower_iff_toNat, isDigit_iff_toNat] at h
  rw [isAlphanum_iff_toNat]
  omega

end Ascii
