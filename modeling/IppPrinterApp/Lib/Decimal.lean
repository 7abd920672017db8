/-
  File:      IppPrinterApp/Lib/Decimal.lean
  Subject:   Decimal numbers inside texts.

  A number printed into a text is read back as the longest stretch of digits; what follows it has
  to start with something else. A text made of pieces is read from its last piece.

  * `readNat_repr` -- **a printed number is read back**, with what follows it;
  * `afterLast_append` -- the last piece of a text.
-/
import Mathlib.Data.List.Basic

namespace Decimal

/-! ## Numbers -/

/-- A number at the start of a text: its value, and the text after it. -/
def readNat (s : List Char) : Option (Nat × List Char) :=
  match s.takeWhile Char.isDigit with
  | [] => none
  | ds => some (Nat.ofDigitChars 10 ds 0, s.dropWhile Char.isDigit)

theorem isDigit_of_mem_repr {n : Nat} {c : Char} (h : c ∈ n.repr.toList) : c.isDigit = true := by
  rw [Nat.toList_repr] at h
  exact Nat.isDigit_of_mem_toDigits (by decide) (by decide) h

theorem repr_toList_ne_nil (n : Nat) : n.repr.toList ≠ [] := by
  rw [Nat.toList_repr]
  exact Nat.toDigits_ne_nil

/-- **A printed number is read back.** -/
theorem readNat_repr (n : Nat) {rest : List Char} (h : ∀ c ∈ rest.head?, c.isDigit = false) :
    readNat (n.repr.toList ++ rest) = some (n, rest) := by
  have hstop : rest.takeWhile Char.isDigit = [] ∧ rest.dropWhile Char.isDigit = rest := by
    cases rest with
    | nil => exact ⟨rfl, rfl⟩
    | cons c cs =>
        have hc : c.isDigit = false := h c rfl
        exact ⟨by rw [List.takeWhile_cons, hc]; rfl, by rw [List.dropWhile_cons, hc]; rfl⟩
  have hdigits : ∀ c ∈ n.repr.toList, c.isDigit = true := fun c hc => isDigit_of_mem_repr hc
  unfold readNat
  rw [List.takeWhile_append_of_pos hdigits, List.dropWhile_append_of_pos hdigits, hstop.1, hstop.2,
    List.append_nil]
  split
  · rename_i hnil
    exact absurd hnil (repr_toList_ne_nil n)
  · rw [Nat.toList_repr, Nat.ofDigitChars_ten_toDigits]

/-- More digits do not make a number smaller. -/
theorem le_ofDigitChars (cs : List Char) (acc : Nat) : acc ≤ Nat.ofDigitChars 10 cs acc := by
  induction cs generalizing acc with
  | nil => exact Nat.le_of_eq Nat.ofDigitChars_nil.symm
  | cons c cs ih =>
      rw [Nat.ofDigitChars_cons]
      have h := ih (10 * acc + (c.toNat - '0'.toNat))
      omega

/-! ## Pieces -/

section Pieces

variable {α : Type*} [DecidableEq α] {sep : α}

/-- What follows the last separator; the whole list if there is none. -/
def afterLast (sep : α) (xs : List α) : List α := (xs.reverse.takeWhile (· != sep)).reverse

/-- **The last piece** of a list. -/
theorem afterLast_append (xs : List α) {ys : List α} (h : sep ∉ ys) :
    afterLast sep (xs ++ sep :: ys) = ys := by
  have hys : ∀ y ∈ ys.reverse, (y != sep) = true := by
    intro y hy
    rw [List.mem_reverse] at hy
    exact bne_iff_ne.mpr fun e => h (e ▸ hy)
  unfold afterLast
  rw [List.reverse_append, List.reverse_cons, List.append_assoc,
    List.takeWhile_append_of_pos hys, List.singleton_append, List.takeWhile_cons, if_neg (by simp),
    List.append_nil, List.reverse_reverse]

end Pieces

end Decimal
