/-
  File:      IppPrinterApp/Lib/Substitution.lean
  Subject:   Replacing single characters of a text by texts, one kind after the other or at once.

  A replacement is a character and the text it becomes; a table of them can be applied in turn,
  each to the whole of what the last one left, or in one pass over the original.

  * `inTurn_eq` -- **both come to the same if no text contains the character of a later
    replacement**;
  * `starts_of_mem` -- where every image has a marker at most as its first character, each
    marker of the result starts an image;
  * `count_flatMap_marker` -- and there are as many as characters with such an image;
  * `leftInverse_flatMap` -- a decoder that undoes one image at the front undoes a text.
-/
import Mathlib.Data.List.Basic

namespace Substitution

variable {α : Type*}

/-! ## In turn and at once -/

section Table

variable [DecidableEq α]

/-- Every `r.1` of a text becomes `r.2`. -/
def replaceAll (r : α × List α) (s : List α) : List α :=
  s.flatMap fun d => if d = r.1 then r.2 else [d]

/-- The replacements of a table, one after the other. -/
def inTurn (table : List (α × List α)) (s : List α) : List α :=
  table.foldl (fun s r => replaceAll r s) s

/-- What one pass makes of a character: the text of its first replacement, or itself. -/
def image : List (α × List α) → α → List α
  | [], d => [d]
  | r :: table, d => if d = r.1 then r.2 else image table d

/-- What no replacement of a table is about is left alone. -/
theorem image_of_forall_ne {table : List (α × List α)} {d : α} (h : ∀ r ∈ table, r.1 ≠ d) :
    image table d = [d] := by
  induction table with
  | nil => rfl
  | cons r table ih =>
      rw [image, if_neg (Ne.symm (h r List.mem_cons_self)),
        ih fun q hq => h q (List.mem_cons_of_mem _ hq)]

theorem flatMap_image_of_forall_ne {table : List (α × List α)} {s : List α}
    (h : ∀ r ∈ table, r.1 ∉ s) : s.flatMap (image table) = s := by
  induction s with
  | nil => rfl
  | cons d s ih =>
      have hd : image table d = [d] :=
        image_of_forall_ne fun r hr e => h r hr (e ▸ List.mem_cons_self)
      rw [List.flatMap_cons, hd, ih fun r hr hm => h r hr (List.mem_cons_of_mem _ hm)]
      rfl

/-- No text of a table contains the character of a later replacement. -/
def Settled (table : List (α × List α)) : Prop := table.Pairwise fun r q => q.1 ∉ r.2

instance (table : List (α × List α)) : Decidable (Settled table) :=
  inferInstanceAs (Decidable (table.Pairwise fun r q => q.1 ∉ r.2))

/-- **A settled table in turn is a single pass.** -/
theorem inTurn_eq {table : List (α × List α)} (h : Settled table) (s : List α) :
    inTurn table s = s.flatMap (image table) := by
  induction table generalizing s with
  | nil => exact (List.flatMap_singleton' s).symm
  | cons r table ih =>
      obtain ⟨hr, ht⟩ := List.pairwise_cons.mp h
      have himage (d : α) :
          (if d = r.1 then r.2 else [d]).flatMap (image table) = image (r :: table) d := by
        by_cases hd : d = r.1
        · rw [image, if_pos hd, if_pos hd, flatMap_image_of_forall_ne hr]
        · rw [image, if_neg hd, if_neg hd, List.flatMap_singleton]
      calc inTurn (r :: table) s = inTurn table (replaceAll r s) := rfl
        _ = (replaceAll r s).flatMap (image table) := ih ht (replaceAll r s)
        _ = s.flatMap fun d => (if d = r.1 then r.2 else [d]).flatMap (image table) :=
            List.flatMap_assoc
        _ = s.flatMap (image (r :: table)) := by simp only [himage]

end Table

/-! ## Markers -/

section Marker

variable {f : α → List α} {m : α}

/-- Where the marker stands in an image, it stands first. -/
theorem eq_nil_of_marker {l before rest : List α} (hm : m ∉ l.tail) (h : l = before ++ m :: rest) :
    before = [] := by
  cases before with
  | nil => rfl
  | cons b before =>
      rw [h] at hm
      exact absurd (List.mem_append_right before List.mem_cons_self) hm

/-- **Every marker of the result starts an image.** -/
theorem starts_of_mem (hf : ∀ d, m ∉ (f d).tail) {s before rest : List α}
    (h : s.flatMap f = before ++ m :: rest) :
    ∃ d ∈ s, (f d).head? = some m ∧ f d <+: m :: rest := by
  induction s generalizing before with
  | nil => exact absurd h.symm (List.append_ne_nil_of_right_ne_nil before (List.cons_ne_nil m rest))
  | cons d s ih =>
      -- the marker stands in the image of the first character, or after it
      rw [List.flatMap_cons] at h
      have later (after : List α) (h' : s.flatMap f = after ++ m :: rest) :
          ∃ c ∈ d :: s, (f c).head? = some m ∧ f c <+: m :: rest := by
        obtain ⟨c, hc, hcm⟩ := ih h'
        exact ⟨c, List.mem_cons_of_mem d hc, hcm⟩
      rcases List.append_eq_append_iff.mp h with ⟨after, -, hs⟩ | ⟨part, hd, hrest⟩
      · exact later after hs
      · cases part with
        | nil => exact later [] hrest.symm
        | cons p part =>
            obtain ⟨rfl, hr⟩ := List.cons_eq_cons.mp hrest
            have hbefore : before = [] := eq_nil_of_marker (hf d) hd
            rw [hbefore, List.nil_append] at hd
            refine ⟨d, List.mem_cons_self, by rw [hd]; rfl, ?_⟩
            rw [hd, hr]
            exact List.prefix_append (m :: part) _

/-- **There are as many markers as characters whose image starts with one.** -/
theorem count_flatMap_marker [DecidableEq α] (hf : ∀ d, m ∉ (f d).tail) (s : List α) :
    (s.flatMap f).count m = s.countP fun d => (f d).head? = some m := by
  induction s with
  | nil => rfl
  | cons d s ih =>
      have hd : (f d).count m = if (f d).head? = some m then 1 else 0 := by
        cases hfd : f d with
        | nil => rfl
        | cons c rest =>
            have hrest : m ∉ rest := by simpa [hfd] using hf d
            rw [List.count_cons, List.count_eq_zero_of_not_mem hrest]
            simp
      rw [List.flatMap_cons, List.count_append, ih, List.countP_cons, hd, Nat.add_comm]
      simp only [decide_eq_true_eq]

/-- **A decoder that undoes one image at the front undoes a text.** -/
theorem leftInverse_flatMap {g : List α → List α} (hnil : g [] = [])
    (hg : ∀ d rest, g (f d ++ rest) = d :: g rest) (s : List α) : g (s.flatMap f) = s := by
  induction s with
  | nil => exact hnil
  | cons d s ih => rw [List.flatMap_cons, hg, ih]

end Marker

end Substitution
