/-
  File:      IppPrinterApp/Lib/Recency.lean
  Subject:   Lists with the latest entry in front, and values aligned to a prefix of them.

  `touch a l` moves `a` to the front of `l`, or puts it there. Over any sequence of touches
  (`touchAll`) a list without repetition stays one, its members are the old ones and the touched
  ones, the last one touched is in front, and what was not touched keeps its order.

  The values of the entries may stand in a second list that is index-aligned with the first one
  and may be shorter. `forget a` takes the first `a` out of the one list, and its value, if it has
  one, out of the other: every other entry keeps its value (`filter_zip_forget`), and those without
  a value stay without (`filter_drop_forget`).
-/
import Mathlib.Data.List.Nodup
import Mathlib.Data.List.Zip
import Mathlib.Data.List.Infix

namespace Recency

variable {α β : Type*} [DecidableEq α]

/-! ## 1. Touching -/

/-- `a` in front, and nowhere else if it stood there once. -/
def touch (a : α) (l : List α) : List α := a :: l.erase a

/-- One touch after the other. -/
def touchAll (l : List α) (as : List α) : List α := as.foldl (fun l a => touch a l) l

section Touch

variable {a b : α} {l as : List α}

theorem mem_touch_iff : b ∈ touch a l ↔ b = a ∨ b ∈ l := by
  unfold touch
  rw [List.mem_cons]
  by_cases h : b = a
  · simp [h]
  · simp [h, List.mem_erase_of_ne h]

theorem nodup_touch (h : l.Nodup) : (touch a l).Nodup :=
  List.nodup_cons.mpr ⟨fun hm => (h.mem_erase_iff.mp hm).1 rfl, h.erase a⟩

/-- What is in front stays in front. -/
theorem touch_of_head (h : l.head? = some a) : touch a l = l := by
  obtain ⟨l', rfl⟩ := List.head?_eq_some_iff.mp h
  unfold touch
  rw [List.erase_cons_head]

theorem touch_eq_filter (h : l.Nodup) : touch a l = a :: l.filter (· ≠ a) := by
  unfold touch
  rw [h.erase_eq_filter]
  congr 1
  refine List.filter_congr fun x _ => ?_
  by_cases hx : x = a <;> simp [hx]

theorem nodup_touchAll (h : l.Nodup) : (touchAll l as).Nodup := by
  induction as generalizing l with
  | nil => exact h
  | cons a as ih => exact ih (nodup_touch h)

theorem mem_touchAll_iff : b ∈ touchAll l as ↔ b ∈ l ∨ b ∈ as := by
  induction as generalizing l with
  | nil => simp [touchAll]
  | cons a as ih =>
      have hstep := ih (l := touch a l)
      rw [mem_touch_iff] at hstep
      refine hstep.trans ?_
      rw [List.mem_cons]
      tauto

theorem touchAll_concat : touchAll l (as ++ [a]) = touch a (touchAll l as) := by
  simp [touchAll]

/-- **The last one touched is in front.** -/
theorem head_touchAll (h : as ≠ []) : (touchAll l as).head? = as.getLast? := by
  obtain ⟨bs, b, rfl⟩ := List.eq_nil_or_concat' as |>.resolve_left h
  rw [touchAll_concat, List.getLast?_concat]
  rfl

/-- **What was not touched keeps its order**, behind everything that was. -/
theorem filter_suffix_touchAll (h : l.Nodup) : l.filter (· ∉ as) <:+ touchAll l as := by
  induction as generalizing l with
  | nil => simp [touchAll]
  | cons a as ih =>
      have hlater := ih (nodup_touch (a := a) h)
      have hsplit : l.filter (· ∉ a :: as) = (l.filter (· ≠ a)).filter (· ∉ as) := by
        rw [List.filter_filter]
        refine List.filter_congr fun x _ => ?_
        simp [Bool.and_comm]
      have hmoved : (l.filter (· ≠ a)).filter (· ∉ as) <:+ (touch a l).filter (· ∉ as) := by
        rw [touch_eq_filter h, List.filter_cons]
        split
        · exact List.suffix_cons _ _
        · exact List.suffix_refl _
      rw [hsplit]
      exact hmoved.trans hlater

end Touch

/-! ## 2. Values aligned to a prefix -/

/-- The first `a` taken out, with its value where it has one. -/
def forget (a : α) (ks : List α) (vs : List β) : List α × List β :=
  match ks.findIdx? (· == a) with
  | some i => (ks.eraseIdx i, if i < vs.length then vs.eraseIdx i else vs)
  | none => (ks, vs)

section Aligned

variable {a k : α} {v : β}

theorem forget_nil (a : α) (vs : List β) : forget a [] vs = ([], vs) := rfl

theorem forget_cons_self (a : α) (ks : List α) (vs : List β) :
    forget a (a :: ks) vs = (ks, vs.tail) := by
  unfold forget
  rw [List.findIdx?_cons, beq_self_eq_true]
  cases vs <;> rfl

theorem forget_cons_ne (h : k ≠ a) (ks : List α) (vs : List β) :
    forget a (k :: ks) vs =
      (k :: (forget a ks vs.tail).1, vs.take 1 ++ (forget a ks vs.tail).2) := by
  unfold forget
  rw [List.findIdx?_cons, beq_eq_false_iff_ne.mpr h]
  cases ks.findIdx? (· == a) with
  | none => cases vs <;> rfl
  | some i =>
      cases vs with
      | nil => rfl
      | cons v vs =>
          by_cases hi : i < vs.length
          · simp [hi]
          · simp [hi]

/-- Without values there is none to drop. -/
theorem forget_values_nil (a : α) (ks : List α) : (forget a ks ([] : List β)).2 = [] := by
  unfold forget
  cases ks.findIdx? (· == a) with
  | none => rfl
  | some i => rfl

theorem forget_keys (a : α) (ks : List α) (vs : List β) : (forget a ks vs).1 = ks.erase a := by
  induction ks generalizing vs with
  | nil => rfl
  | cons k ks ih =>
      by_cases h : k = a
      · rw [h, forget_cons_self, List.erase_cons_head]
      · rw [forget_cons_ne h, List.erase_cons_tail (by simpa using h), ih]

/-- **Every other entry keeps its value.** -/
theorem filter_zip_forget (a : α) (ks : List α) (vs : List β) :
    ((forget a ks vs).1.zip (forget a ks vs).2).filter (·.1 ≠ a) =
      (ks.zip vs).filter (·.1 ≠ a) := by
  induction ks generalizing vs with
  | nil => rfl
  | cons k ks ih =>
      by_cases h : k = a
      · subst h
        rw [forget_cons_self]
        cases vs with
        | nil => simp
        | cons v vs => simp
      · rw [forget_cons_ne h]
        cases vs with
        | nil => simp [forget_values_nil]
        | cons v vs =>
            have hrest := ih vs
            simpa [h] using hrest

/-- **An entry without a value stays one**, and no other becomes one. -/
theorem filter_drop_forget (a : α) (ks : List α) (vs : List β) :
    ((forget a ks vs).1.drop (forget a ks vs).2.length).filter (· ≠ a) =
      (ks.drop vs.length).filter (· ≠ a) := by
  induction ks generalizing vs with
  | nil => simp [forget_nil]
  | cons k ks ih =>
      by_cases h : k = a
      · subst h
        rw [forget_cons_self]
        cases vs with
        | nil => simp
        | cons v vs => simp
      · rw [forget_cons_ne h]
        cases vs with
        | nil =>
            have hrest := ih []
            rw [forget_values_nil] at hrest
            simpa [forget_values_nil, h] using hrest
        | cons v vs =>
            have hrest := ih vs
            simpa [h] using hrest

/-- The values never outnumber the entries, and stay as many if they were. -/
theorem length_forget (a : α) {ks : List α} {vs : List β} (h : vs.length ≤ ks.length) :
    (forget a ks vs).2.length ≤ (forget a ks vs).1.length ∧
      (vs.length = ks.length → (forget a ks vs).2.length = (forget a ks vs).1.length) := by
  induction ks generalizing vs with
  | nil => exact ⟨h, id⟩
  | cons k ks ih =>
      by_cases hk : k = a
      · subst hk
        rw [forget_cons_self, List.length_tail]
        simp only [List.length_cons] at h ⊢
        omega
      · rw [forget_cons_ne hk]
        cases vs with
        | nil => simp [forget_values_nil]
        | cons v vs =>
            have hvs : vs.length ≤ ks.length := Nat.le_of_succ_le_succ h
            obtain ⟨hle, heq⟩ := ih hvs
            simpa [Nat.add_comm 1] using And.intro hle heq

end Aligned

end Recency
