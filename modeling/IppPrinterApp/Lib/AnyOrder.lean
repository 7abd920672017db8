/-
  File:      IppPrinterApp/Lib/AnyOrder.lean
  Subject:   The first hit in collections that come in no particular order.

  A search takes the first element that a partial function makes something of. Where the order of
  the elements is not the program's to choose, the result is the program's only if every order
  gives the same one.

  * `findSome?_perm` -- a collection whose hits all agree is searched in any order;
  * `firstHit_eq_iff` -- **of collections searched one after the other: the result is the same in
    every order exactly if the first collection with a hit has hits that agree** (`Decided`);
  * `firstHit_of_only` -- hits that all agree, wherever they are.
-/
import Mathlib.Data.List.Basic
import Mathlib.Data.List.Forall2

namespace AnyOrder

variable {α β : Type*} {f : α → Option β}

/-! ## One collection -/

/-- All hits of a collection are the same. -/
def Agree (f : α → Option β) (l : List α) : Prop :=
  ∀ a ∈ l, ∀ b ∈ l, ∀ x y, f a = some x → f b = some y → x = y

/-- Whether there is a hit does not depend on the order. -/
theorem findSome?_eq_none_perm {l l' : List α} (h : l.Perm l') :
    l.findSome? f = none ↔ l'.findSome? f = none := by
  rw [List.findSome?_eq_none_iff, List.findSome?_eq_none_iff]
  exact forall_congr' fun a => imp_congr_left h.mem_iff

/-- **Hits that agree** are found in any order. -/
theorem findSome?_perm {l l' : List α} (ha : Agree f l) (h : l.Perm l') :
    l.findSome? f = l'.findSome? f := by
  cases hx : l.findSome? f with
  | none => exact ((findSome?_eq_none_perm h).mp hx).symm
  | some x =>
      cases hy : l'.findSome? f with
      | none =>
          rw [(findSome?_eq_none_perm h).mpr hy] at hx
          cases hx
      | some y =>
          obtain ⟨a, ham, hfa⟩ := List.exists_of_findSome?_eq_some hx
          obtain ⟨b, hbm, hfb⟩ := List.exists_of_findSome?_eq_some hy
          rw [ha a ham b (h.mem_iff.mpr hbm) x y hfa hfb]

/-! ## Collections one after the other -/

/-- The first hit, collection by collection. -/
def firstHit (f : α → Option β) (ls : List (List α)) : Option β := ls.findSome? fun l => l.findSome? f

/-- The same collections, each in some order. -/
def Reordered (ls ls' : List (List α)) : Prop := List.Forall₂ List.Perm ls ls'

/-- In the first collection with a hit, all hits are the same. -/
def Decided (f : α → Option β) (ls : List (List α)) : Prop :=
  ∀ before l after, ls = before ++ l :: after → (∀ k ∈ before, ∀ a ∈ k, f a = none) → Agree f l

theorem Decided.head {l : List α} {ls : List (List α)} (h : Decided f (l :: ls)) : Agree f l :=
  h [] l ls rfl fun _ hk => absurd hk List.not_mem_nil

/-- What is decided without the first collection, if it has no hit. -/
theorem Decided.tail {l : List α} {ls : List (List α)} (h : Decided f (l :: ls))
    (hl : ∀ a ∈ l, f a = none) : Decided f ls := by
  intro before k after hls hbefore
  refine h (l :: before) k after (by rw [hls]; rfl) fun m hm => ?_
  rcases List.mem_cons.mp hm with rfl | hm
  · exact hl
  · exact hbefore m hm

theorem firstHit_cons_some {l : List α} {x : β} (h : l.findSome? f = some x) (ls : List (List α)) :
    firstHit f (l :: ls) = some x := by
  unfold firstHit
  rw [List.findSome?_cons, h]

theorem firstHit_cons_none {l : List α} (h : l.findSome? f = none) (ls : List (List α)) :
    firstHit f (l :: ls) = firstHit f ls := by
  unfold firstHit
  rw [List.findSome?_cons, h]

/-- Collections without a hit are passed over. -/
theorem firstHit_append {before : List (List α)} (h : ∀ k ∈ before, ∀ a ∈ k, f a = none)
    (ls : List (List α)) : firstHit f (before ++ ls) = firstHit f ls := by
  induction before with
  | nil => rfl
  | cons k before ih =>
      have hk : k.findSome? f = none := List.findSome?_eq_none_iff.mpr (h k List.mem_cons_self)
      rw [List.cons_append, firstHit_cons_none hk]
      exact ih fun m hm => h m (List.mem_cons_of_mem k hm)

theorem firstHit_eq_none_iff {ls : List (List α)} :
    firstHit f ls = none ↔ ∀ l ∈ ls, ∀ a ∈ l, f a = none := by
  unfold firstHit
  rw [List.findSome?_eq_none_iff]
  exact forall₂_congr fun l _ => List.findSome?_eq_none_iff

/-- Whether there is a hit does not depend on the order. -/
theorem firstHit_eq_none_reordered {ls ls' : List (List α)} (h : Reordered ls ls') :
    firstHit f ls = none ↔ firstHit f ls' = none := by
  rw [firstHit_eq_none_iff, firstHit_eq_none_iff]
  induction h with
  | nil => exact Iff.rfl
  | cons hp _ ih =>
      rw [List.forall_mem_cons, List.forall_mem_cons]
      exact and_congr (forall_congr' fun a => imp_congr_left hp.mem_iff) ih

/-- **What is decided is found in any order.** -/
theorem firstHit_reordered {ls ls' : List (List α)} (hd : Decided f ls) (h : Reordered ls ls') :
    firstHit f ls = firstHit f ls' := by
  induction h with
  | nil => rfl
  | @cons l l' ls ls' hp _ ih =>
      have hl := findSome?_perm hd.head hp
      cases hx : l.findSome? f with
      | none =>
          rw [firstHit_cons_none hx, firstHit_cons_none (hl ▸ hx)]
          exact ih (hd.tail (List.findSome?_eq_none_iff.mp hx))
      | some x => rw [firstHit_cons_some hx, firstHit_cons_some (hl ▸ hx)]

/-- Any hit of the first collection with hits may come first. -/
theorem exists_reordered {before : List (List α)} (after : List (List α)) {l : List α}
    (hbefore : ∀ k ∈ before, ∀ a ∈ k, f a = none) {a : α} (ha : a ∈ l) {x : β} (hx : f a = some x) :
    ∃ ls, Reordered (before ++ l :: after) ls ∧ firstHit f ls = some x := by
  obtain ⟨s, t, rfl⟩ := List.append_of_mem ha
  refine ⟨before ++ (a :: (s ++ t)) :: after, ?_, ?_⟩
  · exact List.rel_append (List.forall₂_same.mpr fun k _ => List.Perm.refl k)
      (.cons List.perm_middle (List.forall₂_same.mpr fun k _ => List.Perm.refl k))
  · rw [firstHit_append hbefore]
    refine firstHit_cons_some ?_ after
    rw [List.findSome?_cons, hx]

/-- **The result is the same in every order exactly if it is decided.** -/
theorem firstHit_eq_iff {ls : List (List α)} :
    (∀ ls₁ ls₂, Reordered ls ls₁ → Reordered ls ls₂ → firstHit f ls₁ = firstHit f ls₂) ↔
      Decided f ls := by
  constructor
  · intro h before l after hls hbefore a ha b hb x y hx hy
    subst hls
    obtain ⟨ls₁, h₁, e₁⟩ := exists_reordered after hbefore ha hx
    obtain ⟨ls₂, h₂, e₂⟩ := exists_reordered after hbefore hb hy
    have e := h ls₁ ls₂ h₁ h₂
    rw [e₁, e₂] at e
    exact Option.some.inj e
  · intro hd ls₁ ls₂ h₁ h₂
    rw [← firstHit_reordered hd h₁, ← firstHit_reordered hd h₂]

/-- Hits that are all the same, and one at least. -/
theorem firstHit_of_only {ls : List (List α)} {x : β} (hm : ∃ l ∈ ls, ∃ a ∈ l, f a = some x)
    (hall : ∀ l ∈ ls, ∀ a ∈ l, ∀ y, f a = some y → y = x) : firstHit f ls = some x := by
  cases hf : firstHit f ls with
  | none =>
      obtain ⟨l, hl, a, ha, hx⟩ := hm
      rw [firstHit_eq_none_iff.mp hf l hl a ha] at hx
      cases hx
  | some y =>
      obtain ⟨l, hl, hy⟩ := List.exists_of_findSome?_eq_some hf
      obtain ⟨a, ha, hy⟩ := List.exists_of_findSome?_eq_some hy
      rw [hall l hl a ha y hy]

end AnyOrder
