/-
  File:      IppPrinterApp/Lib/FirstMatch.lean
  Subject:   Updating the first element of a list that passes a test.

  A mutable vector searched with a predicate and changed in place at the first hit is, as a
  value, `updateFirst p f`: the first element with `p` becomes `f` of itself, the rest stays,
  and a list without a hit is left alone. Nothing here knows what the elements are.

  * `updateFirst_eq_modify` -- it is the library's `List.modify` at `List.findIdx p`, so the
    position-wise reading `getElem?_updateFirst` follows;
  * `map_updateFirst`, `findIdx_updateFirst`, `find?_updateFirst` -- what an update that keeps a
    key, keeps a test, or is asked for again with its own test leaves standing;
  * `filter_updateFirst`, `filter_updateFirst_miss`, `find?_filter_of_hit` -- an update whose hit
    survives a filter commutes with the filter, one whose hit is dropped is not seen through it,
    and a hit that survives is found behind it;
  * `updateFirst_append`, `find?_append_hit` -- a hit behind elements without one.
-/
import Mathlib.Data.List.Basic

namespace FirstMatch

variable {α β : Type*}

/-- `f` applied to the first element with `p`. -/
def updateFirst (p : α → Bool) (f : α → α) : List α → List α
  | [] => []
  | a :: l => if p a then f a :: l else a :: updateFirst p f l

variable {p q : α → Bool} {f : α → α}

theorem updateFirst_eq_modify (l : List α) : updateFirst p f l = l.modify (l.findIdx p) f := by
  induction l with
  | nil => rfl
  | cons a l ih =>
      cases h : p a with
      | true => simp [updateFirst, h, List.findIdx_cons]
      | false => simp [updateFirst, h, List.findIdx_cons, ih]

/-- **Position by position**: the slot of the first hit is updated, every other one is kept. -/
theorem getElem?_updateFirst (l : List α) (k : Nat) :
    (updateFirst p f l)[k]? = if l.findIdx p = k then l[k]?.map f else l[k]? := by
  rw [updateFirst_eq_modify, List.getElem?_modify]
  by_cases h : l.findIdx p = k
  · simp only [h, ↓reduceIte]
    rfl
  · simp [h]

@[simp] theorem length_updateFirst (l : List α) : (updateFirst p f l).length = l.length := by
  rw [updateFirst_eq_modify, List.length_modify]

/-- A list without a hit is left alone. -/
theorem updateFirst_eq_self {l : List α} (h : ∀ x ∈ l, p x = false) : updateFirst p f l = l := by
  induction l with
  | nil => rfl
  | cons a l ih =>
      have ha : p a = false := h a List.mem_cons_self
      have hl := ih fun x hx => h x (List.mem_cons_of_mem a hx)
      simp [updateFirst, ha, hl]

/-- A key the update keeps is kept in every position. -/
theorem map_updateFirst {g : α → β} (hg : ∀ x, g (f x) = g x) (l : List α) :
    (updateFirst p f l).map g = l.map g := by
  induction l with
  | nil => rfl
  | cons a l ih =>
      cases h : p a with
      | true => simp [updateFirst, h, hg]
      | false => simp [updateFirst, h, ih]

/-- A test the update keeps finds its first hit where it found it before. -/
theorem findIdx_updateFirst (hq : ∀ x, q (f x) = q x) (l : List α) :
    (updateFirst p f l).findIdx q = l.findIdx q := by
  induction l with
  | nil => rfl
  | cons a l ih =>
      cases h : p a with
      | true => simp [updateFirst, h, List.findIdx_cons, hq]
      | false => simp [updateFirst, h, List.findIdx_cons, ih]

/-- What the updating test finds afterwards is the updated hit. -/
theorem find?_updateFirst (hp : ∀ x, p (f x) = p x) (l : List α) :
    (updateFirst p f l).find? p = (l.find? p).map f := by
  induction l with
  | nil => rfl
  | cons a l ih =>
      cases h : p a with
      | true => simp [updateFirst, h, hp]
      | false => simp [updateFirst, h, ih]

/-- A test that no hit and no updated hit passes finds what it found before. -/
theorem find?_updateFirst_other (h₁ : ∀ x, p x = true → q x = false)
    (h₂ : ∀ x, p x = true → q (f x) = false) (l : List α) :
    (updateFirst p f l).find? q = l.find? q := by
  induction l with
  | nil => rfl
  | cons a l ih =>
      cases h : p a with
      | true => simp [updateFirst, h, h₁ a h, h₂ a h]
      | false =>
          cases hqa : q a with
          | true => simp [updateFirst, h, hqa]
          | false => simp [updateFirst, h, hqa, ih]

/-- **An update whose hit survives a filter commutes with it.** -/
theorem filter_updateFirst (hq : ∀ x, q (f x) = q x) (l : List α)
    (hit : ∀ x, l.find? p = some x → q x = true) :
    (updateFirst p f l).filter q = updateFirst p f (l.filter q) := by
  induction l with
  | nil => rfl
  | cons a l ih =>
      cases h : p a with
      | true =>
          have ha : q a = true := hit a (by simp [h])
          simp [updateFirst, h, ha, hq]
      | false =>
          have ihl := ih fun x hx => hit x (by simpa [h] using hx)
          cases hqa : q a with
          | true => simp [updateFirst, h, hqa, ihl]
          | false => simp [updateFirst, h, hqa, ihl]

/-- An update whose hit a filter drops, before and after, is not seen through the filter. -/
theorem filter_updateFirst_miss (hq : ∀ x, q (f x) = q x) (l : List α)
    (hit : ∀ x, l.find? p = some x → q x = false) :
    (updateFirst p f l).filter q = l.filter q := by
  induction l with
  | nil => rfl
  | cons a l ih =>
      cases h : p a with
      | true =>
          have ha : q a = false := hit a (by simp [h])
          simp [updateFirst, h, ha, hq]
      | false =>
          have ihl := ih fun x hx => hit x (by simpa [h] using hx)
          cases hqa : q a with
          | true => simp [updateFirst, h, hqa, ihl]
          | false => simp [updateFirst, h, hqa, ihl]

/-- A hit that survives a filter, or none, is what is found behind the filter too. -/
theorem find?_filter_of_hit {l : List α} (hit : ∀ x, l.find? p = some x → q x = true) :
    (l.filter q).find? p = l.find? p := by
  induction l with
  | nil => rfl
  | cons a l ih =>
      cases h : p a with
      | true =>
          have ha : q a = true := hit a (by simp [h])
          simp [h, ha]
      | false =>
          have ihl := ih fun x hx => hit x (by simpa [h] using hx)
          rw [List.find?_cons_of_neg (by simp [h]), ← ihl]
          cases hqa : q a with
          | true => simp [hqa, h]
          | false => simp [hqa]

/-- A position with a hit and none before it is the one found. -/
theorem findIdx_eq_of_first {l : List α} {k : Nat} {x : α} (hk : l[k]? = some x) (hx : p x = true)
    (hbefore : ∀ i y, i < k → l[i]? = some y → p y = false) : l.findIdx p = k := by
  obtain ⟨hlt, rfl⟩ := List.getElem?_eq_some_iff.mp hk
  refine (List.findIdx_eq hlt).mpr ⟨hx, fun j hj => ?_⟩
  exact hbefore j _ hj (List.getElem?_eq_getElem (by omega))

/-- A hit behind elements without one is the element that is updated, and found. -/
theorem updateFirst_append {l m : List α} {a : α} (hl : ∀ x ∈ l, p x = false) (ha : p a = true) :
    updateFirst p f (l ++ a :: m) = l ++ f a :: m := by
  induction l with
  | nil => simp [updateFirst, ha]
  | cons x l ih =>
      have hx : p x = false := hl x List.mem_cons_self
      have ih' := ih fun y hy => hl y (List.mem_cons_of_mem x hy)
      simp [updateFirst, hx, ih']

theorem find?_append_hit {l m : List α} {a : α} (hl : ∀ x ∈ l, p x = false) (ha : p a = true) :
    (l ++ a :: m).find? p = some a := by
  rw [List.find?_append, List.find?_eq_none.mpr fun x hx => by rw [hl x hx]; exact Bool.false_ne_true,
    List.find?_cons_of_pos ha, Option.none_or]

end FirstMatch
