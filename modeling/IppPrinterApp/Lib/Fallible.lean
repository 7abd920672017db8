/-
  File:      IppPrinterApp/Lib/Fallible.lean
  Subject:   Computations that return a value or an error, and lists of them.

  `Returns e` says that the computation `e` ends in a value. A traversal of a list returns
  exactly when every one of its elements does:

  * `mapM_ok_iff`, `returns_mapM_iff` -- for `List.mapM`, with and without the values;
  * `returns_foldlM_iff` -- for a fold whose steps fail only at their elements;
  * `mapM_map_eq` -- what is done to every value can be done to the list of them.
-/
import Mathlib.Data.List.Forall2

namespace Fallible

variable {ε : Type*} {α β γ : Type}

/-- The computation ends in a value. -/
def Returns (e : Except ε α) : Prop := ∃ a, e = .ok a

@[simp] theorem returns_ok (a : α) : Returns (.ok a : Except ε α) := ⟨a, rfl⟩

@[simp] theorem not_returns_error (err : ε) : ¬ Returns (.error err : Except ε α) :=
  fun ⟨_, h⟩ => by cases h

theorem ok_of_toOption {e : Except ε α} {a : α} (h : e.toOption = some a) : e = .ok a := by
  cases e with
  | error err => cases h
  | ok b => exact congrArg Except.ok (Option.some.inj h)

@[simp] theorem returns_map_iff {f : α → β} {e : Except ε α} : Returns (e.map f) ↔ Returns e := by
  cases e with
  | error err => exact ⟨fun ⟨_, h⟩ => (by cases h), fun ⟨_, h⟩ => (by cases h)⟩
  | ok a => exact ⟨fun _ => ⟨a, rfl⟩, fun _ => ⟨f a, rfl⟩⟩

theorem returns_bind_iff {f : α → Except ε β} {e : Except ε α} :
    Returns (e >>= f) ↔ ∃ a, e = .ok a ∧ Returns (f a) := by
  cases e with
  | error err => exact ⟨fun ⟨_, h⟩ => (by cases h), fun ⟨_, h, _⟩ => (by cases h)⟩
  | ok a =>
      constructor
      · exact fun h => ⟨a, rfl, h⟩
      · rintro ⟨a', h, hr⟩
        cases h
        exact hr

theorem bind_ok {f : α → Except ε β} {e : Except ε α} {b : β} (h : e >>= f = .ok b) :
    ∃ a, e = .ok a ∧ f a = .ok b := by
  cases e with
  | error err => cases h
  | ok a => exact ⟨a, rfl, h⟩

theorem returns_bind_pure_iff {g : α → β} {e : Except ε α} :
    Returns (e >>= fun a => pure (g a)) ↔ Returns e := by
  rw [returns_bind_iff]
  exact ⟨fun ⟨a, ha, _⟩ => ⟨a, ha⟩, fun ⟨a, ha⟩ => ⟨a, ha, returns_ok _⟩⟩

/-- **What a traversal returns**, element by element. -/
theorem mapM_ok_iff {f : α → Except ε β} {l : List α} {bs : List β} :
    l.mapM f = .ok bs ↔ List.Forall₂ (fun a b => f a = .ok b) l bs := by
  induction l generalizing bs with
  | nil =>
      rw [List.mapM_nil]
      constructor
      · intro h
        cases h
        exact .nil
      · intro h
        cases h
        rfl
  | cons a l ih =>
      rw [List.mapM_cons]
      constructor
      · intro h
        cases ha : f a with
        | error err => rw [ha] at h; cases h
        | ok b =>
            cases hl : l.mapM f with
            | error err => rw [ha, hl] at h; cases h
            | ok bs' =>
                rw [ha, hl] at h
                cases h
                exact .cons ha (ih.mp hl)
      · intro h
        cases h with
        | cons ha hl =>
            rw [ha, ih.mpr hl]
            rfl

/-- What stands in the second list goes with something in the first. -/
theorem exists_of_forall₂ {R : α → β → Prop} {l : List α} {bs : List β} (h : List.Forall₂ R l bs)
    {b : β} (hb : b ∈ bs) : ∃ a ∈ l, R a b := by
  induction h with
  | nil => cases hb
  | cons hab _ ih =>
      rcases List.mem_cons.mp hb with rfl | hb
      · exact ⟨_, List.mem_cons_self, hab⟩
      · obtain ⟨a, ha, hr⟩ := ih hb
        exact ⟨a, List.mem_cons_of_mem _ ha, hr⟩

theorem returns_mapM_iff {f : α → Except ε β} {l : List α} :
    Returns (l.mapM f) ↔ ∀ a ∈ l, Returns (f a) := by
  induction l with
  | nil => exact ⟨fun _ a ha => absurd ha List.not_mem_nil, fun _ => ⟨[], rfl⟩⟩
  | cons a l ih =>
      rw [List.mapM_cons, returns_bind_iff, List.forall_mem_cons, ← ih]
      constructor
      · rintro ⟨b, ha, hr⟩
        obtain ⟨bs, hl, _⟩ := returns_bind_iff.mp hr
        exact ⟨⟨b, ha⟩, bs, hl⟩
      · rintro ⟨⟨b, ha⟩, bs, hl⟩
        exact ⟨b, ha, returns_bind_iff.mpr ⟨bs, hl, b :: bs, rfl⟩⟩

/-- **What is done to every value** of a traversal can be done afterwards. -/
theorem mapM_map_eq {f f' : α → Except ε β} {g : β → β} {l : List α}
    (h : ∀ a ∈ l, f' a = (f a).map g) : l.mapM f' = (l.mapM f).map (List.map g) := by
  induction l with
  | nil => rfl
  | cons a l ih =>
      rw [List.forall_mem_cons] at h
      rw [List.mapM_cons, List.mapM_cons, h.1, ih h.2]
      cases f a with
      | error err => rfl
      | ok b => cases l.mapM f <;> rfl

/-- A fold whose steps compute something at the element and then go on. -/
theorem returns_foldlM_iff {f : α → Except ε β} {g : γ → α → β → γ} {l : List α}
    {c : γ} :
    Returns (l.foldlM (fun c a => (f a).map (g c a)) c) ↔ ∀ a ∈ l, Returns (f a) := by
  induction l generalizing c with
  | nil => exact ⟨fun _ a ha => absurd ha List.not_mem_nil, fun _ => ⟨c, rfl⟩⟩
  | cons a l ih =>
      rw [List.foldlM_cons, returns_bind_iff, List.forall_mem_cons]
      constructor
      · rintro ⟨c', hc, hr⟩
        exact ⟨returns_map_iff.mp ⟨c', hc⟩, ih.mp hr⟩
      · rintro ⟨ha, hl⟩
        obtain ⟨c', hc⟩ := (returns_map_iff (f := g c a)).mpr ha
        exact ⟨c', hc, ih.mpr hl⟩

end Fallible
