/-
  File:      IppPrinterApp/Lib/MergeNew.lean
  Subject:   Merging offers into a list, each unless its key is there already.

  A list of entries with a key is extended by working off offers one by one: an offer wants a
  key; if an entry has it, the offer is dropped, otherwise the entry made of it, if any, goes to
  the end. The entries made may have another key than the one wanted (`taken` says which offers
  were taken even so); where they keep it, the keys behave as a set:

  * `prefix_merge` -- nothing is lost or reordered;
  * `merge_eq` -- what is added is what is made of the offers taken, in their order;
  * `nodup_merge`, `mem_keys_merge`, `merge_merge` -- keys stay distinct, the keys afterwards are
    the old ones and those of the offers something is made of, and a second merge of the same
    offers adds nothing.
-/
import Mathlib.Data.List.Basic
import Mathlib.Data.List.Nodup
import Mathlib.Data.List.Infix

namespace MergeNew

variable {α δ κ : Type*} [DecidableEq κ]

/-- One offer. -/
def addNew (key : α → κ) (want : δ → κ) (make : δ → Option α) (known : List α) (d : δ) : List α :=
  if want d ∈ known.map key then known else known ++ (make d).toList

/-- All offers, one after the other. -/
def merge (key : α → κ) (want : δ → κ) (make : δ → Option α) (known : List α) (offers : List δ) :
    List α :=
  offers.foldl (addNew key want make) known

/-- The offers that are taken. -/
def taken (key : α → κ) (want : δ → κ) (make : δ → Option α) : List α → List δ → List δ
  | _, [] => []
  | known, d :: ds =>
    if want d ∈ known.map key then taken key want make known ds
    else
      match make d with
      | none => taken key want make known ds
      | some a => d :: taken key want make (known ++ [a]) ds

section Any

variable {key : α → κ} {want : δ → κ} {make : δ → Option α}

theorem merge_cons (known : List α) (d : δ) (ds : List δ) :
    merge key want make known (d :: ds) =
      merge key want make (addNew key want make known d) ds := rfl

theorem prefix_addNew (known : List α) (d : δ) : known <+: addNew key want make known d := by
  unfold addNew
  split
  · exact List.prefix_rfl
  · exact List.prefix_append known _

/-- **Nothing is lost or reordered.** -/
theorem prefix_merge (known : List α) (ds : List δ) : known <+: merge key want make known ds := by
  induction ds generalizing known with
  | nil => exact List.prefix_rfl
  | cons d ds ih => exact (prefix_addNew known d).trans (ih _)

/-- **What is added** is what is made of the offers taken. -/
theorem merge_eq (known : List α) (ds : List δ) :
    ∃ added, merge key want make known ds = known ++ added ∧
      List.Forall₂ (fun d a => make d = some a) (taken key want make known ds) added := by
  induction ds generalizing known with
  | nil => exact ⟨[], (List.append_nil known).symm, .nil⟩
  | cons d ds ih =>
      by_cases hd : want d ∈ known.map key
      · obtain ⟨added, hm, hf⟩ := ih known
        refine ⟨added, ?_, ?_⟩
        · rw [merge_cons, addNew, if_pos hd, hm]
        · rw [taken, if_pos hd]
          exact hf
      · cases hmk : make d with
        | none =>
            obtain ⟨added, hm, hf⟩ := ih known
            refine ⟨added, ?_, ?_⟩
            · rw [merge_cons, addNew, if_neg hd, hmk, Option.toList_none, List.append_nil, hm]
            · rw [taken, if_neg hd, hmk]
              exact hf
        | some a =>
            obtain ⟨added, hm, hf⟩ := ih (known ++ [a])
            refine ⟨a :: added, ?_, ?_⟩
            · rw [merge_cons, addNew, if_neg hd, hmk, Option.toList_some, hm, List.append_assoc]
              rfl
            · rw [taken, if_neg hd, hmk]
              exact .cons hmk hf

/-- Offers that are known, or that nothing is made of, add nothing. -/
theorem merge_of_known {known : List α} {ds : List δ}
    (h : ∀ d ∈ ds, (make d).isSome = true → want d ∈ known.map key) :
    merge key want make known ds = known := by
  induction ds with
  | nil => rfl
  | cons d ds ih =>
      have hadd : addNew key want make known d = known := by
        unfold addNew
        split
        · rfl
        · rename_i hd
          cases hmk : make d with
          | none => exact List.append_nil known
          | some a =>
              exact absurd (h d List.mem_cons_self (by rw [hmk]; rfl)) hd
      rw [merge_cons, hadd]
      exact ih fun d' hd' => h d' (List.mem_cons_of_mem d hd')

end Any

/-! ## Entries with the key they were wanted for -/

section Keeps

variable {key : α → κ} {want : δ → κ} {make : δ → Option α}
  (hk : ∀ d a, make d = some a → key a = want d)
include hk

theorem mem_keys_addNew (known : List α) (d : δ) (k : κ) :
    k ∈ (addNew key want make known d).map key ↔
      k ∈ known.map key ∨ (want d = k ∧ (make d).isSome = true) := by
  unfold addNew
  split
  · rename_i hd
    exact ⟨Or.inl, fun h => h.elim id fun ⟨e, _⟩ => e ▸ hd⟩
  · cases hmk : make d with
    | none => simp
    | some a =>
        have e := hk d a hmk
        simp [e, eq_comm]

/-- **The keys afterwards.** -/
theorem mem_keys_merge (known : List α) (ds : List δ) (k : κ) :
    k ∈ (merge key want make known ds).map key ↔
      k ∈ known.map key ∨ ∃ d ∈ ds, want d = k ∧ (make d).isSome = true := by
  induction ds generalizing known with
  | nil => simp [merge]
  | cons d ds ih =>
      rw [merge_cons, ih, mem_keys_addNew hk, or_assoc]
      simp only [List.mem_cons, exists_eq_or_imp]

theorem nodup_addNew {known : List α} (h : (known.map key).Nodup) (d : δ) :
    ((addNew key want make known d).map key).Nodup := by
  unfold addNew
  split
  · exact h
  · rename_i hd
    cases hmk : make d with
    | none => simpa using h
    | some a =>
        rw [Option.toList_some, List.map_append, List.map_singleton]
        refine h.append (List.nodup_singleton _) fun x hx hx' => ?_
        rw [List.mem_singleton.mp hx', hk d a hmk] at hx
        exact hd hx

/-- **Keys stay distinct.** -/
theorem nodup_merge {known : List α} (h : (known.map key).Nodup) (ds : List δ) :
    ((merge key want make known ds).map key).Nodup := by
  induction ds generalizing known with
  | nil => exact h
  | cons d ds ih => exact ih (nodup_addNew hk h d)

/-- **A second merge adds nothing.** -/
theorem merge_merge (known : List α) (ds : List δ) :
    merge key want make (merge key want make known ds) ds = merge key want make known ds :=
  merge_of_known fun d hd hs => (mem_keys_merge hk known ds _).mpr (Or.inr ⟨d, hd, rfl, hs⟩)

end Keeps

end MergeNew
