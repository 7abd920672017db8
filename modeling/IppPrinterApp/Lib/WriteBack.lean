/-
  File:      IppPrinterApp/Lib/WriteBack.lean
  Subject:   A datum with a copy in a file, written back by parties that snapshot and then write.

  Any number of parties change the datum. Whoever has changed it is due: it takes a snapshot of
  the datum as it is by then, holds it, and later writes it to the file. Between a snapshot and
  its write anything may happen, so a snapshot can be stale when it is written.

  * `Covered`: the file holds the datum, or some party still carries it there;
  * `Step.covered`: every step keeps that, if a stale snapshot is written only while another
    party carries the datum (`Fresh`);
  * `Step.covered_iff`: and a write that is not fresh ends it;
  * `Covered.file_eq`: once everyone is idle, the file holds the datum;
  * `Historic`, `Step.historic`: fresh or not, the file holds a value the datum once had.
-/
import Mathlib.Data.List.Basic

namespace WriteBack

/-- Where a party is with its writing back. -/
inductive Stage (δ : Type*) where
  | idle
  | due
  | holding (copy : δ)

variable {ι δ : Type*}

/-- The snapshot a party holds. -/
def Stage.held : Stage δ → Option δ
  | holding copy => some copy
  | _ => none

/-- The party will bring this datum to the file, if nothing changes meanwhile. -/
def Stage.Carries (data : δ) : Stage δ → Prop
  | idle => False
  | due => True
  | holding copy => copy = data

instance [DecidableEq δ] (data : δ) : DecidablePred (Stage.Carries data) := fun st => by
  cases st <;> unfold Stage.Carries <;> infer_instance

/-- The datum, its file, and where the parties are. -/
structure Disk (ι δ : Type*) where
  data : δ
  file : δ
  stage : ι → Stage δ

/-- What party `i` does: work on (perhaps becoming due), change the datum, take a snapshot, or
    write one. -/
inductive Step (d : Disk ι δ) (i : ι) (d' : Disk ι δ) : Prop where
  | move (hdata : d'.data = d.data) (hfile : d'.file = d.file)
      (hothers : ∀ k, k ≠ i → d'.stage k = d.stage k)
      (hfree : ∀ copy, d.stage i ≠ .holding copy) (hdue : d.stage i = .due → d'.stage i = .due)
  | mutate (hfile : d'.file = d.file) (hothers : ∀ k, k ≠ i → d'.stage k = d.stage k)
      (hfree : ∀ copy, d.stage i ≠ .holding copy) (hdue : d'.stage i = .due)
  | snapshot (hdata : d'.data = d.data) (hfile : d'.file = d.file)
      (hothers : ∀ k, k ≠ i → d'.stage k = d.stage k)
      (hfree : ∀ copy, d.stage i ≠ .holding copy) (hholds : d'.stage i = .holding d.data)
  | save (copy : δ) (hcopy : d.stage i = .holding copy) (hdata : d'.data = d.data)
      (hfile : d'.file = copy) (hothers : ∀ k, k ≠ i → d'.stage k = d.stage k)
      (hidle : d'.stage i = .idle)

/-- The file holds the datum, or somebody carries it there. -/
def Covered (d : Disk ι δ) : Prop := d.file = d.data ∨ ∃ k, (d.stage k).Carries d.data

/-- What party `i` holds is the datum, or somebody else carries the datum. -/
def Fresh (d : Disk ι δ) (i : ι) : Prop :=
  ∀ copy, d.stage i = .holding copy → copy = d.data ∨ ∃ k, k ≠ i ∧ (d.stage k).Carries d.data

variable {d d' : Disk ι δ} {i : ι}

/-- A party that is idle moves on, whatever it becomes. -/
theorem Step.of_idle (hidle : d.stage i = .idle) (hdata : d'.data = d.data)
    (hfile : d'.file = d.file) (hothers : ∀ k, k ≠ i → d'.stage k = d.stage k) : Step d i d' := by
  refine .move hdata hfile hothers (fun copy e => ?_) fun e => ?_
  · rw [hidle] at e
    cases e
  · rw [hidle] at e
    cases e

/-- A party that is due moves on and stays due. -/
theorem Step.of_due (hold : d.stage i = .due) (hnew : d'.stage i = .due)
    (hdata : d'.data = d.data) (hfile : d'.file = d.file)
    (hothers : ∀ k, k ≠ i → d'.stage k = d.stage k) : Step d i d' := by
  refine .move hdata hfile hothers (fun copy e => ?_) fun _ => hnew
  rw [hold] at e
  cases e

/-- **Every fresh step keeps the file covered.** -/
theorem Step.covered (h : Step d i d') (hf : Fresh d i) (hc : Covered d) : Covered d' := by
  cases h with
  | move hdata hfile hothers hfree hdue =>
      unfold Covered
      rw [hdata, hfile]
      rcases hc with hc | ⟨k, hk⟩
      · exact Or.inl hc
      · refine Or.inr ⟨k, ?_⟩
        by_cases hki : k = i
        · subst hki
          cases hst : d.stage k with
          | idle => rw [hst] at hk; exact hk.elim
          | due => rw [hdue hst]; trivial
          | holding copy => exact absurd hst (hfree copy)
        · rw [hothers k hki]
          exact hk
  | mutate hfile hothers hfree hdue =>
      refine Or.inr ⟨i, ?_⟩
      rw [hdue]
      trivial
  | snapshot hdata hfile hothers hfree hholds =>
      refine Or.inr ⟨i, ?_⟩
      rw [hholds, hdata]
      rfl
  | save copy hcopy hdata hfile hothers hidle =>
      unfold Covered
      rw [hdata, hfile]
      rcases hf copy hcopy with hf | ⟨k, hki, hk⟩
      · exact Or.inl hf
      · refine Or.inr ⟨k, ?_⟩
        rw [hothers k hki]
        exact hk

/-- **A step keeps the file covered exactly if it is fresh**: only a write can fail to be. -/
theorem Step.covered_iff (h : Step d i d') (hc : Covered d) : Covered d' ↔ Fresh d i := by
  constructor
  · intro hc' copy hheld
    cases h with
    | move _ _ _ hfree => exact absurd hheld (hfree copy)
    | mutate _ _ hfree => exact absurd hheld (hfree copy)
    | snapshot _ _ _ hfree => exact absurd hheld (hfree copy)
    | save copy' hcopy hdata hfile hothers hidle =>
        rw [hcopy] at hheld
        cases hheld
        unfold Covered at hc'
        rw [hdata, hfile] at hc'
        rcases hc' with hc' | ⟨k, hk⟩
        · exact Or.inl hc'
        · have hki : k ≠ i := fun e => by
            rw [e, hidle] at hk
            exact hk
          rw [hothers k hki] at hk
          exact Or.inr ⟨k, hki, hk⟩
  · intro hf
    exact h.covered hf hc

theorem Covered.file_eq (h : Covered d) (hidle : ∀ k, d.stage k = .idle) : d.file = d.data := by
  rcases h with h | ⟨k, hk⟩
  · exact h
  · rw [hidle k] at hk
    exact hk.elim

/-! ## What the file can hold -/

/-- The file and the snapshots held are values the datum has, or had before. -/
structure Historic (past : List δ) (d : Disk ι δ) : Prop where
  file : d.file = d.data ∨ d.file ∈ past
  held : ∀ k copy, d.stage k = .holding copy → copy = d.data ∨ copy ∈ past

/-- **Every step keeps that**, once the value it finds is noted, if nobody comes to a snapshot
    without taking one. -/
theorem Step.historic {past : List δ} (h : Step d i d')
    (hidle : d.stage i = .idle → ∀ copy, d'.stage i ≠ .holding copy) (hh : Historic past d) :
    Historic (past ++ [d.data]) d' := by
  -- a value of the datum before the step is one of the past after it
  have hpast : ∀ v, v = d.data ∨ v ∈ past → v ∈ past ++ [d.data] := fun v hv =>
    hv.elim (fun e => List.mem_append_right _ (List.mem_singleton.mpr e))
      (fun hm => List.mem_append_left _ hm)
  have hheld : ∀ k copy, d'.stage k = d.stage k → d'.stage k = .holding copy →
      copy ∈ past ++ [d.data] := fun k copy e hk => hpast copy (hh.held k copy (e.symm.trans hk))
  cases h with
  | move hdata hfile hothers hfree hdue =>
      refine ⟨Or.inr (by rw [hfile]; exact hpast _ hh.file), fun k copy hk => ?_⟩
      by_cases hki : k = i
      · subst hki
        cases hst : d.stage k with
        | holding c => exact absurd hst (hfree c)
        | due => cases hk.symm.trans (hdue hst)
        | idle => exact absurd hk (hidle hst copy)
      · exact Or.inr (hheld k copy (hothers k hki) hk)
  | mutate hfile hothers hfree hdue =>
      refine ⟨Or.inr (by rw [hfile]; exact hpast _ hh.file), fun k copy hk => ?_⟩
      by_cases hki : k = i
      · subst hki
        cases hk.symm.trans hdue
      · exact Or.inr (hheld k copy (hothers k hki) hk)
  | snapshot hdata hfile hothers hfree hholds =>
      refine ⟨Or.inr (by rw [hfile]; exact hpast _ hh.file), fun k copy hk => ?_⟩
      by_cases hki : k = i
      · subst hki
        cases hk.symm.trans hholds
        exact Or.inl hdata.symm
      · exact Or.inr (hheld k copy (hothers k hki) hk)
  | save copy hcopy hdata hfile hothers hdone =>
      refine ⟨Or.inr (by rw [hfile]; exact hpast _ (hh.held i copy hcopy)), fun k c hk => ?_⟩
      by_cases hki : k = i
      · subst hki
        cases hk.symm.trans hdone
      · exact Or.inr (hheld k c (hothers k hki) hk)

/-! ## Parties in a list -/

section Parties

variable {τ : Type*} (stage : τ → Stage δ)

/-- The stage of the party at a position; there is none beyond the end. -/
def stageAt (l : List τ) (i : Nat) : Stage δ := (l[i]?.map stage).getD .idle

variable {stage} {l : List τ} {i k : Nat} {t t' : τ}

theorem stageAt_eq (h : l[i]? = some t) : stageAt stage l i = stage t := by
  unfold stageAt
  rw [h]
  rfl

theorem stageAt_set_self (h : l[i]? = some t) : stageAt stage (l.set i t') i = stage t' :=
  stageAt_eq (List.getElem?_set_self (List.getElem?_eq_some_iff.mp h).1)

theorem stageAt_set_ne (h : k ≠ i) : stageAt stage (l.set i t') k = stageAt stage l k := by
  unfold stageAt
  rw [List.getElem?_set_ne (Ne.symm h)]

theorem stageAt_append_ne (h : k ≠ l.length) :
    stageAt stage (l ++ [t']) k = stageAt stage l k := by
  unfold stageAt
  by_cases hlt : k < l.length
  · rw [List.getElem?_append_left hlt]
  · have h₁ : (l ++ [t'])[k]? = none := by
      refine List.getElem?_eq_none ?_
      rw [List.length_append, List.length_singleton]
      omega
    have h₂ : l[k]? = none := List.getElem?_eq_none (by omega)
    rw [h₁, h₂]

theorem stageAt_idle (h : ∀ t ∈ l, stage t = .idle) (i : Nat) : stageAt stage l i = .idle := by
  unfold stageAt
  cases hi : l[i]? with
  | none => rfl
  | some t => exact h t (List.mem_of_getElem? hi)

theorem stageAt_length : stageAt stage l l.length = .idle := by
  unfold stageAt
  rw [List.getElem?_eq_none (Nat.le_refl _)]
  rfl

end Parties

end WriteBack
