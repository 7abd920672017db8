/-
  File:      IppPrinterApp/Lib/Flow.lean
  Subject:   What comes into a machine, what goes out, and what is in stock between.

  The amounts are in an additive monoid: a number, a multiset of items, or, where the order
  matters, a word. If every step balances, every run does, whatever the interleaving:

  * `Balanced.run` -- what is out and what is in stock is what was in stock at first and what came
    in, where what comes in is a matter of the actions;
  * `run_drained` -- the other way round: what came in is a matter of the events, and the actions
    take it out;
  * `run_covers`, `run_limited` -- the two halves of a balance, in an ordered monoid: nothing that
    came in is lost, nothing is out that is not paid for;
  * `run_bounded` -- steps are bounded by the work there is, where every step lowers it;
  * `total` -- the amount of a trace, the sum over its events.
-/
import Mathlib.Algebra.BigOperators.Group.List.Basic
import Mathlib.Algebra.Order.Monoid.Unbundled.Basic
import IppPrinterApp.Lib.Transition

namespace Flow

open Transition

variable {σ α ε κ : Type*} [AddMonoid κ]

/-- What the events of a trace amount to. -/
def total (amount : ε → κ) (tr : List ε) : κ := (tr.map amount).sum

@[simp] theorem total_nil (amount : ε → κ) : total amount [] = 0 := rfl

@[simp] theorem total_append (amount : ε → κ) (tr ev : List ε) :
    total amount (tr ++ ev) = total amount tr + total amount ev := by
  unfold total
  rw [List.map_append, List.sum_append]

@[simp] theorem total_cons (amount : ε → κ) (e : ε) (tr : List ε) :
    total amount (e :: tr) = amount e + total amount tr := by
  unfold total
  rw [List.map_cons, List.sum_cons]

/-- Two amounts of the same events. -/
theorem total_add {ν : Type*} [AddCommMonoid ν] (amount amount' : ε → ν) (tr : List ε) :
    total (fun e => amount e + amount' e) tr = total amount tr + total amount' tr := by
  induction tr with
  | nil => exact (add_zero 0).symm
  | cons e tr ih => rw [total_cons, total_cons, total_cons, ih, add_add_add_comm]

/-- Events that amount to nothing. -/
theorem total_zero {amount : ε → κ} {tr : List ε} (h : ∀ e ∈ tr, amount e = 0) :
    total amount tr = 0 := by
  induction tr with
  | nil => rfl
  | cons e tr ih =>
      rw [total_cons, h e List.mem_cons_self, zero_add]
      exact ih fun e' he' => h e' (List.mem_cons_of_mem e he')

/-- **Every step balances** where the invariant holds, and keeps it: what its events take out and
    what is then in stock is what was in stock and what its action brought in. -/
def Balanced (M : Machine σ α ε) (I : σ → Prop) (inflow : σ → α → κ) (outflow : ε → κ)
    (stock : σ → κ) : Prop :=
  ∀ s a s' ev, I s → M.step s a = some (s', ev) →
    I s' ∧ total outflow ev + stock s' = stock s + inflow s a

/-- The machine with what has come in beside it. -/
def metered (M : Machine σ α ε) (inflow : σ → α → κ) : Machine (σ × κ) α ε :=
  M.withHistory fun k s a => k + inflow s a

section Rules

variable {M : Machine σ α ε} {s₀ s : σ} {tr : List ε} {stock : σ → κ}

/-- **The rule of flows**: if every step balances, so does every run from where the invariant
    holds. -/
theorem Balanced.run {I : σ → Prop} {inflow : σ → α → κ} {outflow : ε → κ}
    {G : σ × κ → α → Prop} {k : κ} (hM : Balanced M I inflow outflow stock) (h₀ : I s₀)
    (h : Run (metered M inflow) G (s₀, 0) tr (s, k)) :
    total outflow tr + stock s = stock s₀ + k := by
  suffices hinv : I s ∧ total outflow tr + stock s = stock s₀ + k from hinv.2
  refine Run.invariant
    (I := fun tr p => I p.1 ∧ total outflow tr + stock p.1 = stock s₀ + p.2) ?_ ?_ h
  · exact ⟨h₀, by rw [total_nil, zero_add, add_zero]⟩
  · intro tr p a p' ev ⟨hI, htotal⟩ _ hs
    obtain ⟨hstep, hk⟩ := step_withHistory hs
    obtain ⟨hI', hbalance⟩ := hM p.1 a p'.1 ev hI hstep
    refine ⟨hI', ?_⟩
    calc total outflow (tr ++ ev) + stock p'.1
        = total outflow tr + (total outflow ev + stock p'.1) := by rw [total_append, add_assoc]
      _ = total outflow tr + stock p.1 + inflow p.1 a := by rw [hbalance, add_assoc]
      _ = stock s₀ + p'.2 := by rw [htotal, add_assoc, hk]

end Rules

/-- **The rule of flows the other way round**: if every step balances what its events bring in
    against what its action takes out, so does every run. What is taken out may be of a kind of its
    own, with a worth. -/
theorem run_drained {ν : Type*} [AddCommMonoid ν] {M : Machine σ α ε} {s₀ s : σ} {tr : List ε}
    {I : σ → Prop} {outflow : σ → α → κ} {G : σ × κ → α → Prop} {k : κ} (stock : σ → ν)
    (inflow : ε → ν) (worth : κ →+ ν) (h₀ : I s₀)
    (hM : ∀ p a s' ev, I p.1 → G p a → M.step p.1 a = some (s', ev) →
      I s' ∧ worth (outflow p.1 a) + stock s' = stock p.1 + total inflow ev)
    (h : Run (metered M outflow) G (s₀, 0) tr (s, k)) :
    worth k + stock s = stock s₀ + total inflow tr := by
  suffices hinv : I s ∧ worth k + stock s = stock s₀ + total inflow tr from hinv.2
  refine Run.invariant
    (I := fun tr p => I p.1 ∧ worth p.2 + stock p.1 = stock s₀ + total inflow tr) ?_ ?_ h
  · exact ⟨h₀, by rw [total_nil, worth.map_zero, zero_add, add_zero]⟩
  · intro tr p a p' ev ⟨hI, htotal⟩ hg hs
    obtain ⟨hstep, hk⟩ := step_withHistory hs
    obtain ⟨hI', hbalance⟩ := hM p a p'.1 ev hI hg hstep
    refine ⟨hI', ?_⟩
    calc worth p'.2 + stock p'.1
        = worth p.2 + (worth (outflow p.1 a) + stock p'.1) := by
          rw [hk, worth.map_add, add_assoc]
      _ = worth p.2 + stock p.1 + total inflow ev := by rw [hbalance, add_assoc]
      _ = stock s₀ + total inflow (tr ++ ev) := by rw [htotal, add_assoc, total_append]

/-! ## Flows in an order -/

section Ordered

variable {ν : Type*} [AddCommMonoid ν] [PartialOrder ν] [AddLeftMono ν]
  {M : Machine σ α ε} {s₀ s : σ} {tr : List ε} {stock : σ → ν} {inflow : σ → α → κ}
  {outflow added : ε → ν} {G : σ × κ → α → Prop} {k : κ} (worth : κ →+ ν)

variable (stock) in
/-- **The rule of no loss**: if every step makes up for what was in stock and what its action
    brought in, all that came in is out or in stock. What is brought in may be of a kind of its
    own, with a worth. -/
theorem run_covers
    (hM : ∀ s a s' ev, M.step s a = some (s', ev) →
      stock s + worth (inflow s a) ≤ total outflow ev + stock s')
    (h : Run (metered M inflow) G (s₀, 0) tr (s, k)) :
    stock s₀ + worth k ≤ total outflow tr + stock s := by
  refine Run.invariant
    (I := fun tr p => stock s₀ + worth p.2 ≤ total outflow tr + stock p.1) ?_ ?_ h
  · rw [total_nil, worth.map_zero, zero_add, add_zero]
  · intro tr p a p' ev hI _ hs
    obtain ⟨hstep, hk⟩ := step_withHistory hs
    calc stock s₀ + worth p'.2
        = stock s₀ + worth p.2 + worth (inflow p.1 a) := by rw [hk, worth.map_add, add_assoc]
      _ ≤ total outflow tr + stock p.1 + worth (inflow p.1 a) := add_le_add_left hI _
      _ ≤ total outflow tr + (total outflow ev + stock p'.1) := by
          rw [add_assoc]
          exact add_le_add_right (hM _ _ _ _ hstep) _
      _ = total outflow (tr ++ ev) + stock p'.1 := by rw [total_append, add_assoc]

/-- **The rule of no surplus**: if every step is paid for by what was in stock, what its action
    brought in and what its events add, so is all that is out. -/
theorem run_limited
    (hM : ∀ s a s' ev, M.step s a = some (s', ev) →
      total outflow ev + stock s' ≤ stock s + (worth (inflow s a) + total added ev))
    (h : Run (metered M inflow) G (s₀, 0) tr (s, k)) :
    total outflow tr + stock s ≤ stock s₀ + (worth k + total added tr) := by
  refine Run.invariant
    (I := fun tr p => total outflow tr + stock p.1 ≤ stock s₀ + (worth p.2 + total added tr))
    ?_ ?_ h
  · rw [total_nil, total_nil, worth.map_zero, zero_add, zero_add, add_zero]
  · intro tr p a p' ev hI _ hs
    obtain ⟨hstep, hk⟩ := step_withHistory hs
    calc total outflow (tr ++ ev) + stock p'.1
        = total outflow tr + (total outflow ev + stock p'.1) := by rw [total_append, add_assoc]
      _ ≤ total outflow tr + stock p.1 + (worth (inflow p.1 a) + total added ev) := by
          rw [add_assoc]
          exact add_le_add_right (hM _ _ _ _ hstep) _
      _ ≤ stock s₀ + (worth p.2 + total added tr) + (worth (inflow p.1 a) + total added ev) :=
          add_le_add_left hI _
      _ = stock s₀ + (worth p'.2 + total added (tr ++ ev)) := by
          rw [hk, worth.map_add, total_append, add_assoc, add_add_add_comm]

end Ordered

/-! ## Bounded work -/

section Work

/-- The machine with the number of its steps beside it. -/
def counted (M : Machine σ α ε) : Machine (σ × Nat) α ε := M.withHistory fun n _ _ => n + 1

variable {M : Machine σ α ε} {G : σ → α → Prop} {s₀ s : σ} {tr : List ε} {n : Nat}

/-- **The rule of bounded work**: if every guarded step lowers the work still to be done, but for
    what its events add to it, the steps of a run are bounded by the work there was at first and
    what was added. -/
theorem run_bounded {I : σ → Prop} {work : σ → Nat} {added : ε → Nat} (h₀ : I s₀)
    (hstep : ∀ s a s' ev, I s → G s a → M.step s a = some (s', ev) →
      I s' ∧ work s' + 1 ≤ work s + total added ev)
    (h : Run (counted M) (fun p a => G p.1 a) (s₀, 0) tr (s, n)) :
    n + work s ≤ work s₀ + total added tr := by
  suffices hinv : I s ∧ n + work s ≤ work s₀ + total added tr from hinv.2
  refine Run.invariant (I := fun tr p => I p.1 ∧ p.2 + work p.1 ≤ work s₀ + total added tr) ?_ ?_ h
  · exact ⟨h₀, Nat.le_of_eq (Nat.zero_add _)⟩
  · intro tr p a p' ev ⟨hI, hle⟩ hg hs
    obtain ⟨hs', hn⟩ := step_withHistory hs
    obtain ⟨hI', hlt⟩ := hstep p.1 a p'.1 ev hI hg hs'
    refine ⟨hI', ?_⟩
    rw [hn, total_append]
    omega

end Work

end Flow
