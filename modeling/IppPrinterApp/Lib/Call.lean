/-
  File:      IppPrinterApp/Lib/Call.lean
  Subject:   One call of a program among others that share its state.

  A `Program` goes from access to access of a shared state; between two of its accesses anything
  may happen to that state. `among P` is the machine of such a call: its own accesses, each
  noted with the shared state before and after it, and the changes of the others, which are
  arbitrary. What is proved of all its runs is proved for every interleaving.

  * `run_among` -- the invariant rule: what the own accesses keep of the events, the local state
    and the notes holds in every run, whatever the others do;
  * `Quiet` -- the call has changed nothing.
-/
import IppPrinterApp.Lib.Transition

namespace Call

open Transition

/-- A program over a shared state `σ` and a local state `l`: what an access with the input `ι`
    leaves, and what the outside sees of it. -/
structure Program (σ l ι ε : Type*) where
  next : σ → l → ι → Option ((σ × l) × List ε)

/-- An own access, or a change by the others. -/
inductive Act (σ ι : Type*) where
  | own (i : ι)
  | others (s : σ)

/-- The shared state, the local state, and the shared states around each own access. -/
structure Among (σ l : Type*) where
  shared : σ
  loc : l
  log : List (σ × σ)

variable {σ l ι ε : Type*}

/-- The call among others. -/
def among (P : Program σ l ι ε) : Machine (Among σ l) (Act σ ι) ε where
  step c
    | .own i => (P.next c.shared c.loc i).map fun r =>
        ({ shared := r.1.1, loc := r.1.2, log := c.log ++ [(c.shared, r.1.1)] }, r.2)
    | .others s => some ({ c with shared := s }, [])

/-- The call before its first access. -/
def entered (s : σ) (x : l) : Among σ l := ⟨s, x, []⟩

/-- No access has changed the shared state. -/
def Quiet (log : List (σ × σ)) : Prop := ∀ e ∈ log, e.2 = e.1

theorem quiet_nil : Quiet ([] : List (σ × σ)) := fun _ he => absurd he List.not_mem_nil

theorem Quiet.append {log : List (σ × σ)} (h : Quiet log) (s : σ) : Quiet (log ++ [(s, s)]) := by
  intro e he
  rcases List.mem_append.mp he with he | he
  · exact h e he
  · rw [List.mem_singleton.mp he]

section Rules

variable {P : Program σ l ι ε} {s₀ : σ} {x₀ : l} {tr : List ε} {c : Among σ l}

/-- **The invariant rule.** -/
theorem run_among {I : List ε → l → List (σ × σ) → Prop} (h₀ : I [] x₀ [])
    (hown : ∀ tr s x log i s' x' ev, I tr x log → P.next s x i = some ((s', x'), ev) →
      I (tr ++ ev) x' (log ++ [(s, s')]))
    (h : Run (among P) anyStep (entered s₀ x₀) tr c) : I tr c.loc c.log := by
  refine Run.invariant (I := fun tr c => I tr c.loc c.log) h₀ ?_ h
  intro tr c a c' ev hI _ hs
  cases a with
  | own i =>
      obtain ⟨⟨⟨s', x'⟩, ev'⟩, hn, e⟩ := Option.map_eq_some_iff.mp hs
      cases e
      exact hown tr c.shared c.loc c.log i s' x' ev' hI hn
  | others s =>
      cases hs
      rw [List.append_nil]
      exact hI

/-- A run goes on with a change by the others. -/
theorem run_others (h : Run (among P) anyStep (entered s₀ x₀) tr c) (s : σ) :
    Run (among P) anyStep (entered s₀ x₀) tr { c with shared := s } := by
  rw [← List.append_nil tr]
  exact h.step (a := .others s) trivial rfl

/-- A run goes on with an own access. -/
theorem run_own (h : Run (among P) anyStep (entered s₀ x₀) tr c) {i : ι} {s' : σ} {x' : l}
    {ev : List ε} (hn : P.next c.shared c.loc i = some ((s', x'), ev)) :
    Run (among P) anyStep (entered s₀ x₀) (tr ++ ev) ⟨s', x', c.log ++ [(c.shared, s')]⟩ := by
  refine h.step (a := .own i) trivial ?_
  show (P.next c.shared c.loc i).map _ = _
  rw [hn]
  rfl

end Rules

end Call
