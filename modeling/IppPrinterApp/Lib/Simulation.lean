/-
  File:      IppPrinterApp/Lib/Simulation.lean
  Subject:   A machine seen through an abstraction of its state: a diagram it follows.

  What is seen of a machine is `abs`, a function of its state. A step that changes nothing of it is
  not seen; one that changes it is seen with its result. If every change is an edge of a diagram,
  what is seen of a run is a path in it:

  * `Machine.watched` -- the machine with what has been seen of it;
  * `run_follows` -- what is seen of a run is a path, from where it began to where it is;
  * `path_stops` -- a path ends where no edge leads on.

  Or what is seen is an abstract machine: `run_refines` -- if every step is matched by a run of that
  machine which shows the same, every run is.
-/
import Mathlib.Data.List.Chain
import IppPrinterApp.Lib.Transition

namespace Transition

variable {σ α ε β : Type*}

/-- The machine with what has been seen of it, each change once. -/
def Machine.watched [DecidableEq β] (M : Machine σ α ε) (abs : σ → β) :
    Machine (σ × List β) α ε :=
  M.withHistory fun seen s a =>
    match M.step s a with
    | some (s', _) => if abs s' = abs s then seen else seen ++ [abs s']
    | none => seen

/-- `seen` leads from `b` to `c` along the edges. -/
structure Follows (edge : β → β → Prop) (b : β) (seen : List β) (c : β) : Prop where
  path : (b :: seen).IsChain edge
  ends : (b :: seen).getLast? = some c

section Follow

variable {edge : β → β → Prop} {b c c' : β} {seen : List β}

theorem Follows.start (edge : β → β → Prop) (b : β) : Follows edge b [] b :=
  ⟨List.isChain_singleton b, rfl⟩

theorem Follows.step (h : Follows edge b seen c) (hc : edge c c') :
    Follows edge b (seen ++ [c']) c' := by
  constructor
  · rw [← List.cons_append, List.isChain_append]
    refine ⟨h.path, List.isChain_singleton c', fun x hx y hy => ?_⟩
    rw [h.ends] at hx
    cases hx
    cases hy
    exact hc
  · rw [← List.cons_append, List.getLast?_concat]

theorem Follows.mono {edge' : β → β → Prop} (h : Follows edge b seen c)
    (he : ∀ x y, edge x y → edge' x y) : Follows edge' b seen c :=
  ⟨h.path.imp fun x y => he x y, h.ends⟩

/-- **Where no edge leads on, the path is at its end.** -/
theorem path_stops {stop : β} (h : (b :: seen).IsChain edge) (hstop : ∀ d, ¬edge stop d)
    {before after : List β} (he : seen = before ++ stop :: after) : after = [] := by
  cases after with
  | nil => rfl
  | cons d after =>
      rw [he, ← List.cons_append, List.isChain_append_cons_cons] at h
      exact absurd h.2.1 (hstop d)

end Follow

section Rules

variable [DecidableEq β] {M : Machine σ α ε} {abs : σ → β} {edge : β → β → Prop}
  {G : σ → α → Prop} {I : σ → Prop} {s₀ s : σ} {tr : List ε} {seen : List β}

/-- **The rule of abstraction**: if every guarded step from the invariant keeps it, and leaves what
    is seen as it is or changes it along an edge, what is seen of a run is a path. -/
theorem run_follows (h₀ : I s₀)
    (hstep : ∀ s a s' ev, I s → G s a → M.step s a = some (s', ev) →
      I s' ∧ (abs s' = abs s ∨ edge (abs s) (abs s')))
    (h : Run (M.watched abs) (fun p a => G p.1 a) (s₀, []) tr (s, seen)) :
    Follows edge (abs s₀) seen (abs s) := by
  suffices hinv : I s ∧ Follows edge (abs s₀) seen (abs s) from hinv.2
  refine Run.always (I := fun p => I p.1 ∧ Follows edge (abs s₀) p.2 (abs p.1)) ?_ ?_ h
  · exact ⟨h₀, .start edge (abs s₀)⟩
  · intro p a p' ev ⟨hI, hf⟩ hg hs
    obtain ⟨hs', hseen⟩ := step_withHistory hs
    rw [hs'] at hseen
    dsimp only at hseen
    obtain ⟨hI', hedge⟩ := hstep p.1 a p'.1 ev hI hg hs'
    refine ⟨hI', ?_⟩
    rw [hseen]
    by_cases he : abs p'.1 = abs p.1
    · rw [if_pos he, he]
      exact hf
    · rw [if_neg he]
      exact hf.step (hedge.resolve_left he)

end Rules

/-! ## Refinement -/

section Refinement

variable {β' γ δ : Type*} {M : Machine σ α ε} {A : Machine β' γ δ} {see : ε → Option δ}
  {G : σ → α → Prop} {I : σ → Prop} {s₀ s : σ} {tr : List ε}

/-- A run of one step. -/
theorem Run.one {a : α} {s' : σ} {ev : List ε} (h : M.step s a = some (s', ev)) :
    Run M anyStep s ev s' := Run.step .start trivial h

/-- **The rule of refinement**: if every guarded step from the invariant keeps it, and is matched by
    a run of the abstract machine that shows the same, so is every run. -/
theorem run_refines (abs : σ → β') (h₀ : I s₀)
    (hstep : ∀ s a s' ev, I s → G s a → M.step s a = some (s', ev) →
      I s' ∧ Run A anyStep (abs s) (ev.filterMap see) (abs s'))
    (h : Run M G s₀ tr s) : Run A anyStep (abs s₀) (tr.filterMap see) (abs s) := by
  suffices hinv : I s ∧ Run A anyStep (abs s₀) (tr.filterMap see) (abs s) from hinv.2
  refine Run.invariant
    (I := fun tr s => I s ∧ Run A anyStep (abs s₀) (tr.filterMap see) (abs s)) ⟨h₀, .start⟩ ?_ h
  intro tr s a s' ev ⟨hI, hrun⟩ hg hs
  obtain ⟨hI', hmatch⟩ := hstep s a s' ev hI hg hs
  refine ⟨hI', ?_⟩
  rw [List.filterMap_append]
  exact hrun.trans hmatch

end Refinement

end Transition
