/-
  File:      IppPrinterApp/Lib/Transition.lean
  Subject:   Machines with observable events, their guarded runs, and the rules about them.

  A `Machine` is a partial step function: `step s a` is `none` when the action `a` is not
  enabled in `s`, and otherwise the next state with the events the outside sees. A `Run M G`
  takes only steps whose state and action meet the guard `G`; `anyStep` is no guard at all.

  * `Run.invariant` -- the invariant rule, over the trace and the state; `Run.always` is the
    same for a property of the state alone;
  * `Run.reaches` -- the progress rule: a measure that some step always lowers;
  * `Run.mono`, `Run.trans` -- a stronger guard gives fewer runs; runs compose; `run_congr` --
    guards that agree on the enabled steps give the same runs;
  * `Run.never` -- what no step undoes, and does not hold at the end, held at no step; so
    (`Run.bounded`) what only grows is bounded at every step by what bounds it at the end;
  * `Run.erase` -- steps that change nothing and are not seen can be left out;
  * `Machine.withHistory` -- a variable that notes what happened, for properties that the state
    alone does not determine; `Run.noted_once` -- what no step undoes is brought about once;
  * `exec` -- the run of a list of actions, computed; `run_endOf` reads it back as a `Run`.
-/
import Mathlib.Data.List.Basic

namespace Transition

/-- A machine over states `σ`, actions `α` and events `ε`. -/
structure Machine (σ α ε : Type*) where
  step : σ → α → Option (σ × List ε)

variable {σ α ε : Type*}

/-- The guard every step meets. -/
def anyStep : σ → α → Prop := fun _ _ => True

instance : DecidableRel (anyStep : σ → α → Prop) := fun _ _ => .isTrue trivial

/-- Runs from `s₀` all of whose steps meet the guard, with the events seen so far. -/
inductive Run (M : Machine σ α ε) (G : σ → α → Prop) (s₀ : σ) : List ε → σ → Prop where
  | start : Run M G s₀ [] s₀
  | step {tr : List ε} {s : σ} {a : α} {s' : σ} {ev : List ε} (h : Run M G s₀ tr s) (hg : G s a)
      (hs : M.step s a = some (s', ev)) : Run M G s₀ (tr ++ ev) s'

section Rules

variable {M : Machine σ α ε} {G : σ → α → Prop} {s₀ s : σ} {tr : List ε}

/-- **The invariant rule**: true at the start and kept by every guarded step, so true of the
    trace and the state of every guarded run. -/
theorem Run.invariant {I : List ε → σ → Prop} (h₀ : I [] s₀)
    (hstep : ∀ tr s a s' ev, I tr s → G s a → M.step s a = some (s', ev) → I (tr ++ ev) s')
    (h : Run M G s₀ tr s) : I tr s := by
  induction h with
  | start => exact h₀
  | step _ hg hs ih => exact hstep _ _ _ _ _ ih hg hs

/-- The invariant rule for a property of the state alone. -/
theorem Run.always {I : σ → Prop} (h₀ : I s₀)
    (hstep : ∀ s a s' ev, I s → G s a → M.step s a = some (s', ev) → I s')
    (h : Run M G s₀ tr s) : I s :=
  Run.invariant (I := fun _ s => I s) h₀ (fun _ s a s' ev => hstep s a s' ev) h

/-- A run under a guard is a run under every weaker guard. -/
theorem Run.mono {G' : σ → α → Prop} (hG : ∀ s a, G s a → G' s a) (h : Run M G s₀ tr s) :
    Run M G' s₀ tr s := by
  induction h with
  | start => exact .start
  | step _ hg hs ih => exact .step ih (hG _ _ hg) hs

/-- Guards that agree where a step is enabled have the same runs. -/
theorem run_congr {G' : σ → α → Prop}
    (hG : ∀ s a s' ev, M.step s a = some (s', ev) → (G s a ↔ G' s a)) :
    Run M G s₀ tr s ↔ Run M G' s₀ tr s := by
  constructor
  · intro h
    induction h with
    | start => exact .start
    | step _ hg hs ih => exact .step ih ((hG _ _ _ _ hs).mp hg) hs
  · intro h
    induction h with
    | start => exact .start
    | step _ hg hs ih => exact .step ih ((hG _ _ _ _ hs).mpr hg) hs

/-- Every guarded run is a run. -/
theorem Run.any (h : Run M G s₀ tr s) : Run M anyStep s₀ tr s :=
  h.mono fun _ _ _ => trivial

theorem Run.trans {t : σ} {tr' : List ε} (h : Run M G s₀ tr s) (h' : Run M G s tr' t) :
    Run M G s₀ (tr ++ tr') t := by
  induction h' with
  | start => simpa using h
  | step _ hg hs ih =>
      rw [← List.append_assoc]
      exact .step ih hg hs

/-- What no step undoes, and does not hold at the end, held at no step. -/
theorem Run.never {P : σ → Prop}
    (hP : ∀ s a s' ev, M.step s a = some (s', ev) → P s → P s') (h : Run M G s₀ tr s)
    (hnot : ¬ P s) : Run M (fun s a => G s a ∧ ¬ P s) s₀ tr s := by
  induction h with
  | start => exact .start
  | step _ hg hs ih =>
      have hbefore := fun hp => hnot (hP _ _ _ _ hs hp)
      exact .step (ih hbefore) ⟨hg, hbefore⟩ hs

/-- What only grows, and is small at the end, was small at every step. -/
theorem Run.bounded {f : σ → Nat} {b : Nat}
    (hf : ∀ s a s' ev, M.step s a = some (s', ev) → f s ≤ f s') (h : Run M G s₀ tr s)
    (hlt : f s < b) : Run M (fun s a => G s a ∧ f s < b) s₀ tr s := by
  have hnever := h.never (P := fun s => b ≤ f s)
    (fun s a s' ev hs hb => Nat.le_trans hb (hf s a s' ev hs)) (Nat.not_le.mpr hlt)
  exact hnever.mono fun s a hg => ⟨hg.1, Nat.not_le.mp hg.2⟩

/-- **The progress rule**: if every state with the invariant that is not at the goal has a guarded
    step that keeps the invariant and lowers the measure, a run leads on to the goal. -/
theorem Run.reaches {I goal : σ → Prop} (μ : σ → Nat)
    (hstep : ∀ s, I s → ¬ goal s →
      ∃ a s' ev, G s a ∧ M.step s a = some (s', ev) ∧ I s' ∧ μ s' < μ s)
    (h : I s) : ∃ tr t, Run M G s tr t ∧ goal t := by
  generalize hn : μ s = n
  induction n using Nat.strongRecOn generalizing s with
  | ind n ih =>
      by_cases hg : goal s
      · exact ⟨[], s, .start, hg⟩
      · obtain ⟨a, s', ev, ha, hs, hI, hlt⟩ := hstep s h hg
        obtain ⟨tr, t, hrun, ht⟩ := ih (μ s') (hn ▸ hlt) hI rfl
        exact ⟨_, t, (Run.start.step ha hs).trans hrun, ht⟩

/-- **The rule of erasure**: quiet steps, which change nothing and are not seen, can be left out of
    a run; it ends where it did, and what is seen of it is the same. -/
theorem Run.erase {I : σ → Prop} {quiet : α → Bool} {seen : ε → Bool} (h₀ : I s₀)
    (hkeep : ∀ s a s' ev, I s → M.step s a = some (s', ev) → I s')
    (hquiet : ∀ s a s' ev, I s → quiet a = true → M.step s a = some (s', ev) →
      s' = s ∧ ∀ e ∈ ev, seen e = false)
    (hloud : ∀ s a s' ev, I s → quiet a = false → M.step s a = some (s', ev) →
      ∀ e ∈ ev, seen e = true)
    (h : Run M G s₀ tr s) : Run M (fun s a => G s a ∧ quiet a = false) s₀ (tr.filter seen) s := by
  suffices hinv : I s ∧ Run M (fun s a => G s a ∧ quiet a = false) s₀ (tr.filter seen) s from hinv.2
  refine Run.invariant (I := fun tr s =>
    I s ∧ Run M (fun s a => G s a ∧ quiet a = false) s₀ (tr.filter seen) s) ⟨h₀, .start⟩ ?_ h
  intro tr s a s' ev ⟨hI, hrun⟩ hg hs
  refine ⟨hkeep s a s' ev hI hs, ?_⟩
  rw [List.filter_append]
  cases hq : quiet a with
  | true =>
      obtain ⟨rfl, hnone⟩ := hquiet s a s' ev hI hq hs
      have hev : ev.filter seen = [] :=
        List.filter_eq_nil_iff.mpr fun e he => Bool.eq_false_iff.mp (hnone e he)
      rw [hev, List.append_nil]
      exact hrun
  | false =>
      rw [List.filter_eq_self.mpr (hloud s a s' ev hI hq hs)]
      exact .step hrun ⟨hg, hq⟩ hs

end Rules

/-! ## History variables -/

section History

variable {η : Type*}

/-- The machine with a variable beside its state that each step notes something in, and that no
    step looks at. -/
def Machine.withHistory (M : Machine σ α ε) (note : η → σ → α → η) : Machine (σ × η) α ε where
  step p a := (M.step p.1 a).map fun r => ((r.1, note p.2 p.1 a), r.2)

variable {M : Machine σ α ε} {note : η → σ → α → η}

theorem step_withHistory {p p' : σ × η} {a : α} {ev : List ε}
    (h : (M.withHistory note).step p a = some (p', ev)) :
    M.step p.1 a = some (p'.1, ev) ∧ p'.2 = note p.2 p.1 a := by
  obtain ⟨⟨s', ev'⟩, hs, e⟩ := Option.map_eq_some_iff.mp h
  cases e
  exact ⟨hs, rfl⟩

/-- **The variable changes no run**: the runs are those with some history. -/
theorem run_iff_withHistory {G : σ → α → Prop} {s₀ s : σ} {tr : List ε} (e₀ : η) :
    Run M G s₀ tr s ↔
      ∃ e, Run (M.withHistory note) (fun p a => G p.1 a) (s₀, e₀) tr (s, e) := by
  constructor
  · intro h
    induction h with
    | start => exact ⟨e₀, .start⟩
    | @step _ s a s' ev _ hg hs ih =>
        obtain ⟨e, hr⟩ := ih
        refine ⟨note e s a, .step hr hg ?_⟩
        unfold Machine.withHistory
        dsimp only
        rw [hs]
        rfl
  · rintro ⟨e, h⟩
    have hproj : ∀ {tr p}, Run (M.withHistory note) (fun p a => G p.1 a) (s₀, e₀) tr p →
        Run M G s₀ tr p.1 := by
      intro tr p h
      induction h with
      | start => exact .start
      | step _ hg hs ih => exact .step ih hg (step_withHistory hs).1
    exact hproj h

/-- **The rule of what happens once**: if a note is made only by a step that brings about what did
    not hold before, and no guarded step undoes it, the note is made once at most. -/
theorem Run.noted_once (notes : σ → α → Option η) (T : σ → Prop) (p : η → Bool)
    {G : σ × List η → α → Prop} {s₀ s : σ} {log : List η} {tr : List ε}
    (hfire : ∀ s a s' ev e, M.step s a = some (s', ev) → notes s a = some e → p e = true →
      ¬T s ∧ T s')
    (hkeep : ∀ q a s' ev, G q a → M.step q.1 a = some (s', ev) → T q.1 → T s')
    (h : Run (M.withHistory fun log s a => log ++ (notes s a).toList) G (s₀, []) tr (s, log)) :
    log.countP p ≤ 1 := by
  have hinv : log.countP p ≤ 1 ∧ (0 < log.countP p → T s) := by
    refine Run.always (I := fun q => q.2.countP p ≤ 1 ∧ (0 < q.2.countP p → T q.1)) ?_ ?_ h
    · exact ⟨Nat.zero_le 1, fun h0 => absurd h0 (Nat.lt_irrefl 0)⟩
    · rintro ⟨s, log⟩ a ⟨s', log'⟩ ev ⟨hle, hT⟩ hg hs
      obtain ⟨hstep, hlog⟩ := step_withHistory hs
      dsimp only at hle hT hstep hlog ⊢
      rw [hlog, List.countP_append]
      by_cases hnew : ∃ e, notes s a = some e ∧ p e = true
      · obtain ⟨e, he, hp⟩ := hnew
        obtain ⟨hbefore, hafter⟩ := hfire s a s' ev e hstep he hp
        -- it did not hold before, so no such note was made
        have hzero : log.countP p = 0 := Nat.eq_zero_of_not_pos fun h0 => hbefore (hT h0)
        rw [hzero, he]
        exact ⟨by simp [hp], fun _ => hafter⟩
      · have hnone : (notes s a).toList.countP p = 0 := by
          refine List.countP_eq_zero.mpr fun e he hp => hnew ⟨e, Option.mem_toList.mp he, hp⟩
        rw [hnone]
        exact ⟨hle, fun h0 => hkeep (s, log) a s' ev hg hstep (hT h0)⟩
  exact hinv.1

end History

/-! ## Runs computed from a list of actions -/

/-- The run of a list of actions: `none` where an action is not enabled or breaks the guard. -/
def exec (M : Machine σ α ε) (G : σ → α → Prop) [DecidableRel G] : σ → List α →
    Option (σ × List ε)
  | s, [] => some (s, [])
  | s, a :: as =>
    if G s a then
      match M.step s a with
      | some (s', ev) => (exec M G s' as).map fun r => (r.1, ev ++ r.2)
      | none => none
    else none

theorem run_of_exec_aux {M : Machine σ α ε} {G : σ → α → Prop} [DecidableRel G] {s₀ : σ} :
    ∀ (as : List α) {s t : σ} {tr tr' : List ε}, Run M G s₀ tr s →
      exec M G s as = some (t, tr') → Run M G s₀ (tr ++ tr') t
  | [], s, t, tr, tr', h, he => by
      simp only [exec, Option.some.injEq, Prod.mk.injEq] at he
      obtain ⟨rfl, rfl⟩ := he
      simpa using h
  | a :: as, s, t, tr, tr', h, he => by
      unfold exec at he
      split at he
      · rename_i hg
        split at he
        · rename_i s' ev hs
          obtain ⟨⟨t', tr''⟩, hr, e⟩ := Option.map_eq_some_iff.mp he
          simp only [Prod.mk.injEq] at e
          obtain ⟨rfl, rfl⟩ := e
          rw [← List.append_assoc]
          exact run_of_exec_aux as (h.step hg hs) hr
        · cases he
      · cases he

/-- **A computed run is a run.** -/
theorem run_of_exec {M : Machine σ α ε} {G : σ → α → Prop} [DecidableRel G] {s₀ t : σ}
    {as : List α} {tr : List ε} (he : exec M G s₀ as = some (t, tr)) : Run M G s₀ tr t := by
  have h := run_of_exec_aux as (@Run.start _ _ _ M G s₀) he
  simpa using h

/-- Where the run of a list of actions ends, and what is seen of it; where it is no run, its
    start and nothing. -/
def endOf (M : Machine σ α ε) (G : σ → α → Prop) [DecidableRel G] (s₀ : σ) (as : List α) : σ :=
  ((exec M G s₀ as).getD (s₀, [])).1

def traceOf (M : Machine σ α ε) (G : σ → α → Prop) [DecidableRel G] (s₀ : σ) (as : List α) :
    List ε :=
  ((exec M G s₀ as).getD (s₀, [])).2

theorem run_endOf {M : Machine σ α ε} {G : σ → α → Prop} [DecidableRel G] {s₀ : σ}
    {as : List α} (h : (exec M G s₀ as).isSome = true) :
    Run M G s₀ (traceOf M G s₀ as) (endOf M G s₀ as) := by
  obtain ⟨⟨t, tr⟩, he⟩ := Option.isSome_iff_exists.mp h
  unfold traceOf endOf
  rw [he]
  exact run_of_exec he

theorem exec_append {M : Machine σ α ε} {G : σ → α → Prop} [DecidableRel G] (bs : List α) :
    ∀ (as : List α) (s : σ), exec M G s (as ++ bs) =
      (exec M G s as).bind fun r => (exec M G r.1 bs).map fun r' => (r'.1, r.2 ++ r'.2)
  | [], s => by simp [exec]
  | a :: as, s => by
      rw [List.cons_append, exec, exec]
      by_cases hg : G s a
      · rw [if_pos hg, if_pos hg]
        cases M.step s a with
        | none => rfl
        | some r =>
            dsimp only
            rw [exec_append bs as r.1]
            cases exec M G r.1 as with
            | none => rfl
            | some r' =>
                simp only [Option.map_some, Option.bind_some, Option.map_map, List.append_assoc]
                rfl
      · rw [if_neg hg, if_neg hg]
        rfl

/-- The last action of a run is a step from where the actions before it end. -/
theorem endOf_concat {M : Machine σ α ε} {G : σ → α → Prop} [DecidableRel G] {s₀ : σ}
    {as : List α} {a : α} (h : (exec M G s₀ (as ++ [a])).isSome = true) :
    (exec M G s₀ as).isSome = true ∧
      ∃ ev, M.step (endOf M G s₀ as) a = some (endOf M G s₀ (as ++ [a]), ev) := by
  obtain ⟨r, hr⟩ := Option.isSome_iff_exists.mp h
  unfold endOf
  rw [hr]
  rw [exec_append, Option.bind_eq_some_iff] at hr
  obtain ⟨q, hq, hlast⟩ := hr
  obtain ⟨r', hr', rfl⟩ := Option.map_eq_some_iff.mp hlast
  rw [hq]
  refine ⟨rfl, ?_⟩
  unfold exec at hr'
  split at hr'
  · split at hr'
    · rename_i s' ev hs
      cases hr'
      exact ⟨ev, hs⟩
    · cases hr'
  · cases hr'

/-- The same where the state is a pair, of a machine with a history for one. -/
theorem run_endOf_pair {η : Type*} {M : Machine (σ × η) α ε} {G : σ × η → α → Prop} [DecidableRel G]
    {s₀ : σ × η} {as : List α} (h : (exec M G s₀ as).isSome = true) :
    Run M G s₀ (traceOf M G s₀ as) ((endOf M G s₀ as).1, (endOf M G s₀ as).2) :=
  run_endOf h

end Transition
