/-
  File:      IppPrinterApp/Timestamps.lean
  Subject:   When a job was completed, and whether it was.

  A job's `completed_at` is stamped by the three mutators of the registry: by `cancel` where the
  job is still active, by `set_state` where the new state is terminal and there is no stamp yet,
  by `set_failure` always. `set_state` looks neither at the old state nor at the old stamp when
  it writes a state that is not terminal.

  * `JobOp.stampedFrom_iff` -- when one write keeps the stamp of a job and its state in step;
  * `respectsStamps_iff` -- so what a step of the server may not do;
  * `completed_at_iff_terminal`: in every run that keeps to it, a job has a completion time
    exactly if it is terminal, reports it exactly then, and keeps it.

  `canceled_job_processing` is the run in which a job is canceled before its worker gets to it:
  it is Processing from then on, completed some time before.
-/
import IppPrinterApp.Lifecycle

namespace IppPrinterApp

open Transition

/-! ## 1. What a write does to the stamp -/

/-- The job has a completion time exactly if it is terminal. -/
def JobRecord.Stamped (j : JobRecord) : Prop :=
  j.completedAt.isSome = true ↔ j.state.isTerminal = true

instance (j : JobRecord) : Decidable j.Stamped :=
  inferInstanceAs (Decidable (j.completedAt.isSome = true ↔ j.state.isTerminal = true))

/-- A job after `j`: its completion time agrees with its state, and is that of `j` if `j` had
    one. -/
structure JobRecord.StampedFrom (j j' : JobRecord) : Prop where
  stamped : j'.Stamped
  kept : ∀ t ∈ j.completedAt, t ∈ j'.completedAt

/-- What a write over a terminal job has to be: of a terminal state, and of no other time. -/
def JobOp.keepsStamp (now : SystemTime) (j : JobRecord) : JobOp → Bool
  | .setState state => state.isTerminal
  | .setFailure _ _ => j.completedAt == some now
  | .cancel => true

namespace JobRecord

variable {j : JobRecord} {now : SystemTime}

theorem Stamped.terminal (hj : j.Stamped) {t : SystemTime} (ht : t ∈ j.completedAt) :
    j.state.isTerminal = true := by
  refine hj.mp ?_
  rw [Option.mem_def.mp ht]
  rfl

theorem Stamped.active (hj : j.Stamped) (ht : j.state.isTerminal = false) :
    j.completedAt = none := by
  cases hc : j.completedAt with
  | none => rfl
  | some t =>
      rw [hj.terminal hc] at ht
      cases ht

/-- A job that does not change. -/
theorem Stamped.refl (hj : j.Stamped) : j.StampedFrom j := ⟨hj, fun _ ht => ht⟩

/-- A terminal state stamps a job that has no stamp. -/
theorem withState_terminal {st : JobState} (hst : st.isTerminal = true) :
    j.StampedFrom (j.withState now st) where
  stamped := by
    unfold Stamped withState
    dsimp only
    rw [hst, Bool.true_and]
    cases j.completedAt <;> simp
  kept := fun t ht => by
    have hc := Option.mem_def.mp ht
    unfold withState
    dsimp only
    rw [hc, Option.isNone_some, Bool.and_false, ← hc]
    exact ht

/-- Any other state leaves the stamp where it is. -/
theorem withState_active {st : JobState} (hst : st.isTerminal = false) :
    (j.withState now st).completedAt = j.completedAt := by
  unfold withState
  dsimp only
  rw [hst, Bool.false_and]
  rfl

/-- A cancel stamps an active job, which has no stamp, and leaves a terminal one alone. -/
theorem Stamped.withCancel (hj : j.Stamped) (now : SystemTime) :
    j.StampedFrom (j.withCancel now) := by
  cases ht : j.state.isTerminal with
  | true =>
      rw [withCancel_terminal ht]
      exact hj.refl
  | false =>
      rw [withCancel_active ht]
      refine ⟨⟨fun _ => rfl, fun _ => rfl⟩, fun t hm => ?_⟩
      rw [hj.active ht] at hm
      cases hm

end JobRecord

/-- **One write**: exactly the writes that keep to `keepsStamp` where the job is terminal keep
    its stamp and its state in step. -/
theorem JobOp.stampedFrom_iff {j : JobRecord} (hj : j.Stamped) (now : SystemTime) (op : JobOp) :
    j.StampedFrom (op.apply now j) ↔
      (j.state.isTerminal = true → op.keepsStamp now j = true) := by
  cases op with
  | setState st =>
      show j.StampedFrom (j.withState now st) ↔ (j.state.isTerminal = true → st.isTerminal = true)
      cases hst : st.isTerminal with
      | true => exact ⟨fun _ _ => rfl, fun _ => JobRecord.withState_terminal hst⟩
      | false =>
          have hc : (j.withState now st).completedAt = j.completedAt :=
            JobRecord.withState_active hst
          constructor
          · intro h ht
            have hs := h.stamped
            unfold JobRecord.Stamped at hs
            rw [hc, JobRecord.withState_state, hst] at hs
            exact hs.mp (hj.mpr ht)
          · intro h
            refine ⟨?_, fun t ht => by rw [hc]; exact ht⟩
            have hactive : j.state.isTerminal = false := by
              cases ht : j.state.isTerminal with
              | false => rfl
              | true => exact absurd (h ht) (fun e => by cases e)
            unfold JobRecord.Stamped
            rw [hc, hj.active hactive, JobRecord.withState_state, hst]
            exact ⟨fun e => e, fun e => e⟩
  | setFailure reasons message =>
      show j.StampedFrom (j.withFailure now reasons message) ↔
        (j.state.isTerminal = true → (j.completedAt == some now) = true)
      constructor
      · intro h ht
        obtain ⟨t, hc⟩ := Option.isSome_iff_exists.mp (hj.mpr ht)
        rw [hc, ← Option.mem_def.mp (h.kept t hc)]
        exact beq_self_eq_true _
      · intro h
        refine ⟨⟨fun _ => rfl, fun _ => rfl⟩, fun t ht => ?_⟩
        have hc := eq_of_beq (h (hj.terminal ht))
        rw [Option.mem_def.mp ht] at hc
        exact hc.symm
  | cancel => exact ⟨fun _ _ => rfl, fun _ => hj.withCancel now⟩

/-! ## 2. Runs -/

/-- The worker's next write, if it is over a terminal job, is of a terminal state and stamps no
    other completion time. -/
def RespectsStamps (s : System) : Action → Prop
  | .worker i now => ∀ w ∈ s.workers[i]?, ∀ op ∈ w.pc.jobOp, ∀ j ∈ s.app.jobs.get w.task.id,
      j.state.isTerminal = true → op.keepsStamp now j = true
  | _ => True

instance : DecidableRel RespectsStamps
  | _, .request .. | _, .cancelNext .. | _, .identified _ | _, .worker .. | _, .outcome ..
  | _, .pollTick | _, .pollAnswer .. | _, .poll | _, .mediaPost .. | _, .mediaAnswer ..
  | _, .media .. => by
    unfold RespectsStamps
    infer_instance

/-- Every job has a completion time exactly if it is terminal. -/
def AllStamped (g : JobRegistry) : Prop := ∀ (k : Nat) (j : JobRecord), g.jobs[k]? = some j → j.Stamped

section Runs

variable {o : Options} {s s' t : System} {a : Action} {ev tr : List Event} {k : Nat}

/-- One change of a job under the guard. -/
theorem JobChange.stampedFrom {j j' : JobRecord} (h : JobChange s a k j j')
    (hk : s.app.jobs.jobs[k]? = some j) (hj : j.Stamped) (hg : RespectsStamps s a) :
    j.StampedFrom j' := by
  cases h with
  | same => exact hj.refl
  | canceled now => exact hj.withCancel now
  | worked i now w op ha hw hop hslot =>
      subst ha
      have hget : s.app.jobs.get w.task.id = some j := by
        rw [JobRegistry.get_eq_getElem?, hslot]
        exact hk
      exact (JobOp.stampedFrom_iff hj now op).mpr (hg w hw op hop j hget)

/-- **The guard is exact**: from a state in which stamps and states agree, a step keeps both in
    step and every stamp as it is, if and only if it meets the guard. -/
theorem respectsStamps_iff (hall : AllStamped s.app.jobs) (h : step o s a = some (s', ev)) :
    RespectsStamps s a ↔ ∀ (k : Nat) (j j' : JobRecord), s.app.jobs.jobs[k]? = some j →
      s'.app.jobs.jobs[k]? = some j' → j.StampedFrom j' := by
  constructor
  · intro hg k j j' hk hk'
    obtain ⟨j₁, hj₁, hc⟩ := (step_jobs h).change hk
    rw [hk'] at hj₁
    cases hj₁
    exact hc.stampedFrom hk (hall k j hk) hg
  · intro hkeep
    cases a with
    | worker i now =>
        intro w hw op hop j hj
        obtain ⟨hk, hafter⟩ := step_worker_writes h hw hop hj
        exact (JobOp.stampedFrom_iff (hall _ j hk) now op).mp (hkeep _ j _ hk hafter)
    | _ => trivial

/-- A job is active and has no completion time when it is created. -/
theorem create_stamped (g : JobRegistry) (now : SystemTime) (p u : String) :
    (g.create now p u).1.Stamped := by
  unfold JobRecord.Stamped JobRegistry.create
  exact ⟨fun e => e, fun e => e⟩

/-- A job after a step was there before it, or has just been created. -/
theorem JobsStep.jobs_cases {g : JobRegistry} {ws : List Worker} (h : JobsStep o s a g ws)
    {j' : JobRecord} (hk : g.jobs[k]? = some j') :
    (∃ j, s.app.jobs.jobs[k]? = some j) ∨
      ∃ now p u, j' = (s.app.jobs.create now p u).1 := by
  by_cases hlt : k < s.app.jobs.jobs.length
  · exact Or.inl ⟨_, List.getElem?_eq_getElem hlt⟩
  · have hge : s.app.jobs.jobs[k]? = none := List.getElem?_eq_none (Nat.le_of_not_lt hlt)
    have hupdate : ∀ id f, (s.app.jobs.update id f).jobs[k]? = none := fun id f =>
      List.getElem?_eq_none (by rw [JobRegistry.update_length]; exact Nat.le_of_not_lt hlt)
    have hcreate : ∀ now p u, (s.app.jobs.create now p u).2.jobs[k]? = some j' →
        j' = (s.app.jobs.create now p u).1 := by
      intro now p u hc
      rcases JobRegistry.create_getElem?_cases hc with hold | ⟨_, hnew⟩
      · rw [hge] at hold
        cases hold
      · exact hnew
    cases h with
    | same => rw [hge] at hk; cases hk
    | request clock name _ req _ _ _ _ ha =>
        cases ha with
        | same => rw [hge] at hk; cases hk
        | created => exact Or.inr ⟨_, _, _, hcreate _ _ _ hk⟩
        | printed => exact Or.inr ⟨_, _, _, hcreate _ _ _ hk⟩
        | sent => rw [hge] at hk; cases hk
        | canceled id => exact absurd ((hupdate id _).symm.trans hk) (fun e => by cases e)
    | canceled i now id => exact absurd ((hupdate id _).symm.trans hk) (fun e => by cases e)
    | worked i now w w' hw hn =>
        rw [WorkerPc.jobsAfter_getElem?, hge, Option.map_none, ite_self] at hk
        cases hk
    | returned => rw [hge] at hk; cases hk

theorem AllStamped.step (hall : AllStamped s.app.jobs) (hg : RespectsStamps s a)
    (h : step o s a = some (s', ev)) : AllStamped s'.app.jobs := by
  intro k j' hk'
  rcases (step_jobs h).jobs_cases hk' with ⟨j, hk⟩ | ⟨now, p, u, rfl⟩
  · exact ((respectsStamps_iff hall h).mp hg k j j' hk hk').stamped
  · exact create_stamped s.app.jobs now p u

/-- A stamp, once there, stays. -/
theorem stamp_stays {j : JobRecord} {c : SystemTime} (hall : AllStamped s.app.jobs)
    (h : Run (server o) RespectsStamps s tr t) (hk : s.app.jobs.jobs[k]? = some j)
    (hc : c ∈ j.completedAt) :
    ∃ j', t.app.jobs.jobs[k]? = some j' ∧ c ∈ j'.completedAt := by
  have hboth : AllStamped t.app.jobs ∧
      ∃ j', t.app.jobs.jobs[k]? = some j' ∧ c ∈ j'.completedAt := by
    refine Run.always (I := fun t => AllStamped t.app.jobs ∧
      ∃ j', t.app.jobs.jobs[k]? = some j' ∧ c ∈ j'.completedAt) ⟨hall, j, hk, hc⟩ ?_ h
    rintro r b r' ev' ⟨hr, j₁, hk₁, hc₁⟩ hg hs
    obtain ⟨j₂, hk₂, hch⟩ := (step_jobs hs).change hk₁
    exact ⟨hr.step hg hs, j₂, hk₂, (hch.stampedFrom hk₁ (hr k j₁ hk₁) hg).kept c hc₁⟩
  exact hboth.2

/-- `time-at-completed` is among the attributes of a job exactly if it has a completion time. -/
theorem mem_names_timeAtCompleted (j : JobRecord) (printerUriStr : String) (clock : Clock) :
    "time-at-completed" ∈ (jobAttributes j printerUriStr clock).map Prod.fst ↔
      j.completedAt.isSome = true := by
  unfold jobAttributes JobRecord.completedSecs
  cases j.completedAt with
  | none => cases j.message.isEmpty <;> simp
  | some t => simp

/-- **The completion time tells the finished jobs**: in every state of a run whose workers
    respect stamps, a job has a completion time exactly if it is terminal, `time-at-completed` is
    reported exactly then, and once there the time is the same ever after. -/
theorem completed_at_iff_terminal {d : Deployment} (h : Run (server o) RespectsStamps (boot d) tr s)
    {k : Nat} {j : JobRecord} (hk : s.app.jobs.jobs[k]? = some j) :
    (j.completedAt.isSome = true ↔ j.state.isTerminal = true) ∧
      (j.completedSecs = none ↔ j.state.isTerminal = false) ∧
      (∀ printerUriStr clock,
        "time-at-completed" ∈ (jobAttributes j printerUriStr clock).map Prod.fst ↔
          j.state.isTerminal = true) ∧
      ∀ (tr' : List Event) (t : System) (c : SystemTime),
        Run (server o) RespectsStamps s tr' t → j.completedAt = some c →
          ∃ j', t.app.jobs.jobs[k]? = some j' ∧ j'.completedAt = some c := by
  have hall : AllStamped s.app.jobs :=
    Run.always (I := fun s => AllStamped s.app.jobs) (fun k j hk => by cases hk)
      (fun _ _ _ _ hr hg hs => hr.step hg hs) h
  have hj : j.Stamped := hall k j hk
  refine ⟨hj, ?_, fun uriStr clock => ?_, fun tr' t c hr hc => stamp_stays hall hr hk hc⟩
  · unfold JobRecord.completedSecs
    rw [Option.map_eq_none_iff, ← Option.not_isSome_iff_eq_none, not_congr hj,
      Bool.not_eq_true]
  · exact (mem_names_timeAtCompleted j uriStr clock).trans hj

end Runs

/-! ## 3. Runs on fixed inputs -/

/-- Print-Job and its worker's whole life, the callback succeeding. -/
def printedThrough : System :=
  endOf (server Trial.options) RespectsStamps (boot Trial.deployment)
    ([Trial.post "p" Trial.print] ++ Trial.times 4 (.worker 0 5) ++ [.outcome 0 .completed] ++
      Trial.times 4 (.worker 0 6))

/-- Its job. -/
def printedJob : JobRecord :=
  { canceledJob with state := .completed, completedAt := some 6, cancelFlag := false }

theorem completed_at_iff_terminal_printed :
    (printedJob.completedAt.isSome = true ↔ printedJob.state.isTerminal = true) ∧
      (printedJob.completedSecs = none ↔ printedJob.state.isTerminal = false) ∧
      (∀ printerUriStr clock,
        "time-at-completed" ∈ (jobAttributes printedJob printerUriStr clock).map Prod.fst ↔
          printedJob.state.isTerminal = true) ∧
      ∀ (tr' : List Event) (t : System) (c : SystemTime),
        Run (server Trial.options) RespectsStamps printedThrough tr' t →
          printedJob.completedAt = some c →
          ∃ j', t.app.jobs.jobs[0]? = some j' ∧ j'.completedAt = some c :=
  completed_at_iff_terminal (run_endOf (by decide +kernel)) (by decide +kernel)

/-- Print-Job, its worker marks the printer, Cancel-Job, and the worker goes on. -/
def resumedAfterCancel : System :=
  endOf (server Trial.options) anyStep (boot Trial.deployment)
    [Trial.post "p" Trial.print, .worker 0 5, Trial.post "p" Trial.cancel, .worker 0 6]

/-- The job is Processing, and was completed when it was canceled. -/
theorem canceled_job_processing :
    ¬ ∀ (o : Options) (d : Deployment) (tr : List Event) (s : System) (k : Nat) (j : JobRecord),
        Run (server o) anyStep (boot d) tr s → s.app.jobs.jobs[k]? = some j →
        (j.completedAt.isSome = true ↔ j.state.isTerminal = true) := by
  intro h
  have hj := h Trial.options Trial.deployment _ resumedAfterCancel 0
    { canceledJob with state := .processing } (run_endOf (by decide +kernel)) (by decide +kernel)
  cases hj.mp rfl

end IppPrinterApp
