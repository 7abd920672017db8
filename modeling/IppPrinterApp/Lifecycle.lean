/-
  File:      IppPrinterApp/Lifecycle.lean
  Subject:   What becomes of a job: terminal states and the verdict of its worker.

  A job's state is written by requests (`cancel`) and by workers (`set_state`, `set_failure`,
  `cancel`). Only `cancel` looks at the state it overwrites.

  * `terminal_state_stays`: a terminal state stays in every run in which no worker writes another
    state over one (`RespectsTerminal`); `respectsTerminal_iff` -- no weaker condition will do;
  * `worker_exit_settles`: a job whose only worker has exited is terminal, and canceled exactly
    if its flag is set, in every run in which no worker writes the result of a print over a
    cancel (`RespectsCancel`).

  Both conditions are about the worker's writes of a state. `terminal_state_lost` and
  `canceled_job_aborted` are the runs in which a failing print overwrites a cancel.
-/
import IppPrinterApp.System

namespace IppPrinterApp

open Transition

/-! ## 1. Terminal states -/

/-- The state a mutator writes without looking at the one that is there. -/
def JobOp.writes : JobOp → Option JobState
  | .setState state => some state
  | .setFailure _ _ => some .aborted
  | .cancel => none

/-- The worker's next write, if it is one of a state, does not put another state over a terminal
    one. -/
def RespectsTerminal (s : System) : Action → Prop
  | .worker i _ => ∀ w ∈ s.workers[i]?, ∀ st ∈ w.pc.jobOp.bind JobOp.writes,
      ∀ j ∈ s.app.jobs.get w.task.id, j.state.isTerminal = true → j.state = st
  | _ => True

instance : DecidableRel RespectsTerminal
  | _, .request .. | _, .cancelNext .. | _, .identified _ | _, .worker .. | _, .outcome ..
  | _, .pollTick | _, .pollAnswer .. | _, .poll | _, .mediaPost .. | _, .mediaAnswer ..
  | _, .media .. => by
    unfold RespectsTerminal
    infer_instance

/-- A mutator that writes a state leaves the job in that state. -/
theorem JobOp.apply_state {op : JobOp} {st : JobState} (h : op.writes = some st)
    (now : SystemTime) (j : JobRecord) : (op.apply now j).state = st := by
  cases op with
  | setState state =>
      cases h
      rfl
  | setFailure reasons message =>
      cases h
      rfl
  | cancel => cases h

section Terminal

variable {o : Options} {s s' t : System} {a : Action} {ev tr : List Event} {k : Nat}

/-- One change of a terminal job under the guard. -/
theorem JobChange.state_eq {j j' : JobRecord} (h : JobChange s a k j j')
    (hk : s.app.jobs.jobs[k]? = some j) (ht : j.state.isTerminal = true)
    (hg : RespectsTerminal s a) : j'.state = j.state := by
  cases h with
  | same => rfl
  | canceled now => exact congrArg JobRecord.state (JobRecord.withCancel_terminal ht)
  | worked i now w op ha hw hop hslot =>
      subst ha
      cases hwr : op.writes with
      | some st =>
          have hget : s.app.jobs.get w.task.id = some j := by
            rw [JobRegistry.get_eq_getElem?, hslot]
            exact hk
          have hst : st ∈ w.pc.jobOp.bind JobOp.writes := by
            rw [hop]
            exact hwr
          rw [JobOp.apply_state hwr]
          exact (hg w hw st hst j hget ht).symm
      | none =>
          have e : op = .cancel := by cases op <;> first | rfl | cases hwr
          subst e
          exact congrArg JobRecord.state (JobRecord.withCancel_terminal ht)

/-- **The guard is exact**: a step keeps every terminal state if and only if it meets it. -/
theorem respectsTerminal_iff (h : step o s a = some (s', ev)) :
    RespectsTerminal s a ↔
      ∀ (k : Nat) (j j' : JobRecord), s.app.jobs.jobs[k]? = some j → j.state.isTerminal = true →
        s'.app.jobs.jobs[k]? = some j' → j'.state = j.state := by
  constructor
  · intro hg k j j' hk ht hk'
    obtain ⟨j₁, hj₁, hc⟩ := (step_jobs h).change hk
    rw [hk'] at hj₁
    cases hj₁
    exact hc.state_eq hk ht hg
  · intro hall
    cases a with
    | worker i now =>
        intro w hw st hst j hj ht
        obtain ⟨op, hop, hwr⟩ := Option.bind_eq_some_iff.mp hst
        obtain ⟨hk, hafter⟩ := step_worker_writes h hw hop hj
        have hstate := hall _ j _ hk ht hafter
        rw [JobOp.apply_state hwr] at hstate
        exact hstate.symm
    | _ => trivial

/-- **Terminal states stay**: once a job is terminal, its state is the same ever after, in every
    run whose workers respect terminal states. -/
theorem terminal_state_stays {j : JobRecord} (h : Run (server o) RespectsTerminal s tr t)
    (hk : s.app.jobs.jobs[k]? = some j) (ht : j.state.isTerminal = true) :
    ∃ j', t.app.jobs.jobs[k]? = some j' ∧ j'.state = j.state := by
  refine Run.always (I := fun t => ∃ j', t.app.jobs.jobs[k]? = some j' ∧ j'.state = j.state)
    ⟨j, hk, rfl⟩ (fun r b r' ev' hI hg hs => ?_) h
  obtain ⟨j₁, hj₁, e₁⟩ := hI
  obtain ⟨j₂, hj₂, hc⟩ := (step_jobs hs).change hj₁
  refine ⟨j₂, hj₂, ?_⟩
  rw [hc.state_eq hj₁ (by rw [e₁]; exact ht) hg, e₁]

end Terminal

/-- Print-Job, the worker calls the print callback, Cancel-Job. -/
def canceledMidPrint : System :=
  endOf (server Trial.options) anyStep (boot Trial.deployment)
    ([Trial.post "p" Trial.print] ++ Trial.times 4 (.worker 0 5) ++ [Trial.post "p" Trial.cancel])

/-- Its job. -/
def canceledJob : JobRecord where
  id := 1
  printerName := "p"
  owner := "ann"
  state := .canceled
  reasons := .empty
  message := ""
  createdAt := 1000000000
  completedAt := some 1000000000
  cancelFlag := true

theorem canceledMidPrint_job : canceledMidPrint.app.jobs.jobs[0]? = some canceledJob := by
  decide +kernel

/-- The callback completes after all, and the worker exits. -/
theorem terminal_state_stays_canceled :
    ∃ j', (endOf (server Trial.options) RespectsTerminal canceledMidPrint
        ([.outcome 0 .completed] ++ Trial.times 8 (.worker 0 6))).app.jobs.jobs[0]? = some j' ∧
      j'.state = canceledJob.state :=
  terminal_state_stays (run_endOf (by decide +kernel)) canceledMidPrint_job rfl

/-- The callback fails: the canceled job becomes an aborted one. -/
theorem terminal_state_lost :
    ¬ ∀ (o : Options) (d : Deployment) (tr tr' : List Event) (s t : System) (k : Nat)
        (j j' : JobRecord), Run (server o) anyStep (boot d) tr s →
        s.app.jobs.jobs[k]? = some j → j.state.isTerminal = true →
        Run (server o) anyStep s tr' t → t.app.jobs.jobs[k]? = some j' → j'.state = j.state := by
  intro h
  have e := h Trial.options Trial.deployment _ _ canceledMidPrint
    (endOf (server Trial.options) anyStep canceledMidPrint
      ([.outcome 0 (.failed ⟨.empty, "jam"⟩)] ++ Trial.times 3 (.worker 0 6)))
    0 canceledJob { canceledJob with state := .aborted, message := "jam", completedAt := some 6 }
    (run_endOf (by decide +kernel)) canceledMidPrint_job rfl (run_endOf (by decide +kernel))
    (by decide +kernel)
  cases e

/-! ## 2. The verdict of the worker -/

/-- A job that no worker has finished: not completed, not aborted, and canceled only with its
    flag set. -/
structure JobRecord.Open (j : JobRecord) : Prop where
  notCompleted : j.state ≠ .completed
  notAborted : j.state ≠ .aborted
  canceled : j.state = .canceled → j.cancelFlag = true

/-- A finished job whose state and flag agree. -/
structure JobRecord.Settled (j : JobRecord) : Prop where
  terminal : j.state.isTerminal = true
  canceled : j.state = .canceled ↔ j.cancelFlag = true

/-- What holds of a job while its only worker is at a position. -/
def WorkerPc.JobAt : WorkerPc → JobRecord → Prop
  | exitCheck, j => (j.cancelFlag = true ∧ j.Open) ∨ j.Settled
  | cancelReasons, j => j.cancelFlag = true ∧ j.Open
  | cancelIdle, j => j.cancelFlag = true ∧ j.Open
  | cancelJob, j => j.cancelFlag = true ∧ j.Open
  | snapshot, j => j.Settled
  | save _, j => j.Settled
  | done, j => j.Settled
  | _, j => j.Open

/-- What holds of a job with these workers: with two or more of them, nothing is said. -/
def JobRecord.Standing (j : JobRecord) : List Worker → Prop
  | [] => j.Open
  | [w] => w.pc.JobAt j
  | _ => True

/-- The write of a print's result. -/
def WorkerPc.writesResult : WorkerPc → Bool
  | completedState => true
  | failedState _ => true
  | _ => false

/-- The worker's next write, if it is the result of a print, is not over a cancel. -/
def RespectsCancel (s : System) : Action → Prop
  | .worker i _ => ∀ w ∈ s.workers[i]?, w.pc.writesResult = true →
      s.app.jobs.isCanceled w.task.slot = false
  | _ => True

instance : DecidableRel RespectsCancel
  | _, .request .. | _, .cancelNext .. | _, .identified _ | _, .worker .. | _, .outcome ..
  | _, .pollTick | _, .pollAnswer .. | _, .poll | _, .mediaPost .. | _, .mediaAnswer ..
  | _, .media .. => by
    unfold RespectsCancel
    infer_instance

section Moves

variable {j : JobRecord}

theorem JobRecord.Open.of_canceled (hs : j.state = .canceled) (hf : j.cancelFlag = true) :
    j.Open where
  notCompleted := by rw [hs]; exact fun e => by cases e
  notAborted := by rw [hs]; exact fun e => by cases e
  canceled := fun _ => hf

theorem JobRecord.Settled.of_canceled (hs : j.state = .canceled) (hf : j.cancelFlag = true) :
    j.Settled where
  terminal := by rw [hs]; rfl
  canceled := ⟨fun _ => hf, fun _ => hs⟩

/-- The only terminal state of an open job is Canceled. -/
theorem JobRecord.Open.canceled_of_terminal (h : j.Open) (ht : j.state.isTerminal = true) :
    j.state = .canceled := by
  cases hst : j.state with
  | canceled => rfl
  | completed => exact absurd hst h.notCompleted
  | aborted => exact absurd hst h.notAborted
  | _ => rw [hst] at ht; cases ht

/-- What a cancel makes of an open job. -/
theorem JobRecord.Open.withCancel (h : j.Open) (now : SystemTime) :
    (j.withCancel now).state = .canceled ∧ (j.withCancel now).cancelFlag = true := by
  cases ht : j.state.isTerminal with
  | true =>
      have hs := h.canceled_of_terminal ht
      rw [JobRecord.withCancel_terminal ht]
      exact ⟨hs, h.canceled hs⟩
  | false =>
      rw [JobRecord.withCancel_active ht]
      exact ⟨rfl, rfl⟩

/-- A cancel by anyone keeps what holds of the job, wherever its worker is. -/
theorem WorkerPc.JobAt.withCancel {pc : WorkerPc} (h : pc.JobAt j) (now : SystemTime) :
    pc.JobAt (j.withCancel now) := by
  have hopen : j.Open → (j.withCancel now).Open := fun ho =>
    .of_canceled (ho.withCancel now).1 (ho.withCancel now).2
  have hset : j.Settled → (j.withCancel now).Settled := fun hs => by
    rw [JobRecord.withCancel_terminal hs.terminal]
    exact hs
  have hboth : j.cancelFlag = true ∧ j.Open →
      (j.withCancel now).cancelFlag = true ∧ (j.withCancel now).Open := fun hb =>
    ⟨(hb.2.withCancel now).2, hopen hb.2⟩
  cases pc with
  | exitCheck => exact h.imp hboth hset
  | cancelReasons => exact hboth h
  | cancelIdle => exact hboth h
  | cancelJob => exact hboth h
  | snapshot => exact hset h
  | save => exact hset h
  | done => exact hset h
  | _ => exact hopen h

theorem JobRecord.Standing.withCancel {ws : List Worker} (h : j.Standing ws) (now : SystemTime) :
    (j.withCancel now).Standing ws := by
  match ws, h with
  | [], h => exact .of_canceled (JobRecord.Open.withCancel h now).1 (JobRecord.Open.withCancel h now).2
  | [w], h => exact WorkerPc.JobAt.withCancel h now
  | _ :: _ :: _, _ => trivial

/-- A write of a non-terminal state keeps a job open. -/
theorem JobRecord.Open.withState (now : SystemTime) {st : JobState}
    (h : st.isTerminal = false) : (j.withState now st).Open where
  notCompleted := fun e => by
    have e' : st = .completed := e
    rw [e'] at h; cases h
  notAborted := fun e => by
    have e' : st = .aborted := e
    rw [e'] at h; cases h
  canceled := fun e => by
    have e' : st = .canceled := e
    rw [e'] at h; cases h

/-- A result written over no cancel settles the job. -/
theorem JobRecord.Settled.of_result (hs : j.state = .completed ∨ j.state = .aborted)
    (hf : j.cancelFlag = false) : j.Settled where
  terminal := by rcases hs with hs | hs <;> rw [hs] <;> rfl
  canceled := by
    constructor
    · intro e
      rcases hs with hs | hs <;> rw [hs] at e <;> cases e
    · intro e
      rw [hf] at e
      cases e

/-- **One access of the only worker** takes what holds at its position to what holds at its
    next one. -/
theorem Worker.next_jobAt {retryMs : Option String} {current : List PrinterConfig}
    {w w' : Worker} (now : SystemTime) (hn : w.next retryMs j.cancelFlag current = some w')
    (hj : w.pc.JobAt j) (hg : w.pc.writesResult = true → j.cancelFlag = false) :
    w'.pc.JobAt (w.pc.jobAfter now j) := by
  obtain ⟨task, pc, backoff⟩ := w
  cases pc with
  | markJob =>
      cases hn
      exact JobRecord.Open.withState now rfl
  | heldState =>
      cases hn
      exact JobRecord.Open.withState now rfl
  | loopHead =>
      cases hn
      cases hf : j.cancelFlag with
      | true => exact Or.inl ⟨hf, hj⟩
      | false => exact hj
  | completedCheck =>
      cases hn
      cases hf : j.cancelFlag with
      | true => exact Or.inl ⟨hf, hj⟩
      | false => exact hj
  | completedState =>
      cases hn
      exact Or.inr (.of_result (Or.inl rfl) (hg rfl))
  | failedState f =>
      cases hn
      exact Or.inr (.of_result (Or.inr rfl) (hg rfl))
  | wait left =>
      rcases Worker.next_wait rfl hn with ⟨hf, hpc⟩ | ⟨hf, ⟨left', hpc⟩ | hpc⟩
      · rw [hpc]
        exact Or.inl ⟨hf, hj⟩
      · rw [hpc]
        exact hj
      · rw [hpc]
        exact hj
  | exitCheck =>
      cases hn
      cases hf : j.cancelFlag with
      | true =>
          rcases hj with ⟨_, ho⟩ | hs
          · exact ⟨hf, ho⟩
          · exact ⟨hf, .of_canceled (hs.canceled.mpr hf) hf⟩
      | false =>
          rcases hj with ⟨ht, _⟩ | hs
          · rw [hf] at ht; cases ht
          · exact hs
  | cancelJob =>
      cases hn
      have hc := JobRecord.Open.withCancel hj.2 now
      exact .of_canceled hc.1 hc.2
  | printing => cases hn
  | done => cases hn
  | _ => cases hn; exact hj

end Moves

section Verdict

variable {o : Options} {s s' t : System} {a : Action} {ev tr : List Event}
  {g : JobRegistry} {ws : List Worker}

/-- A first worker finds the job open; a second one ends what is said of it. -/
theorem JobRecord.Standing.spawn {j : JobRecord} {ws : List Worker} (h : j.Standing ws)
    (task : PrintTask) : j.Standing (ws ++ [task.spawn]) := by
  match ws, h with
  | [], h => exact h
  | [_], _ => trivial
  | _ :: _ :: _, _ => trivial

/-- A worker moves: all that matters is what holds if it is the only one. -/
theorem JobRecord.Standing.move {j j' : JobRecord} {before after : List Worker} {w w' : Worker}
    (h : j.Standing (before ++ w :: after)) (hm : w.pc.JobAt j → w'.pc.JobAt j') :
    j'.Standing (before ++ w' :: after) := by
  match before, after, h with
  | [], [], h => exact hm h
  | [], _ :: _, _ => trivial
  | [_], _, _ => trivial
  | _ :: _ :: _, _, _ => trivial

/-- **Every guarded step keeps the standing of the jobs.** -/
theorem standing_survives (hg : RespectsCancel s a) : Survives JobRecord.Standing o s a where
  created := fun _ _ _ => ⟨(nomatch ·), (nomatch ·), (nomatch ·)⟩
  canceled := fun now j ws h => JobRecord.Standing.withCancel h now
  spawned := fun task j ws h => JobRecord.Standing.spawn h task
  worked := fun i now w w' j before after ha hw hj hn h => by
    subst ha
    refine JobRecord.Standing.move h fun hat => Worker.next_jobAt now hn hat fun hr => ?_
    rw [← JobRegistry.isCanceled_eq hj]
    exact hg w hw hr
  returned := fun out w j before after hp h => by
    refine JobRecord.Standing.move h fun hat => ?_
    rw [hp] at hat
    cases out <;> exact hat

/-- Wherever the only worker is, a job with its flag set has no result of a print. -/
theorem WorkerPc.JobAt.not_result {pc : WorkerPc} {j : JobRecord} (h : pc.JobAt j)
    (hf : j.cancelFlag = true) : j.state ≠ .completed ∧ j.state ≠ .aborted := by
  have hopen : j.Open → j.state ≠ .completed ∧ j.state ≠ .aborted := fun ho =>
    ⟨ho.notCompleted, ho.notAborted⟩
  have hset : j.Settled → j.state ≠ .completed ∧ j.state ≠ .aborted := fun hs =>
    hopen (.of_canceled (hs.canceled.mpr hf) hf)
  cases pc with
  | exitCheck =>
      rcases h with ⟨_, ho⟩ | hs
      · exact hopen ho
      · exact hset hs
  | cancelReasons => exact hopen h.2
  | cancelIdle => exact hopen h.2
  | cancelJob => exact hopen h.2
  | snapshot => exact hset h
  | save => exact hset h
  | done => exact hset h
  | _ => exact hopen h

/-- **The verdict of a job's only worker**: in every run whose workers respect cancels, a job
    whose flag is set is never Completed or Aborted, and once its worker has exited it is
    terminal, and Canceled if and only if its flag is set. -/
theorem worker_exit_settles {d : Deployment} {k : Nat} {w : Worker}
    (h : Run (server o) RespectsCancel (boot d) tr t) (hlt : t.app.jobs.jobs.length < 2 ^ 32)
    (honly : workersOf k t.workers = [w]) :
    ∃ j, t.app.jobs.jobs[k]? = some j ∧
      (j.cancelFlag = true → j.state ≠ .completed ∧ j.state ≠ .aborted) ∧
      (w.pc = .done → j.state.isTerminal = true ∧
        (j.state = .canceled ↔ j.cancelFlag = true)) := by
  have hmem : w ∈ workersOf k t.workers := by
    rw [honly]
    exact List.mem_singleton_self w
  obtain ⟨hw, hslot⟩ := Pool.mem_tasksOf.mp hmem
  obtain ⟨j, hj, _⟩ := run_taskJobs h w hw
  rw [hslot] at hj
  have hat := run_eachJob (fun _ _ hg => standing_survives hg) h hlt k j hj
  rw [honly] at hat
  refine ⟨j, hj, WorkerPc.JobAt.not_result hat, fun hd => ?_⟩
  have hat' : w.pc.JobAt j := hat
  rw [hd] at hat'
  exact ⟨hat'.terminal, hat'.canceled⟩

end Verdict

/-- Print-Job on the one printer, canceled while the callback runs, which then completes. -/
def canceledInPrint : System :=
  endOf (server Trial.options) RespectsCancel (boot Trial.deployment)
    ([Trial.post "p" Trial.print] ++ Trial.times 4 (.worker 0 5) ++
      [Trial.post "p" Trial.cancel, .outcome 0 .completed] ++ Trial.times 9 (.worker 0 6))

/-- The worker of a first job, at a position. -/
def printWorker (pc : WorkerPc) : Worker where
  task :=
    { printerName := "p", id := 1, slot := 0, payload := [65], copies := 0
      documentFormat := "application/octet-stream", printQuality := none }
  pc
  backoff := 2000000000

theorem worker_exit_settles_canceled :
    canceledInPrint.app.jobs.isCanceled 0 = true ∧
      ∃ j, canceledInPrint.app.jobs.jobs[0]? = some j ∧
        (j.cancelFlag = true → j.state ≠ .completed ∧ j.state ≠ .aborted) ∧
        (WorkerPc.done = .done → j.state.isTerminal = true ∧
          (j.state = .canceled ↔ j.cancelFlag = true)) :=
  ⟨by decide +kernel, worker_exit_settles (w := printWorker .done) (run_endOf (by decide +kernel))
    (by decide +kernel) (by decide +kernel)⟩

/-- Canceled while the callback runs, then the callback fails, and the worker exits. -/
def failedAfterCancel : System :=
  endOf (server Trial.options) anyStep (boot Trial.deployment)
    ([Trial.post "p" Trial.print] ++ Trial.times 4 (.worker 0 5) ++
      [Trial.post "p" Trial.cancel, .outcome 0 (.failed ⟨.empty, "jam"⟩)] ++
      Trial.times 9 (.worker 0 6))

/-- It leaves the job Aborted with its flag set. -/
theorem canceled_job_aborted :
    ¬ ∀ (o : Options) (d : Deployment) (tr : List Event) (t : System) (k : Nat) (w : Worker)
        (j : JobRecord), Run (server o) anyStep (boot d) tr t →
        workersOf k t.workers = [w] → w.pc = .done → t.app.jobs.jobs[k]? = some j →
        j.state.isTerminal = true ∧ (j.state = .canceled ↔ j.cancelFlag = true) := by
  intro h
  obtain ⟨_, hiff⟩ := h Trial.options Trial.deployment _ failedAfterCancel 0 (printWorker .done)
    { canceledJob with state := .aborted, message := "jam", completedAt := some 6 }
    (run_endOf (by decide +kernel)) (by decide +kernel) rfl (by decide +kernel)
  cases hiff.mpr rfl

end IppPrinterApp
