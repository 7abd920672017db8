/-
  File:      IppPrinterApp/Outcomes.lean
  Subject:   What becomes of the outcome of a print callback.

  A worker carries the outcome from the callback to the record of a job, by way of the printer's
  record, while cancels and other workers come in between. It writes into whatever job its id
  refers to by then, and a Completed is given up if the worker finds the cancel flag first.

  * `System.files`, `System.givesUp` -- what a step puts on record, and what it gives up;
  * `outcomes_filed`: **no outcome is lost** -- in every run, the outcomes that were returned are
    those that a record of their own job has shown, those on their way to one, and those given up,
    all of them Completed of a canceled job.
-/
import IppPrinterApp.Deliveries
import IppPrinterApp.Spooler

namespace IppPrinterApp

open Transition Flow

/-! ## 1. Verdicts -/

/-- Verdicts, each with the position of its job. -/
abbrev Filings := Multiset (Nat × Verdict)

/-- What the record at a position shows. -/
def JobRegistry.shownAt (g : JobRegistry) (k : Nat) : Filings :=
  match g.jobs[k]?.map JobRecord.status with
  | some (.told v) => {(k, v)}
  | _ => 0

/-- The worker is about to write the outcome into a record. -/
def WorkerPc.files : WorkerPc → Bool
  | completedState => true
  | failedState _ => true
  | heldState => true
  | _ => false

/-- What a worker carries, for its own job. -/
def Worker.inHand (w : Worker) : Filings :=
  match w.pc.docStage with
  | .answered v => {(w.task.slot, v)}
  | _ => 0

/-- What all workers carry. -/
def System.inHand (s : System) : Filings := Pool.stock Worker.inHand s.workers

/-- The outcome of a callback that returns. -/
def Event.returned : Event → Filings
  | .outcome slot out => {(slot, out.verdict)}
  | _ => 0

/-- **What a step puts on record**: what is shown by the record a worker has written an outcome
    into, after the write. -/
def System.files (o : Options) (s : System) : Action → Filings
  | .worker i now =>
    match s.workers[i]?, step o s (.worker i now) with
    | some w, some (s', _) =>
      if w.pc.files then s'.app.jobs.shownAt (s.app.jobs.slotOf w.task.id) else 0
    | _, _ => 0
  | _ => 0

/-- **What a step gives up**: the outcome of a worker that finds the cancel flag of its job. -/
def System.givesUp (s : System) : Action → Filings
  | .worker i _ =>
    match s.workers[i]? with
    | some w =>
      if w.pc = .completedCheck ∧ s.app.jobs.isCanceled w.task.slot = true then w.inHand else 0
    | none => 0
  | _ => 0

section Step

variable {o : Options} {s s' : System} {a : Action} {ev tr : List Event} {w w' : Worker}

/-- What a worker has put on record after its access, if that is its job's. -/
def Worker.filed (w : Worker) : Filings := if w.pc.files then w.inHand else 0

/-- What a worker gives up by its access. -/
def Worker.givenUp (canceled : Bool) (w : Worker) : Filings :=
  if w.pc = .completedCheck ∧ canceled = true then w.inHand else 0

theorem Filings.carried_on (x : Filings) : 0 + 0 + x = x := by rw [add_zero, zero_add]

theorem Filings.filed (x : Filings) : x + 0 + 0 = x := by rw [add_zero, add_zero]

theorem Filings.given_up (x : Filings) : 0 + x + 0 = x := by rw [add_zero, zero_add]

/-- **A worker's access** puts what it carries on record, gives it up, or carries it on. -/
theorem Worker.next_inHand {retryMs : Option String} {canceled : Bool}
    {current : List PrinterConfig} (h : w.next retryMs canceled current = some w') :
    w.filed + w.givenUp canceled + w'.inHand = w.inHand := by
  obtain ⟨task, pc, backoff⟩ := w
  cases pc with
  | wait left =>
      have hnone : w'.inHand = 0 := by
        unfold Worker.inHand
        rcases Worker.next_wait rfl h with ⟨_, hpc⟩ | ⟨_, ⟨_, hpc⟩ | hpc⟩ <;> rw [hpc] <;> rfl
      rw [hnone]
      rfl
  | completedCheck =>
      cases h
      cases canceled with
      | true => exact Filings.given_up _
      | false => exact Filings.carried_on _
  | loopHead => cases h; cases canceled <;> rfl
  | exitCheck => cases h; cases canceled <;> rfl
  | printing => cases h
  | done => cases h
  | completedState => cases h; exact Filings.filed _
  | failedState f => cases h; exact Filings.filed _
  | heldState => cases h; exact Filings.filed _
  | _ => cases h; exact Filings.carried_on _

/-- **What a worker writes is what it carries**, whatever the record held before. -/
theorem WorkerPc.files_told {pc : WorkerPc} (h : pc.files = true) (now : SystemTime) :
    ∃ op v, pc.jobOp = some op ∧ pc.docStage = .answered v ∧
      ∀ j, (op.apply now j).status = .told v := by
  cases pc with
  | completedState => exact ⟨_, _, rfl, rfl, fun _ => rfl⟩
  | failedState f => exact ⟨_, _, rfl, rfl, fun _ => rfl⟩
  | heldState => exact ⟨_, _, rfl, rfl, fun _ => rfl⟩
  | _ => cases h

/-- **What is put on record is on that of the worker's own job.** -/
theorem files_worker {i : Nat} {now : SystemTime} (ht : TaskJobs s.app.jobs s.workers)
    (hwf : s.app.jobs.Wf) (hlt : s.app.jobs.jobs.length < 2 ^ 32) (hw : s.workers[i]? = some w)
    (h : step o s (.worker i now) = some (s', ev)) :
    s.files o (.worker i now) = w.filed := by
  unfold System.files
  dsimp only
  rw [hw, h]
  dsimp only
  unfold Worker.filed
  cases hf : w.pc.files with
  | false => rfl
  | true =>
      rw [if_pos rfl, if_pos rfl]
      obtain ⟨op, v, hop, hstage, htold⟩ := WorkerPc.files_told hf now
      have hmem := List.mem_of_getElem? hw
      obtain ⟨j, hj, hid⟩ := ht w hmem
      have hget : s.app.jobs.get w.task.id = some j := by
        rw [← hid]
        exact JobRegistry.get_self hwf hlt hj
      obtain ⟨_, hafter⟩ := step_worker_writes h hw hop hget
      have hslot := ht.slotOf hwf hlt hmem
      unfold JobRegistry.shownAt Worker.inHand
      rw [hafter, Option.map_some, htold, hstage, hslot]

theorem inHand_spawn (spawned : Option PrintTask) :
    Pool.stock Worker.inHand (spawned.map PrintTask.spawn).toList = 0 := by
  cases spawned <;> rfl

theorem ofOutcome_inHand (w : Worker) (out : JobOutcome) :
    Worker.inHand { w with pc := .ofOutcome out } = {(w.task.slot, out.verdict)} := by
  cases out <;> rfl

/-- **One step**: what is put on record, given up and then carried is what was carried and what is
    returned. -/
theorem step_inHand (ht : TaskJobs s.app.jobs s.workers) (hwf : s.app.jobs.Wf)
    (hlt : s.app.jobs.jobs.length < 2 ^ 32) (h : step o s a = some (s', ev)) :
    s.files o a + s.givesUp a + s'.inHand = s.inHand + total Event.returned ev := by
  have hother : (∀ i out, a ≠ .outcome i out) → total Event.returned ev = 0 := by
    intro ho
    refine total_zero fun e he => ?_
    cases step_event h he with
    | outcome i out => exact absurd rfl (ho i out)
    | _ => rfl
  -- what returns nothing and leaves the workers alone
  have hquiet : s.files o a + s.givesUp a = 0 → total Event.returned ev = 0 →
      s'.workers = s.workers →
      s.files o a + s.givesUp a + s'.inHand = s.inHand + total Event.returned ev := by
    intro hout hev hws
    unfold System.inHand
    rw [hout, hev, hws, zero_add, add_zero]
  cases a with
  | worker i now =>
      have hret := hother nofun
      obtain ⟨w, w', hw, hn, _, hs'⟩ := step_worker h
      have hgives : s.givesUp (.worker i now) =
          w.givenUp (s.app.jobs.isCanceled w.task.slot) := by
        unfold System.givesUp
        dsimp only
        rw [hw]
        rfl
      rw [files_worker ht hwf hlt hw h, hgives, hret]
      unfold System.inHand
      rw [show s'.workers = s.workers.set i w' by rw [hs']]
      exact Pool.stock_move Worker.inHand hw ((Worker.next_inHand hn).trans (add_zero _).symm)
  | outcome i out =>
      obtain ⟨w, hw, hp, rfl, hs'⟩ := step_outcome h
      have hnone : w.inHand = 0 := by
        unfold Worker.inHand
        rw [hp]
        rfl
      unfold System.inHand
      rw [show s'.workers = s.workers.set i { w with pc := .ofOutcome out } by rw [hs'],
        total_cons, total_nil, add_zero]
      refine Pool.stock_move Worker.inHand hw ?_
      rw [ofOutcome_inHand, hnone]
      exact Filings.carried_on _
  | request clock name body =>
      have hret := hother nofun
      rcases step_request h with ⟨_, _, hs', _⟩ | ⟨_, _, _, _, _, _, hs'⟩ |
        ⟨_, _, _, _, _, _, hs'⟩ | ⟨_, _, _, _, hs', _⟩
      · exact hquiet rfl hret (by rw [hs'])
      · exact hquiet rfl hret (by rw [hs'])
      · exact hquiet rfl hret (by rw [hs'])
      · unfold System.inHand
        rw [hret, hs', Pool.stock_append, inHand_spawn, add_zero]
        exact Filings.carried_on _
  | _ => exact hquiet rfl (hother nofun) (step_workers_same h nofun nofun nofun)

/-- What is given up is the Completed of a canceled job. -/
theorem givesUp_canceled {e : Nat × Verdict} (he : e ∈ s.givesUp a) :
    e.2 = .completed ∧ s.app.jobs.isCanceled e.1 = true := by
  cases a with
  | worker i now =>
      unfold System.givesUp at he
      dsimp only at he
      cases hw : s.workers[i]? with
      | none =>
          rw [hw] at he
          exact absurd he (Multiset.notMem_zero e)
      | some w =>
          rw [hw] at he
          dsimp only at he
          split at he
          · rename_i hc
            unfold Worker.inHand at he
            rw [hc.1] at he
            rw [Multiset.mem_singleton.mp he]
            exact ⟨rfl, hc.2⟩
          · exact absurd he (Multiset.notMem_zero e)
  | _ => exact absurd he (Multiset.notMem_zero e)

/-! ## 2. Over runs -/

/-- What a step puts on record and what it gives up. -/
def System.settles (o : Options) (s : System) (a : Action) : Filings × Filings :=
  (s.files o a, s.givesUp a)

/-- **No outcome is lost**: in every run that creates fewer than 2^32 jobs, the outcomes that
    callbacks have returned are, job by job, those that the job's own record has shown after a
    worker's write, those given up and those a worker still carries; and those given up are
    Completed of jobs whose cancel flag is set. -/
theorem outcomes_filed {G : System × Filings × Filings → Action → Prop} {d : Deployment}
    {filed givenUp : Filings}
    (h : Run (metered (server o) (System.settles o)) G (boot d, 0) tr (s, filed, givenUp))
    (hlt : s.app.jobs.jobs.length < 2 ^ 32) :
    filed + givenUp + s.inHand = total Event.returned tr ∧
      ∀ e ∈ givenUp, e.2 = .completed ∧ s.app.jobs.isCanceled e.1 = true := by
  constructor
  · have hsmall := h.bounded (f := fun p => p.1.app.jobs.jobs.length)
      (fun _ _ _ _ hs => step_jobs_length (step_withHistory hs).1) hlt
    have hflow := run_drained System.inHand Event.returned
      (I := fun s => TaskJobs s.app.jobs s.workers ∧ s.app.jobs.Wf)
      (AddMonoidHom.coprod (.id Filings) (.id Filings))
      ⟨fun _ hw => absurd hw List.not_mem_nil, JobRegistry.new_wf⟩
      (fun p b s' ev hI hg hs => ⟨⟨(step_jobs hs).taskJobs hI.1, step_wf hI.2 hs⟩,
        step_inHand hI.1 hI.2 hg.2 hs⟩) hsmall
    exact hflow.trans (zero_add _)
  · refine Run.always
      (I := fun p => ∀ e ∈ p.2.2, e.2 = .completed ∧ p.1.app.jobs.isCanceled e.1 = true) ?_ ?_ h
    · exact fun e he => absurd he (Multiset.notMem_zero e)
    · intro p a p' ev hI _ hs e he
      obtain ⟨hstep, hk⟩ := step_withHistory hs
      rw [hk] at he
      have hbefore : e.2 = .completed ∧ p.1.app.jobs.isCanceled e.1 = true := by
        rcases Multiset.mem_add.mp he with he | he
        · exact hI e he
        · exact givesUp_canceled he
      exact ⟨hbefore.1, step_isCanceled hstep hbefore.2⟩

end Step

namespace Trial

/-- Two prints: the first is held once and then completes, the second completes after it was
    canceled. -/
def outcomesScript : List Action :=
  [post "p" print, post "q" print] ++ times 4 (.worker 0 0) ++ times 4 (.worker 1 0) ++
    [.outcome 0 (.deviceUnavailable .OFFLINE)] ++ times 13 (.worker 0 0) ++
    [.request clock "q" cancelOwn.body, .cancelNext 0 0, .outcome 1 .completed] ++
    times 3 (.worker 1 0) ++ [.outcome 0 .completed] ++ times 3 (.worker 0 0)

def settled : System × Filings × Filings :=
  endOf (metered (server options) (System.settles options)) anyStep (boot deployment, 0)
    outcomesScript

/-- One is on record, one given up, and one still on its way. -/
example : settled.2.1 = {(0, .unavailable)} ∧ settled.2.2 = {(1, .completed)} ∧
    settled.1.inHand = {(0, .completed)} := by
  decide +kernel

end Trial

theorem outcomes_filed_three :
    Trial.settled.2.1 + Trial.settled.2.2 + Trial.settled.1.inHand =
      total Event.returned (traceOf (metered (server Trial.options)
        (System.settles Trial.options)) anyStep (boot Trial.deployment, 0)
          Trial.outcomesScript) ∧
      ∀ e ∈ Trial.settled.2.2,
        e.2 = .completed ∧ Trial.settled.1.app.jobs.isCanceled e.1 = true :=
  outcomes_filed (by rw [Prod.mk.eta]; exact run_endOf (by decide +kernel)) (by decide +kernel)

end IppPrinterApp
