/-
  File:      IppPrinterApp/Spooler.lean
  Subject:   The server, seen from one job: a spooled job.

  Behind a job are its record in the registry, its workers with their two dozen positions each, its
  callbacks, and the requests that create, feed and cancel it. What they are for is the machine of
  `Spool`: documents that are queued, with the device, answered, leaving or gone, and a status that
  tells what was answered.

  * `System.spoolJob` -- the abstraction: the job at a position, with its documents;
  * `step_refines` -- every step of the server is, for each job, nothing, a move or two;
  * `server_refines_spool`: **every run of the server is a run of that machine, for each job**,
    and shows the same documents handed over and the same answers;
  * `job_states_truthful`: **a job-state is what the device answered**, or tells a cancel;
  * `finished_jobs_truthful`: **a job whose documents are gone is done**, and unless it was canceled
    its state is a final answer of the device, its last answer if there was one document.
-/
import IppPrinterApp.Lib.Spool
import IppPrinterApp.System

namespace IppPrinterApp

open Transition

/-! ## 1. The abstraction -/

/-- What a job is told of its device: the outcome, but for the reasons of an unavailable device,
    which are the printer's. -/
inductive Verdict where
  | completed
  | unavailable
  | failed (f : JobFailure)
  deriving DecidableEq, Repr

def JobOutcome.verdict : JobOutcome → Verdict
  | .completed => .completed
  | .deviceUnavailable _ => .unavailable
  | .failed f => .failed f

/-- The answer that asks for another try. -/
def Verdict.again : Verdict → Bool
  | .unavailable => true
  | _ => false

/-- What the record says of the job. -/
def JobRecord.status (j : JobRecord) : Spool.Status Verdict :=
  match j.state with
  | .pending => .waiting
  | .held => .waiting
  | .processing => .working
  | .processingStopped => .told .unavailable
  | .canceled => .canceled
  | .aborted => .told (.failed ⟨j.reasons, j.message⟩)
  | .completed => .told .completed

/-- Where the document of a worker is. -/
def WorkerPc.docStage : WorkerPc → Spool.Stage Verdict
  | markPrinter => .queued
  | markJob => .queued
  | loopHead => .queued
  | call => .queued
  | printing => .out
  | completedReasons => .answered .completed
  | completedIdle => .answered .completed
  | completedCheck => .answered .completed
  | completedState => .answered .completed
  | failedReasons f => .answered (.failed f)
  | failedIdle f => .answered (.failed f)
  | failedState f => .answered (.failed f)
  | heldReasons _ => .answered .unavailable
  | heldState => .answered .unavailable
  | wait _ => .queued
  | exitCheck => .leaving
  | cancelReasons => .leaving
  | cancelIdle => .leaving
  | cancelJob => .leaving
  | snapshot => .gone
  | save _ => .gone
  | done => .gone

/-- A job with its workers, spooled. -/
def JobRecord.spooled (j : JobRecord) (ws : List Worker) : Spool.Job PrintTask Verdict where
  status := j.status
  canceled := j.cancelFlag
  docs := ws.map fun w => (w.task, w.pc.docStage)

/-- The job at a position, if it has been created. -/
def spoolAt (k : Nat) (g : JobRegistry) (ws : List Worker) : Option (Spool.Job PrintTask Verdict) :=
  g.jobs[k]?.map fun j => j.spooled (workersOf k ws)

def System.spoolJob (k : Nat) (s : System) : Option (Spool.Job PrintTask Verdict) :=
  spoolAt k s.app.jobs s.workers

/-- The task that a call of the callback is for. -/
def JobContext.task (ctx : JobContext) (payload : List UInt8) (copies : Nat) : PrintTask where
  printerName := ctx.printerName
  id := ctx.id
  slot := ctx.slot
  payload
  copies
  documentFormat := ctx.documentFormat
  printQuality := ctx.printQuality

/-- What is seen of the job at a position. -/
def Event.seenAt (k : Nat) : Event → Option (Spool.Seen PrintTask Verdict)
  | .printJob ctx payload copies =>
    if ctx.slot = k then some (.handed (ctx.task payload copies)) else none
  | .outcome slot out => if slot = k then some (.answered out.verdict) else none
  | _ => none

/-- The spooled job as a machine. -/
abbrev printSpool : Machine (Option (Spool.Job PrintTask Verdict)) (Spool.Move PrintTask Verdict)
    (Spool.Seen PrintTask Verdict) := Spool.machine Verdict.again

/-! ## 2. Steps of the registry -/

section Registry

variable {k : Nat} {g : JobRegistry} {ws : List Worker} {j : JobRecord}

theorem status_final (j : JobRecord) : j.status.final Verdict.again = j.state.isTerminal := by
  unfold JobRecord.status
  cases j.state <;> rfl

/-- A cancel of the record is one of the spooled job. -/
theorem spooled_withCancel (now : SystemTime) (j : JobRecord) (ws : List Worker) :
    (j.withCancel now).spooled ws = (j.spooled ws).cancel Verdict.again := by
  have hstatus : (j.spooled ws).status = j.status := rfl
  unfold Spool.Job.cancel
  rw [hstatus, status_final]
  cases ht : j.state.isTerminal with
  | true =>
      rw [if_pos rfl, JobRecord.withCancel_terminal ht]
  | false =>
      rw [if_neg (by decide), JobRecord.withCancel_active ht]
      rfl

theorem spoolAt_of_get (hk : g.jobs[k]? = some j) (ws : List Worker) :
    spoolAt k g ws = some (j.spooled (workersOf k ws)) := by
  unfold spoolAt
  rw [hk]
  rfl

/-- What a creation is to every job. -/
theorem create_refines (ht : TaskJobs g ws) (now : SystemTime) (name owner : String) :
    Run printSpool anyStep (spoolAt k g ws) [] (spoolAt k (g.create now name owner).2 ws) := by
  rcases Nat.lt_trichotomy k g.jobs.length with hlt | rfl | hgt
  · have e : spoolAt k (g.create now name owner).2 ws = spoolAt k g ws := by
      unfold spoolAt
      rw [JobRegistry.create_getElem?_old now name owner hlt]
    rw [e]
    exact .start
  · have hnew : spoolAt g.jobs.length (g.create now name owner).2 ws = some .fresh := by
      rw [spoolAt_of_get (JobRegistry.create_getElem?_new g now name owner),
        ht.workersOf_length (Nat.le_refl _)]
      rfl
    have hnone : spoolAt g.jobs.length g ws = none := by
      unfold spoolAt
      rw [List.getElem?_eq_none (Nat.le_refl _)]
      rfl
    rw [hnew, hnone]
    exact Run.one (a := .create) rfl
  · have hnone : ∀ g' : JobRegistry, g'.jobs.length ≤ k → spoolAt k g' ws = none := by
      intro g' hle
      unfold spoolAt
      rw [List.getElem?_eq_none hle]
      rfl
    rw [hnone g (Nat.le_of_lt hgt), hnone]
    · exact .start
    · rw [JobRegistry.create_length]
      exact hgt

/-- What a document more is to every job. -/
theorem spawn_refines (task : PrintTask) (hj : g.jobs[task.slot]? = some j) (ws : List Worker) :
    Run printSpool anyStep (spoolAt k g ws) [] (spoolAt k g (ws ++ [task.spawn])) := by
  by_cases hk : task.slot = k
  · subst hk
    rw [spoolAt_of_get hj, spoolAt_of_get hj, workersOf_spawn_own]
    have hsubmit : printSpool.step (some (j.spooled (workersOf task.slot ws))) (.submit task) =
        some (some (j.spooled (workersOf task.slot ws ++ [task.spawn])), []) := by
      unfold JobRecord.spooled
      rw [List.map_append]
      rfl
    exact Run.one hsubmit
  · unfold spoolAt
    rw [workersOf_spawn_other hk]
    exact .start

/-- What a cancel is to every job. -/
theorem cancel_refines (now : SystemTime) (id : JobId) :
    Run printSpool anyStep (spoolAt k g ws) [] (spoolAt k (g.cancel now id).2 ws) := by
  have e := JobRegistry.update_getElem? g id (·.withCancel now) k
  unfold spoolAt
  change Run _ _ _ _ (Option.map _ (g.update id (·.withCancel now)).jobs[k]?)
  rw [e]
  split
  · cases hk : g.jobs[k]? with
    | none => exact .start
    | some j =>
        rw [Option.map_some, Option.map_some, Option.map_some, spooled_withCancel]
        exact Run.one (a := .cancel) rfl
  · exact .start

end Registry

/-! ## 3. Steps of the workers -/

/-- Inside the block of a canceled job. -/
def WorkerPc.canceling : WorkerPc → Bool
  | cancelReasons => true
  | cancelIdle => true
  | cancelJob => true
  | _ => false

/-- A job with a worker in that block is canceled. -/
def Flagged (j : JobRecord) (ws : List Worker) : Prop :=
  ∀ w ∈ ws, w.pc.canceling = true → j.cancelFlag = true

section Workers

variable {o : Options} {s s' : System} {a : Action} {ev tr : List Event} {k : Nat}
  {j : JobRecord} {w w' : Worker} {before after : List Worker}

theorem WorkerPc.jobAfter_flagged (pc : WorkerPc) (now : SystemTime)
    (h : j.cancelFlag = true) : (pc.jobAfter now j).cancelFlag = true := by
  unfold WorkerPc.jobAfter
  cases pc with
  | cancelJob =>
      show (j.withCancel now).cancelFlag = true
      unfold JobRecord.withCancel
      split
      · exact h
      · rfl
  | _ => exact h

/-- A worker enters the block if it reads the flag, and stays in it to its end. -/
theorem Worker.next_canceling {retryMs : Option String} {canceled : Bool}
    {current : List PrinterConfig} (h : w.next retryMs canceled current = some w')
    (hc : w'.pc.canceling = true) : w.pc.canceling = true ∨ canceled = true := by
  obtain ⟨task, pc, backoff⟩ := w
  cases pc with
  | exitCheck =>
      cases h
      cases canceled with
      | true => exact Or.inr rfl
      | false => cases hc
  | cancelReasons => exact Or.inl rfl
  | cancelIdle => exact Or.inl rfl
  | cancelJob => exact Or.inl rfl
  | wait left =>
      rcases Worker.next_wait rfl h with ⟨_, hpc⟩ | ⟨_, ⟨_, hpc⟩ | hpc⟩
      · rw [hpc] at hc
        cases hc
      · rw [hpc] at hc
        cases hc
      · rw [hpc] at hc
        cases hc
  | loopHead => cases h; cases canceled <;> cases hc
  | completedCheck => cases h; cases canceled <;> cases hc
  | printing => cases h
  | done => cases h
  | _ => cases h; cases hc

theorem flagged_survives (s : System) (a : Action) : Survives Flagged o s a where
  created := fun _ _ _ w hw => absurd hw List.not_mem_nil
  canceled := fun now j ws h w hw hc =>
    WorkerPc.jobAfter_flagged .cancelJob now (h w hw hc)
  spawned := fun task j ws h w hw hc => by
    rcases List.mem_append.mp hw with hw | hw
    · exact h w hw hc
    · rw [List.mem_singleton.mp hw] at hc
      cases hc
  worked := fun i now w w' j before after _ _ _ hn h u hu hc => by
    refine WorkerPc.jobAfter_flagged w.pc now ?_
    rcases List.mem_append.mp hu with hu | hu
    · exact h u (List.mem_append_left _ hu) hc
    · rcases List.mem_cons.mp hu with rfl | hu
      · rcases Worker.next_canceling hn hc with hw | hflag
        · exact h w (List.mem_append_right _ List.mem_cons_self) hw
        · exact hflag
      · exact h u (List.mem_append_right _ (List.mem_cons_of_mem _ hu)) hc
  returned := fun out w j before after hp h u hu hc => by
    rcases List.mem_append.mp hu with hu | hu
    · exact h u (List.mem_append_left _ hu) hc
    · rcases List.mem_cons.mp hu with rfl | hu
      · cases out <;> cases hc
      · exact h u (List.mem_append_right _ (List.mem_cons_of_mem _ hu)) hc

/-- The document of a worker, among those of its job. -/
theorem spooled_doc (j : JobRecord) (before after : List Worker) (w : Worker) :
    (j.spooled (before ++ w :: after)).docs[before.length]? = some (w.task, w.pc.docStage) := by
  unfold JobRecord.spooled
  rw [List.getElem?_map, List.getElem?_append_right (Nat.le_refl _), Nat.sub_self]
  rfl

/-- A worker that moves on, among the documents of its job. -/
theorem spooled_put (j : JobRecord) (htask : w'.task = w.task) :
    (j.spooled (before ++ w :: after)).put before.length w.task w'.pc.docStage =
      j.spooled (before ++ w' :: after) := by
  have hset : (before ++ w :: after).set before.length w' = before ++ w' :: after := by
    rw [List.set_append_right _ _ (Nat.le_refl _), Nat.sub_self, List.set_cons_zero]
  unfold JobRecord.spooled Spool.Job.put
  rw [Spool.Job.mk.injEq]
  refine ⟨rfl, rfl, ?_⟩
  rw [← hset, List.map_set, htask]

/-- A worker that stays where it is, as far as its document is concerned. -/
theorem spooled_same (j : JobRecord) (htask : w'.task = w.task)
    (hstage : w'.pc.docStage = w.pc.docStage) :
    j.spooled (before ++ w' :: after) = j.spooled (before ++ w :: after) := by
  unfold JobRecord.spooled
  rw [List.map_append, List.map_append, List.map_cons, List.map_cons, htask, hstage]

/-- An access that writes nothing into the job and leaves the document where it is. -/
theorem quiet_refines (hop : w.pc.jobOp = none) (htask : w'.task = w.task)
    (hstage : w'.pc.docStage = w.pc.docStage) (now : SystemTime) :
    Run printSpool anyStep (some (j.spooled (before ++ w :: after))) []
      (some ((w.pc.jobAfter now j).spooled (before ++ w' :: after))) := by
  rw [WorkerPc.jobAfter_none hop, spooled_same j htask hstage]
  exact .start

/-- An access that moves the document. -/
theorem moved_refines (dm : Spool.DocMove Verdict) {j' : JobRecord}
    {seen : List (Spool.Seen PrintTask Verdict)}
    (h : (j.spooled (before ++ w :: after)).docStep Verdict.again before.length w.task
      w.pc.docStage dm = some (j'.spooled (before ++ w' :: after), seen)) :
    Run printSpool anyStep (some (j.spooled (before ++ w :: after))) seen
      (some (j'.spooled (before ++ w' :: after))) :=
  Spool.run_doc (spooled_doc j before after w) h

/-- The worker's first write of the job's state. -/
theorem started_refines {j' : JobRecord} (hst : w.pc.docStage = .queued) (htask : w'.task = w.task)
    (hstage : w'.pc.docStage = w.pc.docStage) (hj : j'.status = .working)
    (hc : j'.cancelFlag = j.cancelFlag) :
    Run printSpool anyStep (some (j.spooled (before ++ w :: after))) []
      (some (j'.spooled (before ++ w' :: after))) := by
  refine moved_refines .start ?_
  rw [spooled_same j' htask hstage, hst]
  unfold JobRecord.spooled
  rw [hj, hc]
  rfl

/-- The call of the callback. -/
theorem handed_refines (hst : w.pc.docStage = .queued) (htask : w'.task = w.task)
    (hstage : w'.pc.docStage = .out) :
    Run printSpool anyStep (some (j.spooled (before ++ w :: after))) [.handed w.task]
      (some (j.spooled (before ++ w' :: after))) := by
  refine moved_refines .hand ?_
  rw [← spooled_put j htask, hst, hstage]
  rfl

/-- The return of the callback. -/
theorem answered_refines {v : Verdict} (hst : w.pc.docStage = .out) (htask : w'.task = w.task)
    (hstage : w'.pc.docStage = .answered v) :
    Run printSpool anyStep (some (j.spooled (before ++ w :: after))) [.answered v]
      (some (j.spooled (before ++ w' :: after))) := by
  refine moved_refines (.answer v) ?_
  rw [← spooled_put j htask, hst, hstage]
  rfl

/-- The write of an outcome into the job. -/
theorem reported_refines {j' : JobRecord} {v : Verdict} (hst : w.pc.docStage = .answered v)
    (htask : w'.task = w.task) (hstage : w'.pc.docStage = Spool.Job.after Verdict.again v)
    (hj : j'.status = .told v) (hc : j'.cancelFlag = j.cancelFlag) :
    Run printSpool anyStep (some (j.spooled (before ++ w :: after))) []
      (some (j'.spooled (before ++ w' :: after))) := by
  refine moved_refines .report ?_
  rw [← spooled_put j' htask, hst, hstage]
  unfold JobRecord.spooled
  rw [hj, hc]
  rfl

/-- A worker that leaves its loop since its job is canceled. -/
theorem gaveUp_refines (hst : w.pc.docStage = .queued ∨ ∃ v, w.pc.docStage = .answered v)
    (hc : j.cancelFlag = true) (htask : w'.task = w.task) (hstage : w'.pc.docStage = .leaving) :
    Run printSpool anyStep (some (j.spooled (before ++ w :: after))) []
      (some (j.spooled (before ++ w' :: after))) := by
  refine moved_refines .giveUp ?_
  have hflag : (j.spooled (before ++ w :: after)).canceled = true := hc
  rw [← spooled_put j htask, hstage]
  rcases hst with e | ⟨v, e⟩
  · rw [e]
    exact if_pos hflag
  · rw [e]
    exact if_pos hflag

/-- The cancel at the end of the block of a canceled job. -/
theorem confirmed_refines (hst : w.pc.docStage = .leaving) (hc : j.cancelFlag = true)
    (htask : w'.task = w.task) (hstage : w'.pc.docStage = .gone) (now : SystemTime) :
    Run printSpool anyStep (some (j.spooled (before ++ w :: after))) []
      (some ((j.withCancel now).spooled (before ++ w' :: after))) := by
  refine moved_refines .confirm ?_
  have hflag : (j.spooled (before ++ w :: after)).canceled = true := hc
  rw [← spooled_put (j.withCancel now) htask, spooled_withCancel, hst, hstage]
  exact if_pos hflag

/-- A worker that leaves a job that is not canceled. -/
theorem left_refines (hst : w.pc.docStage = .leaving) (hc : j.cancelFlag = false)
    (htask : w'.task = w.task) (hstage : w'.pc.docStage = .gone) :
    Run printSpool anyStep (some (j.spooled (before ++ w :: after))) []
      (some (j.spooled (before ++ w' :: after))) := by
  refine moved_refines .leave ?_
  have hflag : (j.spooled (before ++ w :: after)).canceled = false := hc
  rw [← spooled_put j htask, hst, hstage]
  refine if_neg ?_
  rw [hflag]
  decide

/-- **What an access of a worker is to its job**: nothing, or a move of its document. -/
theorem worked_refines {retryMs : Option String} {current : List PrinterConfig}
    (hn : w.next retryMs j.cancelFlag current = some w')
    (hflag : w.pc.canceling = true → j.cancelFlag = true) (now : SystemTime) :
    Run printSpool anyStep (some (j.spooled (before ++ w :: after)))
      (w.events.filterMap (Event.seenAt w.task.slot))
      (some ((w.pc.jobAfter now j).spooled (before ++ w' :: after))) := by
  have htask := Worker.next_task hn
  obtain ⟨task, pc, backoff⟩ := w
  cases pc with
  | printing => cases hn
  | done => cases hn
  | markJob =>
      cases hn
      exact started_refines rfl rfl rfl rfl rfl
  | loopHead =>
      cases hc : j.cancelFlag with
      | true =>
          rw [hc] at hn
          cases hn
          exact gaveUp_refines (Or.inl rfl) hc rfl rfl
      | false =>
          rw [hc] at hn
          cases hn
          refine quiet_refines ?_ ?_ ?_ now <;> rfl
  | call =>
      cases hn
      have hseen : [Event.printJob task.context task.payload task.copies].filterMap
          (Event.seenAt task.slot) = [.handed task] := by
        simp [Event.seenAt, PrintTask.context, JobContext.task]
      change Run _ _ _ ([Event.printJob task.context task.payload task.copies].filterMap _) _
      rw [hseen]
      refine handed_refines ?_ ?_ ?_ <;> rfl
  | completedCheck =>
      cases hc : j.cancelFlag with
      | true =>
          rw [hc] at hn
          cases hn
          exact gaveUp_refines (Or.inr ⟨_, rfl⟩) hc rfl rfl
      | false =>
          rw [hc] at hn
          cases hn
          refine quiet_refines ?_ ?_ ?_ now <;> rfl
  | completedState =>
      cases hn
      exact reported_refines rfl rfl rfl rfl rfl
  | failedState f =>
      cases hn
      exact reported_refines rfl rfl rfl rfl rfl
  | heldState =>
      cases hn
      exact reported_refines rfl rfl rfl rfl rfl
  | wait left =>
      rcases Worker.next_wait rfl hn with ⟨hc, hpc⟩ | ⟨_, ⟨_, hpc⟩ | hpc⟩
      · exact gaveUp_refines (Or.inl rfl) hc htask (by rw [hpc]; rfl)
      · exact quiet_refines rfl htask (by rw [hpc]; rfl) now
      · exact quiet_refines rfl htask (by rw [hpc]; rfl) now
  | exitCheck =>
      cases hc : j.cancelFlag with
      | true =>
          rw [hc] at hn
          cases hn
          refine quiet_refines ?_ ?_ ?_ now <;> rfl
      | false =>
          rw [hc] at hn
          cases hn
          exact left_refines rfl hc rfl rfl
  | cancelJob =>
      cases hn
      refine confirmed_refines ?_ (hflag rfl) ?_ ?_ now <;> rfl
  | _ =>
      cases hn
      refine quiet_refines ?_ ?_ ?_ now <;> rfl

/-! ## 4. The refinement -/

/-- Only workers and callbacks show something of a job. -/
theorem seenAt_quiet (h : step o s a = some (s', ev)) (hw : ∀ i now, a ≠ .worker i now)
    (ho : ∀ i out, a ≠ .outcome i out) : ev.filterMap (Event.seenAt k) = [] := by
  refine List.filterMap_eq_nil_iff.mpr fun e he => ?_
  cases step_event h he with
  | printJob i now => exact absurd rfl (hw i now)
  | outcome i out => exact absurd rfl (ho i out)
  | _ => rfl

/-- What a step that is neither a worker's nor a callback's is to every job. -/
theorem JobsStep.refines_quiet {g : JobRegistry} {ws : List Worker} (h : JobsStep o s a g ws)
    (ht : TaskJobs s.app.jobs s.workers) (hw : ∀ i now, a ≠ .worker i now)
    (ho : ∀ i out, a ≠ .outcome i out) :
    Run printSpool anyStep (s.spoolJob k) [] (spoolAt k g ws) := by
  unfold System.spoolJob
  cases h with
  | same => exact .start
  | request clock name body req record g spawned hg ha =>
      cases ha with
      | same =>
          rw [Option.map_none, Option.toList_none, List.append_nil]
          exact .start
      | created =>
          rw [Option.map_none, Option.toList_none, List.append_nil]
          exact create_refines ht clock.now name (requestingUser req)
      | printed payload hp =>
          have hnew := JobRegistry.create_getElem?_new s.app.jobs clock.now name
            (requestingUser req)
          exact (create_refines ht clock.now name (requestingUser req)).trans
            (spawn_refines (printTask name req _ _ payload) hnew s.workers)
      | sent id job payload hop hld hid hj hp hne =>
          rw [JobRegistry.get_eq_getElem?] at hj
          exact spawn_refines (printTask name req _ _ payload) hj s.workers
      | canceled id =>
          rw [Option.map_none, Option.toList_none, List.append_nil]
          exact cancel_refines clock.now id
  | canceled i now id => exact cancel_refines now id
  | worked i now => exact absurd rfl (hw i now)
  | returned i out => exact absurd rfl (ho i out)

/-- A worker of another job shows nothing of this one. -/
theorem Worker.events_other (hk : w.task.slot ≠ k) : w.events.filterMap (Event.seenAt k) = [] := by
  refine List.filterMap_eq_nil_iff.mpr fun e he => ?_
  unfold Worker.events at he
  split at he
  · rw [List.mem_singleton.mp he]
    exact if_neg hk
  · cases he

/-- **Every step of the server is, for each job, nothing, or a move or two** of the spooled job, and
    shows the same of it. -/
theorem step_refines (h : step o s a = some (s', ev)) (ht : TaskJobs s.app.jobs s.workers)
    (hwf : s.app.jobs.Wf) (hlt : s.app.jobs.jobs.length < 2 ^ 32)
    (hf : EachJob Flagged s.app.jobs s.workers) :
    Run printSpool anyStep (s.spoolJob k) (ev.filterMap (Event.seenAt k)) (s'.spoolJob k) := by
  have hother : (∀ i now, a ≠ .worker i now) → (∀ i out, a ≠ .outcome i out) →
      Run printSpool anyStep (s.spoolJob k) (ev.filterMap (Event.seenAt k)) (s'.spoolJob k) := by
    intro hw ho
    rw [seenAt_quiet h hw ho]
    exact (step_jobs h).refines_quiet ht hw ho
  cases a with
  | worker i now =>
      obtain ⟨w, w', hw, hn, rfl, rfl⟩ := step_worker h
      have hmem := List.mem_of_getElem? hw
      have htask := Worker.next_task hn
      have hafter := WorkerPc.jobsAfter_getElem? w.pc w.task now s.app.jobs k
      rw [ht.slotOf hwf hlt hmem] at hafter
      unfold System.spoolJob spoolAt
      dsimp only
      rw [hafter]
      by_cases hk : w.task.slot = k
      · subst hk
        obtain ⟨j, hj, _⟩ := ht w hmem
        obtain ⟨before, after, h₁, h₂⟩ := workersOf_set_own hw htask
        have hflag := hf _ j hj w (Pool.mem_tasksOf.mpr ⟨hmem, rfl⟩)
        rw [JobRegistry.isCanceled_eq hj] at hn
        rw [if_pos rfl, hj, h₁, h₂]
        exact worked_refines hn hflag now
      · rw [if_neg hk, workersOf_set_other hw htask hk, w.events_other hk]
        exact .start
  | outcome i out =>
      obtain ⟨w, hw, hp, rfl, rfl⟩ := step_outcome h
      have htask : ({ w with pc := .ofOutcome out } : Worker).task = w.task := rfl
      unfold System.spoolJob spoolAt
      dsimp only
      by_cases hk : w.task.slot = k
      · subst hk
        obtain ⟨j, hj, _⟩ := ht w (List.mem_of_getElem? hw)
        obtain ⟨before, after, h₁, h₂⟩ := workersOf_set_own hw htask
        have hseen : [Event.outcome w.task.slot out].filterMap (Event.seenAt w.task.slot) =
            [.answered out.verdict] := by
          simp [Event.seenAt]
        rw [hj, h₁, h₂, hseen]
        refine answered_refines (by rw [hp]; rfl) htask ?_
        cases out <;> rfl
      · have hnone : [Event.outcome w.task.slot out].filterMap (Event.seenAt k) = [] := by
          simp [Event.seenAt, hk]
        rw [workersOf_set_other hw htask hk, hnone]
        exact .start
  | _ => exact hother nofun nofun

theorem spoolJob_run {G : System → Action → Prop} {d : Deployment} (k : Nat)
    (h : Run (server o) G (boot d) tr s) (hlt : s.app.jobs.jobs.length < 2 ^ 32) :
    Run printSpool anyStep none (tr.filterMap (Event.seenAt k)) (s.spoolJob k) := by
  have hsmall := h.bounded (f := fun s => s.app.jobs.jobs.length)
    (fun _ _ _ _ hs => step_jobs_length hs) hlt
  refine run_refines (System.spoolJob k) (M := server o)
    (I := fun s => TaskJobs s.app.jobs s.workers ∧ s.app.jobs.Wf ∧
      EachJob Flagged s.app.jobs s.workers) ?_ ?_ hsmall
  · exact ⟨fun _ hw => absurd hw List.not_mem_nil, JobRegistry.new_wf, fun _ _ hk => nomatch hk⟩
  · intro s a s' ev ⟨ht, hwf, hf⟩ ⟨_, hlt⟩ hs
    have hj := step_jobs hs
    exact ⟨⟨hj.taskJobs ht, step_wf hwf hs, hj.eachJob (flagged_survives s a) ht hwf hlt hf⟩,
      step_refines hs ht hwf hlt hf⟩

/-- **Every run of the server is, for each job, a run of the spooled job**, and shows the same
    documents handed over and the same answers, in the same order. -/
theorem server_refines_spool {G : System → Action → Prop} {d : Deployment} (k : Nat)
    (h : Run (server o) G (boot d) tr s) (hlt : s.app.jobs.jobs.length < 2 ^ 32) :
    Run printSpool anyStep none (tr.filterMap (Event.seenAt k)) (s.spoolJob k) :=
  spoolJob_run k h hlt

end Workers

namespace Trial

/-- Two prints; the device is away when the first is tried, and jams when it is tried again. -/
def triedTwice : List Action :=
  [post "p" print, post "p" print] ++ times 4 (.worker 0 0) ++
    [.outcome 0 (.deviceUnavailable .OFFLINE), .worker 1 0] ++ times 13 (.worker 0 0) ++
    [.outcome 0 (.failed ⟨.MEDIA_JAM, "jammed"⟩)] ++ times 6 (.worker 0 0)

def tried : System := endOf (server options) anyStep (boot deployment) triedTwice

def triedTrace : List Event := traceOf (server options) anyStep (boot deployment) triedTwice

theorem tried_run : Run (server options) anyStep (boot deployment) triedTrace tried :=
  run_endOf (by decide +kernel)

/-- The first job, as it ends. -/
def triedJob : JobRecord where
  id := 1
  printerName := "p"
  owner := "ann"
  state := .aborted
  reasons := .MEDIA_JAM
  message := "jammed"
  createdAt := clock.now
  completedAt := some 0
  cancelFlag := false

end Trial

theorem server_refines_spool_tried :
    Run printSpool anyStep none (Trial.triedTrace.filterMap (Event.seenAt 0))
      (Trial.tried.spoolJob 0) :=
  server_refines_spool 0 Trial.tried_run (by decide +kernel)

/-! ## 5. What the job-state says -/

section States

variable {o : Options} {s : System} {tr : List Event} {k : Nat} {j : JobRecord}

/-- The job is in the state that an outcome puts it in. -/
def JobRecord.Shows (j : JobRecord) : JobOutcome → Prop
  | .completed => j.state = .completed
  | .deviceUnavailable _ => j.state = .processingStopped
  | .failed f => j.state = .aborted ∧ j.reasons = f.printerReasons ∧ j.message = f.message

theorem shows_of_status {out : JobOutcome} (h : j.status = .told out.verdict) : j.Shows out := by
  unfold JobRecord.status at h
  cases hs : j.state <;> rw [hs] at h <;> cases out <;> cases h
  · exact hs
  · exact ⟨hs, rfl, rfl⟩
  · exact hs

/-- The outcome of the callback for the job at a position, if the event is its return. -/
def Event.outcomeAt (k : Nat) : Event → Option JobOutcome
  | .outcome slot out => if slot = k then some out else none
  | _ => none

/-- The last outcome of the callback for the job at a position. -/
def lastOutcome (k : Nat) (tr : List Event) : Option JobOutcome :=
  (tr.filterMap (Event.outcomeAt k)).getLast?

theorem seenAt_answer (k : Nat) (e : Event) :
    (e.seenAt k).bind Spool.Seen.answer = (e.outcomeAt k).map JobOutcome.verdict := by
  unfold Event.seenAt Event.outcomeAt
  cases e with
  | printJob ctx payload copies =>
      dsimp only
      split <;> rfl
  | outcome slot out =>
      dsimp only
      split <;> rfl
  | _ => rfl

/-- The answers that are seen of a job are the outcomes of its callback. -/
theorem answers_eq (k : Nat) (tr : List Event) :
    (tr.filterMap (Event.seenAt k)).filterMap Spool.Seen.answer =
      (tr.filterMap (Event.outcomeAt k)).map JobOutcome.verdict := by
  rw [List.filterMap_filterMap, List.map_filterMap]
  exact congrArg (fun f => tr.filterMap f) (funext (seenAt_answer k))

theorem mem_of_outcomeAt {out : JobOutcome} (h : out ∈ tr.filterMap (Event.outcomeAt k)) :
    .outcome k out ∈ tr := by
  obtain ⟨e, he, ho⟩ := List.mem_filterMap.mp h
  cases e with
  | outcome slot out' =>
      change (if slot = k then some out' else none) = some out at ho
      by_cases hk : slot = k
      · rw [if_pos hk] at ho
        cases ho
        rw [← hk]
        exact he
      · rw [if_neg hk] at ho
        cases ho
  | _ => cases ho

/-- An answer that is seen of a job is an outcome of its callback. -/
theorem outcome_of_answered {v : Verdict}
    (h : .answered v ∈ tr.filterMap (Event.seenAt k)) :
    ∃ out, out.verdict = v ∧ .outcome k out ∈ tr := by
  have hv : v ∈ (tr.filterMap (Event.outcomeAt k)).map JobOutcome.verdict := by
    rw [← answers_eq]
    exact List.mem_filterMap.mpr ⟨_, h, rfl⟩
  obtain ⟨out, hout, e⟩ := List.mem_map.mp hv
  exact ⟨out, e, mem_of_outcomeAt hout⟩

/-- The last answer that is seen of a job is the last outcome of its callback. -/
theorem lastOutcome_of_lastAnswer {v : Verdict}
    (h : Spool.lastAnswer (tr.filterMap (Event.seenAt k)) = some v) :
    ∃ out, out.verdict = v ∧ lastOutcome k tr = some out := by
  unfold Spool.lastAnswer at h
  rw [answers_eq, List.getLast?_map] at h
  obtain ⟨out, hout, e⟩ := Option.map_eq_some_iff.mp h
  exact ⟨out, e, hout⟩

theorem spooled_run {G : System → Action → Prop} {d : Deployment}
    (h : Run (server o) G (boot d) tr s) (hlt : s.app.jobs.jobs.length < 2 ^ 32)
    (hj : s.app.jobs.jobs[k]? = some j) :
    Run printSpool anyStep none (tr.filterMap (Event.seenAt k))
      (some (j.spooled (workersOf k s.workers))) := by
  have hrun := spoolJob_run k h hlt
  unfold System.spoolJob at hrun
  rw [spoolAt_of_get hj] at hrun
  exact hrun

/-- **A job-state is what the device answered, or tells a cancel**: in every run that creates fewer
    than 2^32 jobs, a job that is completed, aborted or stopped is so since its callback returned
    with that outcome, an aborted one with the reasons and the message it shows; and a job that is
    said to be canceled is. -/
theorem job_states_truthful {G : System → Action → Prop} {d : Deployment}
    (h : Run (server o) G (boot d) tr s) (hlt : s.app.jobs.jobs.length < 2 ^ 32)
    (hj : s.app.jobs.jobs[k]? = some j) :
    (j.state = .canceled → j.cancelFlag = true) ∧
      (j.state = .completed ∨ j.state = .aborted ∨ j.state = .processingStopped →
        ∃ out, .outcome k out ∈ tr ∧ j.Shows out) := by
  have htrue := Spool.run_truthful (spooled_run h hlt hj)
  constructor
  · intro hc
    refine htrue.canceled ?_
    show j.status = .canceled
    unfold JobRecord.status
    rw [hc]
  · intro hst
    have htold : ∃ v, j.status = .told v := by
      unfold JobRecord.status
      rcases hst with e | e | e <;> rw [e] <;> exact ⟨_, rfl⟩
    obtain ⟨v, hv⟩ := htold
    obtain ⟨out, rfl, hout⟩ := outcome_of_answered (htrue.told v hv)
    exact ⟨out, hout, shows_of_status hv⟩

/-- **A job whose documents are gone is done**: in every run that creates fewer than 2^32 jobs, a
    job that had a document, and whose workers have all left it, is in a terminal state; and unless
    it was canceled, it shows an outcome that its callback returned with, the last one if it had
    one document. -/
theorem finished_jobs_truthful {G : System → Action → Prop} {d : Deployment}
    (h : Run (server o) G (boot d) tr s) (hlt : s.app.jobs.jobs.length < 2 ^ 32)
    (hj : s.app.jobs.jobs[k]? = some j) (hne : workersOf k s.workers ≠ [])
    (hgone : ∀ w ∈ workersOf k s.workers, w.pc.docStage = .gone) :
    j.state.isTerminal = true ∧ (j.cancelFlag = false →
      ∃ out, .outcome k out ∈ tr ∧ j.Shows out ∧
        ((workersOf k s.workers).length = 1 → lastOutcome k tr = some out)) := by
  have hrun := spooled_run h hlt hj
  have hfinal : j.status.final Verdict.again = true := by
    refine Spool.run_attended hrun (fun e => hne (List.map_eq_nil_iff.mp e)) fun x hx => ?_
    obtain ⟨w, hw, rfl⟩ := List.mem_map.mp hx
    exact hgone w hw
  refine ⟨(status_final j).symm.trans hfinal, fun hc => ?_⟩
  by_cases hone : (workersOf k s.workers).length = 1
  · -- one document: the job stands by its last answer
    obtain ⟨w, hw⟩ := List.length_eq_one_iff.mp hone
    have hdocs : (j.spooled (workersOf k s.workers)).docs = [(w.task, .gone)] := by
      unfold JobRecord.spooled
      rw [hw, List.map_singleton, hgone w (by rw [hw]; exact List.mem_cons_self)]
    obtain ⟨v, hv, _, hlast⟩ := Spool.run_single hrun hdocs hc
    obtain ⟨out, rfl, hout⟩ := lastOutcome_of_lastAnswer hlast
    exact ⟨out, mem_of_outcomeAt (List.mem_of_getLast? hout), shows_of_status hv, fun _ => hout⟩
  · have htrue := Spool.run_truthful hrun
    have htold : ∃ v, j.status = .told v := by
      cases hs : j.status with
      | waiting => rw [hs] at hfinal; cases hfinal
      | working => rw [hs] at hfinal; cases hfinal
      | told v => exact ⟨v, rfl⟩
      | canceled => exact absurd ((htrue.canceled hs).symm.trans hc) nofun
    obtain ⟨v, hv⟩ := htold
    obtain ⟨out, rfl, hout⟩ := outcome_of_answered (htrue.told v hv)
    exact ⟨out, hout, shows_of_status hv, fun h1 => absurd h1 hone⟩

end States

theorem job_states_truthful_tried :
    (Trial.triedJob.state = .canceled → Trial.triedJob.cancelFlag = true) ∧
      (Trial.triedJob.state = .completed ∨ Trial.triedJob.state = .aborted ∨
          Trial.triedJob.state = .processingStopped →
        ∃ out, .outcome 0 out ∈ Trial.triedTrace ∧ Trial.triedJob.Shows out) :=
  job_states_truthful Trial.tried_run (by decide +kernel) (by decide +kernel)

theorem finished_jobs_truthful_tried :
    Trial.triedJob.state.isTerminal = true ∧ (Trial.triedJob.cancelFlag = false →
      ∃ out, .outcome 0 out ∈ Trial.triedTrace ∧ Trial.triedJob.Shows out ∧
        ((workersOf 0 Trial.tried.workers).length = 1 →
          lastOutcome 0 Trial.triedTrace = some out)) :=
  finished_jobs_truthful Trial.tried_run (by decide +kernel) (by decide +kernel)
    (by decide +kernel) (by decide +kernel)

end IppPrinterApp
