/-
  File:      IppPrinterApp/Documents.lean
  Subject:   The documents of a job: how many workers it gets, and whether it gets one.

  Print-Job creates a job together with its worker. Create-Job creates one without; each
  Send-Document with a document starts a worker for it, and neither Send-Document nor Close-Job
  looks at what became of the job before.

  * `job_printed_once`: a job has one worker, its callback sees one payload and completes once,
    in every run in which no document is sent to a job that has a worker (`OneDocument`);
  * `attended_run`: whatever the run, a job that ever had a worker is terminal or has one that
    will still finish it;
  * `acknowledged_job_has_worker`: a job acknowledged as finished is terminal or has a live
    worker, in every run in which no request finishes the documents of a job left without any
    (`FinishesAttended`).
-/
import IppPrinterApp.Lifecycle

namespace IppPrinterApp

open Transition

/-! ## 1. One worker a job -/

/-- The request carries a document that can be read and is not empty. -/
def IppRequest.hasDocument (req : IppRequest) : Bool :=
  match req.payload with
  | .ok (_ :: _) => true
  | _ => false

/-- A Send-Document that carries a document names no job with a worker. -/
def OneDocument (o : Options) (s : System) : Action → Prop
  | .request _ name body => ∀ e ∈ admitted o.crate s.app name body,
      operationOf o.crate e.1.operationOrStatus = .sendDocument →
      hasOperationAttr e.1 "last-document" = true → e.1.hasDocument = true →
      ∀ id ∈ extractJobId e.1, workersOf (s.app.jobs.slotOf id) s.workers = []
  | _ => True

instance (o : Options) : DecidableRel (OneDocument o)
  | _, .request .. | _, .cancelNext .. | _, .identified _ | _, .worker .. | _, .outcome ..
  | _, .pollTick | _, .pollAnswer .. | _, .poll | _, .mediaPost .. | _, .mediaAnswer ..
  | _, .media .. => by
    unfold OneDocument
    infer_instance

/-- Positions before the worker is through with its print callback. -/
def WorkerPc.mayPrint : WorkerPc → Bool
  | markPrinter => true
  | markJob => true
  | loopHead => true
  | call => true
  | printing => true
  | heldReasons _ => true
  | heldState => true
  | wait _ => true
  | _ => false

/-- The callback for the job at a position returns Completed. -/
def Event.completes (k : Nat) : Event → Bool
  | .outcome slot .completed => slot == k
  | _ => false

section OneWorker

variable {o : Options} {s s' t : System} {a : Action} {ev tr : List Event}
  {g : JobRegistry} {ws : List Worker}

/-- A worker that is through with its callback stays so. -/
theorem Worker.next_mayPrint {retryMs : Option String} {canceled : Bool}
    {current : List PrinterConfig} {w w' : Worker}
    (h : w.next retryMs canceled current = some w') (hp : w.pc.mayPrint = false) :
    w'.pc.mayPrint = false := by
  obtain ⟨task, pc, backoff⟩ := w
  cases pc with
  | completedCheck => cases h; cases canceled <;> rfl
  | exitCheck => cases h; cases canceled <;> rfl
  | completedReasons => cases h; rfl
  | completedIdle => cases h; rfl
  | completedState => cases h; rfl
  | failedReasons f => cases h; rfl
  | failedIdle f => cases h; rfl
  | failedState f => cases h; rfl
  | cancelReasons => cases h; rfl
  | cancelIdle => cases h; rfl
  | cancelJob => cases h; rfl
  | snapshot => cases h; rfl
  | save saved => cases h; rfl
  | done => cases h
  | _ => cases hp

/-- **No worker is lost**: it keeps its task, and stays through with its callback. -/
theorem JobsStep.follow (h : JobsStep o s a g ws) {w : Worker} (hw : w ∈ s.workers) :
    ∃ w' ∈ ws, w'.task = w.task ∧ (w.pc.mayPrint = false → w'.pc.mayPrint = false) := by
  cases h with
  | same => exact ⟨w, hw, rfl, id⟩
  | request => exact ⟨w, List.mem_append_left _ hw, rfl, id⟩
  | canceled => exact ⟨w, hw, rfl, id⟩
  | worked i now u u' hu hn =>
      rcases Pool.mem_or_moved hu hw with hw' | ⟨rfl, hu'⟩
      · exact ⟨w, hw', rfl, id⟩
      · exact ⟨u', hu', Worker.next_task hn, Worker.next_mayPrint hn⟩
  | returned i out u hu hp =>
      rcases Pool.mem_or_moved hu hw with hw' | ⟨rfl, hu'⟩
      · exact ⟨w, hw', rfl, id⟩
      · refine ⟨_, hu', rfl, fun hm => ?_⟩
        rw [hp] at hm
        cases hm

/-- Under the guard a step gives no job a second worker. -/
theorem JobsStep.one (h : JobsStep o s a g ws) (hg : OneDocument o s a)
    (ht : TaskJobs s.app.jobs s.workers)
    (h1 : ∀ k, (workersOf k s.workers).length ≤ 1) (k : Nat) : (workersOf k ws).length ≤ 1 := by
  have hspawn : ∀ task : PrintTask, workersOf task.slot s.workers = [] →
      (workersOf k (s.workers ++ [task.spawn])).length ≤ 1 := by
    intro task hnone
    by_cases hk : task.slot = k
    · rw [← hk, workersOf_spawn_own, hnone]
      exact Nat.le_refl 1
    · rw [workersOf_spawn_other hk]
      exact h1 k
  cases h with
  | same => exact h1 k
  | request clock name body req record _ _ hgate ha =>
      cases ha with
      | same => simpa using h1 k
      | created => simpa using h1 k
      | printed payload hp => exact hspawn _ (ht.workersOf_length (Nat.le_refl _))
      | sent id job payload hop hld hid hj hp hne =>
          refine hspawn _ ?_
          refine hg (req, record) (mem_admitted.mpr hgate) hop hld ?_ id hid
          unfold IppRequest.hasDocument
          rw [hp]
          cases payload with
          | nil => exact absurd rfl hne
          | cons b bs => rfl
      | canceled => simpa using h1 k
  | canceled => exact h1 k
  | worked i now w w' hw hn =>
      have e : (workersOf k (s.workers.set i w')).length = (workersOf k s.workers).length :=
        Pool.length_tasksOf_set hw (by rw [Worker.next_task hn])
      rw [e]
      exact h1 k
  | returned i out w hw hp =>
      have e : (workersOf k (s.workers.set i { w with pc := .ofOutcome out })).length =
          (workersOf k s.workers).length := Pool.length_tasksOf_set hw rfl
      rw [e]
      exact h1 k

/-- Where a job has one worker at most, any two are the same. -/
theorem workersOf_unique {k : Nat} {u w : Worker} (hone : (workersOf k ws).length ≤ 1)
    (hu : u ∈ workersOf k ws) (hw : w ∈ workersOf k ws) : u = w := by
  match hl : workersOf k ws, hone with
  | [], _ => rw [hl] at hu; cases hu
  | [v], _ =>
      rw [hl] at hu hw
      exact (List.mem_singleton.mp hu).trans (List.mem_singleton.mp hw).symm
  | _ :: _ :: _, hlen => exact absurd hlen (by simp)

/-- What the trace says of the workers: a callback was called by a worker with that payload, and
    it completed at most once for a job, and not yet if no worker is through with it. -/
structure PrintedOnce (tr : List Event) (s : System) : Prop where
  jobs : TaskJobs s.app.jobs s.workers
  one : ∀ k, (workersOf k s.workers).length ≤ 1
  calls : ∀ ctx payload copies, Event.printJob ctx payload copies ∈ tr →
    ∃ w ∈ s.workers, w.task.slot = ctx.slot ∧ w.task.payload = payload
  once : ∀ k, tr.countP (Event.completes k) ≤ 1
  notYet : ∀ k, (∀ w ∈ workersOf k s.workers, w.pc.mayPrint = true) →
    tr.countP (Event.completes k) = 0

/-- Only the return of a callback completes anything. -/
theorem countP_completes_eq_zero (h : step o s a = some (s', ev))
    (ha : ∀ i, a ≠ .outcome i .completed) (k : Nat) : ev.countP (Event.completes k) = 0 := by
  refine List.countP_eq_zero.mpr fun e he => ?_
  have hsrc := step_event h he
  cases hsrc with
  | outcome i out w hw hp =>
      cases out with
      | completed => exact absurd rfl (ha i)
      | _ => exact Bool.false_ne_true
  | _ => exact Bool.false_ne_true

/-- A job none of whose workers is through after a step had none before it either. -/
theorem PrintedOnce.notYet_before (hI : PrintedOnce tr s) (h : JobsStep o s a g ws) {k : Nat}
    (hall : ∀ w ∈ workersOf k ws, w.pc.mayPrint = true) : tr.countP (Event.completes k) = 0 := by
  refine hI.notYet k fun w hw => ?_
  obtain ⟨hmem, hslot⟩ := Pool.mem_tasksOf.mp hw
  obtain ⟨w', hw', htask, hpast⟩ := h.follow hmem
  cases hm : w.pc.mayPrint with
  | true => rfl
  | false =>
      have hin : w' ∈ workersOf k ws := Pool.mem_tasksOf.mpr ⟨hw', by rw [htask]; exact hslot⟩
      have hm' := hall w' hin
      rw [hpast hm] at hm'
      cases hm'

/-- A callback that completes is the first one for its job to do so. -/
theorem PrintedOnce.once_step (hI : PrintedOnce tr s)
    (h : IppPrinterApp.step o s a = some (s', ev)) (k : Nat) :
    (tr ++ ev).countP (Event.completes k) ≤ 1 := by
  rw [List.countP_append]
  by_cases ha : ∃ i, a = .outcome i .completed
  · obtain ⟨i, rfl⟩ := ha
    obtain ⟨w, hw, hp, rfl, _⟩ := step_outcome h
    by_cases hk : w.task.slot = k
    · -- the only worker of its job is printing, so nothing has completed yet
      have hzero : tr.countP (Event.completes k) = 0 := by
        refine hI.notYet k fun u hu => ?_
        have hwk : w ∈ workersOf k s.workers :=
          Pool.mem_tasksOf.mpr ⟨List.mem_of_getElem? hw, hk⟩
        rw [workersOf_unique (hI.one k) hu hwk, hp]
        rfl
      rw [hzero, Nat.zero_add]
      exact List.countP_le_length
    · have hev : List.countP (Event.completes k) [Event.outcome w.task.slot .completed] = 0 := by
        refine List.countP_eq_zero.mpr fun e he => ?_
        rw [List.mem_singleton.mp he]
        simpa [Event.completes] using hk
      rw [hev]
      exact hI.once k
  · rw [countP_completes_eq_zero h (fun i e => ha ⟨i, e⟩) k]
    exact hI.once k

/-- The worker whose callback completed is through with it. -/
theorem countP_completes_of_mayPrint (h : step o s a = some (s', ev)) {k : Nat}
    (hall : ∀ w ∈ workersOf k s'.workers, w.pc.mayPrint = true) :
    ev.countP (Event.completes k) = 0 := by
  refine List.countP_eq_zero.mpr fun e he hc => ?_
  have hsrc := step_event h he
  cases hsrc with
  | outcome i out w hw hp =>
      cases out with
      | completed =>
          obtain ⟨w₁, hw₁, _, _, rfl⟩ := step_outcome h
          rw [hw] at hw₁
          cases hw₁
          have hslot : w.task.slot = k := by simpa [Event.completes] using hc
          have hlt := (List.getElem?_eq_some_iff.mp hw).1
          have hin := List.mem_of_getElem? (List.getElem?_set_self
            (a := ({ w with pc := .ofOutcome .completed } : Worker)) hlt)
          have hm := hall _ (Pool.mem_tasksOf.mpr ⟨hin, hslot⟩)
          cases hm
      | _ => cases hc
  | _ => cases hc

theorem PrintedOnce.step (hI : PrintedOnce tr s) (hg : OneDocument o s a)
    (h : IppPrinterApp.step o s a = some (s', ev)) : PrintedOnce (tr ++ ev) s' where
  jobs := (step_jobs h).taskJobs hI.jobs
  one := (step_jobs h).one hg hI.jobs hI.one
  calls := fun ctx payload copies he => by
    have hold : ∃ w ∈ s.workers, w.task.slot = ctx.slot ∧ w.task.payload = payload := by
      rcases List.mem_append.mp he with he | he
      · exact hI.calls ctx payload copies he
      · have hsrc := step_event h he
        cases hsrc with
        | printJob i now w hw hp => exact ⟨w, List.mem_of_getElem? hw, rfl, rfl⟩
    obtain ⟨w, hw, hslot, hpay⟩ := hold
    obtain ⟨w', hw', htask, _⟩ := (step_jobs h).follow hw
    exact ⟨w', hw', by rw [htask]; exact hslot, by rw [htask]; exact hpay⟩
  once := hI.once_step h
  notYet := fun k hall => by
    rw [List.countP_append, hI.notYet_before (step_jobs h) hall, Nat.zero_add]
    exact countP_completes_of_mayPrint h hall

/-- **A job is printed once**: in every run in which no document is sent to a job that has a
    worker, every job has at most one worker, every call of the callback for it carries the same
    payload, and at most one of them returns Completed. -/
theorem job_printed_once {d : Deployment} (h : Run (server o) (OneDocument o) (boot d) tr t)
    (k : Nat) :
    (workersOf k t.workers).length ≤ 1 ∧
      (∀ ctx ctx' payload payload' copies copies',
        Event.printJob ctx payload copies ∈ tr → Event.printJob ctx' payload' copies' ∈ tr →
        ctx.slot = k → ctx'.slot = k → payload = payload') ∧
      tr.countP (Event.completes k) ≤ 1 := by
  have hI : PrintedOnce tr t := by
    refine Run.invariant ?_ (fun _ _ _ _ _ hI hg hs => hI.step hg hs) h
    refine ⟨?_, fun k => Nat.zero_le 1, ?_, fun k => Nat.zero_le 1, fun k _ => rfl⟩
    · intro w hw
      cases hw
    · intro ctx payload copies he
      cases he
  refine ⟨hI.one k, ?_, hI.once k⟩
  intro ctx ctx' payload payload' copies copies' he he' hk hk'
  obtain ⟨w, hw, hslot, rfl⟩ := hI.calls ctx payload copies he
  obtain ⟨w', hw', hslot', rfl⟩ := hI.calls ctx' payload' copies' he'
  have hin : w ∈ workersOf k t.workers := Pool.mem_tasksOf.mpr ⟨hw, hslot.trans hk⟩
  have hin' : w' ∈ workersOf k t.workers := Pool.mem_tasksOf.mpr ⟨hw', hslot'.trans hk'⟩
  rw [workersOf_unique (hI.one k) hin hin']

end OneWorker

/-- Worker `i` from its start through a completed print to its end. -/
def workThrough (i : Nat) : List Action :=
  Trial.times 4 (.worker i 5) ++ [.outcome i .completed] ++ Trial.times 7 (.worker i 6)

/-- Create-Job, one document, printed. -/
def oneDocument : List Action :=
  [Trial.post "p" Trial.create, Trial.post "p" Trial.send] ++ workThrough 0

theorem job_printed_once_sent :
    (workersOf 0 (endOf (server Trial.options) (OneDocument Trial.options)
        (boot Trial.deployment) oneDocument).workers).length ≤ 1 ∧
      (∀ ctx ctx' payload payload' copies copies',
        Event.printJob ctx payload copies ∈ traceOf (server Trial.options)
          (OneDocument Trial.options) (boot Trial.deployment) oneDocument →
        Event.printJob ctx' payload' copies' ∈ traceOf (server Trial.options)
          (OneDocument Trial.options) (boot Trial.deployment) oneDocument →
        ctx.slot = 0 → ctx'.slot = 0 → payload = payload') ∧
      (traceOf (server Trial.options) (OneDocument Trial.options) (boot Trial.deployment)
        oneDocument).countP (Event.completes 0) ≤ 1 :=
  job_printed_once (run_endOf (by decide +kernel)) 0

/-- Create-Job, then the same Send-Document twice, as after a lost reply. -/
def documentTwice : List Action :=
  [Trial.post "p" Trial.create, Trial.post "p" Trial.send, Trial.post "p" Trial.send] ++
    workThrough 0 ++ workThrough 1

/-- The job has two workers, and both print it. -/
theorem job_printed_twice :
    ¬ ∀ (o : Options) (d : Deployment) (tr : List Event) (t : System) (k : Nat),
        Run (server o) anyStep (boot d) tr t →
        (workersOf k t.workers).length ≤ 1 ∧
          (∀ ctx ctx' payload payload' copies copies',
            Event.printJob ctx payload copies ∈ tr → Event.printJob ctx' payload' copies' ∈ tr →
            ctx.slot = k → ctx'.slot = k → payload = payload') ∧
          tr.countP (Event.completes k) ≤ 1 := by
  intro h
  obtain ⟨_, _, honce⟩ := h Trial.options Trial.deployment
    (traceOf (server Trial.options) anyStep (boot Trial.deployment) documentTwice)
    (endOf (server Trial.options) anyStep (boot Trial.deployment) documentTwice) 0
    (run_endOf (by decide +kernel))
  have htwice : (traceOf (server Trial.options) anyStep (boot Trial.deployment)
      documentTwice).countP (Event.completes 0) = 2 := by decide +kernel
  rw [htwice] at honce
  exact absurd honce (by decide)

/-! ## 2. A worker for every finished job -/

/-- The worker will still write the last state of its job. -/
def Worker.Attends (w : Worker) (j : JobRecord) : Prop :=
  match w.pc with
  | .exitCheck => j.cancelFlag = true
  | .snapshot => False
  | .save _ => False
  | .done => False
  | _ => True

/-- A job that is terminal, or has a worker that will still finish it. -/
def JobRecord.Attended (j : JobRecord) (ws : List Worker) : Prop :=
  j.state.isTerminal = true ∨ ∃ w ∈ ws, w.Attends j

section Attended

variable {o : Options} {s s' t : System} {a : Action} {ev tr : List Event}
  {g : JobRegistry} {ws : List Worker} {j : JobRecord}

/-- A worker that reads on, or writes no job, attends it as before. -/
theorem Worker.next_attends {retryMs : Option String} {current : List PrinterConfig}
    {w w' : Worker} (h : w.next retryMs j.cancelFlag current = some w') (hw : w.Attends j)
    (hop : w.pc.jobOp = none) : w'.Attends j := by
  obtain ⟨task, pc, backoff⟩ := w
  cases pc with
  | loopHead =>
      cases h
      cases hf : j.cancelFlag with
      | true => exact hf
      | false => trivial
  | completedCheck =>
      cases h
      cases hf : j.cancelFlag with
      | true => exact hf
      | false => trivial
  | wait left =>
      have hgo := Worker.next_wait rfl h
      unfold Worker.Attends
      rcases hgo with ⟨hf, hpc⟩ | ⟨_, ⟨left', hpc⟩ | hpc⟩
      · rw [hpc]
        exact hf
      · rw [hpc]
        trivial
      · rw [hpc]
        trivial
  | exitCheck =>
      cases h
      have hf : j.cancelFlag = true := hw
      unfold Worker.Attends
      rw [hf]
      trivial
  | snapshot => exact hw.elim
  | save saved => exact hw.elim
  | printing => cases h
  | done => cases h
  | markPrinter => cases h; trivial
  | call => cases h; trivial
  | completedReasons => cases h; trivial
  | completedIdle => cases h; trivial
  | failedReasons f => cases h; trivial
  | failedIdle f => cases h; trivial
  | heldReasons reasons => cases h; trivial
  | cancelReasons => cases h; trivial
  | cancelIdle => cases h; trivial
  | _ => cases hop

/-- A worker that writes its job finishes it or still attends it. -/
theorem Worker.next_writes {retryMs : Option String} {canceled : Bool}
    {current : List PrinterConfig} {w w' : Worker} {op : JobOp} (now : SystemTime)
    (h : w.next retryMs canceled current = some w') (hop : w.pc.jobOp = some op)
    (j : JobRecord) :
    (op.apply now j).state.isTerminal = true ∨ w'.Attends (op.apply now j) := by
  obtain ⟨task, pc, backoff⟩ := w
  cases pc with
  | markJob =>
      cases h
      exact Or.inr trivial
  | heldState =>
      cases h
      exact Or.inr trivial
  | completedState =>
      cases hop
      exact Or.inl rfl
  | failedState f =>
      cases hop
      exact Or.inl rfl
  | cancelJob =>
      cases hop
      exact Or.inl (JobRecord.withCancel_isTerminal now j)
  | _ => cases hop

/-- Another worker's turn: who attended the job attends it, the one who moved perhaps anew. -/
theorem JobRecord.Attended.move {before after : List Worker} {w w' : Worker}
    (h : j.Attended (before ++ w :: after)) (hm : w.Attends j → w'.Attends j) :
    j.Attended (before ++ w' :: after) := by
  rcases h with ht | ⟨u, hu, hat⟩
  · exact Or.inl ht
  · refine Or.inr ?_
    rcases List.mem_append.mp hu with hu | hu
    · exact ⟨u, List.mem_append_left _ hu, hat⟩
    · rcases List.mem_cons.mp hu with rfl | hu
      · exact ⟨w', List.mem_append_right _ List.mem_cons_self, hm hat⟩
      · exact ⟨u, List.mem_append_right _ (List.mem_cons_of_mem _ hu), hat⟩

/-- **Every step keeps a job with a worker attended**, whatever the interleaving. -/
theorem attended_survives (o : Options) (s : System) (a : Action) :
    Survives (fun j ws => ws ≠ [] → j.Attended ws) o s a where
  created := fun _ _ _ hne => absurd rfl hne
  canceled := fun now j _ _ _ => Or.inl (JobRecord.withCancel_isTerminal now j)
  spawned := fun task _ _ _ _ =>
    Or.inr ⟨task.spawn, List.mem_append_right _ (List.mem_singleton_self _), trivial⟩
  worked := fun i now w w' j before after _ _ _ hn h _ => by
    cases hop : w.pc.jobOp with
    | none =>
        rw [WorkerPc.jobAfter_none hop]
        have hold := h (List.append_ne_nil_of_right_ne_nil _ (List.cons_ne_nil _ _))
        exact hold.move fun hat => Worker.next_attends hn hat hop
    | some op =>
        rw [WorkerPc.jobAfter_some hop]
        rcases Worker.next_writes now hn hop j with hterm | hat
        · exact Or.inl hterm
        · exact Or.inr ⟨w', List.mem_append_right _ List.mem_cons_self, hat⟩
  returned := fun out w j before after _ h _ => by
    have hold := h (List.append_ne_nil_of_right_ne_nil _ (List.cons_ne_nil _ _))
    exact hold.move fun _ => by cases out <;> trivial

/-- **A job that ever had a worker is attended**, in every run. -/
theorem attended_run {G : System → Action → Prop} {d : Deployment}
    (h : Run (server o) G (boot d) tr t) (hlt : t.app.jobs.jobs.length < 2 ^ 32) :
    EachJob (fun j ws => ws ≠ [] → j.Attended ws) t.app.jobs t.workers :=
  run_eachJob (fun s a _ => attended_survives o s a) h hlt

end Attended

/-! ## 3. Jobs acknowledged as finished -/

/-- The request says that a job has all its documents, and brings none: a Close-Job, or a
    Send-Document with an empty document. -/
def finishesOnly (x : IppCrate) (req : IppRequest) : Bool :=
  match operationOf x req.operationOrStatus with
  | .closeJob => true
  | .sendDocument => !req.hasDocument
  | _ => false

/-- An acknowledged request that only finishes the documents of a job names one that is terminal
    or has a worker. -/
def FinishesAttended (o : Options) (s : System) : Action → Prop
  | .request clock name body => (handleIpp o.crate clock s.app name body).reply.Successful →
      ∀ e ∈ admitted o.crate s.app name body, finishesOnly o.crate e.1 = true →
      ∀ id ∈ extractJobId e.1, ∀ j ∈ s.app.jobs.get id,
      j.state.isTerminal = true ∨ workersOf (s.app.jobs.slotOf id) s.workers ≠ []
  | _ => True

instance (o : Options) : DecidableRel (FinishesAttended o)
  | _, .request .. | _, .cancelNext .. | _, .identified _ | _, .worker .. | _, .outcome ..
  | _, .pollTick | _, .pollAnswer .. | _, .poll | _, .mediaPost .. | _, .mediaAnswer ..
  | _, .media .. => by
    unfold FinishesAttended
    infer_instance

/-- The job at a position has this id, and it is terminal or has a worker. -/
def Finished (k : Nat) (id : JobId) (g : JobRegistry) (ws : List Worker) : Prop :=
  ∃ j, g.jobs[k]? = some j ∧ j.id = id ∧ (j.state.isTerminal = true ∨ workersOf k ws ≠ [])

section Acknowledged

variable {o : Options} {s s' t : System} {a : Action} {ev tr : List Event}
  {g : JobRegistry} {ws : List Worker}

theorem JobsStep.workersOf_ne_nil (h : JobsStep o s a g ws) {k : Nat}
    (hne : workersOf k s.workers ≠ []) : workersOf k ws ≠ [] := by
  obtain ⟨w, hw⟩ := List.exists_mem_of_ne_nil _ hne
  obtain ⟨hmem, hslot⟩ := Pool.mem_tasksOf.mp hw
  obtain ⟨w', hw', htask, _⟩ := h.follow hmem
  have hin : w' ∈ workersOf k ws := Pool.mem_tasksOf.mpr ⟨hw', by rw [htask]; exact hslot⟩
  exact List.ne_nil_of_mem hin

/-- Only a worker of its own leads a terminal job back. -/
theorem JobsStep.finished (h : JobsStep o s a g ws) (ht : TaskJobs s.app.jobs s.workers)
    (hwf : s.app.jobs.Wf) (hlt : s.app.jobs.jobs.length < 2 ^ 32) {k : Nat} {id : JobId}
    (hf : Finished k id s.app.jobs s.workers) : Finished k id g ws := by
  obtain ⟨j, hk, hid, hor⟩ := hf
  obtain ⟨j', hk', hc⟩ := h.change hk
  refine ⟨j', hk', hc.id_eq.trans hid, ?_⟩
  rcases hor with hterm | hne
  · cases hc with
    | same => exact Or.inl hterm
    | canceled now => exact Or.inl (JobRecord.withCancel_isTerminal now j)
    | worked i now w op _ hw hop hslot =>
        have hmem := List.mem_of_getElem? hw
        have hk : w.task.slot = k := (ht.slotOf hwf hlt hmem).symm.trans hslot
        exact Or.inr (h.workersOf_ne_nil (List.ne_nil_of_mem (Pool.mem_tasksOf.mpr ⟨hmem, hk⟩)))
  · exact Or.inr (h.workersOf_ne_nil hne)

/-- A Close-Job answered successfully names a job. -/
theorem closeJob_successful {x : IppCrate} (hx : x.BuildsResponses) {app : AppState}
    {req : IppRequest} {id : JobId} (hid : extractJobId req = some id)
    (h : (closeJob x app req).reply.Successful) : ∃ j, app.jobs.get id = some j := by
  unfold closeJob at h
  rw [hid] at h
  have hst := (respond_successful hx _ _ _).mp h
  cases hg : app.jobs.get id with
  | some j => exact ⟨j, rfl⟩
  | none =>
      rw [Option.bind_some, hg] at hst
      cases hst

/-- A Send-Document answered successfully names a job, and hands a document to a worker. -/
theorem sendDocument_successful {x : IppCrate} (hx : x.BuildsResponses) {clock : Clock}
    {app : AppState} {name : String} {req : IppRequest} {record : PrinterRecord} {id : JobId}
    (hid : extractJobId req = some id)
    (h : (sendDocument x clock app name req record).reply.Successful) :
    ∃ j, app.jobs.get id = some j ∧ (req.hasDocument = true →
      ∃ task, (sendDocument x clock app name req record).spawned = some task ∧
        task.slot = app.jobs.slotOf id) := by
  unfold sendDocument at h ⊢
  split at h
  · cases (respond_successful hx _ _ _).mp h
  · rename_i hl
    rw [if_neg hl]
    rw [hid] at h ⊢
    dsimp only at h ⊢
    cases hg : app.jobs.get id with
    | none =>
        rw [hg] at h
        exact h.elim
    | some j =>
        refine ⟨j, rfl, fun hdoc => ?_⟩
        unfold IppRequest.hasDocument at hdoc
        cases hp : req.payload with
        | error e =>
            rw [hp] at hdoc
            cases hdoc
        | ok payload =>
            rw [hp] at hdoc
            cases payload with
            | nil => cases hdoc
            | cons b bs => exact ⟨_, rfl, rfl⟩

/-- The job an acknowledged request refers to: it was there before, and the request attends it with
    a worker of its own if it does not only finish it. -/
theorem acknowledged_target (hx : o.crate.BuildsResponses) {clock : Clock} {name : String}
    {req : IppRequest} {record : PrinterRecord} {id : JobId}
    (hop : operationOf o.crate req.operationOrStatus = .sendDocument ∨
      operationOf o.crate req.operationOrStatus = .closeJob)
    (hid : extractJobId req = some id)
    (hok : (dispatch o.crate clock s.app name req record).reply.Successful) :
    ∃ j, s.app.jobs.get id = some j ∧
      (finishesOnly o.crate req = true ∨ ∃ task,
        (dispatch o.crate clock s.app name req record).spawned = some task ∧
          task.slot = s.app.jobs.slotOf id) := by
  rcases hop with hop | hop
  · rw [dispatch_sendDocument hop] at hok ⊢
    obtain ⟨j, hj, hdoc⟩ := sendDocument_successful hx hid hok
    refine ⟨j, hj, ?_⟩
    cases hh : req.hasDocument with
    | true => exact Or.inr (hdoc hh)
    | false =>
        refine Or.inl ?_
        unfold finishesOnly
        rw [hop, hh]
        rfl
  · rw [dispatch_closeJob hop] at hok
    obtain ⟨j, hj⟩ := closeJob_successful hx hid hok
    refine ⟨j, hj, Or.inl ?_⟩
    unfold finishesOnly
    rw [hop]

/-- **An acknowledgement leaves the job finished**: terminal, or with a worker. -/
theorem acknowledged_finished (hx : o.crate.BuildsResponses) {clock : Clock} {name : String}
    {body : List UInt8} {req : IppRequest} {record : PrinterRecord} {id : JobId}
    (hgate : gates o.crate s.app name body = .ok (req, record))
    (hop : operationOf o.crate req.operationOrStatus = .sendDocument ∨
      operationOf o.crate req.operationOrStatus = .closeJob)
    (hid : extractJobId req = some id)
    (hok : (handleIpp o.crate clock s.app name body).reply.Successful)
    (hg : FinishesAttended o s (.request clock name body))
    (ht : TaskJobs s.app.jobs s.workers) (hwf : s.app.jobs.Wf)
    (hlt : s.app.jobs.jobs.length < 2 ^ 32) :
    Finished (s.app.jobs.slotOf id) id (requestStep o s clock name body).1.app.jobs
      (requestStep o s clock name body).1.workers := by
  have hstep : step o s (.request clock name body) =
    some ((requestStep o s clock name body).1, (requestStep o s clock name body).2) := rfl
  have hguard := hg hok (req, record) (mem_admitted.mpr hgate)
  unfold handleIpp at hok
  rw [hgate] at hok
  obtain ⟨j, hj, hor⟩ := acknowledged_target hx hop hid hok
  have hk : s.app.jobs.jobs[s.app.jobs.slotOf id]? = some j :=
    (JobRegistry.get_eq_getElem? s.app.jobs id).symm.trans hj
  have hjs := step_jobs hstep
  rcases hor with hfin | ⟨task, htask, hslot⟩
  · exact hjs.finished ht hwf hlt ⟨j, hk, JobRegistry.get_id hj, hguard hfin id hid j hj⟩
  · obtain ⟨j', hj', hc⟩ := hjs.change hk
    refine ⟨j', hj', hc.id_eq.trans (JobRegistry.get_id hj), Or.inr ?_⟩
    have hne : operationOf o.crate req.operationOrStatus ≠ .cancelMyJobs := by
      rcases hop with hop | hop <;> rw [hop] <;> exact fun e => by cases e
    have hni : operationOf o.crate req.operationOrStatus ≠ .identifyPrinter := by
      rcases hop with hop | hop <;> rw [hop] <;> exact fun e => by cases e
    have hws : (requestStep o s clock name body).1.workers = s.workers ++ [task.spawn] := by
      unfold requestStep
      rw [hgate]
      dsimp only
      rw [if_neg hne, if_neg hni, htask]
      rfl
    rw [hws, ← hslot, workersOf_spawn_own]
    exact List.append_ne_nil_of_right_ne_nil _ (List.cons_ne_nil _ _)

/-- **An acknowledged job is taken care of**: once a Send-Document or Close-Job on it was
    answered successfully, in every later state of a run in which no request finishes the
    documents of a job left without any, the job is terminal or has a worker that has not
    exited. -/
theorem acknowledged_job_has_worker (hx : o.crate.BuildsResponses) {d : Deployment}
    {tr' : List Event} {clock : Clock} {name : String} {body : List UInt8} {req : IppRequest}
    {record : PrinterRecord} {id : JobId} {j : JobRecord}
    (h : Run (server o) (FinishesAttended o) (boot d) tr s)
    (hgate : gates o.crate s.app name body = .ok (req, record))
    (hop : operationOf o.crate req.operationOrStatus = .sendDocument ∨
      operationOf o.crate req.operationOrStatus = .closeJob)
    (hid : extractJobId req = some id)
    (hok : (handleIpp o.crate clock s.app name body).reply.Successful)
    (hg : FinishesAttended o s (.request clock name body))
    (h' : Run (server o) (FinishesAttended o) (requestStep o s clock name body).1 tr' t)
    (hlt : t.app.jobs.jobs.length < 2 ^ 32) (hj : t.app.jobs.get id = some j)
    (hnt : j.state.isTerminal = false) :
    ∃ w ∈ workersOf (t.app.jobs.slotOf id) t.workers, w.pc ≠ .done := by
  have hrun : Run (server o) (FinishesAttended o) (boot d)
      (tr ++ (requestStep o s clock name body).2) (requestStep o s clock name body).1 :=
    h.step hg rfl
  have hall := hrun.trans h'
  have hlt₁ := Nat.lt_of_le_of_lt (run_length h') hlt
  have hlt₀ := Nat.lt_of_le_of_lt (step_jobs_length (o := o) (a := .request clock name body) rfl) hlt₁
  -- finished at the acknowledgement, and from then on
  have hf₀ := acknowledged_finished hx hgate hop hid hok hg (run_taskJobs h) (run_wf h) hlt₀
  have hf : Finished (s.app.jobs.slotOf id) id t.app.jobs t.workers :=
    run_jobs_from (run_taskJobs hrun) (run_wf hrun) hf₀
      (fun _ _ _ _ hj _ ht hwf hlt hf => hj.finished ht hwf hlt hf) h' hlt
  obtain ⟨j₀, hk, hid₀, hor⟩ := hf
  have hslot : t.app.jobs.slotOf id = s.app.jobs.slotOf id := by
    have e := JobRegistry.slotOf_id (run_wf hall) hlt hk
    rw [hid₀] at e
    exact e
  rw [JobRegistry.get_eq_getElem?, hslot, hk] at hj
  cases hj
  rw [hslot]
  have hne : workersOf (s.app.jobs.slotOf id) t.workers ≠ [] := by
    rcases hor with hterm | hne
    · rw [hnt] at hterm
      cases hterm
    · exact hne
  rcases attended_run hall hlt _ _ hk hne with hterm | ⟨w, hw, hat⟩
  · rw [hnt] at hterm
    cases hterm
  · refine ⟨w, hw, fun hd => ?_⟩
    unfold Worker.Attends at hat
    rw [hd] at hat
    exact hat

end Acknowledged

/-- Create-Job on the first printer, nothing more. -/
def created : System :=
  endOf (server Trial.options) (FinishesAttended Trial.options) (boot Trial.deployment)
    [Trial.post "p" Trial.create]

theorem created_run :
    Run (server Trial.options) (FinishesAttended Trial.options) (boot Trial.deployment)
      (traceOf (server Trial.options) (FinishesAttended Trial.options) (boot Trial.deployment)
        [Trial.post "p" Trial.create]) created :=
  run_endOf (by decide +kernel)

/-- The job before its worker touches it. -/
def pendingJob : JobRecord where
  id := 1
  printerName := "p"
  owner := "ann"
  state := .pending
  reasons := .empty
  message := ""
  createdAt := 1000000000
  completedAt := none
  cancelFlag := false

/-- The first printer's record. -/
def printerP : PrinterRecord := .new (Trial.config "p") "uuid-p"

/-- The server after one more request. -/
def afterRequest (m : Trial.Message) : System :=
  (requestStep Trial.options created Trial.clock "p" m.body).1

set_option maxRecDepth 8000 in
theorem acknowledged_job_has_worker_sent :
    ∃ w ∈ workersOf ((afterRequest Trial.send).app.jobs.slotOf 1)
      (afterRequest Trial.send).workers, w.pc ≠ .done :=
  acknowledged_job_has_worker (s := created) (d := Trial.deployment) (o := Trial.options)
    (j := pendingJob) Trial.crate_buildsResponses created_run rfl
    (Or.inl rfl) rfl (by decide +kernel) (by decide +kernel) .start (by decide +kernel)
    (by decide +kernel) rfl

set_option maxRecDepth 8000 in
/-- Create-Job, then Close-Job before any document: acknowledged, and nobody there to print. -/
theorem closed_job_pending_forever :
    ¬ ∀ (o : Options) (d : Deployment) (tr tr' : List Event) (s t : System) (clock : Clock)
        (name : String) (body : List UInt8) (req : IppRequest) (record : PrinterRecord)
        (id : JobId) (j : JobRecord), o.crate.BuildsResponses →
        Run (server o) anyStep (boot d) tr s →
        gates o.crate s.app name body = .ok (req, record) →
        (operationOf o.crate req.operationOrStatus = .sendDocument ∨
          operationOf o.crate req.operationOrStatus = .closeJob) →
        extractJobId req = some id →
        (handleIpp o.crate clock s.app name body).reply.Successful →
        Run (server o) anyStep (requestStep o s clock name body).1 tr' t →
        t.app.jobs.get id = some j → j.state.isTerminal = false →
        ∃ w ∈ workersOf (t.app.jobs.slotOf id) t.workers, w.pc ≠ .done := by
  intro h
  obtain ⟨w, hw, _⟩ := h Trial.options Trial.deployment _ _ created _ Trial.clock "p"
    Trial.close.body Trial.close.request printerP 1 pendingJob Trial.crate_buildsResponses
    created_run.any rfl (Or.inr rfl) rfl (by decide +kernel) .start (by decide +kernel) rfl
  have hnone : workersOf ((afterRequest Trial.close).app.jobs.slotOf 1)
      (afterRequest Trial.close).workers = [] := by decide +kernel
  have hw' : w ∈ workersOf ((afterRequest Trial.close).app.jobs.slotOf 1)
      (afterRequest Trial.close).workers := hw
  rw [hnone] at hw'
  cases hw'

end IppPrinterApp
