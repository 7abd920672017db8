/-
  File:      IppPrinterApp/Retries.lean
  Subject:   The retry loop of a print worker (`spawn_print_worker`, server.rs), over whole runs.

  The device answers by a script: unavailable `k` times, each time with some reasons, and then
  something else. The worker keeps its printer and its job up with that, waits longer and longer
  in between, and stops after the last answer.

  * `Seen` is what the worker works on: itself, its job, its printer's state and reasons.
    `Sees.access`, `Sees.returned`, `Sees.other` -- its own accesses change this as its program
    says, and nothing else does while nobody interferes (`Undisturbed`);
  * `Journal` is a history variable of what it did: calls, answers, waits, snapshots written;
  * `Stage` is the invariant, position by position. `Stage.access` and `Stage.returned` are its
    two steps; `remaining` is the measure that both of them lower.

  `retries_until_settled` reads waits and the end off the invariant, and that the end is always
  within reach off the measure.
-/
import IppPrinterApp.Reasons

namespace IppPrinterApp

open Transition

/-! ## 1. Script and journal -/

/-- What the device answers: that it is unavailable, for these reasons one after the other, and
    then something else. -/
structure Script where
  held : List PrinterReason
  final : JobOutcome
  settles : ∀ reasons, final ≠ .deviceUnavailable reasons

def Script.outcomes (c : Script) : List JobOutcome :=
  c.held.map .deviceUnavailable ++ [c.final]

/-- The `n`th wait: the configured start, doubled `n` times and capped. -/
def backoffAt (o : Options) (n : Nat) : Duration :=
  min BACKOFF_MAX (backoffStart o.retryMs * 2 ^ n)

/-- What one worker did: the calls of the print callback, the answers, the waits that are over,
    how long the present one has been, and how often it wrote the state file. -/
structure Journal where
  calls : List (JobContext × List UInt8 × Nat)
  outcomes : List JobOutcome
  waits : List Duration
  waited : Duration
  saves : Nat
  deriving DecidableEq, Repr

namespace Journal

def start : Journal := { calls := [], outcomes := [], waits := [], waited := 0, saves := 0 }

/-- What is noted of an access. A round of `sleep_cancelable` sleeps a slice while something is
    left. -/
def access (h : Journal) (w : Worker) : Journal :=
  match w.pc with
  | .call => { h with calls := h.calls ++ [(w.task.context, w.task.payload, w.task.copies)] }
  | .heldState => { h with waited := 0 }
  | .wait left =>
    if left > 0 then { h with waited := h.waited + min left SLICE }
    else { h with waits := h.waits ++ [h.waited] }
  | .save _ => { h with saves := h.saves + 1 }
  | _ => h

def returned (h : Journal) (out : JobOutcome) : Journal :=
  { h with outcomes := h.outcomes ++ [out] }

end Journal

/-- Notes what worker `i` does. -/
def noteJournal (i : Nat) (h : Journal) (s : System) : Action → Journal
  | .worker k _ => if k = i then (s.workers[i]?.map h.access).getD h else h
  | .outcome k out => if k = i then h.returned out else h
  | _ => h

/-- Nobody interferes with worker `i`: no poll, no cancel of its job, no step of another worker
    that has its printer or its job; and the device answers by the script. -/
structure Undisturbed (o : Options) (i : Nat) (task : PrintTask) (c : Script)
    (p : System × Journal) (a : Action) : Prop where
  unpolled : a.ofPoller = false
  uncanceled : ∀ r, step o p.1 a = some r → r.1.app.jobs.isCanceled task.slot = false
  alone : ∀ k now w, a = .worker k now → k ≠ i → p.1.workers[k]? = some w →
    w.task.printerName ≠ task.printerName ∧ p.1.app.jobs.slotOf w.task.id ≠ task.slot
  scripted : ∀ out, a = .outcome i out → c.outcomes[p.2.outcomes.length]? = some out

/-! ## 2. What the worker sees -/

/-- What a worker works on: itself, its job, and its printer's state and reasons. -/
structure Seen where
  worker : Worker
  job : JobRecord
  state : IppPrinterState
  reasons : PrinterReason

/-- Worker `i` with this task finds this. -/
structure System.Sees (s : System) (i : Nat) (task : PrintTask) (v : Seen) : Prop where
  worker : s.workers[i]? = some v.worker
  hasTask : v.worker.task = task
  job : s.app.jobs.jobs[task.slot]? = some v.job
  slot : s.app.jobs.slotOf task.id = task.slot
  printer : (findPrinter s.app.printers task.printerName).map (fun r => (r.state, r.reasons)) =
    some (v.state, v.reasons)

/-- The same after the worker's access. -/
def Seen.access (v : Seen) (now : SystemTime) (w' : Worker) : Seen :=
  { worker := w'
    job := v.worker.pc.jobAfter now v.job
    state := v.worker.pc.sets.getD v.state
    reasons := v.worker.pc.setsReasons.getD v.reasons }

/-- The same after the print callback has returned. -/
def Seen.returned (v : Seen) (out : JobOutcome) : Seen :=
  { v with worker := { v.worker with pc := .ofOutcome out } }

section Sees

variable {o : Options} {s s' : System} {a : Action} {ev : List Event} {i : Nat} {task : PrintTask}
  {v : Seen}

/-- A job keeps its place: the id that refers to it refers to it ever after. -/
theorem step_slotOf {id : JobId} (h : step o s a = some (s', ev))
    (hlt : s.app.jobs.slotOf id < s.app.jobs.jobs.length) :
    s'.app.jobs.slotOf id = s.app.jobs.slotOf id := by
  have hcreate : ∀ now p u, (s.app.jobs.create now p u).2.slotOf id = s.app.jobs.slotOf id := by
    intro now p u
    exact List.findIdx_append.trans (if_pos hlt)
  have hcancel : ∀ now id', (s.app.jobs.cancel now id').2.slotOf id = s.app.jobs.slotOf id :=
    fun now id' => JobRegistry.slotOf_update (fun j => JobRecord.withCancel_id now j) id' id
  have hj := step_jobs h
  generalize s'.app.jobs = g at hj ⊢
  generalize s'.workers = ws at hj
  cases hj with
  | same => rfl
  | request clock name body req record _ _ hg ha =>
      cases ha with
      | same => rfl
      | created => exact hcreate _ _ _
      | printed => exact hcreate _ _ _
      | sent => rfl
      | canceled => exact hcancel _ _
  | canceled => exact hcancel _ _
  | worked k now w w' hw hn =>
      unfold WorkerPc.jobsAfter
      split
      · rename_i op _
        exact JobRegistry.slotOf_update (fun j => JobOp.apply_id op now j) w.task.id id
      · rfl
  | returned => rfl

/-- The state and the reasons of the worker's printer, after a change that keeps its name. -/
theorem findPrinter_seen {printers : PrinterRegistry} {name : String}
    {f : PrinterRecord → PrinterRecord} {st : IppPrinterState} {rs : PrinterReason}
    (g : IppPrinterState × PrinterReason → IppPrinterState × PrinterReason)
    (hf : ∀ r, (f r).config.name = r.config.name)
    (hg : ∀ r : PrinterRecord, ((f r).state, (f r).reasons) = g (r.state, r.reasons))
    (h : (findPrinter printers name).map (fun r => (r.state, r.reasons)) = some (st, rs)) :
    (findPrinter (updatePrinter printers name f) name).map (fun r => (r.state, r.reasons)) =
      some (g (st, rs)) := by
  obtain ⟨r, hr, e⟩ := Option.map_eq_some_iff.mp h
  rw [findPrinter_updatePrinter hf, hr, Option.map_some, Option.map_some, hg, e]

namespace System.Sees

theorem slot_lt (hv : s.Sees i task v) : s.app.jobs.slotOf task.id < s.app.jobs.jobs.length := by
  rw [hv.slot]
  exact (List.getElem?_eq_some_iff.mp hv.job).1

/-- **The worker's own access**: its program's next step, and what that writes. -/
theorem access (hv : s.Sees i task v) {now : SystemTime}
    (h : step o s (.worker i now) = some (s', ev)) :
    ∃ w', v.worker.next o.retryMs v.job.cancelFlag (configs s.app.printers) = some w' ∧
      s'.Sees i task (v.access now w') := by
  have hslot := step_slotOf h hv.slot_lt
  obtain ⟨w, w', hw, hn, _, rfl⟩ := step_worker h
  have e : w = v.worker := Option.some.inj (hw.symm.trans hv.worker)
  subst e
  have hflag : s.app.jobs.isCanceled task.slot = v.job.cancelFlag := JobRegistry.isCanceled_eq hv.job
  rw [hv.hasTask, hflag] at hn
  refine ⟨w', hn, ?_, (Worker.next_task hn).trans hv.hasTask, ?_, hslot.trans hv.slot, ?_⟩
  · exact List.getElem?_set_self (List.getElem?_eq_some_iff.mp hw).1
  · have hjob := WorkerPc.jobsAfter_getElem? v.worker.pc v.worker.task now s.app.jobs task.slot
    rw [hv.hasTask, hv.slot, if_pos rfl, hv.job, Option.map_some] at hjob
    rw [hv.hasTask]
    exact hjob
  · have hp := hv.printer
    unfold Seen.access WorkerPc.sets WorkerPc.setsReasons
    dsimp only [WorkerPc.printersAfter]
    rw [hv.hasTask]
    cases v.worker.pc.printerOp with
    | none => exact hp
    | some op =>
        exact findPrinter_seen (fun e => (op.writes.getD e.1, op.writesReasons.getD e.2))
          (fun r => by rw [op.apply_config r])
          (fun r => by rw [op.apply_state r, op.apply_reasons r]) hp

/-- **The print callback returns**: the worker goes where the outcome takes it. -/
theorem returned (hv : s.Sees i task v) {out : JobOutcome}
    (h : step o s (.outcome i out) = some (s', ev)) :
    v.worker.pc = .printing ∧ s'.Sees i task (v.returned out) := by
  obtain ⟨w, hw, hpc, _, rfl⟩ := step_outcome h
  have e : w = v.worker := Option.some.inj (hw.symm.trans hv.worker)
  subst e
  exact ⟨hpc, List.getElem?_set_self (List.getElem?_eq_some_iff.mp hw).1, hv.hasTask, hv.job, hv.slot,
    hv.printer⟩

variable {c : Script} {h : Journal}

/-- A step of another worker leaves this one where it is. -/
theorem worker_other (hv : s.Sees i task v) (hs : step o s a = some (s', ev))
    (hw : ∀ now, a ≠ .worker i now) (hout : ∀ out, a ≠ .outcome i out) :
    s'.workers[i]? = some v.worker := by
  have hlt : i < s.workers.length := (List.getElem?_eq_some_iff.mp hv.worker).1
  have hj := step_jobs hs
  generalize s'.app.jobs = g at hj
  generalize s'.workers = ws at hj ⊢
  cases hj with
  | same => exact hv.worker
  | request => exact (List.getElem?_append_left hlt).trans hv.worker
  | canceled => exact hv.worker
  | worked k now w w' hk hn =>
      have hne : k ≠ i := fun e => hw now (by rw [e])
      exact (List.getElem?_set_ne hne).trans hv.worker
  | returned k out w hk hp =>
      have hne : k ≠ i := fun e => hout out (by rw [e])
      exact (List.getElem?_set_ne hne).trans hv.worker

/-- No other step writes the job, as long as none cancels it. -/
theorem job_other (hv : s.Sees i task v) (hg : Undisturbed o i task c (s, h) a)
    (hs : step o s a = some (s', ev)) (hw : ∀ now, a ≠ .worker i now) :
    s'.app.jobs.jobs[task.slot]? = some v.job := by
  obtain ⟨j', hj', hc⟩ := (step_jobs hs).change hv.job
  have hflag := hg.uncanceled (s', ev) hs
  rw [JobRegistry.isCanceled_eq hj'] at hflag
  cases hc with
  | same => exact hj'
  | canceled now =>
      cases ht : v.job.state.isTerminal with
      | true =>
          rw [JobRecord.withCancel_terminal ht] at hj'
          exact hj'
      | false =>
          rw [JobRecord.withCancel_active ht] at hflag
          cases hflag
  | worked k now w op ha hk hop hslot =>
      have hne : k ≠ i := fun e => hw now (by rw [ha, e])
      exact absurd hslot (hg.alone k now w ha hne hk).2

/-- No other step writes the state and the reasons of the printer. -/
theorem printer_other (hv : s.Sees i task v) (hg : Undisturbed o i task c (s, h) a)
    (hs : step o s a = some (s', ev)) (hw : ∀ now, a ≠ .worker i now) :
    (findPrinter s'.app.printers task.printerName).map (fun r => (r.state, r.reasons)) =
      some (v.state, v.reasons) := by
  have hp := step_printers hs
  generalize s'.app.printers = ps at hp ⊢
  cases hp with
  | same => exact hv.printer
  | worked k now w hk =>
      have hne : k ≠ i := fun e => hw now (by rw [e])
      rw [findPrinter_worker_other (hg.alone k now w rfl hne hk).1.symm]
      exact hv.printer
  | polled => cases hg.unpolled
  | loaded k t ht =>
      unfold MediaTask.printersAfter
      split
      · have hname : ∀ p : PrinterRecord,
            (p.setReadyMedia t.form.media).1.config.name = p.config.name :=
          fun p => p.setReadyMedia_name t.form.media
        by_cases hn : task.printerName = t.name
        · rw [← hn]
          exact findPrinter_seen id hname (fun r => rfl) hv.printer
        · rw [findPrinter_updatePrinter_other hname s.app.printers hn]
          exact hv.printer
      · exact hv.printer

/-- **No other step changes what the worker sees.** -/
theorem other (hv : s.Sees i task v) (hg : Undisturbed o i task c (s, h) a)
    (hs : step o s a = some (s', ev)) (hw : ∀ now, a ≠ .worker i now)
    (hout : ∀ out, a ≠ .outcome i out) : s'.Sees i task v where
  worker := hv.worker_other hs hw hout
  hasTask := hv.hasTask
  job := hv.job_other hg hs hw
  slot := (step_slotOf hs hv.slot_lt).trans hv.slot
  printer := hv.printer_other hg hs hw

end System.Sees

end Sees

/-! ## 3. The invariant, position by position -/

/-- The journal after so many calls, answers, finished waits and snapshots. -/
structure Journal.Books (h : Journal) (o : Options) (task : PrintTask) (c : Script)
    (calls outcomes waits saves : Nat) : Prop where
  calls : h.calls = List.replicate calls (task.context, task.payload, task.copies)
  outcomes : h.outcomes = c.outcomes.take outcomes
  waits : h.waits = (List.range waits).map (backoffAt o)
  saves : h.saves = saves

/-- The printer and the job after the last answer. -/
structure Script.SettledAs (c : Script) (job : JobRecord) (state : IppPrinterState)
    (reasons : PrinterReason) : Prop where
  idle : state = .idle
  completed : c.final = .completed → job.state = .completed ∧ reasons = .empty
  failed : ∀ f, c.final = .failed f → job.state = .aborted ∧
    job.reasons = f.printerReasons ∧ job.message = f.message ∧ reasons = f.printerReasons

section Stage

variable (o : Options) (task : PrintTask) (c : Script)

/-- The loop is about to make its `n`th round, from 0 on. -/
def AtRound (v : Seen) (n : Nat) : Prop :=
  v.state = .processing ∧ v.worker.backoff = backoffAt o n

/-- **What holds at a position** of the worker, of what it sees and of its journal. -/
def Stage (v : Seen) (h : Journal) : Prop :=
  match v.worker.pc with
  | .markPrinter => h.Books o task c 0 0 0 0
  | .markJob => v.state = .processing ∧ h.Books o task c 0 0 0 0
  | .loopHead | .call => ∃ n ≤ c.held.length, AtRound o v n ∧ h.Books o task c n n n 0
  | .printing => ∃ n ≤ c.held.length, AtRound o v n ∧ h.Books o task c (n + 1) n n 0
  | .heldReasons r =>
    ∃ n, c.held[n]? = some r ∧ AtRound o v n ∧ h.Books o task c (n + 1) (n + 1) n 0
  | .heldState =>
    ∃ n, c.held[n]? = some v.reasons ∧ AtRound o v n ∧ h.Books o task c (n + 1) (n + 1) n 0
  | .wait left =>
    v.job.state = .processingStopped ∧
      ∃ n, c.held[n]? = some v.reasons ∧ AtRound o v n ∧ h.waited + left = backoffAt o n ∧
        h.Books o task c (n + 1) (n + 1) n 0
  | .completedReasons =>
    c.final = .completed ∧
      h.Books o task c (c.held.length + 1) (c.held.length + 1) c.held.length 0
  | .completedIdle =>
    c.final = .completed ∧ v.reasons = .empty ∧
      h.Books o task c (c.held.length + 1) (c.held.length + 1) c.held.length 0
  | .completedCheck | .completedState =>
    c.final = .completed ∧ v.reasons = .empty ∧ v.state = .idle ∧
      h.Books o task c (c.held.length + 1) (c.held.length + 1) c.held.length 0
  | .failedReasons f =>
    c.final = .failed f ∧
      h.Books o task c (c.held.length + 1) (c.held.length + 1) c.held.length 0
  | .failedIdle f =>
    c.final = .failed f ∧ v.reasons = f.printerReasons ∧
      h.Books o task c (c.held.length + 1) (c.held.length + 1) c.held.length 0
  | .failedState f =>
    c.final = .failed f ∧ v.reasons = f.printerReasons ∧ v.state = .idle ∧
      h.Books o task c (c.held.length + 1) (c.held.length + 1) c.held.length 0
  | .exitCheck | .snapshot | .save _ =>
    c.SettledAs v.job v.state v.reasons ∧
      h.Books o task c (c.held.length + 1) (c.held.length + 1) c.held.length 0
  | .cancelReasons | .cancelIdle | .cancelJob => False
  | .done =>
    c.SettledAs v.job v.state v.reasons ∧
      h.Books o task c (c.held.length + 1) (c.held.length + 1) c.held.length 1

variable {o task c}

theorem backoffAt_le (n : Nat) : backoffAt o n ≤ BACKOFF_MAX := Nat.min_le_left _ _

/-- Doubling and capping the `n`th backoff gives the next one. -/
theorem backoffAt_succ (n : Nat) :
    min (backoffAt o n * 2) BACKOFF_MAX = backoffAt o (n + 1) := by
  have hcap : ∀ cap x : Nat, min (min cap x * 2) cap = min cap (x * 2) := by
    intro cap x
    omega
  unfold backoffAt
  rw [Nat.pow_succ, ← Nat.mul_assoc]
  exact hcap _ _

theorem Script.outcomes_length (c : Script) : c.outcomes.length = c.held.length + 1 := by
  unfold Script.outcomes
  rw [List.length_append, List.length_map, List.length_singleton]

/-- One more call. -/
theorem Journal.Books.call {h : Journal} {n m e f : Nat} (hb : h.Books o task c n m e f) :
    Journal.Books { h with calls := h.calls ++ [(task.context, task.payload, task.copies)] }
      o task c (n + 1) m e f where
  calls := by
    rw [hb.calls, List.replicate_succ']
  outcomes := hb.outcomes
  waits := hb.waits
  saves := hb.saves

/-- One more answer of the script. -/
theorem Journal.Books.returned {h : Journal} {n m e f : Nat} {out : JobOutcome}
    (hb : h.Books o task c n m e f) (hout : c.outcomes[m]? = some out) :
    (h.returned out).Books o task c n (m + 1) e f where
  calls := hb.calls
  outcomes := by
    unfold Journal.returned
    rw [hb.outcomes, List.take_add_one, hout]
    rfl
  waits := hb.waits
  saves := hb.saves

/-- The time of the present wait is not in the books. -/
theorem Journal.Books.waiting {h : Journal} {n m e f : Nat} (hb : h.Books o task c n m e f)
    (d : Duration) : Journal.Books { h with waited := d } o task c n m e f :=
  ⟨hb.calls, hb.outcomes, hb.waits, hb.saves⟩

/-- One more wait that is over. -/
theorem Journal.Books.waitOver {h : Journal} {n m e f : Nat} (hb : h.Books o task c n m e f)
    (hw : h.waited = backoffAt o e) :
    Journal.Books { h with waits := h.waits ++ [h.waited] } o task c n m (e + 1) f where
  calls := hb.calls
  outcomes := hb.outcomes
  waits := by
    rw [hb.waits, hw, List.range_succ, List.map_append]
    rfl
  saves := hb.saves

/-- A slice more waited is a slice less left. -/
theorem slice_add {waited left whole : Nat} (slice : Nat) (h : waited + left = whole) :
    waited + min left slice + (left - min left slice) = whole := by
  omega

/-- A slice of a wait, or its end: the next round has the next backoff. -/
theorem Stage.access_wait {left backoff : Duration} {job : JobRecord} {state : IppPrinterState}
    {reasons : PrinterReason} {h : Journal} {w' : Worker} {current : List PrinterConfig}
    (hs : Stage o task c ⟨⟨task, .wait left, backoff⟩, job, state, reasons⟩ h)
    (hn : (⟨task, .wait left, backoff⟩ : Worker).next o.retryMs false current = some w')
    (now : SystemTime) :
    Stage o task c (Seen.access ⟨⟨task, .wait left, backoff⟩, job, state, reasons⟩ now w')
      (h.access ⟨task, .wait left, backoff⟩) := by
  obtain ⟨hstop, n, hr, hround, hwaited, hb⟩ := hs
  dsimp only [Worker.next, sleepCancelable] at hn
  by_cases hl : left > 0
  · -- a slice of the wait
    rw [if_pos hl] at hn
    cases hn
    have hnote : h.access ⟨task, .wait left, backoff⟩ =
        { h with waited := h.waited + min left SLICE } := if_pos hl
    rw [hnote]
    refine ⟨hstop, n, hr, hround, ?_, hb.waiting _⟩
    exact slice_add SLICE hwaited
  · -- the wait is over, and the next round has the next backoff
    rw [if_neg hl] at hn
    cases hn
    have hnote : h.access ⟨task, .wait left, backoff⟩ =
        { h with waits := h.waits ++ [h.waited] } := if_neg hl
    rw [hnote]
    have hlt : n < c.held.length := (List.getElem?_eq_some_iff.mp hr).1
    have hleft : left = 0 := Nat.eq_zero_of_not_pos hl
    rw [hleft] at hwaited
    refine ⟨n + 1, hlt, ⟨hround.1, ?_⟩, hb.waitOver hwaited⟩
    show min (backoff * 2) BACKOFF_MAX = backoffAt o (n + 1)
    rw [← backoffAt_succ, ← hround.2]

/-- **The worker's own access keeps the invariant**, whatever it reads of the registry. -/
theorem Stage.access {v : Seen} {h : Journal} {w' : Worker} {current : List PrinterConfig}
    (hs : Stage o task c v h) (htask : v.worker.task = task)
    (hn : v.worker.next o.retryMs false current = some w') (now : SystemTime) :
    Stage o task c (v.access now w') (h.access v.worker) := by
  obtain ⟨⟨task', pc, backoff⟩, job, state, reasons⟩ := v
  cases htask
  cases pc with
  | markPrinter =>
      cases hn
      exact ⟨rfl, hs⟩
  | markJob =>
      cases hn
      refine ⟨0, Nat.zero_le _, ⟨hs.1, ?_⟩, hs.2⟩
      show min (backoffStart o.retryMs) BACKOFF_MAX = backoffAt o 0
      unfold backoffAt
      rw [Nat.pow_zero, Nat.mul_one, Nat.min_comm]
  | loopHead =>
      cases hn
      exact hs
  | call =>
      cases hn
      obtain ⟨n, hle, hround, hb⟩ := hs
      exact ⟨n, hle, hround, hb.call⟩
  | printing => cases hn
  | completedReasons =>
      cases hn
      exact ⟨hs.1, rfl, hs.2⟩
  | completedIdle =>
      cases hn
      exact ⟨hs.1, hs.2.1, rfl, hs.2.2⟩
  | completedCheck =>
      cases hn
      exact hs
  | completedState =>
      cases hn
      obtain ⟨hc, hr, hi, hb⟩ := hs
      refine ⟨⟨hi, fun _ => ⟨rfl, hr⟩, fun f hf => ?_⟩, hb⟩
      rw [hc] at hf
      cases hf
  | failedReasons f =>
      cases hn
      exact ⟨hs.1, rfl, hs.2⟩
  | failedIdle f =>
      cases hn
      exact ⟨hs.1, hs.2.1, rfl, hs.2.2⟩
  | failedState f =>
      cases hn
      obtain ⟨hc, hr, hi, hb⟩ := hs
      refine ⟨⟨hi, fun hf => ?_, fun f' hf => ?_⟩, hb⟩
      · rw [hc] at hf
        cases hf
      · rw [hc] at hf
        cases hf
        exact ⟨rfl, rfl, rfl, hr⟩
  | heldReasons r =>
      cases hn
      exact hs
  | heldState =>
      cases hn
      obtain ⟨n, hr, hround, hb⟩ := hs
      refine ⟨rfl, n, hr, hround, ?_, hb.waiting 0⟩
      show 0 + backoff = backoffAt o n
      rw [Nat.zero_add]
      exact hround.2
  | wait left =>
      exact Stage.access_wait hs hn now
  | exitCheck =>
      cases hn
      exact hs
  | cancelReasons => exact hs.elim
  | cancelIdle => exact hs.elim
  | cancelJob => exact hs.elim
  | snapshot =>
      cases hn
      exact hs
  | save saved =>
      cases hn
      refine ⟨hs.1, hs.2.calls, hs.2.outcomes, hs.2.waits, ?_⟩
      show h.saves + 1 = 1
      rw [hs.2.saves]
  | done => cases hn

/-- The answers of the script: the device is unavailable, or it is the last one. -/
theorem Script.outcomes_getElem? {n : Nat} {out : JobOutcome} (h : c.outcomes[n]? = some out) :
    (∃ r, c.held[n]? = some r ∧ out = .deviceUnavailable r) ∨
      (n = c.held.length ∧ out = c.final) := by
  unfold Script.outcomes at h
  by_cases hn : n < c.held.length
  · rw [List.getElem?_append_left (by rw [List.length_map]; exact hn), List.getElem?_map] at h
    obtain ⟨r, hr, e⟩ := Option.map_eq_some_iff.mp h
    exact Or.inl ⟨r, hr, e.symm⟩
  · have hlt := (List.getElem?_eq_some_iff.mp h).1
    rw [List.length_append, List.length_map, List.length_singleton] at hlt
    have e : n = c.held.length := by omega
    rw [List.getElem?_append_right (by rw [List.length_map]; omega), List.length_map, e,
      Nat.sub_self] at h
    exact Or.inr ⟨e, (Option.some.inj h).symm⟩

theorem Journal.Books.outcomes_length {h : Journal} {n m e f : Nat}
    (hb : h.Books o task c n m e f) (hm : m ≤ c.held.length + 1) : h.outcomes.length = m := by
  rw [hb.outcomes, List.length_take, c.outcomes_length]
  omega

/-- **An answer of the script keeps the invariant.** -/
theorem Stage.returned {v : Seen} {h : Journal} {out : JobOutcome} (hs : Stage o task c v h)
    (hpc : v.worker.pc = .printing) (hout : c.outcomes[h.outcomes.length]? = some out) :
    Stage o task c (v.returned out) (h.returned out) := by
  unfold Stage at hs
  rw [hpc] at hs
  obtain ⟨n, hle, hround, hb⟩ := hs
  rw [hb.outcomes_length (by omega)] at hout
  have hb' := hb.returned hout
  rcases Script.outcomes_getElem? hout with ⟨r, hr, rfl⟩ | ⟨rfl, rfl⟩
  · exact ⟨n, hr, hround, hb'⟩
  · cases hf : c.final with
    | completed =>
        rw [hf] at hb'
        exact ⟨hf, hb'⟩
    | deviceUnavailable reasons => exact absurd hf (c.settles reasons)
    | failed f =>
        rw [hf] at hb'
        exact ⟨hf, hb'⟩

/-! ## 4. The measure -/

/-- How far a position is from the next answer, or behind the last one from the end. -/
def WorkerPc.rank : WorkerPc → Nat
  | .markPrinter => 5
  | .markJob => 4
  | .loopHead => 3
  | .call => 2
  | .printing => 1
  | .completedReasons => 8
  | .completedIdle => 7
  | .completedCheck => 6
  | .completedState => 5
  | .failedReasons _ => 7
  | .failedIdle _ => 6
  | .failedState _ => 5
  | .heldReasons _ => BACKOFF_MAX + 6
  | .heldState => BACKOFF_MAX + 5
  | .wait left => left + 4
  | .exitCheck => 4
  | .snapshot => 3
  | .save _ => 2
  | _ => 1

theorem WorkerPc.rank_ofOutcome (out : JobOutcome) :
    (WorkerPc.ofOutcome out).rank ≤ BACKOFF_MAX + 6 := by
  have hmax : 8 ≤ BACKOFF_MAX + 6 := by decide
  cases out with
  | completed => exact hmax
  | deviceUnavailable reasons => exact Nat.le_refl _
  | failed f => exact Nat.le_trans (Nat.le_succ 7) hmax

/-- **An own access comes nearer.** -/
theorem Stage.rank_access {v : Seen} {h : Journal} {w' : Worker} {current : List PrinterConfig}
    (hs : Stage o task c v h) (hn : v.worker.next o.retryMs false current = some w') :
    w'.pc.rank < v.worker.pc.rank := by
  obtain ⟨⟨task', pc, backoff⟩, job, state, reasons⟩ := v
  cases pc with
  | printing => cases hn
  | heldState =>
      cases hn
      obtain ⟨n, _, hround, _⟩ := hs
      have hle : backoff ≤ BACKOFF_MAX := hround.2.trans_le (backoffAt_le n)
      exact Nat.add_lt_add_of_le_of_lt hle (by decide)
  | wait left =>
      dsimp only [Worker.next, sleepCancelable] at hn
      by_cases hl : left > 0
      · rw [if_pos hl] at hn
        cases hn
        have hslice : 0 < min left SLICE := Nat.lt_min.mpr ⟨hl, by decide⟩
        exact Nat.add_lt_add_right (Nat.sub_lt hl hslice) 4
      · rw [if_neg hl] at hn
        cases hn
        exact Nat.lt_add_left left (Nat.lt_succ_self 3)
  | done => cases hn
  | heldReasons r =>
      cases hn
      exact Nat.lt_succ_self _
  | cancelReasons => exact hs.elim
  | cancelIdle => exact hs.elim
  | cancelJob => exact hs.elim
  | _ =>
      cases hn
      exact Nat.lt_succ_self _

/-- A worker whose callback is not running, and that has not exited, goes on. -/
theorem Worker.next_isSome (retryMs : Option String) (canceled : Bool)
    (current : List PrinterConfig) {w : Worker} (hp : w.pc ≠ .printing) (hd : w.pc ≠ .done) :
    ∃ w', w.next retryMs canceled current = some w' := by
  obtain ⟨task', pc, backoff⟩ := w
  cases pc with
  | printing => exact absurd rfl hp
  | done => exact absurd rfl hd
  | wait left =>
      dsimp only [Worker.next]
      cases sleepCancelable canceled left with
      | napped left' => exact ⟨_, rfl⟩
      | returned b =>
          cases b with
          | false => exact ⟨_, rfl⟩
          | true => exact ⟨_, rfl⟩
  | _ => exact ⟨_, rfl⟩

theorem Journal.access_outcomes (h : Journal) (w : Worker) :
    (h.access w).outcomes = h.outcomes := by
  unfold Journal.access
  split
  · rfl
  · rfl
  · split
    · rfl
    · rfl
  · rfl
  · rfl

end Stage

/-! ## 5. Runs -/

/-- The server with the journal of worker `i`. -/
def journaling (o : Options) (i : Nat) : Machine (System × Journal) Action Event :=
  (server o).withHistory (noteJournal i)

/-- Worker `i` is where the invariant has it, and its job is not canceled. -/
def Working (o : Options) (i : Nat) (task : PrintTask) (c : Script) (p : System × Journal) : Prop :=
  ∃ v, p.1.Sees i task v ∧ v.job.cancelFlag = false ∧ Stage o task c v p.2

/-- Worker `i` has exited. -/
def Exited (i : Nat) (p : System × Journal) : Prop := ∃ w, p.1.workers[i]? = some w ∧ w.pc = .done

/-- What is left to do for worker `i`: so many answers, and the way to the next one. -/
def remaining (i : Nat) (c : Script) (p : System × Journal) : Nat :=
  (c.held.length + 1 - p.2.outcomes.length) * (BACKOFF_MAX + 7) +
    (p.1.workers[i]?.map fun w => w.pc.rank).getD 0

section Runs

variable {o : Options} {i : Nat} {task : PrintTask} {c : Script} {p p' : System × Journal}
  {ev : List Event}

theorem step_journaling {a : Action} (h : (journaling o i).step p a = some (p', ev)) :
    step o p.1 a = some (p'.1, ev) ∧ p'.2 = noteJournal i p.2 p.1 a := step_withHistory h

theorem journaling_step {a : Action} {s' : System} (h : step o p.1 a = some (s', ev)) :
    (journaling o i).step p a = some ((s', noteJournal i p.2 p.1 a), ev) := by
  show ((server o).step p.1 a).map _ = _
  rw [show (server o).step p.1 a = _ from h]
  rfl

theorem noteJournal_worker (i : Nat) (h : Journal) (s : System) (now : SystemTime) :
    noteJournal i h s (.worker i now) = (s.workers[i]?.map h.access).getD h := if_pos rfl

theorem noteJournal_outcome (i : Nat) (h : Journal) (s : System) (out : JobOutcome) :
    noteJournal i h s (.outcome i out) = h.returned out := if_pos rfl

/-- A worker whose program goes on, and one whose callback is running, can step. -/
theorem step_worker_enabled {s : System} {w w' : Worker} (hw : s.workers[i]? = some w)
    (hn : w.next o.retryMs (s.app.jobs.isCanceled w.task.slot) (configs s.app.printers) =
      some w') : ∃ r, step o s (.worker i 0) = some r := by
  refine Option.isSome_iff_exists.mp ?_
  show (workerStep o s i 0).isSome = true
  unfold workerStep
  rw [hw]
  dsimp only
  rw [hn]
  rfl

theorem step_outcome_enabled {s : System} {w : Worker} (hw : s.workers[i]? = some w)
    (hp : w.pc = .printing) (out : JobOutcome) : ∃ r, step o s (.outcome i out) = some r := by
  refine Option.isSome_iff_exists.mp ?_
  show (outcomeStep s i out).isSome = true
  unfold outcomeStep
  rw [hw]
  dsimp only
  rw [if_pos hp]
  rfl

/-- The flag of the job, after an access that is no cancel. -/
theorem WorkerPc.jobAfter_cancelFlag {pc : WorkerPc} (hop : pc.jobOp ≠ some .cancel)
    (now : SystemTime) (j : JobRecord) : (pc.jobAfter now j).cancelFlag = j.cancelFlag := by
  unfold WorkerPc.jobAfter
  cases h : pc.jobOp with
  | none => rfl
  | some op =>
      cases op with
      | setState st => rfl
      | setFailure rs m => rfl
      | cancel => exact absurd h hop

theorem Stage.not_cancel {v : Seen} {h : Journal} (hs : Stage o task c v h) :
    v.worker.pc.jobOp ≠ some .cancel := by
  unfold Stage at hs
  cases hpc : v.worker.pc with
  | cancelJob =>
      rw [hpc] at hs
      exact hs.elim
  | _ => exact fun e => by cases e

/-- **The worker's own step.** -/
theorem Working.access {v : Seen} {now : SystemTime} (hv : p.1.Sees i task v)
    (hflag : v.job.cancelFlag = false) (hs : Stage o task c v p.2)
    (h : (journaling o i).step p (.worker i now) = some (p', ev)) :
    Working o i task c p' ∧ remaining i c p' < remaining i c p := by
  obtain ⟨hstep, hnote⟩ := step_journaling h
  obtain ⟨w', hn, hv'⟩ := hv.access hstep
  rw [hflag] at hn
  have hjournal : p'.2 = p.2.access v.worker := by
    rw [hnote, noteJournal_worker, hv.worker]
    rfl
  refine ⟨⟨_, hv', ?_, ?_⟩, ?_⟩
  · exact (WorkerPc.jobAfter_cancelFlag hs.not_cancel now v.job).trans hflag
  · rw [hjournal]
    exact hs.access hv.hasTask hn now
  · unfold remaining
    rw [hjournal, Journal.access_outcomes, hv'.worker, hv.worker]
    exact Nat.add_lt_add_left (hs.rank_access hn) _

/-- **An answer of the script.** -/
theorem Working.returned {v : Seen} {out : JobOutcome} (hv : p.1.Sees i task v)
    (hflag : v.job.cancelFlag = false) (hs : Stage o task c v p.2)
    (hout : c.outcomes[p.2.outcomes.length]? = some out)
    (h : (journaling o i).step p (.outcome i out) = some (p', ev)) :
    Working o i task c p' ∧ remaining i c p' < remaining i c p := by
  obtain ⟨hstep, hnote⟩ := step_journaling h
  obtain ⟨hpc, hv'⟩ := hv.returned hstep
  have hjournal : p'.2 = p.2.returned out := hnote.trans (noteJournal_outcome i p.2 p.1 out)
  refine ⟨⟨_, hv', hflag, ?_⟩, ?_⟩
  · rw [hjournal]
    exact hs.returned hpc hout
  · have hlt := (List.getElem?_eq_some_iff.mp hout).1
    rw [c.outcomes_length] at hlt
    have hrank := WorkerPc.rank_ofOutcome out
    have hlen : (p.2.returned out).outcomes.length = p.2.outcomes.length + 1 :=
      List.length_append.trans rfl
    have hleft : c.held.length + 1 - p.2.outcomes.length =
        (c.held.length + 1 - (p.2.outcomes.length + 1)) + 1 := by omega
    unfold remaining
    rw [hjournal, hlen, hv'.worker, hv.worker, hleft, Nat.add_mul, Nat.one_mul, Nat.add_assoc]
    refine Nat.add_lt_add_left ?_ _
    show (WorkerPc.ofOutcome out).rank < BACKOFF_MAX + 7 + v.worker.pc.rank
    exact Nat.lt_add_right _ (Nat.lt_succ_of_le hrank)

/-- **Every undisturbed step keeps the invariant.** -/
theorem Working.step {a : Action} (hp : Working o i task c p) (hg : Undisturbed o i task c p a)
    (h : (journaling o i).step p a = some (p', ev)) : Working o i task c p' := by
  obtain ⟨v, hv, hflag, hs⟩ := hp
  by_cases hw : ∃ now, a = .worker i now
  · obtain ⟨now, rfl⟩ := hw
    exact (Working.access hv hflag hs h).1
  by_cases hout : ∃ out, a = .outcome i out
  · obtain ⟨out, rfl⟩ := hout
    exact (Working.returned hv hflag hs (hg.scripted out rfl) h).1
  obtain ⟨hstep, hnote⟩ := step_journaling h
  have hw' : ∀ now, a ≠ .worker i now := fun now e => hw ⟨now, e⟩
  have hout' : ∀ out, a ≠ .outcome i out := fun out e => hout ⟨out, e⟩
  have hjournal : p'.2 = p.2 := by
    rw [hnote]
    unfold noteJournal
    cases a with
    | worker k now => exact if_neg fun e => hw' now (by rw [e])
    | outcome k out => exact if_neg fun e => hout' out (by rw [e])
    | _ => rfl
  refine ⟨v, hv.other (h := p.2) hg hstep hw' hout', hflag, ?_⟩
  rw [hjournal]
  exact hs

/-- A step to where the invariant has the worker does not cancel its job. -/
theorem Working.uncanceled {a : Action} (h : (journaling o i).step p a = some (p', ev))
    (hp' : Working o i task c p') {r : System × List Event}
    (hr : IppPrinterApp.step o p.1 a = some r) : r.1.app.jobs.isCanceled task.slot = false := by
  obtain ⟨v, hv, hflag, _⟩ := hp'
  have e : r = (p'.1, ev) := Option.some.inj (hr.symm.trans (step_journaling h).1)
  rw [e, JobRegistry.isCanceled_eq hv.job]
  exact hflag

/-- A worker's own step and an answer of the script are undisturbed. -/
theorem Undisturbed.own {now : SystemTime}
    (h : (journaling o i).step p (.worker i now) = some (p', ev)) (hp' : Working o i task c p') :
    Undisturbed o i task c p (.worker i now) where
  unpolled := rfl
  uncanceled := fun _ hr => hp'.uncanceled h hr
  alone := by
    intro k now' w e hk
    cases e
    exact absurd rfl hk
  scripted := fun out e => by cases e

theorem Undisturbed.answer {out : JobOutcome}
    (hout : c.outcomes[p.2.outcomes.length]? = some out)
    (h : (journaling o i).step p (.outcome i out) = some (p', ev)) (hp' : Working o i task c p') :
    Undisturbed o i task c p (.outcome i out) where
  unpolled := rfl
  uncanceled := fun _ hr => hp'.uncanceled h hr
  alone := fun k now w e => by cases e
  scripted := by
    intro out' e
    cases e
    exact hout

/-- **The worker can always go on**, and comes nearer to its end. -/
theorem Working.progress (hp : Working o i task c p) (hd : ¬ Exited i p) :
    ∃ a p' ev, Undisturbed o i task c p a ∧ (journaling o i).step p a = some (p', ev) ∧
      Working o i task c p' ∧ remaining i c p' < remaining i c p := by
  obtain ⟨v, hv, hflag, hs⟩ := hp
  have hdone : v.worker.pc ≠ .done := fun e => hd ⟨v.worker, hv.worker, e⟩
  by_cases hpc : v.worker.pc = .printing
  · -- the callback is running: the script has an answer
    have hout : p.2.outcomes.length < c.outcomes.length := by
      unfold Stage at hs
      rw [hpc] at hs
      obtain ⟨n, hle, _, hb⟩ := hs
      rw [hb.outcomes_length (by omega), c.outcomes_length]
      omega
    have hget := List.getElem?_eq_getElem hout
    obtain ⟨⟨s', ev⟩, hstep⟩ : ∃ r, IppPrinterApp.step o p.1 (.outcome i _) = some r :=
      step_outcome_enabled hv.worker hpc c.outcomes[p.2.outcomes.length]
    have hjstep := journaling_step (i := i) hstep
    have hnext := Working.returned hv hflag hs hget hjstep
    exact ⟨_, _, _, .answer hget hjstep hnext.1, hjstep, hnext⟩
  · obtain ⟨w', hn⟩ := Worker.next_isSome o.retryMs (p.1.app.jobs.isCanceled v.worker.task.slot)
      (configs p.1.app.printers) hpc hdone
    obtain ⟨⟨s', ev⟩, hstep⟩ := step_worker_enabled hv.worker hn
    have hjstep := journaling_step (i := i) hstep
    have hnext := Working.access hv hflag hs hjstep
    exact ⟨_, _, _, .own hjstep hnext.1, hjstep, hnext⟩

/-- Worker `i` has just been spawned with this task: its job is not canceled, and its id and its
    printer are there. -/
structure System.Spawned (s : System) (i : Nat) (task : PrintTask) : Prop where
  worker : s.workers[i]? = some task.spawn
  job : ∃ j, s.app.jobs.jobs[task.slot]? = some j ∧ j.cancelFlag = false
  slot : s.app.jobs.slotOf task.id = task.slot
  printer : (findPrinter s.app.printers task.printerName).isSome = true

/-- So it is in every run of the server that has spawned it. -/
theorem System.Spawned.of_run {G : System → Action → Prop} {d : Deployment} {tr : List Event}
    {s : System} (h : Run (server o) G (boot d) tr s) (hlt : s.app.jobs.jobs.length < 2 ^ 32)
    (hw : s.workers[i]? = some task.spawn) (hflag : s.app.jobs.isCanceled task.slot = false)
    (hp : (findPrinter s.app.printers task.printerName).isSome = true) : s.Spawned i task := by
  have ht := run_taskJobs h
  obtain ⟨j, hj, _⟩ := ht _ (List.mem_of_getElem? hw)
  refine ⟨hw, ⟨j, hj, ?_⟩, ht.slotOf (run_wf h) hlt (List.mem_of_getElem? hw), hp⟩
  exact (JobRegistry.isCanceled_eq hj).symm.trans hflag

theorem System.Spawned.working {s : System} (h : s.Spawned i task) :
    Working o i task c (s, .start) := by
  obtain ⟨j, hj, hflag⟩ := h.job
  obtain ⟨r, hr⟩ := Option.isSome_iff_exists.mp h.printer
  refine ⟨⟨task.spawn, j, r.state, r.reasons⟩, ⟨h.worker, rfl, hj, h.slot, ?_⟩, hflag,
    ⟨rfl, rfl, rfl, rfl⟩⟩
  rw [hr]
  rfl

/-- **A wait**, read off the invariant. -/
theorem Stage.waiting {v : Seen} {h : Journal} {left : Duration} (hs : Stage o task c v h)
    (hpc : v.worker.pc = .wait left) :
    v.job.state = .processingStopped ∧ ∃ n, c.held[n]? = some v.reasons ∧
      v.state = .processing ∧ h.waited + left = backoffAt o n ∧
      h.Books o task c (n + 1) (n + 1) n 0 := by
  unfold Stage at hs
  rw [hpc] at hs
  obtain ⟨hstop, n, hr, hround, hwaited, hb⟩ := hs
  exact ⟨hstop, n, hr, hround.1, hwaited, hb⟩

/-- **The end**, read off the invariant. -/
theorem Stage.ended {v : Seen} {h : Journal} (hs : Stage o task c v h)
    (hpc : v.worker.pc = .done) : c.SettledAs v.job v.state v.reasons ∧
      h.Books o task c (c.held.length + 1) (c.held.length + 1) c.held.length 1 := by
  unfold Stage at hs
  rw [hpc] at hs
  exact hs

/-- **The retry loop, whole**: while nobody interferes, and the device answers that it is
    unavailable, `k` times in all, and then something else, a worker in its `n`th wait keeps its
    job ProcessingStopped and its printer Processing with the `n`th reasons, and waits for the
    start of the backoff, doubled `n` times and capped. Once it has exited, it has called the print
    callback `k + 1` times for the same job with the same data, its printer is idle, its job has
    the result of the last answer, and the registry is saved once. And it can always get there. -/
theorem retries_until_settled {s₀ : System} {tr : List Event} (h₀ : s₀.Spawned i task)
    (h : Run (journaling o i) (Undisturbed o i task c) (s₀, .start) tr p) :
    ∃ (w : Worker) (job : JobRecord) (r : PrinterRecord),
      p.1.workers[i]? = some w ∧ p.1.app.jobs.jobs[task.slot]? = some job ∧
      findPrinter p.1.app.printers task.printerName = some r ∧
      (∀ left, w.pc = .wait left → ∃ n reasons, p.2.outcomes.length = n + 1 ∧
        p.2.waits.length = n ∧ c.held[n]? = some reasons ∧ job.state = .processingStopped ∧
        r.state = .processing ∧ r.reasons = reasons ∧
        p.2.waited + left = min BACKOFF_MAX (backoffStart o.retryMs * 2 ^ n)) ∧
      (w.pc = .done →
        p.2.calls = List.replicate (c.held.length + 1) (task.context, task.payload, task.copies) ∧
        p.2.outcomes = c.outcomes ∧
        p.2.waits = (List.range c.held.length).map
          (fun n => min BACKOFF_MAX (backoffStart o.retryMs * 2 ^ n)) ∧
        r.state = .idle ∧
        (c.final = .completed → job.state = .completed ∧ r.reasons = .empty) ∧
        (∀ f, c.final = .failed f → job.state = .aborted ∧ job.reasons = f.printerReasons ∧
          job.message = f.message ∧ r.reasons = f.printerReasons) ∧
        p.2.saves = 1) ∧
      ∃ tr' p', Run (journaling o i) (Undisturbed o i task c) p tr' p' ∧ Exited i p' := by
  have hI : Working o i task c p :=
    Run.always h₀.working (fun _ _ _ _ hp hg hs => Working.step hp hg hs) h
  have hend := Run.reaches (remaining i c) (fun _ hp hd => Working.progress hp hd) hI
  obtain ⟨v, hv, hflag, hs⟩ := hI
  obtain ⟨r, hr, e⟩ := Option.map_eq_some_iff.mp hv.printer
  obtain ⟨hstate, hreasons⟩ := Prod.mk.inj e
  refine ⟨v.worker, v.job, r, hv.worker, hv.job, hr, ?_, ?_, hend⟩
  · intro left hpc
    obtain ⟨hstop, n, hheld, hproc, hwaited, hb⟩ := hs.waiting hpc
    have hlt : n < c.held.length := (List.getElem?_eq_some_iff.mp hheld).1
    refine ⟨n, v.reasons, hb.outcomes_length (by omega), ?_, hheld, hstop, hstate.trans hproc,
      hreasons, hwaited⟩
    rw [hb.waits, List.length_map, List.length_range]
  · intro hpc
    obtain ⟨hset, hb⟩ := hs.ended hpc
    rw [hstate, hreasons]
    refine ⟨hb.calls, ?_, hb.waits, hset.idle, hset.completed, hset.failed, hb.saves⟩
    rw [hb.outcomes, ← c.outcomes_length, List.take_length]

end Runs

/-- A job has just been sent to the one printer. -/
def printSpawned : System :=
  endOf (server Trial.options) anyStep (boot Trial.deployment) [Trial.post "p" Trial.print]

theorem completed_ne_unavailable (reasons : PrinterReason) :
    JobOutcome.completed ≠ .deviceUnavailable reasons := by
  intro h
  cases h

/-- The roll is jammed once. -/
def jammedOnce : Script where
  held := [.MEDIA_JAM]
  final := .completed
  settles := completed_ne_unavailable

theorem printSpawned_spawned : printSpawned.Spawned 0 (printWorker .markPrinter).task :=
  .of_run (run_endOf (by decide +kernel)) (by decide +kernel) (by decide +kernel)
    (by decide +kernel) (by decide +kernel)

theorem retries_until_settled_jammed :
    ∃ tr p, Run (journaling Trial.options 0)
        (Undisturbed Trial.options 0 (printWorker .markPrinter).task jammedOnce)
        (printSpawned, .start) tr p ∧ Exited 0 p ∧ p.2.calls.length = 2 ∧
      p.2.waits = [2000000000] ∧ p.2.saves = 1 := by
  obtain ⟨_, _, _, _, _, _, _, _, tr, p, hrun, hexit⟩ :=
    retries_until_settled (c := jammedOnce) (o := Trial.options) printSpawned_spawned .start
  obtain ⟨w, _, _, hw, _, _, _, hdone, _⟩ := retries_until_settled printSpawned_spawned hrun
  obtain ⟨w', hw', hpc⟩ := hexit
  have e : w = w' := Option.some.inj (hw.symm.trans hw')
  rw [← e] at hpc
  obtain ⟨hcalls, _, hwaits, _, _, _, hsaves⟩ := hdone hpc
  refine ⟨tr, p, hrun, ⟨w', hw', e ▸ hpc⟩, ?_, hwaits.trans (by decide +kernel), hsaves⟩
  rw [hcalls, List.length_replicate]
  rfl

end IppPrinterApp
