/-
  File:      IppPrinterApp/Worker.lean
  Subject:   The print worker (`spawn_print_worker`, server.rs), one access to shared state at a time.

  A worker is an asynchronous task; between any two of its accesses to shared state (a registry
  lock, the cancel flag, the state file) and while its print callback runs, anything else may
  happen. So it is a program counter `WorkerPc`, whose positions are those accesses in the order
  of the source:

  * `WorkerPc.printerOp`, `WorkerPc.jobOp`, `WorkerPc.saves` -- what the access at a position
    writes (at most one of the three);
  * `Worker.next` -- where the worker goes from there, given the flag as read at that moment and
    the configurations of the registry at that moment;
  * `WorkerPc.ofOutcome` -- where the outcome of the print callback takes it.
-/
import IppPrinterApp.HandleIpp

namespace IppPrinterApp

/-! ## 1. Outcomes and waiting -/

/-- `JobFailure` (raster.rs). -/
structure JobFailure where
  printerReasons : PrinterReason
  message : String
  deriving DecidableEq, Repr

/-- `JobOutcome` (raster.rs). -/
inductive JobOutcome where
  | completed
  | deviceUnavailable (reasons : PrinterReason)
  | failed (f : JobFailure)
  deriving DecidableEq, Repr

/-- A duration in nanoseconds. -/
abbrev Duration := Nat

def millis (ms : Nat) : Duration := ms * 1000000

/-- `BACKOFF_MAX`. -/
def BACKOFF_MAX : Duration := millis 30000

/-- The first backoff: the value of `IPP_PRINTER_APP_RETRY_MS` if it is a number, else 2 s. -/
def backoffStart (retryMs : Option String) : Duration :=
  match retryMs.bind (parseUnsigned (2 ^ 64)) with
  | some ms => millis ms
  | none => millis 2000

/-- `SLICE` of `sleep_cancelable`. -/
def SLICE : Duration := millis 250

/-- What one round of `sleep_cancelable` does. -/
inductive SleepStep where
  | returned (canceled : Bool)
  | napped (left : Duration)
  deriving DecidableEq, Repr

/-- One round of `sleep_cancelable` with `left` to go: read the flag, nap a slice; with nothing
    left, read it a last time. -/
def sleepCancelable (canceled : Bool) (left : Duration) : SleepStep :=
  if left > 0 then
    if canceled then .returned true else .napped (left - min left SLICE)
  else .returned canceled

/-! ## 2. Positions -/

/-- Where a worker is: the access it makes next. -/
inductive WorkerPc where
  /-- about to mark the printer Processing -/
  | markPrinter
  /-- about to set the job Processing -/
  | markJob
  /-- the top of the loop: about to read the cancel flag -/
  | loopHead
  /-- about to call the print callback -/
  | call
  /-- the print callback is running -/
  | printing
  /-- the branch of `Completed` -/
  | completedReasons
  | completedIdle
  | completedCheck
  | completedState
  /-- the branch of `Failed` -/
  | failedReasons (f : JobFailure)
  | failedIdle (f : JobFailure)
  | failedState (f : JobFailure)
  /-- the branch of `DeviceUnavailable` -/
  | heldReasons (reasons : PrinterReason)
  | heldState
  /-- inside `sleep_cancelable`, this much left -/
  | wait (left : Duration)
  /-- past the loop: about to read the cancel flag -/
  | exitCheck
  /-- the block of a canceled job -/
  | cancelReasons
  | cancelIdle
  | cancelJob
  /-- `persist`: about to take the snapshot, about to write it -/
  | snapshot
  | save (saved : List PrinterConfig)
  | done
  deriving DecidableEq, Repr

/-- What a write lock on the printers is taken for. -/
inductive PrinterOp where
  | processing
  | idle
  | reasons (reasons : PrinterReason)
  deriving DecidableEq, Repr

def PrinterOp.apply : PrinterOp → PrinterRecord → PrinterRecord
  | .processing, p => setPrinterProcessing p
  | .idle, p => setPrinterIdle p
  | .reasons r, p => { p with reasons := r }

/-- What a write lock on the jobs is taken for. -/
inductive JobOp where
  | setState (state : JobState)
  | setFailure (reasons : PrinterReason) (message : String)
  | cancel
  deriving DecidableEq, Repr

def JobOp.apply (now : SystemTime) : JobOp → JobRecord → JobRecord
  | .setState state, j => j.withState now state
  | .setFailure reasons message, j => j.withFailure now reasons message
  | .cancel, j => j.withCancel now

namespace WorkerPc

/-- The access to the printers at a position. -/
def printerOp : WorkerPc → Option PrinterOp
  | markPrinter => some .processing
  | completedReasons => some (.reasons .empty)
  | completedIdle => some .idle
  | failedReasons f => some (.reasons f.printerReasons)
  | failedIdle _ => some .idle
  | heldReasons reasons => some (.reasons reasons)
  | cancelReasons => some (.reasons .empty)
  | cancelIdle => some .idle
  | _ => none

/-- The access to the jobs at a position. -/
def jobOp : WorkerPc → Option JobOp
  | markJob => some (.setState .processing)
  | completedState => some (.setState .completed)
  | failedState f => some (.setFailure f.printerReasons f.message)
  | heldState => some (.setState .processingStopped)
  | cancelJob => some .cancel
  | _ => none

/-- The snapshot written to the state file at a position. -/
def saves : WorkerPc → Option (List PrinterConfig)
  | save saved => some saved
  | _ => none

/-- Where the outcome of the print callback takes the worker. -/
def ofOutcome : JobOutcome → WorkerPc
  | .completed => completedReasons
  | .failed f => failedReasons f
  | .deviceUnavailable reasons => heldReasons reasons

end WorkerPc

/-! ## 3. Workers -/

/-- A print worker: its arguments, where it is, and its current backoff. -/
structure Worker where
  task : PrintTask
  pc : WorkerPc
  backoff : Duration
  deriving DecidableEq, Repr

/-- A freshly spawned worker. -/
def PrintTask.spawn (task : PrintTask) : Worker := { task, pc := .markPrinter, backoff := 0 }

/-- **The worker's program**: where it is after its next access. `canceled` is the flag as that
    access reads it, `current` the registry's configurations as it reads them. A worker whose
    callback runs, or that has exited, takes no step of its own. -/
def Worker.next (retryMs : Option String) (canceled : Bool) (current : List PrinterConfig)
    (w : Worker) : Option Worker :=
  match w.pc with
  | .markPrinter => some { w with pc := .markJob }
  | .markJob => some { w with pc := .loopHead, backoff := min (backoffStart retryMs) BACKOFF_MAX }
  | .loopHead => some { w with pc := if canceled then .exitCheck else .call }
  | .call => some { w with pc := .printing }
  | .printing => none
  | .completedReasons => some { w with pc := .completedIdle }
  | .completedIdle => some { w with pc := .completedCheck }
  | .completedCheck => some { w with pc := if canceled then .exitCheck else .completedState }
  | .completedState => some { w with pc := .exitCheck }
  | .failedReasons f => some { w with pc := .failedIdle f }
  | .failedIdle f => some { w with pc := .failedState f }
  | .failedState _ => some { w with pc := .exitCheck }
  | .heldReasons _ => some { w with pc := .heldState }
  | .heldState => some { w with pc := .wait w.backoff }
  | .wait left =>
    match sleepCancelable canceled left with
    | .napped left => some { w with pc := .wait left }
    | .returned true => some { w with pc := .exitCheck }
    | .returned false =>
      some { w with pc := .loopHead, backoff := min (w.backoff * 2) BACKOFF_MAX }
  | .exitCheck => some { w with pc := if canceled then .cancelReasons else .snapshot }
  | .cancelReasons => some { w with pc := .cancelIdle }
  | .cancelIdle => some { w with pc := .cancelJob }
  | .cancelJob => some { w with pc := .snapshot }
  | .snapshot => some { w with pc := .save current }
  | .save _ => some { w with pc := .done }
  | .done => none

/-- A worker keeps its arguments. -/
theorem Worker.next_task {retryMs : Option String} {canceled : Bool}
    {current : List PrinterConfig} {w w' : Worker}
    (h : w.next retryMs canceled current = some w') : w'.task = w.task := by
  unfold Worker.next at h
  split at h <;> try (cases h <;> rfl)
  split at h <;> cases h <;> rfl

/-- **A waiting worker** leaves the loop once its job is canceled, and not before. -/
theorem Worker.next_wait {retryMs : Option String} {canceled : Bool}
    {current : List PrinterConfig} {w w' : Worker} {left : Duration} (hpc : w.pc = .wait left)
    (h : w.next retryMs canceled current = some w') :
    (canceled = true ∧ w'.pc = .exitCheck) ∨
      (canceled = false ∧ ((∃ left', w'.pc = .wait left') ∨ w'.pc = .loopHead)) := by
  obtain ⟨task, pc, backoff⟩ := w
  cases hpc
  dsimp only [Worker.next, sleepCancelable] at h
  by_cases hl : left > 0
  · rw [if_pos hl] at h
    cases canceled with
    | true =>
        cases h
        exact Or.inl ⟨rfl, rfl⟩
    | false =>
        cases h
        exact Or.inr ⟨rfl, Or.inl ⟨_, rfl⟩⟩
  · rw [if_neg hl] at h
    cases canceled with
    | true =>
        cases h
        exact Or.inl ⟨rfl, rfl⟩
    | false =>
        cases h
        exact Or.inr ⟨rfl, Or.inr rfl⟩

/-! ## 4. The accesses on the shared state -/

/-- The printers after the access at a position. -/
def WorkerPc.printersAfter (pc : WorkerPc) (task : PrintTask) (printers : PrinterRegistry) :
    PrinterRegistry :=
  match pc.printerOp with
  | some op => updatePrinter printers task.printerName op.apply
  | none => printers

/-- The jobs after the access at a position. -/
def WorkerPc.jobsAfter (pc : WorkerPc) (task : PrintTask) (now : SystemTime) (g : JobRegistry) :
    JobRegistry :=
  match pc.jobOp with
  | some op => g.update task.id (op.apply now)
  | none => g

/-- The job a worker's id refers to, after the access at a position. -/
def WorkerPc.jobAfter (pc : WorkerPc) (now : SystemTime) (j : JobRecord) : JobRecord :=
  match pc.jobOp with
  | some op => op.apply now j
  | none => j

theorem WorkerPc.jobAfter_some {pc : WorkerPc} {op : JobOp} (hop : pc.jobOp = some op)
    (now : SystemTime) (j : JobRecord) : pc.jobAfter now j = op.apply now j := by
  unfold WorkerPc.jobAfter
  rw [hop]

theorem WorkerPc.jobAfter_none {pc : WorkerPc} (hop : pc.jobOp = none) (now : SystemTime)
    (j : JobRecord) : pc.jobAfter now j = j := by
  unfold WorkerPc.jobAfter
  rw [hop]

@[simp] theorem PrinterOp.apply_config (op : PrinterOp) (p : PrinterRecord) :
    (op.apply p).config = p.config := by
  cases op <;> rfl

@[simp] theorem JobOp.apply_id (op : JobOp) (now : SystemTime) (j : JobRecord) :
    (op.apply now j).id = j.id := by
  cases op with
  | setState => rfl
  | setFailure => rfl
  | cancel => exact JobRecord.withCancel_id now j

@[simp] theorem JobOp.apply_printerName (op : JobOp) (now : SystemTime) (j : JobRecord) :
    (op.apply now j).printerName = j.printerName := by
  cases op with
  | setState => rfl
  | setFailure => rfl
  | cancel => exact JobRecord.withCancel_printerName now j

/-- A worker never changes a configuration. -/
theorem WorkerPc.configs_printersAfter (pc : WorkerPc) (task : PrintTask)
    (printers : PrinterRegistry) :
    configs (pc.printersAfter task printers) = configs printers := by
  unfold WorkerPc.printersAfter
  split
  · rename_i op _
    exact configs_updatePrinter (fun p => op.apply_config p) printers task.printerName
  · rfl

/-- **What a worker's access does to the jobs**: the job its id refers to changes, no other
    one. -/
theorem WorkerPc.jobsAfter_getElem? (pc : WorkerPc) (task : PrintTask) (now : SystemTime)
    (g : JobRegistry) (k : Nat) :
    (pc.jobsAfter task now g).jobs[k]? =
      if g.slotOf task.id = k then g.jobs[k]?.map (pc.jobAfter now) else g.jobs[k]? := by
  unfold WorkerPc.jobsAfter
  cases hop : pc.jobOp with
  | some op =>
      have hafter : pc.jobAfter now = op.apply now := funext (WorkerPc.jobAfter_some hop now)
      rw [hafter]
      exact JobRegistry.update_getElem? g task.id (op.apply now) k
  | none =>
      have hafter : pc.jobAfter now = id := funext (WorkerPc.jobAfter_none hop now)
      rw [hafter, Option.map_id]
      exact (ite_self _).symm

end IppPrinterApp
