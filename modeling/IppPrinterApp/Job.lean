/-
  File:      IppPrinterApp/Job.lean
  Subject:   The job registry (job.rs).

  One list of jobs for all printers of the server, in allocation order; jobs are never removed.
  A job is looked up and changed by its id, and every access takes the first job with that id.
  A job's cancel flag is a cell shared between the registry entry and its clones; the model keeps
  it in the entry, and who holds a clone reads it through the entry's position (`isCanceled`).

  * `JobRegistry.Wf`, `create_wf`, `update_wf` -- the ids are the positions counted from one,
    modulo the wrap of the 32-bit counter, whatever is done to the registry;
  * `slotOf_idAt` -- so as long as fewer than 2^32 jobs exist, an id finds its own job;
  * `update_getElem?` -- what the three mutators do, position by position.
-/
import Mathlib.Data.List.Nodup
import IppPrinterApp.Ipp
import IppPrinterApp.Flags

namespace IppPrinterApp

open FirstMatch

/-! ## 1. Jobs -/

/-- `JobId`, a `u32`. -/
abbrev JobId := Nat

/-- A reading of the system clock, in nanoseconds since the Unix epoch. -/
abbrev SystemTime := Int

inductive JobState where
  | pending
  | held
  | processing
  | processingStopped
  | canceled
  | aborted
  | completed
  deriving DecidableEq, Repr

namespace JobState

/-- `as i32`: the `job-state` codes of RFC 8011. -/
def code : JobState → Int
  | .pending => 3
  | .held => 4
  | .processing => 5
  | .processingStopped => 6
  | .canceled => 7
  | .aborted => 8
  | .completed => 9

/-- `JobState::is_terminal`. -/
def isTerminal : JobState → Bool
  | .canceled | .aborted | .completed => true
  | _ => false

end JobState

structure JobRecord where
  id : JobId
  printerName : String
  owner : String
  state : JobState
  reasons : PrinterReason
  message : String
  createdAt : SystemTime
  completedAt : Option SystemTime
  cancelFlag : Bool
  deriving DecidableEq, Repr

/-- `secs_since_epoch`: whole seconds, `0` before the epoch, truncated to an `i32`. -/
def secsSinceEpoch (t : SystemTime) : Int := if t < 0 then 0 else asI32 (t / 1000000000)

namespace JobRecord

def createdSecs (j : JobRecord) : Int := secsSinceEpoch j.createdAt
def completedSecs (j : JobRecord) : Option Int := j.completedAt.map secsSinceEpoch

/-- What `set_state` writes into the job. -/
def withState (now : SystemTime) (state : JobState) (j : JobRecord) : JobRecord :=
  { j with
    state
    completedAt := if state.isTerminal && j.completedAt.isNone then some now else j.completedAt }

/-- What `set_failure` writes into the job. -/
def withFailure (now : SystemTime) (reasons : PrinterReason) (message : String) (j : JobRecord) :
    JobRecord :=
  { j with state := .aborted, reasons, message, completedAt := some now }

/-- What `cancel` writes into the job: nothing once it is terminal. -/
def withCancel (now : SystemTime) (j : JobRecord) : JobRecord :=
  if j.state.isTerminal then j
  else { j with cancelFlag := true, state := .canceled, completedAt := some now }

@[simp] theorem withState_state (now : SystemTime) (st : JobState) (j : JobRecord) :
    (j.withState now st).state = st := rfl

theorem withCancel_terminal {now : SystemTime} {j : JobRecord} (h : j.state.isTerminal = true) :
    j.withCancel now = j := if_pos h

theorem withCancel_active {now : SystemTime} {j : JobRecord} (h : j.state.isTerminal = false) :
    j.withCancel now =
      { j with cancelFlag := true, state := .canceled, completedAt := some now } :=
  if_neg (by simp [h])

/-- After a cancel the job is canceled, unless it was terminal before. -/
theorem withCancel_state (now : SystemTime) (j : JobRecord) :
    (j.withCancel now).state = if j.state.isTerminal then j.state else .canceled := by
  unfold withCancel
  split <;> rfl

theorem withCancel_isTerminal (now : SystemTime) (j : JobRecord) :
    (j.withCancel now).state.isTerminal = true := by
  rw [withCancel_state]
  cases ht : j.state.isTerminal with
  | true => rw [if_pos rfl, ht]
  | false => rfl

/-- A second cancel changes nothing. -/
theorem withCancel_withCancel (now : SystemTime) (j : JobRecord) :
    (j.withCancel now).withCancel now = j.withCancel now :=
  withCancel_terminal (withCancel_isTerminal now j)

@[simp] theorem withCancel_id (now : SystemTime) (j : JobRecord) : (j.withCancel now).id = j.id := by
  unfold withCancel
  split <;> rfl

@[simp] theorem withCancel_printerName (now : SystemTime) (j : JobRecord) :
    (j.withCancel now).printerName = j.printerName := by
  unfold withCancel
  split <;> rfl

end JobRecord

/-! ## 2. The registry and its mutators -/

/-- `JobRegistry`: the next id to hand out and the jobs, oldest first. -/
structure JobRegistry where
  nextId : Nat
  jobs : List JobRecord
  deriving DecidableEq, Repr

namespace JobRegistry

/-- `JobRegistry::new`. -/
def new : JobRegistry := { nextId := 1, jobs := [] }

/-- The job an id refers to: the first one (`iter().find`), cloned. -/
def get (g : JobRegistry) (id : JobId) : Option JobRecord := g.jobs.find? fun j => j.id == id

/-- The position of the job an id refers to. -/
def slotOf (g : JobRegistry) (id : JobId) : Nat := g.jobs.findIdx fun j => j.id == id

/-- `JobRegistry::create`: a pending job; the counter wraps past `u32::MAX` to 1. -/
def create (g : JobRegistry) (now : SystemTime) (printerName owner : String) :
    JobRecord × JobRegistry :=
  let rec' : JobRecord :=
    { id := g.nextId, printerName, owner, state := .pending, reasons := .empty, message := "",
      createdAt := now, completedAt := none, cancelFlag := false }
  (rec', { nextId := max ((g.nextId + 1) % 2 ^ 32) 1, jobs := g.jobs ++ [rec'] })

/-- The jobs that target the named printer, in allocation order. -/
def jobsForPrinter (g : JobRegistry) (printerName : String) : List JobRecord :=
  g.jobs.filter fun j => j.printerName == printerName

/-- A change of the job an id refers to (`iter_mut().find`). -/
def update (g : JobRegistry) (id : JobId) (f : JobRecord → JobRecord) : JobRegistry :=
  { g with jobs := updateFirst (fun j => j.id == id) f g.jobs }

def setState (g : JobRegistry) (now : SystemTime) (id : JobId) (state : JobState) : JobRegistry :=
  g.update id (·.withState now state)

def setFailure (g : JobRegistry) (now : SystemTime) (id : JobId) (reasons : PrinterReason)
    (message : String) : JobRegistry :=
  g.update id (·.withFailure now reasons message)

/-- `JobRegistry::cancel`: the new state (`none` if there is no such job) and the registry. -/
def cancel (g : JobRegistry) (now : SystemTime) (id : JobId) : Option JobState × JobRegistry :=
  ((g.get id).map fun j => (j.withCancel now).state, g.update id (·.withCancel now))

/-- `is_canceled` of a clone of the job at a position: the cell it shares with the entry. -/
def isCanceled (g : JobRegistry) (slot : Nat) : Bool := g.jobs[slot]?.any (·.cancelFlag)

theorem isCanceled_eq {g : JobRegistry} {k : Nat} {j : JobRecord} (hk : g.jobs[k]? = some j) :
    g.isCanceled k = j.cancelFlag := by
  unfold isCanceled
  rw [hk]
  rfl

/-! ## 3. What the operations do, position by position -/

theorem get_eq_getElem? (g : JobRegistry) (id : JobId) : g.get id = g.jobs[g.slotOf id]? :=
  List.find?_eq_getElem?_findIdx

theorem get_id {g : JobRegistry} {id : JobId} {j : JobRecord} (h : g.get id = some j) :
    j.id = id := by
  have hp := List.find?_some h
  exact beq_iff_eq.mp hp

/-- **What a mutator does**: the job at the id's position changes, no other one does. -/
theorem update_getElem? (g : JobRegistry) (id : JobId) (f : JobRecord → JobRecord) (k : Nat) :
    (g.update id f).jobs[k]? = if g.slotOf id = k then g.jobs[k]?.map f else g.jobs[k]? :=
  getElem?_updateFirst g.jobs k

@[simp] theorem update_length (g : JobRegistry) (id : JobId) (f : JobRecord → JobRecord) :
    (g.update id f).jobs.length = g.jobs.length := length_updateFirst g.jobs

@[simp] theorem create_length (g : JobRegistry) (now : SystemTime) (p u : String) :
    (g.create now p u).2.jobs.length = g.jobs.length + 1 := by
  simp [create]

/-- A creation leaves the jobs before it alone. -/
theorem create_getElem?_old {g : JobRegistry} {k : Nat} (now : SystemTime) (p u : String)
    (hk : k < g.jobs.length) : (g.create now p u).2.jobs[k]? = g.jobs[k]? :=
  List.getElem?_append_left hk

theorem create_getElem?_new (g : JobRegistry) (now : SystemTime) (p u : String) :
    (g.create now p u).2.jobs[g.jobs.length]? = some (g.create now p u).1 :=
  List.getElem?_concat_length

/-- A job of the registry after a creation is one of before or the created one. -/
theorem create_getElem?_cases {g : JobRegistry} {now : SystemTime} {p u : String} {k : Nat}
    {j : JobRecord} (h : (g.create now p u).2.jobs[k]? = some j) :
    g.jobs[k]? = some j ∨ (k = g.jobs.length ∧ j = (g.create now p u).1) := by
  by_cases hk : k < g.jobs.length
  · rw [create_getElem?_old now p u hk] at h
    exact Or.inl h
  · have hlt : k < (g.create now p u).2.jobs.length := (List.getElem?_eq_some_iff.mp h).1
    rw [create_length] at hlt
    have e : k = g.jobs.length := by omega
    subst e
    rw [create_getElem?_new] at h
    exact Or.inr ⟨rfl, (Option.some.inj h).symm⟩

/-- The position an id refers to is unchanged by an update that keeps the ids. -/
theorem slotOf_update {g : JobRegistry} {f : JobRecord → JobRecord} (hf : ∀ j, (f j).id = j.id)
    (id id' : JobId) : (g.update id f).slotOf id' = g.slotOf id' :=
  findIdx_updateFirst (fun j => by rw [hf j]) g.jobs

/-! ## 4. Ids and positions -/

/-- The id of the `k`th job ever created: the counter runs through 1, …, 2^32 - 1. -/
def idAt (k : Nat) : Nat := k % (2 ^ 32 - 1) + 1

/-- **Ids follow positions**: no operation of the registry breaks this. -/
structure Wf (g : JobRegistry) : Prop where
  next : g.nextId = idAt g.jobs.length
  ids : ∀ k j, g.jobs[k]? = some j → j.id = idAt k

theorem new_wf : new.Wf where
  next := rfl
  ids := fun k j h => by simp [new] at h

theorem idAt_succ (n : Nat) : max ((idAt n + 1) % 2 ^ 32) 1 = idAt (n + 1) := by
  unfold idAt
  omega

theorem create_wf {g : JobRegistry} (h : g.Wf) (now : SystemTime) (p u : String) :
    (g.create now p u).2.Wf where
  next := by
    rw [create_length, ← idAt_succ, ← h.next]
    rfl
  ids := fun k j hk => by
    rcases create_getElem?_cases hk with hold | ⟨rfl, rfl⟩
    · exact h.ids k j hold
    · exact h.next

theorem update_wf {g : JobRegistry} (h : g.Wf) {f : JobRecord → JobRecord}
    (hf : ∀ j, (f j).id = j.id) (id : JobId) : (g.update id f).Wf where
  next := by
    rw [update_length]
    exact h.next
  ids := fun k j hk => by
    rw [update_getElem?] at hk
    split at hk
    · obtain ⟨j₀, hj₀, rfl⟩ := Option.map_eq_some_iff.mp hk
      rw [hf j₀]
      exact h.ids k j₀ hj₀
    · exact h.ids k j hk

theorem idAt_of_lt {k : Nat} (h : k < 2 ^ 32 - 1) : idAt k = k + 1 := by
  unfold idAt
  omega

/-- **An id finds its own job** while fewer than 2^32 jobs exist. -/
theorem slotOf_id {g : JobRegistry} (h : g.Wf) (hlt : g.jobs.length < 2 ^ 32) {k : Nat}
    {j : JobRecord} (hk : g.jobs[k]? = some j) : g.slotOf j.id = k := by
  have hkl : k < g.jobs.length := (List.getElem?_eq_some_iff.mp hk).1
  refine findIdx_eq_of_first hk (beq_self_eq_true j.id) fun i y hi hy => ?_
  have hyi : y.id = i + 1 := (h.ids i y hy).trans (idAt_of_lt (by omega))
  have hjk : j.id = k + 1 := (h.ids k j hk).trans (idAt_of_lt (by omega))
  have hij : y.id ≠ j.id := fun e => by
    have e' : i + 1 = k + 1 := hyi.symm.trans (e.trans hjk)
    omega
  exact beq_eq_false_iff_ne.mpr hij

theorem get_self {g : JobRegistry} (h : g.Wf) (hlt : g.jobs.length < 2 ^ 32) {k : Nat}
    {j : JobRecord} (hk : g.jobs[k]? = some j) : g.get j.id = some j := by
  rw [get_eq_getElem?, slotOf_id h hlt hk]
  exact hk

end JobRegistry

end IppPrinterApp
