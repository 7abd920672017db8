/-
  File:      IppPrinterApp/Deliveries.lean
  Subject:   Documents and calls of the print callback, held against each other over whole runs.

  A document comes in with a Print-Job or a Send-Document and leaves through a call of the
  callback; between the two it is with a worker. Retries call again for the same document, and two
  requests may bring the same one, so documents and calls are counted, as multisets of tasks.

  * `accepted_documents_printed`: **no document that was accepted is lost** -- it is called for, and
    again each time its device was unavailable, or its worker is still to call, or its job is
    canceled;
  * `accepted_documents_finished`: **a server at rest has done with all of them** -- the jobs are
    terminal, and those that are not canceled have been called for;
  * `only_documents_printed`: **nothing else is printed, and nothing too often** -- every call is
    for a document as it was sent, and a job is called for once a document and once more each time
    its device was unavailable.
-/
import Mathlib.Algebra.Group.Prod
import Mathlib.Algebra.Order.Group.Multiset
import IppPrinterApp.Accounts
import IppPrinterApp.CancelLatency
import IppPrinterApp.Documents
import IppPrinterApp.Draining

namespace IppPrinterApp

open Transition Flow

/-! ## 1. Documents -/

/-- The task a document makes, if the request brings one for a job. -/
def documentOf (x : IppCrate) (g : JobRegistry) (name : String) (req : IppRequest) :
    Option PrintTask :=
  match operationOf x req.operationOrStatus, req.payload with
  | .printJob, .ok payload => some (printTask name req g.nextId g.jobs.length payload)
  | .sendDocument, .ok payload =>
    if hasOperationAttr req "last-document" = true ∧ payload ≠ [] then
      ((extractJobId req).bind g.get).map fun j => printTask name req j.id (g.slotOf j.id) payload
    else none
  | _, _ => none

/-- The documents an action brings. -/
def System.brings (o : Options) (s : System) : Action → Multiset PrintTask
  | .request _ name body =>
    match gates o.crate s.app name body with
    | .ok (req, _) => ↑(documentOf o.crate s.app.jobs name req).toList
    | .error _ => 0
  | _ => 0

/-- The documents an action brings, if its request is answered with success. -/
def System.accepts (o : Options) (s : System) : Action → Multiset PrintTask
  | .request clock name body =>
    match gates o.crate s.app name body with
    | .ok (req, record) =>
      if (dispatch o.crate clock s.app name req record).reply.Successful then
        ↑(documentOf o.crate s.app.jobs name req).toList
      else 0
    | .error _ => 0
  | _ => 0

/-- The document the print callback is called for. -/
def Event.handsOver : Event → Multiset PrintTask
  | .printJob ctx payload copies =>
    {{ printerName := ctx.printerName, id := ctx.id, slot := ctx.slot, payload, copies
       documentFormat := ctx.documentFormat, printQuality := ctx.printQuality }}
  | _ => 0

section Requests

variable {x : IppCrate} {clock : Clock} {app : AppState} {name : String} {req : IppRequest}
  {record : PrinterRecord}

theorem documentOf_printJob (hop : operationOf x req.operationOrStatus = .printJob)
    {payload : List UInt8} (hp : req.payload = .ok payload) (g : JobRegistry) :
    documentOf x g name req = some (printTask name req g.nextId g.jobs.length payload) := by
  unfold documentOf
  rw [hop, hp]

/-- Other operations bring no document. -/
theorem documentOf_other (hprint : operationOf x req.operationOrStatus ≠ .printJob)
    (hsend : operationOf x req.operationOrStatus ≠ .sendDocument) (g : JobRegistry) :
    documentOf x g name req = none := by
  unfold documentOf
  split
  · rename_i hop _
    exact absurd hop hprint
  · rename_i hop _
    exact absurd hop hsend
  · rfl

theorem dispatch_spawned_other (hprint : operationOf x req.operationOrStatus ≠ .printJob)
    (hsend : operationOf x req.operationOrStatus ≠ .sendDocument) :
    (dispatch x clock app name req record).spawned = none := by
  unfold dispatch
  cases hop : operationOf x req.operationOrStatus with
  | printJob => exact absurd hop hprint
  | sendDocument => exact absurd hop hsend
  | getJobAttributes =>
      dsimp only
      unfold getJobAttributes
      split
      · rfl
      · split <;> rfl
  | cancelJob =>
      dsimp only
      unfold cancelJob
      split <;> rfl
  | _ => rfl

/-- A Print-Job has its document with a worker, or has none and is not answered with success. -/
theorem printJob_spawned (hop : operationOf x req.operationOrStatus = .printJob) :
    (printJob x clock app name req record).spawned = documentOf x app.jobs name req ∨
      ((printJob x clock app name req record).spawned = none ∧
        ¬(printJob x clock app name req record).reply.Successful) := by
  unfold printJob
  cases hp : req.payload with
  | error e => exact Or.inr ⟨rfl, not_false⟩
  | ok payload =>
      rw [documentOf_printJob hop hp]
      dsimp only
      cases printJobAccepted x req.version req.requestId
          (app.jobs.create clock.now name (requestingUser req)).1
          (record.config.printerUri app.host app.port) with
      | ok accepted => exact Or.inl rfl
      | error e => cases e <;> exact Or.inr ⟨rfl, not_false⟩

/-- A Send-Document has its document with a worker, however it is answered. -/
theorem sendDocument_spawned (hop : operationOf x req.operationOrStatus = .sendDocument) :
    (sendDocument x clock app name req record).spawned = documentOf x app.jobs name req := by
  unfold sendDocument documentOf
  rw [hop]
  cases hl : hasOperationAttr req "last-document" with
  | false => cases req.payload <;> rfl
  | true =>
      cases hid : extractJobId req with
      | none => cases hp : req.payload <;> simp [AppState.answer]
      | some id =>
          cases hj : app.jobs.get id with
          | none => cases hp : req.payload <;> simp [AppState.answer, hj]
          | some j =>
              have hjid := JobRegistry.get_id hj
              cases hp : req.payload with
              | error e => simp [AppState.answer, hj]
              | ok payload => cases payload <;> simp [hj, hjid]

/-- **Whoever gets a worker has brought a document.** -/
theorem documentOf_of_spawned {task : PrintTask}
    (h : (dispatch x clock app name req record).spawned = some task) :
    documentOf x app.jobs name req = some task := by
  by_cases hprint : operationOf x req.operationOrStatus = .printJob
  · rw [dispatch_printJob hprint] at h
    rcases printJob_spawned hprint with e | ⟨e, _⟩
    · exact e.symm.trans h
    · cases e.symm.trans h
  · by_cases hsend : operationOf x req.operationOrStatus = .sendDocument
    · rw [dispatch_sendDocument hsend, sendDocument_spawned hsend] at h
      exact h
    · rw [dispatch_spawned_other hprint hsend] at h
      cases h

/-- **Whoever is answered with success has a worker for the document it brought.** -/
theorem spawned_of_successful (h : (dispatch x clock app name req record).reply.Successful) :
    (dispatch x clock app name req record).spawned = documentOf x app.jobs name req := by
  by_cases hprint : operationOf x req.operationOrStatus = .printJob
  · rw [dispatch_printJob hprint] at h ⊢
    rcases printJob_spawned hprint with e | ⟨_, hno⟩
    · exact e
    · exact absurd h hno
  · by_cases hsend : operationOf x req.operationOrStatus = .sendDocument
    · rw [dispatch_sendDocument hsend]
      exact sendDocument_spawned hsend
    · rw [dispatch_spawned_other hprint hsend, documentOf_other hprint hsend]

end Requests

/-! ## 2. Nothing is lost -/

/-- The worker has not come to its next call yet. -/
def WorkerPc.beforeCall : WorkerPc → Bool
  | markPrinter => true
  | markJob => true
  | loopHead => true
  | call => true
  | _ => false

/-- The worker has not come to its next call yet, or is kept from it by its device. -/
def WorkerPc.beforeAgain : WorkerPc → Bool
  | heldReasons _ => true
  | heldState => true
  | wait _ => true
  | pc => pc.beforeCall

/-- Positions on the way to a call: a worker starts at one, and from one it goes to the next, comes
    to its call, or leaves the loop since its job is canceled. -/
structure LeadsToCall (Q : WorkerPc → Bool) : Prop where
  spawned : Q .markPrinter = true
  printing : Q .printing = false
  next : ∀ {retryMs : Option String} {canceled : Bool} {current : List PrinterConfig}
    {w w' : Worker}, w.next retryMs canceled current = some w' → Q w.pc = true → w.pc ≠ .call →
    Q w'.pc = true ∨ canceled = true

/-- The document of a worker at one of these positions, or whose job is canceled. -/
def Worker.owed (Q : WorkerPc → Bool) (canceled : Bool) (w : Worker) : Multiset PrintTask :=
  if Q w.pc = true ∨ canceled = true then {w.task} else 0

/-- The documents of the workers at these positions, or whose job is canceled. -/
def System.owed (Q : WorkerPc → Bool) (s : System) : Multiset PrintTask :=
  Pool.stock (fun w => w.owed Q (s.app.jobs.isCanceled w.task.slot)) s.workers

/-- The documents of the workers that are still to call, or whose job is canceled. -/
def System.undelivered (s : System) : Multiset PrintTask := s.owed WorkerPc.beforeCall

/-- The same with the workers that wait for their device. -/
def System.outstanding (s : System) : Multiset PrintTask := s.owed WorkerPc.beforeAgain

/-- The document that a callback gives back at one of these positions, unless its job is
    canceled. -/
def System.returnsTo (Q : WorkerPc → Bool) (s : System) : Action → Multiset PrintTask
  | .outcome i out =>
    match s.workers[i]? with
    | some w =>
      if Q (.ofOutcome out) = true ∧ s.app.jobs.isCanceled w.task.slot = false then {w.task} else 0
    | none => 0
  | _ => 0

/-- The document whose callback finds its device unavailable, unless its job is canceled. -/
def System.holds (s : System) : Action → Multiset PrintTask
  | .outcome i (.deviceUnavailable _) =>
    match s.workers[i]? with
    | some w => if s.app.jobs.isCanceled w.task.slot then 0 else {w.task}
    | none => 0
  | _ => 0

section Owed

variable {o : Options} {s s' : System} {a : Action} {ev tr : List Event} {w w' : Worker}
  {Q : WorkerPc → Bool}

theorem leadsToCall_beforeCall : LeadsToCall WorkerPc.beforeCall where
  spawned := rfl
  printing := rfl
  next := by
    intro _ canceled _ w w' h hq hcall
    obtain ⟨task, pc, backoff⟩ := w
    cases pc with
    | markPrinter => cases h; exact Or.inl rfl
    | markJob => cases h; exact Or.inl rfl
    | loopHead => cases h; cases canceled <;> simp [WorkerPc.beforeCall]
    | call => exact absurd rfl hcall
    | _ => cases hq

theorem leadsToCall_beforeAgain : LeadsToCall WorkerPc.beforeAgain where
  spawned := rfl
  printing := rfl
  next := by
    intro _ canceled _ w w' h hq hcall
    obtain ⟨task, pc, backoff⟩ := w
    cases pc with
    | markPrinter => cases h; exact Or.inl rfl
    | markJob => cases h; exact Or.inl rfl
    | loopHead => cases h; cases canceled <;> simp [WorkerPc.beforeAgain, WorkerPc.beforeCall]
    | call => exact absurd rfl hcall
    | heldReasons reasons => cases h; exact Or.inl rfl
    | heldState => cases h; exact Or.inl rfl
    | wait left =>
        rcases Worker.next_wait rfl h with ⟨hc, _⟩ | ⟨_, ⟨_, hpc⟩ | hpc⟩
        · exact Or.inr hc
        · exact Or.inl (by rw [hpc]; rfl)
        · exact Or.inl (by rw [hpc]; rfl)
    | _ => cases hq

theorem returnsTo_none {i : Nat} {out : JobOutcome} (hi : s.workers[i]? = none) :
    s.returnsTo Q (.outcome i out) = 0 := by
  unfold System.returnsTo
  dsimp only
  rw [hi]

theorem returnsTo_some {i : Nat} {out : JobOutcome} (hi : s.workers[i]? = some w) :
    s.returnsTo Q (.outcome i out) =
      if Q (.ofOutcome out) = true ∧ s.app.jobs.isCanceled w.task.slot = false then {w.task}
      else 0 := by
  unfold System.returnsTo
  dsimp only
  rw [hi]

theorem returnsTo_beforeCall (s : System) (a : Action) :
    s.returnsTo WorkerPc.beforeCall a = 0 := by
  cases a with
  | outcome i out =>
      cases hi : s.workers[i]? with
      | none => exact returnsTo_none hi
      | some w =>
          rw [returnsTo_some hi]
          cases out <;> exact if_neg (by simp [WorkerPc.ofOutcome, WorkerPc.beforeCall])
  | _ => rfl

theorem returnsTo_beforeAgain (s : System) (a : Action) :
    s.returnsTo WorkerPc.beforeAgain a = s.holds a := by
  cases a with
  | outcome i out =>
      cases hi : s.workers[i]? with
      | none =>
          rw [returnsTo_none hi]
          cases out <;> simp [System.holds, hi]
      | some w =>
          rw [returnsTo_some hi]
          cases hc : s.app.jobs.isCanceled w.task.slot <;> cases out <;>
            simp [System.holds, hi, hc, WorkerPc.ofOutcome, WorkerPc.beforeAgain,
              WorkerPc.beforeCall]
  | _ => rfl

theorem Worker.owed_canceled (w : Worker) : w.owed Q true = {w.task} := if_pos (Or.inr rfl)

theorem Worker.owed_le (w : Worker) (canceled : Bool) : w.owed Q canceled ≤ {w.task} := by
  unfold Worker.owed
  split
  · exact le_rfl
  · exact Multiset.zero_le _

theorem Worker.owed_mono (w : Worker) {canceled canceled' : Bool}
    (h : canceled = true → canceled' = true) : w.owed Q canceled ≤ w.owed Q canceled' := by
  cases canceled with
  | true =>
      rw [h rfl]
  | false =>
      cases canceled' with
      | true =>
          rw [w.owed_canceled]
          exact w.owed_le false
      | false => exact le_rfl

/-- Past its call, a worker owes nothing unless the job is canceled. -/
theorem Worker.owed_kept (hb : Q w.pc = false) (htask : w'.task = w.task) (canceled : Bool) :
    w.owed Q canceled ≤ w'.owed Q canceled := by
  cases canceled with
  | true => rw [w.owed_canceled, w'.owed_canceled, htask]
  | false =>
      unfold Worker.owed
      rw [hb, if_neg (by decide)]
      exact Multiset.zero_le _

/-- A call hands over the worker's document. -/
theorem Worker.handsOver_call (h : w.pc = .call) : total Event.handsOver w.events = {w.task} := by
  rw [Worker.events_call h, total_cons, total_nil, add_zero]
  rfl

/-- **A worker's access** makes up for its document: it stays with it, or is handed over, or the
    worker leaves the loop since its job is canceled. -/
theorem Worker.next_owed {retryMs : Option String} {canceled canceled' : Bool}
    {current : List PrinterConfig} (hQ : LeadsToCall Q)
    (h : w.next retryMs canceled current = some w') (hc : canceled = true → canceled' = true) :
    w.owed Q canceled' ≤ total Event.handsOver w.events + w'.owed Q canceled' := by
  have htask := Worker.next_task h
  cases hb : Q w.pc with
  | false => exact (Worker.owed_kept hb htask _).trans (Multiset.le_add_left _ _)
  | true =>
      by_cases hcall : w.pc = .call
      · rw [Worker.handsOver_call hcall]
        exact (w.owed_le canceled').trans (Multiset.le_add_right _ _)
      · -- on its way to the call, or out of the loop since its flag is set
        have hnext : Q w'.pc = true ∨ canceled' = true := (hQ.next h hb hcall).imp_right hc
        refine (w.owed_le canceled').trans ?_
        rw [show w'.owed Q canceled' = {w.task} from htask ▸ if_pos hnext]
        exact Multiset.le_add_left _ _

/-- A callback that returns gives the document back, or the worker is through with it. -/
theorem Worker.returned_owed (hQ : LeadsToCall Q) (hp : w.pc = .printing) (out : JobOutcome)
    (canceled : Bool) :
    w.owed Q canceled +
        (if Q (.ofOutcome out) = true ∧ canceled = false then ({w.task} : Multiset PrintTask)
          else 0) ≤
      Worker.owed Q canceled { w with pc := .ofOutcome out } := by
  have hb : Q w.pc = false := by rw [hp]; exact hQ.printing
  cases canceled with
  | true =>
      rw [if_neg (by simp), add_zero, w.owed_canceled, Worker.owed_canceled]
  | false =>
      have hzero : w.owed Q false = 0 := if_neg (by simp [hb])
      rw [hzero, zero_add]
      unfold Worker.owed
      simp

theorem accepts_request (o : Options) (s : System) (clock : Clock) (name : String)
    (body : List UInt8) : s.accepts o (.request clock name body) =
      match gates o.crate s.app name body with
      | .ok (req, record) =>
        if (dispatch o.crate clock s.app name req record).reply.Successful then
          ↑(documentOf o.crate s.app.jobs name req).toList
        else 0
      | .error _ => 0 := rfl

/-- A request's documents are with the workers it spawns. -/
theorem accepts_le_spawned {clock : Clock} {name : String} {body : List UInt8}
    {req : IppRequest} {record : PrinterRecord}
    (hg : gates o.crate s.app name body = .ok (req, record)) :
    s.accepts o (.request clock name body) ≤
      ↑(dispatch o.crate clock s.app name req record).spawned.toList := by
  rw [accepts_request, hg]
  dsimp only
  split
  · rename_i hok
    rw [spawned_of_successful hok]
  · exact Multiset.zero_le _

theorem stock_owed_spawn (hQ : LeadsToCall Q) (flag : Nat → Bool) (spawned : Option PrintTask) :
    Pool.stock (fun w => w.owed Q (flag w.task.slot)) (spawned.map PrintTask.spawn).toList =
      ↑spawned.toList := by
  cases spawned with
  | none => rfl
  | some task => exact (Pool.stock_singleton _ _).trans (if_pos (Or.inl hQ.spawned))

/-- Only requests, workers and callbacks change the workers. -/
theorem step_workers_same (h : step o s a = some (s', ev))
    (hr : ∀ clock name body, a ≠ .request clock name body) (hw : ∀ i now, a ≠ .worker i now)
    (ho : ∀ i out, a ≠ .outcome i out) : s'.workers = s.workers := by
  have hj := step_jobs h
  generalize s'.app.jobs = g at hj
  generalize s'.workers = ws at hj ⊢
  cases hj with
  | same => rfl
  | request clock name body => exact absurd rfl (hr clock name body)
  | canceled => rfl
  | worked i now => exact absurd rfl (hw i now)
  | returned i out => exact absurd rfl (ho i out)

/-- **One step**: the documents that were with the workers, those it accepts and the one it gives
    back are handed over, or with the workers. -/
theorem step_owed (hQ : LeadsToCall Q) (h : step o s a = some (s', ev)) :
    s.owed Q + (s.accepts o a + s.returnsTo Q a) ≤ total Event.handsOver ev + s'.owed Q := by
  have hmono : s.owed Q ≤
      Pool.stock (fun w => w.owed Q (s'.app.jobs.isCanceled w.task.slot)) s.workers :=
    Pool.stock_mono fun w _ => w.owed_mono (step_isCanceled h)
  -- what neither accepts nor hands over, and leaves the workers alone
  have hquiet : s.accepts o a + s.returnsTo Q a = 0 → s'.workers = s.workers →
      s.owed Q + (s.accepts o a + s.returnsTo Q a) ≤ total Event.handsOver ev + s'.owed Q := by
    intro hacc hw
    rw [hacc, add_zero]
    refine hmono.trans ?_
    unfold System.owed
    rw [hw]
    exact Multiset.le_add_left _ _
  cases a with
  | worker i now =>
      obtain ⟨w, w', hi, hn, hev, hs'⟩ := step_worker h
      have hws : s'.workers = s.workers.set i w' := by rw [hs']
      have hflag := step_isCanceled h (k := w.task.slot)
      refine (add_le_add_left hmono _).trans ?_
      unfold System.owed
      rw [hws, hev]
      refine Pool.le_stock_move _ hi ?_
      rw [Worker.next_task hn]
      exact (le_of_eq (add_zero _)).trans (Worker.next_owed hQ hn hflag)
  | outcome i out =>
      obtain ⟨w, hi, hp, rfl, hs'⟩ := step_outcome h
      have hws : s'.workers = s.workers.set i { w with pc := .ofOutcome out } := by rw [hs']
      have hjobs : s'.app.jobs = s.app.jobs := by rw [hs']
      unfold System.owed
      rw [hws, hjobs]
      refine Pool.le_stock_move (fun w => w.owed Q (s.app.jobs.isCanceled w.task.slot)) hi ?_
      rw [show total Event.handsOver [.outcome w.task.slot out] = 0 from rfl, zero_add]
      rw [show s.accepts o (.outcome i out) = 0 from rfl, zero_add, returnsTo_some hi]
      exact Worker.returned_owed hQ hp out _
  | request clock name body =>
      have hother : ∀ req record, gates o.crate s.app name body = .ok (req, record) →
          operationOf o.crate req.operationOrStatus ≠ .printJob →
          operationOf o.crate req.operationOrStatus ≠ .sendDocument →
          s.accepts o (.request clock name body) = 0 := by
        intro req record hg hp hd
        rw [accepts_request, hg]
        dsimp only
        rw [documentOf_other hp hd]
        exact ite_self _
      rcases step_request h with ⟨reply, hg, hs', _⟩ | ⟨req, record, task, hg, hop, _, hs'⟩ |
        ⟨req, record, task, hg, hop, _, hs'⟩ | ⟨req, record, hg, hop, hs', hev⟩
      · refine hquiet ?_ (by rw [hs'])
        rw [accepts_request, hg]
        rfl
      · refine hquiet ?_ (by rw [hs'])
        rw [hother req record hg (by rw [hop]; nofun) (by rw [hop]; nofun)]
        rfl
      · refine hquiet ?_ (by rw [hs'])
        rw [hother req record hg (by rw [hop]; nofun) (by rw [hop]; nofun)]
        rfl
      · have hws : s'.workers = s.workers ++
            ((dispatch o.crate clock s.app name req record).spawned.map
              PrintTask.spawn).toList := by
          rw [hs']
        have haccepts : s.accepts o (.request clock name body) +
            s.returnsTo Q (.request clock name body) ≤
              ↑(dispatch o.crate clock s.app name req record).spawned.toList :=
          (le_of_eq (add_zero _)).trans (accepts_le_spawned hg)
        refine (add_le_add hmono haccepts).trans ?_
        unfold System.owed
        rw [hws, Pool.stock_append, stock_owed_spawn hQ fun k => s'.app.jobs.isCanceled k]
        exact Multiset.le_add_left _ _
  | _ => exact hquiet rfl (step_workers_same h nofun nofun nofun)

/-- The documents accepted in a step, and the one held. -/
def System.handedIn (o : Options) (s : System) (a : Action) :
    Multiset PrintTask × Multiset PrintTask := (s.accepts o a, s.holds a)

theorem accepted_covered {G : System × Multiset PrintTask × Multiset PrintTask → Action → Prop}
    {d : Deployment} {documents held : Multiset PrintTask}
    (h : Run (metered (server o) (System.handedIn o)) G (boot d, 0) tr (s, documents, held))
    (task : PrintTask) :
    documents.count task + held.count task ≤
      (total Event.handsOver tr).count task + s.outstanding.count task := by
  have hcover := run_covers System.outstanding
    (AddMonoidHom.coprod (.id (Multiset PrintTask)) (.id (Multiset PrintTask)))
    (fun r b _ _ hs => by
      show r.owed WorkerPc.beforeAgain + (r.accepts o b + r.holds b) ≤ _
      rw [← returnsTo_beforeAgain]
      exact step_owed leadsToCall_beforeAgain hs) h
  rw [← Multiset.count_add, ← Multiset.count_add]
  refine Multiset.count_le_of_le task (le_trans ?_ hcover)
  exact Multiset.le_add_left (documents + held) _

/-- **No document is lost**: in every run, as often as a document was accepted it is called for,
    with the payload, copies, format and quality it was sent with, or its worker is still to come to
    the call, or its job is canceled. And each time its device was unavailable it is called for once
    more, or its worker waits or is still to come to the call, or its job is canceled. -/
theorem accepted_documents_printed
    {G : System × Multiset PrintTask × Multiset PrintTask → Action → Prop} {d : Deployment}
    {documents held : Multiset PrintTask}
    (h : Run (metered (server o) (System.handedIn o)) G (boot d, 0) tr (s, documents, held))
    (task : PrintTask) :
    documents.count task ≤ (total Event.handsOver tr).count task + s.undelivered.count task ∧
    documents.count task + held.count task ≤
      (total Event.handsOver tr).count task + s.outstanding.count task := by
  refine ⟨?_, accepted_covered h task⟩
  have hcover := run_covers System.undelivered
    (AddMonoidHom.fst (Multiset PrintTask) (Multiset PrintTask))
    (fun r b _ _ hs => by
      have hstep := step_owed leadsToCall_beforeCall hs
      rw [returnsTo_beforeCall, add_zero] at hstep
      exact hstep) h
  rw [← Multiset.count_add]
  refine Multiset.count_le_of_le task (le_trans ?_ hcover)
  exact Multiset.le_add_left documents _

end Owed

namespace Trial

/-- Two prints of the same document; the first is canceled before its call, the second one printed
    after its device was away once. -/
def printsScript : List Action :=
  [post "p" print, post "p" print, post "p" cancel] ++ times 3 (.worker 0 0) ++
    times 4 (.worker 1 0) ++ [.outcome 1 (.deviceUnavailable .OFFLINE)] ++
    times 13 (.worker 1 0) ++ [.outcome 1 .completed]

def accepting : System × Multiset PrintTask × Multiset PrintTask :=
  endOf (metered (server options) (System.handedIn options)) anyStep (boot deployment, 0)
    printsScript

/-- The document of the second print. -/
def printedTask : PrintTask := printTask "p" print.request 2 1 [65]

theorem accepting_run : Run (metered (server options) (System.handedIn options)) anyStep
    (boot deployment, 0) (traceOf (metered (server options) (System.handedIn options)) anyStep
      (boot deployment, 0) printsScript) (accepting.1, accepting.2.1, accepting.2.2) := by
  rw [Prod.mk.eta]
  exact run_endOf (by decide +kernel)

/-- It was accepted once, held once and called for twice. -/
example : accepting.2.1.count printedTask = 1 ∧ accepting.2.2.count printedTask = 1 ∧
    accepting.1.outstanding.count printedTask = 0 := by
  decide +kernel

end Trial

theorem accepted_documents_printed_two :
    Trial.accepting.2.1.count Trial.printedTask ≤
      (total Event.handsOver (traceOf (metered (server Trial.options)
        (System.handedIn Trial.options)) anyStep (boot Trial.deployment, 0)
          Trial.printsScript)).count Trial.printedTask +
      Trial.accepting.1.undelivered.count Trial.printedTask ∧
    Trial.accepting.2.1.count Trial.printedTask + Trial.accepting.2.2.count Trial.printedTask ≤
      (total Event.handsOver (traceOf (metered (server Trial.options)
        (System.handedIn Trial.options)) anyStep (boot Trial.deployment, 0)
          Trial.printsScript)).count Trial.printedTask +
      Trial.accepting.1.outstanding.count Trial.printedTask :=
  accepted_documents_printed Trial.accepting_run Trial.printedTask

/-! ## 3. At rest -/

section Rest

variable {o : Options} {s s' : System} {a : Action} {ev tr : List Event}
  {documents held : Multiset PrintTask} {task : PrintTask}

/-- Every document that was accepted is with a worker. -/
def WithWorkers (documents : Multiset PrintTask) (s : System) : Prop :=
  ∀ task ∈ documents, ∃ w ∈ s.workers, w.task = task

theorem WithWorkers.step (hI : WithWorkers documents s) (h : step o s a = some (s', ev)) :
    WithWorkers (documents + s.accepts o a) s' := by
  intro task htask
  rcases Multiset.mem_add.mp htask with hold | hnew
  · obtain ⟨w, hw, rfl⟩ := hI task hold
    obtain ⟨w', hw', htask', _⟩ := (step_jobs h).follow hw
    exact ⟨w', hw', htask'⟩
  · cases a with
    | request clock name body =>
        rcases step_request h with ⟨_, hg, _, _⟩ | ⟨req, record, _, hg, hop, _, _⟩ |
          ⟨req, record, _, hg, hop, _, _⟩ | ⟨req, record, hg, _, hs', _⟩
        · rw [accepts_request, hg] at hnew
          exact absurd hnew (Multiset.notMem_zero task)
        · have hle := Multiset.mem_of_le (accepts_le_spawned hg) hnew
          rw [dispatch_spawned_other (by rw [hop]; nofun) (by rw [hop]; nofun)] at hle
          exact absurd hle (Multiset.notMem_zero task)
        · have hle := Multiset.mem_of_le (accepts_le_spawned hg) hnew
          rw [dispatch_spawned_other (by rw [hop]; nofun) (by rw [hop]; nofun)] at hle
          exact absurd hle (Multiset.notMem_zero task)
        · have hle := Multiset.mem_of_le (accepts_le_spawned hg) hnew
          refine ⟨task.spawn, ?_, rfl⟩
          rw [hs']
          refine List.mem_append_right _ (Option.mem_toList.mpr (Option.map_eq_some_iff.mpr ?_))
          exact ⟨task, Option.mem_toList.mp (Multiset.mem_coe.mp hle), rfl⟩
    | _ => exact absurd hnew (Multiset.notMem_zero task)

/-- Nothing is owed of a document whose workers are past their call and whose job is not
    canceled. -/
theorem owed_count_zero {Q : WorkerPc → Bool}
    (h : ∀ w ∈ s.workers, w.task = task → Q w.pc = false)
    (hc : s.app.jobs.isCanceled task.slot = false) : (s.owed Q).count task = 0 := by
  refine Multiset.count_eq_zero.mpr fun hmem => ?_
  obtain ⟨w, hw, hin⟩ := Pool.mem_stock.mp hmem
  have htask : w.task = task :=
    (Multiset.mem_singleton.mp (Multiset.mem_of_le (w.owed_le _) hin)).symm
  subst htask
  unfold Worker.owed at hin
  rw [h w hw rfl, hc, if_neg (by decide)] at hin
  exact absurd hin (Multiset.notMem_zero w.task)

/-- **A server at rest has done with every document it accepted**: its job is terminal, and unless
    that job is canceled, the document has been called for as often as it was accepted, and once
    more each time its device was unavailable. -/
theorem accepted_documents_finished
    {G : System × Multiset PrintTask × Multiset PrintTask → Action → Prop} {d : Deployment}
    (h : Run (metered (server o) (System.handedIn o)) G (boot d, 0) tr (s, documents, held))
    (hlt : s.app.jobs.jobs.length < 2 ^ 32) (hrest : s.AtRest)
    (htask : 0 < documents.count task) :
    ∃ j, s.app.jobs.jobs[task.slot]? = some j ∧ j.id = task.id ∧ j.state.isTerminal = true ∧
      (j.cancelFlag = false → documents.count task + held.count task ≤
        (total Event.handsOver tr).count task) := by
  have hserver : Run (server o) anyStep (boot d) tr s := (run_iff_withHistory 0).mpr ⟨_, h.any⟩
  have hwith : WithWorkers documents s := by
    refine Run.always (I := fun p => WithWorkers p.2.1 p.1)
      (fun task htask => absurd htask (Multiset.notMem_zero task)) ?_ h
    intro p a p' ev hI _ hs
    obtain ⟨hstep, hk⟩ := step_withHistory hs
    rw [hk]
    exact hI.step hstep
  obtain ⟨w, hw, hwt⟩ := hwith task (Multiset.count_pos.mp htask)
  obtain ⟨j, hj, hid⟩ := run_taskJobs hserver w hw
  rw [hwt] at hj hid
  refine ⟨j, hj, hid, ?_, fun hflag => ?_⟩
  · -- a worker that is done attends no job
    rcases attended_run hserver hlt task.slot j hj
        (List.ne_nil_of_mem (Pool.mem_tasksOf.mpr ⟨hw, congrArg PrintTask.slot hwt⟩)) with
      hterm | ⟨u, hu, hat⟩
    · exact hterm
    · unfold Worker.Attends at hat
      rw [hrest.workers u (Pool.mem_tasksOf.mp hu).1] at hat
      exact hat.elim
  · have hzero : s.outstanding.count task = 0 := by
      refine owed_count_zero (fun u hu _ => ?_) ?_
      · rw [hrest.workers u hu]
        rfl
      · rw [JobRegistry.isCanceled_eq hj]
        exact hflag
    have hle := accepted_covered h task
    omega

end Rest

namespace Trial

/-- The same two prints until both workers have exited. -/
def printsThrough : List Action := printsScript ++ times 6 (.worker 0 0) ++ times 7 (.worker 1 0)

def accepted : System × Multiset PrintTask × Multiset PrintTask :=
  endOf (metered (server options) (System.handedIn options)) anyStep (boot deployment, 0)
    printsThrough

theorem accepted_run : Run (metered (server options) (System.handedIn options)) anyStep
    (boot deployment, 0) (traceOf (metered (server options) (System.handedIn options)) anyStep
      (boot deployment, 0) printsThrough) (accepted.1, accepted.2.1, accepted.2.2) := by
  rw [Prod.mk.eta]
  exact run_endOf (by decide +kernel)

theorem accepted_atRest : accepted.1.AtRest where
  workers := by decide +kernel
  cancels := by decide +kernel
  identifies := by decide +kernel
  poller := by decide +kernel
  media := by decide +kernel

end Trial

theorem accepted_documents_finished_two :
    ∃ j, Trial.accepted.1.app.jobs.jobs[Trial.printedTask.slot]? = some j ∧
      j.id = Trial.printedTask.id ∧ j.state.isTerminal = true ∧
      (j.cancelFlag = false → Trial.accepted.2.1.count Trial.printedTask +
          Trial.accepted.2.2.count Trial.printedTask ≤
        (total Event.handsOver (traceOf (metered (server Trial.options)
          (System.handedIn Trial.options)) anyStep (boot Trial.deployment, 0)
            Trial.printsThrough)).count Trial.printedTask) :=
  accepted_documents_finished Trial.accepted_run (by decide +kernel) Trial.accepted_atRest
    (by decide +kernel)

/-! ## 4. Nothing else is printed -/

/-- The job whose print callback is called. -/
def Event.called : Event → Multiset Nat
  | .printJob ctx _ _ => {ctx.slot}
  | _ => 0

/-- The job whose callback found its device unavailable. -/
def Event.held : Event → Multiset Nat
  | .outcome slot (.deviceUnavailable _) => {slot}
  | _ => 0

/-- The job of a worker that may come to a call. -/
def Worker.toCall (w : Worker) : Multiset Nat :=
  if w.pc.mayPrint = true ∧ w.pc ≠ .printing then {w.task.slot} else 0

/-- The jobs that may be called for, each as often as a worker may come to a call for it. -/
def System.toCall (s : System) : Multiset Nat := Pool.stock Worker.toCall s.workers

section Surplus

variable {o : Options} {s s' : System} {a : Action} {ev tr : List Event} {w w' : Worker}

theorem Worker.toCall_le (w : Worker) : w.toCall ≤ {w.task.slot} := by
  unfold Worker.toCall
  split
  · exact le_rfl
  · exact Multiset.zero_le _

theorem Worker.toCall_past (h : w.pc.mayPrint = false) : w.toCall = 0 :=
  if_neg fun hp => Bool.false_ne_true (h.symm.trans hp.1)

theorem Worker.toCall_printing (h : w.pc = .printing) : w.toCall = 0 := if_neg fun hp => hp.2 h

/-- **A worker's access** is a call only if it could come to one, and no worker comes back. -/
theorem Worker.next_toCall {retryMs : Option String} {canceled : Bool}
    {current : List PrinterConfig} (h : w.next retryMs canceled current = some w') :
    total Event.called w.events + w'.toCall ≤ w.toCall := by
  by_cases hcall : w.pc = .call
  · have hw : w.toCall = {w.task.slot} := if_pos (by rw [hcall]; exact ⟨rfl, nofun⟩)
    have hw' : w'.toCall = 0 := by
      refine Worker.toCall_printing ?_
      unfold Worker.next at h
      rw [hcall] at h
      cases h
      rfl
    rw [Worker.events_call hcall, total_cons, total_nil, add_zero, hw, hw', add_zero]
    exact le_rfl
  · rw [Worker.events_of_pc hcall, total_nil, zero_add]
    cases hm : w.pc.mayPrint with
    | false =>
        rw [Worker.toCall_past (Worker.next_mayPrint h hm)]
        exact Multiset.zero_le _
    | true =>
        have hprint : w.pc ≠ .printing := by
          intro hp
          unfold Worker.next at h
          rw [hp] at h
          cases h
        rw [show w.toCall = {w.task.slot} from if_pos ⟨hm, hprint⟩, ← Worker.next_task h]
        exact w'.toCall_le

/-- A callback that returns leads to another call only if its device was unavailable. -/
theorem Worker.toCall_returned (w : Worker) (out : JobOutcome) :
    Worker.toCall { w with pc := .ofOutcome out } ≤
      total Event.held [.outcome w.task.slot out] := by
  rw [total_cons, total_nil, add_zero]
  cases out with
  | deviceUnavailable reasons => exact Worker.toCall_le _
  | _ => exact le_of_eq rfl

theorem toCall_spawn (spawned : Option PrintTask) :
    Pool.stock Worker.toCall (spawned.map PrintTask.spawn).toList =
      (↑spawned.toList : Multiset PrintTask).map (·.slot) := by
  cases spawned with
  | none => rfl
  | some task => exact (Pool.stock_singleton _ _).trans (if_pos ⟨rfl, nofun⟩)

theorem brings_request (o : Options) (s : System) (clock : Clock) (name : String)
    (body : List UInt8) : s.brings o (.request clock name body) =
      match gates o.crate s.app name body with
      | .ok (req, _) => ↑(documentOf o.crate s.app.jobs name req).toList
      | .error _ => 0 := rfl

/-- The workers a request spawns are for the document it brings. -/
theorem spawned_le_brings {clock : Clock} {name : String} {body : List UInt8} {req : IppRequest}
    {record : PrinterRecord} (hg : gates o.crate s.app name body = .ok (req, record)) :
    (↑(dispatch o.crate clock s.app name req record).spawned.toList : Multiset PrintTask) ≤
      s.brings o (.request clock name body) := by
  rw [brings_request, hg]
  dsimp only
  cases hs : (dispatch o.crate clock s.app name req record).spawned with
  | none => exact Multiset.zero_le _
  | some task => rw [documentOf_of_spawned hs]

/-- **One step** is paid for: by the workers that may come to a call, by the documents it brings,
    and by the callbacks that found their device unavailable. -/
theorem step_toCall (h : step o s a = some (s', ev)) :
    total Event.called ev + s'.toCall ≤
      s.toCall + (Multiset.mapAddMonoidHom PrintTask.slot (s.brings o a) +
        total Event.held ev) := by
  have hother : (∀ i now, a ≠ .worker i now) → total Event.called ev = 0 := by
    intro hw
    refine total_zero fun e he => ?_
    cases step_event h he with
    | printJob i now => exact absurd rfl (hw i now)
    | _ => rfl
  have hquiet : (∀ i now, a ≠ .worker i now) → s'.workers = s.workers →
      total Event.called ev + s'.toCall ≤
        s.toCall + (Multiset.mapAddMonoidHom PrintTask.slot (s.brings o a) +
          total Event.held ev) := by
    intro hw hws
    unfold System.toCall
    rw [hother hw, zero_add, hws]
    exact Multiset.le_add_right _ _
  cases a with
  | worker i now =>
      obtain ⟨w, w', hi, hn, rfl, rfl⟩ := step_worker h
      refine Pool.stock_move_le Worker.toCall hi ((Worker.next_toCall hn).trans ?_)
      exact Multiset.le_add_right _ _
  | outcome i out =>
      obtain ⟨w, hi, hp, rfl, rfl⟩ := step_outcome h
      refine Pool.stock_move_le Worker.toCall hi ?_
      rw [Worker.toCall_printing hp, hother nofun, zero_add, zero_add]
      exact (w.toCall_returned out).trans (Multiset.le_add_left _ _)
  | request clock name body =>
      rcases step_request h with ⟨_, _, rfl, _⟩ | ⟨_, _, _, _, _, _, rfl⟩ |
        ⟨_, _, _, _, _, _, rfl⟩ | ⟨req, record, hg, _, hs', _⟩
      · exact hquiet nofun rfl
      · exact hquiet nofun rfl
      · exact hquiet nofun rfl
      · have hws : s'.workers = s.workers ++
            ((dispatch o.crate clock s.app name req record).spawned.map
              PrintTask.spawn).toList := by
          rw [hs']
        unfold System.toCall
        rw [hother nofun, zero_add, hws, Pool.stock_append, toCall_spawn]
        refine add_le_add_right ?_ _
        refine (Multiset.map_le_map (spawned_le_brings hg)).trans ?_
        exact Multiset.le_add_right _ _
  | _ => exact hquiet nofun (step_workers_same h nofun nofun nofun)

/-- A document that has been brought stays so, and the workers' are. -/
theorem step_workers_brought {documents : Multiset PrintTask} (h : step o s a = some (s', ev))
    (hb : ∀ w ∈ s.workers, w.task ∈ documents) :
    ∀ w ∈ s'.workers, w.task ∈ documents + s.brings o a := by
  have hold : ∀ w ∈ s.workers, w.task ∈ documents + s.brings o a := fun w hw =>
    Multiset.mem_add.mpr (Or.inl (hb w hw))
  intro w hw
  cases a with
  | worker i now =>
      obtain ⟨w₀, w₁, hi, hn, _, rfl⟩ := step_worker h
      rcases Pool.mem_set hw with hw | rfl
      · exact hold w hw
      · rw [Worker.next_task hn]
        exact hold w₀ (List.mem_of_getElem? hi)
  | outcome i out =>
      obtain ⟨w₀, hi, _, _, rfl⟩ := step_outcome h
      rcases Pool.mem_set hw with hw | rfl
      · exact hold w hw
      · exact hold w₀ (List.mem_of_getElem? hi)
  | request clock name body =>
      rcases step_request h with ⟨_, _, rfl, _⟩ | ⟨_, _, _, _, _, _, rfl⟩ |
        ⟨_, _, _, _, _, _, rfl⟩ | ⟨req, record, hg, _, rfl, _⟩
      · exact hold w hw
      · exact hold w hw
      · exact hold w hw
      · rcases List.mem_append.mp hw with hw | hw
        · exact hold w hw
        · obtain ⟨task, htask, rfl⟩ := Option.map_eq_some_iff.mp (Option.mem_toList.mp hw)
          refine Multiset.mem_add.mpr (Or.inr (Multiset.mem_of_le (spawned_le_brings hg) ?_))
          exact Multiset.mem_coe.mpr (Option.mem_toList.mpr htask)
  | _ => exact hold w ((step_workers_same h nofun nofun nofun) ▸ hw)

/-- **Nothing else is printed, and nothing too often**: in every run, every call of the callback is
    for a document as a request brought it, and a job is called for once a document and once more
    each time its device was unavailable, at most. -/
theorem only_documents_printed {G : System × Multiset PrintTask → Action → Prop}
    {d : Deployment} {documents : Multiset PrintTask}
    (h : Run (metered (server o) (System.brings o)) G (boot d, 0) tr (s, documents)) :
    (∀ ctx payload copies, Event.printJob ctx payload copies ∈ tr →
      ∃ task ∈ documents, task.context = ctx ∧ task.payload = payload ∧ task.copies = copies) ∧
    ∀ k, (total Event.called tr).count k + s.toCall.count k ≤
      (documents.map (·.slot)).count k + (total Event.held tr).count k := by
  constructor
  · suffices hinv : (∀ w ∈ s.workers, w.task ∈ documents) ∧
        ∀ ctx payload copies, Event.printJob ctx payload copies ∈ tr →
          ∃ task ∈ documents, task.context = ctx ∧ task.payload = payload ∧ task.copies = copies
      from hinv.2
    refine Run.invariant (I := fun tr p => (∀ w ∈ p.1.workers, w.task ∈ p.2) ∧
      ∀ ctx payload copies, Event.printJob ctx payload copies ∈ tr →
        ∃ task ∈ p.2, task.context = ctx ∧ task.payload = payload ∧ task.copies = copies) ?_ ?_ h
    · exact ⟨fun _ hw => absurd hw List.not_mem_nil, fun _ _ _ he => absurd he List.not_mem_nil⟩
    · intro tr p a p' ev ⟨hb, hcalls⟩ _ hs
      obtain ⟨hstep, hk⟩ := step_withHistory hs
      rw [hk]
      refine ⟨step_workers_brought hstep hb, fun ctx payload copies he => ?_⟩
      rcases List.mem_append.mp he with he | he
      · obtain ⟨task, htask, e⟩ := hcalls ctx payload copies he
        exact ⟨task, Multiset.mem_add.mpr (Or.inl htask), e⟩
      · have hsrc := step_event hstep he
        cases hsrc with
        | printJob i now w hw hp =>
            exact ⟨w.task, Multiset.mem_add.mpr (Or.inl (hb w (List.mem_of_getElem? hw))), rfl, rfl,
              rfl⟩
  · intro k
    have hlimit := run_limited (Multiset.mapAddMonoidHom PrintTask.slot)
      (fun _ _ _ _ hs => step_toCall hs) h
    rw [← Multiset.count_add, ← Multiset.count_add]
    exact Multiset.count_le_of_le k (hlimit.trans (le_of_eq (zero_add _)))

end Surplus

namespace Trial

def bringing : System × Multiset PrintTask :=
  endOf (metered (server options) (System.brings options)) anyStep (boot deployment, 0)
    printsScript

theorem bringing_run : Run (metered (server options) (System.brings options)) anyStep
    (boot deployment, 0) (traceOf (metered (server options) (System.brings options)) anyStep
      (boot deployment, 0) printsScript) (bringing.1, bringing.2) :=
  run_endOf_pair (by decide +kernel)

end Trial

theorem only_documents_printed_two :
    (∀ ctx payload copies, Event.printJob ctx payload copies ∈
      traceOf (metered (server Trial.options) (System.brings Trial.options)) anyStep
        (boot Trial.deployment, 0) Trial.printsScript →
      ∃ task ∈ Trial.bringing.2,
        task.context = ctx ∧ task.payload = payload ∧ task.copies = copies) ∧
    ∀ k, (total Event.called (traceOf (metered (server Trial.options)
        (System.brings Trial.options)) anyStep (boot Trial.deployment, 0)
          Trial.printsScript)).count k + Trial.bringing.1.toCall.count k ≤
      (Trial.bringing.2.map (·.slot)).count k +
        (total Event.held (traceOf (metered (server Trial.options)
          (System.brings Trial.options)) anyStep (boot Trial.deployment, 0)
            Trial.printsScript)).count k :=
  only_documents_printed Trial.bringing_run

end IppPrinterApp
