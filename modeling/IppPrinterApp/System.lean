/-
  File:      IppPrinterApp/System.lean
  Subject:   The running server: request handlers, print workers, the poller and the media page,
             interleaved.

  `System` is the shared state (printers, jobs, state file, adverts) with the tasks in flight.
  An `Action` lets one of them make its next access to the shared state, or lets the outside act:
  a request arrives, a print callback or a device answers, a poll is due. Every list of actions
  is an interleaving. `Event` is what the outside sees.

  A request is one action, but for two: the loop of Cancel-My-Jobs gives up the lock between two
  cancels and is a `CancelTask` working off the ids it listed; Identify-Printer awaits the device
  and is an `IdentifyTask` until that returns.

  * `step_request`, `step_worker`, … -- what each action does, said once;
  * `JobsStep`, `step_jobs` -- what a step does to the jobs and the workers; `JobsStep.tasks` and
    `run_eachJob` are the rules for what holds of every worker's task, and of every job and its
    workers;
  * `PrintersStep`, `step_printers` -- what a step does to the printers;
  * `reachable_wf` -- ids follow positions in every reachable state.
-/
import IppPrinterApp.Lib.Pool
import IppPrinterApp.Lib.Transition
import IppPrinterApp.MediaPage

namespace IppPrinterApp

open Transition

/-! ## 1. State, actions, events -/

/-- What is fixed while the server runs: the `ipp` crate, the retry setting of the environment,
    and whether a media hook is installed. -/
structure Options where
  crate : IppCrate
  retryMs : Option String
  hooked : Bool

/-- A Cancel-My-Jobs request in its loop: the ids still to cancel. -/
structure CancelTask where
  name : String
  body : List UInt8
  version : IppVersion
  requestId : Nat
  todo : List JobId
  deriving DecidableEq, Repr

/-- An Identify-Printer request whose device has been asked. -/
structure IdentifyTask where
  name : String
  body : List UInt8
  version : IppVersion
  requestId : Nat
  deriving DecidableEq, Repr

structure System where
  app : AppState
  workers : List Worker
  cancels : List CancelTask
  identifies : List IdentifyTask
  poller : PollerPc
  media : List MediaTask
  adverts : Adverts
  file : List PrinterConfig
  deriving DecidableEq, Repr

inductive Action where
  /-- an IPP request arrives for the printer with this name -/
  | request (clock : Clock) (name : String) (body : List UInt8)
  /-- Cancel-My-Jobs task `i` goes on -/
  | cancelNext (i : Nat) (now : SystemTime)
  /-- the awaited `identify` of request `i` returns -/
  | identified (i : Nat)
  /-- worker `i` makes its next access -/
  | worker (i : Nat) (now : SystemTime)
  /-- the print callback of worker `i` returns -/
  | outcome (i : Nat) (o : JobOutcome)
  /-- a poll is due -/
  | pollTick
  /-- the awaited `poll_status` answers -/
  | pollAnswer (status : Option PollStatus)
  /-- the poller makes its next access -/
  | poll
  /-- the media form is submitted -/
  | mediaPost (name : String) (form : MediaForm)
  /-- the media hook of request `i` answers: `none` is consent -/
  | mediaAnswer (i : Nat) (refusal : Option String)
  /-- media request `i` makes its next access -/
  | media (i : Nat)
  deriving DecidableEq, Repr

/-- `JobContext` (server.rs); the cancel flag is the one of the job at `slot`. -/
structure JobContext where
  id : JobId
  printerName : String
  slot : Nat
  documentFormat : String
  printQuality : Option Nat
  deriving DecidableEq, Repr

inductive Event where
  /-- an IPP request is answered, or its handler panics -/
  | reply (name : String) (body : List UInt8) (reply : Reply)
  /-- the print callback is called -/
  | printJob (ctx : JobContext) (payload : List UInt8) (copies : Nat)
  /-- the print callback for the job at `slot` returns -/
  | outcome (slot : Nat) (o : JobOutcome)
  /-- the device is asked to identify itself -/
  | identify (config : PrinterConfig) (actions : List String)
  /-- `poll_status` is called -/
  | pollStatus (config : PrinterConfig)
  /-- the media hook is called -/
  | mediaHook (name : String) (media : ReadyMedia)
  /-- a media request is answered -/
  | page (name : String) (form : MediaForm) (page : Page)

def PrintTask.context (t : PrintTask) : JobContext :=
  { id := t.id, printerName := t.printerName, slot := t.slot
    documentFormat := t.documentFormat, printQuality := t.printQuality }

/-- What the outside sees of a worker's access: the call of the print callback. -/
def Worker.events (w : Worker) : List Event :=
  match w.pc with
  | .call => [.printJob w.task.context w.task.payload w.task.copies]
  | _ => []

/-- What the outside sees of the poller's access: the call of `poll_status`. -/
def PollerPc.events : PollerPc → List Event
  | .next (cfg :: _) _ => [.pollStatus cfg]
  | _ => []

/-! ## 2. The step function -/

variable (o : Options)

/-- A request arrives. -/
def requestStep (s : System) (clock : Clock) (name : String) (body : List UInt8) :
    System × List Event :=
  match gates o.crate s.app name body with
  | .error reply => (s, [.reply name body reply])
  | .ok (req, record) =>
    if operationOf o.crate req.operationOrStatus = .cancelMyJobs then
      let task : CancelTask :=
        { name, body, version := req.version, requestId := req.requestId
          todo := (s.app.jobs.jobsForPrinter name).map (·.id) }
      ({ s with cancels := s.cancels ++ [task] }, [])
    else if operationOf o.crate req.operationOrStatus = .identifyPrinter then
      let task : IdentifyTask := { name, body, version := req.version, requestId := req.requestId }
      ({ s with identifies := s.identifies ++ [task] },
        [.identify record.config (extractIdentifyActions o.crate req)])
    else
      let h := dispatch o.crate clock s.app name req record
      ({ s with app := h.app, workers := s.workers ++ (h.spawned.map PrintTask.spawn).toList },
        [.reply name body h.reply])

/-- A Cancel-My-Jobs task cancels the next job of its list, or answers at the end of it. -/
def cancelStep (s : System) (i : Nat) (now : SystemTime) : Option (System × List Event) :=
  match s.cancels[i]? with
  | none => none
  | some t =>
    match t.todo with
    | id :: todo =>
      some ({ s with
        app := { s.app with jobs := (s.app.jobs.cancel now id).2 }
        cancels := s.cancels.set i { t with todo } }, [])
    | [] =>
      some ({ s with cancels := s.cancels.eraseIdx i },
        [.reply t.name t.body (respond o.crate t.version .successfulOk t.requestId)])

/-- The device has identified itself: the request is answered. -/
def identifiedStep (s : System) (i : Nat) : Option (System × List Event) :=
  match s.identifies[i]? with
  | none => none
  | some t =>
    some ({ s with identifies := s.identifies.eraseIdx i },
      [.reply t.name t.body (respond o.crate t.version .successfulOk t.requestId)])

/-- A worker makes its next access. -/
def workerStep (s : System) (i : Nat) (now : SystemTime) : Option (System × List Event) :=
  match s.workers[i]? with
  | none => none
  | some w =>
    match w.next o.retryMs (s.app.jobs.isCanceled w.task.slot) (configs s.app.printers) with
    | none => none
    | some w' =>
      some ({ s with
        app := { s.app with
          printers := w.pc.printersAfter w.task s.app.printers
          jobs := w.pc.jobsAfter w.task now s.app.jobs }
        workers := s.workers.set i w'
        file := w.pc.saves.getD s.file }, w.events)

/-- The print callback of a worker returns. -/
def outcomeStep (s : System) (i : Nat) (out : JobOutcome) : Option (System × List Event) :=
  match s.workers[i]? with
  | none => none
  | some w =>
    if w.pc = .printing then
      some ({ s with workers := s.workers.set i { w with pc := .ofOutcome out } },
        [.outcome w.task.slot out])
    else none

/-- The poller makes its next access. -/
def pollStep (s : System) : Option (System × List Event) :=
  match s.poller.step s.adverts.isSome s.app.printers with
  | none => none
  | some pc =>
    some ({ s with
      app := { s.app with printers := s.poller.printersAfter s.app.printers }
      adverts := s.poller.advertsAfter s.adverts
      file := s.poller.saves.getD s.file
      poller := pc }, s.poller.events)

/-- The media form is submitted. -/
def mediaPostStep (s : System) (name : String) (form : MediaForm) : System × List Event :=
  match mediaStart o.hooked s.app.printers name form with
  | .error page => (s, [.page name form page])
  | .ok pc =>
    ({ s with media := s.media ++ [{ name, form, pc }] },
      if o.hooked then [.mediaHook name form.media] else [])

/-- A media request makes its next access. -/
def mediaStep (s : System) (i : Nat) : Option (System × List Event) :=
  match s.media[i]? with
  | none => none
  | some t =>
    match t.step s.app.printers with
    | none => none
    | some (t', page) =>
      some ({ s with
        app := { s.app with printers := t.printersAfter s.app.printers }
        file := t.saves.getD s.file
        media := s.media.set i t' }, (page.map (Event.page t.name t.form)).toList)

/-- The media hook of a request answers. -/
def mediaAnswerStep (s : System) (i : Nat) (refusal : Option String) :
    Option (System × List Event) :=
  match s.media[i]? with
  | none => none
  | some t =>
    match t.answered refusal with
    | none => none
    | some (t', page) =>
      some ({ s with media := s.media.set i t' }, (page.map (Event.page t.name t.form)).toList)

/-- **One step of the server.** -/
def step (s : System) : Action → Option (System × List Event)
  | .request clock name body => some (requestStep o s clock name body)
  | .cancelNext i now => cancelStep o s i now
  | .identified i => identifiedStep o s i
  | .worker i now => workerStep o s i now
  | .outcome i out => outcomeStep s i out
  | .pollTick => (s.poller.tick s.app.printers).map fun pc => ({ s with poller := pc }, [])
  | .pollAnswer status => (s.poller.answered status).map fun pc => ({ s with poller := pc }, [])
  | .poll => pollStep s
  | .mediaPost name form => some (mediaPostStep o s name form)
  | .mediaAnswer i refusal => mediaAnswerStep s i refusal
  | .media i => mediaStep s i

/-- The server as a machine. -/
def server : Machine System Action Event := ⟨step o⟩

/-- What the server is started with: the printers of the registry with their fresh UUIDs, and
    the names advertised, if there is an advertiser. -/
structure Deployment where
  host : String
  port : Nat
  printers : List (PrinterConfig × String)
  adverts : Adverts

/-- The server at its start: fresh records, no jobs, the registry saved. -/
def boot (d : Deployment) : System where
  app :=
    { host := d.host
      port := d.port
      printers := d.printers.map fun e => PrinterRecord.new e.1 e.2
      jobs := .new }
  workers := []
  cancels := []
  identifies := []
  poller := .waiting
  media := []
  adverts := d.adverts
  file := d.printers.map (·.1)

/-! ## 3. What each action does -/

section Inversion

variable {o} {s s' : System} {ev : List Event}

theorem step_cancelNext {i : Nat} {now : SystemTime}
    (h : step o s (.cancelNext i now) = some (s', ev)) :
    ∃ t, s.cancels[i]? = some t ∧
      ((∃ id todo, t.todo = id :: todo ∧ ev = [] ∧
          s' = { s with
            app := { s.app with jobs := (s.app.jobs.cancel now id).2 }
            cancels := s.cancels.set i { t with todo } }) ∨
        (t.todo = [] ∧ s' = { s with cancels := s.cancels.eraseIdx i } ∧
          ev = [.reply t.name t.body (respond o.crate t.version .successfulOk t.requestId)])) := by
  change cancelStep o s i now = some (s', ev) at h
  unfold cancelStep at h
  split at h
  · cases h
  · rename_i t ht
    refine ⟨t, ht, ?_⟩
    split at h
    · rename_i id todo htd
      cases h
      exact Or.inl ⟨id, todo, htd, rfl, rfl⟩
    · rename_i htd
      cases h
      exact Or.inr ⟨htd, rfl, rfl⟩

theorem step_identified {i : Nat} (h : step o s (.identified i) = some (s', ev)) :
    ∃ t, s.identifies[i]? = some t ∧ s' = { s with identifies := s.identifies.eraseIdx i } ∧
      ev = [.reply t.name t.body (respond o.crate t.version .successfulOk t.requestId)] := by
  change identifiedStep o s i = some (s', ev) at h
  unfold identifiedStep at h
  split at h
  · cases h
  · rename_i t ht
    cases h
    exact ⟨t, ht, rfl, rfl⟩

theorem step_worker {i : Nat} {now : SystemTime} (h : step o s (.worker i now) = some (s', ev)) :
    ∃ w w', s.workers[i]? = some w ∧
      w.next o.retryMs (s.app.jobs.isCanceled w.task.slot) (configs s.app.printers) = some w' ∧
      ev = w.events ∧
      s' = { s with
        app := { s.app with
          printers := w.pc.printersAfter w.task s.app.printers
          jobs := w.pc.jobsAfter w.task now s.app.jobs }
        workers := s.workers.set i w'
        file := w.pc.saves.getD s.file } := by
  change workerStep o s i now = some (s', ev) at h
  unfold workerStep at h
  split at h
  · cases h
  · rename_i w hw
    split at h
    · cases h
    · rename_i w' hn
      cases h
      exact ⟨w, w', hw, hn, rfl, rfl⟩

theorem step_outcome {i : Nat} {out : JobOutcome} (h : step o s (.outcome i out) = some (s', ev)) :
    ∃ w, s.workers[i]? = some w ∧ w.pc = .printing ∧ ev = [.outcome w.task.slot out] ∧
      s' = { s with workers := s.workers.set i { w with pc := .ofOutcome out } } := by
  change outcomeStep s i out = some (s', ev) at h
  unfold outcomeStep at h
  split at h
  · cases h
  · rename_i w hw
    split at h
    · rename_i hp
      cases h
      exact ⟨w, hw, hp, rfl, rfl⟩
    · cases h

theorem step_pollTick (h : step o s .pollTick = some (s', ev)) :
    s.poller = .waiting ∧ ev = [] ∧
      s' = { s with
        poller := .next ((s.app.printers.filter (·.pollable)).map (·.config)) false } := by
  obtain ⟨pc, hpc, e⟩ := Option.map_eq_some_iff.mp h
  cases hw : s.poller with
  | waiting =>
      rw [hw] at hpc
      cases hpc
      cases e
      exact ⟨rfl, rfl, rfl⟩
  | _ => rw [hw] at hpc; cases hpc

theorem step_pollAnswer {status : Option PollStatus}
    (h : step o s (.pollAnswer status) = some (s', ev)) :
    ∃ cfg todo changed pc, s.poller = .polling cfg todo changed ∧ ev = [] ∧
      s' = { s with poller := pc } ∧
      ((status = none ∧ pc = .next todo changed) ∨
        ∃ st, status = some st ∧ pc = .write cfg st todo changed) := by
  obtain ⟨pc, hpc, e⟩ := Option.map_eq_some_iff.mp h
  cases e
  cases hw : s.poller with
  | polling cfg todo changed =>
      rw [hw] at hpc
      refine ⟨cfg, todo, changed, pc, rfl, rfl, rfl, ?_⟩
      cases status with
      | none =>
          cases hpc
          exact Or.inl ⟨rfl, rfl⟩
      | some st =>
          cases hpc
          exact Or.inr ⟨st, rfl, rfl⟩
  | _ => rw [hw] at hpc; cases hpc

theorem step_poll (h : step o s .poll = some (s', ev)) :
    ∃ pc, s.poller.step s.adverts.isSome s.app.printers = some pc ∧ ev = s.poller.events ∧
      s' = { s with
        app := { s.app with printers := s.poller.printersAfter s.app.printers }
        adverts := s.poller.advertsAfter s.adverts
        file := s.poller.saves.getD s.file
        poller := pc } := by
  change pollStep s = some (s', ev) at h
  unfold pollStep at h
  split at h
  · cases h
  · rename_i pc hpc
    cases h
    exact ⟨pc, hpc, rfl, rfl⟩

theorem step_mediaPost {name : String} {form : MediaForm}
    (h : step o s (.mediaPost name form) = some (s', ev)) :
    s' = s ∨ ∃ pc, mediaStart o.hooked s.app.printers name form = .ok pc ∧
      s' = { s with media := s.media ++ [{ name, form, pc }] } := by
  have e := Option.some.inj h
  unfold mediaPostStep at e
  split at e
  · cases e
    exact Or.inl rfl
  · rename_i pc hpc
    cases e
    exact Or.inr ⟨pc, hpc, rfl⟩

theorem step_mediaAnswer {i : Nat} {refusal : Option String}
    (h : step o s (.mediaAnswer i refusal) = some (s', ev)) :
    ∃ t t' page, s.media[i]? = some t ∧ t.answered refusal = some (t', page) ∧
      s' = { s with media := s.media.set i t' } := by
  change mediaAnswerStep s i refusal = some (s', ev) at h
  unfold mediaAnswerStep at h
  split at h
  · cases h
  · rename_i t ht
    split at h
    · cases h
    · rename_i t' page hs
      cases h
      exact ⟨t, t', page, ht, hs, rfl⟩

theorem step_media {i : Nat} (h : step o s (.media i) = some (s', ev)) :
    ∃ t t' page, s.media[i]? = some t ∧ t.step s.app.printers = some (t', page) ∧
      s' = { s with
        app := { s.app with printers := t.printersAfter s.app.printers }
        file := t.saves.getD s.file
        media := s.media.set i t' } := by
  change mediaStep s i = some (s', ev) at h
  unfold mediaStep at h
  split at h
  · cases h
  · rename_i t ht
    split at h
    · cases h
    · rename_i t' page hs
      cases h
      exact ⟨t, t', page, ht, hs, rfl⟩

theorem step_request {clock : Clock} {name : String} {body : List UInt8}
    (h : step o s (.request clock name body) = some (s', ev)) :
    (∃ reply, gates o.crate s.app name body = .error reply ∧ s' = s ∧
        ev = [.reply name body reply]) ∨
    (∃ req record task, gates o.crate s.app name body = .ok (req, record) ∧
        operationOf o.crate req.operationOrStatus = .cancelMyJobs ∧ ev = [] ∧
        s' = { s with cancels := s.cancels ++ [task] }) ∨
    (∃ req record task, gates o.crate s.app name body = .ok (req, record) ∧
        operationOf o.crate req.operationOrStatus = .identifyPrinter ∧
        ev = [.identify record.config (extractIdentifyActions o.crate req)] ∧
        s' = { s with identifies := s.identifies ++ [task] }) ∨
    (∃ req record, gates o.crate s.app name body = .ok (req, record) ∧
        (operationOf o.crate req.operationOrStatus ≠ .cancelMyJobs ∧
          operationOf o.crate req.operationOrStatus ≠ .identifyPrinter) ∧
        s' = { s with
          app := (dispatch o.crate clock s.app name req record).app
          workers := s.workers ++
            ((dispatch o.crate clock s.app name req record).spawned.map PrintTask.spawn).toList } ∧
        ev = [.reply name body (dispatch o.crate clock s.app name req record).reply]) := by
  have e := Option.some.inj h
  unfold requestStep at e
  split at e
  · rename_i reply hg
    cases e
    exact Or.inl ⟨reply, hg, rfl, rfl⟩
  · rename_i req record hg
    split at e
    · rename_i hop
      cases e
      exact Or.inr (Or.inl ⟨req, record, _, hg, hop, rfl, rfl⟩)
    · rename_i hop
      split at e
      · rename_i hid
        cases e
        exact Or.inr (Or.inr (Or.inl ⟨req, record, _, hg, hid, rfl, rfl⟩))
      · rename_i hid
        cases e
        exact Or.inr (Or.inr (Or.inr ⟨req, record, hg, ⟨hop, hid⟩, rfl, rfl⟩))

/-- **Where an event comes from**: the action it belongs to and the state it was seen in. -/
inductive EventOf (o : Options) (s : System) : Action → Event → Prop where
  | refused (clock : Clock) (name : String) (body : List UInt8) (reply : Reply)
      (hg : gates o.crate s.app name body = .error reply) :
      EventOf o s (.request clock name body) (.reply name body reply)
  | identify (clock : Clock) (name : String) (body : List UInt8) (req : IppRequest)
      (record : PrinterRecord) (hg : gates o.crate s.app name body = .ok (req, record))
      (hop : operationOf o.crate req.operationOrStatus = .identifyPrinter) :
      EventOf o s (.request clock name body)
        (.identify record.config (extractIdentifyActions o.crate req))
  | replied (clock : Clock) (name : String) (body : List UInt8) (req : IppRequest)
      (record : PrinterRecord) (hg : gates o.crate s.app name body = .ok (req, record)) :
      EventOf o s (.request clock name body)
        (.reply name body (dispatch o.crate clock s.app name req record).reply)
  | canceled (i : Nat) (now : SystemTime) (t : CancelTask) (ht : s.cancels[i]? = some t) :
      EventOf o s (.cancelNext i now)
        (.reply t.name t.body (respond o.crate t.version .successfulOk t.requestId))
  | identified (i : Nat) (t : IdentifyTask) (ht : s.identifies[i]? = some t) :
      EventOf o s (.identified i)
        (.reply t.name t.body (respond o.crate t.version .successfulOk t.requestId))
  | printJob (i : Nat) (now : SystemTime) (w : Worker) (hw : s.workers[i]? = some w)
      (hp : w.pc = .call) :
      EventOf o s (.worker i now) (.printJob w.task.context w.task.payload w.task.copies)
  | outcome (i : Nat) (out : JobOutcome) (w : Worker) (hw : s.workers[i]? = some w)
      (hp : w.pc = .printing) : EventOf o s (.outcome i out) (.outcome w.task.slot out)
  | pollStatus (cfg : PrinterConfig) (todo : List PrinterConfig) (changed : Bool)
      (hp : s.poller = .next (cfg :: todo) changed) : EventOf o s .poll (.pollStatus cfg)
  | mediaHook (name : String) (form : MediaForm) :
      EventOf o s (.mediaPost name form) (.mediaHook name form.media)
  | page (a : Action) (name : String) (form : MediaForm) (page : Page) :
      EventOf o s a (.page name form page)

theorem step_event {a : Action} (h : step o s a = some (s', ev)) {e : Event} (he : e ∈ ev) :
    EventOf o s a e := by
  cases a with
  | request clock name body =>
      rcases step_request h with ⟨reply, hg, _, rfl⟩ | ⟨_, _, _, _, _, rfl, _⟩ |
        ⟨req, record, _, hg, hop, rfl, _⟩ | ⟨req, record, hg, _, _, rfl⟩
      · rw [List.mem_singleton.mp he]
        exact .refused clock name body reply hg
      · cases he
      · rw [List.mem_singleton.mp he]
        exact .identify clock name body req record hg hop
      · rw [List.mem_singleton.mp he]
        exact .replied clock name body req record hg
  | cancelNext i now =>
      obtain ⟨t, ht, ⟨_, _, _, rfl, _⟩ | ⟨_, _, rfl⟩⟩ := step_cancelNext h
      · cases he
      · rw [List.mem_singleton.mp he]
        exact .canceled i now t ht
  | identified i =>
      obtain ⟨t, ht, _, rfl⟩ := step_identified h
      rw [List.mem_singleton.mp he]
      exact .identified i t ht
  | worker i now =>
      obtain ⟨w, _, hw, _, rfl, _⟩ := step_worker h
      unfold Worker.events at he
      split at he
      · rename_i hp
        rw [List.mem_singleton.mp he]
        exact .printJob i now w hw hp
      · cases he
  | outcome i out =>
      obtain ⟨w, hw, hp, rfl, _⟩ := step_outcome h
      rw [List.mem_singleton.mp he]
      exact .outcome i out w hw hp
  | pollTick =>
      obtain ⟨_, rfl, _⟩ := step_pollTick h
      cases he
  | pollAnswer status =>
      obtain ⟨_, _, _, _, _, rfl, _⟩ := step_pollAnswer h
      cases he
  | poll =>
      obtain ⟨_, _, rfl, _⟩ := step_poll h
      unfold PollerPc.events at he
      split at he
      · rename_i cfg todo changed hp
        rw [List.mem_singleton.mp he]
        exact .pollStatus cfg todo changed hp
      · cases he
  | mediaPost name form =>
      have e := Option.some.inj h
      unfold mediaPostStep at e
      split at e
      · cases e
        rw [List.mem_singleton.mp he]
        exact .page _ name form _
      · cases e
        split at he
        · rw [List.mem_singleton.mp he]
          exact .mediaHook name form
        · cases he
  | mediaAnswer i refusal =>
      change mediaAnswerStep s i refusal = some (s', ev) at h
      unfold mediaAnswerStep at h
      split at h
      · cases h
      · split at h
        · cases h
        · cases h
          rw [Option.mem_toList] at he
          obtain ⟨page, _, rfl⟩ := Option.map_eq_some_iff.mp he
          exact .page _ _ _ page
  | media i =>
      change mediaStep s i = some (s', ev) at h
      unfold mediaStep at h
      split at h
      · cases h
      · split at h
        · cases h
        · cases h
          rw [Option.mem_toList] at he
          obtain ⟨page, _, rfl⟩ := Option.map_eq_some_iff.mp he
          exact .page _ _ _ page

end Inversion

/-! ## 4. Jobs and workers -/

/-- **What a step does to the jobs and the workers**, by action. -/
inductive JobsStep (o : Options) (s : System) : Action → JobRegistry → List Worker → Prop where
  | same (a : Action) : JobsStep o s a s.app.jobs s.workers
  | request (clock : Clock) (name : String) (body : List UInt8) (req : IppRequest)
      (record : PrinterRecord) (g : JobRegistry) (spawned : Option PrintTask)
      (hg : gates o.crate s.app name body = .ok (req, record))
      (h : JobsAfter o.crate clock s.app name req g spawned) :
      JobsStep o s (.request clock name body) g
        (s.workers ++ (spawned.map PrintTask.spawn).toList)
  | canceled (i : Nat) (now : SystemTime) (id : JobId) :
      JobsStep o s (.cancelNext i now) (s.app.jobs.cancel now id).2 s.workers
  | worked (i : Nat) (now : SystemTime) (w w' : Worker) (hw : s.workers[i]? = some w)
      (hn : w.next o.retryMs (s.app.jobs.isCanceled w.task.slot) (configs s.app.printers) =
        some w') :
      JobsStep o s (.worker i now) (w.pc.jobsAfter w.task now s.app.jobs) (s.workers.set i w')
  | returned (i : Nat) (out : JobOutcome) (w : Worker) (hw : s.workers[i]? = some w)
      (hp : w.pc = .printing) :
      JobsStep o s (.outcome i out) s.app.jobs
        (s.workers.set i { w with pc := .ofOutcome out })

section Jobs

variable {o} {s s' : System} {a : Action} {ev : List Event}

theorem step_jobs (h : step o s a = some (s', ev)) : JobsStep o s a s'.app.jobs s'.workers := by
  cases a with
  | request clock name body =>
      rcases step_request h with ⟨_, _, rfl, _⟩ | ⟨_, _, _, _, _, _, rfl⟩ |
        ⟨_, _, _, _, _, _, rfl⟩ | ⟨req, record, hg, hop, rfl, _⟩
      · exact .same _
      · exact .same _
      · exact .same _
      · exact .request clock name body req record _ _ hg
          (dispatch_jobs o.crate clock s.app name req record hop.1)
  | cancelNext i now =>
      obtain ⟨t, _, ⟨id, todo, _, _, rfl⟩ | ⟨_, rfl, _⟩⟩ := step_cancelNext h
      · exact .canceled i now id
      · exact .same _
  | identified i =>
      obtain ⟨_, _, rfl, _⟩ := step_identified h
      exact .same _
  | worker i now =>
      obtain ⟨w, w', hw, hn, _, rfl⟩ := step_worker h
      exact .worked i now w w' hw hn
  | outcome i out =>
      obtain ⟨w, hw, hp, _, rfl⟩ := step_outcome h
      exact .returned i out w hw hp
  | pollTick =>
      obtain ⟨_, _, rfl⟩ := step_pollTick h
      exact .same _
  | pollAnswer status =>
      obtain ⟨_, _, _, _, _, _, rfl, _⟩ := step_pollAnswer h
      exact .same _
  | poll =>
      obtain ⟨_, _, _, rfl⟩ := step_poll h
      exact .same _
  | mediaPost name form =>
      rcases step_mediaPost h with rfl | ⟨_, _, rfl⟩
      · exact .same _
      · exact .same _
  | mediaAnswer i refusal =>
      obtain ⟨_, _, _, _, _, rfl⟩ := step_mediaAnswer h
      exact .same _
  | media i =>
      obtain ⟨_, _, _, _, _, rfl⟩ := step_media h
      exact .same _

/-- The registry only grows. -/
theorem step_jobs_length (h : step o s a = some (s', ev)) :
    s.app.jobs.jobs.length ≤ s'.app.jobs.jobs.length := by
  have hj := step_jobs h
  generalize s'.app.jobs = g at hj ⊢
  generalize s'.workers = ws at hj
  cases hj with
  | same => exact Nat.le_refl _
  | request _ _ _ _ _ _ _ _ ha =>
      cases ha with
      | same => exact Nat.le_refl _
      | created => rw [JobRegistry.create_length]; exact Nat.le_succ _
      | printed => rw [JobRegistry.create_length]; exact Nat.le_succ _
      | sent => exact Nat.le_refl _
      | canceled => exact Nat.le_of_eq (JobRegistry.update_length ..).symm
  | canceled => exact Nat.le_of_eq (JobRegistry.update_length ..).symm
  | worked i now w w' hw hn =>
      unfold WorkerPc.jobsAfter
      split
      · exact Nat.le_of_eq (JobRegistry.update_length ..).symm
      · exact Nat.le_refl _
  | returned => exact Nat.le_refl _

theorem step_wf (hwf : s.app.jobs.Wf) (h : step o s a = some (s', ev)) : s'.app.jobs.Wf := by
  have hcancel : ∀ now id, (s.app.jobs.cancel now id).2.Wf := fun now id =>
    JobRegistry.update_wf hwf (fun j => JobOp.apply_id .cancel now j) id
  have hj := step_jobs h
  generalize s'.app.jobs = g at hj ⊢
  generalize s'.workers = ws at hj
  cases hj with
  | same => exact hwf
  | request clock _ _ _ _ _ _ _ ha =>
      cases ha with
      | same => exact hwf
      | created => exact JobRegistry.create_wf hwf _ _ _
      | printed => exact JobRegistry.create_wf hwf _ _ _
      | sent => exact hwf
      | canceled id => exact hcancel clock.now id
  | canceled i now id => exact hcancel now id
  | worked i now w w' hw hn =>
      unfold WorkerPc.jobsAfter
      split
      · exact JobRegistry.update_wf hwf (fun j => JobOp.apply_id _ now j) _
      · exact hwf
  | returned => exact hwf

/-- **Ids follow positions in every state a run reaches.** -/
theorem run_wf {G : System → Action → Prop} {d : Deployment} {tr : List Event}
    (h : Run (server o) G (boot d) tr s) : s.app.jobs.Wf :=
  Run.always (I := fun s => s.app.jobs.Wf) JobRegistry.new_wf
    (fun _ _ _ _ hwf _ hs => step_wf hwf hs) h

/-- How a step changes one job: not at all, by a cancel, or by the write of a worker whose id
    refers to it. -/
inductive JobChange (s : System) (a : Action) (k : Nat) (j : JobRecord) : JobRecord → Prop where
  | same : JobChange s a k j j
  | canceled (now : SystemTime) : JobChange s a k j (j.withCancel now)
  | worked (i : Nat) (now : SystemTime) (w : Worker) (op : JobOp) (ha : a = .worker i now)
      (hw : s.workers[i]? = some w) (hop : w.pc.jobOp = some op)
      (hk : s.app.jobs.slotOf w.task.id = k) : JobChange s a k j (op.apply now j)

/-- A cancel, seen from one job. -/
theorem cancel_change {now : SystemTime} {id : JobId} {k : Nat} {j : JobRecord}
    (hk : s.app.jobs.jobs[k]? = some j) :
    ∃ j', (s.app.jobs.cancel now id).2.jobs[k]? = some j' ∧ JobChange s a k j j' := by
  have e := JobRegistry.update_getElem? s.app.jobs id (·.withCancel now) k
  rw [hk] at e
  by_cases hs : s.app.jobs.slotOf id = k
  · rw [if_pos hs] at e
    exact ⟨j.withCancel now, e, .canceled now⟩
  · rw [if_neg hs] at e
    exact ⟨j, e, .same⟩

/-- **A job's next record**, whatever the step. -/
theorem JobsStep.change {g : JobRegistry} {ws : List Worker} (h : JobsStep o s a g ws) {k : Nat}
    {j : JobRecord} (hk : s.app.jobs.jobs[k]? = some j) :
    ∃ j', g.jobs[k]? = some j' ∧ JobChange s a k j j' := by
  have hlt : k < s.app.jobs.jobs.length := (List.getElem?_eq_some_iff.mp hk).1
  cases h with
  | same => exact ⟨j, hk, .same⟩
  | request clock name _ req _ _ _ _ ha =>
      cases ha with
      | same => exact ⟨j, hk, .same⟩
      | created =>
          exact ⟨j, (JobRegistry.create_getElem?_old clock.now name (requestingUser req) hlt).trans hk,
            .same⟩
      | printed =>
          exact ⟨j, (JobRegistry.create_getElem?_old clock.now name (requestingUser req) hlt).trans hk,
            .same⟩
      | sent => exact ⟨j, hk, .same⟩
      | canceled => exact cancel_change hk
  | canceled => exact cancel_change hk
  | worked i now w w' hw hn =>
      have e := WorkerPc.jobsAfter_getElem? w.pc w.task now s.app.jobs k
      rw [hk] at e
      by_cases hs : s.app.jobs.slotOf w.task.id = k
      · refine ⟨w.pc.jobAfter now j, e.trans (if_pos hs), ?_⟩
        cases hop : w.pc.jobOp with
        | none =>
            rw [WorkerPc.jobAfter_none hop]
            exact .same
        | some op =>
            rw [WorkerPc.jobAfter_some hop]
            exact .worked i now w op rfl hw hop hs
      · exact ⟨j, e.trans (if_neg hs), .same⟩
  | returned => exact ⟨j, hk, .same⟩

/-- **What a worker's write leaves**: the job its id refers to, as written. -/
theorem step_worker_writes {i : Nat} {now : SystemTime} {w : Worker} {op : JobOp} {j : JobRecord}
    (h : step o s (.worker i now) = some (s', ev)) (hw : s.workers[i]? = some w)
    (hop : w.pc.jobOp = some op) (hj : s.app.jobs.get w.task.id = some j) :
    s.app.jobs.jobs[s.app.jobs.slotOf w.task.id]? = some j ∧
      s'.app.jobs.jobs[s.app.jobs.slotOf w.task.id]? = some (op.apply now j) := by
  have hk : s.app.jobs.jobs[s.app.jobs.slotOf w.task.id]? = some j := by
    rw [← JobRegistry.get_eq_getElem?]
    exact hj
  obtain ⟨w₁, w', hw₁, _, _, rfl⟩ := step_worker h
  have e : w₁ = w := Option.some.inj (hw₁.symm.trans hw)
  subst e
  have hafter := WorkerPc.jobsAfter_getElem? w₁.pc w₁.task now s.app.jobs
    (s.app.jobs.slotOf w₁.task.id)
  rw [if_pos rfl, hk, Option.map_some, WorkerPc.jobAfter_some hop] at hafter
  exact ⟨hk, hafter⟩

/-- Every worker has a job: the one at its slot, with its id. -/
def TaskJobs (g : JobRegistry) (ws : List Worker) : Prop :=
  ∀ w ∈ ws, ∃ j, g.jobs[w.task.slot]? = some j ∧ j.id = w.task.id

theorem JobChange.id_eq {k : Nat} {j j' : JobRecord} (h : JobChange s a k j j') : j'.id = j.id := by
  cases h with
  | same => rfl
  | canceled now => exact JobOp.apply_id .cancel now j
  | worked i now w op => exact JobOp.apply_id op now j

/-- **The rule for what holds of every worker's task**: a step keeps it if it keeps it of a task
    that is there, and it holds of the one that a request spawns. -/
theorem JobsStep.tasks {P : JobRegistry → PrintTask → Prop} {g : JobRegistry} {ws : List Worker}
    (h : JobsStep o s a g ws) (hkeep : ∀ task, P s.app.jobs task → P g task)
    (hspawn : ∀ clock name body req record task, a = .request clock name body →
      gates o.crate s.app name body = .ok (req, record) →
      JobsAfter o.crate clock s.app name req g (some task) → P g task)
    (hall : ∀ w ∈ s.workers, P s.app.jobs w.task) : ∀ w ∈ ws, P g w.task := by
  have hold : ∀ w ∈ s.workers, P g w.task := fun w hw => hkeep w.task (hall w hw)
  -- a moved worker has the task of one that was there before
  have hset : ∀ i w w', s.workers[i]? = some w → w'.task = w.task →
      ∀ u ∈ s.workers.set i w', P g u.task := by
    intro i w w' hw htask u hu
    rcases Pool.mem_set hu with hu | rfl
    · exact hold u hu
    · rw [htask]
      exact hold w (List.mem_of_getElem? hw)
  cases h with
  | same => exact hold
  | request clock name body req record _ spawned hg ha =>
      intro w hw
      rcases List.mem_append.mp hw with hw | hw
      · exact hold w hw
      · rw [Option.mem_toList] at hw
        obtain ⟨task, rfl, rfl⟩ := Option.map_eq_some_iff.mp hw
        exact hspawn clock name body req record task rfl hg ha
  | canceled => exact hold
  | worked i now w w' hw hn => exact hset i w w' hw (Worker.next_task hn)
  | returned i out w hw hp => exact hset i w _ hw rfl

theorem JobsStep.taskJobs {g : JobRegistry} {ws : List Worker} (h : JobsStep o s a g ws)
    (ht : TaskJobs s.app.jobs s.workers) : TaskJobs g ws := by
  refine h.tasks (P := fun g task => ∃ j, g.jobs[task.slot]? = some j ∧ j.id = task.id) ?_ ?_ ht
  · intro task ⟨j, hk, hid⟩
    obtain ⟨j', hk', hc⟩ := h.change hk
    exact ⟨j', hk', hc.id_eq.trans hid⟩
  · intro clock name body req record task _ _ ha
    cases ha with
    | printed payload hp =>
        exact ⟨_, JobRegistry.create_getElem?_new s.app.jobs clock.now name (requestingUser req),
          rfl⟩
    | sent id job payload hop hld hid hj hp hne =>
        exact ⟨job, (JobRegistry.get_eq_getElem? s.app.jobs id).symm.trans hj, rfl⟩

/-- **Every worker of a run has its job.** -/
theorem run_taskJobs {G : System → Action → Prop} {d : Deployment} {tr : List Event}
    (h : Run (server o) G (boot d) tr s) : TaskJobs s.app.jobs s.workers :=
  Run.always (I := fun s => TaskJobs s.app.jobs s.workers) (fun w hw => by cases hw)
    (fun _ _ _ _ ht _ hs => (step_jobs hs).taskJobs ht) h

/-- A worker's id refers to its own job while fewer than 2^32 jobs exist. -/
theorem TaskJobs.slotOf {g : JobRegistry} {ws : List Worker} (ht : TaskJobs g ws) (hwf : g.Wf)
    (hlt : g.jobs.length < 2 ^ 32) {w : Worker} (hw : w ∈ ws) :
    g.slotOf w.task.id = w.task.slot := by
  obtain ⟨j, hj, hid⟩ := ht w hw
  rw [← hid]
  exact JobRegistry.slotOf_id hwf hlt hj

theorem run_length {G : System → Action → Prop} {s₀ : System} {tr : List Event}
    (h : Run (server o) G s₀ tr s) : s₀.app.jobs.jobs.length ≤ s.app.jobs.jobs.length :=
  Run.always (I := fun s => s₀.app.jobs.jobs.length ≤ s.app.jobs.jobs.length) (Nat.le_refl _)
    (fun _ _ _ _ hle _ hs => Nat.le_trans hle (step_jobs_length hs)) h

/-- **The invariant rule for jobs and their workers**: a relation that holds at the start and
    that every guarded step keeps, holds in every guarded run that creates fewer than 2^32 jobs.
    The step may use that ids refer to their own jobs. -/
theorem run_jobs_from {G : System → Action → Prop} {I : JobRegistry → List Worker → Prop}
    {s₀ : System} {tr : List Event} (ht₀ : TaskJobs s₀.app.jobs s₀.workers)
    (hwf₀ : s₀.app.jobs.Wf) (h₀ : I s₀.app.jobs s₀.workers)
    (hstep : ∀ s a g ws, JobsStep o s a g ws → G s a → TaskJobs s.app.jobs s.workers →
      s.app.jobs.Wf → s.app.jobs.jobs.length < 2 ^ 32 → I s.app.jobs s.workers → I g ws)
    (h : Run (server o) G s₀ tr s) (hlt : s.app.jobs.jobs.length < 2 ^ 32) :
    I s.app.jobs s.workers := by
  have hall : TaskJobs s.app.jobs s.workers ∧ s.app.jobs.Wf ∧
      (s.app.jobs.jobs.length < 2 ^ 32 → I s.app.jobs s.workers) := by
    refine Run.always (I := fun s => TaskJobs s.app.jobs s.workers ∧ s.app.jobs.Wf ∧
      (s.app.jobs.jobs.length < 2 ^ 32 → I s.app.jobs s.workers)) ?_ ?_ h
    · exact ⟨ht₀, hwf₀, fun _ => h₀⟩
    · intro r a r' ev' ⟨ht, hwf, hI⟩ hg hs
      have hj := step_jobs hs
      refine ⟨hj.taskJobs ht, step_wf hwf hs, fun hlt' => ?_⟩
      have hlt'' := Nat.lt_of_le_of_lt (step_jobs_length hs) hlt'
      exact hstep r a _ _ hj hg ht hwf hlt'' (hI hlt'')
  exact hall.2.2 hlt

/-- The same from the start of the server. -/
theorem run_jobs {G : System → Action → Prop} {I : JobRegistry → List Worker → Prop}
    {d : Deployment} {tr : List Event} (h₀ : I .new [])
    (hstep : ∀ s a g ws, JobsStep o s a g ws → G s a → TaskJobs s.app.jobs s.workers →
      s.app.jobs.Wf → s.app.jobs.jobs.length < 2 ^ 32 → I s.app.jobs s.workers → I g ws)
    (h : Run (server o) G (boot d) tr s) (hlt : s.app.jobs.jobs.length < 2 ^ 32) :
    I s.app.jobs s.workers :=
  run_jobs_from (fun w hw => by cases hw) JobRegistry.new_wf h₀ hstep h hlt

/-- The workers of the job at a position. -/
def workersOf (k : Nat) (ws : List Worker) : List Worker :=
  Pool.tasksOf (fun w => w.task.slot) k ws

section WorkersOf

variable {ws : List Worker} {k i : Nat} {w w' : Worker}

theorem workersOf_spawn_own (ws : List Worker) (task : PrintTask) :
    workersOf task.slot (ws ++ [task.spawn]) = workersOf task.slot ws ++ [task.spawn] :=
  Pool.tasksOf_append_own rfl

theorem workersOf_spawn_other {task : PrintTask} (hk : task.slot ≠ k) :
    workersOf k (ws ++ [task.spawn]) = workersOf k ws := Pool.tasksOf_append_other hk

/-- A worker that moves, among the workers of its job. -/
theorem workersOf_set_own (hw : ws[i]? = some w) (ht : w'.task = w.task) :
    ∃ before after, workersOf w.task.slot ws = before ++ w :: after ∧
      workersOf w.task.slot (ws.set i w') = before ++ w' :: after :=
  Pool.tasksOf_set_own hw rfl (by rw [ht])

theorem workersOf_set_other (hw : ws[i]? = some w) (ht : w'.task = w.task)
    (hk : w.task.slot ≠ k) : workersOf k (ws.set i w') = workersOf k ws :=
  Pool.tasksOf_set_other hw hk (by rw [ht]; exact hk)

end WorkersOf

/-- A job that does not exist yet has no worker. -/
theorem TaskJobs.workersOf_length {g : JobRegistry} {ws : List Worker} (ht : TaskJobs g ws)
    {k : Nat} (hk : g.jobs.length ≤ k) : workersOf k ws = [] := by
  refine List.eq_nil_iff_forall_not_mem.mpr fun w hw => ?_
  obtain ⟨hmem, hslot⟩ := Pool.mem_tasksOf.mp hw
  obtain ⟨j, hj, _⟩ := ht w hmem
  have hlt := (List.getElem?_eq_some_iff.mp hj).1
  rw [hslot] at hlt
  omega

/-- A relation between a job and its workers holds of every job. -/
def EachJob (P : JobRecord → List Worker → Prop) (g : JobRegistry) (ws : List Worker) : Prop :=
  ∀ (k : Nat) (j : JobRecord), g.jobs[k]? = some j → P j (workersOf k ws)

/-- What such a relation has to survive in a step: the creation of a job, a cancel, a worker more,
    an access of one of its workers, and the return of a callback. -/
structure Survives (P : JobRecord → List Worker → Prop) (o : Options) (s : System) (a : Action) :
    Prop where
  created : ∀ now name owner, P (s.app.jobs.create now name owner).1 []
  canceled : ∀ now j ws, P j ws → P (j.withCancel now) ws
  spawned : ∀ task j ws, P j ws → P j (ws ++ [PrintTask.spawn task])
  worked : ∀ i now w w' j before after, a = .worker i now → s.workers[i]? = some w →
    s.app.jobs.jobs[w.task.slot]? = some j →
    w.next o.retryMs j.cancelFlag (configs s.app.printers) = some w' →
    P j (before ++ w :: after) → P (w.pc.jobAfter now j) (before ++ w' :: after)
  returned : ∀ out w j before after, w.pc = .printing → P j (before ++ w :: after) →
    P j (before ++ { w with pc := .ofOutcome out } :: after)

section EachJob

variable {P : JobRecord → List Worker → Prop} {g : JobRegistry} {ws : List Worker}

theorem EachJob.create (h : EachJob P g ws) (ht : TaskJobs g ws) {now : SystemTime}
    {p u : String} (hnew : P (g.create now p u).1 []) : EachJob P (g.create now p u).2 ws := by
  intro k j hk
  rcases JobRegistry.create_getElem?_cases hk with hold | ⟨rfl, rfl⟩
  · exact h k j hold
  · rw [ht.workersOf_length (Nat.le_refl _)]
    exact hnew

theorem EachJob.cancel (h : EachJob P g ws)
    (hc : ∀ now j ws, P j ws → P (j.withCancel now) ws) (now : SystemTime) (id : JobId) :
    EachJob P (g.cancel now id).2 ws := by
  intro k j' hk
  have hk' := (JobRegistry.update_getElem? g id (·.withCancel now) k).symm.trans hk
  split at hk'
  · obtain ⟨j, hj, rfl⟩ := Option.map_eq_some_iff.mp hk'
    exact hc now j _ (h k j hj)
  · exact h k j' hk'

theorem EachJob.spawn (h : EachJob P g ws)
    (hs : ∀ task j ws, P j ws → P j (ws ++ [PrintTask.spawn task])) (task : PrintTask) :
    EachJob P g (ws ++ [task.spawn]) := by
  intro k j hk
  by_cases hslot : task.slot = k
  · subst hslot
    rw [workersOf_spawn_own]
    exact hs task j _ (h _ j hk)
  · rw [workersOf_spawn_other hslot]
    exact h k j hk

/-- **The rule for a job and its workers**: what survives a step holds of every job after it. -/
theorem JobsStep.eachJob (h : JobsStep o s a g ws) (hP : Survives P o s a)
    (ht : TaskJobs s.app.jobs s.workers) (hwf : s.app.jobs.Wf)
    (hlt : s.app.jobs.jobs.length < 2 ^ 32) (hs : EachJob P s.app.jobs s.workers) :
    EachJob P g ws := by
  cases h with
  | same => exact hs
  | request clock name _ req _ _ _ _ ha =>
      have hnew := hs.create ht (hP.created clock.now name (requestingUser req))
      cases ha with
      | same => simpa using hs
      | created => simpa using hnew
      | printed => exact hnew.spawn hP.spawned _
      | sent => exact hs.spawn hP.spawned _
      | canceled id => simpa using hs.cancel hP.canceled clock.now id
  | canceled i now id => exact hs.cancel hP.canceled now id
  | worked i now w w' hw hn =>
      have hslot := ht.slotOf hwf hlt (List.mem_of_getElem? hw)
      have htask : w'.task = w.task := Worker.next_task hn
      intro k j' hk
      rw [WorkerPc.jobsAfter_getElem?, hslot] at hk
      by_cases hkw : w.task.slot = k
      · -- the worker's own job: its record and its position change together
        subst hkw
        rw [if_pos rfl] at hk
        obtain ⟨j, hj, rfl⟩ := Option.map_eq_some_iff.mp hk
        obtain ⟨before, after, h₁, h₂⟩ := workersOf_set_own hw htask
        have hold := hs _ j hj
        rw [h₁] at hold
        rw [h₂]
        rw [JobRegistry.isCanceled_eq hj] at hn
        exact hP.worked i now w w' j before after rfl hw hj hn hold
      · -- any other job: neither it nor its workers change
        rw [if_neg hkw] at hk
        rw [workersOf_set_other hw htask hkw]
        exact hs k j' hk
  | returned i out w hw hp =>
      intro k j hk
      have hold := hs k j hk
      have htask : ({ w with pc := .ofOutcome out } : Worker).task = w.task := rfl
      by_cases hkw : w.task.slot = k
      · subst hkw
        obtain ⟨before, after, h₁, h₂⟩ := workersOf_set_own hw htask
        rw [h₁] at hold
        rw [h₂]
        exact hP.returned out w j before after hp hold
      · rw [workersOf_set_other hw htask hkw]
        exact hold

/-- **The same over runs** that create fewer than 2^32 jobs. -/
theorem run_eachJob {G : System → Action → Prop} {d : Deployment} {tr : List Event}
    (hP : ∀ s a, G s a → Survives P o s a) (h : Run (server o) G (boot d) tr s)
    (hlt : s.app.jobs.jobs.length < 2 ^ 32) : EachJob P s.app.jobs s.workers := by
  refine run_jobs ?_ (fun r b _ _ hj hg ht hwf hlt hs => hj.eachJob (hP r b hg) ht hwf hlt hs) h hlt
  intro k j hk
  cases hk

end EachJob

end Jobs

/-! ## 5. Printers -/

/-- **What a step does to the printers**, by action. -/
inductive PrintersStep (s : System) : Action → PrinterRegistry → Prop where
  | same (a : Action) : PrintersStep s a s.app.printers
  | worked (i : Nat) (now : SystemTime) (w : Worker) (hw : s.workers[i]? = some w) :
      PrintersStep s (.worker i now) (w.pc.printersAfter w.task s.app.printers)
  | polled : PrintersStep s .poll (s.poller.printersAfter s.app.printers)
  | loaded (i : Nat) (t : MediaTask) (ht : s.media[i]? = some t) :
      PrintersStep s (.media i) (t.printersAfter s.app.printers)

/-- The actions that may write a printer. -/
def Action.writesPrinters : Action → Bool
  | .worker .. => true
  | .poll => true
  | .media _ => true
  | _ => false

section Printers

variable {o} {s s' : System} {a : Action} {ev : List Event}

theorem step_printers (h : step o s a = some (s', ev)) : PrintersStep s a s'.app.printers := by
  cases a with
  | request clock name body =>
      rcases step_request h with ⟨_, _, rfl, _⟩ | ⟨_, _, _, _, _, _, rfl⟩ |
        ⟨_, _, _, _, _, _, rfl⟩ | ⟨req, record, _, _, rfl, _⟩
      · exact .same _
      · exact .same _
      · exact .same _
      · show PrintersStep s _ (dispatch o.crate clock s.app name req record).app.printers
        rw [dispatch_frame]
        exact .same _
  | cancelNext i now =>
      obtain ⟨t, _, ⟨id, todo, _, _, rfl⟩ | ⟨_, rfl, _⟩⟩ := step_cancelNext h
      · exact .same _
      · exact .same _
  | identified i =>
      obtain ⟨_, _, rfl, _⟩ := step_identified h
      exact .same _
  | worker i now =>
      obtain ⟨w, w', hw, _, _, rfl⟩ := step_worker h
      exact .worked i now w hw
  | outcome i out =>
      obtain ⟨_, _, _, _, rfl⟩ := step_outcome h
      exact .same _
  | pollTick =>
      obtain ⟨_, _, rfl⟩ := step_pollTick h
      exact .same _
  | pollAnswer status =>
      obtain ⟨_, _, _, _, _, _, rfl, _⟩ := step_pollAnswer h
      exact .same _
  | poll =>
      obtain ⟨_, _, _, rfl⟩ := step_poll h
      exact .polled
  | mediaPost name form =>
      rcases step_mediaPost h with rfl | ⟨_, _, rfl⟩
      · exact .same _
      · exact .same _
  | mediaAnswer i refusal =>
      obtain ⟨_, _, _, _, _, rfl⟩ := step_mediaAnswer h
      exact .same _
  | media i =>
      obtain ⟨t, _, _, ht, _, rfl⟩ := step_media h
      exact .loaded i t ht

/-- All other actions leave the printers alone. -/
theorem step_printers_same (h : step o s a = some (s', ev)) (ha : a.writesPrinters = false) :
    s'.app.printers = s.app.printers := by
  have hp := step_printers h
  generalize s'.app.printers = ps at hp ⊢
  cases hp with
  | same => rfl
  | worked => cases ha
  | polled => cases ha
  | loaded => cases ha

/-- The printers' names never change. -/
theorem step_names (h : step o s a = some (s', ev)) :
    s'.app.printers.map (·.config.name) = s.app.printers.map (·.config.name) := by
  have hp := step_printers h
  generalize s'.app.printers = ps at hp ⊢
  cases hp with
  | same => rfl
  | worked i now w hw =>
      have hc := w.pc.configs_printersAfter w.task s.app.printers
      have hn := congrArg (List.map PrinterConfig.name) hc
      unfold configs at hn
      rw [List.map_map, List.map_map] at hn
      exact hn
  | polled => exact PollerPc.printersAfter_names s.poller s.app.printers
  | loaded i t ht => exact MediaTask.printersAfter_names t s.app.printers

end Printers

/-! ## 6. A small deployment to run

Two printers and a handful of requests as they stand on the wire, with what the parser makes of
them. -/

namespace Trial

/-- A length or a code in two octets. -/
def octets16 (n : Nat) : List UInt8 := [UInt8.ofNat (n / 256), UInt8.ofNat n]

/-- The value tag and the octets of a value. -/
def valueOctets : IppValue → UInt8 × List UInt8
  | .integer n => (0x21, octets16 (asU32 n / 2 ^ 16) ++ octets16 (asU32 n))
  | .boolean b => (0x22, [if b then 1 else 0])
  | .nameWithoutLanguage s => (0x42, ascii s.val)
  | .uri s => (0x45, ascii s.val)
  | .charset s => (0x47, ascii s.val)
  | .naturalLanguage s => (0x48, ascii s.val)
  | _ => (0x13, [])

/-- An attribute on the wire. -/
def attributeOctets (name : String) (v : IppValue) : List UInt8 :=
  (valueOctets v).1 :: octets16 name.length ++ ascii name ++
    octets16 (valueOctets v).2.length ++ (valueOctets v).2

/-- The attributes every message starts with. -/
def preamble : List (String × IppValue) :=
  [("attributes-charset", .charset ⟨"utf-8", by decide⟩),
    ("attributes-natural-language", .naturalLanguage ⟨"en", by decide⟩)]

/-- A message with its wire form: the operation's code, its attributes, its payload. -/
structure Message where
  code : Nat
  attributes : List (String × IppValue)
  payload : List UInt8

namespace Message

def operationAttributes (m : Message) : List (String × IppValue) :=
  preamble ++ ("printer-uri", .uri ⟨"ipp://localhost:8631/ipp/print/p", by decide⟩) :: m.attributes

/-- IPP 2.0, request id 7, one group. -/
def body (m : Message) : List UInt8 :=
  [2, 0] ++ octets16 m.code ++ [0, 0, 0, 7] ++ [1] ++
    m.operationAttributes.flatMap (fun e => attributeOctets e.1 e.2) ++ [3] ++ m.payload

def request (m : Message) : IppRequest where
  version := 0x0200
  requestId := 7
  operationOrStatus := m.code
  groups := [⟨.operationAttributes, .ofList m.operationAttributes⟩]
  payload := .ok m.payload

end Message

def user (name : String) (h : name.utf8ByteSize ≤ 255 := by decide) : String × IppValue :=
  ("requesting-user-name", .nameWithoutLanguage ⟨name, h⟩)

def jobId (n : Int) : String × IppValue := ("job-id", .integer n)

def lastDocument : String × IppValue := ("last-document", .boolean true)

def print : Message := ⟨0x0002, [user "ann"], [65]⟩
def create : Message := ⟨0x0005, [user "ann"], []⟩
def send : Message := ⟨0x0006, [jobId 1, lastDocument], [66]⟩
def sendEmpty : Message := ⟨0x0006, [jobId 1, lastDocument], []⟩
def close : Message := ⟨0x003b, [jobId 1], []⟩
def cancel : Message := ⟨0x0008, [jobId 1], []⟩
def cancelMine : Message := ⟨0x0039, [user "bob"], []⟩
def cancelOwn : Message := ⟨0x0039, [user "ann"], []⟩
def cancelUnknown : Message := ⟨0x0008, [jobId 9], []⟩
def identify : Message := ⟨0x003c, [user "ann"], []⟩

/-- A crate that parses these messages. -/
def crate : IppCrate where
  parse body :=
    match [print, create, send, sendEmpty, close, cancel, cancelMine, cancelOwn,
        cancelUnknown, identify].find? fun m => m.body == body with
    | some m => .ok m.request
    | none => .error "invalid tag"
  newResponse version status requestId :=
    .ok { version, status, requestId, groups := [⟨.operationAttributes, .ofList preamble⟩] }
  intoIter
    | .array vs => vs
    | v => [v]
  otherOperation _ := none

theorem crate_buildsResponses : crate.BuildsResponses := fun _ _ _ => ⟨_, rfl, rfl, rfl, rfl⟩

def options : Options := { crate, retryMs := none, hooked := false }

/-- A printer with one loaded medium. -/
def config (name : String) : PrinterConfig where
  name
  displayName := ""
  driverName := "label"
  makeAndModel := "Label Printer"
  deviceId := ""
  deviceUri := "usb://label"
  dpi := 203
  printheadWidthDots := 384
  mediaNames := ["om_50x30mm_50x30mm"]
  mediaSizes := [(5000, 3000)]
  mediaSizeMin := (1000, 1000)
  mediaSizeMax := (6000, 9000)
  darkness := 0
  documentFormats := ["image/pwg-raster"]

def deployment : Deployment where
  host := "localhost"
  port := 8631
  printers := [(config "p", "uuid-p"), (config "q", "uuid-q")]
  adverts := none

def clock : Clock := { now := 1000000000, uptime := 1 }

/-- A message sent to a printer. -/
def post (name : String) (m : Message) : Action := .request clock name m.body

/-- The same action several times over. -/
def times (n : Nat) (a : Action) : List Action := List.replicate n a

end Trial

end IppPrinterApp
