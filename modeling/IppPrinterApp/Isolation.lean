/-
  File:      IppPrinterApp/Isolation.lean
  Subject:   What a request to one printer learns of, and does to, the jobs of the others.

  The jobs of all printers stand in one registry, and Get-Jobs and Cancel-My-Jobs pick those of
  the printer they came to. The operations that name a job by its id do not: Close-Job,
  Send-Document, Get-Job-Attributes and Cancel-Job take whatever job the id refers to.

  A request is isolated when the handler does on the whole registry what it does on the registry
  without the other printers' jobs (`only`), and leaves these alone.

  * `dispatch_isolated`: **an operation that names no other printer's job is isolated**, operation
    by operation;
  * `ownTargets_of_reply`: its reply alone tells that it is not, while ids find their own jobs;
  * `requests_isolated`: both, and that a run of such requests hands each document to the print
    callback under a job of the printer it came to. `other_printers_job_canceled` is a request
    that is not isolated.
-/
import IppPrinterApp.Refusals
import IppPrinterApp.CancelMyJobs

namespace IppPrinterApp

open FirstMatch Transition

/-! ## 1. The registry, seen from one printer -/

namespace JobRegistry

/-- The registry without the jobs of other printers. -/
def only (p : String) (g : JobRegistry) : JobRegistry := { g with jobs := g.jobsForPrinter p }

/-- The jobs of the other printers. -/
def others (p : String) (g : JobRegistry) : List JobRecord :=
  g.jobs.filter fun j => j.printerName != p

/-- The id refers to a job of the printer, if to any. -/
def Refers (g : JobRegistry) (p : String) (id : JobId) : Prop :=
  ∀ j ∈ g.get id, j.printerName = p

instance (g : JobRegistry) (p : String) (id : JobId) : Decidable (g.Refers p id) := by
  unfold Refers
  infer_instance

section Only

variable {g : JobRegistry} {p : String} {id : JobId}

@[simp] theorem only_jobsForPrinter : (g.only p).jobsForPrinter p = g.jobsForPrinter p := by
  unfold only jobsForPrinter
  rw [List.filter_filter]
  simp only [Bool.and_self]

theorem Refers.hit (h : g.Refers p id) :
    ∀ j, (g.jobs.find? fun j => j.id == id) = some j → (j.printerName == p) = true :=
  fun j hj => beq_iff_eq.mpr (h j hj)

/-- **An id that refers to a job of the printer, or to none, finds the same without the others.** -/
theorem Refers.get_only (h : g.Refers p id) : (g.only p).get id = g.get id :=
  find?_filter_of_hit h.hit

/-- The id of another printer's job finds nothing without it. -/
theorem get_only_other (hwf : g.Wf) (hlt : g.jobs.length < 2 ^ 32) {j : JobRecord}
    (hj : g.get id = some j) (hp : j.printerName ≠ p) : (g.only p).get id = none := by
  refine List.find?_eq_none.mpr fun i hi hid => ?_
  obtain ⟨hmem, hip⟩ := mem_jobsForPrinter.mp hi
  obtain ⟨k, hk⟩ := List.mem_iff_getElem?.mp hmem
  have hself := get_self hwf hlt hk
  rw [beq_iff_eq.mp hid, hj] at hself
  cases hself
  exact hp hip

theorem only_create (now : SystemTime) (u : String) :
    (g.create now p u).2.only p = ((g.only p).create now p u).2 := by
  unfold create only jobsForPrinter
  simp only [List.filter_append, List.filter_singleton, beq_self_eq_true, cond_true]

theorem others_create (now : SystemTime) (u : String) :
    (g.create now p u).2.others p = g.others p := by
  unfold create others
  simp only [List.filter_append, List.filter_singleton, bne_self_eq_false, cond_false,
    List.append_nil]

theorem Refers.only_cancel (h : g.Refers p id) (now : SystemTime) :
    (g.cancel now id).2.only p = ((g.only p).cancel now id).2 := by
  have hf := filter_updateFirst (p := fun j : JobRecord => j.id == id)
    (f := fun j => j.withCancel now) (q := fun j => j.printerName == p)
    (fun j => by rw [JobRecord.withCancel_printerName]) g.jobs h.hit
  unfold cancel update only jobsForPrinter
  dsimp only
  rw [hf]

theorem Refers.others_cancel (h : g.Refers p id) (now : SystemTime) :
    (g.cancel now id).2.others p = g.others p :=
  filter_updateFirst_miss (fun j => by rw [JobRecord.withCancel_printerName]) g.jobs
    fun j hj => by simpa using h.hit j hj

/-- A cancel leaves it open to no id to refer to another printer's job. -/
theorem refers_cancel (now : SystemTime) (id' : JobId) :
    (g.cancel now id').2.Refers p id ↔ g.Refers p id := by
  have hget : (g.cancel now id').2.get id =
      if g.slotOf id' = g.slotOf id then (g.get id).map (·.withCancel now) else g.get id := by
    rw [get_eq_getElem?, slotOf_cancel, get_eq_getElem?]
    exact update_getElem? g id' _ _
  unfold Refers
  rw [hget]
  by_cases hs : g.slotOf id' = g.slotOf id
  · rw [if_pos hs]
    constructor
    · intro h j hj
      rw [← JobRecord.withCancel_printerName now j]
      exact h _ (Option.mem_map_of_mem _ hj)
    · intro h j hj
      obtain ⟨i, hi, rfl⟩ := Option.map_eq_some_iff.mp hj
      rw [JobRecord.withCancel_printerName]
      exact h i hi
  · rw [if_neg hs]

/-- The loop of Cancel-My-Jobs, seen from the printer and from the others. -/
theorem cancelAll_isolated (now : SystemTime) {ids : List JobId} {g : JobRegistry}
    (h : ∀ id ∈ ids, g.Refers p id) :
    (g.cancelAll now ids).only p = (g.only p).cancelAll now ids ∧
      (g.cancelAll now ids).others p = g.others p := by
  induction ids generalizing g with
  | nil => exact ⟨rfl, rfl⟩
  | cons id ids ih =>
      have hid := h id List.mem_cons_self
      have hrest : ∀ i ∈ ids, (g.cancel now id).2.Refers p i := fun i hi =>
        (refers_cancel now id).mpr (h i (List.mem_cons_of_mem id hi))
      obtain ⟨hown, hothers⟩ := ih hrest
      constructor
      · rw [hid.only_cancel now] at hown
        exact hown
      · rw [hid.others_cancel now] at hothers
        exact hothers

end Only

end JobRegistry

/-- The server's state without the jobs of other printers. -/
def AppState.only (p : String) (app : AppState) : AppState := { app with jobs := app.jobs.only p }

/-! ## 2. Isolated requests -/

/-- The task but for the position of its job. -/
def PrintTask.unplaced (t : PrintTask) : PrintTask := { t with slot := 0 }

/-- What was done on the whole state (`h`) is what was done without the other printers' jobs
    (`h'`), these jobs are as they were, and the document goes to a job of the printer. -/
structure Isolated (p : String) (app : AppState) (h h' : Handled) : Prop where
  reply : h.reply = h'.reply
  own : h.app.only p = h'.app
  others : h.app.jobs.others p = app.jobs.others p
  identified : h.identified = h'.identified
  spawned : h.spawned.map PrintTask.unplaced = h'.spawned.map PrintTask.unplaced
  document : ∀ t ∈ h.spawned, ∃ j, h.app.jobs.jobs[t.slot]? = some j ∧ j.printerName = p

/-- The jobs a request picks by an id are jobs of the printer it came to. Send-Document looks for
    its job only when it has a `last-document`. -/
def OwnTargets (x : IppCrate) (g : JobRegistry) (p : String) (req : IppRequest) : Prop :=
  match operationOf x req.operationOrStatus with
  | .closeJob | .getJobAttributes | .cancelJob => ∀ id ∈ extractJobId req, g.Refers p id
  | .sendDocument =>
    hasOperationAttr req "last-document" = true → ∀ id ∈ extractJobId req, g.Refers p id
  | .cancelMyJobs => ∀ j ∈ g.jobsForPrinter p, g.Refers p j.id
  | _ => True

instance (x : IppCrate) (g : JobRegistry) (p : String) (req : IppRequest) :
    Decidable (OwnTargets x g p req) := by
  unfold OwnTargets
  cases operationOf x req.operationOrStatus <;> dsimp only <;> infer_instance

section Operations

variable {x : IppCrate} {clock : Clock} {app : AppState} {p : String} {req : IppRequest}
  {record : PrinterRecord}

theorem isolated_answer (reply : Reply) :
    Isolated p app (app.answer reply) ((app.only p).answer reply) where
  reply := rfl
  own := rfl
  others := rfl
  identified := rfl
  spawned := rfl
  document := fun t ht => absurd ht (Option.not_mem_none t)

theorem closeJob_isolated (h : ∀ id ∈ extractJobId req, app.jobs.Refers p id) :
    Isolated p app (closeJob x app req) (closeJob x (app.only p) req) := by
  unfold closeJob
  cases hid : extractJobId req with
  | none => exact isolated_answer _
  | some id =>
      have hget : (app.only p).jobs.get id = app.jobs.get id := (h id hid).get_only
      dsimp only [Option.bind_some]
      rw [hget]
      exact isolated_answer _

theorem cancelMyJobs_isolated (h : ∀ j ∈ app.jobs.jobsForPrinter p, app.jobs.Refers p j.id) :
    Isolated p app (cancelMyJobs x clock app p req) (cancelMyJobs x clock (app.only p) p req) := by
  have hids : ∀ id ∈ (app.jobs.jobsForPrinter p).map (·.id), app.jobs.Refers p id := by
    intro id hid
    obtain ⟨j, hj, rfl⟩ := List.mem_map.mp hid
    exact h j hj
  obtain ⟨hown, hothers⟩ := JobRegistry.cancelAll_isolated clock.now hids
  have hjobs := cancelMyJobs_jobs x clock app p req
  have hjobs' := cancelMyJobs_jobs x clock (app.only p) p req
  constructor
  · rfl
  · show ({ app with jobs := (cancelMyJobs x clock app p req).app.jobs.only p } : AppState) =
      { app with jobs := (cancelMyJobs x clock (app.only p) p req).app.jobs }
    have hlist : (app.only p).jobs.jobsForPrinter p = app.jobs.jobsForPrinter p :=
      JobRegistry.only_jobsForPrinter
    rw [hjobs, hjobs', hlist, hown]
    rfl
  · rw [hjobs]
    exact hothers
  · rfl
  · rfl
  · exact fun t ht => absurd ht (Option.not_mem_none t)

theorem printJob_isolated :
    Isolated p app (printJob x clock app p req record)
      (printJob x clock (app.only p) p req record) := by
  have hown := JobRegistry.only_create (g := app.jobs) (p := p) clock.now (requestingUser req)
  have hothers := JobRegistry.others_create (g := app.jobs) (p := p) clock.now (requestingUser req)
  unfold printJob
  cases req.payload with
  | error e => exact isolated_answer _
  | ok payload =>
      dsimp only
      cases hb : printJobAccepted x req.version req.requestId
          (app.jobs.create clock.now p (requestingUser req)).1
          (record.config.printerUri app.host app.port) with
      | error e =>
          -- the created job does not depend on the jobs before it
          have hb' : printJobAccepted x req.version req.requestId
              ((app.only p).jobs.create clock.now p (requestingUser req)).1
              (record.config.printerUri (app.only p).host (app.only p).port) = .error e := hb
          rw [hb']
          exact ⟨rfl, congrArg (fun g => { app with jobs := g }) hown, hothers, rfl, rfl,
            fun t ht => absurd ht (Option.not_mem_none t)⟩
      | ok accepted =>
          have hb' : printJobAccepted x req.version req.requestId
              ((app.only p).jobs.create clock.now p (requestingUser req)).1
              (record.config.printerUri (app.only p).host (app.only p).port) = .ok accepted := hb
          rw [hb']
          refine ⟨rfl, congrArg (fun g => { app with jobs := g }) hown, hothers, rfl, rfl, ?_⟩
          intro t ht
          cases ht
          exact ⟨_, JobRegistry.create_getElem?_new app.jobs clock.now p (requestingUser req), rfl⟩

theorem createJob_isolated :
    Isolated p app (createJob x clock app p req record)
      (createJob x clock (app.only p) p req record) where
  reply := rfl
  own := congrArg (fun g => { app with jobs := g })
    (JobRegistry.only_create (g := app.jobs) (p := p) clock.now (requestingUser req))
  others := JobRegistry.others_create (g := app.jobs) clock.now (requestingUser req)
  identified := rfl
  spawned := rfl
  document := fun t ht => absurd ht (Option.not_mem_none t)

theorem sendDocument_isolated
    (h : hasOperationAttr req "last-document" = true →
      ∀ id ∈ extractJobId req, app.jobs.Refers p id) :
    Isolated p app (sendDocument x clock app p req record)
      (sendDocument x clock (app.only p) p req record) := by
  unfold sendDocument
  cases hl : hasOperationAttr req "last-document" with
  | false => exact isolated_answer _
  | true =>
      cases hid : extractJobId req with
      | none => exact isolated_answer _
      | some id =>
          have href := h hl id hid
          have hget : (app.only p).jobs.get id = app.jobs.get id := href.get_only
          rw [if_neg (by decide), if_neg (by decide)]
          dsimp only
          rw [hget]
          cases hg : app.jobs.get id with
          | none => exact isolated_answer _
          | some job =>
              cases req.payload with
              | error e => exact isolated_answer _
              | ok payload =>
                  cases payload with
                  | nil =>
                      exact ⟨rfl, rfl, rfl, rfl, rfl,
                        fun t ht => absurd ht (Option.not_mem_none t)⟩
                  | cons b bs =>
                      refine ⟨rfl, rfl, rfl, rfl, rfl, fun t ht => ?_⟩
                      cases ht
                      exact ⟨job, (JobRegistry.get_eq_getElem? app.jobs id).symm.trans hg,
                        href job hg⟩

theorem getJobs_isolated :
    Isolated p app (getJobs x clock app p req record)
      (getJobs x clock (app.only p) p req record) := by
  have hlist : (app.only p).jobs.jobsForPrinter p = app.jobs.jobsForPrinter p :=
    JobRegistry.only_jobsForPrinter
  unfold getJobs
  rw [hlist]
  exact isolated_answer _

theorem getJobAttributes_isolated (h : ∀ id ∈ extractJobId req, app.jobs.Refers p id) :
    Isolated p app (getJobAttributes x clock app req record)
      (getJobAttributes x clock (app.only p) req record) := by
  unfold getJobAttributes
  cases hid : extractJobId req with
  | none => exact isolated_answer _
  | some id =>
      have hget : (app.only p).jobs.get id = app.jobs.get id := (h id hid).get_only
      dsimp only
      rw [hget]
      cases app.jobs.get id with
      | none => exact isolated_answer _
      | some job => exact isolated_answer _

theorem cancelJob_isolated (h : ∀ id ∈ extractJobId req, app.jobs.Refers p id) :
    Isolated p app (cancelJob x clock app req) (cancelJob x clock (app.only p) req) := by
  unfold cancelJob
  cases hid : extractJobId req with
  | none => exact isolated_answer _
  | some id =>
      have href := h id hid
      have hstate : ((app.only p).jobs.cancel clock.now id).1 = (app.jobs.cancel clock.now id).1 :=
        congrArg (Option.map fun j : JobRecord => (j.withCancel clock.now).state) href.get_only
      dsimp only
      rw [hstate]
      exact ⟨rfl, congrArg (fun g => { app with jobs := g }) (href.only_cancel clock.now),
        href.others_cancel clock.now, rfl, rfl,
        fun t ht => absurd ht (Option.not_mem_none t)⟩

/-- **An operation that names no other printer's job is isolated.** -/
theorem dispatch_isolated (h : OwnTargets x app.jobs p req) :
    Isolated p app (dispatch x clock app p req record)
      (dispatch x clock (app.only p) p req record) := by
  unfold OwnTargets at h
  unfold dispatch
  cases hop : operationOf x req.operationOrStatus with
  | closeJob => rw [hop] at h; exact closeJob_isolated h
  | cancelMyJobs => rw [hop] at h; exact cancelMyJobs_isolated h
  | identifyPrinter =>
      exact ⟨rfl, rfl, rfl, rfl, rfl, fun t ht => absurd ht (Option.not_mem_none t)⟩
  | getPrinterAttributes => exact isolated_answer _
  | validateJob => exact isolated_answer _
  | printJob => exact printJob_isolated
  | createJob => exact createJob_isolated
  | sendDocument => rw [hop] at h; exact sendDocument_isolated h
  | getJobs => exact getJobs_isolated
  | getJobAttributes => rw [hop] at h; exact getJobAttributes_isolated h
  | cancelJob => rw [hop] at h; exact cancelJob_isolated h
  | unsupported op => exact isolated_answer _
  | unknown => exact isolated_answer _

end Operations

/-! ## 3. What a reply gives away -/

section Replies

variable {x : IppCrate} {clock : Clock} {app : AppState} {p : String} {req : IppRequest}
  {record : PrinterRecord} {id : JobId} {j : JobRecord}

/-- Responses with different statuses differ. -/
theorem respond_injective (hx : x.BuildsResponses) {version : IppVersion} {st st' : IppStatus}
    {requestId : Nat}
    (h : respond x version st requestId = respond x version st' requestId) : st = st' := by
  obtain ⟨r, hr, hst⟩ := respond_ok hx version st requestId
  obtain ⟨r', hr', hst'⟩ := respond_ok hx version st' requestId
  rw [hr, hr'] at h
  cases h
  exact hst.symm.trans hst'

theorem closeJob_reveals (hx : x.BuildsResponses) (hid : extractJobId req = some id)
    (hg : app.jobs.get id = some j) (hnone : (app.only p).jobs.get id = none) :
    (closeJob x app req).reply ≠ (closeJob x (app.only p) req).reply := by
  unfold closeJob
  rw [hid, Option.bind_some, Option.bind_some, hg, hnone]
  intro h
  cases respond_injective hx h

theorem sendDocument_reveals (hx : x.BuildsResponses)
    (hl : hasOperationAttr req "last-document" = true) (hid : extractJobId req = some id)
    (hg : app.jobs.get id = some j) (hnone : (app.only p).jobs.get id = none) :
    (sendDocument x clock app p req record).reply ≠
      (sendDocument x clock (app.only p) p req record).reply := by
  unfold sendDocument
  rw [hl, if_neg (by decide), if_neg (by decide), hid]
  dsimp only
  rw [hg, hnone]
  dsimp only
  cases req.payload with
  | error e =>
      intro h
      have hst : 400 = 404 := (Reply.err.inj h).1
      cases hst
  | ok payload =>
      intro h
      have hacc := (accepts_buildJobAttrsResponse hx req.version req.requestId j
        (record.config.printerUri app.host app.port) none clock).not_refuses
      dsimp only at h
      rw [h] at hacc
      exact hacc trivial

theorem getJobAttributes_reveals (hx : x.BuildsResponses) (hid : extractJobId req = some id)
    (hg : app.jobs.get id = some j) (hnone : (app.only p).jobs.get id = none) :
    (getJobAttributes x clock app req record).reply ≠
      (getJobAttributes x clock (app.only p) req record).reply := by
  unfold getJobAttributes
  rw [hid]
  dsimp only
  rw [hg, hnone]
  intro h
  have hacc := (accepts_buildJobAttrsResponse hx req.version req.requestId j
    (record.config.printerUri app.host app.port)
    (effectiveFilter (extractRequestedAttributes x req) []) clock).not_refuses
  have h' : Reply.ofBuilt (buildJobAttrsResponse x req.version req.requestId j
      (record.config.printerUri app.host app.port)
      (effectiveFilter (extractRequestedAttributes x req) []) clock) =
    .err 404 s!"job not found: {id}" := h
  rw [h'] at hacc
  exact hacc trivial

theorem cancelJob_reveals (hx : x.BuildsResponses) (hid : extractJobId req = some id)
    (hg : app.jobs.get id = some j) (hnone : (app.only p).jobs.get id = none) :
    (cancelJob x clock app req).reply ≠ (cancelJob x clock (app.only p) req).reply := by
  unfold cancelJob JobRegistry.cancel
  rw [hid]
  dsimp only
  rw [hg, hnone]
  intro h
  have hst := respond_injective hx h
  dsimp only [Option.map_some, Option.map_none] at hst
  split at hst
  · rename_i e
    cases e
  · cases hst
  · cases hst

/-- **An operation that answers as if the other printers' jobs were not there has named none of
    them**, while ids find their own jobs. -/
theorem ownTargets_of_reply (hx : x.BuildsResponses) (hwf : app.jobs.Wf)
    (hlt : app.jobs.jobs.length < 2 ^ 32)
    (h : (dispatch x clock app p req record).reply =
      (dispatch x clock (app.only p) p req record).reply) : OwnTargets x app.jobs p req := by
  have hgone : ∀ {id j}, app.jobs.get id = some j → j.printerName ≠ p →
      (app.only p).jobs.get id = none := fun hg hp => JobRegistry.get_only_other hwf hlt hg hp
  unfold OwnTargets
  unfold dispatch at h
  cases hop : operationOf x req.operationOrStatus with
  | closeJob =>
      rw [hop] at h
      intro id hid j hg
      by_contra hp
      exact closeJob_reveals hx hid hg (hgone hg hp) h
  | cancelMyJobs =>
      intro j hj i hi
      obtain ⟨hmem, hp⟩ := mem_jobsForPrinter.mp hj
      obtain ⟨k, hk⟩ := List.mem_iff_getElem?.mp hmem
      rw [JobRegistry.get_self hwf hlt hk] at hi
      cases hi
      exact hp
  | sendDocument =>
      rw [hop] at h
      intro hl id hid j hg
      by_contra hp
      exact sendDocument_reveals hx hl hid hg (hgone hg hp) h
  | getJobAttributes =>
      rw [hop] at h
      intro id hid j hg
      by_contra hp
      exact getJobAttributes_reveals hx hid hg (hgone hg hp) h
  | cancelJob =>
      rw [hop] at h
      intro id hid j hg
      by_contra hp
      exact cancelJob_reveals hx hid hg (hgone hg hp) h
  | _ => trivial

end Replies

/-! ## 4. Requests and runs of requests -/

/-- A request that passes the gates names no other printer's job. -/
def TargetsOwn (o : Options) (s : System) : Action → Prop
  | .request _ p body => ∀ e ∈ admitted o.crate s.app p body, OwnTargets o.crate s.app.jobs p e.1
  | _ => True

instance (o : Options) : DecidableRel (TargetsOwn o)
  | _, .request .. | _, .cancelNext .. | _, .identified _ | _, .worker .. | _, .outcome ..
  | _, .pollTick | _, .pollAnswer .. | _, .poll | _, .mediaPost .. | _, .mediaAnswer ..
  | _, .media .. => by
    unfold TargetsOwn
    infer_instance

/-- The handler on the whole state against the handler without the other printers' jobs. -/
def RequestIsolated (o : Options) (s : System) (clock : Clock) (p : String) (body : List UInt8) :
    Prop :=
  Isolated p s.app (handleIpp o.crate clock s.app p body)
    (handleIpp o.crate clock (s.app.only p) p body)

section Requests

variable {o : Options} {s : System} {clock : Clock} {p : String} {body : List UInt8}

/-- The gates do not look at the jobs. -/
theorem gates_only (x : IppCrate) (app : AppState) (p : String) (body : List UInt8) :
    gates x (app.only p) p body = gates x app p body := rfl

theorem requestIsolated_of_targetsOwn (h : TargetsOwn o s (.request clock p body)) :
    RequestIsolated o s clock p body := by
  unfold RequestIsolated handleIpp
  rw [gates_only]
  cases hg : gates o.crate s.app p body with
  | error reply => exact isolated_answer reply
  | ok e =>
      obtain ⟨req, record⟩ := e
      exact dispatch_isolated (h _ (mem_admitted.mpr hg))

theorem targetsOwn_of_requestIsolated (hx : o.crate.BuildsResponses) (hwf : s.app.jobs.Wf)
    (hlt : s.app.jobs.jobs.length < 2 ^ 32) (h : RequestIsolated o s clock p body) :
    TargetsOwn o s (.request clock p body) := by
  intro e he
  obtain ⟨req, record⟩ := e
  have hg := mem_admitted.mp he
  have hreply := h.reply
  unfold handleIpp at hreply
  rw [gates_only, hg] at hreply
  exact ownTargets_of_reply hx hwf hlt hreply

/-- The job at a position is one of the printer. -/
def JobRegistry.BelongsTo (g : JobRegistry) (slot : Nat) (id : JobId) (p : String) : Prop :=
  ∃ j, g.jobs[slot]? = some j ∧ j.id = id ∧ j.printerName = p

/-- A step moves no job to another printer. -/
theorem JobsStep.belongsTo {a : Action} {g : JobRegistry} {ws : List Worker}
    (h : JobsStep o s a g ws) {slot : Nat} {id : JobId}
    (hb : s.app.jobs.BelongsTo slot id p) : g.BelongsTo slot id p := by
  obtain ⟨j, hj, hid, hp⟩ := hb
  obtain ⟨j', hj', hc⟩ := h.change hj
  refine ⟨j', hj', hc.id_eq.trans hid, ?_⟩
  cases hc with
  | same => exact hp
  | canceled now => exact (JobOp.apply_printerName .cancel now j).trans hp
  | worked i now w op => exact (op.apply_printerName now j).trans hp

/-- Every worker prints a job of its printer. -/
def TasksOwn (g : JobRegistry) (ws : List Worker) : Prop :=
  ∀ w ∈ ws, g.BelongsTo w.task.slot w.task.id w.task.printerName

theorem JobsStep.tasksOwn {a : Action} {g : JobRegistry} {ws : List Worker}
    (h : JobsStep o s a g ws) (hg : TargetsOwn o s a)
    (ht : TasksOwn s.app.jobs s.workers) : TasksOwn g ws := by
  refine h.tasks (P := fun g task => g.BelongsTo task.slot task.id task.printerName)
    (fun _ hb => h.belongsTo hb) ?_ ht
  intro clock name body req record task ha hgates hafter
  subst ha
  cases hafter with
  | printed payload hp =>
      exact ⟨_, JobRegistry.create_getElem?_new s.app.jobs clock.now name (requestingUser req), rfl,
        rfl⟩
  | sent id job payload hop hld hid hj hp hne =>
      have hown := hg _ (mem_admitted.mpr hgates)
      unfold OwnTargets at hown
      rw [hop] at hown
      exact ⟨job, (JobRegistry.get_eq_getElem? s.app.jobs id).symm.trans hj, rfl,
        hown hld id hid job hj⟩

/-- The calls of the print callback were for jobs of the printers they named. -/
def PrintsOwn (tr : List Event) (g : JobRegistry) : Prop :=
  ∀ ctx payload copies, Event.printJob ctx payload copies ∈ tr →
    g.BelongsTo ctx.slot ctx.id ctx.printerName

/-- **A run of requests that name no other printer's job prints every document under a job of the
    printer it came to.** -/
theorem run_printsOwn {d : Deployment} {tr : List Event}
    (h : Run (server o) (TargetsOwn o) (boot d) tr s) : PrintsOwn tr s.app.jobs := by
  have hall : TasksOwn s.app.jobs s.workers ∧ PrintsOwn tr s.app.jobs := by
    refine Run.invariant
      (I := fun tr s => TasksOwn s.app.jobs s.workers ∧ PrintsOwn tr s.app.jobs) ?_ ?_ h
    · exact ⟨fun w hw => absurd hw List.not_mem_nil, fun _ _ _ he => by cases he⟩
    · intro tr s a s' ev ⟨ht, hp⟩ hg hs
      have hj := step_jobs hs
      refine ⟨hj.tasksOwn hg ht, fun ctx payload copies he => ?_⟩
      rcases List.mem_append.mp he with he | he
      · exact hj.belongsTo (hp ctx payload copies he)
      · cases step_event hs he with
        | printJob i now w hw hpc => exact hj.belongsTo (ht w (List.mem_of_getElem? hw))
  exact hall.2

end Requests

/-- **Requests are isolated exactly when they name no other printer's job.** In a reachable state,
    a request that names none is isolated, and while ids find their own jobs an isolated request
    names none; a run of such requests prints every document under a job of the printer it came
    to. -/
theorem requests_isolated {o : Options} (hx : o.crate.BuildsResponses) (d : Deployment) :
    (∀ tr s, Run (server o) anyStep (boot d) tr s → ∀ clock p body,
      (TargetsOwn o s (.request clock p body) → RequestIsolated o s clock p body) ∧
      (s.app.jobs.jobs.length < 2 ^ 32 → RequestIsolated o s clock p body →
        TargetsOwn o s (.request clock p body))) ∧
    (∀ tr s, Run (server o) (TargetsOwn o) (boot d) tr s → PrintsOwn tr s.app.jobs) := by
  constructor
  · intro tr s hrun clock p body
    exact ⟨requestIsolated_of_targetsOwn, fun hlt h =>
      targetsOwn_of_requestIsolated hx (run_wf hrun) hlt h⟩
  · intro tr s hrun
    exact run_printsOwn hrun

/-- Create-Job on the second printer, nothing more. -/
def createdElsewhere : System :=
  endOf (server Trial.options) (TargetsOwn Trial.options) (boot Trial.deployment)
    [Trial.post "q" Trial.create]

set_option maxRecDepth 8000 in
/-- Cancel-Job on the job's own printer. -/
theorem requests_isolated_own :
    RequestIsolated Trial.options createdElsewhere Trial.clock "q" Trial.cancel.body := by
  have hrun : Run (server Trial.options) (TargetsOwn Trial.options) (boot Trial.deployment) _
      createdElsewhere := run_endOf (by decide +kernel)
  have h := requests_isolated (o := Trial.options) Trial.crate_buildsResponses Trial.deployment
  exact ((h.1 _ _ hrun.any Trial.clock "q" Trial.cancel.body).1 (by decide +kernel))

set_option maxRecDepth 8000 in
/-- Cancel-Job, sent to the first printer, cancels the job of the second. -/
theorem other_printers_job_canceled :
    ¬ ∀ (o : Options) (d : Deployment) (tr : List Event) (s : System) (clock : Clock) (p : String)
        (body : List UInt8), o.crate.BuildsResponses → Run (server o) anyStep (boot d) tr s →
        RequestIsolated o s clock p body := by
  intro h
  have hrun : Run (server Trial.options) (TargetsOwn Trial.options) (boot Trial.deployment) _
      createdElsewhere := run_endOf (by decide +kernel)
  have hiso := h Trial.options Trial.deployment _ createdElsewhere Trial.clock "p"
    Trial.cancel.body Trial.crate_buildsResponses hrun.any
  have hkept := hiso.others
  have hlost : (handleIpp Trial.crate Trial.clock createdElsewhere.app "p"
      Trial.cancel.body).app.jobs.others "p" ≠ createdElsewhere.app.jobs.others "p" := by
    decide +kernel
  exact hlost hkept

end IppPrinterApp
