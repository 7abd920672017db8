/-
  File:      IppPrinterApp/HandleIpp.lean
  Subject:   One IPP request from body to reply (`handle_ipp`, server.rs).

  `handleIpp` is `gates` -- parsing, version, attribute order, request id, target, printer --
  followed by `dispatch`, whose arms are the operations, one definition each. What a request does
  is a `Handled`: the registries afterwards, the print worker it spawns, the identify call it
  makes, and the reply. The arms follow the source's order of effects, so an arm that fails after
  an effect keeps the effect.

  * `gates_ok` -- what a request that passes the gates looks like;
  * `dispatch_jobs` -- **what an operation does to the jobs**: nothing, a creation, a creation with
    a worker, a worker for an existing job, or one cancel; only Cancel-My-Jobs does more.
-/
import IppPrinterApp.Attributes

namespace IppPrinterApp

/-! ## 1. State, replies, outcome of a request -/

/-- `AppState`: what the request handlers share. The callbacks and the state path are in the
    machine around it (`System`). -/
structure AppState where
  host : String
  port : Nat
  printers : PrinterRegistry
  jobs : JobRegistry
  deriving DecidableEq, Repr

/-- What comes back over HTTP: an encoded response with status 200, an error status with a text,
    or no answer because the handler panicked. -/
inductive Reply where
  | ok (resp : IppResponse)
  | err (status : Nat) (message : String)
  | panic (what : String)

/-- The reply carries a successful IPP status. -/
def Reply.Successful : Reply → Prop
  | .ok resp => resp.status = .successfulOk
  | _ => False

instance : DecidablePred Reply.Successful := fun r => by
  cases r <;> unfold Reply.Successful <;> infer_instance

/-- The handler answers, and with something else than a successful IPP status. -/
def Reply.Refuses : Reply → Prop
  | .ok resp => resp.status ≠ .successfulOk
  | .err _ _ => True
  | .panic _ => False

instance : DecidablePred Reply.Refuses := fun r => by
  cases r <;> unfold Reply.Refuses <;> infer_instance

/-- The arguments of `spawn_print_worker`. `slot` is the position of the job's registry entry,
    whose cancel flag the worker's clone of the record shares. -/
structure PrintTask where
  printerName : String
  id : JobId
  slot : Nat
  payload : List UInt8
  copies : Nat
  documentFormat : String
  printQuality : Option Nat
  deriving DecidableEq, Repr

/-- What a request did. -/
structure Handled where
  app : AppState
  spawned : Option PrintTask
  identified : Option (PrinterConfig × List String)
  reply : Reply

/-- A reply without any effect. -/
def AppState.answer (app : AppState) (reply : Reply) : Handled :=
  { app, spawned := none, identified := none, reply }

/-- The `?` and `map_err` of the handler: a builder's error is an internal server error. -/
def Reply.ofBuilt : Except Fault IppResponse → Reply
  | .ok resp => .ok resp
  | .error (.error e) => .err 500 e
  | .error (.panic what) => .panic what

/-- An empty response with a status. -/
def respond (x : IppCrate) (version : IppVersion) (status : IppStatus) (requestId : Nat) : Reply :=
  .ofBuilt (newResponse x version status requestId)

section Respond

variable {x : IppCrate} (hx : x.BuildsResponses) (version : IppVersion) (status : IppStatus)
  (requestId : Nat)
include hx

theorem respond_ok : ∃ r, respond x version status requestId = .ok r ∧ r.status = status := by
  obtain ⟨r, hr, _, hst, _⟩ := hx version status requestId
  refine ⟨r, ?_, hst⟩
  unfold respond newResponse
  rw [hr]
  rfl

theorem respond_successful :
    (respond x version status requestId).Successful ↔ status = .successfulOk := by
  obtain ⟨r, hr, hst⟩ := respond_ok hx version status requestId
  rw [hr, ← hst]
  exact Iff.rfl

theorem respond_refuses :
    (respond x version status requestId).Refuses ↔ status ≠ .successfulOk := by
  obtain ⟨r, hr, hst⟩ := respond_ok hx version status requestId
  rw [hr, ← hst]
  exact Iff.rfl

end Respond

/-! ## 2. The operations -/

/-- The operations the handler tells apart, the three raw-dispatched ones first. -/
inductive Operation where
  | closeJob
  | cancelMyJobs
  | identifyPrinter
  | getPrinterAttributes
  | validateJob
  | printJob
  | createJob
  | sendDocument
  | getJobs
  | getJobAttributes
  | cancelJob
  | unsupported (name : String)
  | unknown
  deriving DecidableEq, Repr

/-- The operation of a code (`match op_code`, then `Operation::from_u16`). -/
def operationOf (x : IppCrate) : Nat → Operation
  | 0x003b => .closeJob
  | 0x0039 => .cancelMyJobs
  | 0x003c => .identifyPrinter
  | 0x000b => .getPrinterAttributes
  | 0x0004 => .validateJob
  | 0x0002 => .printJob
  | 0x0005 => .createJob
  | 0x0006 => .sendDocument
  | 0x000a => .getJobs
  | 0x0009 => .getJobAttributes
  | 0x0008 => .cancelJob
  | code =>
    match x.otherOperation code with
    | some name => .unsupported name
    | none => .unknown

section Arms

variable (x : IppCrate) (clock : Clock) (app : AppState) (name : String) (req : IppRequest)
  (record : PrinterRecord)

/-- Close-Job: an acknowledgement, if the job exists. -/
def closeJob : Handled :=
  let status : IppStatus := match (extractJobId req).bind app.jobs.get with
    | some _ => .successfulOk
    | none => .clientErrorNotFound
  app.answer (respond x req.version status req.requestId)

/-- Cancel-My-Jobs: the jobs of the printer are listed, then canceled one after the other. -/
def cancelMyJobs : Handled :=
  let jobs := (app.jobs.jobsForPrinter name).foldl
    (fun g j => (g.cancel clock.now j.id).2) app.jobs
  { app with jobs }.answer (respond x req.version .successfulOk req.requestId)

/-- Identify-Printer. -/
def identifyPrinter : Handled :=
  { app, spawned := none
    identified := some (record.config, extractIdentifyActions x req)
    reply := respond x req.version .successfulOk req.requestId }

/-- The task of a job's worker, as Print-Job and Send-Document fill it in. -/
def printTask (id : JobId) (slot : Nat) (payload : List UInt8) : PrintTask :=
  { printerName := name, id, slot, payload
    copies := extractCopies req
    documentFormat := extractDocumentFormat req
    printQuality := extractPrintQuality req }

/-- Print-Job: the payload is read, the job created and answered for, the worker spawned. -/
def printJob : Handled :=
  match req.payload with
  | .error e => app.answer (.err 400 e)
  | .ok payload =>
    let created := app.jobs.create clock.now name (requestingUser req)
    let app' := { app with jobs := created.2 }
    match printJobAccepted x req.version req.requestId created.1
        (record.config.printerUri app.host app.port) with
    | .error e => app'.answer (.ofBuilt (.error e))
    | .ok accepted =>
      { app := app'
        spawned := some (printTask name req created.1.id app.jobs.jobs.length payload)
        identified := none
        reply := .ok accepted }

/-- Create-Job: a job without a document. -/
def createJob : Handled :=
  let created := app.jobs.create clock.now name (requestingUser req)
  { app with jobs := created.2 }.answer
    (.ofBuilt (printJobAccepted x req.version req.requestId created.1
      (record.config.printerUri app.host app.port)))

/-- Send-Document: a worker for the job unless the document is empty, then the job's attributes
    as they were looked up. -/
def sendDocument : Handled :=
  if !hasOperationAttr req "last-document" then
    app.answer (respond x req.version .clientErrorBadRequest req.requestId)
  else
    match extractJobId req with
    | none => app.answer (.err 400 "Send-Document missing job-id")
    | some jobId =>
      match app.jobs.get jobId with
      | none => app.answer (.err 404 s!"job not found: {jobId}")
      | some job =>
        match req.payload with
        | .error e => app.answer (.err 400 e)
        | .ok payload =>
          { app
            spawned := if payload.isEmpty then none
              else some (printTask name req job.id (app.jobs.slotOf jobId) payload)
            identified := none
            reply := .ofBuilt (buildJobAttrsResponse x req.version req.requestId job
              (record.config.printerUri app.host app.port) none clock) }

/-- Get-Jobs: the jobs of the printer, of the requesting user only if `my-jobs` is set. -/
def getJobs : Handled :=
  let jobs := app.jobs.jobsForPrinter name
  let jobs := if myJobsFlag req then jobs.filter fun j => j.owner == requestingUser req else jobs
  let filter := effectiveFilter (extractRequestedAttributes x req) ["job-uri", "job-id"]
  app.answer (.ofBuilt (buildGetJobsResponse x req.version req.requestId jobs
    (record.config.printerUri app.host app.port) filter clock))

/-- Get-Job-Attributes. -/
def getJobAttributes : Handled :=
  match extractJobId req with
  | none => app.answer (.err 400 "Get-Job-Attributes missing job-id")
  | some jobId =>
    match app.jobs.get jobId with
    | none => app.answer (.err 404 s!"job not found: {jobId}")
    | some job =>
      let filter := effectiveFilter (extractRequestedAttributes x req) []
      app.answer (.ofBuilt (buildJobAttrsResponse x req.version req.requestId job
        (record.config.printerUri app.host app.port) filter clock))

/-- Cancel-Job. -/
def cancelJob : Handled :=
  match extractJobId req with
  | none => app.answer (.err 400 "Cancel-Job missing job-id")
  | some jobId =>
    let canceled := app.jobs.cancel clock.now jobId
    let status : IppStatus := match canceled.1 with
      | none => .clientErrorNotFound
      | some .canceled => .successfulOk
      | some _ => .clientErrorNotPossible
    { app with jobs := canceled.2 }.answer (respond x req.version status req.requestId)

/-- The dispatch on the operation. -/
def dispatch : Handled :=
  match operationOf x req.operationOrStatus with
  | .closeJob => closeJob x app req
  | .cancelMyJobs => cancelMyJobs x clock app name req
  | .identifyPrinter => identifyPrinter x app req record
  | .getPrinterAttributes =>
    app.answer (.ofBuilt (getPrinterAttributes x req.version req.requestId record app.host app.port
      (extractRequestedAttributes x req) clock))
  | .validateJob =>
    app.answer (.ofBuilt (validateJob x req.version req.requestId record app.host app.port clock))
  | .printJob => printJob x clock app name req record
  | .createJob => createJob x clock app name req record
  | .sendDocument => sendDocument x clock app name req record
  | .getJobs => getJobs x clock app name req record
  | .getJobAttributes => getJobAttributes x clock app req record
  | .cancelJob => cancelJob x clock app req
  | .unsupported op => app.answer (.err 400 s!"unsupported IPP operation: {op}")
  | .unknown => app.answer (.err 400 "unknown IPP operation")

end Arms

section Dispatch

variable {x : IppCrate} {clock : Clock} {app : AppState} {name : String} {req : IppRequest}
  {record : PrinterRecord}

theorem dispatch_closeJob (hop : operationOf x req.operationOrStatus = .closeJob) :
    dispatch x clock app name req record = closeJob x app req := by
  unfold dispatch
  rw [hop]

theorem dispatch_cancelMyJobs (hop : operationOf x req.operationOrStatus = .cancelMyJobs) :
    dispatch x clock app name req record = cancelMyJobs x clock app name req := by
  unfold dispatch
  rw [hop]

theorem dispatch_identifyPrinter (hop : operationOf x req.operationOrStatus = .identifyPrinter) :
    dispatch x clock app name req record = identifyPrinter x app req record := by
  unfold dispatch
  rw [hop]

theorem dispatch_printJob (hop : operationOf x req.operationOrStatus = .printJob) :
    dispatch x clock app name req record = printJob x clock app name req record := by
  unfold dispatch
  rw [hop]

theorem dispatch_createJob (hop : operationOf x req.operationOrStatus = .createJob) :
    dispatch x clock app name req record = createJob x clock app name req record := by
  unfold dispatch
  rw [hop]

theorem dispatch_sendDocument (hop : operationOf x req.operationOrStatus = .sendDocument) :
    dispatch x clock app name req record = sendDocument x clock app name req record := by
  unfold dispatch
  rw [hop]

theorem dispatch_getJobs (hop : operationOf x req.operationOrStatus = .getJobs) :
    dispatch x clock app name req record = getJobs x clock app name req record := by
  unfold dispatch
  rw [hop]

theorem dispatch_cancelJob (hop : operationOf x req.operationOrStatus = .cancelJob) :
    dispatch x clock app name req record = cancelJob x clock app req := by
  unfold dispatch
  rw [hop]

end Dispatch

/-! ## 3. The gates and the whole handler -/

/-- Everything before the dispatch: the parsed request with the record it is routed to, or the
    reply that ends the request here. -/
def gates (x : IppCrate) (app : AppState) (name : String) (body : List UInt8) :
    Except Reply (IppRequest × PrinterRecord) :=
  match x.parse body with
  | .error e => .error (.err 400 s!"IPP parse error: {e}")
  | .ok req =>
    if req.version / 256 ≠ 1 ∧ req.version / 256 ≠ 2 then
      .error (respond x 0x0101 .serverErrorVersionNotSupported req.requestId)
    else if !operationAttributesWellOrdered body then
      .error (respond x req.version .clientErrorBadRequest req.requestId)
    else if req.requestId = 0 then
      .error (respond x req.version .clientErrorBadRequest req.requestId)
    else if !hasOperationAttr req "printer-uri" && !hasOperationAttr req "job-uri" then
      .error (respond x req.version .clientErrorBadRequest req.requestId)
    else
      match findPrinter app.printers name with
      | none => .error (.err 404 s!"printer not found: {name}")
      | some record => .ok (req, record)

/-- The request with the record it is routed to, if it passes the gates. -/
def admitted (x : IppCrate) (app : AppState) (name : String) (body : List UInt8) :
    Option (IppRequest × PrinterRecord) :=
  (gates x app name body).toOption

/-- `handle_ipp`. -/
def handleIpp (x : IppCrate) (clock : Clock) (app : AppState) (name : String)
    (body : List UInt8) : Handled :=
  match gates x app name body with
  | .error reply => app.answer reply
  | .ok (req, record) => dispatch x clock app name req record

/-! ## 4. What passes the gates -/

section Gates

variable {x : IppCrate} {app : AppState} {name : String} {body : List UInt8} {req : IppRequest}
  {record : PrinterRecord}

theorem mem_admitted :
    (req, record) ∈ admitted x app name body ↔ gates x app name body = .ok (req, record) := by
  unfold admitted
  cases gates x app name body with
  | error reply => exact ⟨(nomatch ·), (nomatch ·)⟩
  | ok e => exact ⟨fun h => congrArg Except.ok (Option.some.inj h),
      fun h => congrArg some (Except.ok.inj h)⟩

/-- The parts of a request that the gates look at. -/
structure Admitted (x : IppCrate) (app : AppState) (name : String) (body : List UInt8)
    (req : IppRequest) (record : PrinterRecord) : Prop where
  parsed : x.parse body = .ok req
  version : req.version / 256 = 1 ∨ req.version / 256 = 2
  ordered : operationAttributesWellOrdered body = true
  requestId : req.requestId ≠ 0
  target : hasOperationAttr req "printer-uri" = true ∨ hasOperationAttr req "job-uri" = true
  printer : findPrinter app.printers name = some record

/-- **The gates admit exactly the well-formed requests to a known printer.** -/
theorem gates_ok (h : gates x app name body = .ok (req, record)) :
    Admitted x app name body req record := by
  unfold gates at h
  split at h
  · cases h
  · rename_i r hp
    split at h
    · cases h
    · rename_i hv
      split at h
      · cases h
      · rename_i ho
        split at h
        · cases h
        · rename_i hid
          split at h
          · cases h
          · rename_i ht
            split at h
            · cases h
            · rename_i rec hf
              cases h
              refine ⟨hp, ?_, by simpa using ho, hid, ?_, hf⟩
              · by_cases h1 : req.version / 256 = 1
                · exact Or.inl h1
                · by_cases h2 : req.version / 256 = 2
                  · exact Or.inr h2
                  · exact absurd ⟨h1, h2⟩ hv
              · rw [Bool.and_eq_true, Bool.not_eq_true', Bool.not_eq_true'] at ht
                by_cases h1 : hasOperationAttr req "printer-uri" = true
                · exact Or.inl h1
                · refine Or.inr ?_
                  cases h2 : hasOperationAttr req "job-uri" with
                  | true => rfl
                  | false => exact absurd ⟨by simpa using h1, h2⟩ ht

end Gates

/-! ## 5. What an operation does to the jobs -/

/-- The ways a request other than Cancel-My-Jobs leaves the registry, with the worker it
    spawns. -/
inductive JobsAfter (x : IppCrate) (clock : Clock) (app : AppState) (name : String)
    (req : IppRequest) : JobRegistry → Option PrintTask → Prop where
  | same : JobsAfter x clock app name req app.jobs none
  | created : JobsAfter x clock app name req
      (app.jobs.create clock.now name (requestingUser req)).2 none
  | printed (payload : List UInt8) (hp : req.payload = .ok payload) :
      JobsAfter x clock app name req (app.jobs.create clock.now name (requestingUser req)).2
        (some (printTask name req app.jobs.nextId app.jobs.jobs.length payload))
  | sent (id : JobId) (job : JobRecord) (payload : List UInt8)
      (hop : operationOf x req.operationOrStatus = .sendDocument)
      (hld : hasOperationAttr req "last-document" = true)
      (hid : extractJobId req = some id) (hj : app.jobs.get id = some job)
      (hp : req.payload = .ok payload) (hne : payload ≠ []) :
      JobsAfter x clock app name req app.jobs
        (some (printTask name req job.id (app.jobs.slotOf id) payload))
  | canceled (id : JobId) (hop : operationOf x req.operationOrStatus = .cancelJob)
      (hid : extractJobId req = some id) :
      JobsAfter x clock app name req (app.jobs.cancel clock.now id).2 none

section Dispatch

variable (x : IppCrate) (clock : Clock) (app : AppState) (name : String) (req : IppRequest)
  (record : PrinterRecord)

theorem printJob_jobs : JobsAfter x clock app name req
    (printJob x clock app name req record).app.jobs
    (printJob x clock app name req record).spawned := by
  unfold printJob
  split
  · exact .same
  · rename_i payload hp
    dsimp only
    split
    · exact .created
    · exact .printed payload hp

theorem sendDocument_jobs (hop : operationOf x req.operationOrStatus = .sendDocument) :
    JobsAfter x clock app name req (sendDocument x clock app name req record).app.jobs
      (sendDocument x clock app name req record).spawned := by
  unfold sendDocument
  split
  · exact .same
  · rename_i hld
    split
    · exact .same
    · rename_i id hid
      split
      · exact .same
      · rename_i job hj
        split
        · exact .same
        · rename_i payload hp
          cases payload with
          | nil => exact .same
          | cons b bs =>
              exact .sent id job (b :: bs) hop (by simpa using hld) hid hj hp
                (List.cons_ne_nil b bs)

theorem cancelJob_jobs (hop : operationOf x req.operationOrStatus = .cancelJob) :
    JobsAfter x clock app name req (cancelJob x clock app req).app.jobs
      (cancelJob x clock app req).spawned := by
  unfold cancelJob
  split
  · exact .same
  · rename_i id hid
    exact .canceled id hop hid

theorem getJobAttributes_app :
    (getJobAttributes x clock app req record).app = app ∧
      (getJobAttributes x clock app req record).spawned = none := by
  unfold getJobAttributes
  split
  · exact ⟨rfl, rfl⟩
  · split <;> exact ⟨rfl, rfl⟩

/-- **What an operation does to the jobs.** -/
theorem dispatch_jobs (hop : operationOf x req.operationOrStatus ≠ .cancelMyJobs) :
    JobsAfter x clock app name req (dispatch x clock app name req record).app.jobs
      (dispatch x clock app name req record).spawned := by
  unfold dispatch
  split
  · exact .same
  · rename_i h
    exact absurd h hop
  · exact .same
  · exact .same
  · exact .same
  · exact printJob_jobs x clock app name req record
  · exact .created
  · rename_i h
    exact sendDocument_jobs x clock app name req record h
  · exact .same
  · obtain ⟨h1, h2⟩ := getJobAttributes_app x clock app req record
    rw [h1, h2]
    exact .same
  · rename_i h
    exact cancelJob_jobs x clock app name req h
  · exact .same
  · exact .same

/-- Only Identify-Printer asks the device to identify itself. -/
theorem dispatch_identified_other
    (hop : operationOf x req.operationOrStatus ≠ .identifyPrinter) :
    (dispatch x clock app name req record).identified = none := by
  unfold dispatch
  cases hc : operationOf x req.operationOrStatus with
  | identifyPrinter => exact absurd hc hop
  | printJob =>
      dsimp only
      unfold printJob
      cases req.payload with
      | error => rfl
      | ok payload =>
          dsimp only
          split <;> rfl
  | sendDocument =>
      dsimp only
      unfold sendDocument
      split
      · rfl
      · split
        · rfl
        · split
          · rfl
          · split <;> rfl
  | getJobAttributes =>
      dsimp only
      unfold getJobAttributes
      split
      · rfl
      · split <;> rfl
  | cancelJob =>
      dsimp only
      unfold cancelJob
      split <;> rfl
  | _ => rfl

/-- No request touches the printers, the host or the port. -/
theorem dispatch_frame :
    (dispatch x clock app name req record).app =
      { app with jobs := (dispatch x clock app name req record).app.jobs } := by
  unfold dispatch
  split
  · rfl
  · rfl
  · rfl
  · rfl
  · rfl
  · unfold printJob
    split
    · rfl
    · dsimp only
      split <;> rfl
  · rfl
  · unfold sendDocument
    split
    · rfl
    · split
      · rfl
      · split
        · rfl
        · split <;> rfl
  · rfl
  · rw [(getJobAttributes_app x clock app req record).1]
  · unfold cancelJob
    split <;> rfl
  · rfl
  · rfl

end Dispatch

end IppPrinterApp
