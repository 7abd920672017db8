/-
  File:      IppPrinterApp/InBand.lean
  Subject:   Errors told in an IPP response, and errors told by the transport.

  The handler tells some errors with the status of an IPP response (HTTP 200), others with an
  HTTP status and a text, and which of the two is not a matter of the error alone: an unknown job
  is told in band by Close-Job and Cancel-Job, and out of band by the others.

  * `requestError` -- what is wrong with a request, in the order the handler looks;
  * `RequestError.toldInBand` -- how an operation tells it; `answerTo` -- what it answers if
    nothing is wrong;
  * `answered_in_band_iff`: **a request is answered in band if and only if its error, if it has
    one, is told in band and the strings of its answer fit**;
  * `unknown_job_out_of_band` is a Send-Document for a job that is not there.
-/
import IppPrinterApp.Conversions

namespace IppPrinterApp

open Transition

/-! ## 1. What is wrong with a request -/

inductive RequestError where
  /-- a major version other than 1 and 2 -/
  | version
  /-- the operation attributes do not start with charset and language -/
  | order
  /-- request-id 0 -/
  | requestId
  /-- neither `printer-uri` nor `job-uri` -/
  | target
  /-- no printer has the name -/
  | printer
  /-- the operation is not known or not served -/
  | operation
  /-- Send-Document without `last-document` -/
  | lastDocument
  /-- no job-id where one is needed -/
  | jobId
  /-- no job has the id -/
  | job
  /-- the document cannot be read -/
  | document
  /-- the job to cancel is done -/
  | done
  deriving DecidableEq, Repr

/-- The status that tells the error, where the code has one for it. -/
def RequestError.status : RequestError → Option IppStatus
  | version => some .serverErrorVersionNotSupported
  | order => some .clientErrorBadRequest
  | requestId => some .clientErrorBadRequest
  | target => some .clientErrorBadRequest
  | lastDocument => some .clientErrorBadRequest
  | jobId => some .clientErrorNotFound
  | job => some .clientErrorNotFound
  | done => some .clientErrorNotPossible
  | printer => none
  | operation => none
  | document => none

/-- The status tells the error: it is the one for it, or at least no success. -/
def RequestError.ToldBy (e : RequestError) (status : IppStatus) : Prop :=
  match e.status with
  | some s => status = s
  | none => status ≠ .successfulOk

section Errors

variable (x : IppCrate) (app : AppState) (name : String) (req : IppRequest)

/-- What is wrong with the job a request names. -/
def jobError : Option RequestError :=
  match extractJobId req with
  | none => some .jobId
  | some id => if (app.jobs.get id).isSome then none else some .job

/-- What is wrong with the document of a request. -/
def documentError : Option RequestError :=
  match req.payload with
  | .error _ => some .document
  | .ok _ => none

/-- The job to cancel has been printed, or has failed. -/
def doneError : Option RequestError :=
  match (extractJobId req).bind app.jobs.get with
  | some j => if j.state.isTerminal && j.state != .canceled then some .done else none
  | none => none

/-- What is wrong with a request as one for the operation. -/
def operationError : Operation → Option RequestError
  | .closeJob => jobError app req
  | .printJob => documentError req
  | .sendDocument =>
    if !hasOperationAttr req "last-document" then some .lastDocument
    else (jobError app req).or (documentError req)
  | .getJobAttributes => jobError app req
  | .cancelJob => (jobError app req).or (doneError app req)
  | .unsupported _ => some .operation
  | .unknown => some .operation
  | _ => none

/-- **What is wrong with a request**, the first thing the handler sees. -/
def requestError (body : List UInt8) : Option RequestError :=
  if req.version / 256 ≠ 1 ∧ req.version / 256 ≠ 2 then some .version
  else if !operationAttributesWellOrdered body then some .order
  else if req.requestId = 0 then some .requestId
  else if !hasOperationAttr req "printer-uri" && !hasOperationAttr req "job-uri" then some .target
  else if (findPrinter app.printers name).isNone then some .printer
  else operationError app req (operationOf x req.operationOrStatus)

end Errors

/-- The operation tells the error with an IPP status. -/
def RequestError.toldInBand (op : Operation) : RequestError → Bool
  | printer => false
  | operation => false
  | document => false
  | jobId => op == .closeJob
  | job => op == .closeJob || op == .cancelJob
  | _ => true

/-! ## 2. What is answered -/

/-- The jobs a Get-Jobs request lists. -/
def listedJobs (app : AppState) (name : String) (req : IppRequest) : List JobRecord :=
  if myJobsFlag req then
    (app.jobs.jobsForPrinter name).filter fun j => j.owner == requestingUser req
  else app.jobs.jobsForPrinter name

/-- The answer an operation builds if nothing is wrong; `none` is a bare status. -/
def answerTo (x : IppCrate) (clock : Clock) (app : AppState) (name : String) (req : IppRequest) :
    Operation → Option Answer
  | .getPrinterAttributes => some (.printerAttributes (extractRequestedAttributes x req))
  | .validateJob => some .validateJob
  | .printJob => some (.accepted (app.jobs.create clock.now name (requestingUser req)).1)
  | .createJob => some (.accepted (app.jobs.create clock.now name (requestingUser req)).1)
  | .sendDocument =>
    ((extractJobId req).bind app.jobs.get).map fun job => .jobAttributes job none
  | .getJobs =>
    some (.jobs (listedJobs app name req)
      (effectiveFilter (extractRequestedAttributes x req) ["job-uri", "job-id"]))
  | .getJobAttributes =>
    ((extractJobId req).bind app.jobs.get).map fun job =>
      .jobAttributes job (effectiveFilter (extractRequestedAttributes x req) [])
  | _ => none

/-- The reply that carries an answer, or a bare success. -/
def replyWith (x : IppCrate) (clock : Clock) (app : AppState) (req : IppRequest)
    (record : PrinterRecord) : Option Answer → Reply
  | some a => .ofBuilt (a.build x req.version req.requestId record app.host app.port clock)
  | none => respond x req.version .successfulOk req.requestId

/-- The numbers of the state are of their types. -/
structure AppState.InRange (app : AppState) : Prop where
  printers : ∀ r ∈ app.printers, r.InRange
  jobs : ∀ j ∈ app.jobs.jobs, j.InRange
  nextId : app.jobs.nextId < 2 ^ 32

section Dispatch

variable {x : IppCrate} {clock : Clock} {app : AppState} {name : String} {req : IppRequest}
  {record : PrinterRecord}

/-- The three ways a request names a job. -/
theorem jobError_cases (app : AppState) (req : IppRequest) :
    (extractJobId req = none ∧ jobError app req = some .jobId) ∨
    (∃ id, extractJobId req = some id ∧ app.jobs.get id = none ∧ jobError app req = some .job) ∨
    (∃ id j, extractJobId req = some id ∧ app.jobs.get id = some j ∧ jobError app req = none) := by
  unfold jobError
  cases hid : extractJobId req with
  | none => exact Or.inl ⟨rfl, rfl⟩
  | some id =>
      cases hj : app.jobs.get id with
      | none => exact Or.inr (Or.inl ⟨id, rfl, hj, by simp [hj]⟩)
      | some j => exact Or.inr (Or.inr ⟨id, j, rfl, hj, by simp [hj]⟩)

/-- How an error is told: with the status for it, or by the transport. -/
def ToldAs (x : IppCrate) (req : IppRequest) (op : Operation) (e : RequestError) (reply : Reply) :
    Prop :=
  if e.toldInBand op = true then
    ∃ st, e.status = some st ∧ reply = respond x req.version st req.requestId
  else ∃ st message, reply = .err st message

/-- What an operation replies, whatever is wrong with the request. -/
def RepliesTo (x : IppCrate) (clock : Clock) (app : AppState) (name : String) (req : IppRequest)
    (record : PrinterRecord) (op : Operation) (reply : Reply) : Prop :=
  match operationError app req op with
  | none => reply = replyWith x clock app req record (answerTo x clock app name req op)
  | some e => ToldAs x req op e reply

theorem closeJob_replies : RepliesTo x clock app name req record .closeJob
    (closeJob x app req).reply := by
  unfold RepliesTo closeJob operationError
  rcases jobError_cases app req with ⟨hid, he⟩ | ⟨id, hid, hj, he⟩ | ⟨id, j, hid, hj, he⟩
  · rw [he, hid]
    exact ⟨_, rfl, rfl⟩
  · rw [he, hid, Option.bind_some, hj]
    exact ⟨_, rfl, rfl⟩
  · rw [he, hid, Option.bind_some, hj]
    rfl

theorem printJob_replies : RepliesTo x clock app name req record .printJob
    (printJob x clock app name req record).reply := by
  unfold RepliesTo operationError documentError printJob
  cases hp : req.payload with
  | error e => exact ⟨400, e, rfl⟩
  | ok payload =>
      show Handled.reply _ = .ofBuilt (printJobAccepted ..)
      dsimp only
      split
      · rename_i e he
        rw [he]
        rfl
      · rename_i accepted he
        rw [he]
        rfl

theorem sendDocument_replies : RepliesTo x clock app name req record .sendDocument
    (sendDocument x clock app name req record).reply := by
  unfold RepliesTo operationError sendDocument
  cases hl : hasOperationAttr req "last-document" with
  | false => exact ⟨_, rfl, rfl⟩
  | true =>
      rw [if_neg (by decide), if_neg (by decide)]
      rcases jobError_cases app req with ⟨hid, he⟩ | ⟨id, hid, hj, he⟩ | ⟨id, j, hid, hj, he⟩
      · rw [he, hid]
        exact ⟨_, _, rfl⟩
      · rw [he, hid]
        dsimp only
        rw [hj]
        exact ⟨_, _, rfl⟩
      · rw [he, hid]
        dsimp only
        rw [hj]
        unfold documentError
        cases hp : req.payload with
        | error e => exact ⟨400, e, rfl⟩
        | ok payload =>
            unfold answerTo
            dsimp only
            rw [hid, Option.bind_some, hj]
            rfl

theorem getJobAttributes_replies : RepliesTo x clock app name req record .getJobAttributes
    (getJobAttributes x clock app req record).reply := by
  unfold RepliesTo operationError getJobAttributes
  rcases jobError_cases app req with ⟨hid, he⟩ | ⟨id, hid, hj, he⟩ | ⟨id, j, hid, hj, he⟩
  · rw [he, hid]
    exact ⟨_, _, rfl⟩
  · rw [he, hid]
    dsimp only
    rw [hj]
    exact ⟨_, _, rfl⟩
  · rw [he, hid]
    dsimp only
    rw [hj]
    unfold answerTo
    dsimp only
    rw [hid, Option.bind_some, hj]
    rfl

theorem cancelJob_replies : RepliesTo x clock app name req record .cancelJob
    (cancelJob x clock app req).reply := by
  unfold RepliesTo operationError cancelJob
  rcases jobError_cases app req with ⟨hid, he⟩ | ⟨id, hid, hj, he⟩ | ⟨id, j, hid, hj, he⟩
  · rw [he, hid]
    exact ⟨_, _, rfl⟩
  · rw [he, hid]
    dsimp only [JobRegistry.cancel]
    rw [hj]
    exact ⟨_, rfl, rfl⟩
  · rw [he, hid]
    dsimp only [JobRegistry.cancel]
    unfold doneError
    rw [hid, Option.bind_some, hj, Option.none_or, Option.map_some, JobRecord.withCancel_state]
    dsimp only
    -- a canceled job may be canceled again
    cases hs : j.state with
    | completed => exact ⟨_, rfl, rfl⟩
    | aborted => exact ⟨_, rfl, rfl⟩
    | _ => rfl

/-- **What the dispatch replies**: the answer of the operation, or its error the operation's way. -/
theorem dispatch_replies : RepliesTo x clock app name req record
    (operationOf x req.operationOrStatus) (dispatch x clock app name req record).reply := by
  unfold dispatch
  cases operationOf x req.operationOrStatus with
  | closeJob => exact closeJob_replies
  | cancelMyJobs => rfl
  | identifyPrinter => rfl
  | getPrinterAttributes => rfl
  | validateJob => rfl
  | printJob => exact printJob_replies
  | createJob => rfl
  | sendDocument => exact sendDocument_replies
  | getJobs => rfl
  | getJobAttributes => exact getJobAttributes_replies
  | cancelJob => exact cancelJob_replies
  | unsupported op => exact ⟨_, _, rfl⟩
  | unknown => exact ⟨_, _, rfl⟩

end Dispatch

/-! ## 3. In band -/

/-- The reply is an IPP response with the request's id, and its status tells what is wrong with
    the request, or success if nothing is. -/
def Reply.TellsInBand (reply : Reply) (req : IppRequest) (err : Option RequestError) : Prop :=
  ∃ resp, reply = .ok resp ∧ resp.requestId = req.requestId ∧
    match err with
    | some e => e.ToldBy resp.status
    | none => resp.status = .successfulOk

/-- The error of the request is told in band; if there is none, the strings of the answer fit. -/
def AnsweredInBand (x : IppCrate) (clock : Clock) (app : AppState) (name : String)
    (req : IppRequest) (body : List UInt8) : Prop :=
  match requestError x app name req body with
  | some e => e.toldInBand (operationOf x req.operationOrStatus) = true
  | none => ∀ record ∈ findPrinter app.printers name,
      ∀ a ∈ answerTo x clock app name req (operationOf x req.operationOrStatus),
        a.Fits record app.host app.port

section InBand

variable {x : IppCrate} {clock : Clock} {app : AppState} {name : String} {body : List UInt8}
  {req : IppRequest} {record : PrinterRecord}

theorem respond_carries (hx : x.BuildsResponses) (version : IppVersion) (status : IppStatus)
    (requestId : Nat) : ∃ resp, respond x version status requestId = .ok resp ∧
      resp.status = status ∧ resp.requestId = requestId := by
  obtain ⟨resp, hr, _, hst, hid⟩ := hx version status requestId
  refine ⟨resp, ?_, hst, hid⟩
  unfold respond newResponse
  rw [hr]
  rfl

theorem respond_tells (hx : x.BuildsResponses) (version : IppVersion) {e : RequestError}
    {status : IppStatus} (he : e.status = some status) :
    (respond x version status req.requestId).TellsInBand req (some e) := by
  obtain ⟨resp, hr, hst, hid⟩ := respond_carries hx version status req.requestId
  refine ⟨resp, hr, hid, ?_⟩
  show e.ToldBy resp.status
  unfold RequestError.ToldBy
  rw [he]
  exact hst

/-- An error told as an operation tells it. -/
theorem ToldAs.tells_iff (hx : x.BuildsResponses) {op : Operation} {e : RequestError}
    {reply : Reply} (h : ToldAs x req op e reply) :
    reply.TellsInBand req (some e) ↔ e.toldInBand op = true := by
  unfold ToldAs at h
  by_cases ht : e.toldInBand op = true
  · rw [if_pos ht] at h
    obtain ⟨status, hs, rfl⟩ := h
    exact iff_of_true (respond_tells hx req.version hs) ht
  · rw [if_neg ht] at h
    obtain ⟨status, message, rfl⟩ := h
    exact iff_of_false (fun ⟨_, hr, _⟩ => (by cases hr)) ht

/-- The jobs an answer is about are jobs of the registry, or the next one. -/
theorem answerTo_inRange (hr : app.InRange) {op : Operation} :
    ∀ a ∈ answerTo x clock app name req op, ∀ j ∈ a.jobRecords, j.InRange := by
  have hget : ∀ id j, app.jobs.get id = some j → j.InRange := fun id j hj =>
    hr.jobs j (List.mem_of_find?_eq_some hj)
  have hnamed : ∀ (f : JobRecord → Answer), (∀ j, (f j).jobRecords = [j]) →
      ∀ a ∈ ((extractJobId req).bind app.jobs.get).map f, ∀ j ∈ a.jobRecords, j.InRange := by
    intro f hf a ha j hj
    obtain ⟨job, hjob, rfl⟩ := Option.map_eq_some_iff.mp ha
    obtain ⟨id, _, hid⟩ := Option.bind_eq_some_iff.mp hjob
    rw [hf, List.mem_singleton] at hj
    rw [hj]
    exact hget id job hid
  have hcreated : ∀ a ∈ some (Answer.accepted
      (app.jobs.create clock.now name (requestingUser req)).1), ∀ j ∈ a.jobRecords, j.InRange := by
    intro a ha j hj
    cases ha
    rw [List.mem_singleton.mp hj]
    exact hr.nextId
  cases op with
  | printJob => exact hcreated
  | createJob => exact hcreated
  | sendDocument => exact hnamed _ fun _ => rfl
  | getJobAttributes => exact hnamed _ fun _ => rfl
  | getJobs =>
      intro a ha j hj
      cases ha
      have hj' : j ∈ listedJobs app name req := hj
      unfold listedJobs at hj'
      split at hj'
      · exact hr.jobs j (List.mem_of_mem_filter (List.mem_of_mem_filter hj'))
      · exact hr.jobs j (List.mem_of_mem_filter hj')
  | getPrinterAttributes =>
      intro a ha j hj
      cases ha
      cases hj
  | validateJob =>
      intro a ha j hj
      cases ha
      cases hj
  | _ => exact fun a ha => absurd ha (Option.not_mem_none a)

/-- A reply without an error is in band exactly if its strings fit. -/
theorem replyWith_tells_iff (hx : x.BuildsResponses) (hr : record.InRange) {a : Option Answer}
    (ha : ∀ a' ∈ a, ∀ j ∈ a'.jobRecords, j.InRange) :
    (replyWith x clock app req record a).TellsInBand req none ↔
      ∀ a' ∈ a, a'.Fits record app.host app.port := by
  cases a with
  | none =>
      obtain ⟨resp, hresp, hst, hid⟩ := respond_carries hx req.version .successfulOk req.requestId
      exact iff_of_true ⟨resp, hresp, hid, hst⟩ fun a' h => absurd h (Option.not_mem_none a')
  | some a =>
      unfold replyWith
      dsimp only
      have hbuilt : BuiltIf x req.version req.requestId
          (a.build x req.version req.requestId record app.host app.port clock)
          (a.Fits record app.host app.port) := a.builtIf hr (ha a rfl)
      rcases hbuilt.cases hx with
        ⟨hfit, resp, hresp, hst, hid⟩ | ⟨hfit, what, hpanic⟩
      · rw [hresp]
        exact iff_of_true ⟨resp, rfl, hid, hst⟩ fun a' h => (by cases h; exact hfit)
      · rw [hpanic]
        exact iff_of_false (fun ⟨_, hr, _⟩ => (by cases hr)) fun h => hfit (h a rfl)

theorem dispatch_tells_iff (hx : x.BuildsResponses) (hr : app.InRange)
    (hf : findPrinter app.printers name = some record) :
    (dispatch x clock app name req record).reply.TellsInBand req
        (operationError app req (operationOf x req.operationOrStatus)) ↔
      match operationError app req (operationOf x req.operationOrStatus) with
      | some e => e.toldInBand (operationOf x req.operationOrStatus) = true
      | none => ∀ a ∈ answerTo x clock app name req (operationOf x req.operationOrStatus),
          a.Fits record app.host app.port := by
  have h : RepliesTo x clock app name req record (operationOf x req.operationOrStatus)
    (dispatch x clock app name req record).reply := dispatch_replies
  unfold RepliesTo at h
  cases he : operationError app req (operationOf x req.operationOrStatus) with
  | some e =>
      rw [he] at h
      exact ToldAs.tells_iff hx h
  | none =>
      rw [he] at h
      have h' : (dispatch x clock app name req record).reply = replyWith x clock app req record
        (answerTo x clock app name req (operationOf x req.operationOrStatus)) := h
      rw [h']
      exact replyWith_tells_iff hx (hr.printers record (List.mem_of_find?_eq_some hf))
        (answerTo_inRange hr)

/-- **A request is answered in band if and only if** its error, if it has one, is told in band and
    the strings of its answer fit. -/
theorem answered_in_band_iff (hx : x.BuildsResponses) (hr : app.InRange)
    (hp : x.parse body = .ok req) :
    (handleIpp x clock app name body).reply.TellsInBand req (requestError x app name req body) ↔
      AnsweredInBand x clock app name req body := by
  unfold AnsweredInBand handleIpp gates requestError
  rw [hp]
  dsimp only
  by_cases hv : req.version / 256 ≠ 1 ∧ req.version / 256 ≠ 2
  · rw [if_pos hv, if_pos hv]
    exact iff_of_true (respond_tells hx _ rfl) rfl
  rw [if_neg hv, if_neg hv]
  by_cases ho : (!operationAttributesWellOrdered body) = true
  · rw [if_pos ho, if_pos ho]
    exact iff_of_true (respond_tells hx _ rfl) rfl
  rw [if_neg ho, if_neg ho]
  by_cases hid : req.requestId = 0
  · rw [if_pos hid, if_pos hid]
    exact iff_of_true (respond_tells hx _ rfl) rfl
  rw [if_neg hid, if_neg hid]
  by_cases ht : (!hasOperationAttr req "printer-uri" && !hasOperationAttr req "job-uri") = true
  · rw [if_pos ht, if_pos ht]
    exact iff_of_true (respond_tells hx _ rfl) rfl
  rw [if_neg ht, if_neg ht]
  cases hf : findPrinter app.printers name with
  | none => exact iff_of_false (fun ⟨_, hr, _⟩ => (by cases hr)) Bool.false_ne_true
  | some record =>
      rw [Option.isNone_some, if_neg Bool.false_ne_true]
      refine (dispatch_tells_iff hx hr hf).trans ?_
      cases operationError app req (operationOf x req.operationOrStatus) with
      | some e => exact Iff.rfl
      | none => exact ⟨fun h record' hr' => (by cases hr'; exact h), fun h => h record rfl⟩

end InBand

/-- The server of the sample deployment at its start. -/
theorem Trial.boot_inRange : (boot Trial.deployment).app.InRange where
  printers := List.forall_mem_cons.mpr ⟨⟨by decide, by decide, by decide⟩,
    List.forall_mem_singleton.mpr ⟨by decide, by decide, by decide⟩⟩
  jobs := fun j hj => absurd hj List.not_mem_nil
  nextId := by decide

theorem answered_in_band_iff_cancelUnknown :
    (handleIpp Trial.crate Trial.clock (boot Trial.deployment).app "p"
        Trial.cancelUnknown.body).reply.TellsInBand Trial.cancelUnknown.request
      (requestError Trial.crate (boot Trial.deployment).app "p" Trial.cancelUnknown.request
        Trial.cancelUnknown.body) := by
  have herr : requestError Trial.crate (boot Trial.deployment).app "p"
      Trial.cancelUnknown.request Trial.cancelUnknown.body = some .job := by decide +kernel
  refine (answered_in_band_iff Trial.crate_buildsResponses Trial.boot_inRange rfl).mpr ?_
  unfold AnsweredInBand
  rw [herr]
  rfl

/-- Send-Document for a job that is not there is answered with HTTP status 404. -/
theorem unknown_job_out_of_band :
    ¬ ∀ (o : Options) (d : Deployment) (tr : List Event) (s : System),
        o.crate.BuildsResponses → Run (server o) anyStep (boot d) tr s →
        ∀ (clock : Clock) (name : String) (body : List UInt8) (req : IppRequest),
          o.crate.parse body = .ok req →
          (handleIpp o.crate clock s.app name body).reply.TellsInBand req
            (requestError o.crate s.app name req body) := by
  intro h
  obtain ⟨resp, hr, _⟩ := h Trial.options Trial.deployment [] (boot Trial.deployment)
    Trial.crate_buildsResponses .start Trial.clock "p" Trial.send.body Trial.send.request rfl
  have e : (match (handleIpp Trial.options.crate Trial.clock (boot Trial.deployment).app "p"
      Trial.send.body).reply with
    | .err status message => status == 404 && message == "job not found: 1"
    | _ => false) = true := by decide +kernel
  rw [hr] at e
  cases e

end IppPrinterApp
