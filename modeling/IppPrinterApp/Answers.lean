/-
  File:      IppPrinterApp/Answers.lean
  Subject:   Every IPP request is answered once, in its own terms.

  A request is answered in the step it arrives in, but for two: Cancel-My-Jobs is answered when its
  loop is through, Identify-Printer when its device returns, and any number of other requests,
  cancels and accesses lie between. A handler that panics answers nothing.

  * `RequestsStep`, `step_requests` -- what a step does to the requests under way, and what it
    answers;
  * `requests_answered_once`: in every run, the requests answered, those whose handler panicked and
    those under way are together the requests that arrived, each as often as it arrived;
  * `replies_echo`: every IPP response of a run has the request-id of the request it answers, and
    its version, or 1.1 where the server does not speak that.
-/
import Mathlib.Algebra.Order.Group.Multiset
import IppPrinterApp.Lib.Flow
import IppPrinterApp.InBand

namespace IppPrinterApp

open Transition Flow

/-! ## 1. Requests under way -/

/-- A request as it arrives: the name of the printer and the body. -/
abbrev Asked := Multiset (String × List UInt8)

/-- What an action asks. -/
def Action.asks : Action → Asked
  | .request _ name body => {(name, body)}
  | _ => 0

/-- What an event answers: a handler that panics sends nothing. -/
def Event.answers : Event → Asked
  | .reply _ _ (.panic _) => 0
  | .reply name body _ => {(name, body)}
  | _ => 0

/-- The request whose handler panics. -/
def Event.panics : Event → Asked
  | .reply name body (.panic _) => {(name, body)}
  | _ => 0

/-- The request whose handler is through, with or without an answer. -/
def Event.ends : Event → Asked
  | .reply name body _ => {(name, body)}
  | _ => 0

theorem Event.ends_eq (e : Event) : e.ends = e.answers + e.panics := by
  cases e with
  | reply name body reply =>
      cases reply with
      | panic what => exact (zero_add _).symm
      | _ => exact (add_zero _).symm
  | _ => rfl

/-- What a request in its loop asked. -/
def CancelTask.asked (t : CancelTask) : Asked := {(t.name, t.body)}

/-- What a request that waits for its device asked. -/
def IdentifyTask.asked (t : IdentifyTask) : Asked := {(t.name, t.body)}

/-- What has been asked and is under way: in the loop of a Cancel-My-Jobs, or waiting for a device
    to identify itself. -/
def System.underWay (s : System) : Asked :=
  Pool.stock CancelTask.asked s.cancels + Pool.stock IdentifyTask.asked s.identifies

/-- The actions that serve an IPP request. -/
def Action.servesIpp : Action → Bool
  | .request .. => true
  | .cancelNext .. => true
  | .identified _ => true
  | _ => false

/-- The request with this body, as a task keeps it. -/
structure KeptOf (x : IppCrate) (body : List UInt8) (version : IppVersion) (requestId : Nat)
    (req : IppRequest) : Prop where
  parsed : x.parse body = .ok req
  supported : req.version / 256 = 1 ∨ req.version / 256 = 2
  version : version = req.version
  requestId : requestId = req.requestId

/-- The loop was entered by the request with this body. -/
def CancelTask.Parsed (x : IppCrate) (t : CancelTask) (req : IppRequest) : Prop :=
  KeptOf x t.body t.version t.requestId req

/-- The device was asked by the request with this body. -/
def IdentifyTask.Parsed (x : IppCrate) (t : IdentifyTask) (req : IppRequest) : Prop :=
  KeptOf x t.body t.version t.requestId req

/-- **What a step does to the requests under way**, and what it answers. -/
inductive RequestsStep (o : Options) (s : System) :
    Action → List CancelTask → List IdentifyTask → List Event → Prop where
  | refused (clock : Clock) (name : String) (body : List UInt8) (reply : Reply)
      (hg : gates o.crate s.app name body = .error reply) :
      RequestsStep o s (.request clock name body) s.cancels s.identifies [.reply name body reply]
  | answered (clock : Clock) (name : String) (body : List UInt8) (req : IppRequest)
      (record : PrinterRecord) (hg : gates o.crate s.app name body = .ok (req, record)) :
      RequestsStep o s (.request clock name body) s.cancels s.identifies
        [.reply name body (dispatch o.crate clock s.app name req record).reply]
  | listed (clock : Clock) (t : CancelTask) (req : IppRequest) (ht : t.Parsed o.crate req)
      (hop : operationOf o.crate req.operationOrStatus = .cancelMyJobs) :
      RequestsStep o s (.request clock t.name t.body) (s.cancels ++ [t]) s.identifies []
  | asked (clock : Clock) (t : IdentifyTask) (req : IppRequest) (record : PrinterRecord)
      (ht : t.Parsed o.crate req)
      (hop : operationOf o.crate req.operationOrStatus = .identifyPrinter) :
      RequestsStep o s (.request clock t.name t.body) s.cancels (s.identifies ++ [t])
        [.identify record.config (extractIdentifyActions o.crate req)]
  | canceled (i : Nat) (now : SystemTime) (t : CancelTask) (todo : List JobId)
      (ht : s.cancels[i]? = some t) :
      RequestsStep o s (.cancelNext i now) (s.cancels.set i { t with todo }) s.identifies []
  | through (i : Nat) (now : SystemTime) (t : CancelTask) (ht : s.cancels[i]? = some t) :
      RequestsStep o s (.cancelNext i now) (s.cancels.eraseIdx i) s.identifies
        [.reply t.name t.body (respond o.crate t.version .successfulOk t.requestId)]
  | identified (i : Nat) (t : IdentifyTask) (ht : s.identifies[i]? = some t) :
      RequestsStep o s (.identified i) s.cancels (s.identifies.eraseIdx i)
        [.reply t.name t.body (respond o.crate t.version .successfulOk t.requestId)]
  | other (a : Action) (ev : List Event) (ha : a.servesIpp = false)
      (hev : ∀ e ∈ ev, e.ends = 0) : RequestsStep o s a s.cancels s.identifies ev

section Step

variable {o : Options} {s s' : System} {a : Action} {ev tr : List Event}

/-- An event of an action that serves no IPP request is no reply. -/
theorem step_ends_none (h : step o s a = some (s', ev)) (ha : a.servesIpp = false) :
    ∀ e ∈ ev, e.ends = 0 := by
  intro e he
  cases step_event h he with
  | refused => cases ha
  | replied => cases ha
  | canceled => cases ha
  | identified => cases ha
  | _ => rfl

theorem step_requests (h : step o s a = some (s', ev)) :
    RequestsStep o s a s'.cancels s'.identifies ev := by
  cases a with
  | request clock name body =>
      have e := Option.some.inj h
      unfold requestStep at e
      split at e
      · rename_i reply hg
        cases e
        exact .refused clock name body reply hg
      · rename_i req record hg
        have hadm := gates_ok hg
        split at e
        · rename_i hop
          cases e
          exact .listed clock ⟨name, body, _, _, _⟩ req ⟨hadm.parsed, hadm.version, rfl, rfl⟩ hop
        · split at e
          · rename_i hop
            cases e
            exact .asked clock ⟨name, body, _, _⟩ req record
              ⟨hadm.parsed, hadm.version, rfl, rfl⟩ hop
          · cases e
            exact .answered clock name body req record hg
  | cancelNext i now =>
      obtain ⟨t, ht, ⟨_, todo, _, rfl, rfl⟩ | ⟨_, rfl, rfl⟩⟩ := step_cancelNext h
      · exact .canceled i now t todo ht
      · exact .through i now t ht
  | identified i =>
      obtain ⟨t, ht, rfl, rfl⟩ := step_identified h
      exact .identified i t ht
  | worker i now =>
      have hev := step_ends_none h rfl
      obtain ⟨_, _, _, _, _, rfl⟩ := step_worker h
      exact .other _ _ rfl hev
  | outcome i out =>
      have hev := step_ends_none h rfl
      obtain ⟨_, _, _, _, rfl⟩ := step_outcome h
      exact .other _ _ rfl hev
  | pollTick =>
      have hev := step_ends_none h rfl
      obtain ⟨_, _, rfl⟩ := step_pollTick h
      exact .other _ _ rfl hev
  | pollAnswer status =>
      have hev := step_ends_none h rfl
      obtain ⟨_, _, _, _, _, _, rfl, _⟩ := step_pollAnswer h
      exact .other _ _ rfl hev
  | poll =>
      have hev := step_ends_none h rfl
      obtain ⟨_, _, _, rfl⟩ := step_poll h
      exact .other _ _ rfl hev
  | mediaPost name form =>
      have hev := step_ends_none h rfl
      rcases step_mediaPost h with rfl | ⟨_, _, rfl⟩
      · exact .other _ _ rfl hev
      · exact .other _ _ rfl hev
  | mediaAnswer i refusal =>
      have hev := step_ends_none h rfl
      obtain ⟨_, _, _, _, _, rfl⟩ := step_mediaAnswer h
      exact .other _ _ rfl hev
  | media i =>
      have hev := step_ends_none h rfl
      obtain ⟨_, _, _, _, _, rfl⟩ := step_media h
      exact .other _ _ rfl hev

/-- Only requests and their loops move the loops. -/
theorem step_cancels_same (h : step o s a = some (s', ev))
    (hr : ∀ clock name body, a ≠ .request clock name body) (hc : ∀ i now, a ≠ .cancelNext i now) :
    s'.cancels = s.cancels := by
  have hstep := step_requests h
  generalize s'.cancels = ts at hstep ⊢
  generalize s'.identifies = us at hstep
  cases hstep with
  | refused => rfl
  | answered => rfl
  | listed => exact absurd rfl (hr _ _ _)
  | asked => rfl
  | canceled => exact absurd rfl (hc _ _)
  | through => exact absurd rfl (hc _ _)
  | identified => rfl
  | other => rfl

/-! ## 2. Once -/

/-- **One step**: what is through and what is then under way is what was under way and what is
    asked. -/
theorem step_ends (h : step o s a = some (s', ev)) :
    total Event.ends ev + s'.underWay = s.underWay + a.asks := by
  have hr := step_requests h
  unfold System.underWay
  generalize s'.cancels = ts at hr ⊢
  generalize s'.identifies = us at hr ⊢
  cases hr with
  | refused clock name body reply hg =>
      rw [total_cons, total_nil, add_zero, add_comm]
      rfl
  | answered clock name body req record hg =>
      rw [total_cons, total_nil, add_zero, add_comm]
      rfl
  | listed clock t req ht hop =>
      rw [total_nil, zero_add, Pool.stock_append, Pool.stock_singleton, add_right_comm]
      rfl
  | asked clock t req record ht hop =>
      rw [total_cons, total_nil, add_zero, Pool.stock_append, Pool.stock_singleton]
      exact (zero_add _).trans (add_assoc _ _ _).symm
  | canceled i now t todo ht =>
      rw [total_nil, zero_add, Pool.stock_set_same CancelTask.asked { t with todo } ht rfl]
      exact (add_zero _).symm
  | through i now t ht =>
      rw [total_cons, total_nil, add_zero, ← Pool.stock_eraseIdx CancelTask.asked ht]
      exact (add_assoc _ _ _).symm.trans (add_zero _).symm
  | identified i t ht =>
      rw [total_cons, total_nil, add_zero, add_left_comm,
        ← Pool.stock_eraseIdx IdentifyTask.asked ht]
      exact (add_zero _).symm
  | other _ _ ha hev =>
      have hasks : a.asks = 0 := by
        cases a with
        | request => cases ha
        | _ => rfl
      rw [total_zero hev, hasks, zero_add, add_zero]

theorem ends_balanced (o : Options) :
    Balanced (server o) (fun _ => True) (fun _ a => a.asks) Event.ends System.underWay :=
  fun _ _ _ _ _ hs => ⟨trivial, step_ends hs⟩

/-- **Every request is answered once, unless its handler panics**: whatever the interleaving, the
    requests that were answered, those whose handler panicked and those under way are together
    those that arrived. -/
theorem requests_answered_once {G : System × Asked → Action → Prop} {d : Deployment}
    {asked : Asked} (h : Run (metered (server o) fun _ a => a.asks) G (boot d, 0) tr (s, asked)) :
    total Event.answers tr + total Event.panics tr + s.underWay = asked := by
  have hends : total Event.ends tr = total Event.answers tr + total Event.panics tr := by
    rw [← total_add]
    exact congrArg (total · tr) (funext Event.ends_eq)
  rw [← hends]
  exact ((ends_balanced o).run trivial h).trans (zero_add asked)

end Step

namespace Trial

/-- A print, a Cancel-My-Jobs, an Identify-Printer, and a Cancel-Job that is answered while those
    two are under way. -/
def overtaking : List Action :=
  [post "p" print, post "p" cancelMine, post "q" identify, post "p" cancelUnknown]

end Trial

theorem requests_answered_once_overtaking :
    total Event.answers (traceOf (metered (server Trial.options) fun _ a => a.asks) anyStep
        (boot Trial.deployment, 0) Trial.overtaking) +
      total Event.panics (traceOf (metered (server Trial.options) fun _ a => a.asks) anyStep
        (boot Trial.deployment, 0) Trial.overtaking) +
      (endOf (metered (server Trial.options) fun _ a => a.asks) anyStep (boot Trial.deployment, 0)
        Trial.overtaking).1.underWay =
      (endOf (metered (server Trial.options) fun _ a => a.asks) anyStep (boot Trial.deployment, 0)
        Trial.overtaking).2 :=
  requests_answered_once (run_endOf_pair (by decide +kernel))

/-! ## 3. In its own terms -/

/-- The version a request is answered in. -/
def replyVersion (version : IppVersion) : IppVersion :=
  if version / 256 ≠ 1 ∧ version / 256 ≠ 2 then 0x0101 else version

/-- The reply is a response with this header, or an HTTP error for what the client got wrong, or
    building it panicked. -/
def Reply.Bears (version : IppVersion) (requestId : Nat) : Reply → Prop
  | .ok resp => resp.version = version ∧ resp.requestId = requestId
  | .err status _ => status = 400 ∨ status = 404
  | .panic _ => True

/-- The reply speaks to the request with this body. -/
def Reply.Echoes (x : IppCrate) (body : List UInt8) (reply : Reply) : Prop :=
  match x.parse body with
  | .error _ => ∃ message, reply = .err 400 message
  | .ok req => reply.Bears (replyVersion req.version) req.requestId

/-- What is left to do after the header: no error comes of it, and the header stays. -/
structure KeepsHeader (f : IppResponse → Except Fault IppResponse) : Prop where
  sound : ∀ r, Sound (f r)
  header : ∀ r resp, f r = .ok resp → resp.version = r.version ∧ resp.requestId = r.requestId

section Header

variable {x : IppCrate} {version : IppVersion} {requestId : Nat} {req : IppRequest}

theorem respond_bears (hx : x.BuildsResponses) (version : IppVersion) (status : IppStatus)
    (requestId : Nat) : (respond x version status requestId).Bears version requestId := by
  obtain ⟨resp, hr, hv, _, hid⟩ := hx version status requestId
  unfold respond newResponse
  rw [hr]
  exact ⟨hv, hid⟩

theorem KeepsHeader.bears {f : IppResponse → Except Fault IppResponse} (hf : KeepsHeader f)
    (hx : x.BuildsResponses) :
    (Reply.ofBuilt (newResponse x version .successfulOk requestId >>= f)).Bears version
      requestId := by
  obtain ⟨r, hr, hv, _, hid⟩ := hx version .successfulOk requestId
  have hnew : newResponse x version .successfulOk requestId = .ok r := by
    unfold newResponse
    rw [hr]
  rw [hnew]
  show (Reply.ofBuilt (f r)).Bears version requestId
  have hs := hf.sound r
  cases hfr : f r with
  | ok resp =>
      obtain ⟨hv', hid'⟩ := hf.header r resp hfr
      exact ⟨hv'.trans hv, hid'.trans hid⟩
  | error fault =>
      rw [hfr] at hs
      cases fault with
      | error message => exact hs.elim
      | panic what => exact trivial

theorem addAll_version {tag : DelimiterTag} {attrs : List (String × Built)} {r resp : IppResponse}
    (h : addAll tag r attrs = .ok resp) : resp.version = r.version := by
  induction attrs generalizing r with
  | nil => cases h; rfl
  | cons e attrs ih =>
      obtain ⟨v, _, hrest⟩ := addAll_cons h
      exact (ih hrest).trans rfl

theorem foldl_add_version (tag : DelimiterTag) (attrs : List IppAttribute) (resp : IppResponse) :
    (attrs.foldl (fun r a => r.add tag a) resp).version = resp.version := by
  induction attrs generalizing resp with
  | nil => rfl
  | cons a attrs ih => exact ih (resp.add tag a)

theorem filterRequested_version (resp : IppResponse) (requested : Option NameSet) :
    (filterRequested resp requested).version = resp.version := by
  unfold filterRequested
  split
  · rfl
  · split <;> rfl

/-- **Every answer is a header with something added.** -/
theorem Answer.build_keeps (a : Answer) (x : IppCrate) (version : IppVersion) (requestId : Nat)
    (record : PrinterRecord) (host : String) (port : Nat)
    (clock : Clock) : ∃ f, a.build x version requestId record host port clock =
      newResponse x version .successfulOk requestId >>= f ∧ KeepsHeader f := by
  have hattributes : ∀ requested, ∃ f,
      getPrinterAttributes x version requestId record host port requested clock =
        newResponse x version .successfulOk requestId >>= f ∧ KeepsHeader f := by
    refine fun requested => ⟨_, rfl, fun r => ?_, fun r resp h => ?_⟩
    · exact (sound_addAll (sound_printerAttributes record host port clock) r).bind_pure
    · obtain ⟨r', hr', h'⟩ := Fallible.bind_ok h
      cases h'
      obtain ⟨_, hid⟩ := filterRequested_header r' requested
      exact ⟨(filterRequested_version r' requested).trans (addAll_version hr'),
        hid.trans (addAll_header hr').2⟩
  cases a with
  | printerAttributes requested => exact hattributes requested
  | validateJob => exact hattributes none
  | accepted job =>
      refine ⟨_, rfl, fun r => ?_, fun r resp h => ?_⟩
      · exact sound_addAll (by simp [uri, int, sound_keywords]) r
      · exact ⟨addAll_version h, (addAll_header h).2⟩
  | jobs js requested =>
      refine ⟨_, rfl, fun r => ?_, fun r resp h => ?_⟩
      · exact (sound_mapM fun j _ => (sound_jobAttrsForGroup j _ requested clock).map).bind_pure
      · obtain ⟨groups, _, h'⟩ := Fallible.bind_ok h
        cases h'
        exact ⟨rfl, rfl⟩
  | jobAttributes job requested =>
      refine ⟨_, rfl, fun r => ?_, fun r resp h => ?_⟩
      · exact (sound_jobAttrsForGroup job _ requested clock).bind_pure
      · obtain ⟨attrs, _, h'⟩ := Fallible.bind_ok h
        cases h'
        exact ⟨foldl_add_version _ attrs r, foldl_add_requestId _ attrs r⟩

theorem Answer.build_bears (hx : x.BuildsResponses) (a : Answer) (version : IppVersion)
    (requestId : Nat) (record : PrinterRecord) (host : String) (port : Nat) (clock : Clock) :
    (Reply.ofBuilt (a.build x version requestId record host port clock)).Bears version
      requestId := by
  obtain ⟨f, hf, hkeep⟩ := a.build_keeps x version requestId record host port clock
  rw [hf]
  exact hkeep.bears hx

end Header

section Dispatch

variable {x : IppCrate} (hx : x.BuildsResponses) (clock : Clock) (app : AppState) (name : String)
  (req : IppRequest) (record : PrinterRecord)
include hx

theorem printJob_bears :
    (printJob x clock app name req record).reply.Bears req.version req.requestId := by
  unfold printJob
  split
  · exact Or.inl rfl
  · have hb := Answer.build_bears hx
      (.accepted (app.jobs.create clock.now name (requestingUser req)).1) req.version req.requestId
      record app.host app.port clock
    dsimp only [Answer.build] at hb ⊢
    split
    · rename_i e he
      rw [he] at hb
      exact hb
    · rename_i accepted he
      rw [he] at hb
      exact hb

theorem sendDocument_bears :
    (sendDocument x clock app name req record).reply.Bears req.version req.requestId := by
  unfold sendDocument
  split
  · exact respond_bears hx _ _ _
  · split
    · exact Or.inl rfl
    · split
      · exact Or.inr rfl
      · rename_i job _
        split
        · exact Or.inl rfl
        · exact Answer.build_bears hx (.jobAttributes job none) _ _ record app.host app.port clock

theorem getJobAttributes_bears :
    (getJobAttributes x clock app req record).reply.Bears req.version req.requestId := by
  unfold getJobAttributes
  split
  · exact Or.inl rfl
  · split
    · exact Or.inr rfl
    · rename_i job _
      exact Answer.build_bears hx (.jobAttributes job _) _ _ record app.host app.port clock

theorem cancelJob_bears : (cancelJob x clock app req).reply.Bears req.version req.requestId := by
  unfold cancelJob
  split
  · exact Or.inl rfl
  · exact respond_bears hx _ _ _

/-- **Every operation answers in the terms of its request.** -/
theorem dispatch_bears :
    (dispatch x clock app name req record).reply.Bears req.version req.requestId := by
  have hanswer : ∀ a : Answer, (Reply.ofBuilt (a.build x req.version req.requestId record app.host
      app.port clock)).Bears req.version req.requestId := fun a =>
    Answer.build_bears hx a _ _ record app.host app.port clock
  unfold dispatch
  cases operationOf x req.operationOrStatus with
  | closeJob => exact respond_bears hx _ _ _
  | cancelMyJobs => exact respond_bears hx _ _ _
  | identifyPrinter => exact respond_bears hx _ _ _
  | getPrinterAttributes => exact hanswer (.printerAttributes _)
  | validateJob => exact hanswer .validateJob
  | printJob => exact printJob_bears hx clock app name req record
  | createJob => exact hanswer (.accepted _)
  | sendDocument => exact sendDocument_bears hx clock app name req record
  | getJobs => exact hanswer (.jobs _ _)
  | getJobAttributes => exact getJobAttributes_bears hx clock app req record
  | cancelJob => exact cancelJob_bears hx clock app req
  | unsupported op => exact Or.inl rfl
  | unknown => exact Or.inl rfl

/-- A request that is refused at a gate is answered in its own terms too. -/
theorem gates_echo {body : List UInt8} {reply : Reply} (h : gates x app name body = .error reply) :
    reply.Echoes x body := by
  unfold gates at h
  unfold Reply.Echoes
  cases hp : x.parse body with
  | error e =>
      rw [hp] at h
      cases h
      exact ⟨_, rfl⟩
  | ok req =>
      rw [hp] at h
      dsimp only at h ⊢
      unfold replyVersion
      split at h
      · rename_i hv
        cases h
        rw [if_pos hv]
        exact respond_bears hx _ _ _
      · rename_i hv
        rw [if_neg hv]
        split at h
        · cases h
          exact respond_bears hx _ _ _
        · split at h
          · cases h
            exact respond_bears hx _ _ _
          · split at h
            · cases h
              exact respond_bears hx _ _ _
            · split at h
              · cases h
                exact Or.inr rfl
              · cases h

end Dispatch

section Echo

variable {o : Options} {s s' : System} {a : Action} {ev tr : List Event}

theorem echoes_of_parsed {x : IppCrate} {body : List UInt8} {req : IppRequest} {reply : Reply}
    (hp : x.parse body = .ok req) (hv : req.version / 256 = 1 ∨ req.version / 256 = 2)
    (h : reply.Bears req.version req.requestId) : reply.Echoes x body := by
  unfold Reply.Echoes replyVersion
  rw [hp]
  dsimp only
  rw [if_neg fun hn => hv.elim hn.1 hn.2]
  exact h

theorem KeptOf.echoes {x : IppCrate} (hx : x.BuildsResponses) {body : List UInt8}
    {version : IppVersion} {requestId : Nat} {req : IppRequest}
    (h : KeptOf x body version requestId req) (status : IppStatus) :
    (respond x version status requestId).Echoes x body := by
  refine echoes_of_parsed h.parsed h.supported ?_
  rw [h.version, h.requestId]
  exact respond_bears hx _ _ _

/-- The requests under way are what their bodies say. -/
structure TasksParsed (x : IppCrate) (ts : List CancelTask) (us : List IdentifyTask) : Prop where
  cancels : ∀ t ∈ ts, ∃ req, t.Parsed x req
  identifies : ∀ t ∈ us, ∃ req, t.Parsed x req

/-- **One step**: the requests under way stay true to their bodies, and every reply is true to its
    own. -/
theorem RequestsStep.echoes {ts : List CancelTask} {us : List IdentifyTask}
    (hx : o.crate.BuildsResponses) (hr : RequestsStep o s a ts us ev)
    (hts : TasksParsed o.crate s.cancels s.identifies) :
    TasksParsed o.crate ts us ∧
      ∀ name body reply, Event.reply name body reply ∈ ev → reply.Echoes o.crate body := by
  cases hr with
  | refused clock name body reply hg =>
      refine ⟨hts, fun _ _ _ he => ?_⟩
      cases List.mem_singleton.mp he
      exact gates_echo hx _ _ hg
  | answered clock name body req record hg =>
      refine ⟨hts, fun _ _ _ he => ?_⟩
      cases List.mem_singleton.mp he
      have hadm := gates_ok hg
      exact echoes_of_parsed hadm.parsed hadm.version (dispatch_bears hx _ _ _ _ _)
  | listed clock t req ht hop =>
      refine ⟨⟨fun u hu => ?_, hts.identifies⟩, fun _ _ _ he => nomatch he⟩
      rcases List.mem_append.mp hu with hu | hu
      · exact hts.cancels u hu
      · rw [List.mem_singleton.mp hu]
        exact ⟨req, ht⟩
  | asked clock t req record ht hop =>
      refine ⟨⟨hts.cancels, fun u hu => ?_⟩, fun _ _ _ he => nomatch List.mem_singleton.mp he⟩
      rcases List.mem_append.mp hu with hu | hu
      · exact hts.identifies u hu
      · rw [List.mem_singleton.mp hu]
        exact ⟨req, ht⟩
  | canceled i now t todo ht =>
      refine ⟨⟨fun u hu => ?_, hts.identifies⟩, fun _ _ _ he => nomatch he⟩
      rcases Pool.mem_set hu with hu | rfl
      · exact hts.cancels u hu
      · -- the loop goes on with the request it was entered by
        exact hts.cancels t (List.mem_of_getElem? ht)
  | through i now t ht =>
      refine ⟨⟨fun u hu => hts.cancels u (List.mem_of_mem_eraseIdx hu), hts.identifies⟩,
        fun _ _ _ he => ?_⟩
      cases List.mem_singleton.mp he
      obtain ⟨req, hp⟩ := hts.cancels t (List.mem_of_getElem? ht)
      exact hp.echoes hx _
  | identified i t ht =>
      refine ⟨⟨hts.cancels, fun u hu => hts.identifies u (List.mem_of_mem_eraseIdx hu)⟩,
        fun _ _ _ he => ?_⟩
      cases List.mem_singleton.mp he
      obtain ⟨req, hp⟩ := hts.identifies t (List.mem_of_getElem? ht)
      exact hp.echoes hx _
  | other _ _ _ hev =>
      refine ⟨hts, fun name body reply he => ?_⟩
      exact absurd (hev _ he) (Multiset.singleton_ne_zero _)

/-- **Every reply of a run echoes its request**: an IPP response has the request's id, and its
    version where the server speaks it; whatever else is answered is an HTTP error for what the
    client got wrong, never one for the server. -/
theorem replies_echo {G : System → Action → Prop} {d : Deployment}
    (hx : o.crate.BuildsResponses) (h : Run (server o) G (boot d) tr s) :
    ∀ name body reply, Event.reply name body reply ∈ tr → reply.Echoes o.crate body := by
  suffices hinv : TasksParsed o.crate s.cancels s.identifies ∧
      ∀ name body reply, Event.reply name body reply ∈ tr → reply.Echoes o.crate body from hinv.2
  refine Run.invariant (I := fun tr s => TasksParsed o.crate s.cancels s.identifies ∧
    ∀ name body reply, Event.reply name body reply ∈ tr → reply.Echoes o.crate body) ?_ ?_ h
  · exact ⟨⟨fun t ht => (nomatch ht), fun t ht => (nomatch ht)⟩, fun _ _ _ he => (nomatch he)⟩
  · intro tr s a s' ev ⟨hts, htr⟩ _ hs
    obtain ⟨hts', hev⟩ := (step_requests hs).echoes hx hts
    refine ⟨hts', fun name body reply he => ?_⟩
    rcases List.mem_append.mp he with he | he
    · exact htr name body reply he
    · exact hev name body reply he

end Echo

/-- What was answered was answered by a reply in the trace. -/
theorem reply_of_answered {tr : List Event} {name : String} {body : List UInt8}
    (h : 0 < (total Event.answers tr).count (name, body)) :
    ∃ reply, Event.reply name body reply ∈ tr := by
  replace h := Multiset.count_pos.mp h
  induction tr with
  | nil => exact absurd h (Multiset.notMem_zero _)
  | cons e tr ih =>
      rw [total_cons] at h
      rcases Multiset.mem_add.mp h with he | htr
      · cases e with
        | reply name' body' reply =>
            cases reply with
            | panic what => exact absurd he (Multiset.notMem_zero _)
            | _ =>
                cases Multiset.mem_singleton.mp he
                exact ⟨_, List.mem_cons_self⟩
        | _ => exact absurd he (Multiset.notMem_zero _)
      · obtain ⟨reply, hr⟩ := ih htr
        exact ⟨reply, List.mem_cons_of_mem e hr⟩

namespace Trial

/-- A Cancel-My-Jobs that a Cancel-Job overtakes. -/
def overtaken : List Event :=
  traceOf (server options) anyStep (boot deployment)
    [post "p" print, post "p" cancelMine, post "p" cancelUnknown, .cancelNext 0 2000000000,
      .cancelNext 0 2000000000]

end Trial

theorem replies_echo_overtaken :
    ∃ reply, .reply "p" Trial.cancelMine.body reply ∈ Trial.overtaken ∧
      reply.Echoes Trial.crate Trial.cancelMine.body := by
  have hanswered : 0 < (total Event.answers Trial.overtaken).count
      ("p", Trial.cancelMine.body) := by decide +kernel
  obtain ⟨reply, hr⟩ := reply_of_answered hanswered
  exact ⟨reply, hr, replies_echo Trial.crate_buildsResponses
    (run_endOf (M := server Trial.options) (by decide +kernel)) "p" Trial.cancelMine.body reply hr⟩

end IppPrinterApp
