/-
  File:      IppPrinterApp/Queries.lean
  Subject:   Requests that only look.

  Six operations do something: Print-Job, Create-Job, Send-Document, Cancel-Job, Cancel-My-Jobs and
  Identify-Printer. Whoever sends anything else -- the other operations, operations nobody knows,
  octets that are no message -- gets an answer and leaves the state as it was. There is one thing a
  query may leave behind: the uptime counts from the first response that shows it.

  * `uptimed` -- the server with the start of its uptime clock;
  * `queries_unnoticed`: **once that clock has started, whatever is asked, and however often, nobody
    else notices** -- without the queries a run ends in the same state, and everything else is seen
    of it in the same order.
-/
import IppPrinterApp.Answers

namespace IppPrinterApp

open Transition

/-! ## 1. Requests that do nothing -/

/-- The operations that do something. -/
def Operation.acts : Operation → Bool
  | printJob => true
  | createJob => true
  | sendDocument => true
  | cancelJob => true
  | cancelMyJobs => true
  | identifyPrinter => true
  | _ => false

/-- The octets ask for something and do nothing. -/
def isQuery (x : IppCrate) (body : List UInt8) : Bool :=
  match x.parse body with
  | .ok req => !(operationOf x req.operationOrStatus).acts
  | .error _ => true

/-- A query arrives. -/
def Action.isQuery (x : IppCrate) : Action → Bool
  | request _ _ body => IppPrinterApp.isQuery x body
  | _ => false

/-- What is seen besides the replies to queries. -/
def Event.besidesQueries (x : IppCrate) : Event → Bool
  | reply _ body _ => !isQuery x body
  | _ => true

section Queries

variable {x : IppCrate} {clock : Clock} {app : AppState} {name : String} {req : IppRequest}
  {record : PrinterRecord} {body : List UInt8}

/-- A query leaves everything as it was. -/
theorem dispatch_query (h : (operationOf x req.operationOrStatus).acts = false) :
    (dispatch x clock app name req record).app = app ∧
      (dispatch x clock app name req record).spawned = none := by
  unfold dispatch
  cases hop : operationOf x req.operationOrStatus with
  | getJobAttributes => exact getJobAttributes_app x clock app req record
  | closeJob => exact ⟨rfl, rfl⟩
  | getPrinterAttributes => exact ⟨rfl, rfl⟩
  | validateJob => exact ⟨rfl, rfl⟩
  | getJobs => exact ⟨rfl, rfl⟩
  | unsupported => exact ⟨rfl, rfl⟩
  | unknown => exact ⟨rfl, rfl⟩
  | _ => rw [hop] at h; cases h

theorem isQuery_parsed (hp : x.parse body = .ok req) :
    isQuery x body = !(operationOf x req.operationOrStatus).acts := by
  unfold isQuery
  rw [hp]

variable {o : Options} {s s' : System} {a : Action} {ev tr : List Event}

/-- **A query's step** changes nothing, and all that is seen of it is its own. -/
theorem step_query (hq : a.isQuery o.crate = true) (h : step o s a = some (s', ev)) :
    s' = s ∧ ∀ e ∈ ev, e.besidesQueries o.crate = false := by
  cases a with
  | request clock name body =>
      have hown : isQuery o.crate body = true := hq
      have hreply : ∀ reply, ∀ e ∈ [Event.reply name body reply],
          e.besidesQueries o.crate = false := by
        intro reply e he
        rw [List.mem_singleton.mp he]
        simp [Event.besidesQueries, hown]
      rcases step_request h with ⟨reply, _, hs', rfl⟩ | ⟨req, _, _, hg, hop, _⟩ |
        ⟨req, _, _, hg, hop, _⟩ | ⟨req, record, hg, _, hs', rfl⟩
      · exact ⟨hs', hreply reply⟩
      · rw [isQuery_parsed (gates_ok hg).parsed, hop] at hown
        cases hown
      · rw [isQuery_parsed (gates_ok hg).parsed, hop] at hown
        cases hown
      · have hno : (operationOf o.crate req.operationOrStatus).acts = false := by
          rw [isQuery_parsed (gates_ok hg).parsed] at hown
          simpa using hown
        have hsame : (dispatch o.crate clock s.app name req record).app = s.app ∧
            (dispatch o.crate clock s.app name req record).spawned = none := dispatch_query hno
        obtain ⟨happ, hspawn⟩ := hsame
        refine ⟨?_, hreply _⟩
        rw [hs', happ, hspawn]
        simp
  | _ => cases hq

/-! ## 2. Requests under way -/

/-- The requests under way are no queries. -/
structure System.TasksAct (o : Options) (s : System) : Prop where
  cancels : ∀ t ∈ s.cancels, isQuery o.crate t.body = false
  identifies : ∀ t ∈ s.identifies, isQuery o.crate t.body = false

theorem step_tasksAct (hI : s.TasksAct o) (h : step o s a = some (s', ev)) : s'.TasksAct o := by
  have hacts : ∀ {body : List UInt8} {version : IppVersion} {requestId : Nat} {req : IppRequest},
      KeptOf o.crate body version requestId req →
      (operationOf o.crate req.operationOrStatus).acts = true → isQuery o.crate body = false := by
    intro body version requestId req hk hop
    rw [isQuery_parsed hk.parsed, hop]
    rfl
  obtain ⟨hcancels, hidentifies⟩ := hI
  suffices hsuff : (∀ t ∈ s'.cancels, isQuery o.crate t.body = false) ∧
      ∀ t ∈ s'.identifies, isQuery o.crate t.body = false from ⟨hsuff.1, hsuff.2⟩
  have hr := step_requests h
  generalize s'.cancels = ts at hr ⊢
  generalize s'.identifies = us at hr ⊢
  cases hr with
  | refused => exact ⟨hcancels, hidentifies⟩
  | answered => exact ⟨hcancels, hidentifies⟩
  | listed clock t req ht hop =>
      refine ⟨fun u hu => ?_, hidentifies⟩
      rcases List.mem_append.mp hu with hu | hu
      · exact hcancels u hu
      · rw [List.mem_singleton.mp hu]
        exact hacts ht (by rw [hop]; rfl)
  | asked clock t req record ht hop =>
      refine ⟨hcancels, fun u hu => ?_⟩
      rcases List.mem_append.mp hu with hu | hu
      · exact hidentifies u hu
      · rw [List.mem_singleton.mp hu]
        exact hacts ht (by rw [hop]; rfl)
  | canceled i now t todo ht =>
      refine ⟨fun u hu => ?_, hidentifies⟩
      rcases Pool.mem_set hu with hu | rfl
      · exact hcancels u hu
      · exact hcancels t (List.mem_of_getElem? ht)
  | through i now t ht =>
      exact ⟨fun u hu => hcancels u (List.mem_of_mem_eraseIdx hu), hidentifies⟩
  | identified i t ht =>
      exact ⟨hcancels, fun u hu => hidentifies u (List.mem_of_mem_eraseIdx hu)⟩
  | other => exact ⟨hcancels, hidentifies⟩

/-- **Any other step** is seen whole. -/
theorem step_besidesQueries (hI : s.TasksAct o) (hq : a.isQuery o.crate = false)
    (h : step o s a = some (s', ev)) : ∀ e ∈ ev, e.besidesQueries o.crate = true := by
  intro e he
  cases step_event h he with
  | refused => exact Bool.not_eq_true' _ |>.mpr hq
  | replied => exact Bool.not_eq_true' _ |>.mpr hq
  | canceled i now t ht =>
      exact Bool.not_eq_true' _ |>.mpr (hI.cancels t (List.mem_of_getElem? ht))
  | identified i t ht =>
      exact Bool.not_eq_true' _ |>.mpr (hI.identifies t (List.mem_of_getElem? ht))
  | _ => rfl

/-! ## 3. The uptime clock -/

/-- The action, with the uptime it reads if it reads one. -/
def Action.withUptime (uptime : Nat) : Action → Action
  | request clock name body => .request { clock with uptime } name body
  | a => a

theorem Action.isQuery_withUptime (x : IppCrate) (uptime : Nat) (a : Action) :
    (a.withUptime uptime).isQuery x = a.isQuery x := by
  cases a <;> rfl

/-- **The server with the start of its uptime clock**, each action at an instant. `reads` says which
    actions read that clock: the responses with the attributes of a printer or of a job. -/
def uptimed (o : Options) (reads : System → Action → Bool) :
    Machine (System × Option Instant) (Action × Instant) Event where
  step p a :=
    let reading := uptimeSecs p.2 a.2
    (step o p.1 (a.1.withUptime reading.1)).map fun r =>
      ((r.1, if reads p.1 a.1 then reading.2 else p.2), r.2)

variable {reads : System → Action → Bool} {p p' : System × Option Instant} {b : Action × Instant}

theorem step_uptimed (h : (uptimed o reads).step p b = some (p', ev)) :
    step o p.1 (b.1.withUptime (uptimeSecs p.2 b.2).1) = some (p'.1, ev) ∧
      p'.2 = if reads p.1 b.1 then (uptimeSecs p.2 b.2).2 else p.2 := by
  obtain ⟨⟨s', ev'⟩, hs, e⟩ := Option.map_eq_some_iff.mp h
  cases e
  exact ⟨hs, rfl⟩

/-- The uptime clock starts once. -/
theorem step_started_uptime {start : Instant} (hp : p.2 = some start)
    (h : (uptimed o reads).step p b = some (p', ev)) : p'.2 = some start := by
  rw [(step_uptimed h).2, hp]
  exact ite_self _

/-- **Once the uptime clock has started, whatever is asked, nobody else notices**: without its
    queries, a run ends in the same state, and what is seen of it besides them is the same, in the
    same order, the uptimes included. -/
theorem queries_unnoticed {G : System × Option Instant → Action × Instant → Prop} {d : Deployment}
    {tr₀ : List Event} {s₀ : System} {start : Instant} {q : System × Option Instant}
    (h₀ : Run (uptimed o reads) anyStep (boot d, none) tr₀ (s₀, some start))
    (h : Run (uptimed o reads) G (s₀, some start) tr q) :
    Run (uptimed o reads) (fun p b => G p b ∧ b.1.isQuery o.crate = false) (s₀, some start)
      (tr.filter fun e => e.besidesQueries o.crate) q := by
  have hstart : s₀.TasksAct o := by
    have hall : (s₀, some start).1.TasksAct o := by
      refine Run.always (I := fun p => p.1.TasksAct o) ?_ ?_ h₀
      · exact ⟨fun _ ht => absurd ht List.not_mem_nil, fun _ ht => absurd ht List.not_mem_nil⟩
      · exact fun _ _ _ _ hI _ hs => step_tasksAct hI (step_uptimed hs).1
    exact hall
  refine Run.erase (I := fun p => p.1.TasksAct o ∧ p.2 = some start) ⟨hstart, rfl⟩ ?_ ?_ ?_ h
  · exact fun _ _ _ _ hI hs =>
      ⟨step_tasksAct hI.1 (step_uptimed hs).1, step_started_uptime hI.2 hs⟩
  · intro p b p' ev hI hq hs
    obtain ⟨hsame, hev⟩ := step_query ((Action.isQuery_withUptime _ _ b.1).trans hq)
      (step_uptimed hs).1
    exact ⟨Prod.ext hsame ((step_started_uptime hI.2 hs).trans hI.2.symm), hev⟩
  · intro p b p' ev hI hq hs
    exact step_besidesQueries hI.1 ((Action.isQuery_withUptime _ _ b.1).trans hq)
      (step_uptimed hs).1

end Queries

namespace Trial

/-- The uptime clock is read by the Send-Documents. -/
def sends : System → Action → Bool
  | _, .request _ _ body => body == send.body
  | _, _ => false

/-- A job is created, and its document sent: the uptime counts from there. -/
def started : System × Option Instant :=
  endOf (uptimed options sends) anyStep (boot deployment, none)
    [(post "p" create, 2000000000), (post "p" send, 5000000000)]

theorem started_run : Run (uptimed options sends) anyStep (boot deployment, none)
    (traceOf (uptimed options sends) anyStep (boot deployment, none)
      [(post "p" create, 2000000000), (post "p" send, 5000000000)])
    (started.1, some 5000000000) := by
  have hstart : started.2 = some 5000000000 := by decide +kernel
  rw [← hstart]
  exact run_endOf_pair (by decide +kernel)

/-- The job is asked after before its worker starts, while it prints and when it is done. -/
def askedAfter : List (Action × Instant) :=
  ([post "p" close, post "p" close] ++ times 4 (.worker 0 5) ++ [post "p" close] ++
    [Action.outcome 0 .completed] ++ times 7 (.worker 0 6) ++ [post "p" close, post "p" send]).map
      fun a => (a, 9000000000)

def asked : System × Option Instant :=
  endOf (uptimed options sends) anyStep (started.1, some 5000000000) askedAfter

def askedTrace : List Event :=
  traceOf (uptimed options sends) anyStep (started.1, some 5000000000) askedAfter

example : askedTrace.length = 7 ∧
    (askedTrace.filter fun e => e.besidesQueries crate).length = 3 := by
  decide +kernel

end Trial

theorem queries_unnoticed_closed :
    Run (uptimed Trial.options Trial.sends)
      (fun p b => anyStep p b ∧ b.1.isQuery Trial.options.crate = false)
      (Trial.started.1, some 5000000000)
      (Trial.askedTrace.filter fun e => e.besidesQueries Trial.options.crate) Trial.asked :=
  queries_unnoticed Trial.started_run (run_endOf (by decide +kernel))

end IppPrinterApp
