/-
  File:      IppPrinterApp/Cancels.lean
  Subject:   What a Cancel-Job is told.

  `JobRegistry::cancel` returns the state it leaves the job in, and the handler reads from it what
  happened: Canceled is a success, another terminal state an error. A job that was Canceled before
  is left Canceled too.

  * `CancelAnswer`, `canceling` -- the Cancel-Jobs of a run, noted beside it: the reply, and the
    state of the job before and after;
  * `cancelJob_answers` -- the reply of a Cancel-Job, from the state it finds;
  * `NotRevived`, `run_moved_once` -- a job that is not revived is canceled by one request at most;
  * `cancel_answers_iff`: **a Cancel-Job is told what it did exactly if it does not find the job
    Canceled**, and so at most one cancel of a job is acknowledged;
  * `canceled_twice` is a job canceled by two requests, both acknowledged.
-/
import IppPrinterApp.Lifecycle

namespace IppPrinterApp

open Transition

/-! ## 1. The Cancel-Jobs of a run -/

/-- A Cancel-Job that was answered: where the job it refers to is, if there is one, and the states
    of that job before and after. -/
structure CancelAnswer where
  name : String
  body : List UInt8
  reply : Reply
  slot : Option Nat
  before : Option JobState
  after : Option JobState

/-- The request took the job from a non-terminal state to Canceled. -/
def CancelAnswer.moved (c : CancelAnswer) : Bool :=
  c.before.any (fun st => !st.isTerminal) && c.after == some .canceled

/-- The position of the job a request refers to. -/
def AppState.slotFor (app : AppState) (req : IppRequest) : Option Nat :=
  ((extractJobId req).bind app.jobs.get).map fun j => app.jobs.slotOf j.id

/-- The state of the job at a position. -/
def JobRegistry.stateAt (g : JobRegistry) (slot : Option Nat) : Option JobState :=
  slot.bind fun k => g.jobs[k]?.map (·.state)

/-- The Cancel-Job a step answers. -/
def cancelAnswer (o : Options) (s : System) : Action → Option CancelAnswer
  | .request clock name body =>
    match gates o.crate s.app name body with
    | .ok (req, record) =>
      if operationOf o.crate req.operationOrStatus = .cancelJob then
        let h := dispatch o.crate clock s.app name req record
        some { name, body, reply := h.reply, slot := s.app.slotFor req
               before := s.app.jobs.stateAt (s.app.slotFor req)
               after := h.app.jobs.stateAt (s.app.slotFor req) }
      else none
    | .error _ => none
  | _ => none

/-- The server with the Cancel-Jobs it answered, oldest first. -/
def canceling (o : Options) : Machine (System × List CancelAnswer) Action Event :=
  (server o).withHistory fun log s a => log ++ (cancelAnswer o s a).toList

/-- The reply is an IPP response with the status. -/
def Reply.HasStatus (reply : Reply) (status : IppStatus) : Prop :=
  ∃ resp, reply = .ok resp ∧ resp.status = status

/-- **A Cancel-Job is told what it did**: success if and only if it moved the job to Canceled, and
    that this is not possible if it found the job in a terminal state. -/
structure CancelAnswer.Rightly (c : CancelAnswer) : Prop where
  acknowledged : c.reply.Successful ↔ c.moved = true
  refused : ∀ st ∈ c.before, st.isTerminal = true → c.reply.HasStatus .clientErrorNotPossible

theorem Reply.HasStatus.successful {reply : Reply} {status : IppStatus}
    (h : reply.HasStatus status) : reply.Successful ↔ status = .successfulOk := by
  obtain ⟨resp, rfl, rfl⟩ := h
  exact Iff.rfl

/-! ## 2. One Cancel-Job -/

/-- The status a Cancel-Job is answered with, from the state it finds. -/
def cancelStatus : JobState → IppStatus
  | .aborted | .completed => .clientErrorNotPossible
  | _ => .successfulOk

section Answer

variable {x : IppCrate} {clock : Clock} {app : AppState} {name : String} {req : IppRequest}

/-- A Cancel-Job that refers to no job is no success. -/
theorem cancelJob_without_job (hx : x.BuildsResponses)
    (h : (extractJobId req).bind app.jobs.get = none) :
    ¬(cancelJob x clock app req).reply.Successful := by
  unfold cancelJob
  cases hid : extractJobId req with
  | none => exact id
  | some id =>
      rw [hid, Option.bind_some] at h
      dsimp only [JobRegistry.cancel]
      rw [h]
      exact fun hs => absurd ((respond_successful hx _ _ _).mp hs) nofun

/-- A Cancel-Job that refers to a job is answered by the state of the job. -/
theorem cancelJob_of_job (hx : x.BuildsResponses) {id : JobId} {j : JobRecord}
    (hid : extractJobId req = some id) (hj : app.jobs.get id = some j) :
    (cancelJob x clock app req).reply.HasStatus (cancelStatus j.state) ∧
      (cancelJob x clock app req).app.jobs.jobs[app.jobs.slotOf id]? =
        some (j.withCancel clock.now) := by
  unfold cancelJob
  rw [hid]
  dsimp only [JobRegistry.cancel, AppState.answer]
  constructor
  · rw [hj, Option.map_some, JobRecord.withCancel_state]
    cases j.state <;> exact respond_ok hx _ _ _
  · rw [JobRegistry.update_getElem?, if_pos rfl, ← JobRegistry.get_eq_getElem?, hj]
    rfl

/-- **The reply of a Cancel-Job**: without a job it is an error, and otherwise it depends on the
    state of the job only. -/
theorem cancelJob_answers (hx : x.BuildsResponses) :
    match app.jobs.stateAt (app.slotFor req) with
    | none => ¬(cancelJob x clock app req).reply.Successful
    | some st => (cancelJob x clock app req).reply.HasStatus (cancelStatus st) ∧
        (cancelJob x clock app req).app.jobs.stateAt (app.slotFor req) =
          some (if st.isTerminal then st else .canceled) := by
  unfold AppState.slotFor
  cases hj : (extractJobId req).bind app.jobs.get with
  | none => exact cancelJob_without_job hx hj
  | some j =>
      obtain ⟨id, hid, hget⟩ := Option.bind_eq_some_iff.mp hj
      obtain ⟨hreply, hafter⟩ := @cancelJob_of_job x clock app req hx id j hid hget
      have hbefore : app.jobs.jobs[app.jobs.slotOf id]? = some j := by
        rw [← JobRegistry.get_eq_getElem?]
        exact hget
      unfold JobRegistry.stateAt
      rw [Option.map_some, JobRegistry.get_id hget, Option.bind_some, Option.bind_some, hbefore,
        hafter, Option.map_some, Option.map_some, JobRecord.withCancel_state]
      exact ⟨hreply, rfl⟩

end Answer

section Step

variable {o : Options} {s s' : System} {a : Action} {ev tr : List Event} {c : CancelAnswer}

/-- What is noted is a Cancel-Job that passes the checks, as the dispatch answers it. -/
theorem cancelAnswer_some (hc : cancelAnswer o s a = some c) :
    ∃ clock name body req record, a = .request clock name body ∧
      gates o.crate s.app name body = .ok (req, record) ∧
      operationOf o.crate req.operationOrStatus = .cancelJob ∧
      c =
        { name, body, slot := s.app.slotFor req
          reply := (dispatch o.crate clock s.app name req record).reply
          before := s.app.jobs.stateAt (s.app.slotFor req)
          after := (dispatch o.crate clock s.app name req record).app.jobs.stateAt
            (s.app.slotFor req) } := by
  unfold cancelAnswer at hc
  split at hc
  · rename_i clock name body
    split at hc
    · rename_i req record hg
      split at hc
      · rename_i hop
        exact ⟨clock, name, body, req, record, rfl, hg, hop, (Option.some.inj hc).symm⟩
      · cases hc
    · cases hc
  · cases hc

/-- **What is noted is what happened**: the reply is sent in the step, and the states are those of
    the job before and after it. -/
theorem step_cancelAnswer (h : step o s a = some (s', ev)) (hc : cancelAnswer o s a = some c) :
    Event.reply c.name c.body c.reply ∈ ev ∧ c.before = s.app.jobs.stateAt c.slot ∧
      c.after = s'.app.jobs.stateAt c.slot := by
  obtain ⟨clock, name, body, req, record, rfl, hg, hop, rfl⟩ := cancelAnswer_some hc
  rcases step_request h with ⟨_, hg', _⟩ | ⟨_, _, _, hg', hop', _⟩ | ⟨_, _, _, hg', hop', _⟩ |
    ⟨_, _, hg', _, rfl, rfl⟩
  · rw [hg] at hg'
    cases hg'
  · rw [hg] at hg'
    cases hg'
    rw [hop] at hop'
    cases hop'
  · rw [hg] at hg'
    cases hg'
    rw [hop] at hop'
    cases hop'
  · rw [hg] at hg'
    cases hg'
    exact ⟨List.mem_cons_self, rfl, rfl⟩

/-- The reply noted, from the state noted. -/
theorem cancelAnswer_status (hx : o.crate.BuildsResponses) (hc : cancelAnswer o s a = some c) :
    match c.before with
    | none => ¬c.reply.Successful
    | some st => c.reply.HasStatus (cancelStatus st) ∧
        c.after = some (if st.isTerminal then st else .canceled) := by
  obtain ⟨clock, name, body, req, record, rfl, hg, hop, rfl⟩ := cancelAnswer_some hc
  rw [dispatch_cancelJob hop]
  exact cancelJob_answers hx

/-- **A Cancel-Job is told what it did exactly if it does not find the job Canceled.** -/
theorem rightly_iff (hx : o.crate.BuildsResponses) (hc : cancelAnswer o s a = some c) :
    c.Rightly ↔ c.before ≠ some .canceled := by
  have hspec := cancelAnswer_status hx hc
  cases hb : c.before with
  | none =>
      rw [hb] at hspec
      refine ⟨fun _ => nofun, fun _ => ⟨⟨fun h => absurd h hspec, fun h => ?_⟩, fun st hst => ?_⟩⟩
      · unfold CancelAnswer.moved at h
        rw [hb] at h
        cases h
      · rw [hb] at hst
        cases hst
  | some st =>
      rw [hb] at hspec
      obtain ⟨hreply, hafter⟩ := hspec
      have hmoved : c.moved = !st.isTerminal := by
        unfold CancelAnswer.moved
        rw [hb, hafter]
        cases st <;> rfl
      constructor
      · rintro hright he
        cases he
        have hacked := hright.acknowledged.mp (hreply.successful.mpr rfl)
        rw [hmoved] at hacked
        cases hacked
      · intro hne
        refine ⟨?_, fun st' hst' ht => ?_⟩
        · rw [hreply.successful, hmoved]
          cases st <;> simp [cancelStatus, JobState.isTerminal] at hne ⊢
        · rw [hb] at hst'
          cases hst'
          cases st with
          | canceled => exact absurd rfl hne
          | aborted => exact hreply
          | completed => exact hreply
          | _ => cases ht

end Step

/-! ## 3. Runs -/

/-- The step does not revive the job at a position: if it is terminal, it stays so. -/
def NotRevived (o : Options) (k : Nat) (p : System × List CancelAnswer) (a : Action) : Prop :=
  ∀ r ∈ step o p.1 a, ∀ j ∈ p.1.app.jobs.jobs[k]?, j.state.isTerminal = true →
    ∀ j' ∈ r.1.app.jobs.jobs[k]?, j'.state.isTerminal = true

instance (o : Options) (k : Nat) : DecidableRel (NotRevived o k) := fun p a => by
  unfold NotRevived
  infer_instance

/-- The request refers to the job at a position and moved it. -/
def CancelAnswer.movedAt (k : Nat) (c : CancelAnswer) : Bool := c.slot == some k && c.moved

/-- The request refers to the job at a position and was acknowledged. -/
def CancelAnswer.acknowledgedAt (k : Nat) (c : CancelAnswer) : Bool :=
  c.slot == some k && decide c.reply.Successful

section Runs

variable {o : Options} {s s' : System} {a : Action} {ev tr : List Event} {log : List CancelAnswer}
  {d : Deployment} {k : Nat}

/-- Workers that respect terminal states revive nothing. -/
theorem notRevived_of_respectsTerminal {p : System × List CancelAnswer}
    (h : RespectsTerminal p.1 a) : NotRevived o k p a := by
  intro r hr j hj ht j' hj'
  have hkeep := (respectsTerminal_iff (Option.mem_def.mp hr)).mp h k j j' hj ht hj'
  rw [hkeep]
  exact ht

/-- **A job that is not revived is moved to Canceled by one Cancel-Job at most.** -/
theorem run_moved_once (h : Run (canceling o) (NotRevived o k) (boot d, []) tr (s, log)) :
    log.countP (CancelAnswer.movedAt k) ≤ 1 := by
  refine Run.noted_once (M := server o) (cancelAnswer o)
    (fun s => ∃ j, s.app.jobs.jobs[k]? = some j ∧ j.state.isTerminal = true) _ ?_ ?_ h
  · intro s a s' ev c hs hc hmoved
    obtain ⟨hslot, hm⟩ := Bool.and_eq_true_iff.mp hmoved
    obtain ⟨hb, ha⟩ := Bool.and_eq_true_iff.mp hm
    obtain ⟨-, hbefore, hafter⟩ := step_cancelAnswer hs hc
    rw [beq_iff_eq.mp hslot] at hbefore hafter
    rw [hbefore] at hb
    rw [hafter] at ha
    constructor
    · rintro ⟨j, hj, ht⟩
      unfold JobRegistry.stateAt at hb
      rw [Option.bind_some, hj, Option.map_some, Option.any_some, ht] at hb
      cases hb
    · obtain ⟨j, hj, hst⟩ := Option.map_eq_some_iff.mp (beq_iff_eq.mp ha)
      exact ⟨j, hj, by rw [hst]; rfl⟩
  · rintro q a s' ev hg hs ⟨j, hj, ht⟩
    obtain ⟨j', hj', -⟩ := (step_jobs hs).change hj
    exact ⟨j', hj', hg _ hs j hj ht j' hj'⟩

/-- Every Cancel-Job noted in a run has its reply in the trace, and is told what it did exactly if
    it does not find the job Canceled. -/
theorem run_answers {G : System × List CancelAnswer → Action → Prop}
    (hx : o.crate.BuildsResponses) (h : Run (canceling o) G (boot d, []) tr (s, log)) :
    ∀ c ∈ log, Event.reply c.name c.body c.reply ∈ tr ∧
      (c.Rightly ↔ c.before ≠ some .canceled) := by
  refine Run.invariant (I := fun tr p => ∀ c ∈ p.2, Event.reply c.name c.body c.reply ∈ tr ∧
    (c.Rightly ↔ c.before ≠ some .canceled)) ?_ ?_ h
  · exact nofun
  · intro tr p a p' ev hI _ hs c hc
    obtain ⟨hstep, hlog⟩ := step_withHistory hs
    rw [hlog] at hc
    rcases List.mem_append.mp hc with hc | hc
    · exact ⟨List.mem_append_left _ (hI c hc).1, (hI c hc).2⟩
    · have hnote := Option.mem_toList.mp hc
      exact ⟨List.mem_append_right _ (step_cancelAnswer hstep hnote).1, rightly_iff hx hnote⟩

/-- **The Cancel-Jobs of every run**: each is told what it did if and only if it does not find the
    job Canceled; and of the cancels of a job that is not revived, none of which finds it Canceled,
    at most one is acknowledged. -/
theorem cancel_answers_iff (hx : o.crate.BuildsResponses)
    (h : Run (canceling o) anyStep (boot d, []) tr (s, log)) :
    (∀ c ∈ log, Event.reply c.name c.body c.reply ∈ tr ∧
      (c.Rightly ↔ c.before ≠ some .canceled)) ∧
    ∀ k, Run (canceling o) (NotRevived o k) (boot d, []) tr (s, log) →
      (∀ c ∈ log, c.slot = some k → c.before ≠ some .canceled) →
      log.countP (CancelAnswer.acknowledgedAt k) ≤ 1 := by
  have hall := run_answers hx h
  refine ⟨hall, fun k hrun hfresh => ?_⟩
  have hsame : log.countP (CancelAnswer.acknowledgedAt k) =
      log.countP (CancelAnswer.movedAt k) := by
    refine List.countP_congr fun c hc => ?_
    unfold CancelAnswer.acknowledgedAt CancelAnswer.movedAt
    rw [Bool.and_eq_true, Bool.and_eq_true, decide_eq_true_iff]
    refine and_congr_right fun hslot => ?_
    exact ((hall c hc).2.mpr (hfresh c hc (beq_iff_eq.mp hslot))).acknowledged
  rw [hsame]
  exact run_moved_once hrun

end Runs

/-! ## 4. A job canceled twice -/

namespace Trial

/-- A job is created, and canceled by so many requests. -/
def canceledTimes (n : Nat) : List Action := post "p" create :: times n (post "p" cancel)

/-- A job is printed, and canceled twice after it has completed. -/
def lateCancels : List Action :=
  [post "p" print] ++ times 4 (.worker 0 5) ++ [.outcome 0 .completed] ++ times 7 (.worker 0 6) ++
    times 2 (post "p" cancel)

/-- Where a script ends, with the Cancel-Jobs of it. -/
def afterCancels (script : List Action) : System × List CancelAnswer :=
  endOf (canceling options) (NotRevived options 0) (boot deployment, []) script

theorem run_cancels {script : List Action} (h : (exec (canceling options) (NotRevived options 0)
    (boot deployment, []) script).isSome = true) :
    Run (canceling options) (NotRevived options 0) (boot deployment, [])
      (traceOf (canceling options) (NotRevived options 0) (boot deployment, []) script)
      ((afterCancels script).1, (afterCancels script).2) :=
  run_endOf_pair h

end Trial

/-- One cancel in time, and two that are too late. -/
theorem cancel_answers_iff_late :
    ((Trial.afterCancels (Trial.canceledTimes 1)).2.map (·.before) = [some .pending] ∧
      (∀ c ∈ (Trial.afterCancels (Trial.canceledTimes 1)).2, c.Rightly) ∧
      (Trial.afterCancels (Trial.canceledTimes 1)).2.countP (CancelAnswer.acknowledgedAt 0) ≤ 1) ∧
    (Trial.afterCancels Trial.lateCancels).2.map (·.before) =
      [some .completed, some .completed] ∧
    (∀ c ∈ (Trial.afterCancels Trial.lateCancels).2, c.Rightly) ∧
    (Trial.afterCancels Trial.lateCancels).2.countP (CancelAnswer.acknowledgedAt 0) ≤ 1 := by
  have hright : ∀ script : List Action,
      (exec (canceling Trial.options) (NotRevived Trial.options 0) (boot Trial.deployment, [])
        script).isSome = true →
      (∀ c ∈ (Trial.afterCancels script).2, c.before ≠ some .canceled) →
      (∀ c ∈ (Trial.afterCancels script).2, c.Rightly) ∧
        (Trial.afterCancels script).2.countP (CancelAnswer.acknowledgedAt 0) ≤ 1 := by
    intro script hexec hfresh
    have hrun := Trial.run_cancels hexec
    obtain ⟨hall, honce⟩ := cancel_answers_iff Trial.crate_buildsResponses hrun.any
    exact ⟨fun c hc => (hall c hc).2.mpr (hfresh c hc), honce 0 hrun fun c hc _ => hfresh c hc⟩
  constructor
  · exact ⟨by decide +kernel, hright _ (by decide +kernel) (by decide +kernel)⟩
  · exact ⟨by decide +kernel, hright _ (by decide +kernel) (by decide +kernel)⟩

/-- **A job canceled by two requests**: both are acknowledged, the second one for nothing. -/
theorem canceled_twice :
    ¬ (∀ (o : Options) (d : Deployment) (tr : List Event) (s : System) (log : List CancelAnswer),
        o.crate.BuildsResponses → Run (canceling o) anyStep (boot d, []) tr (s, log) →
        ∀ c ∈ log, c.Rightly) ∧
    ¬ (∀ (o : Options) (d : Deployment) (tr : List Event) (s : System) (log : List CancelAnswer)
        (k : Nat), o.crate.BuildsResponses →
        Run (canceling o) (NotRevived o k) (boot d, []) tr (s, log) →
        log.countP (CancelAnswer.acknowledgedAt k) ≤ 1) := by
  have hrun : Run (canceling Trial.options) (NotRevived Trial.options 0)
      (boot Trial.deployment, []) _ ((Trial.afterCancels (Trial.canceledTimes 2)).1,
        (Trial.afterCancels (Trial.canceledTimes 2)).2) :=
    Trial.run_cancels (by decide +kernel)
  constructor
  · intro h
    have hall := h Trial.options Trial.deployment _ _ _ Trial.crate_buildsResponses hrun.any
    have hsome : ∃ c ∈ (Trial.afterCancels (Trial.canceledTimes 2)).2,
        c.reply.Successful ∧ c.moved = false := by
      decide +kernel
    obtain ⟨c, hc, hs, hm⟩ := hsome
    rw [(hall c hc).acknowledged.mp hs] at hm
    cases hm
  · intro h
    have hle := h Trial.options Trial.deployment _ _ _ 0 Trial.crate_buildsResponses hrun
    have htwo : (Trial.afterCancels (Trial.canceledTimes 2)).2.countP
        (CancelAnswer.acknowledgedAt 0) = 2 := by
      decide +kernel
    omega

end IppPrinterApp
