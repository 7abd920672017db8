/-
  File:      IppPrinterApp/CancelMyJobs.lean
  Subject:   What Cancel-My-Jobs cancels.

  The handler lists the jobs of the printer and cancels them one after the other, by id. It does
  not look at who asks: every job of the printer that is not terminal is canceled, where Get-Jobs
  with `my-jobs` keeps to the jobs of the requesting user.

  * `cancelAll_getElem?`: the loop, position by position -- a job is canceled iff an id of the list
    refers to it, however often;
  * `handleIpp_run`: **a request left alone ends as the handler does**, the loop included;
  * `cancel_my_jobs_own`: **the requesting user's jobs are canceled, and no others, exactly when
    nobody else has an open job on the printer**. `other_users_job_canceled` is the run with two
    users.
-/
import IppPrinterApp.Documents

namespace IppPrinterApp

open Transition

/-! ## 1. The loop -/

namespace JobRegistry

/-- Cancels of the ids of a list, one after the other. -/
def cancelAll (now : SystemTime) (ids : List JobId) (g : JobRegistry) : JobRegistry :=
  ids.foldl (fun g id => (g.cancel now id).2) g

/-- A cancel leaves every id where it was. -/
@[simp] theorem slotOf_cancel (g : JobRegistry) (now : SystemTime) (id id' : JobId) :
    (g.cancel now id).2.slotOf id' = g.slotOf id' :=
  slotOf_update (fun j => JobOp.apply_id .cancel now j) id id'

/-- **What the loop does**: it cancels the jobs the ids refer to and leaves the others alone. -/
theorem cancelAll_getElem? (now : SystemTime) (ids : List JobId) (g : JobRegistry) (k : Nat) :
    (g.cancelAll now ids).jobs[k]? =
      if ∃ id ∈ ids, g.slotOf id = k then g.jobs[k]?.map (·.withCancel now) else g.jobs[k]? := by
  induction ids generalizing g with
  | nil => rw [if_neg (by simp)]; rfl
  | cons id ids ih =>
      have hstep := update_getElem? g id (·.withCancel now) k
      have hrest := ih (g.cancel now id).2
      simp only [slotOf_cancel] at hrest
      refine hrest.trans ?_
      have hcons : (∃ i ∈ id :: ids, g.slotOf i = k) ↔
          g.slotOf id = k ∨ ∃ i ∈ ids, g.slotOf i = k := by
        rw [List.exists_mem_cons_iff]
      by_cases hs : g.slotOf id = k
      · have e : (g.cancel now id).2.jobs[k]? = g.jobs[k]?.map (·.withCancel now) :=
          hstep.trans (if_pos hs)
        rw [e, if_pos (hcons.mpr (Or.inl hs)), Option.map_map]
        -- canceled once more, or not
        have htwice : (fun j : JobRecord => j.withCancel now) ∘ (fun j : JobRecord => j.withCancel now) =
            fun (j : JobRecord) => j.withCancel now := funext (JobRecord.withCancel_withCancel now)
        rw [htwice, ite_self]
      · have e : (g.cancel now id).2.jobs[k]? = g.jobs[k]? := hstep.trans (if_neg hs)
        rw [e]
        by_cases hr : ∃ i ∈ ids, g.slotOf i = k
        · rw [if_pos hr, if_pos (hcons.mpr (Or.inr hr))]
        · rw [if_neg hr, if_neg fun h => (hcons.mp h).elim hs hr]

end JobRegistry

section Handler

variable (x : IppCrate) (clock : Clock) (app : AppState) (name : String) (req : IppRequest)

/-- The handler's loop, over the ids it listed. -/
theorem cancelMyJobs_jobs :
    (cancelMyJobs x clock app name req).app.jobs =
      app.jobs.cancelAll clock.now ((app.jobs.jobsForPrinter name).map (·.id)) := by
  unfold JobRegistry.cancelAll
  rw [List.foldl_map]
  rfl

end Handler

/-! ## 2. The handler and the running server -/

section Runs

variable {o : Options} {s s' : System}

theorem run_single {a : Action} {ev : List Event} (h : step o s a = some (s', ev)) :
    Run (server o) anyStep s ev s' := by
  have hrun := (Run.start (M := server o) (G := anyStep)).step trivial h
  rwa [List.nil_append] at hrun

/-- A Cancel-My-Jobs task left alone cancels what is on its list, and answers. -/
theorem cancelTask_run (now : SystemTime) {i : Nat} {t : CancelTask}
    (ht : s.cancels[i]? = some t) :
    ∃ s', Run (server o) anyStep s
        [.reply t.name t.body (respond o.crate t.version .successfulOk t.requestId)] s' ∧
      s'.app = { s.app with jobs := s.app.jobs.cancelAll now t.todo } ∧
      s'.workers = s.workers := by
  generalize hids : t.todo = ids
  induction ids generalizing s t with
  | nil =>
      refine ⟨{ s with cancels := s.cancels.eraseIdx i }, run_single (a := .cancelNext i now) ?_,
        rfl, rfl⟩
      show cancelStep o s i now = _
      unfold cancelStep
      simp only [ht, hids]
  | cons id ids ih =>
      let r : System := { s with
        app := { s.app with jobs := (s.app.jobs.cancel now id).2 }
        cancels := s.cancels.set i { t with todo := ids } }
      have hstep : step o s (.cancelNext i now) = some (r, []) := by
        show cancelStep o s i now = _
        unfold cancelStep
        simp only [ht, hids]
        rfl
      have hi : r.cancels[i]? = some { t with todo := ids } :=
        List.getElem?_set_self (List.getElem?_eq_some_iff.mp ht).1
      obtain ⟨s', hrun, happ, hws⟩ := ih hi rfl
      refine ⟨s', ?_, happ, hws⟩
      have hall := (run_single hstep).trans hrun
      rwa [List.nil_append] at hall

/-- An Identify-Printer task is answered when its device returns. -/
theorem identifyTask_run {i : Nat} {t : IdentifyTask} (ht : s.identifies[i]? = some t) :
    ∃ s', Run (server o) anyStep s
        [.reply t.name t.body (respond o.crate t.version .successfulOk t.requestId)] s' ∧
      s'.app = s.app ∧ s'.workers = s.workers := by
  refine ⟨{ s with identifies := s.identifies.eraseIdx i }, run_single (a := .identified i) ?_,
    rfl, rfl⟩
  show identifiedStep o s i = _
  unfold identifiedStep
  simp only [ht]

/-- **A request left alone ends as the handler does**: with its registries, its worker, its call of
    the device, and its reply. -/
theorem handleIpp_run (o : Options) (s : System) (clock : Clock) (name : String)
    (body : List UInt8) :
    ∃ ev s', Run (server o) anyStep s ev s' ∧
      s'.app = (handleIpp o.crate clock s.app name body).app ∧
      s'.workers = s.workers ++
        ((handleIpp o.crate clock s.app name body).spawned.map PrintTask.spawn).toList ∧
      (∀ e ∈ (handleIpp o.crate clock s.app name body).identified, .identify e.1 e.2 ∈ ev) ∧
      .reply name body (handleIpp o.crate clock s.app name body).reply ∈ ev := by
  have hstep : step o s (.request clock name body) = some (requestStep o s clock name body) := rfl
  have hstart : Run (server o) anyStep s (requestStep o s clock name body).2
      (requestStep o s clock name body).1 := run_single hstep
  unfold handleIpp
  cases hg : gates o.crate s.app name body with
  | error reply =>
      unfold requestStep at hstart
      rw [hg] at hstart
      exact ⟨_, _, hstart, rfl, (List.append_nil _).symm, nofun, List.mem_singleton.mpr rfl⟩
  | ok e =>
      obtain ⟨req, record⟩ := e
      unfold requestStep at hstart
      rw [hg] at hstart
      by_cases hop : operationOf o.crate req.operationOrStatus = .cancelMyJobs
      · dsimp only at hstart
        rw [if_pos hop] at hstart
        dsimp only at hstart
        generalize htask : (CancelTask.mk name body req.version req.requestId
          ((s.app.jobs.jobsForPrinter name).map (·.id))) = task at hstart
        have hi : (s.cancels ++ [task])[s.cancels.length]? = some task :=
          List.getElem?_concat_length
        obtain ⟨s', hloop, happ, hws⟩ := cancelTask_run (o := o)
          (s := { s with cancels := s.cancels ++ [task] }) clock.now hi
        subst htask
        dsimp only
        rw [dispatch_cancelMyJobs hop]
        refine ⟨_, s', hstart.trans hloop, ?_, ?_, nofun, ?_⟩
        · rw [happ, ← cancelMyJobs_jobs o.crate clock s.app name req]
          rfl
        · rw [hws]
          exact (List.append_nil _).symm
        · exact List.mem_append_right _ (List.mem_singleton.mpr rfl)
      · dsimp only at hstart
        rw [if_neg hop] at hstart
        by_cases hid : operationOf o.crate req.operationOrStatus = .identifyPrinter
        · -- the device is asked, returns, and the request is answered
          rw [if_pos hid] at hstart
          have hi : (s.identifies ++ [IdentifyTask.mk name body req.version req.requestId])[
              s.identifies.length]? = some ⟨name, body, req.version, req.requestId⟩ :=
            List.getElem?_concat_length
          obtain ⟨s', hanswer, happ, hws⟩ := identifyTask_run (o := o)
            (s := { s with identifies := s.identifies ++ [⟨name, body, req.version,
              req.requestId⟩] }) hi
          dsimp only
          rw [dispatch_identifyPrinter hid]
          refine ⟨_, s', hstart.trans hanswer, happ, ?_, ?_, ?_⟩
          · rw [hws]
            exact (List.append_nil _).symm
          · rintro e ⟨rfl⟩
            exact List.mem_append_left _ (List.mem_singleton.mpr rfl)
          · exact List.mem_append_right _ (List.mem_singleton.mpr rfl)
        · rw [if_neg hid] at hstart
          refine ⟨_, _, hstart, rfl, rfl, fun e he => ?_, List.mem_singleton.mpr rfl⟩
          dsimp only at he
          rw [dispatch_identified_other _ _ _ _ _ _ hid] at he
          cases he

end Runs

/-! ## 3. Whose jobs are canceled -/

/-- The open jobs that user `u` has on printer `p` are canceled, with their flags set; every
    other job is as it was. -/
structure CancelsOwn (g g' : JobRegistry) (p u : String) : Prop where
  canceled : ∀ (k : Nat) (j : JobRecord), g.jobs[k]? = some j → j.state.isTerminal = false →
    j.printerName = p → j.owner = u →
      ∃ j', g'.jobs[k]? = some j' ∧ j'.state = .canceled ∧ j'.cancelFlag = true
  kept : ∀ (k : Nat) (j : JobRecord), g.jobs[k]? = some j →
    ¬(j.state.isTerminal = false ∧ j.printerName = p ∧ j.owner = u) → g'.jobs[k]? = some j

/-- The open jobs that the id of some job of printer `p` refers to are those of user `u`. -/
def CancelsReach (g : JobRegistry) (p u : String) : Prop :=
  ∀ (k : Nat) (j : JobRecord), g.jobs[k]? = some j → j.state.isTerminal = false →
    ((∃ i ∈ g.jobsForPrinter p, g.slotOf i.id = k) ↔ (j.printerName = p ∧ j.owner = u))

section Owners

variable {g : JobRegistry} {p u : String}

theorem mem_jobsForPrinter {j : JobRecord} :
    j ∈ g.jobsForPrinter p ↔ j ∈ g.jobs ∧ j.printerName = p := by
  unfold JobRegistry.jobsForPrinter
  rw [List.mem_filter, beq_iff_eq]

/-- The loop over a printer's jobs, position by position. -/
theorem cancelAll_printer_getElem? (g : JobRegistry) (now : SystemTime) (p : String) (k : Nat) :
    (g.cancelAll now ((g.jobsForPrinter p).map (·.id))).jobs[k]? =
      if ∃ i ∈ g.jobsForPrinter p, g.slotOf i.id = k then g.jobs[k]?.map (·.withCancel now)
      else g.jobs[k]? := by
  rw [JobRegistry.cancelAll_getElem?]
  have hex : (∃ id ∈ (g.jobsForPrinter p).map (·.id), g.slotOf id = k) ↔
      ∃ i ∈ g.jobsForPrinter p, g.slotOf i.id = k := by
    simp only [List.mem_map, exists_exists_and_eq_and]
  simp only [hex]

/-- **The loop cancels a user's own jobs exactly when it reaches these and no others.** -/
theorem cancelsOwn_iff (now : SystemTime) :
    CancelsOwn g (g.cancelAll now ((g.jobsForPrinter p).map (·.id))) p u ↔ CancelsReach g p u := by
  have hloop := cancelAll_printer_getElem? g now p
  constructor
  · intro h k j hk hopen
    constructor
    · intro hr
      by_contra hne
      -- a job that is reached is canceled, so it is not as it was
      have hkept := h.kept k j hk fun ⟨_, hp, hu⟩ => hne ⟨hp, hu⟩
      rw [hloop k, if_pos hr, hk] at hkept
      have e : j.withCancel now = j := Option.some.inj hkept
      rw [JobRecord.withCancel_active hopen] at e
      have est := congrArg JobRecord.state e
      rw [← est] at hopen
      cases hopen
    · intro ⟨hp, hu⟩
      by_contra hne
      obtain ⟨j', hj', hst, _⟩ := h.canceled k j hk hopen hp hu
      rw [hloop k, if_neg hne, hk] at hj'
      cases hj'
      rw [hst] at hopen
      cases hopen
  · intro h
    constructor
    · intro k j hk hopen hp hu
      refine ⟨j.withCancel now, ?_, ?_, ?_⟩
      · rw [hloop k, if_pos ((h k j hk hopen).mpr ⟨hp, hu⟩), hk]
        rfl
      · rw [JobRecord.withCancel_active hopen]
      · rw [JobRecord.withCancel_active hopen]
    · intro k j hk hne
      rw [hloop k, hk]
      cases hopen : j.state.isTerminal with
      | true =>
          rw [Option.map_some, JobRecord.withCancel_terminal hopen, ite_self]
      | false =>
          refine if_neg fun hr => hne ⟨hopen, ?_⟩
          exact (h k j hk hopen).mp hr

/-- While ids find their own jobs, what is reached is what is open on the printer. -/
theorem cancelsReach_iff (hwf : g.Wf) (hlt : g.jobs.length < 2 ^ 32) :
    CancelsReach g p u ↔
      ∀ j ∈ g.jobs, j.state.isTerminal = false → j.printerName = p → j.owner = u := by
  have hreach : ∀ {k : Nat} {j : JobRecord}, g.jobs[k]? = some j →
      ((∃ i ∈ g.jobsForPrinter p, g.slotOf i.id = k) ↔ j.printerName = p) := by
    intro k j hk
    constructor
    · rintro ⟨i, hi, hs⟩
      obtain ⟨hmem, hp⟩ := mem_jobsForPrinter.mp hi
      obtain ⟨m, hm⟩ := List.mem_iff_getElem?.mp hmem
      have e : m = k := (JobRegistry.slotOf_id hwf hlt hm).symm.trans hs
      subst e
      rw [hk] at hm
      cases hm
      exact hp
    · intro hp
      exact ⟨j, mem_jobsForPrinter.mpr ⟨List.mem_of_getElem? hk, hp⟩,
        JobRegistry.slotOf_id hwf hlt hk⟩
  constructor
  · intro h j hj hopen hp
    obtain ⟨k, hk⟩ := List.mem_iff_getElem?.mp hj
    exact ((h k j hk hopen).mp ((hreach hk).mpr hp)).2
  · intro h k j hk hopen
    rw [hreach hk]
    exact ⟨fun hp => ⟨hp, h j (List.mem_of_getElem? hk) hopen hp⟩, fun hpu => hpu.1⟩

end Owners

section CancelMyJobs

variable {o : Options} {d : Deployment} {tr : List Event} {s : System} {p : String}
  {body : List UInt8} {req : IppRequest} {record : PrinterRecord}

/-- **Cancel-My-Jobs cancels the requesting user's jobs, and no others, exactly when nobody else
    has an open job on the printer** -- which, once ids repeat, is said of the jobs the ids refer
    to. -/
theorem cancel_my_jobs_own (hrun : Run (server o) anyStep (boot d) tr s)
    (hg : gates o.crate s.app p body = .ok (req, record))
    (hop : operationOf o.crate req.operationOrStatus = .cancelMyJobs) (clock : Clock) :
    (CancelsOwn s.app.jobs (handleIpp o.crate clock s.app p body).app.jobs p
        (requestingUser req) ↔ CancelsReach s.app.jobs p (requestingUser req)) ∧
    (s.app.jobs.jobs.length < 2 ^ 32 →
      (CancelsReach s.app.jobs p (requestingUser req) ↔
        ∀ j ∈ s.app.jobs.jobs, j.state.isTerminal = false → j.printerName = p →
          j.owner = requestingUser req)) := by
  constructor
  · have e : (handleIpp o.crate clock s.app p body).app.jobs =
        s.app.jobs.cancelAll clock.now ((s.app.jobs.jobsForPrinter p).map (·.id)) := by
      unfold handleIpp
      rw [hg]
      dsimp only
      rw [dispatch_cancelMyJobs hop]
      exact cancelMyJobs_jobs o.crate clock s.app p req
    rw [e]
    exact cancelsOwn_iff clock.now
  · exact cancelsReach_iff (run_wf hrun)

end CancelMyJobs

set_option maxRecDepth 8000 in
/-- The owner of the only job cancels it. -/
theorem cancel_my_jobs_own_ann :
    CancelsOwn created.app.jobs
      (handleIpp Trial.crate Trial.clock created.app "p" Trial.cancelOwn.body).app.jobs "p"
      "ann" := by
  have hgates : gates Trial.crate created.app "p" Trial.cancelOwn.body =
      .ok (Trial.cancelOwn.request, printerP) := rfl
  obtain ⟨hown, hreach⟩ := cancel_my_jobs_own created_run.any hgates rfl Trial.clock
  have hu : requestingUser Trial.cancelOwn.request = "ann" := by decide +kernel
  rw [hu] at hown hreach
  exact hown.mpr ((hreach (by decide +kernel)).mpr (by decide +kernel))

set_option maxRecDepth 8000 in
/-- A job by one user, Cancel-My-Jobs by another: the job is canceled. -/
theorem other_users_job_canceled :
    ¬ ∀ (o : Options) (d : Deployment) (tr : List Event) (s : System) (clock : Clock) (p : String)
        (body : List UInt8) (req : IppRequest) (record : PrinterRecord),
        Run (server o) anyStep (boot d) tr s → gates o.crate s.app p body = .ok (req, record) →
        operationOf o.crate req.operationOrStatus = .cancelMyJobs →
        CancelsOwn s.app.jobs (handleIpp o.crate clock s.app p body).app.jobs p
          (requestingUser req) := by
  intro h
  have hown := h Trial.options Trial.deployment _ created Trial.clock "p" Trial.cancelMine.body
    Trial.cancelMine.request printerP created_run.any rfl rfl
  have hkept := hown.kept 0 pendingJob rfl (by decide +kernel)
  have hlost : (handleIpp Trial.crate Trial.clock created.app "p" Trial.cancelMine.body).app.jobs.jobs[0]?
      ≠ some pendingJob := by decide +kernel
  exact hlost hkept

end IppPrinterApp
