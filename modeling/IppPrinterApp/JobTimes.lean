/-
  File:      IppPrinterApp/JobTimes.lean
  Subject:   The times a job reports (job.rs and `job_attrs_for_group`, attributes.rs).

  A job's own times are read from the system clock and reported in seconds since 1970; the
  `job-printer-up-time` beside them is the age of the process. Each is cut to an `i32`.

  * `Forwards`, `timing` -- runs in which the system clock does not run backwards, with its last
    reading noted;
  * `JobRecord.TimedBy`, `run_timed` -- every stamp of a job lies between its creation and that
    reading;
  * `job_times_ordered`: **the times of a job are in order in every response**, as long as the
    seconds of the system clock fit an `i32`;
  * `times_on_two_clocks` -- the up-time is not on their scale, and later they are negative.
-/
import IppPrinterApp.Filters
import IppPrinterApp.JobRefs
import IppPrinterApp.Timestamps

namespace IppPrinterApp

open FirstMatch Fallible Transition

/-! ## 1. A clock that does not run backwards -/

/-- The reading of the system clock an action takes. -/
def Action.now : Action → Option SystemTime
  | .request clock _ _ => some clock.now
  | .cancelNext _ now => some now
  | .worker _ now => some now
  | _ => none

/-- The server with the last reading noted. -/
def timing (o : Options) : Machine (System × SystemTime) Action Event :=
  (server o).withHistory fun t _ a => a.now.getD t

/-- No reading is earlier than the last one. -/
def Forwards (p : System × SystemTime) (a : Action) : Prop := ∀ n ∈ a.now, p.2 ≤ n

instance : DecidableRel Forwards := fun p a => by
  unfold Forwards
  cases a.now with
  | none => exact .isTrue nofun
  | some n => exact decidable_of_iff (p.2 ≤ n) (by simp)

/-- **The stamps of a job** lie between its creation and some time. -/
structure JobRecord.TimedBy (t : SystemTime) (j : JobRecord) : Prop where
  created : j.createdAt ≤ t
  completed : ∀ c ∈ j.completedAt, j.createdAt ≤ c ∧ c ≤ t

section Stamps

variable {t now : SystemTime} {j : JobRecord}

theorem JobRecord.TimedBy.later (h : j.TimedBy t) (hle : t ≤ now) : j.TimedBy now where
  created := Int.le_trans h.created hle
  completed := fun c hc => ⟨(h.completed c hc).1, Int.le_trans (h.completed c hc).2 hle⟩

/-- **A write stamps a job with its own time** or leaves the stamp. -/
theorem JobRecord.TimedBy.apply (h : j.TimedBy t) (hle : t ≤ now) (op : JobOp) :
    (op.apply now j).TimedBy now := by
  have hlater := h.later hle
  have hstamp {j' : JobRecord} (hc : j'.createdAt = j.createdAt)
      (hd : j'.completedAt = some now ∨ j'.completedAt = j.completedAt) : j'.TimedBy now := by
    refine ⟨hc ▸ hlater.created, fun c hcm => ?_⟩
    rw [hc]
    rcases hd with hd | hd
    · rw [hd] at hcm
      cases hcm
      exact ⟨hlater.created, Int.le_refl _⟩
    · rw [hd] at hcm
      exact hlater.completed c hcm
  cases op with
  | setState state =>
      refine hstamp rfl ?_
      show (if _ then some now else j.completedAt) = _ ∨ (if _ then some now else j.completedAt) = _
      split
      · exact Or.inl rfl
      · exact Or.inr rfl
  | setFailure reasons message => exact hstamp rfl (Or.inl rfl)
  | cancel =>
      show (j.withCancel now).TimedBy now
      cases ht : j.state.isTerminal with
      | true =>
          rw [JobRecord.withCancel_terminal ht]
          exact hlater
      | false =>
          rw [JobRecord.withCancel_active ht]
          exact hstamp rfl (Or.inl rfl)

/-- All jobs of the registry. -/
def JobRegistry.TimedBy (t : SystemTime) (g : JobRegistry) : Prop := ∀ j ∈ g.jobs, j.TimedBy t

theorem JobRegistry.TimedBy.update {g : JobRegistry} (h : g.TimedBy t) (hle : t ≤ now) (id : JobId)
    (op : JobOp) : (g.update id (op.apply now)).TimedBy now := by
  intro j hj
  obtain ⟨k, hk⟩ := List.mem_iff_getElem?.mp hj
  rw [JobRegistry.update_getElem?] at hk
  split at hk
  · obtain ⟨i, hi, rfl⟩ := Option.map_eq_some_iff.mp hk
    exact (h i (List.mem_of_getElem? hi)).apply hle op
  · exact (h j (List.mem_of_getElem? hk)).later hle

theorem JobRegistry.TimedBy.create {g : JobRegistry} (h : g.TimedBy t) (hle : t ≤ now)
    (p u : String) : (g.create now p u).2.TimedBy now := by
  intro j hj
  rcases List.mem_append.mp hj with hj | hj
  · exact (h j hj).later hle
  · rw [List.mem_singleton.mp hj]
    exact ⟨Int.le_refl now, nofun⟩

end Stamps

section Runs

variable {o : Options} {s s' : System} {a : Action} {ev tr : List Event} {t t₀ : SystemTime}
  {d : Deployment}

/-- **A step forwards keeps the stamps in order.** -/
theorem JobsStep.timed {g : JobRegistry} {ws : List Worker} (h : JobsStep o s a g ws)
    (ht : s.app.jobs.TimedBy t) (hg : ∀ n ∈ a.now, t ≤ n) : g.TimedBy (a.now.getD t) := by
  have hsame : s.app.jobs.TimedBy (a.now.getD t) := by
    intro j hj
    cases hn : a.now with
    | none => exact ht j hj
    | some n => exact (ht j hj).later (hg n hn)
  cases h with
  | same => exact hsame
  | request clock name body req record _ _ _ ha =>
      have hle : t ≤ clock.now := hg clock.now rfl
      cases ha with
      | same => exact hsame
      | created => exact ht.create hle name (requestingUser req)
      | printed => exact ht.create hle name (requestingUser req)
      | sent => exact hsame
      | canceled id => exact ht.update hle id .cancel
  | canceled i now id => exact ht.update (hg now rfl) id .cancel
  | worked i now w w' hw hn =>
      unfold WorkerPc.jobsAfter
      split
      · rename_i op _
        exact ht.update (hg now rfl) w.task.id op
      · exact hsame
  | returned => exact hsame

/-- **In every run forwards** the stamps of all jobs are in order. -/
theorem run_timed (h : Run (timing o) Forwards (boot d, t₀) tr (s, t)) : s.app.jobs.TimedBy t := by
  refine Run.always (I := fun p => p.1.app.jobs.TimedBy p.2) ?_ ?_ h
  · intro j hj
    cases hj
  · intro p a p' ev hI hg hs
    obtain ⟨hs', hnote⟩ := step_withHistory hs
    rw [hnote]
    exact (step_jobs hs').timed hI hg

end Runs

/-! ## 2. What is reported -/

/-- Whole seconds since 1970, nothing before. -/
def wholeSeconds (t : Int) : Int := if t < 0 then 0 else t / 1000000000

theorem wholeSeconds_nonneg (t : Int) : 0 ≤ wholeSeconds t := by
  unfold wholeSeconds
  split <;> omega

theorem wholeSeconds_mono {t t' : Int} (h : t ≤ t') : wholeSeconds t ≤ wholeSeconds t' := by
  unfold wholeSeconds
  split <;> split <;> omega

/-- Seconds that fit are reported as they are. -/
theorem secsSinceEpoch_eq {t : SystemTime} (h : wholeSeconds t < 2 ^ 31) :
    secsSinceEpoch t = wholeSeconds t := by
  have hnonneg := wholeSeconds_nonneg t
  unfold wholeSeconds secsSinceEpoch at *
  split
  · rfl
  · rename_i ht
    rw [if_neg ht] at h hnonneg
    exact asI32_eq_self (Int.le_trans (by decide) hnonneg) h

/-- A time of a group. -/
def IppAttributeGroup.time (g : IppAttributeGroup) (name : String) : Option Int :=
  (g.attributes.get? name).bind IppValue.toInteger

/-- **The group reports the times of a job**: the seconds of its creation, twice, and of its
    completion, in this order; and the seconds since the up-time was first asked for. -/
structure ReportsTimes (j : JobRecord) (clock : Clock) (g : IppAttributeGroup) : Prop where
  creation : ∀ c ∈ g.time "time-at-creation", c = wholeSeconds j.createdAt ∧ 0 ≤ c
  processing : ∀ p ∈ g.time "time-at-processing", p = wholeSeconds j.createdAt ∧
    ∀ c ∈ g.time "time-at-creation", c ≤ p
  completed : ∀ k ∈ g.time "time-at-completed",
    (∃ e, j.completedAt = some e ∧ k = wholeSeconds e) ∧
      ∀ p ∈ g.time "time-at-processing", p ≤ k
  ordered : ∀ c ∈ g.time "time-at-creation", ∀ k ∈ g.time "time-at-completed", c ≤ k
  upTime : ∀ u ∈ g.time "job-printer-up-time", u = asI32 clock.uptime

section Report

variable {j : JobRecord} {printerUriStr : String} {requested : Option NameSet} {clock : Clock}
  {attrs : List IppAttribute} {t : SystemTime}

/-- A time read in a group is the one the attribute was built of. -/
theorem time_read (h : jobAttrsForGroup j printerUriStr requested clock = .ok attrs) {name : String}
    {n : Int} (hmem : (name, int n) ∈ jobAttributes j printerUriStr clock) {m : Int}
    (hm : m ∈ (jobGroup attrs).time name) : m = n := by
  obtain ⟨v, hv, hval⟩ := Option.bind_eq_some_iff.mp hm
  have hin := ((group_reads h name v).mp hv).1
  have he := List.inj_on_of_nodup_map (jobAttributes_nodup j printerUriStr clock) hin hmem rfl
  cases he
  exact (Option.some.inj hval).symm

/-- A completion time is read only if the job has one. -/
theorem completed_read (h : jobAttrsForGroup j printerUriStr requested clock = .ok attrs) {m : Int}
    (hm : m ∈ (jobGroup attrs).time "time-at-completed") :
    ∃ e, j.completedAt = some e ∧ m = secsSinceEpoch e := by
  obtain ⟨v, hv, -⟩ := Option.bind_eq_some_iff.mp hm
  have hin := ((group_reads h "time-at-completed" v).mp hv).1
  have hsome := (mem_names_timeAtCompleted j printerUriStr clock).mp
    (List.mem_map.mpr ⟨_, hin, rfl⟩)
  obtain ⟨e, he⟩ := Option.isSome_iff_exists.mp hsome
  refine ⟨e, he, time_read h ?_ hm⟩
  unfold jobAttributes JobRecord.completedSecs
  rw [he]
  simp

/-- **A job with its stamps in order reports its times in order.** -/
theorem reportsTimes (ht : j.TimedBy t) (hfit : wholeSeconds t < 2 ^ 31)
    (h : jobAttrsForGroup j printerUriStr requested clock = .ok attrs) :
    ReportsTimes j clock (jobGroup attrs) := by
  have hseconds {e : SystemTime} (he : e ≤ t) : secsSinceEpoch e = wholeSeconds e :=
    secsSinceEpoch_eq (Int.lt_of_le_of_lt (wholeSeconds_mono he) hfit)
  have hcreation {c : Int} (hc : c ∈ (jobGroup attrs).time "time-at-creation") :
      c = wholeSeconds j.createdAt := by
    rw [← hseconds ht.created]
    exact time_read h (by simp [jobAttributes, JobRecord.createdSecs]) hc
  have hprocessing {p : Int} (hp : p ∈ (jobGroup attrs).time "time-at-processing") :
      p = wholeSeconds j.createdAt := by
    rw [← hseconds ht.created]
    exact time_read h (by simp [jobAttributes, JobRecord.createdSecs]) hp
  have hcompleted {k : Int} (hk : k ∈ (jobGroup attrs).time "time-at-completed") :
      ∃ e, j.completedAt = some e ∧ k = wholeSeconds e := by
    obtain ⟨e, he, hke⟩ := completed_read h hk
    exact ⟨e, he, hke.trans (hseconds (ht.completed e he).2)⟩
  have hlast {k : Int} (hk : k ∈ (jobGroup attrs).time "time-at-completed") :
      wholeSeconds j.createdAt ≤ k := by
    obtain ⟨e, he, hke⟩ := hcompleted hk
    rw [hke]
    exact wholeSeconds_mono (ht.completed e he).1
  refine ⟨fun c hc => ⟨hcreation hc, ?_⟩, fun p hp => ⟨hprocessing hp, fun c hc => ?_⟩,
    fun k hk => ⟨hcompleted hk, fun p hp => ?_⟩, fun c hc k hk => ?_, fun u hu => ?_⟩
  · rw [hcreation hc]
    exact wholeSeconds_nonneg j.createdAt
  · rw [hcreation hc, hprocessing hp]
  · rw [hprocessing hp]
    exact hlast hk
  · rw [hcreation hc]
    exact hlast hk
  · exact time_read h (by simp [jobAttributes]) hu

end Report

/-- **The times a job reports**, in every run in which the system clock does not run backwards and
    its seconds fit an `i32`: in each response that describes jobs of the registry, the times of
    each are those of its creation and completion, and in order. -/
theorem job_times_ordered {o : Options} {d : Deployment} {tr : List Event} {s : System}
    {t₀ t : SystemTime} (hx : o.crate.StartsWithoutJobs)
    (h : Run (timing o) Forwards (boot d, t₀) tr (s, t)) (hfit : wholeSeconds t < 2 ^ 31) :
    (∀ j ∈ s.app.jobs.jobs, ∀ version requestId printerUriStr requested clock resp,
      buildJobAttrsResponse o.crate version requestId j printerUriStr requested clock = .ok resp →
      ∀ g ∈ resp.groupsOf .jobAttributes, ReportsTimes j clock g) ∧
    ∀ jobs, (∀ j ∈ jobs, j ∈ s.app.jobs.jobs) →
      ∀ version requestId printerUriStr requested clock resp,
        buildGetJobsResponse o.crate version requestId jobs printerUriStr requested clock =
          .ok resp →
        List.Forall₂ (fun j g => ReportsTimes j clock g) jobs (resp.groupsOf .jobAttributes) := by
  have htimed := run_timed h
  refine ⟨fun j hj version requestId uri requested clock resp hr g hg => ?_,
    fun jobs hjobs version requestId uri requested clock resp hr => ?_⟩
  · obtain ⟨attrs, hattrs, hgroups⟩ := getJobAttributes_group hx hr
    rw [hgroups] at hg
    split at hg
    · cases hg
    · rw [List.mem_singleton.mp hg]
      exact reportsTimes (htimed j hj) hfit hattrs
  · have hgroups := getJobs_groups hx hr
    have hall := (List.forall₂_and_left _ _).mpr ⟨hjobs, hgroups⟩
    refine hall.imp fun j g hg => ?_
    obtain ⟨hj, attrs, hattrs, rfl⟩ := hg
    exact reportsTimes (htimed j hj) hfit hattrs

/-! ## 3. Two moments -/

namespace Trial

/-- A moment of the system clock, 5 s after the process started. -/
def fiveSeconds (seconds : Int) : Clock := { now := seconds * 1000000000, uptime := 5 }

/-- A Print-Job at that moment, with the last reading of the clock. -/
def printedAt (seconds : Int) : System × SystemTime :=
  endOf (timing options) Forwards (boot deployment, 0)
    [.request (fiveSeconds seconds) "p" print.body]

theorem run_printedAt {seconds : Int} (h : (exec (timing options) Forwards (boot deployment, 0)
    [.request (fiveSeconds seconds) "p" print.body]).isSome = true) :
    Run (timing options) Forwards (boot deployment, 0)
      (traceOf (timing options) Forwards (boot deployment, 0)
        [.request (fiveSeconds seconds) "p" print.body])
      ((printedAt seconds).1, (printedAt seconds).2) :=
  run_endOf_pair h

/-- All jobs, listed at that moment. -/
def listedAt (seconds : Int) : Except Fault IppResponse :=
  buildGetJobsResponse crate 0x0200 7 (printedAt seconds).1.app.jobs.jobs printerUri none
    (fiveSeconds seconds)

/-- The listing at that moment, with what is computed of its times. -/
theorem listed_times {seconds : Int} {times : List (Option Int × Option Int)}
    (h : (listedAt seconds).toOption.map (fun resp => (resp.groupsOf .jobAttributes).map
      fun g => (g.time "time-at-creation", g.time "job-printer-up-time")) = some times) :
    ∃ resp, listedAt seconds = .ok resp ∧ ∀ x ∈ times, ∃ g ∈ resp.groupsOf .jobAttributes,
      g.time "time-at-creation" = x.1 ∧ g.time "job-printer-up-time" = x.2 := by
  obtain ⟨resp, hresp, rfl⟩ := Option.map_eq_some_iff.mp h
  refine ⟨resp, ok_of_toOption hresp, fun x hx => ?_⟩
  obtain ⟨g, hg, rfl⟩ := List.mem_map.mp hx
  exact ⟨g, hg, rfl, rfl⟩

end Trial

theorem job_times_ordered_print :
    ∃ resp, Trial.listedAt 1700000000 = .ok resp ∧
      List.Forall₂ (fun j g => ReportsTimes j (Trial.fiveSeconds 1700000000) g)
        (Trial.printedAt 1700000000).1.app.jobs.jobs (resp.groupsOf .jobAttributes) := by
  have hrun := @Trial.run_printedAt 1700000000 (by decide +kernel)
  obtain ⟨resp, h⟩ := Trial.built
    (show (Trial.listedAt 1700000000).toOption.isSome = true by decide +kernel)
  exact ⟨resp, h, (job_times_ordered Trial.crate_startsWithoutJobs hrun (by decide +kernel)).2 _
    (fun _ hj => hj) _ _ _ _ _ _ h⟩

/-- A property of the times in every listing of all jobs, in every run forwards. -/
def ListedTimes (P : IppAttributeGroup → Prop) : Prop :=
  ∀ (o : Options) (d : Deployment) (tr : List Event) (s : System) (t₀ t : SystemTime)
    (clock : Clock) (version : IppVersion) (requestId : Nat) (printerUriStr : String)
    (resp : IppResponse), Run (timing o) Forwards (boot d, t₀) tr (s, t) → t ≤ clock.now →
    buildGetJobsResponse o.crate version requestId s.app.jobs.jobs printerUriStr none clock =
      .ok resp →
    ∀ g ∈ resp.groupsOf .jobAttributes, P g

/-- **Two clocks**: a job is created after the up-time reported beside it, and one created
    2147483648 s after 1970 is reported as created before 1970. -/
theorem times_on_two_clocks :
    ¬ListedTimes (fun g => ∀ c ∈ g.time "time-at-creation",
      ∀ u ∈ g.time "job-printer-up-time", c ≤ u) ∧
    ¬ListedTimes (fun g => ∀ c ∈ g.time "time-at-creation", 0 ≤ c) := by
  constructor
  · intro h
    obtain ⟨resp, hr, hall⟩ := @Trial.listed_times 1700000000 [(some 1700000000, some 5)]
      (by decide +kernel)
    obtain ⟨g, hg, hc, hu⟩ := hall _ (List.mem_singleton.mpr rfl)
    have hle := h Trial.options Trial.deployment _ _ 0 _ (Trial.fiveSeconds 1700000000) 0x0200 7
      Trial.printerUri resp (Trial.run_printedAt (by decide +kernel)) (by decide +kernel) hr g hg
      1700000000 (by simp [hc]) 5 (by simp [hu])
    omega
  · intro h
    obtain ⟨resp, hr, hall⟩ := @Trial.listed_times 2147483648 [(some (-2147483648), some 5)]
      (by decide +kernel)
    obtain ⟨g, hg, hc, -⟩ := hall _ (List.mem_singleton.mpr rfl)
    have hle := h Trial.options Trial.deployment _ _ 0 _ (Trial.fiveSeconds 2147483648) 0x0200 7
      Trial.printerUri resp (Trial.run_printedAt (by decide +kernel)) (by decide +kernel) hr g hg
      (-2147483648) (by simp [hc])
    omega

end IppPrinterApp
