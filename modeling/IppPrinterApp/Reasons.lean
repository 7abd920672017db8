/-
  File:      IppPrinterApp/Reasons.lean
  Subject:   The reasons of a printer (`printer-state-reasons`) and the jobs that surface them.

  All workers of a printer write its reasons, and every write replaces what is there: a held job
  writes what its device reports, a failed one the reasons of its failure, and one that completes
  or was canceled writes none at all. `JobFailure` has the reasons of a failure joined to those
  of the printer, and a held job has its reasons shown for as long as it is held.

  * `KeepsReasons` -- a step that does so: an abort joins its reasons, and no end of a job takes
    away a reason that another held job has surfaced;
  * `RespectsReasons` -- what the state has to be like for it; `keepsReasons_iff` -- exactly then
    the step keeps reasons;
  * `reasons_kept_iff`: so the runs all of whose steps keep reasons are the runs all of whose
    steps meet the condition;
  * `surfaced_stays`: in such a run, what a held job has surfaced stays visible until the next
    report.

  What a job has surfaced is not in the state once it is overwritten, so a history variable notes
  it (`noteSurfaced`). `jam_replaced` is the run in which a failure replaces the jam that
  another job is held for.
-/
import IppPrinterApp.PrinterState

namespace IppPrinterApp

open Transition

/-! ## 1. What an access does to the reasons -/

/-- The reasons that the access to the printers at a position writes, if it writes any. -/
def PrinterOp.writesReasons : PrinterOp → Option PrinterReason
  | .reasons r => some r
  | _ => none

namespace WorkerPc

def setsReasons (pc : WorkerPc) : Option PrinterReason := pc.printerOp.bind PrinterOp.writesReasons

/-- The reasons of the failure that a worker is about to surface. -/
def aborts : WorkerPc → Option PrinterReason
  | failedReasons f => some f.printerReasons
  | _ => none

/-- The reasons of the device that a worker is about to surface: it has to hold its job. -/
def surfaces : WorkerPc → Option PrinterReason
  | heldReasons reasons => some reasons
  | _ => none

/-- A worker is about to clear the reasons: its job is completed, or was canceled. -/
def clears : WorkerPc → Bool
  | completedReasons => true
  | cancelReasons => true
  | _ => false

/-- **The four places** at which a worker writes reasons, and all others. -/
inductive ReasonsAccess (pc : WorkerPc) : Prop where
  | none (hs : pc.setsReasons = none) (ha : pc.aborts = none) (hc : pc.clears = false)
  | abort (f : PrinterReason) (ha : pc.aborts = some f) (hs : pc.setsReasons = some f)
      (hc : pc.clears = false)
  | clear (hc : pc.clears = true) (hs : pc.setsReasons = some .empty) (ha : pc.aborts = none)
      (hr : pc.surfaces = none)
  | surface (r : PrinterReason) (hr : pc.surfaces = some r) (ha : pc.aborts = none)
      (hc : pc.clears = false)

theorem reasonsAccess (pc : WorkerPc) : pc.ReasonsAccess := by
  cases pc with
  | completedReasons => exact .clear rfl rfl rfl rfl
  | cancelReasons => exact .clear rfl rfl rfl rfl
  | failedReasons f => exact .abort f.printerReasons rfl rfl rfl
  | heldReasons r => exact .surface r rfl rfl rfl
  | _ => exact .none rfl rfl rfl

end WorkerPc

theorem PrinterOp.apply_reasons (op : PrinterOp) (r : PrinterRecord) :
    (op.apply r).reasons = op.writesReasons.getD r.reasons := by
  cases op <;> rfl

/-- The reasons of the printer with this name. -/
def System.reasonsOf (s : System) (name : String) : Option PrinterReason :=
  (findPrinter s.app.printers name).map (·.reasons)

/-- The worker that a step is one of, if it is one of a worker. -/
def System.acting (s : System) : Action → Option Worker
  | .worker i _ => s.workers[i]?
  | _ => none

/-- Whether a step writes what a device reports: one of the poller, or of a worker that has to
    hold its job. -/
def System.reports (s : System) (a : Action) : Bool :=
  a.ofPoller || (s.acting a).any fun w => w.pc.surfaces.isSome

section Accesses

variable {o : Options} {s s' : System} {a : Action} {ev : List Event} {name : String}

theorem acting_eq_some {w : Worker} (h : s.acting a = some w) :
    ∃ i now, a = .worker i now ∧ s.workers[i]? = some w := by
  cases a with
  | worker i now => exact ⟨i, now, rfl, h⟩
  | _ => cases h

theorem reports_acting {w : Worker} (hw : s.acting a = some w) :
    s.reports a = w.pc.surfaces.isSome := by
  obtain ⟨i, now, rfl, _⟩ := acting_eq_some hw
  unfold System.reports
  rw [hw]
  rfl

/-- A worker's step on its own printer. -/
theorem reasonsOf_acting {w : Worker} (hw : s.acting a = some w)
    (h : step o s a = some (s', ev)) :
    s'.reasonsOf w.task.printerName =
      (s.reasonsOf w.task.printerName).map fun shown => w.pc.setsReasons.getD shown := by
  obtain ⟨i, now, rfl, hi⟩ := acting_eq_some hw
  obtain ⟨w₁, w', hw₁, _, _, rfl⟩ := step_worker h
  have e : w₁ = w := Option.some.inj (hw₁.symm.trans hi)
  subst e
  unfold System.reasonsOf WorkerPc.setsReasons
  dsimp only [WorkerPc.printersAfter]
  cases w₁.pc.printerOp with
  | none =>
      rw [Option.map_map]
      rfl
  | some op =>
      dsimp only
      rw [findPrinter_updatePrinter fun p => by rw [op.apply_config p], Option.map_map,
        Option.map_map]
      exact congrArg (fun f => (findPrinter s.app.printers _).map f) (funext op.apply_reasons)

/-- **A step that is no report leaves the reasons of a printer alone**, unless a worker of that
    printer takes it. -/
theorem reasonsOf_other (hr : s.reports a = false)
    (hw : ∀ w ∈ s.acting a, w.task.printerName ≠ name) (h : step o s a = some (s', ev)) :
    ∀ shown' ∈ s'.reasonsOf name, s.reasonsOf name = some shown' := by
  intro shown' hshown
  obtain ⟨r, hr', rfl⟩ := Option.map_eq_some_iff.mp hshown
  unfold System.reasonsOf
  have hp := step_printers h
  generalize s'.app.printers = ps at hp hr'
  cases hp with
  | same => rw [hr', Option.map_some]
  | worked i now w hi =>
      rw [findPrinter_worker_other (hw w hi).symm] at hr'
      rw [hr', Option.map_some]
  | polled => cases hr
  | loaded i t ht =>
      obtain ⟨r₀, hr₀, _, hreasons⟩ := findPrinter_media hr'
      rw [hr₀, Option.map_some, hreasons]

/-- Printers are never removed. -/
theorem reasonsOf_exists (h : step o s a = some (s', ev)) {shown : PrinterReason}
    (hs : s.reasonsOf name = some shown) : ∃ shown', s'.reasonsOf name = some shown' := by
  obtain ⟨r, hr, _⟩ := Option.map_eq_some_iff.mp hs
  have hmem : name ∈ s'.app.printers.map (·.config.name) := by
    rw [step_names h]
    exact List.mem_map.mpr ⟨r, List.mem_of_find?_eq_some hr, findPrinter_name hr⟩
  obtain ⟨r', hr', hname⟩ := List.mem_map.mp hmem
  have hsome : (findPrinter s'.app.printers name).isSome = true :=
    List.find?_isSome.mpr ⟨r', hr', beq_iff_eq.mpr hname⟩
  obtain ⟨r'', hr''⟩ := Option.isSome_iff_exists.mp hsome
  exact ⟨r''.reasons, by unfold System.reasonsOf; rw [hr'', Option.map_some]⟩

end Accesses

/-! ## 2. Steps that keep reasons -/

/-- What a worker has surfaced for the job at a position. -/
structure Surfaced where
  slot : Nat
  reasons : PrinterReason
  deriving DecidableEq, Repr

/-- The job is held on the printer with this name. -/
def Surfaced.heldOn (s : System) (name : String) (e : Surfaced) : Bool :=
  s.app.jobs.jobs[e.slot]?.any fun j => j.state == .processingStopped && j.printerName == name

/-- Notes what the workers surface for the jobs they hold. -/
def noteSurfaced (surfaced : List Surfaced) (s : System) (a : Action) : List Surfaced :=
  ((s.acting a).bind fun w => w.pc.surfaces.map (Surfaced.mk w.task.slot)).toList ++ surfaced

/-- The server with the note of what has been surfaced. -/
def surfacing (o : Options) : Machine (System × List Surfaced) Action Event :=
  (server o).withHistory noteSurfaced

/-- A job that aborts has its reasons joined to those of its printer. -/
def JoinsFailure (o : Options) (s : System) (a : Action) : Prop :=
  ∀ w f s' ev shown, s.acting a = some w → w.pc.aborts = some f → step o s a = some (s', ev) →
    s.reasonsOf w.task.printerName = some shown →
    s'.reasonsOf w.task.printerName = some (shown.union f)

/-- No step but a report takes a reason from a printer that a job held on it has surfaced,
    another one than that of the worker at work. -/
def KeepsSurfaced (o : Options) (p : System × List Surfaced) (a : Action) : Prop :=
  ∀ s' ev e name shown shown' reason, step o p.1 a = some (s', ev) → p.1.reports a = false →
    e ∈ p.2 → e.heldOn p.1 name = true → (∀ w ∈ p.1.acting a, w.task.slot ≠ e.slot) →
    p.1.reasonsOf name = some shown → s'.reasonsOf name = some shown' →
    shown.contains reason = true → e.reasons.contains reason = true →
    shown'.contains reason = true

/-- **A step keeps reasons**: it joins those of a failure, and takes no other job's away. -/
structure KeepsReasons (o : Options) (p : System × List Surfaced) (a : Action) : Prop where
  joined : JoinsFailure o p.1 a
  kept : KeepsSurfaced o p a

/-- **The condition**: an abort finds no reasons on its printer that are not its own; and where a
    job that completed or was canceled clears the reasons, none of them has been surfaced by
    another job held on the printer. -/
def RespectsReasons (p : System × List Surfaced) (a : Action) : Prop :=
  ∀ w ∈ p.1.acting a, ∀ shown ∈ p.1.reasonsOf w.task.printerName,
    (∀ f ∈ w.pc.aborts, f.contains shown = true) ∧
    (w.pc.clears = true → ∀ e ∈ p.2, e.heldOn p.1 w.task.printerName = true →
      w.task.slot ≠ e.slot → shown.intersects e.reasons = false)

instance : DecidableRel RespectsReasons := fun p a => by
  unfold RespectsReasons
  infer_instance

section Steps

variable {o : Options} {p : System × List Surfaced} {s' : System} {a : Action} {ev : List Event}

theorem KeepsReasons.respects (hk : KeepsReasons o p a) (h : step o p.1 a = some (s', ev)) :
    RespectsReasons p a := by
  intro w hw shown hshown
  have hafter := reasonsOf_acting hw h
  rw [Option.mem_def.mp hshown, Option.map_some] at hafter
  refine ⟨fun f hf => ?_, fun hc e he hheld hne => ?_⟩
  · cases w.pc.reasonsAccess with
    | abort f' ha hs hc =>
        have e : f' = f := Option.some.inj (ha.symm.trans hf)
        subst e
        rw [hs, Option.getD_some, hk.joined w f' s' ev shown hw ha h hshown] at hafter
        exact PrinterReason.union_eq_right_iff.mp (Option.some.inj hafter)
    | none hs ha hc => rw [ha] at hf; cases hf
    | clear hc hs ha hr => rw [ha] at hf; cases hf
    | surface r hr ha hc => rw [ha] at hf; cases hf
  · cases w.pc.reasonsAccess with
    | clear _ hs ha hr =>
        rw [hs, Option.getD_some] at hafter
        have hreports : p.1.reports a = false := by
          rw [reports_acting hw, hr]
          rfl
        have hacting : ∀ u ∈ p.1.acting a, u.task.slot ≠ e.slot := fun u hu => by
          rw [← Option.some.inj (hw.symm.trans hu)]
          exact hne
        exact PrinterReason.intersects_eq_false_iff.mpr fun reason hr₁ hr₂ =>
          hk.kept s' ev e _ shown .empty reason h hreports he hheld hacting hshown hafter hr₁ hr₂
    | none hs ha hc' => rw [hc'] at hc; cases hc
    | abort f ha hs hc' => rw [hc'] at hc; cases hc
    | surface r hr ha hc' => rw [hc'] at hc; cases hc

theorem RespectsReasons.keeps (hg : RespectsReasons p a) : KeepsReasons o p a where
  joined := fun w f s' ev shown hw hf h hshown => by
    have hafter := reasonsOf_acting hw h
    rw [hshown, Option.map_some] at hafter
    cases w.pc.reasonsAccess with
    | abort f' ha hs hc =>
        have e : f' = f := Option.some.inj (ha.symm.trans hf)
        subst e
        rw [hafter, hs, Option.getD_some,
          PrinterReason.union_eq_right_iff.mpr ((hg w hw shown hshown).1 f' hf)]
    | none hs ha hc => rw [ha] at hf; cases hf
    | clear hc hs ha hr => rw [ha] at hf; cases hf
    | surface r hr ha hc => rw [ha] at hf; cases hf
  kept := fun s' ev e name shown shown' reason h hr he hheld hne hshown hshown' hr₁ hr₂ => by
    by_cases hown : ∃ w ∈ p.1.acting a, w.task.printerName = name
    · obtain ⟨w, hw, rfl⟩ := hown
      have hafter := reasonsOf_acting hw h
      rw [hshown, hshown', Option.map_some] at hafter
      have hvalue := Option.some.inj hafter
      obtain ⟨habort, hclear⟩ := hg w hw shown hshown
      cases w.pc.reasonsAccess with
      | none hs ha hc =>
          rw [hs, Option.getD_none] at hvalue
          rw [hvalue]
          exact hr₁
      | abort f ha hs hc =>
          rw [hs, Option.getD_some] at hvalue
          rw [hvalue]
          exact PrinterReason.contains_trans (habort f ha) hr₁
      | clear hc hs ha _ =>
          rw [hs, Option.getD_some] at hvalue
          rw [hvalue]
          exact PrinterReason.intersects_eq_false_iff.mp (hclear hc e he hheld (hne w hw))
            reason hr₁ hr₂
      | surface r hsurf ha hc =>
          -- a report, which the hypothesis excludes
          rw [reports_acting hw, hsurf] at hr
          cases hr
    · have hother : ∀ w ∈ p.1.acting a, w.task.printerName ≠ name := fun w hw e =>
        hown ⟨w, hw, e⟩
      have e := reasonsOf_other hr hother h shown' hshown'
      rw [← Option.some.inj (hshown.symm.trans e)]
      exact hr₁

/-- **One step**: it keeps reasons if and only if it meets the condition. -/
theorem keepsReasons_iff (h : step o p.1 a = some (s', ev)) :
    KeepsReasons o p a ↔ RespectsReasons p a :=
  ⟨fun hk => hk.respects h, fun hg => hg.keeps⟩

end Steps

/-! ## 3. Runs -/

/-- **Runs that keep reasons**: every step of a run keeps reasons -- whatever the number of
    workers, their order and their outcomes -- if and only if every step of it meets the
    condition. -/
theorem reasons_kept_iff (o : Options) (d : Deployment) (tr : List Event)
    (p : System × List Surfaced) :
    Run (surfacing o) (KeepsReasons o) (boot d, []) tr p ↔
      Run (surfacing o) RespectsReasons (boot d, []) tr p :=
  run_congr fun _ _ _ _ hs => keepsReasons_iff (step_withHistory hs).1

/-- Only others are at work, and none of them reports: the job stays held on its printer. -/
structure HeldMeanwhile (e : Surfaced) (name : String) (p : System × List Surfaced) (a : Action) :
    Prop where
  held : e.heldOn p.1 name = true
  others : ∀ w ∈ p.1.acting a, w.task.slot ≠ e.slot
  noReport : p.1.reports a = false

/-- **What a held job has surfaced stays visible**: as long as the steps of a run meet the
    condition, none of them is a report, and the job stays held, its printer shows all of the
    reasons that it showed at the start and that the job has surfaced. -/
theorem surfaced_stays {o : Options} {e : Surfaced} {name : String} {shown : PrinterReason}
    {p q : System × List Surfaced} {tr : List Event}
    (h : Run (surfacing o) (fun p a => RespectsReasons p a ∧ HeldMeanwhile e name p a) p tr q)
    (he : e ∈ p.2) (hs : p.1.reasonsOf name = some shown) :
    ∃ shown', q.1.reasonsOf name = some shown' ∧ ∀ reason, shown.contains reason = true →
      e.reasons.contains reason = true → shown'.contains reason = true := by
  have hI : e ∈ q.2 ∧ ∃ shown', q.1.reasonsOf name = some shown' ∧ ∀ reason,
      shown.contains reason = true → e.reasons.contains reason = true →
        shown'.contains reason = true := by
    refine Run.always (I := fun q : System × List Surfaced => e ∈ q.2 ∧
      ∃ shown', q.1.reasonsOf name = some shown' ∧ ∀ reason, shown.contains reason = true →
        e.reasons.contains reason = true → shown'.contains reason = true)
      ⟨he, shown, hs, fun _ hr _ => hr⟩ ?_ h
    rintro r a r' ev ⟨he₁, shown₁, hs₁, hall⟩ ⟨hg, hheld⟩ hstep
    obtain ⟨hserver, hnote⟩ := step_withHistory hstep
    obtain ⟨shown₂, hs₂⟩ := reasonsOf_exists hserver hs₁
    refine ⟨?_, shown₂, hs₂, fun reason hr₁ hr₂ => ?_⟩
    · rw [hnote]
      exact List.mem_append_right _ he₁
    · exact hg.keeps.kept r'.1 ev e name shown₁ shown₂ reason hserver hheld.noReport he₁
        hheld.held hheld.others hs₁ hs₂ (hall reason hr₁ hr₂) hr₂
  exact hI.2

/-- Two jobs on the first printer; the first one is held for a jam, the callback of the second
    one fails with no media left. -/
def heldForJam : System × List Surfaced :=
  endOf (surfacing Trial.options) anyStep (boot Trial.deployment, [])
    ([Trial.post "p" Trial.print, Trial.post "p" Trial.print] ++ Trial.times 4 (.worker 0 5) ++
      [.outcome 0 (.deviceUnavailable .MEDIA_JAM)] ++ Trial.times 2 (.worker 0 6) ++
      Trial.times 4 (.worker 1 7) ++ [.outcome 1 (.failed ⟨.MEDIA_EMPTY, "empty"⟩)])

/-- The second worker surfaces its failure. -/
def afterNoMedia : System × List Event :=
  (step Trial.options heldForJam.1 (.worker 1 8)).get (by decide +kernel)

theorem afterNoMedia_step :
    step Trial.options heldForJam.1 (.worker 1 8) = some (afterNoMedia.1, afterNoMedia.2) := by
  rw [Prod.mk.eta]
  exact (Option.some_get _).symm

theorem heldForJam_run :
    ∃ tr, Run (surfacing Trial.options) anyStep (boot Trial.deployment, []) tr heldForJam :=
  ⟨_, run_endOf (by decide +kernel)⟩

/-- What is shown before and after, and who surfaced it. -/
theorem heldForJam_shown :
    heldForJam.1.acting (.worker 1 8) =
        some (secondWorker (.failedReasons ⟨.MEDIA_EMPTY, "empty"⟩)) ∧
      ⟨0, .MEDIA_JAM⟩ ∈ heldForJam.2 ∧
      Surfaced.heldOn heldForJam.1 "p" ⟨0, .MEDIA_JAM⟩ = true ∧
      heldForJam.1.reasonsOf "p" = some .MEDIA_JAM ∧
      afterNoMedia.1.reasonsOf "p" = some .MEDIA_EMPTY := by
  decide +kernel

/-- The failure replaces the jam: its reasons are not joined to those of the printer, and the
    job that is held for the jam has its reason no longer shown. -/
theorem jam_replaced :
    (¬ ∀ (o : Options) (d : Deployment) (tr : List Event) (p : System × List Surfaced)
        (a : Action), Run (surfacing o) anyStep (boot d, []) tr p → JoinsFailure o p.1 a) ∧
      ¬ ∀ (o : Options) (d : Deployment) (tr : List Event) (p : System × List Surfaced)
        (a : Action), Run (surfacing o) anyStep (boot d, []) tr p → KeepsSurfaced o p a := by
  obtain ⟨tr, hrun⟩ := heldForJam_run
  obtain ⟨hacting, hmem, hheld, hbefore, hafter⟩ := heldForJam_shown
  constructor
  · intro h
    have e := h _ _ tr heldForJam (.worker 1 8) hrun _ _ _ _ _ hacting rfl afterNoMedia_step hbefore
    have hunion := Option.some.inj (hafter.symm.trans e)
    exact absurd hunion (by decide)
  · intro h
    have hreports : heldForJam.1.reports (.worker 1 8) = false := by
      rw [reports_acting hacting]
      rfl
    have hother : ∀ w ∈ heldForJam.1.acting (.worker 1 8), w.task.slot ≠ 0 := by
      rw [hacting]
      decide
    have e := h _ _ tr heldForJam (.worker 1 8) hrun _ _ _ "p" _ _ .MEDIA_JAM afterNoMedia_step
      hreports hmem hheld hother hbefore hafter (by decide) (by decide)
    exact absurd e (by decide)

end IppPrinterApp
