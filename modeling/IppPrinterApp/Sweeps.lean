/-
  File:      IppPrinterApp/Sweeps.lean
  Subject:   A Cancel-My-Jobs among everything else.

  The handler lists the jobs of the printer and then cancels them one by one, each under the lock
  for itself. In between other requests create and cancel jobs, workers move them on, and other
  Cancel-My-Jobs run.

  * `cancel_my_jobs_covers`: **when it is answered, every job that its printer had when it arrived
    is in a terminal state**, and a job that came later is never on its list.
-/
import IppPrinterApp.Answers
import IppPrinterApp.CancelMyJobs
import IppPrinterApp.Lifecycle

namespace IppPrinterApp

open Transition

/-! ## 1. What a Cancel-My-Jobs found -/

/-- The positions of the jobs that a Cancel-My-Jobs found on its printer when it arrived. -/
def swept (g : JobRegistry) (name : String) : List Nat :=
  (List.range g.jobs.length).filter fun k => g.jobs[k]?.any fun j => j.printerName == name

/-- What the Cancel-My-Jobs under way found, in the order of their tasks, and what those found that
    have been answered. -/
structure Sweeps where
  running : List (List Nat)
  through : List (List Nat)
  deriving DecidableEq

def Sweeps.after (o : Options) (log : Sweeps) (s : System) : Action → Sweeps
  | .request _ name body =>
    match gates o.crate s.app name body with
    | .error _ => log
    | .ok (req, _) =>
      if operationOf o.crate req.operationOrStatus = .cancelMyJobs then
        { log with running := log.running ++ [swept s.app.jobs name] }
      else log
  | .cancelNext i _ =>
    match s.cancels[i]? with
    | none => log
    | some t =>
      if t.todo = [] then
        { running := log.running.eraseIdx i, through := log.through ++ log.running[i]?.toList }
      else log
  | _ => log

/-- The server with what its Cancel-My-Jobs found beside it. -/
def sweeping (o : Options) : Machine (System × Sweeps) Action Event :=
  (server o).withHistory (Sweeps.after o)

/-- The job at this position is in a terminal state. -/
def JobRegistry.SettledAt (g : JobRegistry) (k : Nat) : Prop :=
  ∃ j, g.jobs[k]? = some j ∧ j.state.isTerminal = true

/-- The task's list is what is left to do of what it found. -/
structure CancelTask.Sweeps (g : JobRegistry) (t : CancelTask) (slots : List Nat) : Prop where
  left : ∀ k ∈ slots, g.SettledAt k ∨ ∃ j, g.jobs[k]? = some j ∧ j.id ∈ t.todo
  only : ∀ id ∈ t.todo, ∃ k ∈ slots, ∃ j, g.jobs[k]? = some j ∧ j.id = id

structure Sweeps.Hold (s : System) (log : Sweeps) : Prop where
  running : List.Forall₂ (CancelTask.Sweeps s.app.jobs) s.cancels log.running
  through : ∀ slots ∈ log.through, ∀ k ∈ slots, s.app.jobs.SettledAt k

section Sweep

variable {o : Options} {s s' : System} {a : Action} {ev tr : List Event} {g g' : JobRegistry}
  {t : CancelTask} {slots : List Nat}

theorem mem_swept {name : String} {k : Nat} :
    k ∈ swept g name ↔ ∃ j, g.jobs[k]? = some j ∧ j.printerName = name := by
  unfold swept
  rw [List.mem_filter, List.mem_range, Option.any_eq_true]
  constructor
  · rintro ⟨_, j, hj, hn⟩
    exact ⟨j, hj, eq_of_beq hn⟩
  · rintro ⟨j, hj, hn⟩
    exact ⟨(List.getElem?_eq_some_iff.mp hj).1, j, hj, beq_iff_eq.mpr hn⟩

/-- On arrival the list is what was found. -/
theorem sweeps_arrived (g : JobRegistry) (t : CancelTask)
    (h : t.todo = (g.jobsForPrinter t.name).map (·.id)) : t.Sweeps g (swept g t.name) where
  left := fun k hk => by
    obtain ⟨j, hj, hn⟩ := mem_swept.mp hk
    refine Or.inr ⟨j, hj, ?_⟩
    rw [h]
    exact List.mem_map.mpr ⟨j, mem_jobsForPrinter.mpr ⟨List.mem_of_getElem? hj, hn⟩, rfl⟩
  only := fun id hid => by
    rw [h] at hid
    obtain ⟨j, hj, rfl⟩ := List.mem_map.mp hid
    obtain ⟨hmem, hn⟩ := mem_jobsForPrinter.mp hj
    obtain ⟨k, hk⟩ := List.mem_iff_getElem?.mp hmem
    exact ⟨k, mem_swept.mpr ⟨j, hk, hn⟩, j, hk, rfl⟩

/-! ## 2. What other steps leave of it -/

/-- Every job is where it was, under its id, and in a terminal state if it was in one. -/
def JobRegistry.Onward (g g' : JobRegistry) : Prop :=
  ∀ (k : Nat) (j : JobRecord), g.jobs[k]? = some j → ∃ j', g'.jobs[k]? = some j' ∧
    j'.id = j.id ∧ (j.state.isTerminal = true → j'.state.isTerminal = true)

theorem step_onward (h : step o s a = some (s', ev)) (hg : RespectsTerminal s a) :
    s.app.jobs.Onward s'.app.jobs := by
  intro k j hk
  obtain ⟨j', hk', hc⟩ := (step_jobs h).change hk
  refine ⟨j', hk', hc.id_eq, fun ht => ?_⟩
  rw [hc.state_eq hk ht hg]
  exact ht

theorem JobRegistry.SettledAt.onward (hon : g.Onward g') {k : Nat} (h : g.SettledAt k) :
    g'.SettledAt k := by
  obtain ⟨j, hk, ht⟩ := h
  obtain ⟨j', hk', _, ht'⟩ := hon k j hk
  exact ⟨j', hk', ht' ht⟩

theorem CancelTask.Sweeps.onward (hon : g.Onward g') (h : t.Sweeps g slots) :
    t.Sweeps g' slots where
  left := fun k hk => by
    rcases h.left k hk with hset | ⟨j, hj, hid⟩
    · exact Or.inl (hset.onward hon)
    · obtain ⟨j', hj', e, _⟩ := hon k j hj
      exact Or.inr ⟨j', hj', e ▸ hid⟩
  only := fun id hid => by
    obtain ⟨k, hk, j, hj, rfl⟩ := h.only id hid
    obtain ⟨j', hj', e, _⟩ := hon k j hj
    exact ⟨k, hk, j', hj', e⟩

theorem Sweeps.Hold.onward {log : Sweeps} (h : log.Hold s) (hon : s.app.jobs.Onward s'.app.jobs) :
    List.Forall₂ (CancelTask.Sweeps s'.app.jobs) s.cancels log.running ∧
      ∀ slots ∈ log.through, ∀ k ∈ slots, s'.app.jobs.SettledAt k :=
  ⟨h.running.imp fun _ _ ht => ht.onward hon,
    fun slots hs k hk => (h.through slots hs k hk).onward hon⟩

/-- A cancel settles the job of its id. -/
theorem settledAt_cancel (hwf : g.Wf) (hlt : g.jobs.length < 2 ^ 32) (now : SystemTime) {k : Nat}
    {j : JobRecord} (hk : (g.cancel now j.id).2.jobs[k]? = some j) :
    (g.cancel now j.id).2.SettledAt k := by
  refine ⟨j, hk, ?_⟩
  have e := JobRegistry.update_getElem? g j.id (·.withCancel now) k
  have hk' : (g.update j.id (·.withCancel now)).jobs[k]? = some j := hk
  rw [hk'] at e
  by_cases hs : g.slotOf j.id = k
  · rw [if_pos hs] at e
    obtain ⟨j₀, _, rfl⟩ := Option.map_eq_some_iff.mp e.symm
    exact JobRecord.withCancel_isTerminal now j₀
  · rw [if_neg hs] at e
    exact absurd (JobRegistry.slotOf_id hwf hlt e.symm) hs

/-! ## 3. One step -/

/-- A Cancel-My-Jobs goes on to the next job of its list. -/
theorem hold_canceled {log : Sweeps} (h : log.Hold s) {i : Nat} {now : SystemTime} {id : JobId}
    {todo : List JobId} (ht : s.cancels[i]? = some t) (htodo : t.todo = id :: todo)
    (hwf : s.app.jobs.Wf) (hlt : s.app.jobs.jobs.length < 2 ^ 32)
    (hon : s.app.jobs.Onward (s.app.jobs.cancel now id).2) :
    List.Forall₂ (CancelTask.Sweeps (s.app.jobs.cancel now id).2)
      (s.cancels.set i { t with todo }) log.running := by
  refine Pool.notes_set (h.running.imp fun _ _ hsw => hsw.onward hon) ht fun slots hsw => ?_
  refine ⟨fun k hk => ?_, fun id' hid' => hsw.only id' ?_⟩
  · rcases hsw.left k hk with hset | ⟨j, hj, hid⟩
    · exact Or.inl hset
    · rw [htodo] at hid
      rcases List.mem_cons.mp hid with rfl | hid
      · exact Or.inl (settledAt_cancel hwf hlt now hj)
      · exact Or.inr ⟨j, hj, hid⟩
  · rw [htodo]
    exact List.mem_cons_of_mem id hid'

theorem after_refused {log : Sweeps} {clock : Clock} {name : String} {body : List UInt8}
    {reply : Reply} (hg : gates o.crate s.app name body = .error reply) :
    log.after o s (.request clock name body) = log := by
  unfold Sweeps.after
  simp [hg]

theorem after_admitted {log : Sweeps} {clock : Clock} {name : String} {body : List UInt8}
    {req : IppRequest} {record : PrinterRecord}
    (hg : gates o.crate s.app name body = .ok (req, record)) :
    log.after o s (.request clock name body) =
      if operationOf o.crate req.operationOrStatus = .cancelMyJobs then
        { log with running := log.running ++ [swept s.app.jobs name] }
      else log := by
  unfold Sweeps.after
  simp [hg]

/-- A request arrives; if it is a Cancel-My-Jobs, a list is begun. -/
theorem hold_request {log : Sweeps} {clock : Clock} {name : String} {body : List UInt8}
    (h : log.Hold s) (hon : s.app.jobs.Onward s'.app.jobs)
    (hs : step o s (.request clock name body) = some (s', ev)) :
    (log.after o s (.request clock name body)).Hold s' := by
  obtain ⟨hrunning, hthrough⟩ := h.onward hon
  have e : requestStep o s clock name body = (s', ev) := Option.some.inj hs
  unfold requestStep at e
  cases hg : gates o.crate s.app name body with
  | error reply =>
      rw [hg] at e
      cases e
      rw [after_refused hg]
      exact ⟨hrunning, hthrough⟩
  | ok admitted =>
      obtain ⟨req, record⟩ := admitted
      rw [hg] at e
      dsimp only at e
      rw [after_admitted hg]
      by_cases hop : operationOf o.crate req.operationOrStatus = .cancelMyJobs
      · rw [if_pos hop] at e ⊢
        cases e
        exact ⟨Pool.notes_append hrunning (sweeps_arrived _ ⟨name, body, _, _, _⟩ rfl), hthrough⟩
      · rw [if_neg hop] at e ⊢
        split at e
        · cases e
          exact ⟨hrunning, hthrough⟩
        · cases e
          exact ⟨hrunning, hthrough⟩

/-- A Cancel-My-Jobs makes its next step; if nothing is left of its list, it is answered. -/
theorem hold_cancelNext {log : Sweeps} {i : Nat} {now : SystemTime} (h : log.Hold s)
    (hon : s.app.jobs.Onward s'.app.jobs) (hwf : s.app.jobs.Wf)
    (hlt : s.app.jobs.jobs.length < 2 ^ 32) (hs : step o s (.cancelNext i now) = some (s', ev)) :
    (log.after o s (.cancelNext i now)).Hold s' := by
  obtain ⟨hrunning, hthrough⟩ := h.onward hon
  obtain ⟨t, ht, ⟨id, todo, htodo, rfl, rfl⟩ | ⟨htodo, rfl, rfl⟩⟩ := step_cancelNext hs
  · have hafter : log.after o s (.cancelNext i now) = log := by
      unfold Sweeps.after
      simp [ht, htodo]
    rw [hafter]
    exact ⟨hold_canceled h ht htodo hwf hlt hon, hthrough⟩
  · have hafter : log.after o s (.cancelNext i now) =
        { running := log.running.eraseIdx i
          through := log.through ++ log.running[i]?.toList } := by
      unfold Sweeps.after
      simp [ht, htodo]
    rw [hafter]
    refine ⟨Pool.notes_eraseIdx hrunning i, fun slots hmem => ?_⟩
    rcases List.mem_append.mp hmem with hmem | hmem
    · exact hthrough slots hmem
    · -- the one that is answered now
      obtain ⟨slots', hn, hsw⟩ := Pool.noted hrunning ht
      rw [hn, Option.toList_some, List.mem_singleton] at hmem
      subst hmem
      intro k hk
      rcases hsw.left k hk with hset | ⟨j, _, hid⟩
      · exact hset
      · rw [htodo] at hid
        exact absurd hid List.not_mem_nil

/-- **Every step keeps the lists what is left of what was found.** -/
theorem step_hold {log : Sweeps} (h : log.Hold s) (hg : RespectsTerminal s a)
    (hwf : s.app.jobs.Wf) (hlt : s.app.jobs.jobs.length < 2 ^ 32)
    (hs : step o s a = some (s', ev)) : (log.after o s a).Hold s' := by
  have hon := step_onward hs hg
  cases a with
  | request clock name body => exact hold_request h hon hs
  | cancelNext i now => exact hold_cancelNext h hon hwf hlt hs
  | _ =>
      -- nobody else moves a loop, and nothing is noted
      obtain ⟨hrunning, hthrough⟩ := h.onward hon
      exact ⟨step_cancels_same hs nofun nofun ▸ hrunning, hthrough⟩

/-- **A Cancel-My-Jobs covers what it found**: whatever goes on meanwhile, in a run that creates
    fewer than 2^32 jobs and whose workers respect terminal states, every job that the printer had
    when it arrived is in a terminal state once it is answered, and stays in one; and while it is
    under way, there is nothing on its list but what it found. -/
theorem cancel_my_jobs_covers {d : Deployment} {log : Sweeps}
    (h : Run (sweeping o) (fun p a => RespectsTerminal p.1 a) (boot d, ⟨[], []⟩) tr (s, log))
    (hlt : s.app.jobs.jobs.length < 2 ^ 32) :
    (∀ slots ∈ log.through, ∀ k ∈ slots, s.app.jobs.SettledAt k) ∧
      List.Forall₂ (fun t slots => ∀ id ∈ t.todo, ∃ k ∈ slots,
        ∃ j, s.app.jobs.jobs[k]? = some j ∧ j.id = id) s.cancels log.running := by
  have hsmall := h.bounded (f := fun p => p.1.app.jobs.jobs.length)
    (fun _ _ _ _ hs => step_jobs_length (step_withHistory hs).1) hlt
  have hinv : s.app.jobs.Wf ∧ log.Hold s := by
    refine Run.always (I := fun p => p.1.app.jobs.Wf ∧ p.2.Hold p.1) ?_ ?_ hsmall
    · exact ⟨JobRegistry.new_wf, .nil, fun _ hs => absurd hs List.not_mem_nil⟩
    · intro p a p' ev ⟨hwf, hhold⟩ ⟨hg, hlt⟩ hs
      obtain ⟨hstep, hlog⟩ := step_withHistory hs
      rw [hlog]
      exact ⟨step_wf hwf hstep, step_hold hhold hg hwf hlt hstep⟩
  exact ⟨hinv.2.through, hinv.2.running.imp fun _ _ hsw => hsw.only⟩

end Sweep

namespace Trial

/-- Two jobs are there when the Cancel-My-Jobs arrives; one more comes before it is answered. -/
def sweepAmongOthers : List Action :=
  [post "p" print, post "p" create, post "p" cancelMine, .worker 0 0, .worker 0 0,
    .cancelNext 0 0, post "p" create, .cancelNext 0 0, .worker 0 0, .cancelNext 0 0]

def sweptThrough : System × Sweeps :=
  endOf (sweeping options) (fun p a => RespectsTerminal p.1 a) (boot deployment, ⟨[], []⟩)
    sweepAmongOthers

/-- It found the first two jobs, and left the third. -/
example : sweptThrough.2.through = [[0, 1]] ∧
    sweptThrough.1.app.jobs.jobs.map (·.state) = [.canceled, .canceled, .pending] := by
  decide +kernel

end Trial

theorem cancel_my_jobs_covers_two :
    (∀ slots ∈ Trial.sweptThrough.2.through, ∀ k ∈ slots,
        Trial.sweptThrough.1.app.jobs.SettledAt k) ∧
      List.Forall₂ (fun t slots => ∀ id ∈ t.todo, ∃ k ∈ slots,
        ∃ j, Trial.sweptThrough.1.app.jobs.jobs[k]? = some j ∧ j.id = id)
        Trial.sweptThrough.1.cancels Trial.sweptThrough.2.running :=
  cancel_my_jobs_covers (run_endOf_pair (M := sweeping Trial.options) (by decide +kernel))
    (by decide +kernel)

end IppPrinterApp
