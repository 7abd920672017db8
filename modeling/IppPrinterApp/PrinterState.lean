/-
  File:      IppPrinterApp/PrinterState.lean
  Subject:   The state of a printer: its workers and the status poller.

  A printer's state is one cell. Each worker sets it on entry and resets it on exit, and the
  poller writes what the device reports; none of them asks who else is at it.

  * `processing_iff_active`: a printer is Processing exactly while some worker is active on it,
    in every run without polls in which no worker returns a printer to idle that another one is
    active on (`IdlesAlone`);
  * `poller_undisturbing`: the poller calls on no Processing printer and changes none, in every
    run in which no job starts on a printer that the poller has still to write
    (`StartsOutsideRound`).

  Which worker is active is not in its position -- it may return the printer to idle twice -- so
  it is noted in a history variable (`noteActive`), which changes no run (`run_noted_iff`).
-/
import IppPrinterApp.Documents

namespace IppPrinterApp

open Transition

/-! ## 1. What an access does to a printer's state -/

/-- The state that the access to the printers at a position writes, if it writes one. -/
def PrinterOp.writes : PrinterOp → Option IppPrinterState
  | .processing => some .processing
  | .idle => some .idle
  | .reasons _ => none

def WorkerPc.sets (pc : WorkerPc) : Option IppPrinterState := pc.printerOp.bind PrinterOp.writes

theorem PrinterOp.apply_state (op : PrinterOp) (r : PrinterRecord) :
    (op.apply r).state = op.writes.getD r.state := by
  cases op <;> rfl

section Accesses

variable {printers : PrinterRegistry} {name : String} {r : PrinterRecord}

/-- A worker's access to its own printer. -/
theorem findPrinter_worker_own {pc : WorkerPc} {task : PrintTask}
    (h : findPrinter (pc.printersAfter task printers) task.printerName = some r) :
    ∃ r₀, findPrinter printers task.printerName = some r₀ ∧ r.state = pc.sets.getD r₀.state := by
  unfold WorkerPc.printersAfter at h
  unfold WorkerPc.sets
  cases hop : pc.printerOp with
  | none =>
      rw [hop] at h
      exact ⟨r, h, rfl⟩
  | some op =>
      rw [hop] at h
      dsimp only at h
      rw [findPrinter_updatePrinter fun p => by rw [op.apply_config p]] at h
      obtain ⟨r₀, hr₀, rfl⟩ := Option.map_eq_some_iff.mp h
      exact ⟨r₀, hr₀, op.apply_state r₀⟩

theorem findPrinter_worker_other {pc : WorkerPc} {task : PrintTask} (hne : name ≠ task.printerName) :
    findPrinter (pc.printersAfter task printers) name = findPrinter printers name := by
  unfold WorkerPc.printersAfter
  cases pc.printerOp with
  | none => rfl
  | some op => exact findPrinter_updatePrinter_other (fun p => by rw [op.apply_config p]) printers hne

/-- Loading media leaves the states and the reasons alone. -/
theorem findPrinter_media {t : MediaTask} (h : findPrinter (t.printersAfter printers) name = some r) :
    ∃ r₀, findPrinter printers name = some r₀ ∧ r.state = r₀.state ∧ r.reasons = r₀.reasons := by
  unfold MediaTask.printersAfter at h
  split at h
  · have hname : ∀ p : PrinterRecord, (p.setReadyMedia t.form.media).1.config.name = p.config.name :=
      fun p => p.setReadyMedia_name t.form.media
    by_cases hn : name = t.name
    · subst hn
      rw [findPrinter_updatePrinter hname] at h
      obtain ⟨r₀, hr₀, rfl⟩ := Option.map_eq_some_iff.mp h
      exact ⟨r₀, hr₀, rfl, rfl⟩
    · rw [findPrinter_updatePrinter_other hname printers hn] at h
      exact ⟨r, h, rfl, rfl⟩
  · exact ⟨r, h, rfl, rfl⟩

/-- A status is written as Idle or Stopped. -/
theorem PollStatus.applyTo_state (status : PollStatus) (r : PrinterRecord) :
    (status.applyTo r).1.state = if status.reachable then .idle else .stopped := by
  unfold PollStatus.applyTo
  cases status.readyMedia with
  | none => dsimp only; split <;> rfl
  | some media => dsimp only; split <;> rfl

end Accesses

/-- A step of the status poller. -/
def Action.ofPoller : Action → Bool
  | .pollTick => true
  | .pollAnswer _ => true
  | .poll => true
  | _ => false

/-! ## 2. Processing, and who is active -/

/-- Notes who is active: worker `i` from its marking the printer to its first return to idle. -/
def noteActive (active : List Nat) (s : System) : Action → List Nat
  | .worker i _ =>
    match s.workers[i]?.bind (·.pc.sets) with
    | some .processing => i :: active
    | some .idle => active.filter (· ≠ i)
    | _ => active
  | _ => active

/-- Some active worker is one of the printer with this name. -/
def ActiveOn (ws : List Worker) (active : List Nat) (name : String) : Prop :=
  ∃ i ∈ active, ∃ w, ws[i]? = some w ∧ w.task.printerName = name

/-- A worker about to return its printer to idle is alone on it: no other one is active. -/
def IdlesAlone (p : System × List Nat) : Action → Prop
  | .worker i _ => ∀ w ∈ p.1.workers[i]?, w.pc.sets = some .idle →
      ∀ k ∈ p.2, k ≠ i → ∀ w' ∈ p.1.workers[k]?, w'.task.printerName ≠ w.task.printerName
  | _ => True

instance : DecidableRel IdlesAlone
  | _, .request .. | _, .cancelNext .. | _, .identified _ | _, .worker .. | _, .outcome ..
  | _, .pollTick | _, .pollAnswer .. | _, .poll | _, .mediaPost .. | _, .mediaAnswer ..
  | _, .media .. => by
    unfold IdlesAlone
    infer_instance

/-- The poller is not running. -/
def WithoutPolls (_ : System × List Nat) (a : Action) : Prop := a.ofPoller = false

instance : DecidableRel WithoutPolls := fun _ a => inferInstanceAs (Decidable (a.ofPoller = false))

/-- The poller is not running, and workers return printers to idle alone. -/
def AloneWithoutPolls (p : System × List Nat) (a : Action) : Prop :=
  WithoutPolls p a ∧ IdlesAlone p a

instance : DecidableRel AloneWithoutPolls := fun p a =>
  inferInstanceAs (Decidable (WithoutPolls p a ∧ IdlesAlone p a))

section Active

variable {o : Options} {s s' t : System} {a : Action} {ev tr : List Event}
  {g : JobRegistry} {ws : List Worker} {active : List Nat}

/-- A worker keeps its place and its task. -/
theorem JobsStep.task_at (h : JobsStep o s a g ws) {i : Nat} {w : Worker}
    (hw : s.workers[i]? = some w) : ∃ w', ws[i]? = some w' ∧ w'.task = w.task := by
  have hlt : i < s.workers.length := (List.getElem?_eq_some_iff.mp hw).1
  have hset : ∀ n u u', s.workers[n]? = some u → u'.task = u.task →
      ∃ w', (s.workers.set n u')[i]? = some w' ∧ w'.task = w.task := by
    intro n u u' hu htask
    by_cases hn : n = i
    · subst hn
      rw [hw] at hu
      cases hu
      exact ⟨u', List.getElem?_set_self hlt, htask⟩
    · exact ⟨w, (List.getElem?_set_ne hn).trans hw, rfl⟩
  cases h with
  | same => exact ⟨w, hw, rfl⟩
  | request => exact ⟨w, (List.getElem?_append_left hlt).trans hw, rfl⟩
  | canceled => exact ⟨w, hw, rfl⟩
  | worked n now u u' hu hn => exact hset n u u' hu (Worker.next_task hn)
  | returned n out u hu hp => exact hset n u _ hu rfl

/-- So a step does not change where the workers noted are active. -/
theorem JobsStep.activeOn (h : JobsStep o s a g ws)
    (hin : ∀ i ∈ active, i < s.workers.length) (name : String) :
    ActiveOn ws active name ↔ ActiveOn s.workers active name := by
  constructor
  · rintro ⟨i, hi, w', hw', hname⟩
    have hw := List.getElem?_eq_getElem (hin i hi)
    obtain ⟨w'', hw'', htask⟩ := h.task_at hw
    rw [hw'] at hw''
    cases hw''
    exact ⟨i, hi, _, hw, by rw [← htask]; exact hname⟩
  · rintro ⟨i, hi, w, hw, hname⟩
    obtain ⟨w', hw', htask⟩ := h.task_at hw
    exact ⟨i, hi, w', hw', by rw [htask]; exact hname⟩

/-- What worker `i` does to the note concerns its own printer only. -/
theorem activeOn_cons_other {i : Nat} {w : Worker} {name : String} (hw : ws[i]? = some w)
    (hn : name ≠ w.task.printerName) : ActiveOn ws (i :: active) name ↔ ActiveOn ws active name := by
  constructor
  · rintro ⟨k, hk, u, hu, hname⟩
    rcases List.mem_cons.mp hk with rfl | hk
    · rw [hw] at hu
      cases hu
      exact absurd hname.symm hn
    · exact ⟨k, hk, u, hu, hname⟩
  · rintro ⟨k, hk, hrest⟩
    exact ⟨k, List.mem_cons_of_mem i hk, hrest⟩

theorem activeOn_filter_other {i : Nat} {w : Worker} {name : String} (hw : ws[i]? = some w)
    (hn : name ≠ w.task.printerName) :
    ActiveOn ws (active.filter (· ≠ i)) name ↔ ActiveOn ws active name := by
  constructor
  · rintro ⟨k, hk, hrest⟩
    exact ⟨k, (List.mem_filter.mp hk).1, hrest⟩
  · rintro ⟨k, hk, u, hu, hname⟩
    refine ⟨k, List.mem_filter.mpr ⟨hk, decide_eq_true fun e => ?_⟩, u, hu, hname⟩
    subst e
    rw [hw] at hu
    cases hu
    exact hn hname.symm

/-- No access of a worker writes Stopped. -/
theorem WorkerPc.sets_ne_stopped (pc : WorkerPc) : pc.sets ≠ some .stopped := by
  intro h
  obtain ⟨op, _, hw⟩ := Option.bind_eq_some_iff.mp h
  cases op <;> cases hw

/-- What is noted agrees with the printers. -/
structure Noted (s : System) (active : List Nat) : Prop where
  known : ∀ i ∈ active, i < s.workers.length
  processing : ∀ name r, findPrinter s.app.printers name = some r →
    (r.state = .processing ↔ ActiveOn s.workers active name)

/-- A step that keeps the printers' states and notes nothing. -/
theorem Noted.keep (hI : Noted s active) (hj : JobsStep o s a s'.app.jobs s'.workers)
    (hp : ∀ name r, findPrinter s'.app.printers name = some r →
      ∃ r₀, findPrinter s.app.printers name = some r₀ ∧ r.state = r₀.state) :
    Noted s' active where
  known := fun i hi => by
    obtain ⟨w', hw', _⟩ := hj.task_at (List.getElem?_eq_getElem (hI.known i hi))
    exact (List.getElem?_eq_some_iff.mp hw').1
  processing := fun name r hr => by
    obtain ⟨r₀, hr₀, hst⟩ := hp name r hr
    rw [hst, hj.activeOn hI.known]
    exact hI.processing name r₀ hr₀

/-- A step of a worker that leaves other printers alone, and after which the note is right for its
    own. -/
theorem Noted.change (hI : Noted s active) (hj : JobsStep o s a s'.app.jobs s'.workers)
    {w : Worker} {active' : List Nat}
    (hknown : ∀ k ∈ active', k < s.workers.length)
    (hothers : ∀ name, name ≠ w.task.printerName →
      (ActiveOn s.workers active' name ↔ ActiveOn s.workers active name))
    (hprinters : s'.app.printers = w.pc.printersAfter w.task s.app.printers)
    (hown : ∀ r, findPrinter s'.app.printers w.task.printerName = some r →
      (r.state = .processing ↔ ActiveOn s.workers active' w.task.printerName)) :
    Noted s' active' where
  known := fun k hk => by
    obtain ⟨w', hw', _⟩ := hj.task_at (List.getElem?_eq_getElem (hknown k hk))
    exact (List.getElem?_eq_some_iff.mp hw').1
  processing := fun name r hr => by
    rw [hj.activeOn hknown]
    by_cases hn : name = w.task.printerName
    · subst hn
      exact hown r hr
    · rw [hprinters, findPrinter_worker_other hn] at hr
      rw [hothers name hn]
      exact hI.processing name r hr

/-- A worker's access: marking, returning to idle, or neither. -/
theorem Noted.worker {i : Nat} {now : SystemTime} (hI : Noted s active)
    (hg : IdlesAlone (s, active) (.worker i now)) (h : step o s (.worker i now) = some (s', ev)) :
    Noted s' (noteActive active s (.worker i now)) := by
  have hj := step_jobs h
  obtain ⟨w, w', hw, hn, _, rfl⟩ := step_worker h
  have hlt : i < s.workers.length := (List.getElem?_eq_some_iff.mp hw).1
  have hstate : ∀ r, findPrinter (w.pc.printersAfter w.task s.app.printers) w.task.printerName =
      some r → ∃ r₀, findPrinter s.app.printers w.task.printerName = some r₀ ∧
        r.state = w.pc.sets.getD r₀.state := fun r hr => findPrinter_worker_own hr
  have hnote : noteActive active s (.worker i now) =
      match w.pc.sets with
      | some .processing => i :: active
      | some .idle => active.filter (· ≠ i)
      | _ => active := by
    unfold noteActive
    dsimp only
    rw [hw]
    rfl
  rw [hnote]
  cases hsets : w.pc.sets with
  | none =>
      refine hI.change hj hI.known (fun _ _ => Iff.rfl) rfl fun r hr => ?_
      obtain ⟨r₀, hr₀, hst⟩ := hstate r hr
      rw [hst, hsets]
      exact hI.processing _ r₀ hr₀
  | some st =>
      cases st with
      | processing =>
          have hknown : ∀ k ∈ i :: active, k < s.workers.length := by
            intro k hk
            rcases List.mem_cons.mp hk with rfl | hk
            · exact hlt
            · exact hI.known k hk
          refine hI.change hj hknown (fun _ hn => activeOn_cons_other hw hn) rfl fun r hr => ?_
          obtain ⟨r₀, _, hst⟩ := hstate r hr
          rw [hst, hsets]
          exact ⟨fun _ => ⟨i, List.mem_cons_self, w, hw, rfl⟩, fun _ => rfl⟩
      | idle =>
          have hknown : ∀ k ∈ active.filter (· ≠ i), k < s.workers.length := fun k hk =>
            hI.known k (List.mem_filter.mp hk).1
          refine hI.change hj hknown (fun _ hn => activeOn_filter_other hw hn) rfl fun r hr => ?_
          obtain ⟨r₀, _, hst⟩ := hstate r hr
          rw [hst, hsets]
          constructor
          · intro e
            cases e
          · -- the guard: nobody else is active on it
            rintro ⟨k, hk, u, hu, hname⟩
            obtain ⟨hk, hki⟩ := List.mem_filter.mp hk
            exact absurd hname (hg w hw hsets k hk (of_decide_eq_true hki) u hu)
      | stopped => exact absurd hsets w.pc.sets_ne_stopped

/-- **Every step keeps the note true.** -/
theorem Noted.step (hI : Noted s active) (hg : AloneWithoutPolls (s, active) a)
    (h : IppPrinterApp.step o s a = some (s', ev)) : Noted s' (noteActive active s a) := by
  have hj := step_jobs h
  have hsame : s'.app.printers = s.app.printers → Noted s' active := fun e =>
    hI.keep hj fun name r hr => ⟨r, by rw [← e]; exact hr, rfl⟩
  cases a with
  | worker i now => exact hI.worker hg.2 h
  | media i =>
      obtain ⟨t, _, _, _, _, rfl⟩ := step_media h
      refine hI.keep hj fun name r hr => ?_
      obtain ⟨r₀, hr₀, hst, _⟩ := findPrinter_media hr
      exact ⟨r₀, hr₀, hst⟩
  | pollTick => cases hg.1
  | pollAnswer status => cases hg.1
  | poll => cases hg.1
  | _ => exact hsame (step_printers_same h rfl)

/-- The note changes no run of the server. -/
theorem run_noted_iff {G : System → Action → Prop} {d : Deployment} :
    Run (server o) G (boot d) tr s ↔
      ∃ active, Run ((server o).withHistory noteActive) (fun p a => G p.1 a) (boot d, []) tr
        (s, active) := run_iff_withHistory []

/-- **Processing means active**: without polls, and while workers return printers to idle only
    where they are alone, a printer is Processing if and only if a worker that has marked it has
    not yet returned it to idle. -/
theorem processing_iff_active {d : Deployment} {p : System × List Nat} {name : String}
    {r : PrinterRecord}
    (h : Run ((server o).withHistory noteActive) AloneWithoutPolls (boot d, []) tr p)
    (hr : findPrinter p.1.app.printers name = some r) :
    r.state = .processing ↔ ActiveOn p.1.workers p.2 name := by
  have hI : Noted p.1 p.2 := by
    refine Run.always (I := fun p : System × List Nat => Noted p.1 p.2) ⟨?_, ?_⟩ ?_ h
    · intro i hi
      cases hi
    · intro name r hr
      obtain ⟨e, he, rfl⟩ := List.mem_map.mp (List.mem_of_find?_eq_some hr)
      constructor
      · intro hst
        cases hst
      · rintro ⟨i, hi, _⟩
        cases hi
    · intro p b p' ev' hI hg hs
      obtain ⟨hstep, hnote⟩ := step_withHistory hs
      rw [hnote]
      exact hI.step hg hstep
  exact hI.processing name r hr

end Active

/-- Two jobs on the first printer; the callback of the first one is through, the second one
    prints. -/
def overlapping : List Action :=
  [Trial.post "p" Trial.print, Trial.post "p" Trial.print] ++ Trial.times 4 (.worker 0 5) ++
    Trial.times 4 (.worker 1 5) ++ [.outcome 0 .completed, .worker 0 6]

/-- The server with the note of who is active. -/
abbrev noted : Machine (System × List Nat) Action Event :=
  (server Trial.options).withHistory noteActive

/-- The state while both are at it, and one access of the first worker later. -/
def bothActive : System × List Nat :=
  endOf noted AloneWithoutPolls (boot Trial.deployment, []) overlapping

def idledUnderneath : System × List Nat :=
  endOf noted WithoutPolls (boot Trial.deployment, []) (overlapping ++ [.worker 0 6])

theorem processing_iff_active_overlapping :
    IppPrinterState.processing = .processing ↔ ActiveOn bothActive.1.workers bothActive.2 "p" :=
  processing_iff_active (r := { printerP with state := .processing })
    (run_endOf (by decide +kernel)) (by decide +kernel)

/-- The second worker: the one for the second job. -/
def secondWorker (pc : WorkerPc) : Worker where
  task :=
    { printerName := "p", id := 2, slot := 1, payload := [65], copies := 0
      documentFormat := "application/octet-stream", printQuality := none }
  pc
  backoff := 2000000000

/-- The first worker returns the printer to idle while the second one prints. -/
theorem printer_idle_while_printing :
    ¬ ∀ (o : Options) (d : Deployment) (tr : List Event) (p : System × List Nat)
        (name : String) (r : PrinterRecord),
        Run ((server o).withHistory noteActive) WithoutPolls (boot d, []) tr p →
        findPrinter p.1.app.printers name = some r →
        (r.state = .processing ↔ ActiveOn p.1.workers p.2 name) := by
  intro h
  have hiff := h Trial.options Trial.deployment _ idledUnderneath "p" printerP
    (run_endOf (by decide +kernel)) (by decide +kernel)
  have hactive : ActiveOn idledUnderneath.1.workers idledUnderneath.2 "p" :=
    ⟨1, by decide +kernel, secondWorker .printing, by decide +kernel, rfl⟩
  cases hiff.mpr hactive

/-! ## 3. The poller and the jobs -/

/-- The configurations of the round that the poller has still to write. -/
def PollerPc.outstanding : PollerPc → List PrinterConfig
  | next todo _ => todo
  | polling cfg todo _ => cfg :: todo
  | write cfg _ todo _ => cfg :: todo
  | advert _ _ _ todo _ => todo
  | _ => []

/-- No job starts on a printer that the poller has still to write; and when a round begins, no
    printer to be polled shares its name with a Processing one. -/
def StartsOutsideRound (s : System) : Action → Prop
  | .worker i _ => ∀ w ∈ s.workers[i]?, w.pc.sets = some .processing →
      ∀ cfg ∈ s.poller.outstanding, cfg.name ≠ w.task.printerName
  | .pollTick => ∀ r ∈ s.app.printers, r.pollable = true →
      ∀ r' ∈ findPrinter s.app.printers r.config.name, r'.pollable = true
  | _ => True

instance : DecidableRel StartsOutsideRound
  | _, .request .. | _, .cancelNext .. | _, .identified _ | _, .worker .. | _, .outcome ..
  | _, .pollTick | _, .pollAnswer .. | _, .poll | _, .mediaPost .. | _, .mediaAnswer ..
  | _, .media .. => by
    unfold StartsOutsideRound
    infer_instance

/-- No printer of the round is Processing. -/
def RoundIdle (s : System) : Prop :=
  ∀ cfg ∈ s.poller.outstanding, ∀ r, findPrinter s.app.printers cfg.name = some r →
    r.state ≠ .processing

section Poller

variable {o : Options} {s s' t : System} {a : Action} {ev tr : List Event}

theorem PrinterRecord.pollable_iff (r : PrinterRecord) :
    r.pollable = true ↔ r.state ≠ .processing := by
  unfold PrinterRecord.pollable
  cases r.state with
  | idle => exact ⟨fun _ e => (nomatch e), fun _ => rfl⟩
  | stopped => exact ⟨fun _ e => (nomatch e), fun _ => rfl⟩
  | processing => exact ⟨fun e => (nomatch e), fun h => absurd rfl h⟩

/-- The poller's own access: the written printer is Idle or Stopped, any other as before. -/
theorem findPrinter_poller {pc : PollerPc} {printers : PrinterRegistry} {name : String}
    {r : PrinterRecord} (h : findPrinter (pc.printersAfter printers) name = some r) :
    r.state ≠ .processing ∨ findPrinter printers name = some r := by
  unfold PollerPc.printersAfter at h
  split at h
  · rename_i n status _
    have hname : ∀ p : PrinterRecord, (status.applyTo p).1.config.name = p.config.name :=
      fun p => status.applyTo_name p
    by_cases hn : name = n
    · subst hn
      rw [findPrinter_updatePrinter hname] at h
      obtain ⟨r₀, _, rfl⟩ := Option.map_eq_some_iff.mp h
      refine Or.inl ?_
      rw [status.applyTo_state]
      split <;> exact fun e => (nomatch e)
    · rw [findPrinter_updatePrinter_other hname printers hn] at h
      exact Or.inr h
  · exact Or.inr h

/-- An access of the poller leaves nothing outstanding that was not. -/
theorem PollerPc.step_outstanding {advertised : Bool} {printers : PrinterRegistry}
    {pc pc' : PollerPc} (h : pc.step advertised printers = some pc') :
    ∀ cfg ∈ pc'.outstanding, cfg ∈ pc.outstanding := by
  intro cfg hcfg
  cases pc with
  | waiting => cases h
  | next todo changed =>
      cases todo with
      | nil =>
          cases h
          cases changed <;> cases hcfg
      | cons c todo =>
          cases h
          exact hcfg
  | polling c todo changed => cases h
  | write c status todo changed =>
      cases h
      exact List.mem_cons_of_mem c hcfg
  | advert c reachable copy todo changed =>
      cases h
      exact hcfg
  | snapshot =>
      cases h
      cases hcfg
  | save saved =>
      cases h
      cases hcfg

/-- Only its own steps move the poller. -/
theorem step_poller_same (h : step o s a = some (s', ev)) (ha : a.ofPoller = false) :
    s'.poller = s.poller := by
  cases a with
  | request clock name body =>
      rcases step_request h with ⟨_, _, rfl, _⟩ | ⟨_, _, _, _, _, _, rfl⟩ |
        ⟨_, _, _, _, _, _, rfl⟩ | ⟨_, _, _, _, rfl, _⟩
      · rfl
      · rfl
      · rfl
      · rfl
  | cancelNext i now =>
      obtain ⟨t, _, ⟨_, _, _, _, rfl⟩ | ⟨_, rfl, _⟩⟩ := step_cancelNext h
      · rfl
      · rfl
  | identified i =>
      obtain ⟨_, _, rfl, _⟩ := step_identified h
      rfl
  | worker i now =>
      obtain ⟨_, _, _, _, _, rfl⟩ := step_worker h
      rfl
  | outcome i out =>
      obtain ⟨_, _, _, _, rfl⟩ := step_outcome h
      rfl
  | mediaPost name form =>
      rcases step_mediaPost h with rfl | ⟨_, _, rfl⟩
      · rfl
      · rfl
  | mediaAnswer i refusal =>
      obtain ⟨_, _, _, _, _, rfl⟩ := step_mediaAnswer h
      rfl
  | media i =>
      obtain ⟨_, _, _, _, _, rfl⟩ := step_media h
      rfl
  | _ => cases ha

/-- A worker's access: it marks no printer of the round. -/
theorem RoundIdle.worker {i : Nat} {now : SystemTime} (hI : RoundIdle s)
    (hg : StartsOutsideRound s (.worker i now)) (h : step o s (.worker i now) = some (s', ev)) :
    RoundIdle s' := by
  obtain ⟨w, w', hw, _, _, rfl⟩ := step_worker h
  intro cfg hcfg r hr
  by_cases hn : cfg.name = w.task.printerName
  · have hr' : findPrinter (w.pc.printersAfter w.task s.app.printers) w.task.printerName =
        some r := by
      rw [← hn]
      exact hr
    obtain ⟨r₀, hr₀, hst⟩ := findPrinter_worker_own hr'
    have hold := hI cfg hcfg r₀ (by rw [hn]; exact hr₀)
    rw [hst]
    cases hsets : w.pc.sets with
    | none => exact hold
    | some st =>
        cases st with
        | processing => exact absurd hn (hg w hw hsets cfg hcfg)
        | idle => exact fun e => (nomatch e)
        | stopped => exact fun e => (nomatch e)
  · rw [findPrinter_worker_other hn] at hr
    exact hI cfg hcfg r hr

/-- **Every guarded step keeps the round idle.** -/
theorem RoundIdle.step (hI : RoundIdle s) (hg : StartsOutsideRound s a)
    (h : IppPrinterApp.step o s a = some (s', ev)) : RoundIdle s' := by
  -- a step that touches neither the poller nor the printers
  have hkeep : s'.poller = s.poller → s'.app.printers = s.app.printers → RoundIdle s' := by
    intro e₁ e₂ cfg hcfg r hr
    rw [e₁] at hcfg
    rw [e₂] at hr
    exact hI cfg hcfg r hr
  cases a with
  | worker i now => exact hI.worker hg h
  | pollTick =>
      obtain ⟨_, _, rfl⟩ := step_pollTick h
      intro cfg hcfg r hr
      obtain ⟨r₀, hr₀, rfl⟩ := List.mem_map.mp hcfg
      obtain ⟨hmem, hpoll⟩ := List.mem_filter.mp hr₀
      exact r.pollable_iff.mp (hg r₀ hmem hpoll r hr)
  | pollAnswer status =>
      obtain ⟨cfg₀, todo, changed, pc, hpc, _, rfl, hor⟩ := step_pollAnswer h
      intro cfg hcfg r hr
      have hin : cfg ∈ s.poller.outstanding := by
        rw [hpc]
        rcases hor with ⟨_, rfl⟩ | ⟨st, _, rfl⟩
        · exact List.mem_cons_of_mem cfg₀ hcfg
        · exact hcfg
      exact hI cfg hin r hr
  | poll =>
      obtain ⟨pc, hpc, _, rfl⟩ := step_poll h
      intro cfg hcfg r hr
      rcases findPrinter_poller hr with hst | hr₀
      · exact hst
      · exact hI cfg (PollerPc.step_outstanding hpc cfg hcfg) r hr₀
  | media i =>
      obtain ⟨t, _, _, _, _, rfl⟩ := step_media h
      intro cfg hcfg r hr
      obtain ⟨r₀, hr₀, hst, _⟩ := findPrinter_media hr
      rw [hst]
      exact hI cfg hcfg r₀ hr₀
  | _ => exact hkeep (step_poller_same h rfl) (step_printers_same h rfl)

/-- **The poller disturbs no job**: in every run in which no job starts on a printer that the
    poller has still to write, a step of the poller calls `poll_status` for no Processing printer,
    and leaves every Processing printer's record as it is. -/
theorem poller_undisturbing {d : Deployment}
    (h : Run (server o) StartsOutsideRound (boot d) tr s) (ha : a.ofPoller = true)
    (hs : step o s a = some (s', ev)) :
    (∀ cfg, Event.pollStatus cfg ∈ ev → ∀ r, findPrinter s.app.printers cfg.name = some r →
      r.state ≠ .processing) ∧
    (∀ (i : Nat) (r : PrinterRecord), s.app.printers[i]? = some r → r.state = .processing →
      s'.app.printers[i]? = some r) := by
  have hI : RoundIdle s := by
    refine Run.always (I := RoundIdle) ?_ (fun _ _ _ _ hI hg hs => hI.step hg hs) h
    intro cfg hcfg
    cases hcfg
  cases a with
  | pollTick =>
      obtain ⟨_, rfl, rfl⟩ := step_pollTick hs
      exact ⟨fun cfg he => (nomatch he), fun i r hr _ => hr⟩
  | pollAnswer status =>
      obtain ⟨_, _, _, _, _, rfl, rfl, _⟩ := step_pollAnswer hs
      exact ⟨fun cfg he => (nomatch he), fun i r hr _ => hr⟩
  | poll =>
      constructor
      · intro cfg he r hr
        have hsrc := step_event hs he
        cases hsrc with
        | pollStatus cfg todo changed hp =>
            refine hI cfg ?_ r hr
            rw [hp]
            exact List.mem_cons_self
      · intro i r hr hst
        obtain ⟨pc, _, _, rfl⟩ := step_poll hs
        show (s.poller.printersAfter s.app.printers)[i]? = some r
        unfold PollerPc.printersAfter
        split
        · rename_i name status hop
          unfold updatePrinter
          rw [FirstMatch.getElem?_updateFirst]
          split
          · -- the record that is written is one of the round
            rename_i hidx
            have hfind : findPrinter s.app.printers name = some r := by
              unfold findPrinter
              rw [List.find?_eq_getElem?_findIdx, hidx]
              exact hr
            have hin : ∃ cfg ∈ s.poller.outstanding, cfg.name = name := by
              cases hpc : s.poller with
              | write cfg st todo changed =>
                  rw [hpc] at hop
                  cases hop
                  exact ⟨cfg, List.mem_cons_self, rfl⟩
              | _ => rw [hpc] at hop; cases hop
            obtain ⟨cfg, hcfg, rfl⟩ := hin
            exact absurd hst (hI cfg hcfg r hfind)
          · exact hr
        · exact hr
  | _ => cases ha

end Poller

/-- The first printer prints; a round has begun, and `poll_status` is about to be called for the
    second one. -/
def secondPolled : System :=
  endOf (server Trial.options) StartsOutsideRound (boot Trial.deployment)
    ([Trial.post "p" Trial.print] ++ Trial.times 4 (.worker 0 5) ++ [.pollTick])

/-- The poller's access there. -/
def secondPolledNext : System × List Event :=
  (step Trial.options secondPolled .poll).get (by decide +kernel)

theorem secondPolledNext_step :
    step Trial.options secondPolled .poll = some (secondPolledNext.1, secondPolledNext.2) := by
  rw [Prod.mk.eta]
  exact (Option.some_get _).symm

theorem poller_undisturbing_second :
    (∀ cfg, Event.pollStatus cfg ∈ secondPolledNext.2 →
      ∀ r, findPrinter secondPolled.app.printers cfg.name = some r → r.state ≠ .processing) ∧
    (∀ (i : Nat) (r : PrinterRecord), secondPolled.app.printers[i]? = some r →
      r.state = .processing → secondPolledNext.1.app.printers[i]? = some r) :=
  poller_undisturbing (o := Trial.options) (d := Trial.deployment) (run_endOf (by decide +kernel))
    rfl secondPolledNext_step

/-- A round has begun with both printers idle; while the first one is asked for its status, a job
    starts on the second one. -/
def startedInRound : System :=
  endOf (server Trial.options) anyStep (boot Trial.deployment)
    [.pollTick, .poll, Trial.post "q" Trial.print, .worker 0 5, .pollAnswer none]

/-- The poller's access there. -/
def startedInRoundNext : System × List Event :=
  (step Trial.options startedInRound .poll).get (by decide +kernel)

theorem startedInRoundNext_step : step Trial.options startedInRound .poll =
    some (startedInRoundNext.1, startedInRoundNext.2) := by
  rw [Prod.mk.eta]
  exact (Option.some_get _).symm

/-- It calls `poll_status` for the printer that is Processing. -/
theorem processing_printer_polled :
    ¬ ∀ (o : Options) (d : Deployment) (tr ev : List Event) (s s' : System) (a : Action),
        Run (server o) anyStep (boot d) tr s → a.ofPoller = true →
        step o s a = some (s', ev) →
        (∀ cfg, Event.pollStatus cfg ∈ ev → ∀ r, findPrinter s.app.printers cfg.name = some r →
          r.state ≠ .processing) ∧
        (∀ (i : Nat) (r : PrinterRecord), s.app.printers[i]? = some r → r.state = .processing →
          s'.app.printers[i]? = some r) := by
  intro h
  obtain ⟨hcall, _⟩ := h Trial.options Trial.deployment _ startedInRoundNext.2 startedInRound
    startedInRoundNext.1 .poll (run_endOf (by decide +kernel)) rfl startedInRoundNext_step
  obtain ⟨_, _, hev, _⟩ := step_poll startedInRoundNext_step
  have hp : startedInRound.poller = .next [Trial.config "q"] false := by decide +kernel
  have hin : Event.pollStatus (Trial.config "q") ∈ startedInRoundNext.2 := by
    rw [hev, hp]
    exact List.mem_cons_self
  exact hcall (Trial.config "q") hin
    { PrinterRecord.new (Trial.config "q") "uuid-q" with state := .processing }
    (by decide +kernel) rfl

end IppPrinterApp
