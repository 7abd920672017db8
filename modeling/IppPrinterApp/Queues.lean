/-
  File:      IppPrinterApp/Queues.lean
  Subject:   What the server may change of its queues, in the registry and in the state file.

  Workers, the poller and the media page write the registry and the file in any order, and a write
  may be of an old snapshot. `fs::write` truncates the file before it writes, and nothing keeps two
  writes apart, so the file is followed as the file system has it, in runs whose writes do not
  overlap. Nobody changes anything of a queue but its loaded media.

  * `file_is_snapshot`: whenever nobody has the file open, it is the text of the configurations of
    the registry as they are, or as they were at some moment before; while somebody has, it is
    empty;
  * `queues_fixed`: no queue comes, goes or moves, and none changes its name, device, driver,
    bounds or UUID, in any run;
  * `restart_recovers`: so a restart at any moment of a run finds every queue again, unless it comes
    in the middle of a write: then it starts as if there were no file.
-/
import IppPrinterApp.Lib.TornFile
import IppPrinterApp.Persist
import IppPrinterApp.Restarts

namespace IppPrinterApp

open Transition WriteBack FirstMatch

/-! ## 1. The file is a snapshot -/

/-- The server with the configurations of the registry before each step, oldest first. -/
def recording (o : Options) : Machine (System × List (List PrinterConfig)) Action Event :=
  (server o).withHistory fun past s _ => past ++ [configs s.app.printers]

section Snapshot

variable {o : Options} {s s' : System} {a : Action} {ev tr : List Event}

/-- A worker that is no party any more makes no access. -/
theorem Worker.next_ne_idle {retryMs : Option String} {canceled : Bool}
    {current : List PrinterConfig} {w w' : Worker}
    (h : w.next retryMs canceled current = some w') : w.pc.stage ≠ .idle := by
  rcases Worker.next_stage h with ⟨_, hst, _⟩ | ⟨_, _, hst, _⟩ | ⟨_, hst, _⟩ <;> rw [hst] <;> nofun

/-- From an idle stage the poller does not come to hold a snapshot. -/
theorem PollerPc.step_from_idle {advertised : Bool} {printers : PrinterRegistry}
    {pc pc' : PollerPc} (h : pc.step advertised printers = some pc') (hi : pc.stage = .idle)
    (copy : List PrinterConfig) : pc'.stage ≠ .holding copy := by
  cases pc with
  | waiting => cases h
  | next todo changed =>
      cases todo with
      | nil => cases h; cases changed <;> nofun
      | cons cfg todo => cases h; exact roundStage_free changed copy
  | polling => cases h
  | write => cases h; exact roundStage_free _ copy
  | advert => cases h; exact roundStage_free _ copy
  | snapshot => cases hi
  | save => cases hi

theorem MediaTask.step_from_idle {t t' : MediaTask} {printers : PrinterRegistry}
    {page : Option Page} (h : t.step printers = some (t', page)) (hi : t.pc.stage = .idle)
    (copy : List PrinterConfig) : t'.pc.stage ≠ .holding copy := by
  unfold MediaTask.step at h
  cases hp : t.pc with
  | write =>
      rw [hp] at h
      dsimp only at h
      split at h <;> cases h <;> nofun
  | snapshot updated => rw [hp] at hi; cases hi
  | save updated saved => rw [hp] at hi; cases hi
  | _ => rw [hp] at h; cases h

/-- A worker that is spawned holds nothing, and neither does one that is not. -/
theorem spawned_stage (ws : List Worker) (spawned : Option PrintTask)
    (copy : List PrinterConfig) :
    stageAt (fun w : Worker => w.pc.stage) (ws ++ (spawned.map PrintTask.spawn).toList)
      ws.length ≠ .holding copy := by
  cases spawned with
  | none =>
      rw [Option.map_none, Option.toList_none, List.append_nil, stageAt_length]
      nofun
  | some task =>
      have hnew : (ws ++ [task.spawn])[ws.length]? = some task.spawn :=
        List.getElem?_concat_length
      exact fun e => nomatch (stageAt_eq hnew).symm.trans e

/-- A form begins with the hook, or with the write. -/
theorem mediaStart_stage {hooked : Bool} {printers : PrinterRegistry} {name : String}
    {form : MediaForm} {pc : MediaPc} (h : mediaStart hooked printers name form = .ok pc)
    (copy : List PrinterConfig) : pc.stage ≠ .holding copy := by
  unfold mediaStart at h
  split at h
  · cases h
  · split at h
    · cases h
    · cases h
      split <;> nofun

theorem MediaTask.answered_stage {t t' : MediaTask} {refusal : Option String}
    {page : Option Page} (h : t.answered refusal = some (t', page)) (copy : List PrinterConfig) :
    t'.pc.stage ≠ .holding copy := by
  unfold MediaTask.answered at h
  split at h
  · split at h <;> cases h <;> nofun
  · cases h

/-- **Nobody comes to hold a snapshot without taking it.** -/
theorem step_from_idle {p : Party} (h : step o s a = some (s', ev)) (hp : a.actor s = some p)
    (hi : s.stageOf p = .idle) (copy : List PrinterConfig) : s'.stageOf p ≠ .holding copy := by
  cases a with
  | cancelNext => cases hp
  | identified => cases hp
  | request clock name body =>
      cases hp
      rcases step_request h with ⟨_, _, rfl, _⟩ | ⟨_, _, _, _, _, _, rfl⟩ |
        ⟨_, _, _, _, _, _, rfl⟩ | ⟨_, _, _, _, rfl, _⟩
      · rw [hi]
        nofun
      · exact fun e => nomatch hi.symm.trans e
      · exact fun e => nomatch hi.symm.trans e
      · exact spawned_stage s.workers _ copy
  | worker i now =>
      cases hp
      obtain ⟨w, w', hw, hn, _⟩ := step_worker h
      exact absurd ((stageAt_eq hw).symm.trans hi) (Worker.next_ne_idle hn)
  | outcome i out =>
      cases hp
      obtain ⟨w, hw, hpc, _⟩ := step_outcome h
      have hst : w.pc.stage = .idle := (stageAt_eq hw).symm.trans hi
      rw [hpc] at hst
      cases hst
  | pollTick =>
      cases hp
      obtain ⟨_, _, rfl⟩ := step_pollTick h
      nofun
  | pollAnswer status =>
      cases hp
      obtain ⟨_, _, changed, pc, _, _, rfl, ⟨_, rfl⟩ | ⟨_, _, rfl⟩⟩ := step_pollAnswer h
      · exact roundStage_free changed copy
      · exact roundStage_free changed copy
  | poll =>
      cases hp
      obtain ⟨pc, hpc, _, rfl⟩ := step_poll h
      exact PollerPc.step_from_idle hpc hi copy
  | mediaPost name form =>
      cases hp
      rcases step_mediaPost h with rfl | ⟨pc, hpc, rfl⟩
      · rw [hi]
        nofun
      · have hlast : (s.media ++ [MediaTask.mk name form pc])[s.media.length]? =
            some ⟨name, form, pc⟩ := List.getElem?_concat_length
        show stageAt (fun t : MediaTask => t.pc.stage) _ s.media.length ≠ _
        rw [stageAt_eq hlast]
        exact mediaStart_stage hpc copy
  | mediaAnswer i refusal =>
      cases hp
      obtain ⟨t, t', page, ht, ha, rfl⟩ := step_mediaAnswer h
      show stageAt (fun t : MediaTask => t.pc.stage) (s.media.set i t') i ≠ _
      rw [stageAt_set_self ht]
      exact MediaTask.answered_stage ha copy
  | media i =>
      cases hp
      obtain ⟨t, t', page, ht, hs, rfl⟩ := step_media h
      show stageAt (fun t : MediaTask => t.pc.stage) (s.media.set i t') i ≠ _
      rw [stageAt_set_self ht]
      exact MediaTask.step_from_idle hs ((stageAt_eq ht).symm.trans hi) copy

theorem step_historic {past : List (List PrinterConfig)} (hh : Historic past s.disk)
    (h : step o s a = some (s', ev)) : Historic (past ++ [configs s.app.printers]) s'.disk := by
  rcases step_writeBack h with ⟨_, e⟩ | ⟨p, hp, hstep⟩
  · rw [e]
    exact ⟨hh.file.imp_right (List.mem_append_left _),
      fun k copy hk => (hh.held k copy hk).imp_right (List.mem_append_left _)⟩
  · exact hstep.historic (fun hi copy => step_from_idle h hp hi copy) hh

theorem boot_file (d : Deployment) : (boot d).file = configs (boot d).app.printers := by
  show d.printers.map (·.1) = configs (d.printers.map fun e => PrinterRecord.new e.1 e.2)
  unfold configs
  rw [List.map_map]
  rfl

theorem boot_historic (d : Deployment) : Historic [] (boot d).disk where
  file := Or.inl (boot_file d)
  held := fun p copy hp => by
    cases p <;> cases hp

/-- The file as the three parties write it, with `serde_json` for its text. -/
def saver {η : Type*} (j : SerdeJson) : Saver (System × η) Action Party (List PrinterConfig) where
  actor p a := a.actor p.1
  holds p party := (p.1.stageOf party).held
  text printers := (j.toStringPretty printers).toByteArray

/-- The file that the bootstrap saved. -/
def savedFile (j : SerdeJson) (s : System) : OpenFile Party where
  octets := (j.toStringPretty (configs s.app.printers)).toByteArray
  opened := []

/-- What a party writes is a snapshot it holds. -/
theorem holding_of_saves {j : SerdeJson} {p : System × List (List PrinterConfig)}
    {e : Party × List PrinterConfig} (h : e ∈ (saver j).saves p a) :
    p.1.disk.stage e.1 = .holding e.2 := by
  obtain ⟨party, _, hheld⟩ := Option.bind_eq_some_iff.mp h
  obtain ⟨copy, hcopy, rfl⟩ := Option.map_eq_some_iff.mp hheld
  show p.1.stageOf party = .holding copy
  have hst : (p.1.stageOf party).held = some copy := hcopy
  cases hs : p.1.stageOf party with
  | holding c =>
      rw [hs] at hst
      cases hst
      rfl
  | idle => rw [hs] at hst; cases hst
  | due => rw [hs] at hst; cases hst

/-- The configurations of the registry, now or at a moment before. -/
def IsSnapshot (p : System × List (List PrinterConfig)) (printers : List PrinterConfig) : Prop :=
  printers = configs p.1.app.printers ∨ printers ∈ p.2

/-- The registry as it is becomes one of the past. -/
theorem IsSnapshot.step {p p' : System × List (List PrinterConfig)} {printers : List PrinterConfig}
    (h : IsSnapshot p printers) (hs : (recording o).step p a = some (p', ev)) :
    printers ∈ p'.2 := by
  rw [(step_withHistory hs).2]
  exact h.elim (fun e => List.mem_append_right _ (List.mem_singleton.mpr e))
    (fun hm => List.mem_append_left _ hm)

theorem run_file {j : SerdeJson} {s₀ : System} (hh : Historic [] s₀.disk)
    {past : List (List PrinterConfig)} {file : OpenFile Party}
    (h : Run (onFile (recording o) (saver j)) (WholeWrites (saver j))
      ((s₀, []), savedFile j s₀) tr ((s, past), file)) :
    FileHolds (saver j) IsSnapshot ((s, past), file) := by
  refine run_fileHolds (I := fun p => Historic p.2 p.1.disk) hh ?_ ?_ h
  · exact ⟨fun _ => ⟨_, Or.inl rfl, rfl⟩, fun hne => absurd rfl hne⟩
  · intro p a p' ev hh hs
    obtain ⟨hstep, hpast⟩ := step_withHistory hs
    refine ⟨by rw [hpast]; exact step_historic hh hstep, fun x hx => Or.inr (hx.step hs),
      fun e he => Or.inr ?_⟩
    have hheld : IsSnapshot p e.2 := hh.held e.1 e.2 (holding_of_saves he)
    exact hheld.step hs

/-- **The state file is a snapshot**: in every state of every run whose writes do not overlap, the
    file is the text of the configurations of the registry, all of one moment, this one or one
    before, if nobody has it open. While somebody has, it is empty. -/
theorem file_is_snapshot {j : SerdeJson} {d : Deployment} {past : List (List PrinterConfig)}
    {file : OpenFile Party}
    (h : Run (onFile (recording o) (saver j)) (WholeWrites (saver j))
      ((boot d, []), savedFile j (boot d)) tr ((s, past), file)) :
    (file.opened = [] → ∃ snapshot, (snapshot = configs s.app.printers ∨ snapshot ∈ past) ∧
      some file.octets = PersistedState.save j snapshot) ∧
    (file.opened ≠ [] → file.octets = ByteArray.empty) := by
  have hf := run_file (boot_historic d) h
  refine ⟨fun hshut => ?_, fun hopen => (hf.opened hopen).1⟩
  obtain ⟨snapshot, hsnap, htext⟩ := hf.shut hshut
  exact ⟨snapshot, hsnap, congrArg some htext⟩

end Snapshot

namespace Trial

/-- An action of the server, with the file open or not. -/
def acts (a : Action) : FileAction Party Action := .act a 10000

/-- A worker holds a snapshot, and a roll is loaded on the page. -/
def rollMeanwhile : List Action :=
  [post "p" print] ++ times 4 (.worker 0 5) ++ [.outcome 0 .completed] ++ times 6 (.worker 0 6) ++
    [.mediaPost "p" ⟨40, 25⟩, .media 0, .media 0]

/-- The page writes the roll, and the worker its snapshot after it. -/
def staleWrite : List (FileAction Party Action) :=
  rollMeanwhile.map acts ++
    [.opens (.media 0), acts (.media 0), .opens (.worker 0), acts (.worker 0 6)]

/-- The server with the past of its registry, and its file. -/
abbrev fileServer (j : SerdeJson) :
    Machine ((System × List (List PrinterConfig)) × OpenFile Party) (FileAction Party Action)
      Event :=
  onFile (recording options) (saver j)

/-- Where a list of actions leads it from the start of a server. -/
def fileAfter (j : SerdeJson) (script : List (FileAction Party Action)) :
    (System × List (List PrinterConfig)) × OpenFile Party :=
  endOf (fileServer j) (WholeWrites (saver j))
    ((boot deployment, []), savedFile j (boot deployment)) script

/-- A parser that knows the texts of several lists. -/
def jsonOf (lists : List (List PrinterConfig)) : SerdeJson where
  toStringPretty := stateText
  fromStr s := lists.find? fun printers => s == stateText printers

theorem jsonOf_undoes {lists : List (List PrinterConfig)} (hn : (lists.map stateText).Nodup)
    {printers : List PrinterConfig} (hm : printers ∈ lists) : (jsonOf lists).Undoes printers := by
  show lists.find? (fun l => stateText printers == stateText l) = some printers
  induction lists with
  | nil => cases hm
  | cons l lists ih =>
      rw [List.map_cons, List.nodup_cons] at hn
      rw [List.find?_cons]
      rcases List.mem_cons.mp hm with rfl | hm
      · rw [beq_self_eq_true]
      · have hne : (stateText printers == stateText l) = false := by
          rw [beq_eq_false_iff_ne]
          exact fun e => hn.1 (e ▸ List.mem_map_of_mem hm)
        rw [hne]
        exact ih hn.2 hm

/-- The registry before and after the roll. -/
def staleLists : List (List PrinterConfig) :=
  [[config "p", config "q"],
    [{ config "p" with
        mediaNames := ["om_40x25mm_40x25mm", "om_50x30mm_50x30mm"]
        mediaSizes := [(4000, 2500), (5000, 3000)] },
      config "q"]]

def staleJson : SerdeJson := jsonOf staleLists

theorem staleJson_undoes : ∀ snapshot ∈ staleLists, staleJson.Undoes snapshot :=
  fun _ hm => jsonOf_undoes (by decide +kernel) hm

/-- The state after it, with what the registry was before, and its file. -/
def stale : (System × List (List PrinterConfig)) × OpenFile Party :=
  fileAfter staleJson staleWrite

theorem stale_run : Run (fileServer staleJson) (WholeWrites (saver staleJson))
    ((boot deployment, []), savedFile staleJson (boot deployment))
    (traceOf (fileServer staleJson) (WholeWrites (saver staleJson))
      ((boot deployment, []), savedFile staleJson (boot deployment)) staleWrite)
    ((stale.1.1, stale.1.2), stale.2) := by
  rw [Prod.mk.eta]
  exact run_endOf (by decide +kernel)

/-- Before its last write the file is open, and empty. -/
example : (fileAfter staleJson staleWrite.dropLast).2.opened = [.worker 0] ∧
    (fileAfter staleJson staleWrite.dropLast).2.octets = ByteArray.empty := by
  decide +kernel

end Trial

theorem file_is_snapshot_stale :
    Trial.stale.2.opened = [] ∧
      (Trial.stale.2.opened = [] → ∃ snapshot,
        (snapshot = configs Trial.stale.1.1.app.printers ∨ snapshot ∈ Trial.stale.1.2) ∧
          some Trial.stale.2.octets = PersistedState.save Trial.staleJson snapshot) ∧
      (Trial.stale.2.opened ≠ [] → Trial.stale.2.octets = ByteArray.empty) :=
  ⟨by decide +kernel, file_is_snapshot Trial.stale_run⟩

/-! ## 2. What stays -/

/-- The configuration but for the loaded media. -/
def PrinterConfig.queue (cfg : PrinterConfig) : PrinterConfig :=
  { cfg with mediaNames := [], mediaSizes := [] }

/-- What never changes of a printer: its configuration but for the loaded media, and its UUID. -/
def PrinterRecord.fixed (r : PrinterRecord) : PrinterConfig × String := (r.config.queue, r.uuid)

section Fixed

variable {o : Options} {s s' : System} {a : Action} {ev tr : List Event}

theorem PrinterRecord.dropMedia_queue (media : ReadyMedia) (cfg : PrinterConfig) :
    (PrinterRecord.dropMedia media cfg).queue = cfg.queue := by
  unfold PrinterRecord.dropMedia
  split <;> rfl

@[simp] theorem PrinterRecord.setReadyMedia_fixed (media : ReadyMedia) (r : PrinterRecord) :
    (r.setReadyMedia media).1.fixed = r.fixed := by
  unfold PrinterRecord.setReadyMedia PrinterRecord.fixed
  dsimp only
  split
  · rfl
  · exact congrArg (·, r.uuid) (PrinterRecord.dropMedia_queue media r.config)

@[simp] theorem PrinterOp.apply_fixed (op : PrinterOp) (r : PrinterRecord) :
    (op.apply r).fixed = r.fixed := by
  cases op <;> rfl

@[simp] theorem PollStatus.applyTo_fixed (status : PollStatus) (r : PrinterRecord) :
    (status.applyTo r).1.fixed = r.fixed := by
  unfold PollStatus.applyTo
  cases status.readyMedia with
  | none => dsimp only; split <;> rfl
  | some media =>
      have hm := PrinterRecord.setReadyMedia_fixed media
        { r with
          reasons := status.reasons
          state := if status.reachable then .idle else .stopped }
      dsimp only
      split
      · exact hm
      · exact hm

/-- **No access changes more of a printer than its media.** -/
theorem step_fixed (h : step o s a = some (s', ev)) :
    s'.app.printers.map (·.fixed) = s.app.printers.map (·.fixed) := by
  have hp := step_printers h
  generalize s'.app.printers = ps at hp ⊢
  cases hp with
  | same => rfl
  | worked i now w hw =>
      unfold WorkerPc.printersAfter
      split
      · rename_i op _
        exact map_updateFirst (fun r => op.apply_fixed r) s.app.printers
      · rfl
  | polled =>
      unfold PollerPc.printersAfter
      split
      · rename_i name status _
        exact map_updateFirst (fun r => status.applyTo_fixed r) s.app.printers
      · rfl
  | loaded i t ht =>
      unfold MediaTask.printersAfter
      split
      · exact map_updateFirst (fun r => r.setReadyMedia_fixed t.form.media) s.app.printers
      · rfl

theorem configs_queue (printers : PrinterRegistry) :
    (configs printers).map (·.queue) = (printers.map (·.fixed)).map Prod.fst := by
  unfold configs
  rw [List.map_map, List.map_map]
  rfl

/-- What stays fixed of a registry fixes the queues of its configurations. -/
theorem configs_queue_of_fixed {d : Deployment} {printers : PrinterRegistry}
    (h : printers.map (·.fixed) = d.printers.map fun e => (e.1.queue, e.2)) :
    (configs printers).map (·.queue) = d.printers.map fun e => e.1.queue := by
  rw [configs_queue, h, List.map_map]
  rfl

theorem boot_fixed (d : Deployment) :
    (boot d).app.printers.map (·.fixed) = d.printers.map fun e => (e.1.queue, e.2) := by
  show (d.printers.map fun e => PrinterRecord.new e.1 e.2).map (·.fixed) = _
  rw [List.map_map]
  rfl

/-- Along a run the registry, and each of its snapshots, keeps what the deployment fixed. -/
theorem run_fixed {G : System × List (List PrinterConfig) → Action → Prop} {d : Deployment}
    {past : List (List PrinterConfig)} (h : Run (recording o) G (boot d, []) tr (s, past)) :
    s.app.printers.map (·.fixed) = d.printers.map (fun e => (e.1.queue, e.2)) ∧
      ∀ cfgs ∈ past, cfgs.map (·.queue) = d.printers.map fun e => e.1.queue := by
  refine Run.always (I := fun p =>
    p.1.app.printers.map (·.fixed) = d.printers.map (fun e => (e.1.queue, e.2)) ∧
    ∀ cfgs ∈ p.2, cfgs.map (·.queue) = d.printers.map fun e => e.1.queue)
    ⟨boot_fixed d, fun cfgs hc => absurd hc List.not_mem_nil⟩ ?_ h
  intro p a p' ev ⟨hp, hpast⟩ _ hs
  obtain ⟨hstep, hnoted⟩ := step_withHistory hs
  refine ⟨(step_fixed hstep).trans hp, fun cfgs hc => ?_⟩
  rw [hnoted] at hc
  rcases List.mem_append.mp hc with hc | hc
  · exact hpast cfgs hc
  · rw [List.mem_singleton.mp hc]
    exact configs_queue_of_fixed hp

/-- **The queues of a server are those it was started with**: in every state of every run the
    registry holds the same printers in the same order, with the same configurations but for their
    media, and the same UUIDs; and so did every state of the registry before. -/
theorem queues_fixed {G : System × List (List PrinterConfig) → Action → Prop} {d : Deployment}
    {past : List (List PrinterConfig)} (h : Run (recording o) G (boot d, []) tr (s, past)) :
    s.app.printers.map (·.fixed) = d.printers.map (fun e => (e.1.queue, e.2)) ∧
      ∀ cfgs ∈ past, cfgs.map (·.queue) = d.printers.map fun e => e.1.queue :=
  run_fixed h

/-- A snapshot has the queues of the deployment. -/
theorem IsSnapshot.queue {d : Deployment} {past : List (List PrinterConfig)}
    {G : System × List (List PrinterConfig) → Action → Prop}
    (h : Run (recording o) G (boot d, []) tr (s, past)) {printers : List PrinterConfig}
    (hs : IsSnapshot (s, past) printers) :
    printers.map (·.queue) = d.printers.map fun e => e.1.queue := by
  obtain ⟨hnow, hpast⟩ := run_fixed h
  rcases hs with rfl | hmem
  · exact configs_queue_of_fixed hnow
  · exact hpast printers hmem

/-- **A restart finds every queue**, if the writes of the run do not overlap and nobody has the file
    open: the bootstrap from the file starts with one snapshot of the registry, whole and in order,
    and so with every queue the server was started with; what discovery finds new comes after them.
    A restart in the middle of a write starts as if there were no file. -/
theorem restart_recovers {j : SerdeJson} {d : Deployment} {past : List (List PrinterConfig)}
    {file : OpenFile Party}
    (h : Run (onFile (recording o) (saver j)) (WholeWrites (saver j))
      ((boot d, []), savedFile j (boot d)) tr ((s, past), file))
    (hu : ∀ snapshot, snapshot = configs s.app.printers ∨ snapshot ∈ past → j.Undoes snapshot)
    (hempty : j.fromStr "" = none) (r : Round) (uuids : Nat → String) :
    (file.opened = [] → ∃ snapshot, (snapshot = configs s.app.printers ∨ snapshot ∈ past) ∧
      snapshot <+: configs (bootstrapPrinters j r uuids (some file.octets)).1 ∧
      snapshot.map (·.queue) = d.printers.map fun e => e.1.queue) ∧
    (file.opened ≠ [] → bootstrapPrinters j r uuids (some file.octets) =
      bootstrapPrinters j r uuids none) := by
  have hf := run_file (boot_historic d) h
  constructor
  · intro hshut
    obtain ⟨snapshot, hsnap, htext⟩ := hf.shut hshut
    have hsaved : some file.octets = PersistedState.save j snapshot := congrArg some htext
    have hload := load_prefix_bootstrap j r uuids (some file.octets)
    rw [hsaved, load_save (hu snapshot hsnap), ← hsaved] at hload
    exact ⟨snapshot, hsnap, hload, hsnap.queue (run_of_onFile h)⟩
  · intro hopen
    have hnone : PersistedState.load j (some file.octets) = PersistedState.load j none := by
      rw [(hf.opened hopen).1, load_none]
      exact load_empty hempty
    unfold bootstrapPrinters
    rw [hnone]

theorem queues_fixed_stale :
    Trial.stale.1.1.app.printers.map (·.fixed) =
        Trial.deployment.printers.map (fun e => (e.1.queue, e.2)) ∧
      ∀ cfgs ∈ Trial.stale.1.2,
        cfgs.map (·.queue) = Trial.deployment.printers.map fun e => e.1.queue :=
  queues_fixed (run_of_onFile Trial.stale_run)

/-- The roll is lost, the queues are not. -/
theorem restart_recovers_stale :
    (Trial.stale.2.opened = [] → ∃ snapshot,
        (snapshot = configs Trial.stale.1.1.app.printers ∨ snapshot ∈ Trial.stale.1.2) ∧
        snapshot <+: configs (bootstrapPrinters Trial.staleJson (Trial.roundOf []) Trial.uuids
          (some Trial.stale.2.octets)).1 ∧
        snapshot.map (·.queue) = Trial.deployment.printers.map fun e => e.1.queue) ∧
      (Trial.stale.2.opened ≠ [] →
        bootstrapPrinters Trial.staleJson (Trial.roundOf []) Trial.uuids
            (some Trial.stale.2.octets) =
          bootstrapPrinters Trial.staleJson (Trial.roundOf []) Trial.uuids none) := by
  refine restart_recovers Trial.stale_run ?_ (by decide +kernel) (Trial.roundOf []) Trial.uuids
  have hseen : ∀ snapshot ∈ configs Trial.stale.1.1.app.printers :: Trial.stale.1.2,
      snapshot ∈ Trial.staleLists := by
    decide +kernel
  exact fun snapshot hs => Trial.staleJson_undoes snapshot (hseen snapshot (List.mem_cons.mpr hs))

end Fixed

end IppPrinterApp
