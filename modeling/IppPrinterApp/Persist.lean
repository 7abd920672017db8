/-
  File:      IppPrinterApp/Persist.lean
  Subject:   The state file and the three parties that write it.

  A worker at its end, a media request and the poller after a media change persist the registry:
  a snapshot of the configurations under the read lock, then a write to the file, under no lock.
  The server is an instance of the general scheme (`step_writeBack`): `stageOf` says where each
  party is with its writing back, and every step of the server is one of the scheme.

  * `savesFresh_iff`: an outdated snapshot is written only while another party still brings the
    current configurations (`SavesFresh`), or the file is left behind;
  * `file_holds_configs`: when every party has finished, the file holds the configurations of
    the registry, in every run that saves fresh. `loaded_roll_lost` is a run that does not.
-/
import IppPrinterApp.Lib.WriteBack
import IppPrinterApp.PrinterState

namespace IppPrinterApp

open Transition WriteBack

/-! ## 1. The parties -/

/-- Who persists the registry. -/
inductive Party where
  | worker (i : Nat)
  | media (i : Nat)
  | poller
  deriving DecidableEq, Repr

/-- A worker persists at its end, so it is due all along. -/
def WorkerPc.stage : WorkerPc → Stage (List PrinterConfig)
  | save saved => .holding saved
  | done => .idle
  | _ => .due

def MediaPc.stage : MediaPc → Stage (List PrinterConfig)
  | snapshot _ => .due
  | save _ saved => .holding saved
  | _ => .idle

/-- In its round the poller is due once some loaded media changed. -/
def roundStage (changed : Bool) : Stage (List PrinterConfig) := if changed then .due else .idle

def PollerPc.stage : PollerPc → Stage (List PrinterConfig)
  | waiting => .idle
  | next _ changed => roundStage changed
  | polling _ _ changed => roundStage changed
  | write _ _ _ changed => roundStage changed
  | advert _ _ _ _ changed => roundStage changed
  | snapshot => .due
  | save saved => .holding saved

def System.stageOf (s : System) : Party → Stage (List PrinterConfig)
  | .worker i => stageAt (fun w : Worker => w.pc.stage) s.workers i
  | .media i => stageAt (fun t : MediaTask => t.pc.stage) s.media i
  | .poller => s.poller.stage

/-- The registry and its file, as the general scheme sees them. -/
def System.disk (s : System) : Disk Party (List PrinterConfig) where
  data := configs s.app.printers
  file := s.file
  stage := s.stageOf

/-- The party whose turn an action is. -/
def Action.actor (s : System) : Action → Option Party
  | .request _ _ _ => some (.worker s.workers.length)
  | .cancelNext _ _ => none
  | .identified _ => none
  | .worker i _ => some (.worker i)
  | .outcome i _ => some (.worker i)
  | .pollTick => some .poller
  | .pollAnswer _ => some .poller
  | .poll => some .poller
  | .mediaPost _ _ => some (.media s.media.length)
  | .mediaAnswer i _ => some (.media i)
  | .media i => some (.media i)

/-- Everybody who may be at it. -/
def System.parties (s : System) : List Party :=
  .poller :: ((List.range s.workers.length).map .worker ++ (List.range s.media.length).map .media)

/-- A snapshot about to be written is the current configurations, or another party still brings
    those to the file: it is due to take its snapshot, or holds them. -/
def SavesFresh (s : System) (a : Action) : Prop :=
  ∀ i ∈ a.actor s, ∀ saved ∈ (s.stageOf i).held, saved = configs s.app.printers ∨
    ∃ k ∈ s.parties, k ≠ i ∧ (s.stageOf k).Carries (configs s.app.printers)

instance : DecidableRel SavesFresh := fun s a => by
  unfold SavesFresh
  infer_instance

/-! ## 2. Every step is one of the scheme -/

section Stages

variable {o : Options} {s s' t : System} {a : Action} {ev tr : List Event}

/-- **A worker's access**, as writing back: its snapshot, its write, or neither. -/
theorem Worker.next_stage {retryMs : Option String} {canceled : Bool}
    {current : List PrinterConfig} {w w' : Worker}
    (h : w.next retryMs canceled current = some w') :
    (w.pc.saves = none ∧ w.pc.stage = .due ∧ w'.pc.stage = .holding current) ∨
      (∃ saved, w.pc.saves = some saved ∧ w.pc.stage = .holding saved ∧ w'.pc.stage = .idle) ∨
      (w.pc.saves = none ∧ w.pc.stage = .due ∧ w'.pc.stage = .due) := by
  obtain ⟨task, pc, backoff⟩ := w
  cases pc with
  | snapshot =>
      cases h
      exact Or.inl ⟨rfl, rfl, rfl⟩
  | save saved =>
      cases h
      exact Or.inr (Or.inl ⟨saved, rfl, rfl, rfl⟩)
  | wait left =>
      refine Or.inr (Or.inr ⟨rfl, rfl, ?_⟩)
      rcases Worker.next_wait rfl h with ⟨_, hpc⟩ | ⟨_, ⟨left', hpc⟩ | hpc⟩ <;> rw [hpc] <;> rfl
  | loopHead => cases h; cases canceled <;> exact Or.inr (Or.inr ⟨rfl, rfl, rfl⟩)
  | completedCheck => cases h; cases canceled <;> exact Or.inr (Or.inr ⟨rfl, rfl, rfl⟩)
  | exitCheck => cases h; cases canceled <;> exact Or.inr (Or.inr ⟨rfl, rfl, rfl⟩)
  | printing => cases h
  | done => cases h
  | _ => cases h; exact Or.inr (Or.inr ⟨rfl, rfl, rfl⟩)

/-- Only one worker moved. -/
theorem stageOf_workers {i : Nat} (hm : s'.media = s.media) (hpo : s'.poller = s.poller)
    (hw : ∀ k, k ≠ i → stageAt (fun w : Worker => w.pc.stage) s'.workers k =
      stageAt (fun w : Worker => w.pc.stage) s.workers k) :
    ∀ p, p ≠ Party.worker i → s'.stageOf p = s.stageOf p := by
  intro p hp
  unfold System.stageOf
  cases p with
  | worker k => exact hw k fun e => hp (by rw [e])
  | media k => rw [hm]
  | poller => rw [hpo]

/-- Only one media request moved. -/
theorem stageOf_media {i : Nat} (hw : s'.workers = s.workers) (hpo : s'.poller = s.poller)
    (hm : ∀ k, k ≠ i → stageAt (fun t : MediaTask => t.pc.stage) s'.media k =
      stageAt (fun t : MediaTask => t.pc.stage) s.media k) :
    ∀ p, p ≠ Party.media i → s'.stageOf p = s.stageOf p := by
  intro p hp
  unfold System.stageOf
  cases p with
  | worker k => rw [hw]
  | media k => exact hm k fun e => hp (by rw [e])
  | poller => rw [hpo]

/-- Only the poller moved. -/
theorem stageOf_poller (hw : s'.workers = s.workers) (hm : s'.media = s.media) :
    ∀ p, p ≠ Party.poller → s'.stageOf p = s.stageOf p := by
  intro p hp
  unfold System.stageOf
  cases p with
  | worker k => rw [hw]
  | media k => rw [hm]
  | poller => exact absurd rfl hp

theorem worker_writeBack {i : Nat} {now : SystemTime}
    (h : step o s (.worker i now) = some (s', ev)) : WriteBack.Step s.disk (.worker i) s'.disk := by
  obtain ⟨w, w', hw, hn, _, rfl⟩ := step_worker h
  have hdata := w.pc.configs_printersAfter w.task s.app.printers
  have hothers : ∀ p, p ≠ Party.worker i →
      ({ s with workers := s.workers.set i w' } : System).stageOf p = s.stageOf p :=
    stageOf_workers rfl rfl fun k hk => stageAt_set_ne hk
  have hold : s.stageOf (.worker i) = w.pc.stage := stageAt_eq hw
  have hnew : stageAt (fun w : Worker => w.pc.stage) (s.workers.set i w') i = w'.pc.stage :=
    stageAt_set_self hw
  rcases Worker.next_stage hn with ⟨hsv, hst, hst'⟩ | ⟨saved, hsv, hst, hst'⟩ | ⟨hsv, hst, hst'⟩
  · have hfree : ∀ copy, s.disk.stage (.worker i) ≠ .holding copy := fun copy e => by
      cases hst.symm.trans (hold.symm.trans e)
    refine .snapshot hdata ?_ hothers hfree (hnew.trans hst')
    show w.pc.saves.getD s.file = s.file
    rw [hsv]
    rfl
  · refine .save saved (hold.trans hst) hdata ?_ hothers (hnew.trans hst')
    show w.pc.saves.getD s.file = saved
    rw [hsv]
    rfl
  · refine .of_due (hold.trans hst) (hnew.trans hst') hdata ?_ hothers
    show w.pc.saves.getD s.file = s.file
    rw [hsv]
    rfl

theorem outcome_writeBack {i : Nat} {out : JobOutcome}
    (h : step o s (.outcome i out) = some (s', ev)) : WriteBack.Step s.disk (.worker i) s'.disk := by
  obtain ⟨w, hw, hp, _, rfl⟩ := step_outcome h
  have hold : s.stageOf (.worker i) = .due := by
    show stageAt (fun w : Worker => w.pc.stage) s.workers i = .due
    rw [stageAt_eq hw, hp]
    rfl
  refine .of_due hold ?_ rfl rfl (stageOf_workers rfl rfl fun k hk => stageAt_set_ne hk)
  show stageAt (fun w : Worker => w.pc.stage) (s.workers.set i _) i = .due
  rw [stageAt_set_self hw]
  cases out <;> rfl

/-- A request: a worker more, or nothing. -/
theorem request_writeBack {clock : Clock} {name : String} {body : List UInt8}
    (h : step o s (.request clock name body) = some (s', ev)) :
    WriteBack.Step s.disk (.worker s.workers.length) s'.disk := by
  have hidle : s.stageOf (.worker s.workers.length) = .idle := stageAt_length
  rcases step_request h with ⟨_, _, rfl, _⟩ | ⟨_, _, _, _, _, _, rfl⟩ |
    ⟨_, _, _, _, _, _, rfl⟩ | ⟨req, record, _, _, rfl, _⟩
  · exact .of_idle hidle rfl rfl fun _ _ => rfl
  · exact .of_idle hidle rfl rfl fun _ _ => rfl
  · exact .of_idle hidle rfl rfl fun _ _ => rfl
  · have hprinters : (dispatch o.crate clock s.app name req record).app.printers =
        s.app.printers := by rw [dispatch_frame]
    have hdata : configs (dispatch o.crate clock s.app name req record).app.printers =
        configs s.app.printers := by rw [hprinters]
    refine .of_idle hidle hdata rfl (stageOf_workers rfl rfl fun k hk => ?_)
    cases (dispatch o.crate clock s.app name req record).spawned with
    | none => exact congrArg (fun ws => stageAt _ ws k) (List.append_nil s.workers)
    | some task => exact stageAt_append_ne hk

theorem roundStage_free (changed : Bool) (copy : List PrinterConfig) :
    roundStage changed ≠ .holding copy := by
  cases changed <;> exact fun e => (nomatch e)

/-- **The poller's own access**, as writing back. -/
theorem poll_writeBack (h : step o s .poll = some (s', ev)) :
    WriteBack.Step s.disk .poller s'.disk := by
  obtain ⟨pc, hpc, _, rfl⟩ := step_poll h
  have hothers : ∀ p, p ≠ Party.poller →
      ({ s with poller := pc } : System).stageOf p = s.stageOf p := stageOf_poller rfl rfl
  have hold : s.disk.stage .poller = s.poller.stage := rfl
  cases hp : s.poller with
  | waiting => rw [hp] at hpc; cases hpc
  | polling cfg todo changed => rw [hp] at hpc; cases hpc
  | next todo changed =>
      rw [hp] at hpc hold
      have hfree : ∀ copy, s.disk.stage .poller ≠ .holding copy := by
        rw [hold]
        exact roundStage_free changed
      cases todo with
      | nil =>
          cases hpc
          refine .move rfl rfl hothers hfree fun e => ?_
          rw [hold] at e
          cases changed with
          | true => rfl
          | false => cases e
      | cons cfg todo =>
          cases hpc
          exact .move rfl rfl hothers hfree fun e => hold.symm.trans e
  | write cfg status todo changed =>
      rw [hp] at hpc hold
      cases hpc
      have hfree : ∀ copy, s.disk.stage .poller ≠ .holding copy := by
        rw [hold]
        exact roundStage_free changed
      cases hany : ((findPrinter s.app.printers cfg.name).map status.applyTo).any (·.2) with
      | true =>
          -- some loaded media changed: from here on the poller is due
          refine .mutate rfl (stageOf_poller rfl rfl) hfree ?_
          show roundStage (changed || true) = .due
          rw [Bool.or_true]
          rfl
      | false =>
          refine .move (PollerPc.configs_write hany) rfl (stageOf_poller rfl rfl) hfree fun e => ?_
          show roundStage (changed || false) = .due
          rw [Bool.or_false]
          exact hold.symm.trans e
  | advert cfg reachable copy todo changed =>
      rw [hp] at hpc hold
      cases hpc
      have hfree : ∀ copy, s.disk.stage .poller ≠ .holding copy := by
        rw [hold]
        exact roundStage_free changed
      exact .move rfl rfl hothers hfree fun e => hold.symm.trans e
  | snapshot =>
      rw [hp] at hpc hold
      cases hpc
      exact .snapshot rfl rfl hothers (fun copy e => nomatch hold.symm.trans e) rfl
  | save saved =>
      rw [hp] at hpc hold
      cases hpc
      exact .save saved hold rfl rfl hothers rfl

theorem pollTick_writeBack (h : step o s .pollTick = some (s', ev)) :
    WriteBack.Step s.disk .poller s'.disk := by
  obtain ⟨hw, _, rfl⟩ := step_pollTick h
  have hidle : s.stageOf .poller = .idle := by
    show s.poller.stage = .idle
    rw [hw]
    rfl
  exact .of_idle hidle rfl rfl (stageOf_poller rfl rfl)

theorem pollAnswer_writeBack {status : Option PollStatus}
    (h : step o s (.pollAnswer status) = some (s', ev)) :
    WriteBack.Step s.disk .poller s'.disk := by
  obtain ⟨cfg, todo, changed, pc, hp, _, rfl, hor⟩ := step_pollAnswer h
  have hold : s.disk.stage .poller = roundStage changed := by
    show s.poller.stage = _
    rw [hp]
    rfl
  have hnew : pc.stage = roundStage changed := by
    rcases hor with ⟨_, rfl⟩ | ⟨st, _, rfl⟩ <;> rfl
  refine .move rfl rfl (stageOf_poller rfl rfl) ?_ fun e => ?_
  · rw [hold]
    exact roundStage_free changed
  · exact hnew.trans (hold.symm.trans e)

/-- A form is submitted: perhaps a media request more, which has changed nothing yet. -/
theorem mediaPost_writeBack {name : String} {form : MediaForm}
    (h : step o s (.mediaPost name form) = some (s', ev)) :
    WriteBack.Step s.disk (.media s.media.length) s'.disk := by
  have hidle : s.stageOf (.media s.media.length) = .idle := stageAt_length
  rcases step_mediaPost h with rfl | ⟨pc, _, rfl⟩
  · exact .of_idle hidle rfl rfl fun _ _ => rfl
  · exact .of_idle hidle rfl rfl (stageOf_media rfl rfl fun k hk => stageAt_append_ne hk)

theorem mediaAnswer_writeBack {i : Nat} {refusal : Option String}
    (h : step o s (.mediaAnswer i refusal) = some (s', ev)) :
    WriteBack.Step s.disk (.media i) s'.disk := by
  obtain ⟨t, t', page, ht, ha, rfl⟩ := step_mediaAnswer h
  have hidle : s.stageOf (.media i) = .idle := by
    show stageAt (fun t : MediaTask => t.pc.stage) s.media i = .idle
    rw [stageAt_eq ht]
    unfold MediaTask.answered at ha
    split at ha
    · rename_i record hp
      rw [hp]
      rfl
    · cases ha
  exact .of_idle hidle rfl rfl (stageOf_media rfl rfl fun k hk => stageAt_set_ne hk)

/-- **A media request's access**, as writing back. -/
theorem media_writeBack {i : Nat} (h : step o s (.media i) = some (s', ev)) :
    WriteBack.Step s.disk (.media i) s'.disk := by
  obtain ⟨t, t', page, ht, hs, rfl⟩ := step_media h
  have hothers : ∀ p, p ≠ Party.media i →
      ({ s with media := s.media.set i t' } : System).stageOf p = s.stageOf p :=
    stageOf_media rfl rfl fun k hk => stageAt_set_ne hk
  have hold : s.stageOf (.media i) = t.pc.stage := stageAt_eq ht
  have hnew : stageAt (fun t : MediaTask => t.pc.stage) (s.media.set i t') i = t'.pc.stage :=
    stageAt_set_self ht
  obtain ⟨name, form, pc⟩ := t
  cases pc with
  | hook record => cases hs
  | done => cases hs
  | write =>
      cases hf : findPrinter s.app.printers name with
      | none =>
          refine .of_idle hold ?_ rfl hothers
          exact congrArg configs (MediaTask.printersAfter_missing
            (t := { name, form, pc := .write }) hf)
      | some record =>
          refine .mutate rfl hothers (fun copy e => nomatch hold.symm.trans e) (hnew.trans ?_)
          unfold MediaTask.step at hs
          dsimp only at hs
          rw [hf] at hs
          cases hs
          rfl
  | snapshot updated =>
      cases hs
      exact .snapshot rfl rfl hothers (fun copy e => nomatch hold.symm.trans e) hnew
  | save updated saved =>
      cases hs
      exact .save saved hold rfl rfl hothers hnew

/-- **Every step of the server is one of the scheme**, by the party whose turn it is. -/
theorem step_writeBack (h : step o s a = some (s', ev)) :
    (a.actor s = none ∧ s'.disk = s.disk) ∨
      ∃ i, a.actor s = some i ∧ WriteBack.Step s.disk i s'.disk := by
  cases a with
  | request clock name body => exact Or.inr ⟨_, rfl, request_writeBack h⟩
  | cancelNext i now =>
      obtain ⟨t, _, ⟨_, _, _, _, rfl⟩ | ⟨_, rfl, _⟩⟩ := step_cancelNext h
      · exact Or.inl ⟨rfl, rfl⟩
      · exact Or.inl ⟨rfl, rfl⟩
  | identified i =>
      obtain ⟨_, _, rfl, _⟩ := step_identified h
      exact Or.inl ⟨rfl, rfl⟩
  | worker i now => exact Or.inr ⟨_, rfl, worker_writeBack h⟩
  | outcome i out => exact Or.inr ⟨_, rfl, outcome_writeBack h⟩
  | pollTick => exact Or.inr ⟨_, rfl, pollTick_writeBack h⟩
  | pollAnswer status => exact Or.inr ⟨_, rfl, pollAnswer_writeBack h⟩
  | poll => exact Or.inr ⟨_, rfl, poll_writeBack h⟩
  | mediaPost name form => exact Or.inr ⟨_, rfl, mediaPost_writeBack h⟩
  | mediaAnswer i refusal => exact Or.inr ⟨_, rfl, mediaAnswer_writeBack h⟩
  | media i => exact Or.inr ⟨_, rfl, media_writeBack h⟩

/-- Only the parties there are carry anything. -/
theorem mem_parties {p : Party} {data : List PrinterConfig} (h : (s.stageOf p).Carries data) :
    p ∈ s.parties := by
  have hlt : ∀ {τ : Type} {stage : τ → Stage (List PrinterConfig)} {l : List τ} {i : Nat},
      (stageAt stage l i).Carries data → i < l.length := by
    intro τ stage l i hc
    by_contra hi
    unfold stageAt at hc
    rw [List.getElem?_eq_none (Nat.le_of_not_lt hi)] at hc
    exact hc
  unfold System.parties
  cases p with
  | worker i =>
      exact List.mem_cons_of_mem _ (List.mem_append_left _
        (List.mem_map.mpr ⟨i, List.mem_range.mpr (hlt h), rfl⟩))
  | media i =>
      exact List.mem_cons_of_mem _ (List.mem_append_right _
        (List.mem_map.mpr ⟨i, List.mem_range.mpr (hlt h), rfl⟩))
  | poller => exact List.mem_cons_self

theorem savesFresh_iff_fresh : SavesFresh s a ↔ ∀ i ∈ a.actor s, Fresh s.disk i := by
  constructor
  · intro h i hi copy hcopy
    have hheld : copy ∈ (s.stageOf i).held := by
      rw [show s.stageOf i = .holding copy from hcopy]
      rfl
    rcases h i hi copy hheld with e | ⟨k, _, hki, hk⟩
    · exact Or.inl e
    · exact Or.inr ⟨k, hki, hk⟩
  · intro h i hi copy hheld
    have hcopy : s.disk.stage i = .holding copy := by
      show s.stageOf i = .holding copy
      cases hst : s.stageOf i with
      | holding c =>
          rw [hst] at hheld
          cases hheld
          rfl
      | idle => rw [hst] at hheld; cases hheld
      | due => rw [hst] at hheld; cases hheld
    rcases h i hi copy hcopy with e | ⟨k, hki, hk⟩
    · exact Or.inl e
    · exact Or.inr ⟨k, mem_parties hk, hki, hk⟩

/-- **The guard is exact**: a step from a covered state leaves a covered one if and only if it
    meets the guard. -/
theorem savesFresh_iff (h : step o s a = some (s', ev)) (hc : Covered s.disk) :
    SavesFresh s a ↔ Covered s'.disk := by
  rw [savesFresh_iff_fresh]
  rcases step_writeBack h with ⟨hnone, e⟩ | ⟨i, hi, hstep⟩
  · rw [hnone, e]
    exact ⟨fun _ => hc, fun _ i hi => nomatch hi⟩
  · rw [hi, hstep.covered_iff hc]
    exact ⟨fun hf => hf i rfl, fun hf k hk => Option.some.inj hk ▸ hf⟩

/-! ## 3. The file at rest -/

/-- The file covers the registry in every state of a run that saves fresh. -/
theorem run_covered {d : Deployment} (h : Run (server o) SavesFresh (boot d) tr t) :
    Covered t.disk := by
  refine Run.always (I := fun t => Covered t.disk) ?_ ?_ h
  · refine Or.inl ?_
    show d.printers.map (·.1) = configs (d.printers.map fun e => PrinterRecord.new e.1 e.2)
    unfold configs
    rw [List.map_map]
    rfl
  · intro r b r' ev' hI hg hs
    exact (savesFresh_iff hs hI).mp hg

/-- **The file is up to date**: when every worker has exited, every media request is answered and
    the poller waits, the file holds exactly the configurations of the registry, in every run in
    which an outdated snapshot is written only while another party still brings the current
    configurations. -/
theorem file_holds_configs {d : Deployment} (h : Run (server o) SavesFresh (boot d) tr t)
    (hw : ∀ w ∈ t.workers, w.pc = .done) (hm : ∀ m ∈ t.media, m.pc = .done)
    (hp : t.poller = .waiting) : t.file = configs t.app.printers := by
  refine (run_covered h).file_eq fun p => ?_
  cases p with
  | worker i =>
      refine stageAt_idle (fun w hmem => ?_) i
      rw [hw w hmem]
      rfl
  | media i =>
      refine stageAt_idle (fun m hmem => ?_) i
      rw [hm m hmem]
      rfl
  | poller =>
      show t.poller.stage = .idle
      rw [hp]
      rfl

end Stages

/-- Print-Job, printed; the worker has taken its snapshot and is about to write it. -/
def snapshotTaken : List Action :=
  [Trial.post "p" Trial.print] ++ Trial.times 4 (.worker 0 5) ++ [.outcome 0 .completed] ++
    Trial.times 6 (.worker 0 6)

/-- Another roll is loaded on the web page. -/
def rollForm : MediaForm := { widthMm := 40, heightMm := 25 }

/-- The roll is loaded, the worker writes its outdated snapshot, the media request persists. -/
def workerFirst : System :=
  endOf (server Trial.options) SavesFresh (boot Trial.deployment)
    (snapshotTaken ++ [.mediaPost "p" rollForm, .media 0, .worker 0 6, .media 0, .media 0])

theorem file_holds_configs_workerFirst : workerFirst.file = configs workerFirst.app.printers := by
  obtain ⟨hw, hm, hp⟩ : (∀ w ∈ workerFirst.workers, w.pc = .done) ∧
      (∀ m ∈ workerFirst.media, m.pc = .done) ∧ workerFirst.poller = .waiting := by
    decide +kernel
  exact file_holds_configs (run_endOf (by decide +kernel)) hw hm hp

/-- The media request persists before the worker writes its outdated snapshot. -/
def workerLast : System :=
  endOf (server Trial.options) anyStep (boot Trial.deployment)
    (snapshotTaken ++ [.mediaPost "p" rollForm, .media 0, .media 0, .media 0, .worker 0 6])

/-- The roll is lost from the file. -/
theorem loaded_roll_lost :
    ¬ ∀ (o : Options) (d : Deployment) (tr : List Event) (t : System),
        Run (server o) anyStep (boot d) tr t → (∀ w ∈ t.workers, w.pc = .done) →
        (∀ m ∈ t.media, m.pc = .done) → t.poller = .waiting →
        t.file = configs t.app.printers := by
  intro h
  obtain ⟨hw, hm, hp, hlost⟩ : (∀ w ∈ workerLast.workers, w.pc = .done) ∧
      (∀ m ∈ workerLast.media, m.pc = .done) ∧ workerLast.poller = .waiting ∧
      workerLast.file ≠ configs workerLast.app.printers := by
    decide +kernel
  exact hlost (h Trial.options Trial.deployment _ workerLast (run_endOf (by decide +kernel)) hw hm hp)

end IppPrinterApp
