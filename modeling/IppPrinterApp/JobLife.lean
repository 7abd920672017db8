/-
  File:      IppPrinterApp/JobLife.lean
  Subject:   The life of a job, as its state tells it.

  The job-state a client polls should be a walk through a diagram: pending, processing, stopped and
  on again, and to an end in one of the three terminal states. Workers write a job's state without
  looking at the one that is there, so they may also write over a terminal one.

  * `inDiagram` -- the edges of the diagram; `overwrites` -- the writes over a terminal state;
  * `Begun`, `ThroughOrOpen`, `CanceledFlagged` -- what a job's state says of its workers, and its
    cancel flag;
  * `JobsStep.edge` -- a step leaves the state of a job as it is, or moves it along one of these;
  * `job_life`: **what a client sees of a job is a walk through the diagram but for overwrites** --
    where jobs have one document, only a canceled job is written over, and one that is not canceled
    keeps to the diagram to its end;
  * `jobs_continue`: no job is ever removed, and what identifies it never changes.
-/
import IppPrinterApp.Lib.Simulation
import IppPrinterApp.CancelLatency
import IppPrinterApp.Documents

namespace IppPrinterApp

open Transition

/-! ## 1. The diagram -/

/-- The state of the job at a position, if it has been created. -/
def System.jobState (k : Nat) (s : System) : Option JobState :=
  s.app.jobs.jobs[k]?.map (·.state)

/-- **The edges of the diagram.** A job is created pending; a pending job is started or canceled; a
    processing job stops, ends or is canceled, and so does a stopped one, but that it goes on. No
    edge leads on from a terminal state. -/
def inDiagram : Option JobState → Option JobState → Bool
  | none, some .pending => true
  | some .pending, some .processing => true
  | some .pending, some .canceled => true
  | some .processing, some .processingStopped => true
  | some .processing, some .completed => true
  | some .processing, some .aborted => true
  | some .processing, some .canceled => true
  | some .processingStopped, some .processing => true
  | some .processingStopped, some .completed => true
  | some .processingStopped, some .aborted => true
  | some .processingStopped, some .canceled => true
  | _, _ => false

/-- A worker's write over a terminal state. -/
def overwrites : Option JobState → Option JobState → Bool
  | some st, some .processing => st.isTerminal
  | some st, some .processingStopped => st.isTerminal
  | some st, some .completed => st.isTerminal
  | some st, some .aborted => st.isTerminal
  | _, _ => false

/-- The state an outcome ends a job in. -/
def JobState.isVerdict : JobState → Bool
  | completed => true
  | aborted => true
  | _ => false

/-- The worker has made its first write of the job's state. -/
def WorkerPc.started : WorkerPc → Bool
  | markPrinter => false
  | markJob => false
  | _ => true

/-- The worker has left its loop. -/
def WorkerPc.through : WorkerPc → Bool
  | exitCheck => true
  | cancelReasons => true
  | cancelIdle => true
  | cancelJob => true
  | snapshot => true
  | save _ => true
  | done => true
  | _ => false

/-- No job is ever held: this server knows no such state. -/
def NeverHeld (j : JobRecord) (_ : List Worker) : Prop :=
  j.state ≠ .held

/-- A job with a worker that has started it is not pending. -/
def Begun (j : JobRecord) (ws : List Worker) : Prop :=
  ∀ w ∈ ws, w.pc.started = true → j.state ≠ .pending

/-- A job of one worker at most that is completed or aborted has had it, and that worker has left
    its loop. -/
def ThroughOrOpen (j : JobRecord) (ws : List Worker) : Prop :=
  ws.length ≤ 1 → j.state.isVerdict = true → ws ≠ [] ∧ ∀ w ∈ ws, w.pc.through = true

/-- A canceled job has its flag set. -/
def CanceledFlagged (j : JobRecord) (_ : List Worker) : Prop :=
  j.state = .canceled → j.cancelFlag = true

section Diagram

variable {o : Options} {s s' : System} {a : Action} {ev tr : List Event} {k : Nat}

theorem JobRecord.withCancel_ne_held {j : JobRecord} (h : j.state ≠ .held)
    (now : SystemTime) : (j.withCancel now).state ≠ .held := by
  rw [JobRecord.withCancel_state]
  split
  · exact h
  · nofun

/-- **Survival**: nothing makes a job held. -/
theorem neverHeld_survives (s : System) (a : Action) : Survives NeverHeld o s a where
  created := fun _ _ _ => nofun
  canceled := fun now j ws h => JobRecord.withCancel_ne_held h now
  spawned := fun task j ws h => h
  worked := fun i now w w' j before after _ _ _ _ h => by
    unfold NeverHeld WorkerPc.jobAfter
    cases w.pc with
    | markJob => nofun
    | completedState => nofun
    | failedState f => nofun
    | heldState => nofun
    | cancelJob => exact JobRecord.withCancel_ne_held h now
    | _ => exact h
  returned := fun out w j before after _ h => h

theorem JobRecord.withCancel_ne_pending {j : JobRecord} (h : j.state ≠ .pending)
    (now : SystemTime) : (j.withCancel now).state ≠ .pending := by
  rw [JobRecord.withCancel_state]
  split
  · exact h
  · nofun

/-- No write of a worker makes a job pending. -/
theorem WorkerPc.jobAfter_ne_pending {pc : WorkerPc} {j : JobRecord} (now : SystemTime)
    (h : j.state ≠ .pending) : (pc.jobAfter now j).state ≠ .pending := by
  unfold WorkerPc.jobAfter
  cases pc with
  | markJob => nofun
  | completedState => nofun
  | failedState f => nofun
  | heldState => nofun
  | cancelJob => exact JobRecord.withCancel_ne_pending h now
  | _ => exact h

/-- A worker that has started was started before, or is about to write Processing. -/
theorem Worker.next_started {retryMs : Option String} {canceled : Bool}
    {current : List PrinterConfig} {w w' : Worker}
    (h : w.next retryMs canceled current = some w') (hst : w'.pc.started = true) :
    w.pc.started = true ∨ w.pc = .markJob := by
  obtain ⟨task, pc, backoff⟩ := w
  cases pc with
  | markPrinter => cases h; cases hst
  | markJob => exact Or.inr rfl
  | _ => exact Or.inl rfl

/-- **Survival**: started jobs stay started. -/
theorem begun_survives (s : System) (a : Action) : Survives Begun o s a where
  created := fun _ _ _ w hw => absurd hw List.not_mem_nil
  canceled := fun now j ws h w hw hst => JobRecord.withCancel_ne_pending (h w hw hst) now
  spawned := fun task j ws h w hw hst => by
    rcases List.mem_append.mp hw with hw | hw
    · exact h w hw hst
    · rw [List.mem_singleton.mp hw] at hst
      cases hst
  worked := fun i now w w' j before after _ _ _ hn h u hu hst => by
    have hold : (∃ v ∈ before ++ w :: after, v.pc.started = true) →
        (w.pc.jobAfter now j).state ≠ .pending := fun ⟨v, hv, hvst⟩ =>
      WorkerPc.jobAfter_ne_pending now (h v hv hvst)
    rcases List.mem_append.mp hu with hu | hu
    · exact hold ⟨u, List.mem_append_left _ hu, hst⟩
    · rcases List.mem_cons.mp hu with rfl | hu
      · rcases Worker.next_started hn hst with hw | hw
        · exact hold ⟨w, List.mem_append_right _ List.mem_cons_self, hw⟩
        · rw [hw]
          nofun
      · exact hold ⟨u, List.mem_append_right _ (List.mem_cons_of_mem _ hu), hst⟩
  returned := fun out w j before after hp h u hu hst => by
    have hw : w.pc.started = true := by rw [hp]; rfl
    exact h w (List.mem_append_right _ List.mem_cons_self) hw

/-- A cancel ends no job in a verdict. -/
theorem JobRecord.withCancel_isVerdict {now : SystemTime} {j : JobRecord}
    (h : (j.withCancel now).state.isVerdict = true) : j.state.isVerdict = true := by
  rw [JobRecord.withCancel_state] at h
  split at h
  · exact h
  · cases h

/-- **A worker that leaves a verdict has left its loop**, if it had where there was one before. -/
theorem Worker.next_through {retryMs : Option String} {canceled : Bool}
    {current : List PrinterConfig} {w w' : Worker} {j : JobRecord} {now : SystemTime}
    (h : w.next retryMs canceled current = some w')
    (hold : j.state.isVerdict = true → w.pc.through = true)
    (hv : (w.pc.jobAfter now j).state.isVerdict = true) : w'.pc.through = true := by
  obtain ⟨task, pc, backoff⟩ := w
  cases pc with
  | completedState => cases h; rfl
  | failedState f => cases h; rfl
  | markJob => cases hv
  | heldState => cases hv
  | exitCheck => cases h; cases canceled <;> rfl
  | cancelReasons => cases h; rfl
  | cancelIdle => cases h; rfl
  | cancelJob => cases h; rfl
  | snapshot => cases h; rfl
  | save saved => cases h; rfl
  | done => cases h
  | _ => cases hold hv

/-- **Survival**: the verdict on a job of one worker is that worker's last word. -/
theorem throughOrOpen_survives (s : System) (a : Action) : Survives ThroughOrOpen o s a where
  created := fun _ _ _ _ hv => by cases hv
  canceled := fun now j ws h hone hv => h hone (JobRecord.withCancel_isVerdict hv)
  spawned := fun task j ws h hone hv => by
    have hnil : ws = [] := by
      rw [List.length_append, List.length_singleton] at hone
      exact List.eq_nil_of_length_eq_zero (by omega)
    subst hnil
    exact absurd rfl (h (Nat.zero_le 1) hv).1
  worked := fun i now w w' j before after _ _ _ hn h hone hv => by
    have hlen : (before ++ w :: after).length ≤ 1 := by
      rw [List.length_append, List.length_cons] at hone ⊢
      exact hone
    refine ⟨List.append_ne_nil_of_right_ne_nil _ (List.cons_ne_nil _ _), fun u hu => ?_⟩
    rw [List.length_append, List.length_cons] at hone
    have hb : before = [] := List.eq_nil_of_length_eq_zero (by omega)
    have ha : after = [] := List.eq_nil_of_length_eq_zero (by omega)
    subst hb ha
    rw [List.mem_singleton.mp hu]
    exact Worker.next_through hn
      (fun hold => (h hlen hold).2 w (List.mem_singleton_self w)) hv
  returned := fun out w j before after hp h hone hv => by
    have hlen : (before ++ w :: after).length ≤ 1 := by
      rw [List.length_append, List.length_cons] at hone ⊢
      exact hone
    -- a worker whose callback runs has not left its loop
    have hw := (h hlen hv).2 w (List.mem_append_right _ List.mem_cons_self)
    rw [hp] at hw
    cases hw

theorem withCancel_flagged {j : JobRecord} (h : j.state = .canceled → j.cancelFlag = true)
    (now : SystemTime) (hc : (j.withCancel now).state = .canceled) :
    (j.withCancel now).cancelFlag = true := by
  unfold JobRecord.withCancel at hc ⊢
  split at hc
  · rename_i ht
    rw [if_pos ht]
    exact h hc
  · rename_i ht
    rw [if_neg ht]

/-- **Survival**: only a cancel makes a job canceled. -/
theorem canceledFlagged_survives (s : System) (a : Action) :
    Survives CanceledFlagged o s a where
  created := fun _ _ _ hc => by cases hc
  canceled := fun now j ws h hc => withCancel_flagged h now hc
  spawned := fun task j ws h hc => h hc
  worked := fun i now w w' j before after _ _ _ _ h hc => by
    unfold WorkerPc.jobAfter at hc ⊢
    cases hpc : w.pc with
    | cancelJob =>
        rw [hpc] at hc
        exact withCancel_flagged h now hc
    | markJob => rw [hpc] at hc; cases hc
    | completedState => rw [hpc] at hc; cases hc
    | failedState f => rw [hpc] at hc; cases hc
    | heldState => rw [hpc] at hc; cases hc
    | _ => rw [hpc] at hc; exact h hc
  returned := fun out w j before after _ h hc => h hc

/-! ## 2. Edges -/

/-- The states a worker writes without looking at the one that is there. -/
def IsWritten (st : JobState) : Prop :=
  st = .processing ∨ st = .processingStopped ∨ st = .completed ∨ st = .aborted

/-- Such a write changes nothing, follows the diagram, or is an overwrite, if a job is processing
    before it is anything else. -/
theorem written_edge {old st : JobState} (hst : IsWritten st) (hheld : old ≠ .held)
    (hold : old = .pending → st = .processing) :
    st = old ∨ inDiagram (some old) (some st) = true ∨ overwrites (some old) (some st) = true := by
  cases old with
  | held => exact absurd rfl hheld
  | pending => rw [hold rfl]; exact Or.inr (Or.inl rfl)
  | _ => rcases hst with rfl | rfl | rfl | rfl <;> simp [inDiagram, overwrites, JobState.isTerminal]

/-- A cancel changes nothing, or follows the diagram. -/
theorem cancel_edge (now : SystemTime) {j : JobRecord} (hheld : j.state ≠ .held) :
    (j.withCancel now).state = j.state ∨
      inDiagram (some j.state) (some (j.withCancel now).state) = true := by
  rw [JobRecord.withCancel_state]
  cases hs : j.state with
  | held => exact absurd hs hheld
  | _ => simp [inDiagram, JobState.isTerminal]

/-- A worker's write changes nothing, follows the diagram, or is an overwrite in its loop. -/
theorem write_edge {w : Worker} {j : JobRecord} {op : JobOp} (now : SystemTime)
    (hop : w.pc.jobOp = some op) (hheld : j.state ≠ .held)
    (hbegun : w.pc.started = true → j.state ≠ .pending) :
    (op.apply now j).state = j.state ∨
      inDiagram (some j.state) (some (op.apply now j).state) = true ∨
      (overwrites (some j.state) (some (op.apply now j).state) = true ∧
        w.pc.through = false) := by
  have hwrite : ∀ st : JobState, IsWritten st → (j.state = .pending → st = .processing) →
      w.pc.through = false →
      st = j.state ∨ inDiagram (some j.state) (some st) = true ∨
        (overwrites (some j.state) (some st) = true ∧ w.pc.through = false) := by
    intro st hst hp hin
    rcases written_edge hst hheld hp with he | he | he
    · exact Or.inl he
    · exact Or.inr (Or.inl he)
    · exact Or.inr (Or.inr ⟨he, hin⟩)
  cases hpc : w.pc with
  | markJob =>
      rw [hpc] at hop hwrite
      cases hop
      exact hwrite .processing (Or.inl rfl) (fun _ => rfl) rfl
  | heldState =>
      rw [hpc] at hop hbegun hwrite
      cases hop
      exact hwrite .processingStopped (Or.inr (Or.inl rfl)) (fun hp => absurd hp (hbegun rfl)) rfl
  | completedState =>
      rw [hpc] at hop hbegun hwrite
      cases hop
      exact hwrite .completed (Or.inr (Or.inr (Or.inl rfl)))
        (fun hp => absurd hp (hbegun rfl)) rfl
  | failedState f =>
      rw [hpc] at hop hbegun hwrite
      cases hop
      exact hwrite .aborted (Or.inr (Or.inr (Or.inr rfl))) (fun hp => absurd hp (hbegun rfl)) rfl
  | cancelJob =>
      rw [hpc] at hop
      cases hop
      exact (cancel_edge now hheld).imp id Or.inl
  | _ => rw [hpc] at hop; cases hop

/-- A job that a step creates is pending. -/
theorem JobsStep.created {g : JobRegistry} {ws : List Worker} (h : JobsStep o s a g ws)
    {j : JobRecord} (hk : s.app.jobs.jobs[k]? = none) (hk' : g.jobs[k]? = some j) :
    j.state = .pending := by
  have hcreate : ∀ now name owner, (s.app.jobs.create now name owner).2.jobs[k]? = some j →
      j.state = .pending := by
    intro now name owner h'
    rcases JobRegistry.create_getElem?_cases h' with hold | ⟨_, rfl⟩
    · cases hk.symm.trans hold
    · rfl
  have hupdate : ∀ id f, (s.app.jobs.update id f).jobs[k]? = some j → j.state = .pending := by
    intro id f h'
    rw [JobRegistry.update_getElem?, hk, Option.map_none, ite_self] at h'
    cases h'
  have hsame : s.app.jobs.jobs[k]? = some j → j.state = .pending := fun h' => by
    cases hk.symm.trans h'
  cases h with
  | same => exact hsame hk'
  | request _ _ _ _ _ _ _ _ ha =>
      cases ha with
      | same => exact hsame hk'
      | created => exact hcreate _ _ _ hk'
      | printed => exact hcreate _ _ _ hk'
      | sent => exact hsame hk'
      | canceled id => exact hupdate _ _ hk'
  | canceled i now id => exact hupdate _ _ hk'
  | worked i now w w' hw hn =>
      unfold WorkerPc.jobsAfter at hk'
      split at hk'
      · exact hupdate _ _ hk'
      · exact hsame hk'
  | returned => exact hsame hk'

/-- What the registry keeps of its jobs and their workers; where jobs have one document (`single`),
    no job has two workers. -/
structure LifeInv (single : Bool) (g : JobRegistry) (ws : List Worker) : Prop where
  tasks : TaskJobs g ws
  wf : g.Wf
  heldNot : EachJob NeverHeld g ws
  begun : EachJob Begun g ws
  verdict : EachJob ThroughOrOpen g ws
  flagged : EachJob CanceledFlagged g ws
  one : single = true → ∀ k, (workersOf k ws).length ≤ 1

theorem LifeInv.boot (single : Bool) (d : Deployment) :
    LifeInv single (boot d).app.jobs (boot d).workers where
  tasks := fun _ hw => absurd hw List.not_mem_nil
  wf := JobRegistry.new_wf
  heldNot := fun _ _ hk => nomatch hk
  begun := fun _ _ hk => nomatch hk
  verdict := fun _ _ hk => nomatch hk
  flagged := fun _ _ hk => nomatch hk
  one := fun _ _ => Nat.zero_le 1

theorem LifeInv.step {single : Bool} (hI : LifeInv single s.app.jobs s.workers)
    (hg : single = true → OneDocument o s a) (hlt : s.app.jobs.jobs.length < 2 ^ 32)
    (hs : IppPrinterApp.step o s a = some (s', ev)) :
    LifeInv single s'.app.jobs s'.workers where
  tasks := (step_jobs hs).taskJobs hI.tasks
  wf := step_wf hI.wf hs
  heldNot := (step_jobs hs).eachJob (neverHeld_survives s a) hI.tasks hI.wf hlt hI.heldNot
  begun := (step_jobs hs).eachJob (begun_survives s a) hI.tasks hI.wf hlt hI.begun
  verdict := (step_jobs hs).eachJob (throughOrOpen_survives s a) hI.tasks hI.wf hlt hI.verdict
  flagged := (step_jobs hs).eachJob (canceledFlagged_survives s a) hI.tasks hI.wf hlt hI.flagged
  one := fun hsingle => (step_jobs hs).one (hg hsingle) hI.tasks (hI.one hsingle)

/-- Where a job has one worker at most, only a canceled job is written over: a completed or aborted
    one has had its worker, which writes no more. -/
theorem LifeInv.overwritten {single : Bool} (hI : LifeInv single s.app.jobs s.workers)
    {j : JobRecord} (hk : s.app.jobs.jobs[k]? = some j) {w : Worker}
    (hw : w ∈ workersOf k s.workers)
    (hin : w.pc.through = false) {st : JobState}
    (he : overwrites (some j.state) (some st) = true) (hsingle : single = true) :
    j.state = .canceled ∧ j.cancelFlag = true := by
  have hnot : j.state.isVerdict = false := by
    cases hv : j.state.isVerdict with
    | false => rfl
    | true =>
        have hthrough := (hI.verdict k j hk (hI.one hsingle k) hv).2 w hw
        cases hin.symm.trans hthrough
  have hcanceled : j.state = .canceled := by
    cases hs : j.state with
    | canceled => rfl
    | completed => rw [hs] at hnot; cases hnot
    | aborted => rw [hs] at hnot; cases hnot
    | _ => rw [hs] at he; cases st <;> cases he
  exact ⟨hcanceled, hI.flagged k j hk hcanceled⟩

/-- **A step leaves the state of a job as it is, moves it along the diagram, or writes over a
    terminal state**, where jobs have one document a canceled one whose flag is set. -/
theorem JobsStep.edge {g : JobRegistry} {ws : List Worker} {single : Bool}
    (h : JobsStep o s a g ws) (hI : LifeInv single s.app.jobs s.workers)
    (hlt : s.app.jobs.jobs.length < 2 ^ 32) :
    g.jobs[k]?.map (·.state) = s.jobState k ∨
      inDiagram (s.jobState k) (g.jobs[k]?.map (·.state)) = true ∨
      (overwrites (s.jobState k) (g.jobs[k]?.map (·.state)) = true ∧
        (single = true → s.jobState k = some .canceled ∧ s.app.jobs.isCanceled k = true)) := by
  unfold System.jobState
  cases hk : s.app.jobs.jobs[k]? with
  | none =>
      cases hk' : g.jobs[k]? with
      | none => exact Or.inl rfl
      | some j' =>
          rw [Option.map_some, h.created hk hk']
          exact Or.inr (Or.inl rfl)
  | some j =>
      obtain ⟨j', hk', hc⟩ := h.change hk
      rw [hk', Option.map_some, Option.map_some, Option.some_inj, Option.some_inj]
      have hheld := hI.heldNot k j hk
      cases hc with
      | same => exact Or.inl rfl
      | canceled now => exact (cancel_edge now hheld).imp id Or.inl
      | worked i now w op ha hw hop hslot =>
          -- the worker is one of the job's own
          have hmem := List.mem_of_getElem? hw
          have hown : w.task.slot = k := (hI.tasks.slotOf hI.wf hlt hmem).symm.trans hslot
          have hwk : w ∈ workersOf k s.workers := Pool.mem_tasksOf.mpr ⟨hmem, hown⟩
          rcases write_edge now hop hheld (hI.begun k j hk w hwk) with he | he | ⟨he, hin⟩
          · exact Or.inl he
          · exact Or.inr (Or.inl he)
          · rw [JobRegistry.isCanceled_eq hk]
            exact Or.inr (Or.inr ⟨he, hI.overwritten hk hwk hin he⟩)

/-! ## 3. The walk -/

/-- The diagram leads on from no completed or aborted job. -/
theorem inDiagram_verdict {st : JobState} (h : st.isVerdict = true) (st' : Option JobState) :
    inDiagram (some st) st' = false := by
  cases st with
  | completed => cases st' <;> rfl
  | aborted => cases st' <;> rfl
  | _ => cases h

/-- What is seen of a job follows the diagram or writes over a terminal state, where jobs have one
    document that of a canceled job. -/
theorem run_edges {single : Bool} {d : Deployment} {seen : List (Option JobState)}
    (h : Run ((server o).watched (System.jobState k))
      (fun p a => (single = true → OneDocument o p.1 a) ∧ p.1.app.jobs.jobs.length < 2 ^ 32)
      (boot d, []) tr (s, seen)) :
    Follows (fun st st' => inDiagram st st' = true ∨
      (overwrites st st' = true ∧ (single = true → st = some .canceled))) none seen
      (s.jobState k) := by
  refine run_follows (M := server o)
    (G := fun s a => (single = true → OneDocument o s a) ∧ s.app.jobs.jobs.length < 2 ^ 32)
    (I := fun s => LifeInv single s.app.jobs s.workers) (LifeInv.boot single d) ?_ h
  intro s a s' ev hI ⟨hg, hlt⟩ hs
  refine ⟨hI.step hg hlt hs, ?_⟩
  rcases (step_jobs hs).edge (k := k) hI hlt with he | he | ⟨he, hc⟩
  · exact Or.inl he
  · exact Or.inr (Or.inl he)
  · exact Or.inr (Or.inr ⟨he, fun hsingle => (hc hsingle).1⟩)

/-- A job of one document keeps to the diagram as long as its cancel flag is not set. -/
theorem run_inDiagram {d : Deployment} {seen : List (Option JobState)}
    (h : Run ((server o).watched (System.jobState k))
      (fun p a => (OneDocument o p.1 a ∧ p.1.app.jobs.jobs.length < 2 ^ 32) ∧
        ¬ p.1.app.jobs.isCanceled k = true) (boot d, []) tr (s, seen)) :
    Follows (fun st st' => inDiagram st st' = true) none seen (s.jobState k) := by
  refine run_follows (M := server o)
    (G := fun s a => (OneDocument o s a ∧ s.app.jobs.jobs.length < 2 ^ 32) ∧
      ¬ s.app.jobs.isCanceled k = true)
    (I := fun s => LifeInv true s.app.jobs s.workers) (LifeInv.boot true d) ?_ h
  intro s a s' ev hI ⟨⟨hg, hlt⟩, hclear⟩ hs
  refine ⟨hI.step (fun _ => hg) hlt hs, ?_⟩
  rcases (step_jobs hs).edge (k := k) hI hlt with he | he | ⟨_, hc⟩
  · exact Or.inl he
  · exact Or.inr he
  · exact absurd (hc rfl).2 hclear

/-- **What a client sees of a job is a walk through the diagram, but for overwrites**: in every run
    that creates fewer than 2^32 jobs, the states of a job, each change once, lead from its creation
    to where it is. In runs in which no document is sent to a job that has a worker, nothing follows
    Completed or Aborted, and a job that is not canceled keeps to the diagram. -/
theorem job_life {d : Deployment} {seen : List (Option JobState)} (single : Bool)
    (h : Run ((server o).watched (System.jobState k))
      (fun p a => single = true → OneDocument o p.1 a) (boot d, []) tr (s, seen))
    (hlt : s.app.jobs.jobs.length < 2 ^ 32) :
    Follows (fun st st' => inDiagram st st' = true ∨ overwrites st st' = true) none seen
        (s.jobState k) ∧
      (single = true →
        (∀ before st after, seen = before ++ some st :: after →
          st = .completed ∨ st = .aborted → after = []) ∧
        (s.app.jobs.isCanceled k = false →
          Follows (fun st st' => inDiagram st st' = true) none seen (s.jobState k))) := by
  have hsmall := h.bounded (f := fun p => p.1.app.jobs.jobs.length)
    (fun _ _ _ _ hs => step_jobs_length (step_withHistory hs).1) hlt
  have hwalk := run_edges hsmall
  refine ⟨hwalk.mono fun st st' he => he.imp id And.left, fun hsingle => ⟨?_, fun hflag => ?_⟩⟩
  · intro before st after he hst
    have hv : st.isVerdict = true := by rcases hst with rfl | rfl <;> rfl
    refine path_stops hwalk.path (fun st' he' => ?_) he
    rcases he' with he' | ⟨_, hc⟩
    · rw [inDiagram_verdict hv st'] at he'
      cases he'
    · cases hc hsingle
      cases hv
  · -- the flag, once set, would be set still
    have hclear := hsmall.never (P := fun p => p.1.app.jobs.isCanceled k = true)
      (fun _ _ _ _ hs => step_isCanceled (step_withHistory hs).1) (by rw [hflag]; nofun)
    exact run_inDiagram (hclear.mono fun _ _ hg => ⟨⟨hg.1.1 hsingle, hg.1.2⟩, hg.2⟩)

end Diagram

namespace Trial

/-- A print whose device is unavailable at first. -/
def heldThenPrinted : List Action :=
  [post "p" print] ++ times 4 (.worker 0 0) ++ [.outcome 0 (.deviceUnavailable .OFFLINE)] ++
    times 13 (.worker 0 0) ++ [.outcome 0 .completed] ++ times 7 (.worker 0 0)

/-- A job that is canceled before its document comes. -/
def canceledThenSent : List Action :=
  [post "p" create, post "p" cancel, post "p" send] ++ times 7 (.worker 0 0)

/-- The first job, watched. -/
abbrev watchedJob : Machine (System × List (Option JobState)) Action Event :=
  (server options).watched (System.jobState 0)

/-- Runs in which jobs have one document. -/
abbrev single : System × List (Option JobState) → Action → Prop :=
  fun p a => true = true → OneDocument options p.1 a

end Trial

theorem job_life_two :
    Follows (fun st st' => inDiagram st st' = true) none
        [some .pending, some .processing, some .processingStopped, some .completed]
        ((endOf Trial.watchedJob Trial.single (boot Trial.deployment, [])
          Trial.heldThenPrinted).1.jobState 0) ∧
      Follows (fun st st' => inDiagram st st' = true ∨ overwrites st st' = true) none
        [some .pending, some .canceled, some .processing, some .canceled]
        ((endOf Trial.watchedJob Trial.single (boot Trial.deployment, [])
          Trial.canceledThenSent).1.jobState 0) := by
  constructor
  · have hseen : (endOf Trial.watchedJob Trial.single (boot Trial.deployment, [])
        Trial.heldThenPrinted).2 =
        [some .pending, some .processing, some .processingStopped, some .completed] := by
      decide +kernel
    have hrun : (exec Trial.watchedJob Trial.single (boot Trial.deployment, [])
        Trial.heldThenPrinted).isSome = true := by decide +kernel
    have h := job_life true (run_endOf_pair hrun) (by decide +kernel)
    rw [hseen] at h
    exact (h.2 rfl).2 (by decide +kernel)
  · have hseen : (endOf Trial.watchedJob Trial.single (boot Trial.deployment, [])
        Trial.canceledThenSent).2 =
        [some .pending, some .canceled, some .processing, some .canceled] := by
      decide +kernel
    have hrun : (exec Trial.watchedJob Trial.single (boot Trial.deployment, [])
        Trial.canceledThenSent).isSome = true := by decide +kernel
    have h := job_life true (run_endOf_pair hrun) (by decide +kernel)
    rw [hseen] at h
    exact h.1

/-! ## 4. Nothing is lost -/

/-- It is the same job, later: what identifies it is unchanged, and a cancel flag stays set. -/
structure JobRecord.GoesOn (j j' : JobRecord) : Prop where
  id : j'.id = j.id
  printerName : j'.printerName = j.printerName
  owner : j'.owner = j.owner
  createdAt : j'.createdAt = j.createdAt
  cancelFlag : j.cancelFlag = true → j'.cancelFlag = true

section GoesOn

variable {o : Options} {s s' t : System} {a : Action} {ev tr : List Event} {k : Nat}
  {j j' j'' : JobRecord}

theorem JobRecord.GoesOn.refl (j : JobRecord) : j.GoesOn j := ⟨rfl, rfl, rfl, rfl, fun hf => hf⟩

theorem JobRecord.GoesOn.trans (h : j.GoesOn j') (h' : j'.GoesOn j'') : j.GoesOn j'' where
  id := h'.id.trans h.id
  printerName := h'.printerName.trans h.printerName
  owner := h'.owner.trans h.owner
  createdAt := h'.createdAt.trans h.createdAt
  cancelFlag := fun hf => h'.cancelFlag (h.cancelFlag hf)

theorem withCancel_goesOn (now : SystemTime) (j : JobRecord) : j.GoesOn (j.withCancel now) := by
  unfold JobRecord.withCancel
  split
  · exact .refl j
  · exact ⟨rfl, rfl, rfl, rfl, fun _ => rfl⟩

theorem JobChange.goesOn (h : JobChange s a k j j') : j.GoesOn j' := by
  cases h with
  | same => exact .refl j
  | canceled now => exact withCancel_goesOn now j
  | worked i now w op =>
      cases op with
      | setState state => exact ⟨rfl, rfl, rfl, rfl, fun hf => hf⟩
      | setFailure reasons message => exact ⟨rfl, rfl, rfl, rfl, fun hf => hf⟩
      | cancel => exact withCancel_goesOn now j

/-- **No job is removed, and none becomes another**: between any two states of a run, every job is
    still at its place, with its id, printer, owner and time of creation, and its cancel flag set if
    it was. -/
theorem jobs_continue {G : System → Action → Prop} (h : Run (server o) G s tr t)
    (hk : s.app.jobs.jobs[k]? = some j) : ∃ j', t.app.jobs.jobs[k]? = some j' ∧ j.GoesOn j' := by
  refine Run.always (I := fun t => ∃ j', t.app.jobs.jobs[k]? = some j' ∧ j.GoesOn j') ?_ ?_ h
  · exact ⟨j, hk, .refl j⟩
  · intro t a t' ev ⟨j', hk', hj⟩ _ hs
    obtain ⟨j'', hk'', hc⟩ := (step_jobs hs).change hk'
    exact ⟨j'', hk'', hj.trans hc.goesOn⟩

end GoesOn

/-- The first job, before and after another user cancels his own. -/
theorem jobs_continue_shared :
    ∃ j', (endOf (server Trial.options) anyStep
        (endOf (server Trial.options) anyStep (boot Trial.deployment) [Trial.post "p" Trial.print])
        [Trial.post "p" Trial.create, Trial.post "p" Trial.cancelMine]).app.jobs.jobs[0]? =
          some j' ∧
      ((JobRegistry.new.create Trial.clock.now "p" "ann").1).GoesOn j' :=
  jobs_continue (run_endOf (by decide +kernel)) (by decide +kernel)

end IppPrinterApp
