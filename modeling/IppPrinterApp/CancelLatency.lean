/-
  File:      IppPrinterApp/CancelLatency.lean
  Subject:   What a cancel stops, and how soon.

  A cancel sets the flag of its job, and no step clears it. Workers read the flag at a few places
  only, so a cancel stops nothing at once: a worker past its check still calls the callback, and
  one whose job is held still has its slice to sleep.

  * `step_isCanceled` -- a flag that is set stays set;
  * `canceled_job_calls`: from then on, the callback is called for the job exactly by the workers
    that had passed their check, once each, and never again;
  * `canceled_worker_exits`: and every worker of the job, also one spawned later, exits within
    eleven moves of its own, whatever the device answers.
-/
import IppPrinterApp.Draining

namespace IppPrinterApp

open Transition Flow

/-! ## 1. The flag stays -/

theorem JobRecord.withCancel_flag {j : JobRecord} (hf : j.cancelFlag = true) (now : SystemTime) :
    (j.withCancel now).cancelFlag = true := by
  unfold JobRecord.withCancel
  split
  · exact hf
  · rfl

section Flag

variable {o : Options} {s s' : System} {a : Action} {ev tr : List Event} {k : Nat}

theorem JobChange.flag {j j' : JobRecord} (h : JobChange s a k j j') (hf : j.cancelFlag = true) :
    j'.cancelFlag = true := by
  cases h with
  | same => exact hf
  | canceled now => exact JobRecord.withCancel_flag hf now
  | worked i now w op =>
      cases op with
      | setState state => exact hf
      | setFailure reasons message => exact hf
      | cancel => exact JobRecord.withCancel_flag hf now

/-- **A flag that is set stays set.** -/
theorem step_isCanceled (h : step o s a = some (s', ev)) (hf : s.app.jobs.isCanceled k = true) :
    s'.app.jobs.isCanceled k = true := by
  cases hk : s.app.jobs.jobs[k]? with
  | none =>
      unfold JobRegistry.isCanceled at hf
      rw [hk] at hf
      cases hf
  | some j =>
      rw [JobRegistry.isCanceled_eq hk] at hf
      obtain ⟨j', hk', hc⟩ := (step_jobs h).change hk
      rw [JobRegistry.isCanceled_eq hk']
      exact hc.flag hf

/-- Other actions than a worker's own leave the workers alone, but for a new one. -/
theorem step_workers_other (h : step o s a = some (s', ev)) (hw : ∀ i now, a ≠ .worker i now)
    (ho : ∀ i out, a ≠ .outcome i out) :
    ∃ spawned : Option PrintTask,
      s'.workers = s.workers ++ (spawned.map PrintTask.spawn).toList := by
  have hj := step_jobs h
  generalize s'.app.jobs = g at hj
  generalize s'.workers = ws at hj ⊢
  cases hj with
  | same => exact ⟨none, (List.append_nil _).symm⟩
  | request _ _ _ _ _ _ spawned => exact ⟨spawned, rfl⟩
  | canceled => exact ⟨none, (List.append_nil _).symm⟩
  | worked i now => exact absurd rfl (hw i now)
  | returned i out => exact absurd rfl (ho i out)

end Flag

/-! ## 2. The last calls -/

/-- The worker is past its check: its next access is the call. -/
def Worker.committed (k : Nat) (w : Worker) : Nat :=
  if w.pc = .call ∧ w.task.slot = k then 1 else 0

/-- The workers of a job that are past their check. -/
def System.committed (k : Nat) (s : System) : Nat := Pool.stock (Worker.committed k) s.workers

/-- The callback is called for the job at a position. -/
def Event.callsJob (k : Nat) : Event → Nat
  | .printJob ctx _ _ => if ctx.slot = k then 1 else 0
  | _ => 0

section Calls

variable {o : Options} {s s' : System} {a : Action} {ev tr : List Event} {k : Nat}

theorem Worker.committed_of_pc {w : Worker} (h : w.pc ≠ .call) : w.committed k = 0 :=
  if_neg fun hc => h hc.1

theorem Worker.events_of_pc {w : Worker} (h : w.pc ≠ .call) : w.events = [] := by
  unfold Worker.events
  split
  · rename_i hp
    exact absurd hp h
  · rfl

theorem Worker.events_call {w : Worker} (h : w.pc = .call) :
    w.events = [.printJob w.task.context w.task.payload w.task.copies] := by
  unfold Worker.events
  rw [h]

/-- A worker comes to its call from the top of the loop only, and finds its flag unset there. -/
theorem Worker.next_call {retryMs : Option String} {canceled : Bool}
    {current : List PrinterConfig} {w w' : Worker}
    (h : w.next retryMs canceled current = some w') (hpc : w'.pc = .call) : canceled = false := by
  obtain ⟨task, pc, backoff⟩ := w
  cases pc with
  | loopHead =>
      cases h
      cases canceled with
      | true => cases hpc
      | false => rfl
  | wait left =>
      rcases Worker.next_wait rfl h with ⟨_, e⟩ | ⟨_, ⟨_, e⟩ | e⟩ <;> cases hpc.symm.trans e
  | completedCheck => cases h; cases canceled <;> cases hpc
  | exitCheck => cases h; cases canceled <;> cases hpc
  | printing => cases h
  | done => cases h
  | _ => cases h; cases hpc

/-- **A worker's access under a set flag**: a call is one call less to come. -/
theorem Worker.next_committed {retryMs : Option String} {canceled : Bool}
    {current : List PrinterConfig} {w w' : Worker}
    (h : w.next retryMs canceled current = some w') (hf : w.task.slot = k → canceled = true) :
    total (Event.callsJob k) w.events + w'.committed k = w.committed k + 0 := by
  have htask := Worker.next_task h
  have hnew : w'.committed k = 0 := by
    refine if_neg fun ⟨hpc, hslot⟩ => ?_
    rw [htask] at hslot
    rw [Worker.next_call h hpc] at hf
    exact absurd (hf hslot) nofun
  rw [hnew, Nat.add_zero, Nat.add_zero]
  by_cases hpc : w.pc = .call
  · rw [Worker.events_call hpc, total_cons, total_nil, Nat.add_zero]
    unfold Worker.committed
    exact if_congr (and_iff_right hpc).symm rfl rfl
  · rw [Worker.events_of_pc hpc, Worker.committed_of_pc hpc]
    rfl

/-- One step: what is called for a canceled job was to be called. -/
theorem step_committed (hf : s.app.jobs.isCanceled k = true)
    (h : step o s a = some (s', ev)) :
    total (Event.callsJob k) ev + s'.committed k = s.committed k + 0 := by
  have hother : (∀ i now, a ≠ .worker i now) → ∀ e ∈ ev, e.callsJob k = 0 := by
    intro hw e he
    cases step_event h he with
    | printJob i now => exact absurd rfl (hw i now)
    | _ => rfl
  by_cases hw : ∃ i now, a = .worker i now
  · obtain ⟨i, now, rfl⟩ := hw
    obtain ⟨w, w', hi, hn, rfl, rfl⟩ := step_worker h
    refine Pool.stock_move (Worker.committed k) hi (Worker.next_committed hn fun hk => ?_)
    rw [hk]
    exact hf
  · have hw' : ∀ i now, a ≠ .worker i now := fun i now e => hw ⟨i, now, e⟩
    rw [total_zero (hother hw'), Nat.zero_add, Nat.add_zero]
    by_cases ho : ∃ i out, a = .outcome i out
    · obtain ⟨i, out, rfl⟩ := ho
      obtain ⟨w, hi, hp, _, rfl⟩ := step_outcome h
      have hold : w.committed k = 0 := Worker.committed_of_pc (by rw [hp]; nofun)
      refine Pool.stock_set_same (Worker.committed k) _ hi (Eq.trans ?_ hold.symm)
      cases out <;> exact Worker.committed_of_pc nofun
    · obtain ⟨spawned, hs⟩ := step_workers_other h hw' fun i out e => ho ⟨i, out, e⟩
      unfold System.committed
      rw [hs, Pool.stock_append]
      cases spawned with
      | none => rfl
      | some task => rfl

/-- **A canceled job is called for no more**, but by the workers that were past their check when
    its flag was set, and by each of these once. -/
theorem canceled_job_calls {G : System → Action → Prop} {s₀ : System}
    (hf : s₀.app.jobs.isCanceled k = true) (h : Run (server o) G s₀ tr s) :
    total (Event.callsJob k) tr + s.committed k = s₀.committed k := by
  suffices hinv : s.app.jobs.isCanceled k = true ∧
      total (Event.callsJob k) tr + s.committed k = s₀.committed k from hinv.2
  refine Run.invariant (I := fun tr s => s.app.jobs.isCanceled k = true ∧
    total (Event.callsJob k) tr + s.committed k = s₀.committed k) ?_ ?_ h
  · exact ⟨hf, Nat.zero_add _⟩
  · intro tr s a s' ev ⟨hf, he⟩ _ hs
    refine ⟨step_isCanceled hs hf, ?_⟩
    have hone := step_committed hf hs
    rw [total_append]
    omega

end Calls

/-- A job that is canceled while its worker stands before the call, and is sent a document more. -/
theorem canceled_job_calls_last :
    total (Event.callsJob 0) (traceOf (server Trial.options) anyStep
        (endOf (server Trial.options) anyStep (boot Trial.deployment)
          ([Trial.post "p" Trial.print] ++ Trial.times 3 (.worker 0 0) ++
            [Trial.post "p" Trial.cancel]))
        ([Trial.post "p" Trial.send] ++ Trial.times 3 (.worker 1 0) ++ [.worker 0 0])) +
      (endOf (server Trial.options) anyStep
        (endOf (server Trial.options) anyStep (boot Trial.deployment)
          ([Trial.post "p" Trial.print] ++ Trial.times 3 (.worker 0 0) ++
            [Trial.post "p" Trial.cancel]))
        ([Trial.post "p" Trial.send] ++ Trial.times 3 (.worker 1 0) ++
          [.worker 0 0])).committed 0 =
      (endOf (server Trial.options) anyStep (boot Trial.deployment)
        ([Trial.post "p" Trial.print] ++ Trial.times 3 (.worker 0 0) ++
          [Trial.post "p" Trial.cancel])).committed 0 :=
  canceled_job_calls (by decide +kernel) (run_endOf (by decide +kernel))

/-! ## 3. The way out -/

/-- The moves a worker of a canceled job has left, its callback's return for one. -/
def WorkerPc.exitWork : WorkerPc → Nat
  | call => 11
  | printing => 10
  | markPrinter => 9
  | completedReasons => 9
  | failedReasons _ => 9
  | heldReasons _ => 9
  | markJob => 8
  | completedIdle => 8
  | failedIdle _ => 8
  | heldState => 8
  | loopHead => 7
  | completedCheck => 7
  | completedState => 7
  | failedState _ => 7
  | wait _ => 7
  | exitCheck => 6
  | cancelReasons => 5
  | cancelIdle => 4
  | cancelJob => 3
  | snapshot => 2
  | save _ => 1
  | done => 0

theorem WorkerPc.exitWork_le (pc : WorkerPc) : pc.exitWork ≤ 11 := by
  cases pc <;> simp [WorkerPc.exitWork]

/-- The action is a move of worker `i`. -/
def Action.moves (i : Nat) : Action → Bool
  | .worker j _ => j == i
  | .outcome j _ => j == i
  | _ => false

/-- The server with the moves of worker `i` counted. -/
def movesOf (o : Options) (i : Nat) : Machine (System × Nat) Action Event :=
  (server o).withHistory fun n _ a => if a.moves i then n + 1 else n

/-- Worker `i`, if it is one of the job, has made as many moves as it has fewer to make; before it
    is spawned it has made none. -/
structure Leaving (k i n : Nat) (ws : List Worker) : Prop where
  spent : ∀ w, ws[i]? = some w → w.task.slot = k → n + w.pc.exitWork ≤ 11
  unborn : ws[i]? = none → n = 0

section Exit

variable {o : Options} {s s' : System} {a : Action} {ev tr : List Event} {k i n : Nat}

/-- **A worker's access under a set flag** takes it one step nearer to its end. -/
theorem Worker.next_exitWork {retryMs : Option String} {current : List PrinterConfig}
    {w w' : Worker} (h : w.next retryMs true current = some w') :
    w'.pc.exitWork + 1 ≤ w.pc.exitWork := by
  obtain ⟨task, pc, backoff⟩ := w
  cases pc with
  | wait left =>
      rcases Worker.next_wait rfl h with ⟨_, e⟩ | ⟨hc, _⟩
      · rw [e]
        exact Nat.le_refl _
      · cases hc
  | printing => cases h
  | done => cases h
  | _ => cases h; simp [WorkerPc.exitWork]

theorem ofOutcome_exitWork (out : JobOutcome) : (WorkerPc.ofOutcome out).exitWork + 1 ≤ 10 := by
  cases out <;> exact Nat.le_refl _

/-- The move of the worker itself, and the move of another one. -/
theorem Leaving.set {ws : List Worker} {w w' : Worker} {j : Nat} (h : Leaving k i n ws)
    (hj : ws[j]? = some w) (htask : w'.task = w.task)
    (hpc : w.task.slot = k → w'.pc.exitWork + 1 ≤ w.pc.exitWork) :
    Leaving k i (if j == i then n + 1 else n) (ws.set j w') := by
  have hlt : j < ws.length := (List.getElem?_eq_some_iff.mp hj).1
  by_cases hji : j = i
  · subst hji
    rw [beq_self_eq_true, if_pos rfl]
    constructor
    · intro u hu hk
      rw [List.getElem?_set_self hlt] at hu
      cases hu
      rw [htask] at hk
      have hspent := h.spent w hj hk
      have hstep := hpc hk
      omega
    · intro hnone
      rw [List.getElem?_set_self hlt] at hnone
      cases hnone
  · rw [if_neg (by simpa using hji)]
    constructor
    · intro u hu hk
      rw [List.getElem?_set_ne hji] at hu
      exact h.spent u hu hk
    · intro hnone
      rw [List.getElem?_set_ne hji] at hnone
      exact h.unborn hnone

/-- A new worker has all its way before it. -/
theorem Leaving.spawn {ws : List Worker} (h : Leaving k i n ws) (spawned : Option PrintTask) :
    Leaving k i n (ws ++ (spawned.map PrintTask.spawn).toList) := by
  cases spawned with
  | none => rwa [Option.map_none, Option.toList_none, List.append_nil]
  | some task =>
      constructor
      · intro w hw hk
        rcases Nat.lt_trichotomy i ws.length with hlt | heq | hgt
        · rw [List.getElem?_append_left hlt] at hw
          exact h.spent w hw hk
        · have hzero := h.unborn (List.getElem?_eq_none (Nat.le_of_eq heq.symm))
          rw [hzero, Nat.zero_add]
          exact w.pc.exitWork_le
        · rw [List.getElem?_eq_none] at hw
          · cases hw
          · rw [List.length_append]
            exact hgt
      · intro hnone
        have hle := List.getElem?_eq_none_iff.mp hnone
        rw [List.length_append] at hle
        exact h.unborn (List.getElem?_eq_none (Nat.le_trans (Nat.le_add_right _ _) hle))

/-- **One step**, whoever makes it. -/
theorem step_leaving (hf : s.app.jobs.isCanceled k = true) (hl : Leaving k i n s.workers)
    (h : step o s a = some (s', ev)) :
    Leaving k i (if a.moves i then n + 1 else n) s'.workers := by
  by_cases hw : ∃ j now, a = .worker j now
  · obtain ⟨j, now, rfl⟩ := hw
    obtain ⟨w, w', hj, hn, _, rfl⟩ := step_worker h
    refine hl.set hj (Worker.next_task hn) fun hk => ?_
    rw [hk, hf] at hn
    exact Worker.next_exitWork hn
  · by_cases ho : ∃ j out, a = .outcome j out
    · obtain ⟨j, out, rfl⟩ := ho
      obtain ⟨w, hj, hp, _, rfl⟩ := step_outcome h
      refine hl.set hj rfl fun _ => ?_
      rw [hp]
      exact ofOutcome_exitWork out
    · have hnone : a.moves i = false := by
        cases a with
        | worker j now => exact absurd ⟨j, now, rfl⟩ hw
        | outcome j out => exact absurd ⟨j, out, rfl⟩ ho
        | _ => rfl
      obtain ⟨spawned, hs⟩ := step_workers_other h (fun j now e => hw ⟨j, now, e⟩)
        fun j out e => ho ⟨j, out, e⟩
      rw [hnone, hs]
      exact hl.spawn spawned

/-- **Every worker of a canceled job exits within eleven moves of its own**: counted from when the
    flag is set, whatever the device answers, whatever else goes on, and also if it is spawned
    only then. Until it has exited, it has a move to make. -/
theorem canceled_worker_exits {G : System × Nat → Action → Prop} {s₀ : System} {w : Worker}
    (hf : s₀.app.jobs.isCanceled k = true) (h : Run (movesOf o i) G (s₀, 0) tr (s, n))
    (hw : s.workers[i]? = some w) (hk : w.task.slot = k) :
    n + w.pc.exitWork ≤ 11 ∧
      (w.pc = .done ∨ ∃ a : Action, a.moves i = true ∧ step o s a ≠ none) := by
  have hinv : s.app.jobs.isCanceled k = true ∧ Leaving k i n s.workers := by
    refine Run.always (I := fun p => p.1.app.jobs.isCanceled k = true ∧
      Leaving k i p.2 p.1.workers) ?_ ?_ h
    · refine ⟨hf, fun w _ _ => ?_, fun _ => rfl⟩
      rw [Nat.zero_add]
      exact w.pc.exitWork_le
    · intro p a p' ev ⟨hf, hl⟩ _ hs
      obtain ⟨hstep, hn⟩ := step_withHistory hs
      rw [hn]
      exact ⟨step_isCanceled hstep hf, step_leaving hf hl hstep⟩
  refine ⟨hinv.2.spent w hw hk, ?_⟩
  by_cases hd : w.pc = .done
  · exact Or.inl hd
  · refine Or.inr ?_
    by_cases hp : w.pc = .printing
    · exact ⟨.outcome i .completed, beq_self_eq_true i, outcome_enabled hw hp⟩
    · exact ⟨.worker i 0, beq_self_eq_true i, worker_enabled hw hd hp⟩

end Exit

namespace Trial

/-- A print whose worker has passed its check when the job is canceled. -/
def canceledLate : System :=
  endOf (server options) anyStep (boot deployment)
    ([post "p" print] ++ times 3 (.worker 0 0) ++ [post "p" cancel])

/-- The device is unavailable, the worker notices the cancel in its wait, and exits. -/
def lateExit : List Action :=
  [.worker 0 0, .outcome 0 (.deviceUnavailable .OFFLINE)] ++ times 9 (.worker 0 0)

/-- The worker at the end of this. -/
def lateWorker : Worker :=
  ((endOf (movesOf options 0) anyStep (canceledLate, 0) lateExit).1.workers[0]?).getD
    (PrintTask.spawn ⟨"", 0, 0, [], 0, "", none⟩)

end Trial

/-- The bound is met: eleven moves, and the worker is done. -/
theorem canceled_worker_exits_late :
    (endOf (movesOf Trial.options 0) anyStep (Trial.canceledLate, 0) Trial.lateExit).2 +
        Trial.lateWorker.pc.exitWork ≤ 11 ∧
      (Trial.lateWorker.pc = .done ∨ ∃ a : Action, a.moves 0 = true ∧
        step Trial.options (endOf (movesOf Trial.options 0) anyStep (Trial.canceledLate, 0)
          Trial.lateExit).1 a ≠ none) ∧
      (endOf (movesOf Trial.options 0) anyStep (Trial.canceledLate, 0) Trial.lateExit).2 = 11 ∧
      Trial.lateWorker.pc = .done :=
  have h := canceled_worker_exits (k := 0) (w := Trial.lateWorker) (by decide +kernel)
    (run_endOf_pair (by decide +kernel)) (by decide +kernel) (by decide +kernel)
  ⟨h.1, h.2, by decide +kernel, by decide +kernel⟩

end IppPrinterApp
