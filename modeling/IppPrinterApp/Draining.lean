/-
  File:      IppPrinterApp/Draining.lean
  Subject:   A server that gets no more input comes to rest.

  Workers, the poller, media requests and cancels go on by themselves. Without new requests, forms
  and poll ticks each has a bounded way to its end; only a device that is unavailable lengthens
  one, by a held job's wait.

  * `System.work` -- what is left to do, every party's remaining accesses at most;
  * `step_work` -- a step without input lowers it, but for what an unavailable device adds;
  * `atRest_iff` -- a server can go on without input unless it is at rest;
  * `server_drains`: after a run of any length, the steps without input are bounded, in whatever
    order, and where none is possible everything is done.
-/
import IppPrinterApp.Accounts
import IppPrinterApp.Retries
import IppPrinterApp.Sleeps

namespace IppPrinterApp

open Transition Flow

/-! ## 1. What is left to do -/

/-- The accesses a worker has left, its callback's return for one; `backoff` is how long it waits
    if its job is held. -/
def WorkerPc.work (backoff : Duration) : WorkerPc → Nat
  | markPrinter => 15
  | markJob => 14
  | loopHead => 13
  | call => 12
  | printing => 11
  | completedReasons => 10
  | completedIdle => 9
  | completedCheck => 8
  | completedState => 7
  | failedReasons _ => 9
  | failedIdle _ => 8
  | failedState _ => 7
  | heldReasons _ => 16 + slices backoff
  | heldState => 15 + slices backoff
  | wait left => 14 + slices left
  | exitCheck => 6
  | cancelReasons => 5
  | cancelIdle => 4
  | cancelJob => 3
  | snapshot => 2
  | save _ => 1
  | done => 0

def Worker.work (w : Worker) : Nat := w.pc.work w.backoff

/-- The accesses and answers the poller has left in its round. -/
def PollerPc.work : PollerPc → Nat
  | waiting => 0
  | next todo _ => 4 * todo.length + 3
  | polling _ todo _ => 4 * todo.length + 6
  | write _ _ todo _ => 4 * todo.length + 5
  | advert _ _ _ todo _ => 4 * todo.length + 4
  | snapshot => 2
  | save _ => 1

def MediaTask.work (t : MediaTask) : Nat :=
  match t.pc with
  | .hook _ => 4
  | .write => 3
  | .snapshot _ => 2
  | .save _ _ => 1
  | .done => 0

def CancelTask.work (t : CancelTask) : Nat := t.todo.length + 1

/-- **What is left to do**: a device that was asked to identify itself has to return. -/
def System.work (s : System) : Nat :=
  Pool.stock Worker.work s.workers + Pool.stock CancelTask.work s.cancels + s.identifies.length +
    s.poller.work + Pool.stock MediaTask.work s.media

/-- What an event adds to it: an unavailable device costs the wait of a held job, at most the
    slices of `BACKOFF_MAX`, and a round more. -/
def Event.adds : Event → Nat
  | .outcome _ (.deviceUnavailable _) => slices BACKOFF_MAX + 6
  | _ => 0

/-- New input: a request, a form, a poll that is due. -/
def Action.isInput : Action → Bool
  | .request .. => true
  | .mediaPost .. => true
  | .pollTick => true
  | _ => false

/-- No worker waits longer than `BACKOFF_MAX`. -/
def BackoffsCapped (ws : List Worker) : Prop := ∀ w ∈ ws, w.backoff ≤ BACKOFF_MAX

theorem slices_mono {d d' : Duration} (h : d ≤ d') : slices d ≤ slices d' :=
  Nat.div_le_div_right (Nat.sub_le_sub_right (Nat.add_le_add_right h SLICE) 1)

section Work

variable {o : Options} {s s' : System} {a : Action} {ev tr : List Event}

/-- **A worker's access is one less.** -/
theorem Worker.next_work {retryMs : Option String} {canceled : Bool}
    {current : List PrinterConfig} {w w' : Worker}
    (h : w.next retryMs canceled current = some w') : w'.work + 1 ≤ w.work := by
  obtain ⟨task, pc, backoff⟩ := w
  cases pc with
  | wait left =>
      dsimp only [Worker.next, sleepCancelable] at h
      by_cases hl : left > 0
      · rw [if_pos hl] at h
        have hnap : slices (left - min left SLICE) + 1 = slices left := slices_nap hl
        cases canceled with
        | true =>
            cases h
            show 6 + 1 ≤ 14 + slices left
            omega
        | false =>
            cases h
            show 14 + slices (left - min left SLICE) + 1 ≤ 14 + slices left
            omega
      · rw [if_neg hl] at h
        cases canceled with
        | true =>
            cases h
            show 6 + 1 ≤ 14 + slices left
            omega
        | false =>
            cases h
            show 13 + 1 ≤ 14 + slices left
            omega
  | loopHead => cases h; cases canceled <;> simp [Worker.work, WorkerPc.work]
  | completedCheck => cases h; cases canceled <;> simp [Worker.work, WorkerPc.work]
  | exitCheck => cases h; cases canceled <;> simp [Worker.work, WorkerPc.work]
  | heldReasons reasons =>
      cases h
      show 15 + slices backoff + 1 ≤ 16 + slices backoff
      omega
  | heldState =>
      cases h
      show 14 + slices backoff + 1 ≤ 15 + slices backoff
      omega
  | printing => cases h
  | done => cases h
  | _ => cases h; simp [Worker.work, WorkerPc.work]

theorem Worker.next_backoff {retryMs : Option String} {canceled : Bool}
    {current : List PrinterConfig} {w w' : Worker}
    (h : w.next retryMs canceled current = some w') (hb : w.backoff ≤ BACKOFF_MAX) :
    w'.backoff ≤ BACKOFF_MAX := by
  obtain ⟨task, pc, backoff⟩ := w
  cases pc with
  | markJob => cases h; exact Nat.min_le_right _ _
  | wait left =>
      dsimp only [Worker.next] at h
      split at h <;> cases h
      · exact hb
      · exact hb
      · exact Nat.min_le_right _ _
  | printing => cases h
  | done => cases h
  | _ => cases h; exact hb

/-- The return of a callback is one less, but for an unavailable device. -/
theorem outcome_work (w : Worker) (hp : w.pc = .printing) (hb : w.backoff ≤ BACKOFF_MAX)
    (out : JobOutcome) : ({ w with pc := .ofOutcome out } : Worker).work + 1 ≤
      w.work + (Event.outcome w.task.slot out).adds := by
  obtain ⟨task, pc, backoff⟩ := w
  cases hp
  have hs : slices backoff ≤ slices BACKOFF_MAX := slices_mono hb
  cases out with
  | completed => exact Nat.le_refl _
  | failed f => exact Nat.le_succ _
  | deviceUnavailable reasons =>
      show 16 + slices backoff + 1 ≤ 11 + (slices BACKOFF_MAX + 6)
      omega

/-- **The poller's access is one less.** -/
theorem PollerPc.step_work {advertised : Bool} {printers : PrinterRegistry} {pc pc' : PollerPc}
    (h : pc.step advertised printers = some pc') : pc'.work + 1 ≤ pc.work := by
  cases pc with
  | waiting => cases h
  | next todo changed =>
      cases todo with
      | nil =>
          cases h
          cases changed <;> simp [PollerPc.work]
      | cons cfg todo =>
          cases h
          show 4 * todo.length + 6 + 1 ≤ 4 * (todo.length + 1) + 3
          omega
  | polling => cases h
  | write => cases h; exact Nat.le_refl _
  | advert => cases h; exact Nat.le_refl _
  | snapshot => cases h; exact Nat.le_refl _
  | save => cases h; exact Nat.le_refl _

theorem MediaTask.step_work {t t' : MediaTask} {printers : PrinterRegistry} {page : Option Page}
    (h : t.step printers = some (t', page)) : t'.work + 1 ≤ t.work + 0 := by
  unfold MediaTask.work
  rcases MediaTask.step_cases h with ⟨hp, _, _, _, rfl, _⟩ | ⟨hp, _, rfl, _⟩ |
    ⟨_, _, hp, rfl, _⟩ | ⟨_, _, _, hp, rfl, _⟩
  · rw [hp]
  · rw [hp]
    exact Nat.le_add_left 1 2
  · rw [hp]
  · rw [hp]

theorem MediaTask.answered_work {t t' : MediaTask} {refusal : Option String} {page : Option Page}
    (h : t.answered refusal = some (t', page)) : t'.work + 1 ≤ t.work + 0 := by
  unfold MediaTask.work
  obtain ⟨record, hp, ⟨_, rfl, _⟩ | ⟨_, _, rfl, _⟩⟩ := MediaTask.answered_cases h
  · rw [hp]
  · rw [hp]
    exact Nat.le_add_left 1 3

/-- **A step without input** is one less to do, but for what its events add. -/
theorem step_work (hb : BackoffsCapped s.workers) (ha : a.isInput = false)
    (h : step o s a = some (s', ev)) : s'.work + 1 ≤ s.work + total Event.adds ev := by
  unfold System.work
  cases a with
  | request => cases ha
  | mediaPost => cases ha
  | pollTick => cases ha
  | worker i now =>
      obtain ⟨w, w', hw, hn, _, rfl⟩ := step_worker h
      have hone : w'.work + 1 ≤ w.work + 0 := Worker.next_work hn
      have hset := Pool.stock_set_lt hw hone
      dsimp only
      omega
  | outcome i out =>
      obtain ⟨w, hw, hp, rfl, rfl⟩ := step_outcome h
      have hset := Pool.stock_set_lt hw (outcome_work w hp (hb w (List.mem_of_getElem? hw)) out)
      rw [total_cons, total_nil]
      dsimp only
      omega
  | cancelNext i now =>
      obtain ⟨t, ht, ⟨_, todo, htodo, _, rfl⟩ | ⟨_, rfl, _⟩⟩ := step_cancelNext h
      · have hone : CancelTask.work { t with todo } + 1 ≤ t.work + 0 := by
          unfold CancelTask.work
          rw [htodo]
          exact Nat.le_refl _
        have hset := Pool.stock_set_lt ht hone
        dsimp only
        omega
      · have herase := Pool.stock_eraseIdx CancelTask.work ht
        have hpos : 0 < t.work := Nat.succ_pos _
        dsimp only
        omega
  | identified i =>
      obtain ⟨t, ht, rfl, _⟩ := step_identified h
      have hlt : i < s.identifies.length := (List.getElem?_eq_some_iff.mp ht).1
      have herase : (s.identifies.eraseIdx i).length = s.identifies.length - 1 :=
        List.length_eraseIdx_of_lt hlt
      dsimp only
      omega
  | pollAnswer status =>
      obtain ⟨cfg, todo, changed, pc, hp, _, rfl, hor⟩ := step_pollAnswer h
      have hone : pc.work + 1 ≤ s.poller.work := by
        rw [hp]
        rcases hor with ⟨_, rfl⟩ | ⟨_, _, rfl⟩ <;> simp [PollerPc.work]
      dsimp only
      omega
  | poll =>
      obtain ⟨pc, hpc, _, rfl⟩ := step_poll h
      have hone := PollerPc.step_work hpc
      dsimp only
      omega
  | mediaAnswer i refusal =>
      obtain ⟨t, t', page, ht, ha', rfl⟩ := step_mediaAnswer h
      have hset := Pool.stock_set_lt ht (MediaTask.answered_work ha')
      dsimp only
      omega
  | media i =>
      obtain ⟨t, t', page, ht, hs, rfl⟩ := step_media h
      have hset := Pool.stock_set_lt ht (MediaTask.step_work hs)
      dsimp only
      omega

/-- The cap is kept by every step. -/
theorem step_backoffs (hb : BackoffsCapped s.workers) (h : step o s a = some (s', ev)) :
    BackoffsCapped s'.workers := by
  have hj := step_jobs h
  generalize s'.app.jobs = g at hj
  generalize s'.workers = ws at hj ⊢
  cases hj with
  | same => exact hb
  | request _ _ _ _ _ _ spawned =>
      intro w hw
      rcases List.mem_append.mp hw with hw | hw
      · exact hb w hw
      · rw [Option.mem_toList] at hw
        obtain ⟨task, _, rfl⟩ := Option.map_eq_some_iff.mp hw
        exact Nat.zero_le _
  | canceled => exact hb
  | worked i now w w' hw hn =>
      intro u hu
      rcases Pool.mem_set hu with hu | rfl
      · exact hb u hu
      · exact Worker.next_backoff hn (hb w (List.mem_of_getElem? hw))
  | returned i out w hw hp =>
      intro u hu
      rcases Pool.mem_set hu with hu | rfl
      · exact hb u hu
      · exact hb w (List.mem_of_getElem? hw)

theorem run_backoffs {G : System → Action → Prop} {d : Deployment}
    (h : Run (server o) G (boot d) tr s) : BackoffsCapped s.workers :=
  Run.always (I := fun s => BackoffsCapped s.workers) (fun _ hw => absurd hw List.not_mem_nil)
    (fun _ _ _ _ hb _ hs => step_backoffs hb hs) h

/-! ## 2. At rest -/

/-- Everything is done: nobody prints, waits, polls, loads, cancels or is to identify itself. -/
structure System.AtRest (s : System) : Prop where
  workers : ∀ w ∈ s.workers, w.pc = .done
  cancels : s.cancels = []
  identifies : s.identifies = []
  poller : s.poller = .waiting
  media : ∀ t ∈ s.media, t.pc = .done

theorem PollerPc.step_isSome {advertised : Bool} {printers : PrinterRegistry} {pc : PollerPc}
    (hw : pc ≠ .waiting) (hp : ∀ cfg todo changed, pc ≠ .polling cfg todo changed) :
    (pc.step advertised printers).isSome = true := by
  cases pc with
  | waiting => exact absurd rfl hw
  | polling cfg todo changed => exact absurd rfl (hp cfg todo changed)
  | next todo changed => cases todo <;> rfl
  | _ => rfl

theorem MediaTask.step_isSome {t : MediaTask} {printers : PrinterRegistry} (hd : t.pc ≠ .done)
    (hh : ∀ record, t.pc ≠ .hook record) : (t.step printers).isSome = true := by
  unfold MediaTask.step
  cases hp : t.pc with
  | hook record => exact absurd hp (hh record)
  | done => exact absurd hp hd
  | write =>
      dsimp only
      split <;> rfl
  | _ => rfl

theorem worker_enabled {i : Nat} {now : SystemTime} {w : Worker} (hi : s.workers[i]? = some w)
    (hd : w.pc ≠ .done) (hp : w.pc ≠ .printing) : step o s (.worker i now) ≠ none := by
  obtain ⟨w', hn⟩ := Worker.next_isSome o.retryMs (s.app.jobs.isCanceled w.task.slot)
    (configs s.app.printers) hp hd
  change workerStep o s i now ≠ none
  unfold workerStep
  rw [hi]
  dsimp only
  rw [hn]
  nofun

theorem outcome_enabled {i : Nat} {out : JobOutcome} {w : Worker} (hi : s.workers[i]? = some w)
    (hp : w.pc = .printing) : step o s (.outcome i out) ≠ none := by
  change outcomeStep s i out ≠ none
  unfold outcomeStep
  rw [hi]
  dsimp only
  rw [if_pos hp]
  nofun

theorem cancel_enabled {i : Nat} {now : SystemTime} {t : CancelTask}
    (hi : s.cancels[i]? = some t) : step o s (.cancelNext i now) ≠ none := by
  change cancelStep o s i now ≠ none
  unfold cancelStep
  rw [hi]
  dsimp only
  split <;> nofun

theorem identified_enabled {i : Nat} {t : IdentifyTask} (hi : s.identifies[i]? = some t) :
    step o s (.identified i) ≠ none := by
  change identifiedStep o s i ≠ none
  unfold identifiedStep
  rw [hi]
  nofun

theorem media_enabled {i : Nat} {t : MediaTask} (hi : s.media[i]? = some t) (hd : t.pc ≠ .done)
    (hh : ∀ record, t.pc ≠ .hook record) : step o s (.media i) ≠ none := by
  have hsome : (t.step s.app.printers).isSome = true := MediaTask.step_isSome hd hh
  obtain ⟨r, hs⟩ := Option.isSome_iff_exists.mp hsome
  change mediaStep s i ≠ none
  unfold mediaStep
  rw [hi]
  dsimp only
  rw [hs]
  nofun

theorem hook_enabled {i : Nat} {t : MediaTask} {record : PrinterRecord}
    (hi : s.media[i]? = some t) (hh : t.pc = .hook record) :
    step o s (.mediaAnswer i none) ≠ none := by
  change mediaAnswerStep s i none ≠ none
  unfold mediaAnswerStep MediaTask.answered
  rw [hi]
  dsimp only
  rw [hh]
  nofun

theorem poll_enabled (hw : s.poller ≠ .waiting)
    (hp : ∀ cfg todo changed, s.poller ≠ .polling cfg todo changed) : step o s .poll ≠ none := by
  have hsome : (s.poller.step s.adverts.isSome s.app.printers).isSome = true :=
    PollerPc.step_isSome hw hp
  obtain ⟨pc, hs⟩ := Option.isSome_iff_exists.mp hsome
  change pollStep s ≠ none
  unfold pollStep
  rw [hs]
  nofun

theorem pollAnswer_enabled {cfg : PrinterConfig} {todo : List PrinterConfig} {changed : Bool}
    (hp : s.poller = .polling cfg todo changed) : step o s (.pollAnswer none) ≠ none := by
  change (s.poller.answered none).map _ ≠ none
  rw [hp]
  nofun

/-- A server that cannot go on without input is at rest. -/
theorem atRest_of_stuck (hstuck : ∀ a : Action, a.isInput = false → step o s a = none) :
    s.AtRest := by
  constructor
  · intro w hw
    obtain ⟨i, hi⟩ := List.mem_iff_getElem?.mp hw
    by_contra hd
    by_cases hp : w.pc = .printing
    · exact outcome_enabled hi hp (hstuck (.outcome i .completed) rfl)
    · exact worker_enabled hi hd hp (hstuck (.worker i 0) rfl)
  · refine List.eq_nil_iff_forall_not_mem.mpr fun t ht => ?_
    obtain ⟨i, hi⟩ := List.mem_iff_getElem?.mp ht
    exact cancel_enabled hi (hstuck (.cancelNext i 0) rfl)
  · refine List.eq_nil_iff_forall_not_mem.mpr fun t ht => ?_
    obtain ⟨i, hi⟩ := List.mem_iff_getElem?.mp ht
    exact identified_enabled hi (hstuck (.identified i) rfl)
  · by_contra hw
    by_cases hp : ∃ cfg todo changed, s.poller = .polling cfg todo changed
    · obtain ⟨cfg, todo, changed, hp⟩ := hp
      exact pollAnswer_enabled hp (hstuck (.pollAnswer none) rfl)
    · exact poll_enabled hw (fun cfg todo changed e => hp ⟨cfg, todo, changed, e⟩)
        (hstuck .poll rfl)
  · intro t ht
    obtain ⟨i, hi⟩ := List.mem_iff_getElem?.mp ht
    by_contra hd
    by_cases hh : ∃ record, t.pc = .hook record
    · obtain ⟨record, hh⟩ := hh
      exact hook_enabled hi hh (hstuck (.mediaAnswer i none) rfl)
    · exact media_enabled hi hd (fun record e => hh ⟨record, e⟩) (hstuck (.media i) rfl)

/-- At rest, nobody has a step to take. -/
theorem stuck_of_atRest (hrest : s.AtRest) (ha : a.isInput = false) : step o s a = none := by
  refine Option.eq_none_iff_forall_not_mem.mpr fun ⟨s', ev⟩ h => ?_
  cases a with
  | request => cases ha
  | mediaPost => cases ha
  | pollTick => cases ha
  | worker i now =>
      obtain ⟨w, w', hw, hn, _⟩ := step_worker h
      unfold Worker.next at hn
      rw [hrest.workers w (List.mem_of_getElem? hw)] at hn
      cases hn
  | outcome i out =>
      obtain ⟨w, hw, hp, _⟩ := step_outcome h
      cases hp.symm.trans (hrest.workers w (List.mem_of_getElem? hw))
  | cancelNext i now =>
      obtain ⟨t, ht, _⟩ := step_cancelNext h
      rw [hrest.cancels] at ht
      cases ht
  | identified i =>
      obtain ⟨t, ht, _⟩ := step_identified h
      rw [hrest.identifies] at ht
      cases ht
  | pollAnswer status =>
      obtain ⟨_, _, _, _, hp, _⟩ := step_pollAnswer h
      cases hp.symm.trans hrest.poller
  | poll =>
      obtain ⟨pc, hpc, _⟩ := step_poll h
      rw [hrest.poller] at hpc
      cases hpc
  | mediaAnswer i refusal =>
      obtain ⟨t, t', page, ht, ha', _⟩ := step_mediaAnswer h
      obtain ⟨record, hp, _⟩ := MediaTask.answered_cases ha'
      cases hp.symm.trans (hrest.media t (List.mem_of_getElem? ht))
  | media i =>
      obtain ⟨t, t', page, ht, hs, _⟩ := step_media h
      exact MediaTask.step_pc_ne hs (hrest.media t (List.mem_of_getElem? ht))

/-- **A server can go on without input unless everything is done**, and then it cannot. -/
theorem atRest_iff : (∀ a : Action, a.isInput = false → step o s a = none) ↔ s.AtRest :=
  ⟨atRest_of_stuck, fun hrest _ ha => stuck_of_atRest hrest ha⟩

/-! ## 3. The server drains -/

/-- **Without input the server comes to rest**: from any state it may be in, and in whatever order
    the others move, the steps are bounded by what was left to do and what unavailable devices
    added to it; and a state in which no step is possible is one in which everything is done. -/
theorem server_drains {d : Deployment} {tr₀ : List Event} {s₀ : System} {n : Nat}
    (h₀ : Run (server o) anyStep (boot d) tr₀ s₀)
    (h : Run (counted (server o)) (fun _ a => a.isInput = false) (s₀, 0) tr (s, n)) :
    n + s.work ≤ s₀.work + total Event.adds tr ∧
      ((∀ a : Action, a.isInput = false → step o s a = none) ↔ s.AtRest) :=
  ⟨run_bounded (G := fun _ (a : Action) => a.isInput = false)
    (I := fun s => BackoffsCapped s.workers) (run_backoffs h₀)
    (fun _ _ _ _ hb ha hs => ⟨step_backoffs hb hs, step_work hb ha hs⟩) h, atRest_iff⟩

end Work

namespace Trial

/-- A print, a Cancel-My-Jobs of the other user and an Identify-Printer, just arrived. -/
def arrived : List Action := [post "p" print, post "p" cancelMine, post "q" identify]

/-- The worker prints, the device is unavailable once, the cancel finds its job, and the other
    device has identified itself. -/
def drain : List Action :=
  times 4 (.worker 0 0) ++ [.outcome 0 (.deviceUnavailable .OFFLINE)] ++ times 3 (.worker 0 0) ++
    times 2 (.cancelNext 0 0) ++ [.identified 0] ++ times 6 (.worker 0 0)

end Trial

theorem server_drains_held :
    (endOf (counted (server Trial.options)) (fun _ a => a.isInput = false)
        (endOf (server Trial.options) anyStep (boot Trial.deployment) Trial.arrived, 0)
        Trial.drain).2 +
      (endOf (counted (server Trial.options)) (fun _ a => a.isInput = false)
        (endOf (server Trial.options) anyStep (boot Trial.deployment) Trial.arrived, 0)
        Trial.drain).1.work ≤
      (endOf (server Trial.options) anyStep (boot Trial.deployment) Trial.arrived).work +
        total Event.adds (traceOf (counted (server Trial.options)) (fun _ a => a.isInput = false)
          (endOf (server Trial.options) anyStep (boot Trial.deployment) Trial.arrived, 0)
          Trial.drain) :=
  (server_drains (run_endOf (by decide +kernel)) (run_endOf_pair (by decide +kernel))).1

end IppPrinterApp
