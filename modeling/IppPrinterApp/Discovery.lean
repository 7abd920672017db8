/-
  File:      IppPrinterApp/Discovery.lean
  Subject:   Who is advertised while the server runs.

  The poller writes what a device answered into its record, releases the lock, and reconciles the
  advert after it; workers, requests and the media page go on in between. The advert is reconciled,
  not switched at an edge, so it does not matter what they did to the printer's state.

  * `adverts_follow_polls`: **a printer is advertised exactly if its device was reachable when it
    answered last**, and no Stopped printer is, but for the one printer whose advert is due.
-/
import IppPrinterApp.PrinterState
import IppPrinterApp.PollRound
import IppPrinterApp.Lib.Logbook

namespace IppPrinterApp

open Transition Logbook

/-! ## 1. Reports -/

/-- The report an action writes: the name it goes to, and whether the device is reachable. -/
def System.report (s : System) : Action → Option (String × Bool)
  | .poll => s.poller.printerOp.map fun e => (e.1, e.2.reachable)
  | _ => none

/-- The server with the reports so far. -/
def reporting (o : Options) : Machine (System × List (String × Bool)) Action Event :=
  (server o).withHistory fun log s a => log ++ (s.report a).toList

/-- The printer whose report is written and whose advert is due. -/
def PollerPc.advertDue : PollerPc → Option String
  | advert cfg .. => some cfg.name
  | _ => none

/-- What holds of the adverts, with the reports so far. -/
structure AdvertsHold (initial : List String) (s : System) (log : List (String × Bool))
    (names : List String) : Prop where
  adverts : s.adverts = some names
  nodup : names.Nodup
  /-- the poller's configurations are of printers that are there -/
  routed : ∀ cfg ∈ s.poller.outstanding, (findPrinter s.app.printers cfg.name).isSome = true
  follows : ∀ name, s.poller.advertDue ≠ some name →
    (name ∈ names ↔ (lastOf name log).getD (initial.contains name) = true)
  due : ∀ cfg reachable copy todo changed, s.poller = .advert cfg reachable copy todo changed →
    lastOf cfg.name log = some reachable ∧ ∃ r, copy = some r ∧ r.config.name = cfg.name
  stopped : ∀ name r, findPrinter s.app.printers name = some r → r.state = .stopped →
    lastOf name log = some false

section Adverts

variable {o : Options} {s s' : System} {a : Action} {ev tr : List Event} {names : List String}
  {log : List (String × Bool)} {initial : List String}

theorem nodup_readvertise (h : names.Nodup) (name : String) (reachable : Bool) :
    (readvertise names name reachable).Nodup := by
  unfold readvertise
  split
  · split
    · exact h
    · rename_i hc
      refine h.append (List.nodup_singleton name) fun n hn hn' => hc ?_
      rw [List.mem_singleton.mp hn'] at hn
      exact List.contains_iff_mem.mpr hn
  · split
    · exact h.filter _
    · exact h

/-- With the copy of a record of that name, the advert is reconciled to the report. -/
theorem reconcileAdvert_copy {name : String} {r : PrinterRecord} (hr : r.config.name = name)
    (reachable : Bool) : reconcileAdvert (some names) name reachable (some r) =
      some (readvertise names name reachable) := by
  subst hr
  rfl

/-- A printer is found as long as its name is there. -/
theorem step_found (h : step o s a = some (s', ev)) {name : String}
    (hf : (findPrinter s.app.printers name).isSome = true) :
    (findPrinter s'.app.printers name).isSome = true := by
  have hnames := step_names h
  unfold findPrinter at hf ⊢
  rw [List.find?_isSome] at hf ⊢
  obtain ⟨r, hr, hn⟩ := hf
  have hmem := List.mem_map_of_mem (f := fun r : PrinterRecord => r.config.name) hr
  rw [← hnames] at hmem
  obtain ⟨r', hr', e⟩ := List.mem_map.mp hmem
  exact ⟨r', hr', by rw [e]; exact hn⟩

/-- Nobody but the poller stops a printer. -/
theorem step_stopped (h : step o s a = some (s', ev)) (ha : a ≠ .poll) {name : String}
    {r : PrinterRecord} (hr : findPrinter s'.app.printers name = some r)
    (hst : r.state = .stopped) :
    ∃ r₀, findPrinter s.app.printers name = some r₀ ∧ r₀.state = .stopped := by
  have hp := step_printers h
  generalize s'.app.printers = ps at hp hr
  cases hp with
  | same => exact ⟨r, hr, hst⟩
  | worked i now w hw =>
      by_cases hn : name = w.task.printerName
      · subst hn
        obtain ⟨r₀, hr₀, e⟩ := findPrinter_worker_own hr
        cases hsets : w.pc.sets with
        | none => exact ⟨r₀, hr₀, by rw [← hst, e, hsets]; rfl⟩
        | some st =>
            rw [hsets, hst] at e
            exact absurd (by rw [hsets, e]; rfl) w.pc.sets_ne_stopped
      · rw [findPrinter_worker_other hn] at hr
        exact ⟨r, hr, hst⟩
  | polled => exact absurd rfl ha
  | loaded i t ht =>
      obtain ⟨r₀, hr₀, e, _⟩ := findPrinter_media hr
      exact ⟨r₀, hr₀, e ▸ hst⟩

/-! ## 2. One step -/

/-- A step that neither is an access of the poller nor moves it away from an advert. -/
theorem AdvertsHold.others (hI : AdvertsHold initial s log names)
    (h : step o s a = some (s', ev)) (ha : a ≠ .poll) (hadv : s'.adverts = s.adverts)
    (hout : ∀ cfg ∈ s'.poller.outstanding, (findPrinter s.app.printers cfg.name).isSome = true)
    (hdue : s'.poller.advertDue = s.poller.advertDue)
    (hadvert : ∀ cfg reachable copy todo changed,
      s'.poller = .advert cfg reachable copy todo changed →
        s.poller = .advert cfg reachable copy todo changed) :
    AdvertsHold initial s' log names where
  adverts := hadv.trans hI.adverts
  nodup := hI.nodup
  routed := fun cfg hcfg => step_found h (hout cfg hcfg)
  follows := fun name hn => hI.follows name (hdue ▸ hn)
  due := fun cfg reachable copy todo changed hp => hI.due _ _ _ _ _ (hadvert _ _ _ _ _ hp)
  stopped := fun name r hr hst => by
    obtain ⟨r₀, hr₀, hst₀⟩ := step_stopped h ha hr hst
    exact hI.stopped name r₀ hr₀ hst₀

section Poll

variable {cfg : PrinterConfig} {status : PollStatus} {todo : List PrinterConfig}
  {changed reachable : Bool} {copy : Option PrinterRecord}

/-- The report is written; its advert is due now. -/
theorem AdvertsHold.written (hI : AdvertsHold initial s log names)
    (hp : s.poller = .write cfg status todo changed) (h : step o s .poll = some (s', ev)) :
    AdvertsHold initial s' (log ++ [(cfg.name, status.reachable)]) names := by
  obtain ⟨pc, hpc, _, rfl⟩ := step_poll h
  rw [hp] at hpc
  cases hpc
  have hname : ∀ r : PrinterRecord, (status.applyTo r).1.config.name = r.config.name :=
    fun r => status.applyTo_name r
  have hprinters : s.poller.printersAfter s.app.printers =
      updatePrinter s.app.printers cfg.name fun r => (status.applyTo r).1 := by
    rw [hp]
    rfl
  obtain ⟨r₀, hr₀⟩ := Option.isSome_iff_exists.mp
    (hI.routed cfg (by rw [hp]; exact List.mem_cons_self))
  refine
    { adverts := ?_
      nodup := hI.nodup
      routed := fun cfg' hcfg' => step_found h (hI.routed cfg' ?_)
      follows := fun name hn => ?_
      due := ?_
      stopped := fun name r hr hst => ?_ }
  · rw [hp]
    exact hI.adverts
  · rw [hp]
    exact List.mem_cons_of_mem cfg hcfg'
  · have hne : name ≠ cfg.name := fun e => hn (congrArg some e.symm)
    rw [lastOf_other hne]
    exact hI.follows name (by rw [hp]; nofun)
  · rintro cfg' reachable' copy' todo' changed' ⟨⟩
    refine ⟨lastOf_own _ _ _, (status.applyTo r₀).1, ?_, (hname r₀).trans (findPrinter_name hr₀)⟩
    rw [hr₀, hI.adverts]
    rfl
  · rw [hprinters] at hr
    by_cases hn : name = cfg.name
    · subst hn
      rw [findPrinter_updatePrinter hname, hr₀] at hr
      cases hr
      rw [status.applyTo_state] at hst
      rw [lastOf_own]
      cases hreach : status.reachable with
      | false => rfl
      | true => rw [hreach] at hst; cases hst
    · rw [findPrinter_updatePrinter_other hname _ hn] at hr
      rw [lastOf_other hn]
      exact hI.stopped name r hr hst

/-- The advert is reconciled with the report. -/
theorem AdvertsHold.reconciled (hI : AdvertsHold initial s log names)
    (hp : s.poller = .advert cfg reachable copy todo changed)
    (h : step o s .poll = some (s', ev)) :
    AdvertsHold initial s' log (readvertise names cfg.name reachable) := by
  obtain ⟨pc, hpc, _, rfl⟩ := step_poll h
  rw [hp] at hpc
  cases hpc
  obtain ⟨hlast, r, rfl, hr⟩ := hI.due _ _ _ _ _ hp
  have hprinters : s.poller.printersAfter s.app.printers = s.app.printers := by
    rw [hp]
    rfl
  refine
    { adverts := ?_
      nodup := nodup_readvertise hI.nodup cfg.name reachable
      routed := fun cfg' hcfg' => step_found h (hI.routed cfg' (by rw [hp]; exact hcfg'))
      follows := fun name _ => ?_
      due := fun _ _ _ _ _ e => nomatch e
      stopped := fun name r' hr' hst => ?_ }
  · rw [hp, hI.adverts]
    exact reconcileAdvert_copy hr reachable
  · rw [mem_readvertise]
    by_cases hn : name = cfg.name
    · subst hn
      rw [if_pos rfl, hlast, Option.getD_some]
    · rw [if_neg hn]
      refine hI.follows name ?_
      rw [hp]
      exact fun e => hn (Option.some.inj e).symm
  · rw [hprinters] at hr'
    exact hI.stopped name r' hr' hst

theorem PollerPc.advertsAfter_same {pc : PollerPc} (h : pc.advertDue = none) (adverts : Adverts) :
    pc.advertsAfter adverts = adverts := by
  cases pc with
  | advert => cases h
  | _ => rfl

/-- An advert falls due by a report. -/
theorem PollerPc.step_advertDue {advertised : Bool} {printers : PrinterRegistry}
    {pc pc' : PollerPc} (h : pc.step advertised printers = some pc') (hop : pc.printerOp = none) :
    pc'.advertDue = none := by
  cases pc with
  | write => cases hop
  | waiting => cases h
  | polling => cases h
  | next todo changed =>
      cases todo with
      | nil => cases h; cases changed <;> rfl
      | cons cfg todo => cases h; rfl
  | _ => cases h; rfl

/-- The poller goes on without writing a report or an advert. -/
theorem AdvertsHold.moved (hI : AdvertsHold initial s log names)
    (hop : s.poller.printerOp = none) (hdue : s.poller.advertDue = none)
    (h : step o s .poll = some (s', ev)) : AdvertsHold initial s' log names := by
  obtain ⟨pc, hpc, _, rfl⟩ := step_poll h
  have hdue' := PollerPc.step_advertDue hpc hop
  have hprinters : s.poller.printersAfter s.app.printers = s.app.printers := by
    unfold PollerPc.printersAfter
    rw [hop]
  refine
    { adverts := (PollerPc.advertsAfter_same hdue _).trans hI.adverts
      nodup := hI.nodup
      routed := fun cfg hcfg => step_found h (hI.routed cfg ?_)
      follows := fun name _ => hI.follows name (by rw [hdue]; nofun)
      due := fun cfg reachable copy todo changed e => ?_
      stopped := fun name r hr hst => ?_ }
  · exact PollerPc.step_outstanding hpc cfg hcfg
  · have he : pc = .advert cfg reachable copy todo changed := e
    rw [he] at hdue'
    cases hdue'
  · rw [hprinters] at hr
    exact hI.stopped name r hr hst

end Poll

/-- An access of the poller. -/
theorem AdvertsHold.poll (hI : AdvertsHold initial s log names)
    (h : step o s .poll = some (s', ev)) :
    ∃ names', AdvertsHold initial s' (log ++ (s.report .poll).toList) names' := by
  cases hop : s.poller.printerOp with
  | none =>
      rw [show s.report .poll = none from congrArg (Option.map _) hop, Option.toList_none,
        List.append_nil]
      cases hp : s.poller with
      | advert cfg reachable copy todo changed => exact ⟨_, hI.reconciled hp h⟩
      | _ => exact ⟨names, hI.moved hop (by rw [hp]; rfl) h⟩
  | some e =>
      rw [show s.report .poll = some (e.1, e.2.reachable) from congrArg (Option.map _) hop]
      cases hp : s.poller with
      | write cfg status todo changed =>
          rw [hp] at hop
          cases hop
          exact ⟨names, hI.written hp h⟩
      | _ => rw [hp] at hop; cases hop

/-- Nobody but the poller writes the adverts. -/
theorem step_adverts_same (h : step o s a = some (s', ev)) (ha : a ≠ .poll) :
    s'.adverts = s.adverts := by
  cases a with
  | poll => exact absurd rfl ha
  | request clock name body =>
      rcases step_request h with ⟨_, _, rfl, _⟩ | ⟨_, _, _, _, _, _, rfl⟩ |
        ⟨_, _, _, _, _, _, rfl⟩ | ⟨_, _, _, _, rfl, _⟩
      · rfl
      · rfl
      · rfl
      · rfl
  | cancelNext i now =>
      obtain ⟨t, _, ⟨_, _, _, _, rfl⟩ | ⟨_, rfl, _⟩⟩ := step_cancelNext h
      · rfl
      · rfl
  | identified i =>
      obtain ⟨_, _, rfl, _⟩ := step_identified h
      rfl
  | worker i now =>
      obtain ⟨_, _, _, _, _, rfl⟩ := step_worker h
      rfl
  | outcome i out =>
      obtain ⟨_, _, _, _, rfl⟩ := step_outcome h
      rfl
  | pollTick =>
      obtain ⟨_, _, rfl⟩ := step_pollTick h
      rfl
  | pollAnswer status =>
      obtain ⟨_, _, _, _, _, _, rfl, _⟩ := step_pollAnswer h
      rfl
  | mediaPost name form =>
      rcases step_mediaPost h with rfl | ⟨_, _, rfl⟩
      · rfl
      · rfl
  | mediaAnswer i refusal =>
      obtain ⟨_, _, _, _, _, rfl⟩ := step_mediaAnswer h
      rfl
  | media i =>
      obtain ⟨_, _, _, _, _, rfl⟩ := step_media h
      rfl

/-- **Every step keeps what holds of the adverts.** -/
theorem AdvertsHold.step (hI : AdvertsHold initial s log names)
    (h : step o s a = some (s', ev)) :
    ∃ names', AdvertsHold initial s' (log ++ (s.report a).toList) names' := by
  by_cases ha : a = .poll
  · subst ha
    exact hI.poll h
  · have hadv := step_adverts_same h ha
    have hnone : s.report a = none := by
      cases a with
      | poll => exact absurd rfl ha
      | _ => rfl
    rw [hnone, Option.toList_none, List.append_nil]
    refine ⟨names, ?_⟩
    by_cases hpo : a.ofPoller = true
    · cases a with
      | pollTick =>
          obtain ⟨hw, _, hs'⟩ := step_pollTick h
          have hp : s'.poller =
              .next ((s.app.printers.filter (·.pollable)).map (·.config)) false := by rw [hs']
          refine hI.others h ha hadv ?_ ?_ ?_
          · intro cfg hcfg
            rw [hp] at hcfg
            obtain ⟨r, hr, rfl⟩ := List.mem_map.mp hcfg
            exact List.find?_isSome.mpr ⟨r, List.mem_of_mem_filter hr, beq_self_eq_true _⟩
          · rw [hp, hw]
            rfl
          · intro cfg reachable copy todo changed e
            rw [hp] at e
            cases e
      | pollAnswer status =>
          obtain ⟨cfg, todo, changed, pc, hpc, _, hs', hcase⟩ := step_pollAnswer h
          have hp : s'.poller = pc := by rw [hs']
          have hout := hI.routed
          rw [hpc] at hout
          refine hI.others h ha hadv ?_ ?_ ?_
          · intro c hc
            rw [hp] at hc
            rcases hcase with ⟨_, rfl⟩ | ⟨st, _, rfl⟩
            · exact hout c (List.mem_cons_of_mem cfg hc)
            · exact hout c hc
          · rw [hp, hpc]
            rcases hcase with ⟨_, rfl⟩ | ⟨st, _, rfl⟩
            · rfl
            · rfl
          · intro c reachable copy todo' changed' e
            rw [hp] at e
            rcases hcase with ⟨_, rfl⟩ | ⟨st, _, rfl⟩
            · cases e
            · cases e
      | poll => exact absurd rfl ha
      | _ => cases hpo
    · have hp := step_poller_same h (Bool.eq_false_iff.mpr hpo)
      refine hI.others h ha hadv ?_ (by rw [hp]) (fun _ _ _ _ _ e => hp ▸ e)
      rw [hp]
      exact hI.routed

theorem boot_advertsHold {d : Deployment} (hadv : d.adverts = some initial) (hn : initial.Nodup) :
    AdvertsHold initial (boot d) [] initial := by
  refine ⟨hadv, hn, fun cfg hcfg => absurd hcfg List.not_mem_nil, fun name _ => ?_,
    fun _ _ _ _ _ e => (nomatch e), fun name r hr hst => ?_⟩
  · exact List.contains_iff_mem.symm
  · obtain ⟨e, _, rfl⟩ := List.mem_map.mp (List.mem_of_find?_eq_some hr)
    cases hst

/-- **Who is advertised**: in every state of every run, a printer is advertised exactly if its
    device was reachable by its last report, or, before any, if it was advertised at the start;
    nobody is twice, and nobody who is Stopped. The printer whose report has just been written is
    left out, until the poller comes to its advert. -/
theorem adverts_follow_polls {G : System × List (String × Bool) → Action → Prop} {d : Deployment}
    (hadv : d.adverts = some initial) (hn : initial.Nodup)
    (h : Run (reporting o) G (boot d, []) tr (s, log)) :
    ∃ names, s.adverts = some names ∧ names.Nodup ∧
      ∀ name, s.poller.advertDue ≠ some name →
        (name ∈ names ↔ (lastOf name log).getD (initial.contains name) = true) ∧
        ∀ r, findPrinter s.app.printers name = some r → r.state = .stopped → name ∉ names := by
  have hinv : ∃ names, AdvertsHold initial s log names := by
    refine Run.always (I := fun p => ∃ names, AdvertsHold initial p.1 p.2 names)
      ⟨initial, boot_advertsHold hadv hn⟩ ?_ h
    intro p a p' ev ⟨names, hI⟩ _ hs
    obtain ⟨hstep, hlog⟩ := step_withHistory hs
    rw [hlog]
    exact hI.step hstep
  obtain ⟨names, hI⟩ := hinv
  refine ⟨names, hI.adverts, hI.nodup, fun name hdue => ⟨hI.follows name hdue, fun r hr hst => ?_⟩⟩
  rw [hI.follows name hdue, hI.stopped name r hr hst]
  nofun

end Adverts

namespace Trial

/-- The same printers with an advertiser. -/
def advertised : Deployment := { deployment with adverts := some ["p", "q"] }

/-- A round in which the first printer is off and the second one answers; then the first prints. -/
def offThenPrinting : List Action :=
  [.pollTick, .poll, .pollAnswer (offline "p"), .poll, .poll, .poll,
    .pollAnswer (some { reasons := .empty, readyMedia := none, supplyPercent := none }), .poll,
    .poll, post "p" print, .worker 0 0]

def offAndPrinting : System × List (String × Bool) :=
  endOf (reporting options) anyStep (boot advertised, []) offThenPrinting

/-- The first printer is back to work and still withdrawn. -/
example : offAndPrinting.1.adverts = some ["q"] ∧
    offAndPrinting.1.app.printers.map (·.state) = [.processing, .idle] := by
  decide +kernel

end Trial

theorem adverts_follow_polls_off :
    ∃ names, Trial.offAndPrinting.1.adverts = some names ∧ names.Nodup ∧
      ∀ name, Trial.offAndPrinting.1.poller.advertDue ≠ some name →
        (name ∈ names ↔ (lastOf name Trial.offAndPrinting.2).getD
          (["p", "q"].contains name) = true) ∧
        ∀ r, findPrinter Trial.offAndPrinting.1.app.printers name = some r →
          r.state = .stopped → name ∉ names :=
  adverts_follow_polls (d := Trial.advertised) rfl (by decide)
    (run_endOf_pair (M := reporting Trial.options) (by decide +kernel))

end IppPrinterApp
