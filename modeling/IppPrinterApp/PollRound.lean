/-
  File:      IppPrinterApp/PollRound.lean
  Subject:   A whole round of the status poller (`poll_once`, status.rs), uninterleaved.

  `pollOnce` is the function as it stands: a snapshot of the printers that are not printing, and
  for each of them the poll, the write into the record that has the name, and the advert. The
  poller of the server makes the same accesses one at a time; left to itself it comes to the same
  (`run_pollOnce`).

  * `pollOnce_eq` -- with distinct names the loop does to every printer what the poll of that
    printer alone does (`polledTo`, `advertsTo`, `mediaChanged`);
  * `polledTo_again`, `advertsTo_again` -- a second poll with the same answers finds nothing to
    do.

  `poll_round_settles` puts both together.
-/
import IppPrinterApp.LoadedMedia

namespace IppPrinterApp

open Transition

/-! ## 1. The round -/

/-- What a round works on: the printers, the adverts and the flag that it returns. -/
structure PollRound where
  printers : PrinterRegistry
  adverts : Adverts
  changed : Bool
  deriving DecidableEq, Repr

/-- The body of the loop of `poll_once`, for the next configuration of the snapshot. -/
def PollRound.pollNext (poll : PrinterConfig → Option PollStatus) (s : PollRound)
    (cfg : PrinterConfig) : PollRound :=
  match poll cfg with
  | none => s
  | some status =>
    let found := (findPrinter s.printers cfg.name).map status.applyTo
    let copy := if s.adverts.isSome then found.map (·.1) else none
    { printers := updatePrinter s.printers cfg.name fun r => (status.applyTo r).1
      adverts := reconcileAdvert s.adverts cfg.name status.reachable copy
      changed := s.changed || found.any (·.2) }

/-- `poll_once`: the registry and the adverts afterwards, and the flag it returns. -/
def pollOnce (poll : PrinterConfig → Option PollStatus) (printers : PrinterRegistry)
    (adverts : Adverts) : PollRound :=
  ((printers.filter (·.pollable)).map (·.config)).foldl (PollRound.pollNext poll)
    ⟨printers, adverts, false⟩

/-! ## 2. What one answer does -/

namespace PollStatus

variable (status : PollStatus) (r : PrinterRecord)

/-- The record after a report: its reasons, the state they say, and the media and the supply that
    are reported or else the last known ones. Only `set_ready_media` changes the configuration. -/
def written : PrinterRecord :=
  { config := (status.readyMedia.map fun media => (r.setReadyMedia media).1.config).getD r.config
    state := if status.reachable then .idle else .stopped
    reasons := status.reasons
    uuid := r.uuid
    readyMedia := status.readyMedia.or r.readyMedia
    supplyPercent := status.supplyPercent.or r.supplyPercent }

/-- **What a report does to a record**; the flag is the one of `set_ready_media`. -/
theorem applyTo_eq : status.applyTo r =
    (status.written r, status.readyMedia.any fun media => (r.setReadyMedia media).2) := by
  unfold applyTo written
  cases status.readyMedia with
  | none =>
      cases status.supplyPercent with
      | none => rfl
      | some level => rfl
  | some media =>
      cases status.supplyPercent with
      | none => rfl
      | some level => rfl

theorem written_name : (status.written r).config.name = r.config.name := by
  have h := status.applyTo_name r
  rw [applyTo_eq] at h
  exact h

/-- A polled printer is polled again. -/
theorem written_pollable : (status.written r).pollable = true := by
  unfold written PrinterRecord.pollable
  cases status.reachable with
  | true => rfl
  | false => rfl

/-- `set_ready_media` looks at the configuration and the loaded media only. -/
theorem setReadyMedia_congr {p q : PrinterRecord} (media : ReadyMedia) (hc : p.config = q.config)
    (hm : p.readyMedia = q.readyMedia) :
    (p.setReadyMedia media).1.config = (q.setReadyMedia media).1.config ∧
      (p.setReadyMedia media).2 = (q.setReadyMedia media).2 := by
  unfold PrinterRecord.setReadyMedia
  rw [hc, hm]
  exact ⟨rfl, rfl⟩

/-- A record that says what the report says, with its media loaded. -/
theorem written_eq_self {q : PrinterRecord} (hreasons : status.reasons = q.reasons)
    (hstate : (if status.reachable then IppPrinterState.idle else .stopped) = q.state)
    (hmedia : status.readyMedia.or q.readyMedia = q.readyMedia)
    (hsupply : status.supplyPercent.or q.supplyPercent = q.supplyPercent)
    (hconfig : ∀ media, status.readyMedia = some media →
      (q.setReadyMedia media).1.config = q.config) : status.written q = q := by
  have hc : (status.readyMedia.map fun media => (q.setReadyMedia media).1.config).getD q.config =
      q.config := by
    cases hm : status.readyMedia with
    | none => rfl
    | some media => exact hconfig media hm
  unfold written
  rw [hreasons, hstate, hmedia, hsupply, hc]

/-- What is loaded is loaded: `set_ready_media` finds nothing to do on the record it wrote. -/
theorem written_loaded {media : ReadyMedia} (hm : status.readyMedia = some media) :
    ((status.written r).setReadyMedia media).1.config = (status.written r).config ∧
      ((status.written r).setReadyMedia media).2 = false := by
  have hconfig : (status.written r).config = (r.setReadyMedia media).1.config := by
    unfold written
    rw [hm]
    rfl
  have hready : (status.written r).readyMedia = (r.setReadyMedia media).1.readyMedia := by
    unfold written
    rw [hm]
    rfl
  have hcongr := setReadyMedia_congr media hconfig hready
  rw [PrinterRecord.setReadyMedia_again] at hcongr
  exact ⟨hcongr.1.trans hconfig.symm, hcongr.2⟩

/-- **The same report again changes nothing.** -/
theorem applyTo_again : status.applyTo (status.written r) = (status.written r, false) := by
  have hor : ∀ {α : Type} (a b : Option α), a.or (a.or b) = a.or b := by
    intro α a b
    cases a with
    | none => rfl
    | some x => rfl
  rw [applyTo_eq]
  refine Prod.ext ?_ ?_
  · exact status.written_eq_self rfl rfl (hor _ _) (hor _ _)
      fun media hm => (status.written_loaded r hm).1
  · cases hm : status.readyMedia with
    | none => rfl
    | some media => exact (status.written_loaded r hm).2

end PollStatus

/-! ## 3. The loop -/

/-- The advertised names after an advert is reconciled. -/
def readvertise (names : List String) (name : String) (reachable : Bool) : List String :=
  if reachable then if names.contains name then names else names ++ [name]
  else if names.contains name then names.filter (· != name)
  else names

/-- **An advert is there exactly if the printer is reachable**; the others stay. -/
theorem mem_readvertise {names : List String} {name n : String} {reachable : Bool} :
    n ∈ readvertise names name reachable ↔
      if n = name then reachable = true else n ∈ names := by
  unfold readvertise
  by_cases hn : n = name
  · subst hn
    by_cases hc : n ∈ names
    · cases reachable <;> simp [hc]
    · cases reachable <;> simp [hc]
  · by_cases hc : name ∈ names
    · cases reachable <;> simp [hn, hc]
    · cases reachable <;> simp [hn, hc]

theorem readvertise_eq_self {names : List String} {name : String} {reachable : Bool}
    (h : name ∈ names ↔ reachable = true) : readvertise names name reachable = names := by
  unfold readvertise
  cases reachable with
  | true => simp [h.mpr rfl]
  | false => simp [h]

section Loop

variable (poll : String → Option PollStatus)

/-- The answer a round gets for a printer: none where it does not ask. -/
def statusOf (p : PrinterRecord) : Option PollStatus :=
  if p.pollable then poll p.config.name else none

/-- What a round makes of a printer. -/
def polledTo (p : PrinterRecord) : PrinterRecord :=
  ((statusOf poll p).map fun status => status.written p).getD p

/-- Whether a round loads other media into a printer. -/
def mediaChanged (p : PrinterRecord) : Bool :=
  (statusOf poll p).any fun status => (status.applyTo p).2

/-- The advertised names after a round over some printers. -/
def advertsTo : PrinterRegistry → List String → List String
  | [], names => names
  | p :: ps, names =>
    advertsTo ps (((statusOf poll p).map fun status =>
      readvertise names p.config.name status.reachable).getD names)

variable {poll}

theorem polledTo_none {p : PrinterRecord} (h : statusOf poll p = none) : polledTo poll p = p := by
  rw [polledTo, h]
  rfl

theorem polledTo_some {p : PrinterRecord} {status : PollStatus} (h : statusOf poll p = some status) :
    polledTo poll p = status.written p := by
  rw [polledTo, h]
  rfl

theorem polledTo_name (p : PrinterRecord) : (polledTo poll p).config.name = p.config.name := by
  unfold polledTo
  cases statusOf poll p with
  | none => rfl
  | some status => exact status.written_name p

/-- **One iteration**: the record behind those that are done is the one that is written. -/
theorem pollNext_head {pre post : PrinterRegistry} {p : PrinterRecord} {names : List String}
    {changed : Bool} (hpre : ∀ q ∈ pre, q.config.name ≠ p.config.name) (hp : p.pollable = true) :
    PollRound.pollNext (fun cfg => poll cfg.name) ⟨pre ++ p :: post, some names, changed⟩ p.config =
      ⟨pre ++ polledTo poll p :: post, some (((statusOf poll p).map fun status =>
        readvertise names p.config.name status.reachable).getD names),
        changed || mediaChanged poll p⟩ := by
  have hmiss : ∀ q ∈ pre, (q.config.name == p.config.name) = false :=
    fun q hq => beq_eq_false_iff_ne.mpr (hpre q hq)
  have hfind : findPrinter (pre ++ p :: post) p.config.name = some p :=
    FirstMatch.find?_append_hit hmiss (beq_self_eq_true _)
  have hupdate : ∀ f : PrinterRecord → PrinterRecord,
      updatePrinter (pre ++ p :: post) p.config.name f = pre ++ f p :: post :=
    fun f => FirstMatch.updateFirst_append hmiss (beq_self_eq_true _)
  unfold PollRound.pollNext polledTo mediaChanged statusOf
  dsimp only
  rw [if_pos hp]
  cases hs : poll p.config.name with
  | none => simp
  | some status =>
      have hw : (status.applyTo p).1 = status.written p := by rw [status.applyTo_eq]
      have hadvert : reconcileAdvert (some names) p.config.name status.reachable
          (some (status.written p)) = some (readvertise names p.config.name status.reachable) := by
        unfold reconcileAdvert readvertise
        dsimp only [Option.map_some]
        rw [status.written_name]
      simp only [hfind, hupdate, hw, Option.map_some, Option.isSome_some, if_true, hadvert,
        Option.getD_some, Option.any_some]

variable (poll)

/-- **The loop does to every printer what its own poll does.** -/
theorem foldl_pollNext (ps pre : PrinterRegistry) (names : List String) (changed : Bool)
    (hpre : ∀ q ∈ pre, ∀ p ∈ ps, q.config.name ≠ p.config.name)
    (hd : (ps.map (·.config.name)).Nodup) :
    ((ps.filter (·.pollable)).map (·.config)).foldl (PollRound.pollNext fun cfg => poll cfg.name)
        ⟨pre ++ ps, some names, changed⟩ =
      ⟨pre ++ ps.map (polledTo poll), some (advertsTo poll ps names),
        changed || ps.any (mediaChanged poll)⟩ := by
  induction ps generalizing pre names changed with
  | nil => simp [advertsTo]
  | cons p ps ih =>
      obtain ⟨hnot, hd'⟩ := List.nodup_cons.mp hd
      have hmove : ∀ q ∈ pre ++ [polledTo poll p], ∀ p' ∈ ps, q.config.name ≠ p'.config.name := by
        intro q hq p' hp'
        rcases List.mem_append.mp hq with hq | hq
        · exact hpre q hq p' (List.mem_cons_of_mem p hp')
        · rw [List.mem_singleton.mp hq, polledTo_name]
          exact fun e => hnot (List.mem_map.mpr ⟨p', hp', e.symm⟩)
      have hnext := ih (pre ++ [polledTo poll p]) (((statusOf poll p).map fun status =>
        readvertise names p.config.name status.reachable).getD names)
        (changed || mediaChanged poll p) hmove hd'
      rw [List.append_assoc, List.singleton_append, List.append_assoc, List.singleton_append,
        Bool.or_assoc] at hnext
      rw [List.map_cons, List.any_cons, advertsTo, ← hnext]
      by_cases hp : p.pollable = true
      · rw [List.filter_cons_of_pos hp, List.map_cons, List.foldl_cons,
          pollNext_head (fun q hq => hpre q hq p List.mem_cons_self) hp]
      · have hnone : statusOf poll p = none := if_neg hp
        rw [List.filter_cons_of_neg hp]
        simp [polledTo, mediaChanged, hnone]

/-- **The whole round**, printer by printer. -/
theorem pollOnce_eq {printers : PrinterRegistry} (names : List String)
    (hd : (printers.map (·.config.name)).Nodup) :
    pollOnce (fun cfg => poll cfg.name) printers (some names) =
      ⟨printers.map (polledTo poll), some (advertsTo poll printers names),
        printers.any (mediaChanged poll)⟩ := by
  have h := foldl_pollNext poll printers [] names false (by simp) hd
  rw [List.nil_append, List.nil_append, Bool.false_or] at h
  exact h

/-! ## 4. The adverts, and the second round -/

variable {poll}

/-- A name that is not polled keeps its advert, or goes on without one. -/
theorem mem_advertsTo_other {ps : PrinterRegistry} {names : List String} {n : String}
    (h : ∀ p ∈ ps, p.config.name = n → statusOf poll p = none) :
    n ∈ advertsTo poll ps names ↔ n ∈ names := by
  induction ps generalizing names with
  | nil => exact Iff.rfl
  | cons p ps ih =>
      rw [advertsTo, ih fun q hq => h q (List.mem_cons_of_mem p hq)]
      cases hs : statusOf poll p with
      | none => exact Iff.rfl
      | some status =>
          have hne : n ≠ p.config.name := by
            intro e
            rw [h p List.mem_cons_self e.symm] at hs
            cases hs
          rw [Option.map_some, Option.getD_some, mem_readvertise, if_neg hne]

/-- **A printer that is polled is advertised exactly if it is reachable.** -/
theorem mem_advertsTo_polled {ps : PrinterRegistry} {names : List String} {p : PrinterRecord}
    {status : PollStatus} (hd : (ps.map (·.config.name)).Nodup) (hp : p ∈ ps)
    (hs : statusOf poll p = some status) :
    p.config.name ∈ advertsTo poll ps names ↔ status.reachable = true := by
  induction ps generalizing names with
  | nil => cases hp
  | cons q ps ih =>
      obtain ⟨hnot, hd'⟩ := List.nodup_cons.mp hd
      rw [advertsTo]
      rcases List.mem_cons.mp hp with rfl | hp
      · -- no printer behind it has its name
        have hother : ∀ p' ∈ ps, p'.config.name = p.config.name → statusOf poll p' = none :=
          fun p' hp' e => absurd (List.mem_map.mpr ⟨p', hp', e⟩) hnot
        rw [mem_advertsTo_other hother, hs, Option.map_some, Option.getD_some, mem_readvertise,
          if_pos rfl]
      · exact ih hd' hp

theorem advertsTo_eq_self {ps : PrinterRegistry} {names : List String}
    (h : ∀ p ∈ ps, ∀ status, statusOf poll p = some status →
      (p.config.name ∈ names ↔ status.reachable = true)) : advertsTo poll ps names = names := by
  induction ps with
  | nil => rfl
  | cons p ps ih =>
      have ih' := ih fun q hq => h q (List.mem_cons_of_mem p hq)
      rw [advertsTo]
      cases hs : statusOf poll p with
      | none => exact ih'
      | some status =>
          rw [Option.map_some, Option.getD_some,
            readvertise_eq_self (h p List.mem_cons_self status hs)]
          exact ih'

variable (poll)

/-- The next round asks the same printers. -/
theorem statusOf_polledTo (p : PrinterRecord) : statusOf poll (polledTo poll p) = statusOf poll p := by
  cases hs : statusOf poll p with
  | none => rw [polledTo_none hs, hs]
  | some status =>
      have hpoll : poll p.config.name = some status := by
        unfold statusOf at hs
        split at hs
        · exact hs
        · cases hs
      rw [polledTo_some hs, statusOf, if_pos (status.written_pollable p), status.written_name, hpoll]

/-- **A second round writes what is there.** -/
theorem polledTo_again (p : PrinterRecord) :
    polledTo poll (polledTo poll p) = polledTo poll p ∧
      mediaChanged poll (polledTo poll p) = false := by
  have hagain := statusOf_polledTo poll p
  unfold mediaChanged
  cases hs : statusOf poll p with
  | none =>
      rw [hs] at hagain
      rw [hagain]
      exact ⟨polledTo_none hagain, rfl⟩
  | some status =>
      rw [hs] at hagain
      have hw := status.applyTo_again p
      rw [polledTo_some hagain, hagain, Option.any_some, polledTo_some hs, hw]
      rw [status.applyTo_eq] at hw
      exact ⟨congrArg Prod.fst hw, rfl⟩

theorem advertsTo_again {ps : PrinterRegistry} (names : List String)
    (hd : (ps.map (·.config.name)).Nodup) :
    advertsTo poll (ps.map (polledTo poll)) (advertsTo poll ps names) =
      advertsTo poll ps names := by
  refine advertsTo_eq_self fun p' hp' status hs => ?_
  obtain ⟨p, hp, rfl⟩ := List.mem_map.mp hp'
  rw [statusOf_polledTo] at hs
  rw [polledTo_name]
  exact mem_advertsTo_polled hd hp hs

end Loop

/-! ## 5. The poller of the server -/

/-- Steps of the poller only, and `poll_status` answers as given. -/
def PollerAlone (poll : String → Option PollStatus) (s : System) : Action → Prop
  | .pollTick => True
  | .pollAnswer status =>
    ∀ cfg todo changed, s.poller = .polling cfg todo changed → status = poll cfg.name
  | .poll => True
  | _ => False

/-- The server with a round's printers and adverts, its poller at some position. -/
def System.withRound (s : System) (r : PollRound) (pc : PollerPc) : System :=
  { s with app := { s.app with printers := r.printers }, adverts := r.adverts, poller := pc }

section PollerRun

variable (o : Options) (poll : String → Option PollStatus)

theorem pollerAlone_tick (s : System) : PollerAlone poll s .pollTick := trivial

theorem pollerAlone_poll (s : System) : PollerAlone poll s .poll := trivial

/-- **One configuration of the snapshot**, access by access. -/
theorem run_pollNext (s : System) (r : PollRound) (cfg : PrinterConfig)
    (todo : List PrinterConfig) :
    ∃ tr, Run (server o) (PollerAlone poll) (s.withRound r (.next (cfg :: todo) r.changed)) tr
      (s.withRound (r.pollNext (fun cfg => poll cfg.name) cfg)
        (.next todo (r.pollNext (fun cfg => poll cfg.name) cfg).changed)) := by
  have hask : Run (server o) (PollerAlone poll) (s.withRound r (.next (cfg :: todo) r.changed))
      [.pollStatus cfg] (s.withRound r (.polling cfg todo r.changed)) :=
    .step .start (pollerAlone_poll poll _) rfl
  have hguard : PollerAlone poll (s.withRound r (.polling cfg todo r.changed))
      (.pollAnswer (poll cfg.name)) := by
    intro cfg' todo' changed' h
    cases h
    rfl
  unfold PollRound.pollNext
  dsimp only
  cases hs : poll cfg.name with
  | none =>
      rw [hs] at hguard
      exact ⟨_, hask.step hguard rfl⟩
  | some status =>
      rw [hs] at hguard
      have hanswer : Run (server o) (PollerAlone poll) _ _
          (s.withRound r (.write cfg status todo r.changed)) := hask.step hguard rfl
      have hwrite := hanswer.step (pollerAlone_poll poll _) rfl
      exact ⟨_, hwrite.step (pollerAlone_poll poll _) rfl⟩

theorem run_foldl (s : System) (r : PollRound) (todo : List PrinterConfig) :
    ∃ tr, Run (server o) (PollerAlone poll) (s.withRound r (.next todo r.changed)) tr
      (s.withRound (todo.foldl (PollRound.pollNext fun cfg => poll cfg.name) r)
        (.next [] (todo.foldl (PollRound.pollNext fun cfg => poll cfg.name) r).changed)) := by
  induction todo generalizing r with
  | nil => exact ⟨_, .start⟩
  | cons cfg todo ih =>
      obtain ⟨_, hfirst⟩ := run_pollNext o poll s r cfg todo
      obtain ⟨_, hrest⟩ := ih (r.pollNext (fun cfg => poll cfg.name) cfg)
      exact ⟨_, hfirst.trans hrest⟩

/-- **The poller, left to itself, makes the round of `pollOnce`.** -/
theorem run_pollOnce {s : System} (hpc : s.poller = .waiting) :
    ∃ tr, Run (server o) (PollerAlone poll) s tr
      (s.withRound (pollOnce (fun cfg => poll cfg.name) s.app.printers s.adverts)
        (if (pollOnce (fun cfg => poll cfg.name) s.app.printers s.adverts).changed then .snapshot
          else .waiting)) := by
  have htick : (server o).step s .pollTick = some (s.withRound ⟨s.app.printers, s.adverts, false⟩
      (.next ((s.app.printers.filter (·.pollable)).map (·.config)) false), []) := by
    change (s.poller.tick s.app.printers).map (fun pc => ({ s with poller := pc }, [])) = _
    rw [hpc]
    rfl
  have hstart : Run (server o) (PollerAlone poll) s ([] ++ []) _ :=
    .step .start (pollerAlone_tick poll s) htick
  obtain ⟨_, hround⟩ := run_foldl o poll s ⟨s.app.printers, s.adverts, false⟩
    ((s.app.printers.filter (·.pollable)).map (·.config))
  exact ⟨_, (hstart.trans hround).step (pollerAlone_poll poll _) rfl⟩

end PollerRun

/-! ## 6. Two rounds -/

section Rounds

variable (poll : String → Option PollStatus)

/-- What a printer is polled for: nothing while it prints. -/
theorem statusOf_eq (p : PrinterRecord) :
    statusOf poll p = if p.state = .processing then none else poll p.config.name := by
  unfold statusOf PrinterRecord.pollable
  cases p.state with
  | idle => rfl
  | processing => rfl
  | stopped => rfl

/-- **The flag of a round**: some call of `set_ready_media` reported a change. -/
theorem any_mediaChanged_iff (printers : PrinterRegistry) :
    printers.any (mediaChanged poll) = true ↔ ∃ p ∈ printers, ∃ status media,
      p.state ≠ .processing ∧ poll p.config.name = some status ∧ status.readyMedia = some media ∧
        (p.setReadyMedia media).2 = true := by
  rw [List.any_eq_true]
  unfold mediaChanged
  constructor
  · rintro ⟨p, hp, hm⟩
    obtain ⟨status, hs, hchanged⟩ := (Option.any_eq_true _ _).mp hm
    rw [statusOf_eq] at hs
    rw [status.applyTo_eq] at hchanged
    obtain ⟨media, hmedia, hload⟩ := (Option.any_eq_true _ _).mp hchanged
    split at hs
    · cases hs
    · rename_i hidle
      exact ⟨p, hp, status, media, hidle, hs, hmedia, hload⟩
  · rintro ⟨p, hp, status, media, hidle, hpoll, hmedia, hload⟩
    refine ⟨p, hp, ?_⟩
    rw [statusOf_eq, if_neg hidle, hpoll, Option.any_some, status.applyTo_eq, hmedia,
      Option.any_some]
    exact hload

/-- **A second round changes nothing.** -/
theorem pollOnce_again {printers : PrinterRegistry} (names : List String)
    (hd : (printers.map (·.config.name)).Nodup) :
    pollOnce (fun cfg => poll cfg.name) (printers.map (polledTo poll))
        (some (advertsTo poll printers names)) =
      ⟨printers.map (polledTo poll), some (advertsTo poll printers names), false⟩ := by
  have hnames : (printers.map (polledTo poll)).map (·.config.name) =
      printers.map (·.config.name) := by
    rw [List.map_map]
    exact List.map_congr_left fun p _ => polledTo_name p
  have hagain := pollOnce_eq poll (advertsTo poll printers names) (hnames ▸ hd)
  have hsame : (printers.map (polledTo poll)).map (polledTo poll) =
      printers.map (polledTo poll) := by
    rw [List.map_map]
    exact List.map_congr_left fun p _ => (polledTo_again poll p).1
  have hquiet : (printers.map (polledTo poll)).any (mediaChanged poll) = false := by
    rw [List.any_map]
    exact List.any_eq_false.mpr fun p _ => by simp [(polledTo_again poll p).2]
  rw [hagain, hsame, hquiet, advertsTo_again poll names hd]

end Rounds

/-- **A round settles, and a second one changes nothing.** With distinct names, whatever the
    devices answer: printers that print or do not answer stay as they are, with their adverts; every
    other printer gets what is reported, its last known media and supply where nothing is, the state
    that its reachability says, and an advert exactly if it is reachable. The flag is true exactly
    if some call of `set_ready_media` reported a change. The poller of the server comes to this when
    nothing else steps. -/
theorem poll_round_settles (poll : String → Option PollStatus) (printers : PrinterRegistry)
    (names : List String) (hd : (printers.map (·.config.name)).Nodup) :
    ∃ (printers' : PrinterRegistry) (names' : List String) (changed : Bool),
      pollOnce (fun cfg => poll cfg.name) printers (some names) =
          ⟨printers', some names', changed⟩ ∧
      printers'.length = printers.length ∧
      (∀ (i : Nat) (p : PrinterRecord), printers[i]? = some p →
        p.state = .processing ∨ poll p.config.name = none →
        printers'[i]? = some p ∧ (p.config.name ∈ names' ↔ p.config.name ∈ names)) ∧
      (∀ (i : Nat) (p : PrinterRecord) (status : PollStatus), printers[i]? = some p →
        p.state ≠ .processing →
        poll p.config.name = some status →
        ∃ p', printers'[i]? = some p' ∧ p'.reasons = status.reasons ∧
          p'.state = (if status.reasons.contains .OFFLINE then .stopped else .idle) ∧
          p'.supplyPercent = status.supplyPercent.or p.supplyPercent ∧
          p'.readyMedia = status.readyMedia.or p.readyMedia ∧
          p'.config = (status.readyMedia.map fun media =>
            (p.setReadyMedia media).1.config).getD p.config ∧
          p'.uuid = p.uuid ∧
          (p.config.name ∈ names' ↔ status.reasons.contains .OFFLINE = false)) ∧
      (∀ n, n ∉ printers.map (·.config.name) → (n ∈ names' ↔ n ∈ names)) ∧
      (changed = true ↔ ∃ p ∈ printers, ∃ status media, p.state ≠ .processing ∧
        poll p.config.name = some status ∧ status.readyMedia = some media ∧
        (p.setReadyMedia media).2 = true) ∧
      pollOnce (fun cfg => poll cfg.name) printers' (some names') =
          ⟨printers', some names', false⟩ ∧
      ∀ (o : Options) (s : System), s.poller = .waiting → s.app.printers = printers →
        s.adverts = some names → ∃ tr, Run (server o) (PollerAlone poll) s tr
          (s.withRound ⟨printers', some names', changed⟩ (if changed then .snapshot else .waiting))
    := by
  have hround := pollOnce_eq poll names hd
  refine ⟨_, _, _, hround, List.length_map .., ?_, ?_, ?_, ?_, ?_, ?_⟩
  · intro i p hp hskip
    have hnone : statusOf poll p = none := by
      rw [statusOf_eq]
      rcases hskip with h | h
      · exact if_pos h
      · rw [h, ite_self]
    refine ⟨?_, mem_advertsTo_other fun q hq e => ?_⟩
    · rw [List.getElem?_map, hp, Option.map_some, polledTo_none hnone]
    · -- the printer is the only one with its name
      have hsame : q = p := List.inj_on_of_nodup_map hd hq (List.mem_of_getElem? hp) e
      rw [hsame, hnone]
  · intro i p status hp hidle hpoll
    have hs : statusOf poll p = some status := by rw [statusOf_eq, if_neg hidle, hpoll]
    have hreach : status.reachable = !status.reasons.contains .OFFLINE := rfl
    refine ⟨status.written p, ?_, rfl, ?_, rfl, rfl, rfl, rfl, ?_⟩
    · rw [List.getElem?_map, hp, Option.map_some, polledTo_some hs]
    · unfold PollStatus.written
      rw [hreach]
      cases status.reasons.contains .OFFLINE with
      | true => rfl
      | false => rfl
    · rw [mem_advertsTo_polled hd (List.mem_of_getElem? hp) hs, hreach, Bool.not_eq_true']
  · exact fun n hn => mem_advertsTo_other fun p hp e => absurd (List.mem_map.mpr ⟨p, hp, e⟩) hn
  · exact any_mediaChanged_iff poll printers
  · exact pollOnce_again poll names hd
  · rintro o s hpc rfl hadv
    have hrun := run_pollOnce o poll hpc
    rw [hadv, hround] at hrun
    exact hrun

namespace Trial

/-- Two printers, the second one printing. -/
def pair : PrinterRegistry :=
  [.new (config "a") "uuid-a", { PrinterRecord.new (config "b") "uuid-b" with state := .processing }]

/-- Both devices are offline. -/
def offline (_ : String) : Option PollStatus :=
  some { reasons := .OFFLINE, readyMedia := none, supplyPercent := none }

end Trial

theorem poll_round_settles_pair :
    ∃ printers' names' changed,
      pollOnce (fun cfg => Trial.offline cfg.name) Trial.pair (some ["a", "b"]) =
        ⟨printers', some names', changed⟩ ∧
      "a" ∉ names' ∧ "b" ∈ names' ∧ printers'[1]? = Trial.pair[1]? := by
  obtain ⟨printers', names', changed, h, _, hskip, hpolled, _⟩ :=
    poll_round_settles Trial.offline Trial.pair ["a", "b"]
      (by decide +kernel)
  have hb := hskip 1 _ rfl (Or.inl rfl)
  obtain ⟨p', _, _, _, _, _, _, _, ha⟩ := hpolled 0 _ _ rfl (by decide +kernel) rfl
  exact ⟨printers', names', changed, h, fun hmem => absurd (ha.mp hmem) (by decide +kernel),
    hb.2.mpr (by decide), hb.1⟩

end IppPrinterApp
