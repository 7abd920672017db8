/-
  File:      IppPrinterApp/Lives.lean
  Subject:   The server over its lives: started, run, stopped, and started again.

  A life is a bootstrap from the state file the life before left, with whatever devices are there
  this time, and a run of the whole server on that file that stops anywhere, but in the middle of a
  write of the file.

  * `boot_bootstrapped`: the run starts with the registry the bootstrap made;
  * `lives_keep_queues`: no queue is lost, moved or doubled from one life to the next, whatever
    the clients, the workers, the poller and the media page did meanwhile, if their writes did not
    overlap.
-/
import IppPrinterApp.Queues

namespace IppPrinterApp

open Transition WriteBack MergeNew

/-! ## 1. A life -/

/-- How the server is started, and what happens in it until it stops. -/
structure Life where
  round : Round
  uuids : Nat → String
  host : String
  port : Nat
  adverts : Adverts
  options : Options
  actions : List (FileAction Party Action)

namespace Life

/-- The registry that `bootstrap_printers` leaves. -/
def records (j : SerdeJson) (file : StateFile) (l : Life) : PrinterRegistry :=
  (bootstrapPrinters j l.round l.uuids file).1

/-- `Server::run` on that registry. -/
def start (j : SerdeJson) (file : StateFile) (l : Life) : System :=
  boot { host := l.host, port := l.port, adverts := l.adverts
         printers := (l.records j file).map fun r => (r.config, r.uuid) }

/-- The server in that life: with its past, and on the file that its bootstrap saved. -/
def server (j : SerdeJson) (l : Life) :
    Machine ((System × List (List PrinterConfig)) × OpenFile Party) (FileAction Party Action)
      Event :=
  onFile (recording l.options) (saver j)

def begin (j : SerdeJson) (file : StateFile) (l : Life) :
    (System × List (List PrinterConfig)) × OpenFile Party :=
  ((l.start j file, []), savedFile j (l.start j file))

/-- The life can be lived: its actions are a run whose writes do not overlap. -/
def Lasts (j : SerdeJson) (file : StateFile) (l : Life) : Prop :=
  (exec (l.server j) (WholeWrites (saver j)) (l.begin j file) l.actions).isSome = true

instance (j : SerdeJson) (file : StateFile) (l : Life) : Decidable (l.Lasts j file) := by
  unfold Lasts
  infer_instance

/-- Where the life stops. -/
def stop (j : SerdeJson) (file : StateFile) (l : Life) :
    (System × List (List PrinterConfig)) × OpenFile Party :=
  endOf (l.server j) (WholeWrites (saver j)) (l.begin j file) l.actions

/-- The registry when it stopped, and the file that is left. -/
def now (j : SerdeJson) (file : StateFile) (l : Life) : List PrinterConfig :=
  configs (l.stop j file).1.1.app.printers

def left (j : SerdeJson) (file : StateFile) (l : Life) : StateFile :=
  some (l.stop j file).2.octets

end Life

/-- The server over its lives. What is seen of a life is its round, and the configurations of the
    registry when it stopped; what is left of it is the file. -/
def lives (j : SerdeJson) : Machine StateFile Life (Round × List PrinterConfig) where
  step file l :=
    if l.Lasts j file then some (l.left j file, [(l.round, l.now j file)]) else none

/-- What is assumed of a life: the URI is kept, nobody has the file open when it stops, and loading
    undoes the saves of its snapshots. -/
structure StopsAndKeeps (j : SerdeJson) (file : StateFile) (l : Life) : Prop where
  uri : l.round.KeepsUri
  shut : (l.stop j file).2.opened = []
  undoes : ∀ snapshot, IsSnapshot (l.stop j file).1 snapshot → j.Undoes snapshot

section Start

variable {j : SerdeJson} {file : StateFile} {r : Round} {uuids : Nat → String}

/-- The record is as it was made. -/
def PrinterRecord.Fresh (r : PrinterRecord) : Prop := r = PrinterRecord.new r.config r.uuid

theorem bootstrapDevice_fresh {records : PrinterRegistry} (h : ∀ rec ∈ records, rec.Fresh)
    (d : DiscoveredDevice) : ∀ rec ∈ bootstrapDevice r uuids records d, rec.Fresh := by
  unfold bootstrapDevice
  cases r.driverForDevice d.deviceId d.uri with
  | none => exact h
  | some driver =>
      dsimp only
      split
      · exact h
      · split
        · exact h
        · intro rec hrec
          rcases List.mem_append.mp hrec with hrec | hrec
          · exact h rec hrec
          · rw [List.mem_singleton.mp hrec]
            rfl

theorem bootstrapRecords_fresh (r : Round) (uuids : Nat → String) (loaded : List PrinterConfig) :
    ∀ rec ∈ bootstrapRecords r uuids loaded, rec.Fresh := by
  unfold bootstrapRecords
  refine List.foldlRecOn (motive := fun records => ∀ rec ∈ records, rec.Fresh) r.devices
    (bootstrapDevice r uuids) ?_ ?_
  · intro rec hrec
    obtain ⟨i, hi, rfl⟩ := List.mem_mapIdx.mp hrec
    rfl
  · exact fun records h d _ => bootstrapDevice_fresh h d

/-- **A life starts with what its bootstrap made.** -/
theorem boot_bootstrapped (l : Life) : (l.start j file).app.printers = l.records j file := by
  show ((l.records j file).map fun r => (r.config, r.uuid)).map
    (fun e => PrinterRecord.new e.1 e.2) = l.records j file
  rw [List.map_map]
  refine (List.map_congr_left fun r hr => ?_).trans (List.map_id _)
  exact (bootstrapRecords_fresh l.round l.uuids _ r hr).symm

end Start

/-! ## 2. What is left of a life -/

/-- The queues of a list of configurations. -/
def queuesOf (cfgs : List PrinterConfig) : List PrinterConfig := cfgs.map (·.queue)

theorem map_deviceUri_queuesOf (cfgs : List PrinterConfig) :
    (queuesOf cfgs).map (·.deviceUri) = cfgs.map (·.deviceUri) := by
  unfold queuesOf
  rw [List.map_map]
  rfl

/-- The same queues have the same URIs. -/
theorem deviceUri_of_queuesOf {cfgs cfgs' : List PrinterConfig}
    (h : queuesOf cfgs = queuesOf cfgs') : cfgs.map (·.deviceUri) = cfgs'.map (·.deviceUri) := by
  rw [← map_deviceUri_queuesOf, h, map_deviceUri_queuesOf]

section Stop

variable {j : SerdeJson} {file file' : StateFile} {l : Life}
  {ev : List (Round × List PrinterConfig)}

/-- **A life ends with the queues of its bootstrap**, in the registry and in the file. -/
theorem stop_queues (hs : l.Lasts j file) (hl : StopsAndKeeps j file l) :
    queuesOf (l.now j file) = queuesOf (l.round.merged (PersistedState.load j file)) ∧
      queuesOf (PersistedState.load j (l.left j file)) =
        queuesOf (l.round.merged (PersistedState.load j file)) := by
  have hrun : Run (l.server j) (WholeWrites (saver j)) (l.begin j file) _ (l.stop j file) :=
    run_endOf hs
  have hboot : ((l.records j file).map fun r => (r.config, r.uuid)).map (fun e => e.1.queue) =
      queuesOf (l.round.merged (PersistedState.load j file)) := by
    rw [← configs_bootstrapPrinters j l.round l.uuids file, List.map_map]
    unfold queuesOf configs
    rw [List.map_map]
    rfl
  have hqueue : ∀ snapshot, IsSnapshot (l.stop j file).1 snapshot →
      queuesOf snapshot = queuesOf (l.round.merged (PersistedState.load j file)) :=
    fun snapshot hsnap => (hsnap.queue (run_of_onFile hrun)).trans hboot
  obtain ⟨snapshot, hsnap, htext⟩ := (run_file (boot_historic _) hrun).shut hl.shut
  have hleft : l.left j file = PersistedState.save j snapshot := congrArg some htext
  refine ⟨hqueue _ (Or.inl rfl), ?_⟩
  rw [hleft, load_save (hl.undoes snapshot hsnap)]
  exact hqueue snapshot hsnap

theorem step_lives (h : (lives j).step file l = some (file', ev)) :
    l.Lasts j file ∧ file' = l.left j file ∧ ev = [(l.round, l.now j file)] := by
  unfold lives at h
  dsimp only at h
  split at h
  · rename_i hs
    cases h
    exact ⟨hs, rfl, rfl⟩
  · cases h

/-- A life that lasts, and stops with these configurations in the registry and this file. -/
theorem lives_step {left : StateFile} {now : List PrinterConfig} (hs : l.Lasts j file)
    (hleft : l.left j file = left) (hnow : l.now j file = now) :
    (lives j).step file l = some (left, [(l.round, now)]) := by
  unfold lives
  dsimp only
  rw [if_pos hs, hleft, hnow]

/-- What holds of the lives so far and of the file. -/
structure QueuesKept (j : SerdeJson) (file₀ : StateFile)
    (tr : List (Round × List PrinterConfig)) (file : StateFile) : Prop where
  /-- what was loaded at first starts every list -/
  first : ∀ e ∈ tr, queuesOf (PersistedState.load j file₀) <+: queuesOf e.2
  /-- the queues of a life start those of every life after it -/
  grows : tr.Pairwise fun e e' => queuesOf e.2 <+: queuesOf e'.2
  distinct : ∀ e ∈ tr, (e.2.map (·.deviceUri)).Nodup
  /-- a device with a driver and a configuration has exactly one queue -/
  entry : ∀ e ∈ tr, ∀ d ∈ e.1.devices, (e.1.offer d).isSome = true →
    e.2.countP (fun cfg => cfg.deviceUri == d.uri) = 1
  /-- the file holds the queues of the last life -/
  last : queuesOf (PersistedState.load j file) =
    (tr.getLast?.map fun e => queuesOf e.2).getD (queuesOf (PersistedState.load j file₀))

/-- What the next life loads starts with the queues of every life before it. -/
theorem QueuesKept.prefix_load {file₀ : StateFile} {tr : List (Round × List PrinterConfig)}
    (h : QueuesKept j file₀ tr file) :
    queuesOf (PersistedState.load j file₀) <+: queuesOf (PersistedState.load j file) ∧
      ∀ e ∈ tr, queuesOf e.2 <+: queuesOf (PersistedState.load j file) := by
  rw [h.last]
  cases tr using List.reverseRecOn with
  | nil => exact ⟨List.prefix_rfl, fun e he => absurd he List.not_mem_nil⟩
  | append_singleton tr e =>
      rw [List.getLast?_concat, Option.map_some, Option.getD_some]
      refine ⟨h.first e (by simp), fun e' he' => ?_⟩
      rcases List.mem_append.mp he' with he' | he'
      · exact (List.pairwise_append.mp h.grows).2.2 e' he' e (List.mem_singleton_self e)
      · rw [List.mem_singleton.mp he']

/-- The URIs it loads are distinct. -/
theorem QueuesKept.nodup_load {file₀ : StateFile} {tr : List (Round × List PrinterConfig)}
    (h₀ : ((PersistedState.load j file₀).map (·.deviceUri)).Nodup)
    (h : QueuesKept j file₀ tr file) :
    ((PersistedState.load j file).map (·.deviceUri)).Nodup := by
  have hlast := h.last
  cases hl : tr.getLast? with
  | none =>
      rw [hl, Option.map_none, Option.getD_none] at hlast
      rw [deviceUri_of_queuesOf hlast]
      exact h₀
  | some e =>
      rw [hl, Option.map_some, Option.getD_some] at hlast
      rw [deviceUri_of_queuesOf hlast]
      exact h.distinct e (List.mem_of_getLast? hl)

/-- **One life more.** -/
theorem QueuesKept.live {file₀ : StateFile} {tr : List (Round × List PrinterConfig)}
    (h₀ : ((PersistedState.load j file₀).map (·.deviceUri)).Nodup)
    (h : QueuesKept j file₀ tr file) (hl : StopsAndKeeps j file l)
    (hs : (lives j).step file l = some (file', ev)) : QueuesKept j file₀ (tr ++ ev) file' := by
  obtain ⟨hlasts, rfl, rfl⟩ := step_lives hs
  obtain ⟨hnow, hleft⟩ := stop_queues hlasts hl
  obtain ⟨hpre, hnodup, hmem, _⟩ := Round.merged_spec hl.uri (h.nodup_load h₀)
  obtain ⟨hfirst, hall⟩ := h.prefix_load
  -- what was loaded starts what is there at the stop
  have hgrown : queuesOf (PersistedState.load j file) <+: queuesOf (l.now j file) := by
    rw [hnow]
    exact hpre.map (·.queue)
  have huris := deviceUri_of_queuesOf hnow
  refine
    { first := fun e he => ?_
      grows := ?_
      distinct := fun e he => ?_
      entry := fun e he d hd hs => ?_
      last := ?_ }
  · rcases List.mem_append.mp he with he | he
    · exact h.first e he
    · rw [List.mem_singleton.mp he]
      exact hfirst.trans hgrown
  · refine List.pairwise_append.mpr ⟨h.grows, List.pairwise_singleton _ _, fun e he e' he' => ?_⟩
    rw [List.mem_singleton.mp he']
    exact (hall e he).trans hgrown
  · rcases List.mem_append.mp he with he | he
    · exact h.distinct e he
    · rw [List.mem_singleton.mp he, huris]
      exact hnodup
  · rcases List.mem_append.mp he with he | he
    · exact h.entry e he d hd hs
    · rw [List.mem_singleton.mp he] at hd hs ⊢
      refine count_uri ?_ ?_ <;> rw [huris]
      · exact hnodup
      · exact hmem d hd hs
  · rw [List.getLast?_concat, Option.map_some, Option.getD_some, hleft, hnow]

end Stop

/-! ## 3. The lives -/

/-- **The queues over the lives of a server**: over any number of lives, each on the file the one
    before left, in which writes of the file do not overlap, and each stopped anywhere but in the
    middle of one, no queue is lost, moved or doubled. -/
theorem lives_keep_queues {j : SerdeJson} {file₀ file : StateFile}
    {tr : List (Round × List PrinterConfig)}
    (h₀ : ((PersistedState.load j file₀).map (·.deviceUri)).Nodup)
    (h : Run (lives j) (StopsAndKeeps j) file₀ tr file) : QueuesKept j file₀ tr file := by
  refine Run.invariant (I := QueuesKept j file₀) ?_ ?_ h
  · exact
      { first := fun e he => absurd he List.not_mem_nil
        grows := .nil
        distinct := fun e he => absurd he List.not_mem_nil
        entry := fun e he => absurd he List.not_mem_nil
        last := rfl }
  · exact fun tr file l file' ev hI hl hs => hI.live h₀ hl hs

namespace Trial

/-- The label printer with a roll loaded. -/
def loaded : PrinterConfig :=
  { known with mediaNames := ["om_40x25mm_40x25mm"], mediaSizes := [(4000, 2500)] }

def lifeOf (devices : List DiscoveredDevice) (actions : List (FileAction Party Action)) :
    Life where
  round := roundOf devices
  uuids
  host := "localhost"
  port := 8631
  adverts := none
  options
  actions

/-- A parser that knows the printer with and without the roll. -/
def rollJson : SerdeJson := jsonOf [[known], [loaded]]

theorem rollJson_undoes : ∀ snapshot ∈ [[known], [loaded]], rollJson.Undoes snapshot :=
  fun _ hm => jsonOf_undoes (by decide +kernel) hm

/-- A roll is loaded in it on the page, whose request holds a snapshot then. -/
def rollLoaded : List (FileAction Party Action) :=
  [acts (.mediaPost "label_printer" ⟨40, 25⟩), acts (.media 0), acts (.media 0)]

/-- The label printer is found, and the roll is saved. -/
def firstLife : Life :=
  lifeOf [labelPrinter] (rollLoaded ++ [.opens (.media 0)] ++ [acts (.media 0)])

/-- Where these actions lead it on its file. -/
def firstEnd (script : List (FileAction Party Action)) :
    (System × List (List PrinterConfig)) × OpenFile Party :=
  endOf (onFile (recording options) (saver rollJson)) (WholeWrites (saver rollJson))
    (firstLife.begin rollJson none) script

theorem firstLife_lasts : firstLife.Lasts rollJson none := by decide +kernel

theorem firstLife_left :
    firstLife.left rollJson none = PersistedState.save rollJson [loaded] := by
  have hend : firstLife.stop rollJson none =
      firstEnd (rollLoaded ++ [.opens (.media 0)] ++ [.act (.media 0) 10000]) := rfl
  have hrun : (exec (onFile (recording options) (saver rollJson)) (WholeWrites (saver rollJson))
      (firstLife.begin rollJson none)
        (rollLoaded ++ [.opens (.media 0)] ++ [.act (.media 0) 10000])).isSome = true :=
    firstLife_lasts
  have hcopy : (saver rollJson).saves (firstEnd (rollLoaded ++ [.opens (.media 0)])).1 (.media 0) =
      some (.media 0, [loaded]) := by
    decide +kernel
  unfold Life.left firstEnd at *
  rw [hend, octets_of_save hrun hcopy (by decide +kernel)]
  rfl

theorem firstLife_step : (lives rollJson).step none firstLife =
    some (PersistedState.save rollJson [loaded], [(firstLife.round, [loaded])]) :=
  lives_step firstLife_lasts firstLife_left (by decide +kernel)

/-- Its registry is with the roll or without it. -/
theorem firstLife_seen : ∀ snapshot ∈ firstLife.now rollJson none ::
    (firstLife.stop rollJson none).1.2, snapshot ∈ [[known], [loaded]] := by
  decide +kernel

/-- The next time it is off. -/
def nextLife : Life := lifeOf [] []

theorem nextLife_now :
    nextLife.now rollJson (PersistedState.save rollJson [loaded]) = [loaded] := by
  show configs (nextLife.start rollJson _).app.printers = [loaded]
  rw [boot_bootstrapped]
  unfold Life.records
  rw [configs_bootstrapPrinters, merged_of_no_devices rfl,
    load_save (rollJson_undoes [loaded] (by simp))]

theorem nextLife_left :
    nextLife.left rollJson (PersistedState.save rollJson [loaded]) =
      PersistedState.save rollJson [loaded] := by
  show PersistedState.save rollJson (configs (nextLife.start rollJson _).app.printers) = _
  exact congrArg (PersistedState.save rollJson) nextLife_now

theorem nextLife_step :
    (lives rollJson).step (PersistedState.save rollJson [loaded]) nextLife =
      some (PersistedState.save rollJson [loaded], [(nextLife.round, [loaded])]) :=
  lives_step rfl nextLife_left nextLife_now

end Trial

/-- The roll stays loaded while the printer is off. -/
theorem lives_keep_queues_loaded :
    QueuesKept Trial.rollJson none
      [(Trial.roundOf [Trial.labelPrinter], [Trial.loaded]), (Trial.roundOf [], [Trial.loaded])]
      (PersistedState.save Trial.rollJson [Trial.loaded]) := by
  refine @lives_keep_queues _ none _ _ List.nodup_nil
    (.step (.step .start ?_ Trial.firstLife_step) ?_ Trial.nextLife_step)
  · refine ⟨Trial.roundOf_keepsUri _, by decide +kernel, fun snapshot hs => ?_⟩
    exact Trial.rollJson_undoes snapshot (Trial.firstLife_seen snapshot (List.mem_cons.mpr hs))
  · refine ⟨Trial.roundOf_keepsUri _, rfl, fun snapshot hs => ?_⟩
    rcases hs with e | hs
    · rw [e]
      refine Trial.rollJson_undoes _ ?_
      show Trial.nextLife.now Trial.rollJson _ ∈ _
      rw [Trial.nextLife_now]
      exact List.mem_cons_of_mem _ (List.mem_singleton_self _)
    · cases hs

end IppPrinterApp
