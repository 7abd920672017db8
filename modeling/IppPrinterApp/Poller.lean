/-
  File:      IppPrinterApp/Poller.lean
  Subject:   The status poller (`poll_once` and the loop of `spawn`, status.rs), access by access.

  One round takes a snapshot of the configurations of the printers that are not printing, then
  goes through it: call `poll_status`, await the answer, write it into the record that has the
  name by then, reconcile the advert. If some loaded media changed, the registry is persisted.
  `PollerPc` is the program counter; the awaited call and both halves of `persist` are positions.
-/
import IppPrinterApp.Worker

namespace IppPrinterApp

/-! ## 1. One printer -/

/-- The poller asks Idle and Stopped printers only. -/
def PrinterRecord.pollable (r : PrinterRecord) : Bool :=
  match r.state with
  | .idle | .stopped => true
  | .processing => false

/-- A status without the OFFLINE reason. -/
def PollStatus.reachable (status : PollStatus) : Bool := !status.reasons.contains .OFFLINE

/-- What a reported status writes into the record, and whether the loaded media changed. A
    status that omits media or supply leaves the last known ones. -/
def PollStatus.applyTo (status : PollStatus) (r : PrinterRecord) : PrinterRecord × Bool :=
  let r := { r with
    reasons := status.reasons
    state := if status.reachable then .idle else .stopped }
  let (r, changed) := match status.readyMedia with
    | some media => r.setReadyMedia media
    | none => (r, false)
  let r := if status.supplyPercent.isSome then { r with supplyPercent := status.supplyPercent }
    else r
  (r, changed)

/-- The advertised names, when there is an advertiser (`AdvertiserControl`). -/
abbrev Adverts := Option (List String)

/-- The advert of a polled printer, reconciled with its reachability. -/
def reconcileAdvert (adverts : Adverts) (name : String) (reachable : Bool)
    (copy : Option PrinterRecord) : Adverts :=
  adverts.map fun names =>
    if reachable then
      match copy with
      | some r => if names.contains name then names else names ++ [r.config.name]
      | none => names
    else if names.contains name then names.filter (· != name)
    else names

theorem PollStatus.applyTo_name (status : PollStatus) (r : PrinterRecord) :
    (status.applyTo r).1.config.name = r.config.name := by
  have hm : ∀ media (r' : PrinterRecord), (r'.setReadyMedia media).1.config.name = r'.config.name :=
    fun media r' => PrinterRecord.setReadyMedia_name media r'
  unfold PollStatus.applyTo
  cases status.readyMedia with
  | none => dsimp only; split <;> rfl
  | some media => dsimp only; split <;> exact hm media _

/-- **Only a reported media change changes a configuration.** -/
theorem PollStatus.applyTo_unchanged {status : PollStatus} {r : PrinterRecord}
    (h : (status.applyTo r).2 = false) : (status.applyTo r).1.config = r.config := by
  unfold PollStatus.applyTo at h ⊢
  cases hm : status.readyMedia with
  | none => dsimp only; split <;> rfl
  | some media =>
      rw [hm] at h
      have hc := PrinterRecord.setReadyMedia_unchanged h
      dsimp only
      split <;> exact hc

/-! ## 2. The round -/

/-- Where the poller is: the access it makes next. `todo` are the configurations still to go
    through, `changed` the `media_changed` flag. -/
inductive PollerPc where
  /-- between two rounds -/
  | waiting
  /-- the top of the loop: about to call `poll_status` for the first of `todo` -/
  | next (todo : List PrinterConfig) (changed : Bool)
  /-- awaiting `poll_status` -/
  | polling (cfg : PrinterConfig) (todo : List PrinterConfig) (changed : Bool)
  /-- about to write the answer into the registry -/
  | write (cfg : PrinterConfig) (status : PollStatus) (todo : List PrinterConfig) (changed : Bool)
  /-- about to reconcile the advert -/
  | advert (cfg : PrinterConfig) (reachable : Bool) (copy : Option PrinterRecord)
      (todo : List PrinterConfig) (changed : Bool)
  /-- `persist` -/
  | snapshot
  | save (saved : List PrinterConfig)
  deriving DecidableEq, Repr

namespace PollerPc

/-- The round begins: the snapshot of the printers to poll. -/
def tick (printers : PrinterRegistry) : PollerPc → Option PollerPc
  | waiting => some (next ((printers.filter (·.pollable)).map (·.config)) false)
  | _ => none

/-- The awaited `poll_status` answers. -/
def answered (status : Option PollStatus) : PollerPc → Option PollerPc
  | polling cfg todo changed =>
    match status with
    | some status => some (write cfg status todo changed)
    | none => some (next todo changed)
  | _ => none

/-- The access to the printers at a position: the name it goes to and what is written there. -/
def printerOp : PollerPc → Option (String × PollStatus)
  | write cfg status _ _ => some (cfg.name, status)
  | _ => none

/-- The printers after the access at a position. -/
def printersAfter (pc : PollerPc) (printers : PrinterRegistry) : PrinterRegistry :=
  match pc.printerOp with
  | some (name, status) => updatePrinter printers name fun r => (status.applyTo r).1
  | none => printers

/-- The adverts after the access at a position. -/
def advertsAfter (pc : PollerPc) (adverts : Adverts) : Adverts :=
  match pc with
  | advert cfg reachable copy _ _ => reconcileAdvert adverts cfg.name reachable copy
  | _ => adverts

/-- The snapshot written to the state file at a position. -/
def saves : PollerPc → Option (List PrinterConfig)
  | save saved => some saved
  | _ => none

/-- **The poller's program**: where it is after its next access, given the printers and whether
    there is an advertiser. It takes no step of its own while it waits or awaits. -/
def step (advertised : Bool) (printers : PrinterRegistry) : PollerPc → Option PollerPc
  | waiting => none
  | next [] changed => some (if changed then snapshot else waiting)
  | next (cfg :: todo) changed => some (polling cfg todo changed)
  | polling _ _ _ => none
  | write cfg status todo changed =>
    let found := (findPrinter printers cfg.name).map status.applyTo
    let copy := if advertised then found.map (·.1) else none
    some (advert cfg status.reachable copy todo (changed || found.any (·.2)))
  | advert _ _ _ todo changed => some (next todo changed)
  | snapshot => some (save (configs printers))
  | save _ => some waiting

end PollerPc

/-- The poller keeps the names of the registry. -/
theorem PollerPc.printersAfter_names (pc : PollerPc) (printers : PrinterRegistry) :
    (pc.printersAfter printers).map (·.config.name) = printers.map (·.config.name) := by
  unfold PollerPc.printersAfter
  split
  · rename_i name status _
    exact FirstMatch.map_updateFirst (fun r => status.applyTo_name r) printers
  · rfl

/-- **A poll that reports no media change keeps the configurations.** -/
theorem PollerPc.configs_write {printers : PrinterRegistry} {name : String} {status : PollStatus}
    (h : ((findPrinter printers name).map status.applyTo).any (·.2) = false) :
    configs (updatePrinter printers name fun r => (status.applyTo r).1) = configs printers := by
  induction printers with
  | nil => rfl
  | cons p ps ih =>
      unfold updatePrinter FirstMatch.updateFirst
      unfold findPrinter at h
      cases hp : p.config.name == name with
      | true =>
          simp only [List.find?_cons, hp] at h
          have hc : (status.applyTo p).1.config = p.config :=
            PollStatus.applyTo_unchanged (by simpa using h)
          show (status.applyTo p).1.config :: configs ps = p.config :: configs ps
          rw [hc]
      | false =>
          simp only [List.find?_cons, hp] at h
          have e := ih h
          show p.config :: configs (updatePrinter ps name _) = p.config :: configs ps
          rw [e]

end IppPrinterApp
