/-
  File:      IppPrinterApp/Mdns.lean
  Subject:   The DNS-SD advertiser (mdns.rs).

  The advertiser keeps a map from logical printer names to the fullnames it registered; the
  daemon keeps the services by fullname. A fullname is made of the instance label, which several
  printers may share.

  * `Advertiser.InSync` -- `is_advertised` tells what the daemon serves, and no fullname is
    recorded twice or not at all (`Ledger.Agrees`);
  * `adverts_in_sync`: **they stay in sync over any calls in which every printer registers under a
    fullname of its own** (`OwnFullnames`); `publish_inSync_iff` -- a publish needs just that;
  * `shared_label` are two printers of one label;
  * `reconcile_represents` -- the names the poller's model keeps are those of the map.

  Of `mdns-sd`: a service is keyed by its fullname, a registration replaces the one of the same
  fullname, and neither it nor an unregistration fails.
-/
import IppPrinterApp.Lib.Ledger
import IppPrinterApp.System

namespace IppPrinterApp

open Ledger Transition

/-! ## 1. Services -/

/-- `mdns_sd::ServiceInfo`, as it is built here. No addresses mean `enable_addr_auto`. -/
structure ServiceInfo where
  instanceName : String
  hostName : String
  addrs : List String
  port : Nat
  txt : AssocMap String String

/-- What is used of `mdns-sd`: whether `ServiceInfo::new` takes the fields, and the fullname it
    makes of the instance name. -/
structure MdnsSd where
  accepts : ServiceInfo → Bool
  fullname : String → String

/-- `uuid.strip_prefix("urn:uuid:").unwrap_or(uuid)`. -/
def bareUuid (uuid : String) : String :=
  if "urn:uuid:".toList.isPrefixOf uuid.toList then String.ofList (uuid.toList.drop 9) else uuid

/-- `service_info`. -/
def serviceInfo (host : String) (addrs : List String) (port : Nat)
    (instanceName logicalName makeAndModel uuid : String) : ServiceInfo :=
  let txt : AssocMap String String := .empty
  let txt := txt.insert "rp" ("ipp/print/" ++ logicalName)
  let txt := if (bareUuid uuid).isEmpty then txt else txt.insert "UUID" (bareUuid uuid)
  let txt := txt.insert "ty" makeAndModel
  let txt := txt.insert "note" makeAndModel
  let txt := txt.insert "product" ("(" ++ makeAndModel ++ ")")
  let txt := txt.insert "pdl"
    "image/pwg-raster,application/vnd.cups-raster,application/octet-stream"
  let txt := txt.insert "URF" "W8,SRGB24,CP1,RS203"
  let txt := txt.insert "Color" "F"
  let txt := txt.insert "Duplex" "F"
  let txt := txt.insert "adminurl" s!"http://{host}.local:{port}/"
  let txt := txt.insert "priority" "0"
  let txt := txt.insert "qtotal" "1"
  let txt := txt.insert "txtvers" "1"
  { instanceName, hostName := s!"{host}.local.", addrs, port, txt }

/-- The service is that of the printer with this logical name: its resource path is. -/
def ServiceInfo.Describes (info : ServiceInfo) (name : String) : Prop :=
  info.txt.get? "rp" = some ("ipp/print/" ++ name)

theorem describes_unique (info : ServiceInfo) (name name' : String) (h : info.Describes name)
    (h' : info.Describes name') : name = name' := by
  have e := Option.some.inj (h.symm.trans h')
  have e' := congrArg String.toList e
  rw [String.toList_append, String.toList_append] at e'
  exact String.toList_inj.mp (List.append_cancel_left e')

theorem serviceInfo_describes (host : String) (addrs : List String) (port : Nat)
    (instanceName logicalName makeAndModel uuid : String) :
    (serviceInfo host addrs port instanceName logicalName makeAndModel uuid).Describes
      logicalName := by
  unfold ServiceInfo.Describes serviceInfo
  split <;> simp [AssocMap.get?_insert]

/-! ## 2. The advertiser -/

/-- `Advertiser`, with what its daemon serves. -/
structure Advertiser where
  port : Nat
  host : String
  addrs : List String
  /-- printer logical name -> registered DNS-SD fullname -/
  registered : AssocMap String String
  daemon : AssocMap String ServiceInfo

namespace Advertiser

/-- The advertiser before its first registration. -/
def new (host : String) (addrs : List String) (port : Nat) : Advertiser where
  port
  host
  addrs
  registered := .empty
  daemon := .empty

/-- The service a record is registered as. -/
def infoOf (a : Advertiser) (rec : PrinterRecord) : ServiceInfo :=
  serviceInfo a.host a.addrs a.port rec.config.displayLabel rec.config.name
    rec.config.makeAndModel rec.uuid

/-- `register_one`: `none` where the service is not accepted. -/
def registerOne (m : MdnsSd) (a : Advertiser) (rec : PrinterRecord) : Option Advertiser :=
  let info := a.infoOf rec
  if m.accepts info then
    let fullname := m.fullname info.instanceName
    some { a with
      daemon := a.daemon.insert fullname info
      registered := a.registered.insert rec.config.name fullname }
  else none

/-- `register_all`. -/
def registerAll (m : MdnsSd) (host : String) (addrs : List String) (port : Nat)
    (registry : PrinterRegistry) : Option Advertiser :=
  registry.foldlM (registerOne m) (new host addrs port)

/-- `is_advertised`. -/
def isAdvertised (a : Advertiser) (name : String) : Bool := a.registered.containsKey name

/-- `publish`: a failing registration is only logged. -/
def publish (m : MdnsSd) (a : Advertiser) (rec : PrinterRecord) : Advertiser :=
  if !a.registered.containsKey rec.config.name then (a.registerOne m rec).getD a else a

/-- `withdraw`. -/
def withdraw (a : Advertiser) (name : String) : Advertiser :=
  match a.registered.get? name with
  | some fullname =>
    { a with registered := a.registered.erase name, daemon := a.daemon.erase fullname }
  | none => a

/-- The map and the daemon. -/
def books (a : Advertiser) : Books String String ServiceInfo := ⟨a.registered, a.daemon⟩

/-- **The advertiser and its daemon are in sync**: a printer is advertised exactly if the daemon
    has a service describing it, and every fullname in the daemon is recorded for exactly one
    printer. -/
def InSync (a : Advertiser) : Prop := Agrees ServiceInfo.Describes a.books

end Advertiser

/-- The fullname of a printer. -/
def MdnsSd.fullnameOf (m : MdnsSd) (rec : PrinterRecord) : String :=
  m.fullname rec.config.displayLabel

section Steps

variable {m : MdnsSd} {a a' : Advertiser} {rec : PrinterRecord}

/-- **A registration is an entry** under the fullname of the printer. -/
theorem registerOne_books (h : a.registerOne m rec = some a') :
    a'.books = a.books.enter rec.config.name (m.fullnameOf rec) (a.infoOf rec) := by
  unfold Advertiser.registerOne at h
  dsimp only at h
  split at h
  · cases h
    rfl
  · cases h

theorem withdraw_books (a : Advertiser) (name : String) :
    (a.withdraw name).books = a.books.strike name := by
  unfold Advertiser.withdraw Books.strike
  have e : a.books.index = a.registered := rfl
  rw [e]
  cases a.registered.get? name with
  | none => rfl
  | some fullname => rfl

theorem registerOne_balanced (h : a.registerOne m rec = some a')
    (hb : Balanced ServiceInfo.Describes a.books)
    (hc : Clear a.books rec.config.name (m.fullnameOf rec)) :
    Balanced ServiceInfo.Describes a'.books := by
  rw [registerOne_books h]
  exact enter_balanced hb (serviceInfo_describes ..) hc

/-- A name that is not registered needs a fullname that is not. -/
theorem clear_iff_of_not_registered (hn : a.registered.containsKey rec.config.name = false)
    {fullname : String} :
    Clear a.books rec.config.name fullname ↔ fullname ∉ a.registered.values := by
  rw [AssocMap.mem_values_iff]
  have hnone : a.registered.get? rec.config.name = none := by
    unfold AssocMap.containsKey at hn
    exact Option.isNone_iff_eq_none.mp (by simpa using hn)
  constructor
  · rintro hc ⟨n, hi⟩
    have e := (hc n fullname hi).mpr rfl
    rw [e, hnone] at hi
    cases hi
  · intro hf n' k' hi
    constructor
    · rintro rfl
      cases hnone.symm.trans hi
    · rintro rfl
      exact absurd ⟨n', hi⟩ hf

/-- **A publish keeps the sync exactly if the printer's fullname is not another one's.** -/
theorem publish_inSync_iff (hb : Balanced ServiceInfo.Describes a.books)
    (hn : a.registered.containsKey rec.config.name = false)
    (ha : m.accepts (a.infoOf rec) = true) :
    (a.publish m rec).InSync ↔ m.fullnameOf rec ∉ a.registered.values := by
  obtain ⟨a', h⟩ : ∃ a', a.registerOne m rec = some a' := by
    unfold Advertiser.registerOne
    exact ⟨_, if_pos ha⟩
  have hp : a.publish m rec = a' := by
    unfold Advertiser.publish
    rw [hn, h]
    rfl
  rw [hp, Advertiser.InSync, registerOne_books h, ← clear_iff_of_not_registered hn]
  exact enter_agrees_iff describes_unique hb (serviceInfo_describes ..)

end Steps

/-! ## 3. Any sequence of calls -/

inductive AdvertCall where
  /-- a new advertiser, in place of the one before -/
  | registerAll (host : String) (addrs : List String) (port : Nat) (registry : PrinterRegistry)
  | publish (rec : PrinterRecord)
  | withdraw (name : String)

/-- The advertiser, if one could be set up, call by call. -/
def advertising (m : MdnsSd) : Machine (Option Advertiser) AdvertCall Unit where
  step
    | _, .registerAll host addrs port registry =>
      some (Advertiser.registerAll m host addrs port registry, [])
    | some a, .publish rec => some (some (a.publish m rec), [])
    | some a, .withdraw name => some (some (a.withdraw name), [])
    | none, _ => none

/-- Every printer registers under a fullname of its own: among the printers of a `register_all`
    the same name and the same fullname go together, and a printer published anew has a fullname
    that is not recorded. -/
def OwnFullnames (m : MdnsSd) : Option Advertiser → AdvertCall → Prop
  | _, .registerAll _ _ _ registry => ∀ rec ∈ registry, ∀ rec' ∈ registry,
      rec.config.name = rec'.config.name ↔ m.fullnameOf rec = m.fullnameOf rec'
  | some a, .publish rec => a.registered.containsKey rec.config.name = false →
      m.fullnameOf rec ∉ a.registered.values
  | _, _ => True

instance (m : MdnsSd) : DecidableRel (OwnFullnames m)
  | _, .registerAll .. | some _, .publish .. | none, .publish .. | some _, .withdraw ..
  | none, .withdraw .. => by
    unfold OwnFullnames
    infer_instance

section Calls

variable {m : MdnsSd}

/-- The registrations of a `register_all`, one after the other. -/
theorem registerAll_balanced {registry : PrinterRegistry}
    (hown : ∀ rec ∈ registry, ∀ rec' ∈ registry,
      (rec.config.name = rec'.config.name ↔ m.fullnameOf rec = m.fullnameOf rec'))
    {host : String} {addrs : List String} {port : Nat} {a : Advertiser}
    (h : Advertiser.registerAll m host addrs port registry = some a) :
    Balanced ServiceInfo.Describes a.books := by
  -- whatever is recorded so far is of a printer of the registry
  have key : ∀ (todo : PrinterRegistry) (b : Advertiser), (∀ rec ∈ todo, rec ∈ registry) →
      Balanced ServiceInfo.Describes b.books →
      (∀ n f, b.registered.get? n = some f →
        ∃ rec ∈ registry, rec.config.name = n ∧ m.fullnameOf rec = f) →
      todo.foldlM (Advertiser.registerOne m) b = some a →
      Balanced ServiceInfo.Describes a.books := by
    intro todo
    induction todo with
    | nil =>
        intro b _ hb _ hf
        cases hf
        exact hb
    | cons rec todo ih =>
        intro b hmem hb hrec hf
        rw [List.foldlM_cons] at hf
        obtain ⟨b', hb', hf'⟩ := Option.bind_eq_some_iff.mp hf
        have hin : rec ∈ registry := hmem rec List.mem_cons_self
        refine ih b' (fun r hr => hmem r (List.mem_cons_of_mem rec hr)) ?_ ?_ hf'
        · refine registerOne_balanced hb' hb fun n f hi => ?_
          obtain ⟨r, hr, rfl, rfl⟩ := hrec n f hi
          exact hown r hr rec hin
        · intro n f hi
          have hbooks := congrArg Books.index (registerOne_books hb')
          change b'.registered = b.registered.insert rec.config.name (m.fullnameOf rec) at hbooks
          rw [hbooks, AssocMap.get?_insert] at hi
          split at hi
          · rename_i e
            exact ⟨rec, hin, e, Option.some.inj hi⟩
          · exact hrec n f hi
  exact key registry (.new host addrs port) (fun _ hr => hr) empty_balanced
    (fun n f hi => by cases hi) h

theorem publish_balanced {a : Advertiser} {rec : PrinterRecord}
    (hb : Balanced ServiceInfo.Describes a.books)
    (hg : a.registered.containsKey rec.config.name = false →
      m.fullnameOf rec ∉ a.registered.values) :
    Balanced ServiceInfo.Describes (a.publish m rec).books := by
  unfold Advertiser.publish
  cases hn : a.registered.containsKey rec.config.name with
  | true => exact hb
  | false =>
      cases h : a.registerOne m rec with
      | none => exact hb
      | some a' =>
          exact registerOne_balanced h hb ((clear_iff_of_not_registered hn).mpr (hg hn))

/-- **The advertiser and its daemon stay in sync** after every call, in every sequence of calls
    in which every printer registers under a fullname of its own. -/
theorem adverts_in_sync {tr : List Unit} {s : Option Advertiser}
    (h : Run (advertising m) (OwnFullnames m) none tr s) : ∀ a ∈ s, a.InSync := by
  have hb : ∀ a ∈ s, Balanced ServiceInfo.Describes a.books := by
    refine Run.always (I := fun s => ∀ a ∈ s, Balanced ServiceInfo.Describes a.books)
      (fun a ha => absurd ha (Option.not_mem_none a)) ?_ h
    intro s call s' ev hI hg hs a' ha'
    match s, call with
    | _, .registerAll host addrs port registry =>
        cases hs
        exact registerAll_balanced hg ha'
    | some a, .publish rec =>
        cases hs
        rw [← Option.some.inj ha']
        exact publish_balanced (hI a rfl) hg
    | some a, .withdraw name =>
        cases hs
        rw [← Option.some.inj ha', withdraw_books]
        exact strike_balanced describes_unique (hI a rfl) name
    | none, .publish rec => cases hs
    | none, .withdraw name => cases hs
  exact fun a ha => (hb a ha).agrees describes_unique

end Calls

namespace Trial

def mdns : MdnsSd where
  accepts _ := true
  fullname label := label ++ "._ipp._tcp.local."

/-- A printer with a display name of its own, or without one. -/
def labeled (name displayName : String) : PrinterRecord :=
  .new { config name with displayName } ("uuid-" ++ name)

/-- A printer withdrawn and published again beside another one. -/
def backOnline : List AdvertCall :=
  [.registerAll "host" [] 8631 [labeled "p" "Front desk", labeled "q" ""], .withdraw "p",
    .publish (labeled "p" "Front desk")]

/-- Two printers of one model, without display names. -/
def unlabeled : List AdvertCall :=
  [.registerAll "host" [] 8631 [labeled "p" "", labeled "q" ""]]

end Trial

theorem adverts_in_sync_backOnline :
    ∃ a, endOf (advertising Trial.mdns) (OwnFullnames Trial.mdns) none Trial.backOnline = some a ∧
      a.InSync := by
  obtain ⟨a, ha⟩ := Option.isSome_iff_exists.mp (show (endOf (advertising Trial.mdns)
    (OwnFullnames Trial.mdns) none Trial.backOnline).isSome = true by decide +kernel)
  exact ⟨a, ha, adverts_in_sync (run_endOf (by decide +kernel)) a ha⟩

/-- The second registration takes the place of the first in the daemon, and both are recorded. -/
theorem shared_label :
    ¬ ∀ (m : MdnsSd) (tr : List Unit) (s : Option Advertiser),
        Run (advertising m) anyStep none tr s → ∀ a ∈ s, a.InSync := by
  intro h
  have hrun : Run (advertising Trial.mdns) anyStep none
      (traceOf (advertising Trial.mdns) anyStep none Trial.unlabeled)
      (endOf (advertising Trial.mdns) anyStep none Trial.unlabeled) :=
    run_endOf (by decide +kernel)
  have hfacts : (endOf (advertising Trial.mdns) anyStep none Trial.unlabeled).any (fun a =>
      a.registered.get? "p" == some "Label Printer._ipp._tcp.local." &&
      a.registered.get? "q" == some "Label Printer._ipp._tcp.local." &&
      (a.daemon.get? "Label Printer._ipp._tcp.local.").isSome) = true := by
    decide +kernel
  obtain ⟨a, ha, hf⟩ := (Option.any_eq_true _ _).mp hfacts
  rw [Bool.and_eq_true, Bool.and_eq_true, beq_iff_eq, beq_iff_eq] at hf
  obtain ⟨⟨hp, hq⟩, hd⟩ := hf
  obtain ⟨info, hi⟩ := Option.isSome_iff_exists.mp hd
  have hown := (h Trial.mdns _ _ hrun a ha).keys _ info hi
  exact absurd (hown.unique hp hq) (by decide)

/-! ## 4. The poller's side -/

/-- What the poller does with the advert of a polled printer (`poll_once`, status.rs). -/
def Advertiser.reconcile (m : MdnsSd) (a : Advertiser) (name : String) (reachable : Bool)
    (copy : Option PrinterRecord) : Advertiser :=
  if reachable then
    match copy with
    | some rec => if !a.isAdvertised name then a.publish m rec else a
    | none => a
  else if a.isAdvertised name then a.withdraw name
  else a

/-- The names are those advertised. -/
def Advertiser.Represents (a : Advertiser) (names : List String) : Prop :=
  ∀ n, n ∈ names ↔ a.isAdvertised n = true

section Poller

variable {m : MdnsSd} {a : Advertiser} {rec : PrinterRecord}

theorem isAdvertised_publish (ha : m.accepts (a.infoOf rec) = true) (n : String) :
    (a.publish m rec).isAdvertised n = true ↔ rec.config.name = n ∨ a.isAdvertised n = true := by
  unfold Advertiser.publish
  cases hn : a.registered.containsKey rec.config.name with
  | true =>
      refine ⟨Or.inr, fun h => h.elim (fun e => e ▸ hn) id⟩
  | false =>
      have hreg : a.registerOne m rec = some
          { a with
            daemon := a.daemon.insert (m.fullnameOf rec) (a.infoOf rec)
            registered := a.registered.insert rec.config.name (m.fullnameOf rec) } := by
        unfold Advertiser.registerOne
        exact if_pos ha
      rw [hreg]
      show ((a.registered.insert rec.config.name (m.fullnameOf rec)).get? n).isSome = true ↔ _
      rw [AssocMap.get?_insert]
      by_cases e : rec.config.name = n
      · rw [if_pos e]
        exact ⟨fun _ => Or.inl e, fun _ => rfl⟩
      · rw [if_neg e]
        exact ⟨Or.inr, fun h => h.elim (fun e' => absurd e' e) id⟩

theorem isAdvertised_withdraw (a : Advertiser) (name n : String) :
    (a.withdraw name).isAdvertised n = true ↔ n ≠ name ∧ a.isAdvertised n = true := by
  unfold Advertiser.withdraw Advertiser.isAdvertised AssocMap.containsKey
  cases hg : a.registered.get? name with
  | none =>
      refine ⟨fun h => ⟨?_, h⟩, And.right⟩
      rintro rfl
      rw [hg] at h
      cases h
  | some fullname =>
      show ((a.registered.erase name).get? n).isSome = true ↔ _
      rw [AssocMap.get?_erase]
      by_cases e : name = n
      · rw [if_pos e]
        exact ⟨fun h => (by cases h), fun h => absurd e.symm h.1⟩
      · rw [if_neg e]
        exact ⟨fun h => ⟨Ne.symm e, h⟩, And.right⟩

/-- **The names in the poller's model are those of the map**, poll by poll. -/
theorem reconcile_represents {names : List String} {name : String} {reachable : Bool}
    {copy : Option PrinterRecord} (hr : a.Represents names)
    (ha : ∀ rec ∈ copy, m.accepts (a.infoOf rec) = true) :
    ∀ names' ∈ reconcileAdvert (some names) name reachable copy,
      (a.reconcile m name reachable copy).Represents names' := by
  have hc : names.contains name = a.isAdvertised name :=
    Bool.eq_iff_iff.mpr (List.contains_iff_mem.trans (hr name))
  intro names' hn
  unfold reconcileAdvert at hn
  rw [Option.map_some] at hn
  cases hn
  unfold Advertiser.reconcile
  cases reachable with
  | true =>
      rw [if_pos rfl, if_pos rfl]
      cases copy with
      | none => exact hr
      | some rec =>
          dsimp only
          rw [hc]
          cases a.isAdvertised name with
          | true => exact hr
          | false =>
              intro n
              show n ∈ names ++ [rec.config.name] ↔ (a.publish m rec).isAdvertised n = true
              rw [isAdvertised_publish (ha rec rfl), List.mem_append, hr n, List.mem_singleton,
                or_comm, eq_comm]
  | false =>
      rw [if_neg Bool.false_ne_true, if_neg Bool.false_ne_true, hc]
      cases a.isAdvertised name with
      | true =>
          intro n
          show n ∈ names.filter (· != name) ↔ (a.withdraw name).isAdvertised n = true
          rw [isAdvertised_withdraw, List.mem_filter, hr n, and_comm, bne_iff_ne]
      | false => exact hr

end Poller

end IppPrinterApp
