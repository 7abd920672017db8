/-
  File:      IppPrinterApp/Served.lean
  Subject:   What the DNS-SD daemon serves while the server runs.

  Three levels: the names the server's model keeps, the map of the advertiser, and the services of
  the daemon, which tells fullnames apart in lower case. The poller of the running server drives the
  advertiser. A printer's label and UUID never change, since no access changes more of a printer's
  configuration than its media, so a service published again is the one that was withdrawn.

  * `daemon_follows_polls`: **the daemon serves a printer exactly if its device was reachable when
    it answered last**, and its map and its services agree, in every state of every run;
  * `runs_where_advertised` -- on which interfaces it does so.
-/
import IppPrinterApp.Discovery
import IppPrinterApp.Mdns
import IppPrinterApp.Queues

namespace IppPrinterApp

open Transition Ledger Logbook

/-! ## 1. The advertiser under the poller -/

section Records

variable {m : MdnsSd} {a : Advertiser} {r rec : PrinterRecord}

/-- A service is made of what is fixed of its printer. -/
theorem infoOf_of_fixed (h : r.fixed = rec.fixed) (a : Advertiser) : a.infoOf r = a.infoOf rec := by
  have hq : r.config.queue = rec.config.queue := congrArg Prod.fst h
  have hu : r.uuid = rec.uuid := congrArg Prod.snd h
  show serviceInfo a.host a.addrs a.port r.config.queue.displayLabel r.config.queue.name
    r.config.queue.makeAndModel r.uuid = a.infoOf rec
  rw [hq, hu]
  rfl

theorem name_of_fixed (h : r.fixed = rec.fixed) : r.config.name = rec.config.name :=
  congrArg (fun e : PrinterConfig × String => e.1.name) h

theorem fullnameOf_of_fixed (h : r.fixed = rec.fixed) (m : MdnsSd) :
    m.fullnameOf r = m.fullnameOf rec :=
  congrArg (fun e : PrinterConfig × String => m.fullname e.1.displayLabel) h

/-- What holds of the advertiser of a registry: it takes every printer, its books balance, and what
    it recorded is of printers of the registry. -/
structure Advertiser.Serves (m : MdnsSd) (registry : PrinterRegistry) (a : Advertiser) : Prop where
  accepted : ∀ rec ∈ registry, m.accepts (a.infoOf rec) = true
  balanced : Balanced ServiceInfo.Describes a.books
  recorded : ∀ n f, a.registered.get? n = some f →
    ∃ rec ∈ registry, rec.config.name = n ∧ m.fullnameOf rec = f

/-- Every printer registers under a fullname of its own. -/
def OwnFullname (m : MdnsSd) (registry : PrinterRegistry) : Prop :=
  ∀ rec ∈ registry, ∀ rec' ∈ registry,
    rec.config.name = rec'.config.name ↔ m.fullnameOf rec = m.fullnameOf rec'

instance {m : MdnsSd} {registry : PrinterRegistry} : Decidable (OwnFullname m registry) :=
  inferInstanceAs (Decidable (∀ rec ∈ registry, ∀ rec' ∈ registry,
    rec.config.name = rec'.config.name ↔ m.fullnameOf rec = m.fullnameOf rec'))

variable {registry : PrinterRegistry}

theorem Advertiser.Serves.publish (h : a.Serves m registry) (hown : OwnFullname m registry)
    (hrec : rec ∈ registry) (hr : r.fixed = rec.fixed) : (a.publish m r).Serves m registry := by
  have hname := name_of_fixed hr
  have hfull := fullnameOf_of_fixed hr m
  -- the fullname is recorded for nobody else
  have hclear : a.registered.containsKey r.config.name = false →
      m.fullnameOf r ∉ a.registered.values := by
    intro hn hmem
    rw [AssocMap.mem_values_iff] at hmem
    obtain ⟨n, hi⟩ := hmem
    obtain ⟨rec', hrec', rfl, hf⟩ := h.recorded n _ hi
    have e := (hown rec hrec rec' hrec').mpr (hfull.symm.trans hf.symm)
    rw [← e, ← hname] at hi
    unfold AssocMap.containsKey at hn
    rw [hi] at hn
    cases hn
  have hbalanced := publish_balanced h.balanced hclear
  unfold Advertiser.publish at hbalanced ⊢
  cases hn : a.registered.containsKey r.config.name with
  | true => exact h
  | false =>
      cases hreg : a.registerOne m r with
      | none => exact h
      | some a' =>
          rw [hn, hreg] at hbalanced
          have hbooks := congrArg Books.index (registerOne_books hreg)
          change a'.registered = a.registered.insert r.config.name (m.fullnameOf r) at hbooks
          have hsame : ∀ rec, a'.infoOf rec = a.infoOf rec := by
            unfold Advertiser.registerOne at hreg
            dsimp only at hreg
            split at hreg
            · cases hreg
              exact fun _ => rfl
            · cases hreg
          refine ⟨fun rec hrec => (hsame rec).symm ▸ h.accepted rec hrec, hbalanced, ?_⟩
          intro n f hi
          change a'.registered.get? n = some f at hi
          rw [hbooks, AssocMap.get?_insert] at hi
          split at hi
          · rename_i e
            exact ⟨rec, hrec, hname.symm.trans e, hfull.symm.trans (Option.some.inj hi)⟩
          · exact h.recorded n f hi

theorem Advertiser.Serves.withdraw (h : a.Serves m registry) (name : String) :
    (a.withdraw name).Serves m registry := by
  have hbalanced := strike_balanced describes_unique h.balanced name
  rw [← withdraw_books] at hbalanced
  unfold Advertiser.withdraw at hbalanced ⊢
  cases hg : a.registered.get? name with
  | none => exact h
  | some fullname =>
      rw [hg] at hbalanced
      refine ⟨h.accepted, hbalanced, fun n f hi => ?_⟩
      change (a.registered.erase name).get? n = some f at hi
      rw [AssocMap.get?_erase] at hi
      split at hi
      · cases hi
      · exact h.recorded n f hi

/-- **A reconciled advert keeps it so**, if the copy is one of a printer of the registry. -/
theorem Advertiser.Serves.reconcile (h : a.Serves m registry) (hown : OwnFullname m registry)
    {copy : Option PrinterRecord} (hcopy : ∀ r ∈ copy, r.fixed ∈ registry.map (·.fixed))
    (name : String) (reachable : Bool) : (a.reconcile m name reachable copy).Serves m registry := by
  unfold Advertiser.reconcile
  split
  · cases copy with
    | none => exact h
    | some r =>
        obtain ⟨rec, hrec, hr⟩ := List.mem_map.mp (hcopy r rfl)
        dsimp only
        split
        · exact h.publish hown hrec hr.symm
        · exact h
  · split
    · exact h.withdraw name
    · exact h

end Records

/-! ## 2. At the start -/

section Start

variable {m : MdnsSd} {a b : Advertiser} {rec : PrinterRecord} {registry todo : PrinterRegistry}

/-- A registration that succeeds. -/
theorem registerOne_some (h : b.registerOne m rec = some a) :
    m.accepts (b.infoOf rec) = true ∧ (∀ rec', a.infoOf rec' = b.infoOf rec') ∧
      a.registered = b.registered.insert rec.config.name (m.fullnameOf rec) := by
  unfold Advertiser.registerOne at h
  dsimp only at h
  split at h
  · rename_i hacc
    cases h
    exact ⟨hacc, fun _ => rfl, rfl⟩
  · cases h

/-- What `register_all` recorded, and that everything was accepted. -/
theorem foldlM_registerOne (h : todo.foldlM (Advertiser.registerOne m) b = some a) :
    (∀ rec ∈ todo, m.accepts (b.infoOf rec) = true) ∧ (∀ rec, a.infoOf rec = b.infoOf rec) ∧
      (∀ n f, a.registered.get? n = some f → b.registered.get? n = some f ∨
        ∃ rec ∈ todo, rec.config.name = n ∧ m.fullnameOf rec = f) ∧
      ∀ n, a.isAdvertised n = true ↔
        b.isAdvertised n = true ∨ n ∈ todo.map (·.config.name) := by
  induction todo generalizing b with
  | nil =>
      cases h
      exact ⟨fun _ hr => absurd hr List.not_mem_nil, fun _ => rfl, fun _ _ hi => Or.inl hi,
        fun n => by simp⟩
  | cons rec todo ih =>
      rw [List.foldlM_cons] at h
      obtain ⟨b', hb', h'⟩ := Option.bind_eq_some_iff.mp h
      obtain ⟨hacc, hsame, hreg⟩ := registerOne_some hb'
      obtain ⟨haccs, hsames, hrecs, hadv⟩ := ih h'
      have hget : ∀ n, b'.registered.get? n =
          if rec.config.name = n then some (m.fullnameOf rec) else b.registered.get? n := by
        intro n
        rw [hreg, AssocMap.get?_insert]
      refine ⟨fun r hr => ?_, fun r => (hsames r).trans (hsame r), fun n f hi => ?_, fun n => ?_⟩
      · rcases List.mem_cons.mp hr with rfl | hr
        · exact hacc
        · rw [← hsame]
          exact haccs r hr
      · rcases hrecs n f hi with hi | ⟨r, hr, hn, hf⟩
        · rw [hget] at hi
          split at hi
          · rename_i e
            exact Or.inr ⟨rec, List.mem_cons_self, e, Option.some.inj hi⟩
          · exact Or.inl hi
        · exact Or.inr ⟨r, List.mem_cons_of_mem rec hr, hn, hf⟩
      · have hone : b'.isAdvertised n = true ↔ rec.config.name = n ∨ b.isAdvertised n = true := by
          show (b'.registered.get? n).isSome = true ↔ _ ∨ (b.registered.get? n).isSome = true
          rw [hget]
          by_cases e : rec.config.name = n <;> simp [e]
        rw [hadv, hone, List.map_cons, List.mem_cons, or_assoc, or_left_comm]
        exact or_congr_right (or_congr_left eq_comm)

theorem registerAll_serves {host : String} {addrs : List String} {port : Nat}
    (hown : OwnFullname m registry)
    (h : Advertiser.registerAll m host addrs port registry = some a) :
    a.Serves m registry ∧ a.Represents (registry.map (·.config.name)) := by
  obtain ⟨hacc, hsame, hrec, hadv⟩ := foldlM_registerOne h
  refine ⟨⟨fun rec hr => ?_, registerAll_balanced hown h, fun n f hi => ?_⟩, fun n => ?_⟩
  · rw [hsame]
    exact hacc rec hr
  · rcases hrec n f hi with hi | hr
    · cases hi
    · exact hr
  · rw [hadv]
    exact ⟨Or.inr, fun h => h.elim (fun e => (nomatch e)) id⟩

end Start

/-! ## 3. The running server -/

/-- The daemon keeps a service under a key of its fullname: the fullname in lower case, however a
    registration or an unregistration spells it. The advertiser's map is followed up to that
    spelling, since what it records is only handed back to the daemon. -/
def MdnsSd.keyed (m : MdnsSd) (key : String → String) : MdnsSd where
  accepts := m.accepts
  fullname instanceName := key (m.fullname instanceName)

/-- The advertiser after an action: the poller drives it. -/
def Advertiser.driven (m : MdnsSd) (a : Advertiser) (s : System) : Action → Advertiser
  | .poll =>
    match s.poller with
    | .advert cfg reachable copy _ _ => a.reconcile m cfg.name reachable copy
    | _ => a
  | _ => a

/-- The server with the reports so far and its advertiser. -/
def serving (m : MdnsSd) (o : Options) :
    Machine (System × (List (String × Bool) × Advertiser)) Action Event :=
  (server o).withHistory fun h s act => (h.1 ++ (s.report act).toList, h.2.driven m s act)

/-- What holds of the server and its advertiser. -/
structure ServesAdverts (m : MdnsSd) (registry : PrinterRegistry) (s : System) (a : Advertiser)
    (names : List String) : Prop where
  fixed : s.app.printers.map (·.fixed) = registry.map (·.fixed)
  copies : ∀ cfg reachable copy todo changed, s.poller = .advert cfg reachable copy todo changed →
    ∀ r ∈ copy, r.fixed ∈ registry.map (·.fixed)
  serves : a.Serves m registry
  represents : a.Represents names

/-- The names of a deployment's printers. -/
def Deployment.names (d : Deployment) : List String := d.printers.map fun e => e.1.name

theorem boot_names (d : Deployment) :
    (boot d).app.printers.map (·.config.name) = d.names := by
  show (d.printers.map fun e => PrinterRecord.new e.1 e.2).map (·.config.name) = _
  rw [List.map_map]
  rfl

section Served

variable {m : MdnsSd} {o : Options} {s s' : System} {act : Action} {ev tr : List Event}
  {registry : PrinterRegistry} {a : Advertiser} {names names' initial : List String}
  {log log' : List (String × Bool)}

/-- The copy behind an advert is of a printer of the registry. -/
theorem ServesAdverts.step_copies (hS : ServesAdverts m registry s a names)
    (h : step o s act = some (s', ev)) : ∀ cfg reachable copy todo changed,
      s'.poller = .advert cfg reachable copy todo changed →
        ∀ r ∈ copy, r.fixed ∈ registry.map (·.fixed) := by
  intro cfg reachable copy todo changed hp' r hr
  have hkeep : s'.poller = s.poller → r.fixed ∈ registry.map (·.fixed) := fun e =>
    hS.copies cfg reachable copy todo changed (e ▸ hp') r hr
  cases act with
  | poll =>
      obtain ⟨pc, hpc, _, rfl⟩ := step_poll h
      have he : pc = .advert cfg reachable copy todo changed := hp'
      subst he
      cases hp : s.poller with
      | write c status todo₀ changed₀ =>
          rw [hp] at hpc
          cases hpc
          -- the record found, as the report was applied to it
          split at hr
          · obtain ⟨e, he, rfl⟩ := Option.map_eq_some_iff.mp hr
            obtain ⟨r₀, hr₀, rfl⟩ := Option.map_eq_some_iff.mp he
            rw [status.applyTo_fixed, ← hS.fixed]
            exact List.mem_map_of_mem (List.mem_of_find?_eq_some hr₀)
          · cases hr
      | next todo₀ changed₀ =>
          rw [hp] at hpc
          cases todo₀ with
          | nil => cases changed₀ <;> cases hpc
          | cons => cases hpc
      | _ => rw [hp] at hpc; cases hpc
  | pollTick =>
      obtain ⟨_, _, rfl⟩ := step_pollTick h
      cases hp'
  | pollAnswer status =>
      obtain ⟨_, _, _, pc, _, _, rfl, ⟨_, rfl⟩ | ⟨_, _, rfl⟩⟩ := step_pollAnswer h
      · cases hp'
      · cases hp'
  | _ => exact hkeep (step_poller_same h rfl)

/-- **Every step keeps the advertiser to the names of the model.** -/
theorem ServesAdverts.step (hown : OwnFullname m registry)
    (hS : ServesAdverts m registry s a names) (hI : AdvertsHold initial s log names)
    (h : step o s act = some (s', ev)) (hI' : AdvertsHold initial s' log' names') :
    ServesAdverts m registry s' (a.driven m s act) names' := by
  have hfixed := (step_fixed h).trans hS.fixed
  have hcopies := hS.step_copies h
  by_cases hadv : ∃ cfg reachable copy todo changed,
      act = .poll ∧ s.poller = .advert cfg reachable copy todo changed
  · obtain ⟨cfg, reachable, copy, todo, changed, rfl, hp⟩ := hadv
    have hdriven : a.driven m s .poll = a.reconcile m cfg.name reachable copy := by
      unfold Advertiser.driven
      rw [hp]
    have hcopy := hS.copies _ _ _ _ _ hp
    have hnames : reconcileAdvert (some names) cfg.name reachable copy = some names' := by
      obtain ⟨pc, _, _, hs'⟩ := step_poll h
      have hadv' := hI'.adverts
      rw [hs'] at hadv'
      change s.poller.advertsAfter s.adverts = some names' at hadv'
      rw [hp, hI.adverts] at hadv'
      exact hadv'
    rw [hdriven]
    refine ⟨hfixed, hcopies, hS.serves.reconcile hown hcopy cfg.name reachable,
      reconcile_represents hS.represents (fun rec hrec => ?_) names' hnames⟩
    obtain ⟨rec', hrec', e⟩ := List.mem_map.mp (hcopy rec hrec)
    rw [infoOf_of_fixed e.symm]
    exact hS.serves.accepted rec' hrec'
  · have hdriven : a.driven m s act = a := by
      unfold Advertiser.driven
      cases act with
      | poll =>
          cases hp : s.poller with
          | advert cfg reachable copy todo changed => exact absurd ⟨_, _, _, _, _, rfl, hp⟩ hadv
          | _ => rfl
      | _ => rfl
    have hsame : s'.adverts = s.adverts := by
      by_cases hpoll : act = .poll
      · subst hpoll
        obtain ⟨pc, _, _, rfl⟩ := step_poll h
        refine PollerPc.advertsAfter_same ?_ s.adverts
        cases hp : s.poller with
        | advert cfg reachable copy todo changed => exact absurd ⟨_, _, _, _, _, rfl, hp⟩ hadv
        | _ => rfl
      · exact step_adverts_same h hpoll
    have hnames : names' = names :=
      Option.some.inj (hI'.adverts.symm.trans (hsame.trans hI.adverts))
    rw [hdriven, hnames]
    exact ⟨hfixed, hcopies, hS.serves, hS.represents⟩

/-- **What the daemon serves**: in every state of every run, the map of the advertiser and the
    services of its daemon agree, and the daemon has a service of a printer exactly if its device
    was reachable by its last report, or has not been reported on yet; but for the printer whose
    report has just been written. Every printer needs a fullname of its own, in lower case. -/
theorem daemon_follows_polls {key : String → String}
    {G : System × (List (String × Bool) × Advertiser) → Action → Prop}
    {d : Deployment} {host : String} {addrs : List String} {port : Nat} {a₀ : Advertiser}
    (hnames : d.names.Nodup) (hadv : d.adverts = some d.names)
    (hown : OwnFullname (m.keyed key) (boot d).app.printers)
    (hreg : Advertiser.registerAll (m.keyed key) host addrs port (boot d).app.printers = some a₀)
    (h : Run (serving (m.keyed key) o) G (boot d, ([], a₀)) tr (s, (log, a))) :
    a.InSync ∧
      ∀ name, s.poller.advertDue ≠ some name →
        ((∃ fullname info, a.daemon.get? fullname = some info ∧ info.Describes name) ↔
          (lastOf name log).getD (d.names.contains name) = true) := by
  obtain ⟨hserves, hrep⟩ := registerAll_serves hown hreg
  rw [boot_names] at hrep
  have hinv : ∃ names, AdvertsHold d.names s log names ∧
      ServesAdverts (m.keyed key) (boot d).app.printers s a names := by
    refine Run.always (I := fun p => ∃ names, AdvertsHold d.names p.1 p.2.1 names ∧
      ServesAdverts (m.keyed key) (boot d).app.printers p.1 p.2.2 names) ?_ ?_ h
    · exact ⟨d.names, boot_advertsHold hadv hnames, rfl, fun _ _ _ _ _ e => (nomatch e), hserves,
        hrep⟩
    · intro p act p' ev ⟨names, hI, hS⟩ _ hs
      obtain ⟨hstep, hnote⟩ := step_withHistory hs
      rw [hnote]
      obtain ⟨names', hI'⟩ := hI.step hstep
      exact ⟨names', hI', hS.step hown hI hstep hI'⟩
  obtain ⟨names, hI, hS⟩ := hinv
  have hsync := hS.serves.balanced.agrees describes_unique
  refine ⟨hsync, fun name hdue => ?_⟩
  rw [← hI.follows name hdue, hS.represents name]
  exact (hsync.names name).symm

end Served

namespace Trial

/-- The advertiser of the two printers, of different labels. -/
def labels : Deployment :=
  { advertised with printers :=
      [({ config "p" with displayName := "Front desk" }, "uuid-p"), (config "q", "uuid-q")] }

/-- The daemon that keeps fullnames in lower case. -/
abbrev lowerMdns : MdnsSd := mdns.keyed String.toLower

def labelsAdvertiser : Advertiser :=
  (Advertiser.registerAll lowerMdns "host" [] 8631 (boot labels).app.printers).getD (.new "" [] 0)

def servedOff : System × (List (String × Bool) × Advertiser) :=
  endOf (serving lowerMdns options) anyStep (boot labels, ([], labelsAdvertiser)) offThenPrinting

theorem labels_registered : Advertiser.registerAll lowerMdns "host" [] 8631
    (boot labels).app.printers = some labelsAdvertiser := by
  have h : (Advertiser.registerAll lowerMdns "host" [] 8631
      (boot labels).app.printers).isSome = true := by
    decide +kernel
  obtain ⟨a, ha⟩ := Option.isSome_iff_exists.mp h
  unfold labelsAdvertiser
  rw [ha]
  rfl

theorem servedOff_run : Run (serving lowerMdns options) anyStep
    (boot labels, ([], labelsAdvertiser))
    (traceOf (serving lowerMdns options) anyStep (boot labels, ([], labelsAdvertiser))
      offThenPrinting)
    (servedOff.1, (servedOff.2.1, servedOff.2.2)) := by
  rw [Prod.mk.eta]
  exact run_endOf (by decide +kernel)

/-- The service of the first printer is gone. -/
example : servedOff.2.2.daemon.keys.length = 1 := by decide +kernel

end Trial

/-- After the round in which the first device was off. -/
theorem daemon_follows_polls_off :
    Trial.servedOff.2.2.InSync ∧
      ∀ name, Trial.servedOff.1.poller.advertDue ≠ some name →
        ((∃ fullname info, Trial.servedOff.2.2.daemon.get? fullname = some info ∧
            info.Describes name) ↔
          (lastOf name Trial.servedOff.2.1).getD (Trial.labels.names.contains name) = true) :=
  daemon_follows_polls (by decide +kernel) rfl (by decide +kernel) Trial.labels_registered
    Trial.servedOff_run

/-! ## 4. Where it runs -/

/-- An interface as the system enumerates it (`if_addrs::Interface`). -/
structure Interface where
  name : String
  ip : String
  linkLocal : Bool
  loopback : Bool
  operUp : Bool
  deriving DecidableEq, Repr

/-- `VIRTUAL_IFACE_PREFIXES`. -/
def VIRTUAL_IFACE_PREFIXES : List String :=
  ["veth", "docker", "br-", "virbr", "vnet", "vmnet", "vboxnet"]

/-- `is_virtual_iface`. -/
def isVirtualIface (name : String) : Bool :=
  VIRTUAL_IFACE_PREFIXES.any fun p => p.toList.isPrefixOf name.toList

/-- Plain bridges and tunnels are no container's. -/
example : isVirtualIface "veth1a2b" = true ∧ isVirtualIface "br-7c" = true ∧
    isVirtualIface "br0" = false ∧ isVirtualIface "tun0" = false := by decide

/-- The white space that `str::trim` takes off. -/
def isWhiteSpace (c : Char) : Bool :=
  (9 ≤ c.toNat && c.toNat ≤ 13) || (0x2000 ≤ c.toNat && c.toNat ≤ 0x200a) ||
    [0x20, 0x85, 0xa0, 0x1680, 0x2028, 0x2029, 0x202f, 0x205f, 0x3000].contains c.toNat

/-- The interface is named in the list of the environment. -/
def namedIn (allow : String) (name : String) : Bool :=
  (allow.toList.splitOn ',').any fun n =>
    (n.dropWhile isWhiteSpace).rdropWhile isWhiteSpace == name.toList

example : namedIn "eth0, wlan0" "wlan0" = true ∧ namedIn "eth0, wlan0" "wlan" = false := by decide

/-- `mdns_ifaces`, on what the system enumerates: `none` where that fails. -/
def mdnsIfaces (enumerated : Option (List Interface)) (allow : Option String) : List Interface :=
  match enumerated with
  | none => []
  | some ifaces => (ifaces.filter (!·.linkLocal)).filter fun i =>
    match allow with
    | some allow => namedIn allow i.name
    | none => !i.loopback && i.operUp && !isVirtualIface i.name

/-- The daemon of `register_all` runs on the chosen interfaces, and on all if none is chosen. -/
def runsOn (chosen : List Interface) (i : Interface) : Bool :=
  chosen.isEmpty || chosen.any (·.name == i.name)

/-- **It runs where it advertises**, and, unless nothing qualifies, only on interfaces that the
    environment names or, without a list, on none of a container or virtual machine. -/
theorem runs_where_advertised (ifaces : List Interface) (allow : Option String) :
    (∀ i ∈ mdnsIfaces (some ifaces) allow,
      i ∈ ifaces ∧ i.linkLocal = false ∧ runsOn (mdnsIfaces (some ifaces) allow) i = true) ∧
    (mdnsIfaces (some ifaces) allow ≠ [] →
      ∀ i, runsOn (mdnsIfaces (some ifaces) allow) i = true →
        (∀ list ∈ allow, namedIn list i.name = true) ∧
        (allow = none → isVirtualIface i.name = false)) := by
  constructor
  · intro i hi
    have hmem := List.mem_of_mem_filter hi
    refine ⟨List.mem_of_mem_filter hmem, by simpa using (List.mem_filter.mp hmem).2, ?_⟩
    unfold runsOn
    simp only [Bool.or_eq_true, List.any_eq_true]
    exact Or.inr ⟨i, hi, beq_self_eq_true _⟩
  · intro hne i hrun
    have hany : ∃ j ∈ mdnsIfaces (some ifaces) allow, (j.name == i.name) = true := by
      unfold runsOn at hrun
      simpa [hne] using hrun
    obtain ⟨j, hj, hname⟩ := hany
    have hsel := (List.mem_filter.mp hj).2
    rw [← beq_iff_eq.mp hname]
    cases allow with
    | some list => exact ⟨fun _ h => Option.some.inj h ▸ hsel, nofun⟩
    | none => exact ⟨nofun, fun _ => by simpa using (Bool.and_eq_true_iff.mp hsel).2⟩

end IppPrinterApp
