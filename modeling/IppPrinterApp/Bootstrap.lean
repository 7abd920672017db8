/-
  File:      IppPrinterApp/Bootstrap.lean
  Subject:   The state file and `bootstrap_printers` (state.rs, server.rs).

  At its start the server loads the printers it knew, lists the devices, and registers a printer
  for every device that is not there yet; "there" is asked by device URI, while everything
  afterwards finds a printer by name. The proposed name is a slug of free-form device text.

  * `configs_bootstrapRecords` -- the loop is a merge of offers (`MergeNew.merge`) keyed by URI;
  * `printerNameFromUri_inj` -- two devices get the same name exactly if their texts have the
    same words;
  * `bootstrap_routes_iff`: **every printer is found under its own name exactly if the devices
    registered in the round bring new words**; `same_model_twice` are two printers of one model.

  JSON is printed and parsed by `serde_json`, which is a parameter (`SerdeJson`).
-/
import Mathlib.Data.List.DropRight
import IppPrinterApp.Printer
import IppPrinterApp.Lib.MergeNew
import IppPrinterApp.Lib.Words

namespace IppPrinterApp

open MergeNew Words

/-! ## 1. The state file -/

/-- What is at the state path: octets, or nothing that can be opened. -/
abbrev StateFile := Option ByteArray

/-- `fs::read_to_string`: octets that are no UTF-8 are an error too. -/
def readToString (file : StateFile) : Option String := file.bind String.fromUTF8?

/-- What the server calls in `serde_json`, at `PersistedState`. -/
structure SerdeJson where
  toStringPretty : List PrinterConfig → String
  fromStr : String → Option (List PrinterConfig)

/-- Parsing undoes printing, at these printers. -/
def SerdeJson.Undoes (j : SerdeJson) (printers : List PrinterConfig) : Prop :=
  j.fromStr (j.toStringPretty printers) = some printers

namespace PersistedState

/-- `PersistedState::load`: a missing or unparseable file is the empty state. -/
def load (j : SerdeJson) (file : StateFile) : List PrinterConfig :=
  ((readToString file).bind j.fromStr).getD []

/-- `PersistedState::save`, when it succeeds. -/
def save (j : SerdeJson) (printers : List PrinterConfig) : StateFile :=
  some (j.toStringPretty printers).toByteArray

end PersistedState

theorem readToString_toByteArray (s : String) : readToString (some s.toByteArray) = some s := by
  unfold readToString
  rw [Option.bind_some, String.fromUTF8?, dif_pos s.isValidUTF8]
  rfl

theorem load_none (j : SerdeJson) : PersistedState.load j none = [] := rfl

/-- **What was saved is loaded.** -/
theorem load_save {j : SerdeJson} {printers : List PrinterConfig} (h : j.Undoes printers) :
    PersistedState.load j (PersistedState.save j printers) = printers := by
  unfold PersistedState.load PersistedState.save
  rw [readToString_toByteArray, Option.bind_some, h, Option.getD_some]

/-! ## 2. Proposed names -/

/-- A character of the slug: ASCII letters and digits in lower case, anything else a `_`. -/
def slugChar (c : Char) : Char := if c.isAlphanum then c.toLower else '_'

/-- The words of a device's text: of its description, or of its URI if there is none. -/
def slugWords (uri info : String) : List (List Char) :=
  let source := if info.isEmpty then uri else info
  let slug := source.toList.map slugChar
  let trimmed := (slug.dropWhile (· == '_')).rdropWhile (· == '_')
  words '_' trimmed

/-- `printer_name_from_uri`. -/
def printerNameFromUri (uri info : String) : String :=
  let collapsed := join '_' (slugWords uri info)
  if collapsed.isEmpty then "printer" else String.ofList collapsed

/-- The words a proposed name is made of. -/
def nameWords (uri info : String) : List (List Char) :=
  match slugWords uri info with
  | [] => ["printer".toList]
  | ws => ws

theorem isWord_nameWords (uri info : String) : ∀ w ∈ nameWords uri info, IsWord '_' w := by
  unfold nameWords
  split
  · intro w hw
    rw [List.mem_singleton.mp hw]
    exact ⟨by decide, by decide⟩
  · exact fun w hw => isWord_of_mem_words hw

theorem printerNameFromUri_toList (uri info : String) :
    (printerNameFromUri uri info).toList = join '_' (nameWords uri info) := by
  have hwords : ∀ w ∈ slugWords uri info, IsWord '_' w := fun w hw => isWord_of_mem_words hw
  unfold printerNameFromUri nameWords
  dsimp only
  cases hs : slugWords uri info with
  | nil => rfl
  | cons w ws =>
      rw [hs] at hwords
      have hne : join '_' (w :: ws) ≠ [] := fun e =>
        List.cons_ne_nil w ws ((join_eq_nil_iff hwords).mp e)
      rw [if_neg (by simpa using hne), String.toList_ofList]

/-- **Two devices get the same name exactly if their texts have the same words.** -/
theorem printerNameFromUri_inj {uri info uri' info' : String} :
    printerNameFromUri uri info = printerNameFromUri uri' info' ↔
      nameWords uri info = nameWords uri' info' := by
  rw [← String.toList_inj, printerNameFromUri_toList, printerNameFromUri_toList]
  constructor
  · intro h
    rw [← words_join (isWord_nameWords uri info), h, words_join (isWord_nameWords uri' info')]
  · exact fun h => by rw [h]

example : printerNameFromUri "usb://1" "Label-Printer (2)" = "label_printer_2" := by decide +kernel

/-! ## 3. The loop over the devices -/

/-- `DiscoveredDevice` (device.rs). -/
structure DiscoveredDevice where
  info : String
  uri : String
  deviceId : String
  deriving DecidableEq, Repr

/-- What a bootstrap is run with: what the backend lists, and the two mappings. -/
structure Round where
  devices : List DiscoveredDevice
  /-- `driver_for_device`, from device id and URI. -/
  driverForDevice : String → String → Option String
  /-- `make_config`, from name, info, driver, URI and device id. -/
  makeConfig : String → String → String → String → String → Option PrinterConfig

/-- One device. `uuids` are the UUIDs drawn for the records, in order. -/
def bootstrapDevice (r : Round) (uuids : Nat → String) (records : PrinterRegistry)
    (d : DiscoveredDevice) : PrinterRegistry :=
  match r.driverForDevice d.deviceId d.uri with
  | none => records
  | some driver =>
    let name := printerNameFromUri d.uri d.info
    if records.any fun rec => rec.config.deviceUri == d.uri then records
    else
      match r.makeConfig name d.info driver d.uri d.deviceId with
      | none => records
      | some cfg => records ++ [PrinterRecord.new cfg (uuids records.length)]

/-- The records after the loop. -/
def bootstrapRecords (r : Round) (uuids : Nat → String) (loaded : List PrinterConfig) :
    PrinterRegistry :=
  r.devices.foldl (bootstrapDevice r uuids)
    (loaded.mapIdx fun i cfg => PrinterRecord.new cfg (uuids i))

/-- `Server::bootstrap_printers`: the registry and the state file afterwards. -/
def bootstrapPrinters (j : SerdeJson) (r : Round) (uuids : Nat → String) (file : StateFile) :
    PrinterRegistry × StateFile :=
  let records := bootstrapRecords r uuids (PersistedState.load j file)
  (records, PersistedState.save j (configs records))

/-- The configuration a device is offered, if it has a driver and a configuration. -/
def Round.offer (r : Round) (d : DiscoveredDevice) : Option PrinterConfig :=
  (r.driverForDevice d.deviceId d.uri).bind fun driver =>
    r.makeConfig (printerNameFromUri d.uri d.info) d.info driver d.uri d.deviceId

/-- The printers known, with those of the round merged in. -/
def Round.merged (r : Round) (known : List PrinterConfig) : List PrinterConfig :=
  merge (·.deviceUri) (·.uri) r.offer known r.devices

/-- The devices a printer is registered for in a round. -/
def Round.taken (r : Round) (known : List PrinterConfig) : List DiscoveredDevice :=
  MergeNew.taken (·.deviceUri) (·.uri) r.offer known r.devices

theorem configs_bootstrapDevice (r : Round) (uuids : Nat → String) (records : PrinterRegistry)
    (d : DiscoveredDevice) :
    configs (bootstrapDevice r uuids records d) =
      addNew (·.deviceUri) (·.uri) r.offer (configs records) d := by
  have hany : (records.any fun rec => rec.config.deviceUri == d.uri) = true ↔
      d.uri ∈ (configs records).map (·.deviceUri) := by
    unfold configs
    rw [List.any_eq_true, List.map_map, List.mem_map]
    exact exists_congr fun rec => and_congr_right fun _ => beq_iff_eq
  unfold bootstrapDevice addNew Round.offer
  cases r.driverForDevice d.deviceId d.uri with
  | none => exact ((congrArg₂ _ rfl (List.append_nil _)).trans (ite_self _)).symm
  | some driver =>
      rw [Option.bind_some]
      dsimp only
      by_cases hk : d.uri ∈ (configs records).map (·.deviceUri)
      · rw [if_pos (hany.mpr hk), if_pos hk]
      · rw [if_neg fun h => hk (hany.mp h), if_neg hk]
        cases r.makeConfig (printerNameFromUri d.uri d.info) d.info driver d.uri d.deviceId with
        | none => exact (List.append_nil _).symm
        | some cfg => exact List.map_append

/-- **The loop merges the offers of the round into what was loaded.** -/
theorem configs_bootstrapRecords (r : Round) (uuids : Nat → String) (loaded : List PrinterConfig) :
    configs (bootstrapRecords r uuids loaded) = r.merged loaded := by
  have key : ∀ (ds : List DiscoveredDevice) (records : PrinterRegistry),
      configs (ds.foldl (bootstrapDevice r uuids) records) =
        merge (·.deviceUri) (·.uri) r.offer (configs records) ds := by
    intro ds
    induction ds with
    | nil => exact fun records => rfl
    | cons d ds ih =>
        intro records
        rw [List.foldl_cons, ih, configs_bootstrapDevice, merge_cons]
  unfold bootstrapRecords Round.merged
  rw [key]
  have hloaded : configs (loaded.mapIdx fun i cfg => PrinterRecord.new cfg (uuids i)) = loaded := by
    refine List.ext_getElem? fun i => ?_
    rw [configs, List.getElem?_map, List.getElem?_mapIdx, Option.map_map]
    exact Option.map_id'
  rw [hloaded]

theorem configs_bootstrapPrinters (j : SerdeJson) (r : Round) (uuids : Nat → String)
    (file : StateFile) :
    configs (bootstrapPrinters j r uuids file).1 = r.merged (PersistedState.load j file) :=
  configs_bootstrapRecords r uuids (PersistedState.load j file)

/-- A round without devices changes nothing. -/
theorem merged_of_no_devices {r : Round} (h : r.devices = []) (known : List PrinterConfig) :
    r.merged known = known := by
  unfold Round.merged
  rw [h]
  rfl

/-! ## 4. Names -/

/-- `make_config` keeps the name it is given. -/
def Round.KeepsName (r : Round) : Prop :=
  ∀ name info driver uri deviceId cfg,
    r.makeConfig name info driver uri deviceId = some cfg → cfg.name = name

/-- Every printer is found under its own name, which is how requests, workers, the poller and the
    media page find one. -/
structure RoutesByName (printers : PrinterRegistry) : Prop where
  distinct : ((configs printers).map (·.name)).Nodup
  found : ∀ p ∈ printers, findPrinter printers p.config.name = some p

/-- Distinct names are all it takes. -/
theorem routesByName_of_nodup {printers : PrinterRegistry}
    (h : ((configs printers).map (·.name)).Nodup) : RoutesByName printers := by
  refine ⟨h, ?_⟩
  induction printers with
  | nil => exact fun p hp => absurd hp List.not_mem_nil
  | cons q ps ih =>
      have hmap : (configs (q :: ps)).map (·.name) = q.config.name :: (configs ps).map (·.name) := rfl
      rw [hmap, List.nodup_cons] at h
      intro p hp
      unfold findPrinter
      rcases List.mem_cons.mp hp with rfl | hp
      · exact List.find?_cons_of_pos (beq_self_eq_true p.config.name)
      · have hne : q.config.name ≠ p.config.name := fun e => h.1 (by
          rw [e, configs, List.map_map]
          exact List.mem_map_of_mem hp)
        rw [List.find?_cons_of_neg (by simpa using hne)]
        exact ih h.2 p hp

/-- **The devices registered bring new words**: no two of them the same ones, and none those of a
    name that is known. -/
structure NewWords (known : List PrinterConfig) (taken : List DiscoveredDevice) : Prop where
  unlike : taken.Pairwise fun d d' => nameWords d.uri d.info ≠ nameWords d'.uri d'.info
  unknown : ∀ d ∈ taken, ∀ cfg ∈ known, cfg.name ≠ printerNameFromUri d.uri d.info

/-- The names after a round: those known, then the proposed names of the devices registered. -/
theorem merged_names {r : Round} (hk : r.KeepsName) (known : List PrinterConfig) :
    (r.merged known).map (·.name) =
      known.map (·.name) ++ (r.taken known).map fun d => printerNameFromUri d.uri d.info := by
  obtain ⟨added, hm, hf⟩ := @merge_eq _ _ _ _ PrinterConfig.deviceUri DiscoveredDevice.uri
    r.offer known r.devices
  have hname : ∀ d cfg, r.offer d = some cfg → cfg.name = printerNameFromUri d.uri d.info := by
    intro d cfg ho
    obtain ⟨driver, _, hcfg⟩ := Option.bind_eq_some_iff.mp ho
    exact hk _ _ _ _ _ cfg hcfg
  have hadded : ∀ {ds : List DiscoveredDevice} {cfgs : List PrinterConfig},
      List.Forall₂ (fun d cfg => r.offer d = some cfg) ds cfgs →
      cfgs.map (·.name) = ds.map fun d => printerNameFromUri d.uri d.info := by
    intro ds cfgs hf
    induction hf with
    | nil => rfl
    | cons ho _ ih => rw [List.map_cons, List.map_cons, ih, hname _ _ ho]
  unfold Round.merged Round.taken
  rw [hm, List.map_append, hadded hf]

theorem merged_names_nodup_iff {r : Round} (hk : r.KeepsName) {known : List PrinterConfig}
    (hn : (known.map (·.name)).Nodup) :
    ((r.merged known).map (·.name)).Nodup ↔ NewWords known (r.taken known) := by
  rw [merged_names hk, List.nodup_append]
  have hpair : ((r.taken known).map fun d => printerNameFromUri d.uri d.info).Nodup ↔
      (r.taken known).Pairwise fun d d' => nameWords d.uri d.info ≠ nameWords d'.uri d'.info := by
    rw [List.nodup_iff_pairwise_ne, List.pairwise_map]
    exact List.Pairwise.iff fun d d' => not_congr printerNameFromUri_inj
  rw [hpair]
  constructor
  · rintro ⟨_, hu, hd⟩
    refine ⟨hu, fun d hdt cfg hcfg => ?_⟩
    exact hd cfg.name (List.mem_map_of_mem hcfg) (printerNameFromUri d.uri d.info)
      (List.mem_map.mpr ⟨d, hdt, rfl⟩)
  · rintro ⟨hu, hd⟩
    refine ⟨hn, hu, fun n hn' m hm => ?_⟩
    obtain ⟨cfg, hcfg, rfl⟩ := List.mem_map.mp hn'
    obtain ⟨d, hdt, rfl⟩ := List.mem_map.mp hm
    exact hd d hdt cfg hcfg

/-- **After a bootstrap every printer is found under its own name exactly if the devices it
    registered bring new words**, given that the names loaded were distinct. -/
theorem bootstrap_routes_iff {j : SerdeJson} {r : Round} {uuids : Nat → String} {file : StateFile}
    (hk : r.KeepsName) (hn : ((PersistedState.load j file).map (·.name)).Nodup) :
    RoutesByName (bootstrapPrinters j r uuids file).1 ↔
      NewWords (PersistedState.load j file) (r.taken (PersistedState.load j file)) := by
  rw [← merged_names_nodup_iff hk hn, ← configs_bootstrapPrinters j r uuids file]
  exact ⟨fun h => h.distinct, routesByName_of_nodup⟩

/-! ## 5. Devices to run it with -/

namespace Trial

/-- A printer without media. -/
def configFor (name uri : String) : PrinterConfig where
  name
  displayName := ""
  driverName := "label"
  makeAndModel := "Label Printer"
  deviceId := ""
  deviceUri := uri
  dpi := 203
  printheadWidthDots := 384
  mediaNames := []
  mediaSizes := []
  mediaSizeMin := (0, 0)
  mediaSizeMax := (0, 0)
  darkness := 50
  documentFormats := []

/-- A text in quotes; none of those here has a character to escape. -/
def stringText (s : String) : String := "\"" ++ s ++ "\""

/-- An array, each item on a line of its own. -/
def arrayText (indent : String) (items : List String) : String :=
  match items with
  | [] => "[]"
  | _ =>
    "[" ++ ",".intercalate (items.map fun item => "\n" ++ indent ++ "  " ++ item) ++
      "\n" ++ indent ++ "]"

def sizeText (indent : String) (size : SizeHmm) : String :=
  arrayText indent [toString size.1, toString size.2]

/-- Its entry in the state file. -/
def entryText (cfg : PrinterConfig) : String :=
  let fields :=
    [("name", stringText cfg.name),
     ("display_name", stringText cfg.displayName),
     ("driver_name", stringText cfg.driverName),
     ("make_and_model", stringText cfg.makeAndModel),
     ("device_id", stringText cfg.deviceId),
     ("device_uri", stringText cfg.deviceUri),
     ("dpi", toString cfg.dpi),
     ("printhead_width_dots", toString cfg.printheadWidthDots),
     ("media_names", arrayText "      " (cfg.mediaNames.map stringText)),
     ("media_sizes", arrayText "      " (cfg.mediaSizes.map (sizeText "        "))),
     ("media_size_min", sizeText "      " cfg.mediaSizeMin),
     ("media_size_max", sizeText "      " cfg.mediaSizeMax),
     ("darkness", toString cfg.darkness),
     ("document_formats", arrayText "      " (cfg.documentFormats.map stringText))]
  "\x7b" ++ ",".intercalate (fields.map fun f => "\n      \"" ++ f.1 ++ "\": " ++ f.2) ++
    "\n    \x7d"

/-- The state file with these printers. -/
def stateText (printers : List PrinterConfig) : String :=
  "\x7b\n  \"printers\": " ++ arrayText "  " (printers.map entryText) ++ "\n\x7d"

/-- A parser that knows the text of one list. -/
def json (printers : List PrinterConfig) : SerdeJson where
  toStringPretty := stateText
  fromStr s := if s = stateText printers then some printers else none

theorem json_undoes (printers : List PrinterConfig) : (json printers).Undoes printers :=
  if_pos rfl

/-- A backend with one driver and a callback that takes over what it is given. -/
def roundOf (devices : List DiscoveredDevice) : Round where
  devices
  driverForDevice _ _ := some "label"
  makeConfig name _ _ uri _ := some (configFor name uri)

theorem roundOf_keepsName (devices : List DiscoveredDevice) : (roundOf devices).KeepsName := by
  intro name info driver uri deviceId cfg h
  cases h
  rfl

def uuids (n : Nat) : String := toString n

def labelPrinter : DiscoveredDevice := { info := "Label Printer", uri := "usb://1", deviceId := "" }
def sameModel : DiscoveredDevice := { labelPrinter with uri := "usb://2" }
def otherModel : DiscoveredDevice := { info := "Receipts", uri := "usb://3", deviceId := "" }

/-- The printer registered for the first device. -/
def known : PrinterConfig := configFor "label_printer" "usb://1"

end Trial

/-- One printer known, a device of another model found. -/
theorem bootstrap_routes_iff_trial :
    RoutesByName (bootstrapPrinters (Trial.json [Trial.known])
        (Trial.roundOf [Trial.labelPrinter, Trial.otherModel]) Trial.uuids
        (PersistedState.save (Trial.json [Trial.known]) [Trial.known])).1 ↔
      NewWords (PersistedState.load (Trial.json [Trial.known])
          (PersistedState.save (Trial.json [Trial.known]) [Trial.known]))
        ((Trial.roundOf [Trial.labelPrinter, Trial.otherModel]).taken
          (PersistedState.load (Trial.json [Trial.known])
            (PersistedState.save (Trial.json [Trial.known]) [Trial.known]))) :=
  bootstrap_routes_iff (Trial.roundOf_keepsName _) (by
    rw [load_save (Trial.json_undoes [Trial.known])]
    exact List.nodup_singleton _)

/-- Two devices of one model, found at a first start. -/
theorem same_model_twice :
    ¬ ∀ (j : SerdeJson) (r : Round) (uuids : Nat → String) (file : StateFile), r.KeepsName →
        ((PersistedState.load j file).map (·.name)).Nodup →
        RoutesByName (bootstrapPrinters j r uuids file).1 := by
  intro h
  have hr := (h (Trial.json []) (Trial.roundOf [Trial.labelPrinter, Trial.sameModel]) Trial.uuids
    none (Trial.roundOf_keepsName _) List.nodup_nil).distinct
  revert hr
  decide +kernel

end IppPrinterApp
