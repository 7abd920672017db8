/-
  File:      IppPrinterApp/Printer.lean
  Subject:   Printer configurations and the runtime registry (printer.rs, device.rs).

  The registry is a list of records, looked up and changed by name: every access takes the first
  record with the name (`findPrinter`, `updatePrinter`). `PrinterRecord::set_ready_media` edits
  two index-aligned lists, of which `media_sizes` may be the shorter one.
-/
import IppPrinterApp.Ipp
import IppPrinterApp.Flags

namespace IppPrinterApp

open FirstMatch

/-! ## 1. Configuration -/

/-- `[i32; 2]`: width and height in hundredths of a millimetre. -/
abbrev SizeHmm := Int × Int

/-- `PrinterConfig` (printer.rs). -/
structure PrinterConfig where
  name : String
  displayName : String
  driverName : String
  makeAndModel : String
  deviceId : String
  deviceUri : String
  dpi : Int
  printheadWidthDots : Nat
  mediaNames : List String
  mediaSizes : List SizeHmm
  mediaSizeMin : SizeHmm
  mediaSizeMax : SizeHmm
  darkness : Int
  documentFormats : List String
  deriving DecidableEq, Repr

namespace PrinterConfig

/-- `PrinterConfig::printer_uri`: an unspecified host is advertised as `localhost`. -/
def printerUri (cfg : PrinterConfig) (host : String) (port : Nat) : String :=
  let h := if host == "0.0.0.0" || host == "::" || host.isEmpty then "localhost" else host
  s!"ipp://{h}:{port}/ipp/print/{cfg.name}"

def displayLabel (cfg : PrinterConfig) : String :=
  if !cfg.displayName.isEmpty then cfg.displayName
  else if !cfg.makeAndModel.isEmpty then cfg.makeAndModel
  else cfg.name

end PrinterConfig

/-! ## 2. Records -/

/-- `ReadyMedia` (device.rs): the media loaded in a device. -/
structure ReadyMedia where
  name : String
  sizeHmm : SizeHmm
  mediaType : String
  deriving DecidableEq, Repr

/-- `PollStatus` (device.rs): what a status poll reports. -/
structure PollStatus where
  reasons : PrinterReason
  readyMedia : Option ReadyMedia
  supplyPercent : Option Nat
  deriving DecidableEq, Repr

inductive IppPrinterState where
  | idle
  | processing
  | stopped
  deriving DecidableEq, Repr

/-- `as i32`: the `printer-state` codes of RFC 8011. -/
def IppPrinterState.code : IppPrinterState → Int
  | .idle => 3
  | .processing => 4
  | .stopped => 5

structure PrinterRecord where
  config : PrinterConfig
  state : IppPrinterState
  reasons : PrinterReason
  uuid : String
  readyMedia : Option ReadyMedia
  supplyPercent : Option Nat
  deriving DecidableEq, Repr

namespace PrinterRecord

/-- `PrinterRecord::new`, the fresh UUID passed in. -/
def new (config : PrinterConfig) (uuid : String) : PrinterRecord :=
  { config, state := .idle, reasons := .empty, uuid, readyMedia := none, supplyPercent := none }

def name (r : PrinterRecord) : String := r.config.name

/-- The two lists of `set_ready_media` with the entry of `media` dropped, if there is one: a
    size goes only where one exists. -/
def dropMedia (media : ReadyMedia) (cfg : PrinterConfig) : PrinterConfig :=
  match cfg.mediaNames.findIdx? (fun n => n == media.name) with
  | some i => { cfg with
      mediaNames := cfg.mediaNames.eraseIdx i
      mediaSizes := if i < cfg.mediaSizes.length then cfg.mediaSizes.eraseIdx i
        else cfg.mediaSizes }
  | none => cfg

/-- `PrinterRecord::set_ready_media`: the record with `media` loaded, and whether anything
    changed. -/
def setReadyMedia (media : ReadyMedia) (r : PrinterRecord) : PrinterRecord × Bool :=
  let wasDefault := r.config.mediaNames.head? == some media.name
  let config :=
    if wasDefault then r.config
    else
      let cfg := dropMedia media r.config
      { cfg with
        mediaNames := media.name :: cfg.mediaNames
        mediaSizes := media.sizeHmm :: cfg.mediaSizes }
  let changed := !wasDefault || r.readyMedia.map (·.sizeHmm) != some media.sizeHmm
  ({ r with config, readyMedia := some media }, changed)

theorem dropMedia_name (media : ReadyMedia) (cfg : PrinterConfig) :
    (dropMedia media cfg).name = cfg.name := by
  unfold dropMedia
  split <;> rfl

@[simp] theorem setReadyMedia_name (media : ReadyMedia) (r : PrinterRecord) :
    (r.setReadyMedia media).1.name = r.name := by
  unfold setReadyMedia name
  dsimp only
  split
  · rfl
  · exact dropMedia_name media r.config

/-- **A report that changes nothing leaves the configuration alone.** -/
theorem setReadyMedia_unchanged {media : ReadyMedia} {r : PrinterRecord}
    (h : (r.setReadyMedia media).2 = false) : (r.setReadyMedia media).1.config = r.config := by
  unfold setReadyMedia at h ⊢
  dsimp only at h ⊢
  have hw : (r.config.mediaNames.head? == some media.name) = true := by
    cases hd : r.config.mediaNames.head? == some media.name with
    | true => rfl
    | false => simp [hd] at h
  rw [if_pos hw]

end PrinterRecord

/-! ## 3. The registry -/

/-- `PrinterRegistry`: the printers in registration order. -/
abbrev PrinterRegistry := List PrinterRecord

/-- The record a name refers to: the first one (`iter().find`). -/
def findPrinter (printers : PrinterRegistry) (name : String) : Option PrinterRecord :=
  printers.find? fun p => p.config.name == name

/-- A change of the record a name refers to (`iter_mut().find`). -/
def updatePrinter (printers : PrinterRegistry) (name : String)
    (f : PrinterRecord → PrinterRecord) : PrinterRegistry :=
  updateFirst (fun p => p.config.name == name) f printers

theorem findPrinter_name {printers : PrinterRegistry} {name : String} {record : PrinterRecord}
    (h : findPrinter printers name = some record) : record.config.name = name := by
  have hp := List.find?_some h
  exact beq_iff_eq.mp hp

/-- The configurations of the registry, which is what is persisted. -/
def configs (printers : PrinterRegistry) : List PrinterConfig := printers.map (·.config)

section Registry

variable {f : PrinterRecord → PrinterRecord} (hf : ∀ r, (f r).config.name = r.config.name)
include hf

theorem findPrinter_updatePrinter (printers : PrinterRegistry) (name : String) :
    findPrinter (updatePrinter printers name f) name = (findPrinter printers name).map f :=
  find?_updateFirst (fun r => by rw [hf r]) printers

theorem findPrinter_updatePrinter_other (printers : PrinterRegistry) {name other : String}
    (hne : other ≠ name) :
    findPrinter (updatePrinter printers name f) other = findPrinter printers other := by
  have hno : ∀ r : PrinterRecord, (r.config.name == name) = true → (r.config.name == other) = false := by
    intro r hr
    have e : r.config.name = name := beq_iff_eq.mp hr
    rw [e]
    exact beq_eq_false_iff_ne.mpr (Ne.symm hne)
  refine find?_updateFirst_other hno (fun r hr => ?_) printers
  rw [hf r]
  exact hno r hr

omit hf in
theorem configs_updatePrinter (hc : ∀ r, (f r).config = r.config) (printers : PrinterRegistry)
    (name : String) : configs (updatePrinter printers name f) = configs printers :=
  map_updateFirst hc printers

end Registry

end IppPrinterApp
