/-
  File:      IppPrinterApp/MediaPage.lean
  Subject:   Setting the loaded media from the web page (`media_apply_handler`, server.rs).

  The handler takes a copy of the printer's record, checks the entered size against the bounds of
  that copy, asks the consumer's hook if there is one, and only then writes the media into the
  record that has the name by then and persists the registry. `MediaPc` are its positions from
  the hook on; what it does before is one read of the registry (`mediaStart`).
-/
import IppPrinterApp.Poller

namespace IppPrinterApp

/-! ## 1. The page -/

/-- `str::replace` of one character by a text. -/
def replaceChar (c : Char) (by' : String) (s : String) : String :=
  String.ofList (s.toList.flatMap fun d => if d = c then by'.toList else [d])

/-- `esc`: four replacements, one after the other. -/
def esc (s : String) : String :=
  replaceChar '"' "&quot;" (replaceChar '>' "&gt;" (replaceChar '<' "&lt;" (replaceChar '&' "&amp;" s)))

/-- `current_media_mm`. -/
def currentMediaMm (record : PrinterRecord) : Nat × Nat :=
  let hmm := match record.readyMedia with
    | some rm => rm.sizeHmm
    | none => record.config.mediaSizes.head?.getD (4000, 3000)
  (asU32 (hmm.1.tdiv 100), asU32 (hmm.2.tdiv 100))

/-- `media_size_min.iter().all(|&v| v > 0)`: the form knows a bounded printer by its minimum. -/
def hasMinimum (cfg : PrinterConfig) : Bool := cfg.mediaSizeMin.1 > 0 && cfg.mediaSizeMin.2 > 0

/-- `media_page`: the form, with a message above it. -/
def mediaPage (record : PrinterRecord) (message : Option String) (isError : Bool) : String :=
  let cfg := record.config
  let (w, h) := currentMediaMm record
  let bounds :=
    if hasMinimum cfg then
      s!"<p>Accepts {cfg.mediaSizeMin.1.tdiv 100}×{cfg.mediaSizeMin.2.tdiv 100}mm to " ++
        s!"{cfg.mediaSizeMax.1.tdiv 100}×{cfg.mediaSizeMax.2.tdiv 100}mm.</p>"
    else ""
  let banner := match message with
    | some m =>
      if isError then s!"<p style=\"color:#b00\"><b>{esc m}</b></p>"
      else s!"<p style=\"color:#070\">{esc m}</p>"
    | none => ""
  s!"<!DOCTYPE html><html><head><title>Media — {esc cfg.name}</title></head><body>" ++
    s!"<h1>Loaded media</h1><h2>{esc cfg.displayLabel}</h2>{banner}{bounds}" ++
    "<form method=\"post\">" ++
    s!"<label>Width <input name=\"width_mm\" type=\"number\" min=\"1\" value=\"{w}\"></label> mm<br>" ++
    s!"<label>Length <input name=\"height_mm\" type=\"number\" min=\"1\" value=\"{h}\"></label> mm<br>" ++
    "<button type=\"submit\">Set</button></form>" ++
    "<p><a href=\"/\">Back</a></p></body></html>"

def noSuchPrinter : String := "<p>No such printer.</p>"

/-! ## 2. The handler -/

/-- `MediaForm`: the entered size in whole millimetres, two `u32`. -/
structure MediaForm where
  widthMm : Nat
  heightMm : Nat
  deriving DecidableEq, Repr

/-- The size in hundredths of a millimetre: `as i32 * 100`, wrapping. -/
def MediaForm.sizeHmm (form : MediaForm) : SizeHmm :=
  (asI32 (asI32 form.widthMm * 100), asI32 (asI32 form.heightMm * 100))

/-- The bounds check of the handler. -/
def MediaForm.outOfRange (form : MediaForm) (cfg : PrinterConfig) : Bool :=
  hasMinimum cfg &&
    (form.sizeHmm.1 < cfg.mediaSizeMin.1 || form.sizeHmm.2 < cfg.mediaSizeMin.2 ||
      form.sizeHmm.1 > cfg.mediaSizeMax.1 || form.sizeHmm.2 > cfg.mediaSizeMax.2)

/-- The media of a form. -/
def MediaForm.media (form : MediaForm) : ReadyMedia :=
  { name := s!"om_{form.widthMm}x{form.heightMm}mm_{form.widthMm}x{form.heightMm}mm"
    sizeHmm := form.sizeHmm
    mediaType := "labels" }

/-- Where a media request is: the access it makes next. -/
inductive MediaPc where
  /-- awaiting the hook; the record is the copy taken at the start -/
  | hook (record : PrinterRecord)
  /-- about to write the media into the registry -/
  | write
  /-- `persist`; `updated` is the copy the reply shows -/
  | snapshot (updated : PrinterRecord)
  | save (updated : PrinterRecord) (saved : List PrinterConfig)
  | done
  deriving DecidableEq, Repr

/-- A media request under way. -/
structure MediaTask where
  name : String
  form : MediaForm
  pc : MediaPc
  deriving DecidableEq, Repr

/-- A page sent back: status and HTML. -/
structure Page where
  status : Nat
  html : String
  deriving DecidableEq, Repr

/-- The handler up to the hook: the refusal it ends with, or where it goes on. -/
def mediaStart (hooked : Bool) (printers : PrinterRegistry) (name : String) (form : MediaForm) :
    Except Page MediaPc :=
  match findPrinter printers name with
  | none => .error ⟨404, noSuchPrinter⟩
  | some record =>
    if form.outOfRange record.config then
      .error ⟨400, mediaPage record
        (some s!"{form.widthMm}×{form.heightMm}mm is outside the supported range.") true⟩
    else .ok (if hooked then .hook record else .write)

namespace MediaTask

/-- The hook answers: `none` is consent, a text the reason of a refusal. -/
def answered (t : MediaTask) (refusal : Option String) : Option (MediaTask × Option Page) :=
  match t.pc with
  | .hook record =>
    match refusal with
    | none => some ({ t with pc := .write }, none)
    | some reason =>
      some ({ t with pc := .done }, some ⟨409, mediaPage record (some reason) true⟩)
  | _ => none

/-- The printers after the access at a position. -/
def printersAfter (t : MediaTask) (printers : PrinterRegistry) : PrinterRegistry :=
  match t.pc with
  | .write => updatePrinter printers t.name fun r => (r.setReadyMedia t.form.media).1
  | _ => printers

/-- The snapshot written to the state file at a position. -/
def saves (t : MediaTask) : Option (List PrinterConfig) :=
  match t.pc with
  | .save _ saved => some saved
  | _ => none

/-- **The handler's program** from the hook on: where it is after its next access, and the page
    it answers with if it is through. -/
def step (t : MediaTask) (printers : PrinterRegistry) : Option (MediaTask × Option Page) :=
  match t.pc with
  | .hook _ => none
  | .write =>
    match findPrinter printers t.name with
    | none => some ({ t with pc := .done }, some ⟨404, noSuchPrinter⟩)
    | some record =>
      some ({ t with pc := .snapshot (record.setReadyMedia t.form.media).1 }, none)
  | .snapshot updated => some ({ t with pc := .save updated (configs printers) }, none)
  | .save updated _ =>
    some ({ t with pc := .done }, some ⟨200, mediaPage updated
      (some s!"Loaded media set to {t.form.widthMm}×{t.form.heightMm}mm.") false⟩)
  | .done => none

/-- The handler keeps the names of the registry. -/
theorem printersAfter_names (t : MediaTask) (printers : PrinterRegistry) :
    (t.printersAfter printers).map (·.config.name) = printers.map (·.config.name) := by
  unfold printersAfter
  split
  · exact FirstMatch.map_updateFirst (fun r => r.setReadyMedia_name t.form.media) printers
  · rfl

/-- The handler leaves the registry alone where no record has the name. -/
theorem printersAfter_missing {t : MediaTask} {printers : PrinterRegistry}
    (h : findPrinter printers t.name = none) : t.printersAfter printers = printers := by
  unfold printersAfter
  split
  · refine FirstMatch.updateFirst_eq_self fun r hr => ?_
    have hno := List.find?_eq_none.mp h r hr
    simpa using hno
  · rfl

end MediaTask

end IppPrinterApp
