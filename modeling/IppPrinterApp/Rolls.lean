/-
  File:      IppPrinterApp/Rolls.lean
  Subject:   What is loaded in a printer while the server runs.

  The media page and the poller both load media, at any moment, between the accesses of workers
  that write the same record. The order in which they take the lock is an order of loads, and
  nothing else touches the media.

  * `media_replayed`: **a printer's media are those of its loads, one after the other**, so the
    names stay without repetition, with the last one loaded in front;
  * `clients_read_loads`: Get-Printer-Attributes says the same to the clients, and
    `clients_read_supply`: the supply level that was reported last;
  * `form_shows_last`: the form of `GET /media` shows the size loaded last, and after a form that
    fits, the size that was entered.
-/
import IppPrinterApp.LoadedMedia
import IppPrinterApp.MediaForms
import IppPrinterApp.PollRound
import IppPrinterApp.Queues
import IppPrinterApp.Lib.Logbook

namespace IppPrinterApp

open Transition Recency Logbook

/-! ## 1. Loads -/

/-- What is loaded of a record: the configuration with its media lists, and the loaded media. -/
def PrinterRecord.media (r : PrinterRecord) : PrinterConfig × Option ReadyMedia :=
  (r.config, r.readyMedia)

/-- The load an action makes, under the name it goes to. -/
def System.load (s : System) : Action → Option (String × ReadyMedia)
  | .poll => s.poller.printerOp.bind fun e => e.2.readyMedia.map fun media => (e.1, media)
  | .media i => s.media[i]?.bind fun t =>
    match t.pc with
    | .write => some (t.name, t.form.media)
    | _ => none
  | _ => none

/-- The server with the loads so far. -/
def loading (o : Options) : Machine (System × List (String × ReadyMedia)) Action Event :=
  (server o).withHistory fun log s a => log ++ (s.load a).toList

section Loads

namespace PrinterRecord

variable {r r' : PrinterRecord}

@[simp] theorem loadAll_nil (r : PrinterRecord) : r.loadAll [] = r := rfl

@[simp] theorem loadAll_singleton (r : PrinterRecord) (media : ReadyMedia) :
    r.loadAll [media] = (r.setReadyMedia media).1 := rfl

theorem loadAll_append (r : PrinterRecord) (loads loads' : List ReadyMedia) :
    r.loadAll (loads ++ loads') = (r.loadAll loads).loadAll loads' :=
  List.foldl_append

/-- A load sees nothing of the record but what is loaded. -/
theorem setReadyMedia_media (h : r.media = r'.media) (media : ReadyMedia) :
    (r.setReadyMedia media).1.media = (r'.setReadyMedia media).1.media := by
  have hc : r.config = r'.config := congrArg Prod.fst h
  unfold setReadyMedia PrinterRecord.media
  rw [hc]

theorem loadAll_media (h : r.media = r'.media) (loads : List ReadyMedia) :
    (r.loadAll loads).media = (r'.loadAll loads).media := by
  induction loads generalizing r r' with
  | nil => exact h
  | cons media loads ih => exact ih (setReadyMedia_media h media)

/-- The loaded media is the last one loaded. -/
theorem loadAll_readyMedia (r : PrinterRecord) (loads : List ReadyMedia) :
    (r.loadAll loads).readyMedia = loads.getLast?.or r.readyMedia := by
  cases loads using List.reverseRecOn with
  | nil => rfl
  | append_singleton loads media =>
      rw [loadAll_append, List.getLast?_concat]
      rfl

end PrinterRecord

theorem PrinterOp.apply_media (op : PrinterOp) (r : PrinterRecord) :
    (op.apply r).media = r.media := by
  cases op <;> rfl

/-- An answered poll loads the media it reports, if it reports any. -/
theorem PollStatus.applyTo_media (status : PollStatus) (r : PrinterRecord) :
    (status.applyTo r).1.media = (r.loadAll status.readyMedia.toList).media := by
  unfold PollStatus.applyTo
  cases status.readyMedia with
  | none => dsimp only; split <;> rfl
  | some media => dsimp only; split <;> rfl

end Loads

/-! ## 2. One step -/

/-- The media of the printer with a name. -/
def mediaOf (printers : PrinterRegistry) (name : String) :
    Option (PrinterConfig × Option ReadyMedia) :=
  (findPrinter printers name).map (·.media)

/-- The media of a printer after loads. -/
def loadedOf (printers : PrinterRegistry) (name : String) (loads : List ReadyMedia) :
    Option (PrinterConfig × Option ReadyMedia) :=
  (findPrinter printers name).map fun r => (r.loadAll loads).media

section Step

variable {o : Options} {s s' : System} {a : Action} {ev tr : List Event}
  {printers printers' : PrinterRegistry}

/-- Loads go on from what is loaded. -/
theorem loadedOf_append {name : String} {loads : List ReadyMedia}
    (h : mediaOf printers' name = loadedOf printers name loads) (loads' : List ReadyMedia) :
    loadedOf printers' name loads' = loadedOf printers name (loads ++ loads') := by
  unfold mediaOf loadedOf at *
  cases hf' : findPrinter printers' name with
  | none =>
      rw [hf', Option.map_none, eq_comm, Option.map_eq_none_iff] at h
      rw [h]
      rfl
  | some r' =>
      rw [hf', Option.map_some, eq_comm, Option.map_eq_some_iff] at h
      obtain ⟨r, hf, hm⟩ := h
      rw [hf, Option.map_some, Option.map_some, PrinterRecord.loadAll_append]
      exact congrArg some (PrinterRecord.loadAll_media hm.symm loads')

/-- An update under a name that loads some media is a load of that name and of no other. -/
theorem mediaOf_updatePrinter {f : PrinterRecord → PrinterRecord} {name : String}
    (media : Option ReadyMedia) (hn : ∀ r, (f r).config.name = r.config.name)
    (hf : ∀ r, (f r).media = (r.loadAll media.toList).media) (other : String) :
    mediaOf (updatePrinter printers name f) other =
      loadedOf printers other (entriesOf other (media.map fun m => (name, m)).toList) := by
  unfold mediaOf loadedOf
  by_cases he : other = name
  · subst he
    rw [findPrinter_updatePrinter hn, Option.map_map]
    have hloads : entriesOf other (media.map fun m => (other, m)).toList = media.toList := by
      cases media <;> simp
    rw [hloads]
    exact congrArg (fun g => (findPrinter printers other).map g) (funext hf)
  · rw [findPrinter_updatePrinter_other hn printers he]
    have hloads : entriesOf other (media.map fun m => (name, m)).toList = [] := by
      cases media with
      | none => rfl
      | some m => exact entriesOf_other he m
    rw [hloads]
    rfl

/-- **What a step loads.** -/
theorem step_media_loaded (h : step o s a = some (s', ev)) (name : String) :
    mediaOf s'.app.printers name =
      loadedOf s.app.printers name (entriesOf name (s.load a).toList) := by
  by_cases ha : a.writesPrinters = true
  · cases a with
    | worker i now =>
        obtain ⟨w, w', hw, _, _, rfl⟩ := step_worker h
        show mediaOf (w.pc.printersAfter w.task s.app.printers) name = _
        unfold WorkerPc.printersAfter
        split
        · rename_i op _
          exact mediaOf_updatePrinter none (fun r => by rw [op.apply_config])
            (fun r => op.apply_media r) name
        · rfl
    | poll =>
        obtain ⟨pc, _, _, rfl⟩ := step_poll h
        show mediaOf (s.poller.printersAfter s.app.printers) name = _
        unfold PollerPc.printersAfter System.load
        dsimp only
        split
        · rename_i n status hop
          rw [hop]
          exact mediaOf_updatePrinter status.readyMedia (fun r => status.applyTo_name r)
            (fun r => status.applyTo_media r) name
        · rename_i hop
          rw [hop]
          rfl
    | media i =>
        obtain ⟨t, t', page, ht, _, rfl⟩ := step_media h
        show mediaOf (t.printersAfter s.app.printers) name = _
        unfold MediaTask.printersAfter System.load
        dsimp only
        rw [ht, Option.bind_some]
        cases t.pc with
        | write =>
            exact mediaOf_updatePrinter (some t.form.media)
              (fun r => r.setReadyMedia_name t.form.media) (fun r => rfl) name
        | _ => rfl
    | _ => cases ha
  · have hnone : s.load a = none := by
      cases a with
      | poll => exact absurd rfl ha
      | media => exact absurd rfl ha
      | _ => rfl
    rw [hnone, step_printers_same h (Bool.eq_false_iff.mpr ha)]
    rfl

/-- **A printer's media are those it was started with, after its loads in their order.** -/
theorem run_media {G : System × List (String × ReadyMedia) → Action → Prop} {d : Deployment}
    {log : List (String × ReadyMedia)} (h : Run (loading o) G (boot d, []) tr (s, log))
    (name : String) :
    mediaOf s.app.printers name = loadedOf (boot d).app.printers name (entriesOf name log) := by
  refine Run.always (I := fun p => mediaOf p.1.app.printers name =
    loadedOf (boot d).app.printers name (entriesOf name p.2)) rfl ?_ h
  intro p a p' ev hI _ hs
  obtain ⟨hstep, hlog⟩ := step_withHistory hs
  rw [hlog, step_media_loaded hstep, entriesOf_append]
  exact loadedOf_append hI _

/-! ## 3. Runs -/

/-- A printer of the deployment, and the record of the same name while the server runs. -/
theorem run_media_record {G : System × List (String × ReadyMedia) → Action → Prop}
    {d : Deployment} {log : List (String × ReadyMedia)} {name : String} {r : PrinterRecord}
    (h : Run (loading o) G (boot d, []) tr (s, log))
    (hf : findPrinter s.app.printers name = some r) :
    ∃ cfg uuid, (cfg, uuid) ∈ d.printers ∧ cfg.name = name ∧
      r.media = ((PrinterRecord.new cfg uuid).loadAll (entriesOf name log)).media := by
  have hm := run_media h name
  unfold mediaOf loadedOf at hm
  rw [hf, Option.map_some, eq_comm, Option.map_eq_some_iff] at hm
  obtain ⟨r₀, hf₀, hr⟩ := hm
  have hname := findPrinter_name hf₀
  obtain ⟨⟨cfg, uuid⟩, he, rfl⟩ := List.mem_map.mp (List.mem_of_find?_eq_some hf₀)
  exact ⟨cfg, uuid, he, hname, hr.symm⟩

/-- **A printer's media are those of its loads, one after the other**, whoever made them and
    whatever went on in between: the record has the lists it was started with after all loads of
    its name; the names stay without repetition, are the old and the loaded ones, and the one
    loaded last is the default. -/
theorem media_replayed {G : System × List (String × ReadyMedia) → Action → Prop}
    {d : Deployment} {log : List (String × ReadyMedia)} {name : String} {r : PrinterRecord}
    (h : Run (loading o) G (boot d, []) tr (s, log))
    (hf : findPrinter s.app.printers name = some r) :
    ∃ cfg uuid, (cfg, uuid) ∈ d.printers ∧ cfg.name = name ∧
      r.media = ((PrinterRecord.new cfg uuid).loadAll (entriesOf name log)).media ∧
      (cfg.mediaNames.Nodup → r.config.mediaNames.Nodup) ∧
      (∀ n, n ∈ r.config.mediaNames ↔
        n ∈ cfg.mediaNames ∨ n ∈ (entriesOf name log).map (·.name)) ∧
      (entriesOf name log ≠ [] →
        r.config.mediaNames.head? = ((entriesOf name log).map (·.name)).getLast?) := by
  obtain ⟨cfg, uuid, he, hname, hm⟩ := run_media_record h hf
  have hc : r.config = ((PrinterRecord.new cfg uuid).loadAll (entriesOf name log)).config :=
    congrArg Prod.fst hm
  have hnames := PrinterRecord.loadAll_names (PrinterRecord.new cfg uuid) (entriesOf name log)
  rw [← hc] at hnames
  refine ⟨cfg, uuid, he, hname, hm, fun hn => ?_, fun n => ?_, fun hne => ?_⟩
  · rw [hnames]
    exact nodup_touchAll hn
  · rw [hnames]
    exact mem_touchAll_iff
  · rw [hnames]
    exact head_touchAll (by simpa using hne)

end Step

namespace Trial

/-- A form and a poll at once: the roll the device reports is loaded first, the entered one last. -/
def rollSwaps : List Action :=
  [.mediaPost "p" ⟨40, 25⟩, .pollTick, .poll,
    .pollAnswer (some { reasons := .empty, readyMedia := some roll, supplyPercent := none }),
    .poll, .media 0, .poll]

def swapped : System × List (String × ReadyMedia) :=
  endOf (loading options) anyStep (boot deployment, []) rollSwaps

theorem swapped_run : Run (loading options) anyStep (boot deployment, [])
    (traceOf (loading options) anyStep (boot deployment, []) rollSwaps) (swapped.1, swapped.2) :=
  run_endOf_pair (by decide +kernel)

def swappedPrinter : PrinterRecord :=
  (findPrinter swapped.1.app.printers "p").getD (PrinterRecord.new (config "p") "")

end Trial

theorem media_replayed_swapped :
    ∃ cfg uuid, (cfg, uuid) ∈ Trial.deployment.printers ∧ cfg.name = "p" ∧
      Trial.swappedPrinter.media =
        ((PrinterRecord.new cfg uuid).loadAll (entriesOf "p" Trial.swapped.2)).media ∧
      (cfg.mediaNames.Nodup → Trial.swappedPrinter.config.mediaNames.Nodup) ∧
      (∀ n, n ∈ Trial.swappedPrinter.config.mediaNames ↔
        n ∈ cfg.mediaNames ∨ n ∈ (entriesOf "p" Trial.swapped.2).map (·.name)) ∧
      (entriesOf "p" Trial.swapped.2 ≠ [] → Trial.swappedPrinter.config.mediaNames.head? =
        ((entriesOf "p" Trial.swapped.2).map (·.name)).getLast?) :=
  media_replayed Trial.swapped_run (by decide +kernel)

/-! ## 4. The form -/

section Form

variable {o : Options} {s : System} {tr : List Event}

/-- `media_form_handler`. -/
def mediaFormHandler (printers : PrinterRegistry) (name : String) : Page :=
  match findPrinter printers name with
  | some record => ⟨200, mediaPage record none false⟩
  | none => ⟨404, noSuchPrinter⟩

/-- A size in millimetres, as the form shows it. -/
def shownMm (size : SizeHmm) : Nat × Nat := (asU32 (size.1.tdiv 100), asU32 (size.2.tdiv 100))

/-- What fits is shown as it was entered. -/
theorem shownMm_form {form : MediaForm} (h : form.Fits) :
    shownMm form.media.sizeHmm = (form.widthMm, form.heightMm) := by
  obtain ⟨⟨_, hw⟩, _, hh⟩ := h
  have hback : ∀ n : Nat, n * 100 < 2 ^ 31 → asU32 (((n : Int) * 100).tdiv 100) = n := by
    intro n hn
    rw [Int.mul_tdiv_cancel _ (by decide)]
    unfold asU32
    omega
  rw [(media_sizeHmm_iff (by omega) (by omega)).mpr ⟨hw, hh⟩]
  exact Prod.ext (hback _ hw) (hback _ hh)

/-- The size the form shows: that of the last load, or without one the default's. -/
def lastShown (cfg : PrinterConfig) (last : Option ReadyMedia) : Nat × Nat :=
  shownMm (match last with
    | some media => media.sizeHmm
    | none => cfg.mediaSizes.head?.getD (4000, 3000))

theorem currentMediaMm_loaded {cfg : PrinterConfig} {uuid : String} {loads : List ReadyMedia}
    {r : PrinterRecord} (h : r.media = ((PrinterRecord.new cfg uuid).loadAll loads).media) :
    currentMediaMm r = lastShown cfg loads.getLast? := by
  have hready : r.readyMedia = loads.getLast? := by
    have hm : r.readyMedia = ((PrinterRecord.new cfg uuid).loadAll loads).readyMedia :=
      congrArg Prod.snd h
    rw [hm, PrinterRecord.loadAll_readyMedia]
    exact Option.or_none
  unfold currentMediaMm lastShown shownMm
  rw [hready]
  cases hl : loads.getLast? with
  | some media => rfl
  | none =>
      rw [List.getLast?_eq_none_iff.mp hl] at h
      have hc : r.config = cfg := congrArg Prod.fst h
      rw [hc]

/-- The two inputs of the form, with a size in them. -/
def sizeInputs (size : Nat × Nat) : String :=
  s!"<label>Width <input name=\"width_mm\" type=\"number\" min=\"1\" value=\"{size.1}\"></label> mm<br>" ++
    s!"<label>Length <input name=\"height_mm\" type=\"number\" min=\"1\" value=\"{size.2}\"></label> mm<br>"

/-- The page without a message: all that is written of a configuration, and a size in the form. -/
def formPage (cfg : PrinterConfig) (size : Nat × Nat) : String :=
  s!"<!DOCTYPE html><html><head><title>Media — {esc cfg.name}</title></head><body>" ++
    s!"<h1>Loaded media</h1><h2>{esc cfg.displayLabel}</h2>" ++
    (if hasMinimum cfg then boundsParagraph (cfg.mediaSizeMin, cfg.mediaSizeMax) else "") ++
    "<form method=\"post\">" ++ sizeInputs size ++
    "<button type=\"submit\">Set</button></form><p><a href=\"/\">Back</a></p></body></html>"

/-- Of a record the page shows the current size, and nothing else that a load changes. -/
theorem mediaPage_queue {r : PrinterRecord} {cfg : PrinterConfig}
    (h : r.config.queue = cfg.queue) : mediaPage r none false = formPage cfg (currentMediaMm r) := by
  have hname : r.config.name = cfg.name := congrArg (·.name) h
  have hlabel : r.config.displayLabel = cfg.displayLabel := congrArg (·.displayLabel) h
  have hmin : r.config.mediaSizeMin = cfg.mediaSizeMin := congrArg (·.mediaSizeMin) h
  have hmax : r.config.mediaSizeMax = cfg.mediaSizeMax := congrArg (·.mediaSizeMax) h
  have hbounded : hasMinimum r.config = hasMinimum cfg := by
    unfold hasMinimum
    rw [hmin]
  have etext : ∀ s : String, toString s = s := fun _ => rfl
  rw [mediaPage_eq, hbounded, hmin, hmax]
  unfold pageHead pageTail formPage sizeInputs
  rw [hname, hlabel]
  simp only [etext, Option.elim, String.append_assoc, String.empty_append]
  rfl

theorem PrinterRecord.loadAll_fixed (r : PrinterRecord) (loads : List ReadyMedia) :
    (r.loadAll loads).fixed = r.fixed := by
  induction loads generalizing r with
  | nil => rfl
  | cons media loads ih => exact (ih _).trans (PrinterRecord.setReadyMedia_fixed media r)

/-- Loads leave the rest of the configuration alone. -/
theorem queue_of_loaded {cfg : PrinterConfig} {uuid : String} {loads : List ReadyMedia}
    {r : PrinterRecord} (h : r.media = ((PrinterRecord.new cfg uuid).loadAll loads).media) :
    r.config.queue = cfg.queue := by
  have hc : r.config = ((PrinterRecord.new cfg uuid).loadAll loads).config := congrArg Prod.fst h
  rw [hc]
  exact congrArg Prod.fst (PrinterRecord.loadAll_fixed (PrinterRecord.new cfg uuid) loads)

/-- A printer of the deployment is there while the server runs. -/
theorem run_media_found {G : System × List (String × ReadyMedia) → Action → Prop}
    {d : Deployment} {log : List (String × ReadyMedia)} {name : String}
    (h : Run (loading o) G (boot d, []) tr (s, log))
    (hn : name ∈ d.printers.map fun e => e.1.name) :
    ∃ r, findPrinter s.app.printers name = some r := by
  have hboot : (findPrinter (boot d).app.printers name).isSome = true := by
    obtain ⟨e, he, rfl⟩ := List.mem_map.mp hn
    exact List.find?_isSome.mpr ⟨_, List.mem_map_of_mem he, beq_self_eq_true _⟩
  have hsome := congrArg Option.isSome (run_media h name)
  unfold mediaOf loadedOf at hsome
  rw [Option.isSome_map, Option.isSome_map] at hsome
  exact Option.isSome_iff_exists.mp (hsome.trans hboot)

/-- **The form shows what was loaded last**: in every state of every run, the page of a printer of
    the deployment is the one with the size of the last load of its name in the form, whether a form
    or a poll made it, and the default's before any; nothing else of it depends on the run. After a
    form that fits that size is what was entered. -/
theorem form_shows_last {G : System × List (String × ReadyMedia) → Action → Prop}
    {d : Deployment} {log : List (String × ReadyMedia)} {name : String}
    (h : Run (loading o) G (boot d, []) tr (s, log))
    (hn : name ∈ d.printers.map fun e => e.1.name) :
    ∃ cfg uuid, (cfg, uuid) ∈ d.printers ∧ cfg.name = name ∧
      mediaFormHandler s.app.printers name =
        ⟨200, formPage cfg (lastShown cfg (lastOf name log))⟩ ∧
      ∀ form : MediaForm, form.Fits → lastOf name log = some form.media →
        lastShown cfg (lastOf name log) = (form.widthMm, form.heightMm) := by
  obtain ⟨r, hf⟩ := run_media_found h hn
  obtain ⟨cfg, uuid, he, hname, hm⟩ := run_media_record h hf
  have hshown : currentMediaMm r = lastShown cfg (lastOf name log) := currentMediaMm_loaded hm
  refine ⟨cfg, uuid, he, hname, ?_, fun form hfits hlast => ?_⟩
  · unfold mediaFormHandler
    rw [hf]
    dsimp only
    rw [mediaPage_queue (queue_of_loaded hm), hshown]
  · unfold lastShown
    rw [hlast]
    exact shownMm_form hfits

end Form

theorem form_shows_last_swapped :
    ∃ cfg uuid, (cfg, uuid) ∈ Trial.deployment.printers ∧ cfg.name = "p" ∧
      mediaFormHandler Trial.swapped.1.app.printers "p" =
        ⟨200, formPage cfg (lastShown cfg (lastOf "p" Trial.swapped.2))⟩ ∧
      ∀ form : MediaForm, form.Fits → lastOf "p" Trial.swapped.2 = some form.media →
        lastShown cfg (lastOf "p" Trial.swapped.2) = (form.widthMm, form.heightMm) :=
  form_shows_last Trial.swapped_run (by decide)

/-! ## 5. What clients read -/

/-- What a full response says after the loads of its printer: all of them are supported, and the
    last one is the default and the one that is loaded, of its own size. -/
structure ReadsLoads (resp : IppResponse) (loads : List ReadyMedia) : Prop where
  supported : ∀ media ∈ loads,
    some media.name ∈ (resp.values "media-supported").map IppValue.toKeyword
  mediaDefault : ∀ media ∈ loads.getLast?,
    (resp.values "media-default").map IppValue.toKeyword = [some media.name]
  ready : ∀ media ∈ loads.getLast?,
    (resp.values "media-ready").map IppValue.toKeyword = [some media.name]
  colReady : ∀ media ∈ loads.getLast?, ∃ c : MediaCol, c.name = media.name ∧
    c.size = media.sizeHmm ∧ (resp.values "media-col-ready").map IppValue.toMediaCol = [some c]

section Clients

variable {o : Options} {s : System} {tr : List Event}

theorem Reply.ofBuilt_eq_ok {b : Except Fault IppResponse} {resp : IppResponse}
    (h : Reply.ofBuilt b = .ok resp) : b = .ok resp := by
  cases b with
  | ok r => exact congrArg Except.ok (Reply.ok.inj h)
  | error e => cases e <;> cases h

theorem Reply.ok_of_successful {reply : Reply} (h : reply.Successful) :
    ∃ resp, reply = .ok resp := by
  cases reply with
  | ok resp => exact ⟨resp, rfl⟩
  | _ => exact h.elim

/-- The response of a record after its loads. -/
theorem readsLoads_of_media {resp : IppResponse} {r r₀ : PrinterRecord} {loads : List ReadyMedia}
    (hread : ReadsMedia resp r) (hm : r.media = (r₀.loadAll loads).media) :
    ReadsLoads resp loads := by
  have hnames : r.config.mediaNames = touchAll r₀.config.mediaNames (loads.map (·.name)) := by
    rw [← PrinterRecord.loadAll_names, show r.config = (r₀.loadAll loads).config from
      congrArg Prod.fst hm]
  have hready : r.readyMedia = loads.getLast?.or r₀.readyMedia := by
    rw [← PrinterRecord.loadAll_readyMedia, show r.readyMedia = (r₀.loadAll loads).readyMedia from
      congrArg Prod.snd hm]
  have hentry : ∀ media ∈ loads.getLast?,
      defaultEntry r.config = some (media.name, defaultSize r.config) ∧
        readyEntry r = some (media.name, media.sizeHmm) := by
    intro media hlast
    have hne : loads ≠ [] := by
      rintro rfl
      cases hlast
    have hhead : r.config.mediaNames.head? = some media.name := by
      rw [hnames, head_touchAll (by simpa using hne), List.getLast?_map, hlast]
      rfl
    have hd := defaultEntry_of_head hhead
    refine ⟨hd, ?_⟩
    unfold readyEntry
    rw [hd, hready, hlast]
    rfl
  refine
    { supported := fun media hmem => ?_
      mediaDefault := fun media hlast => ?_
      ready := fun media hlast => ?_
      colReady := fun media hlast => ?_ }
  · rw [hread.keywords]
    refine List.mem_map_of_mem (List.mem_append_left _ ?_)
    rw [hnames]
    exact mem_touchAll_iff.mpr (Or.inr (List.mem_map_of_mem hmem))
  · rw [hread.mediaDefault, (hentry media hlast).1]
    rfl
  · rw [hread.mediaReady, (hentry media hlast).2]
    rfl
  · refine ⟨r.config.colOf (media.name, media.sizeHmm), rfl, rfl, ?_⟩
    rw [hread.colReady, (hentry media hlast).2]
    rfl

/-- A full Get-Printer-Attributes that is answered. -/
theorem fullAttributes_of_reply {x : IppCrate} {app : AppState} {clock : Clock} {name : String}
    {body : List UInt8} {req : IppRequest} {record : PrinterRecord} {resp : IppResponse}
    (hg : gates x app name body = .ok (req, record))
    (hop : operationOf x req.operationOrStatus = .getPrinterAttributes)
    (hall : extractRequestedAttributes x req = none)
    (hr : (handleIpp x clock app name body).reply = .ok resp) :
    getPrinterAttributes x req.version req.requestId record app.host app.port none clock =
      .ok resp := by
  unfold handleIpp dispatch at hr
  rw [hg] at hr
  dsimp only at hr
  rw [hop, hall] at hr
  exact Reply.ofBuilt_eq_ok hr

/-- **Clients read what was loaded**: in every state of every run, a full Get-Printer-Attributes
    that is answered says that every media loaded into its printer so far is supported, and that
    the last one loaded is the default and ready, of the size it was loaded with. -/
theorem clients_read_loads {G : System × List (String × ReadyMedia) → Action → Prop}
    {d : Deployment} {log : List (String × ReadyMedia)} (hx : o.crate.StartsWithoutPrinter)
    (h : Run (loading o) G (boot d, []) tr (s, log)) {clock : Clock} {name : String}
    {body : List UInt8} {req : IppRequest} {record : PrinterRecord} {resp : IppResponse}
    (hg : gates o.crate s.app name body = .ok (req, record))
    (hop : operationOf o.crate req.operationOrStatus = .getPrinterAttributes)
    (hall : extractRequestedAttributes o.crate req = none)
    (hr : (handleIpp o.crate clock s.app name body).reply = .ok resp) :
    ReadsLoads resp (entriesOf name log) := by
  obtain ⟨cfg, uuid, _, _, hm⟩ := run_media_record h (gates_ok hg).printer
  exact readsLoads_of_media (reads_media hx (fullAttributes_of_reply hg hop hall hr)) hm

end Clients

namespace Trial

/-- Get-Printer-Attributes. -/
def attributes : Message := ⟨0x000b, [], []⟩

/-- The crate with Get-Printer-Attributes among the messages it parses. -/
def askingCrate : IppCrate :=
  { crate with
    parse := fun body =>
      if body = attributes.body then .ok attributes.request else crate.parse body }

theorem askingCrate_parse : askingCrate.parse attributes.body = .ok attributes.request := by
  show (if attributes.body = attributes.body then .ok attributes.request
    else crate.parse attributes.body) = _
  exact if_pos rfl

theorem askingCrate_startsWithoutPrinter : askingCrate.StartsWithoutPrinter :=
  crate_startsWithoutPrinter

def askingOptions : Options := { options with crate := askingCrate }

def swappedAsking : System × List (String × ReadyMedia) :=
  endOf (loading askingOptions) anyStep (boot deployment, []) rollSwaps

theorem swappedAsking_run : Run (loading askingOptions) anyStep (boot deployment, [])
    (traceOf (loading askingOptions) anyStep (boot deployment, []) rollSwaps)
    (swappedAsking.1, swappedAsking.2) :=
  run_endOf_pair (by decide +kernel)

theorem swappedAsking_answered : ∃ resp,
    (handleIpp askingCrate clock swappedAsking.1.app "p" attributes.body).reply = .ok resp :=
  Reply.ok_of_successful (by decide +kernel)

end Trial

/-- After the form and the poll. -/
theorem clients_read_loads_swapped :
    ∃ resp, (handleIpp Trial.askingCrate Trial.clock Trial.swappedAsking.1.app "p"
        Trial.attributes.body).reply = .ok resp ∧
      ReadsLoads resp (entriesOf "p" Trial.swappedAsking.2) := by
  obtain ⟨⟨req, record⟩, hadm⟩ := Option.isSome_iff_exists.mp (show (admitted Trial.askingCrate
    Trial.swappedAsking.1.app "p" Trial.attributes.body).isSome = true by decide +kernel)
  have hg := mem_admitted.mp hadm
  have hreq : req = Trial.attributes.request :=
    Except.ok.inj ((gates_ok hg).parsed.symm.trans Trial.askingCrate_parse)
  subst hreq
  obtain ⟨resp, hr⟩ := Trial.swappedAsking_answered
  have hreads : ReadsLoads resp (entriesOf "p" Trial.swappedAsking.2) :=
    clients_read_loads (o := Trial.askingOptions) Trial.askingCrate_startsWithoutPrinter
      Trial.swappedAsking_run hg (by decide) (by decide +kernel) hr
  exact ⟨resp, hr, hreads⟩

/-! ## 6. What is left of them -/

/-- The supply level an action writes, under the name it goes to: a report may leave it out. -/
def System.level (s : System) : Action → Option (String × Nat)
  | .poll => s.poller.printerOp.bind fun e => e.2.supplyPercent.map fun level => (e.1, level)
  | _ => none

/-- The server with the reported levels so far. -/
def gauging (o : Options) : Machine (System × List (String × Nat)) Action Event :=
  (server o).withHistory fun log s a => log ++ (s.level a).toList

/-- The value of `printer-supply` at a level. -/
def supplyText (level : Nat) : String :=
  s!"index=1;class=supplyThatIsConsumed;type=stoppingMaterial;unit=percent;maxcapacity=100;level={level};colorantname=unknown;"

/-- The text of an octet string. -/
def IppValue.toOctetString : IppValue → Option String
  | .octetString s => some s.val
  | _ => none

section Supply

variable {o : Options} {s s' : System} {a : Action} {ev tr : List Event}
  {printers : PrinterRegistry} {f : PrinterRecord → PrinterRecord} {r r' : PrinterRecord}
  {log : List (String × Nat)}

/-- Every printer's level is the one reported last. -/
def LevelsFollow (printers : PrinterRegistry) (log : List (String × Nat)) : Prop :=
  ∀ name r, findPrinter printers name = some r → r.supplyPercent = lastOf name log

theorem PrinterOp.apply_supply (op : PrinterOp) (r : PrinterRecord) :
    (op.apply r).supplyPercent = r.supplyPercent := by
  cases op <;> rfl

/-- An update that reports a level, or keeps the one that is there. -/
theorem LevelsFollow.update {name : String} (h : LevelsFollow printers log) (level : Option Nat)
    (hn : ∀ r, (f r).config.name = r.config.name)
    (hf : ∀ r, (f r).supplyPercent = level.or r.supplyPercent) :
    LevelsFollow (updatePrinter printers name f)
      (log ++ (level.map fun l => (name, l)).toList) := by
  intro other r hr
  by_cases he : other = name
  · subst he
    rw [findPrinter_updatePrinter hn] at hr
    obtain ⟨r₀, hr₀, rfl⟩ := Option.map_eq_some_iff.mp hr
    rw [hf, h other r₀ hr₀]
    cases level with
    | none => simp
    | some l => simp
  · rw [findPrinter_updatePrinter_other hn printers he] at hr
    rw [h other r hr]
    cases level with
    | none => simp
    | some l => simp [lastOf_other he]

/-- **Every step keeps the levels to the reports.** -/
theorem LevelsFollow.step (hI : LevelsFollow s.app.printers log)
    (h : step o s a = some (s', ev)) :
    LevelsFollow s'.app.printers (log ++ (s.level a).toList) := by
  by_cases ha : a = .poll
  · subst ha
    obtain ⟨pc, _, _, rfl⟩ := step_poll h
    show LevelsFollow (s.poller.printersAfter s.app.printers) _
    unfold PollerPc.printersAfter System.level
    dsimp only
    cases s.poller.printerOp with
    | none => simpa using hI
    | some e =>
        exact hI.update e.2.supplyPercent (fun r => e.2.applyTo_name r) fun r => by
          rw [PollStatus.applyTo_eq]
          rfl
  · have hnone : s.level a = none := by
      cases a with
      | poll => exact absurd rfl ha
      | _ => rfl
    rw [hnone, Option.toList_none]
    have hp := step_printers h
    generalize s'.app.printers = ps at hp ⊢
    cases hp with
    | same => simpa using hI
    | worked i now w hw =>
        unfold WorkerPc.printersAfter
        cases w.pc.printerOp with
        | none => simpa using hI
        | some op =>
            exact hI.update none (fun r => by rw [op.apply_config]) fun r => op.apply_supply r
    | polled => exact absurd rfl ha
    | loaded i t ht =>
        unfold MediaTask.printersAfter
        split
        · exact hI.update none (fun r => r.setReadyMedia_name t.form.media) fun r => rfl
        · simpa using hI

theorem run_levels {G : System × List (String × Nat) → Action → Prop} {d : Deployment}
    (h : Run (gauging o) G (boot d, []) tr (s, log)) : LevelsFollow s.app.printers log := by
  refine Run.always (I := fun p => LevelsFollow p.1.app.printers p.2) ?_ ?_ h
  · intro name r hr
    obtain ⟨e, _, rfl⟩ := List.mem_map.mp (List.mem_of_find?_eq_some hr)
    rfl
  · intro p a p' ev hI _ hs
    obtain ⟨hstep, hlog⟩ := step_withHistory hs
    rw [hlog]
    exact hI.step hstep

theorem octetString_ok {text what : String} {v : IppValue}
    (h : (expectInto 1023 text what).map .octetString = .ok v) : v.toOctetString = some text := by
  cases hb : expectInto 1023 text what with
  | error f =>
      rw [hb] at h
      cases h
  | ok b =>
      rw [hb] at h
      cases h
      exact congrArg some (expectInto_ok hb)

/-- What a full response says of the supply. -/
theorem supply_read {x : IppCrate} {version : IppVersion} {requestId : Nat} {host : String}
    {port : Nat} {clock : Clock} {resp : IppResponse} (hx : x.StartsWithoutPrinter)
    (h : getPrinterAttributes x version requestId r host port none clock = .ok resp) :
    (resp.values "printer-supply").map IppValue.toOctetString =
      [some (supplyText (r.supplyPercent.getD 100))] := by
  have hmem : ("printer-supply", arrayOf [(expectInto 1023 (supplyText (r.supplyPercent.getD 100))
      "supply").map .octetString]) ∈ printerAttributes r host port clock := by
    refine List.mem_append_right _ ?_
    unfold adminAttributes supplyText
    dsimp only
    exact .tail _ (.tail _ (.tail _ (.tail _ (.tail _ (.head _)))))
  obtain ⟨v, hv, hval⟩ := (getPrinterAttributes_valueOf hx h).1 _ hmem
  obtain ⟨vs, rfl, hread⟩ := arrayOf_ok (g := id) (l := [supplyText (r.supplyPercent.getD 100)])
    (fun _ _ => octetString_ok) hv
  rw [values_of hval]
  exact hread

/-- **Clients read the last known level**: in every state of every run, a full
    Get-Printer-Attributes that is answered says the supply level that the printer's device
    reported last, however many reports left it out since, and 100 before any. -/
theorem clients_read_supply {G : System × List (String × Nat) → Action → Prop} {d : Deployment}
    (hx : o.crate.StartsWithoutPrinter) (h : Run (gauging o) G (boot d, []) tr (s, log))
    {clock : Clock} {name : String} {body : List UInt8} {req : IppRequest} {record : PrinterRecord}
    {resp : IppResponse} (hg : gates o.crate s.app name body = .ok (req, record))
    (hop : operationOf o.crate req.operationOrStatus = .getPrinterAttributes)
    (hall : extractRequestedAttributes o.crate req = none)
    (hr : (handleIpp o.crate clock s.app name body).reply = .ok resp) :
    (resp.values "printer-supply").map IppValue.toOctetString =
      [some (supplyText ((lastOf name log).getD 100))] := by
  rw [supply_read hx (fullAttributes_of_reply hg hop hall hr),
    run_levels h name record (gates_ok hg).printer]

end Supply

namespace Trial

/-- Two rounds: the first device reports a level of 40, then none. -/
def levelRounds : List Action :=
  [.pollTick, .poll,
    .pollAnswer (some { reasons := .empty, readyMedia := none, supplyPercent := some 40 }), .poll,
    .poll, .poll, .pollAnswer none, .poll, .pollTick, .poll,
    .pollAnswer (some { reasons := .empty, readyMedia := none, supplyPercent := none }), .poll]

def gauged : System × List (String × Nat) :=
  endOf (gauging askingOptions) anyStep (boot deployment, []) levelRounds

theorem gauged_run : Run (gauging askingOptions) anyStep (boot deployment, [])
    (traceOf (gauging askingOptions) anyStep (boot deployment, []) levelRounds)
    (gauged.1, gauged.2) :=
  run_endOf_pair (by decide +kernel)

theorem gauged_answered : ∃ resp,
    (handleIpp askingCrate clock gauged.1.app "p" attributes.body).reply = .ok resp :=
  Reply.ok_of_successful (by decide +kernel)

end Trial

theorem clients_read_supply_kept :
    ∃ resp, (handleIpp Trial.askingCrate Trial.clock Trial.gauged.1.app "p"
        Trial.attributes.body).reply = .ok resp ∧
      (resp.values "printer-supply").map IppValue.toOctetString =
        [some (supplyText ((lastOf "p" Trial.gauged.2).getD 100))] := by
  obtain ⟨⟨req, record⟩, hadm⟩ := Option.isSome_iff_exists.mp (show (admitted Trial.askingCrate
    Trial.gauged.1.app "p" Trial.attributes.body).isSome = true by decide +kernel)
  have hg := mem_admitted.mp hadm
  have hreq : req = Trial.attributes.request :=
    Except.ok.inj ((gates_ok hg).parsed.symm.trans Trial.askingCrate_parse)
  subst hreq
  obtain ⟨resp, hr⟩ := Trial.gauged_answered
  have hreads : (resp.values "printer-supply").map IppValue.toOctetString =
      [some (supplyText ((lastOf "p" Trial.gauged.2).getD 100))] :=
    clients_read_supply (o := Trial.askingOptions) Trial.askingCrate_startsWithoutPrinter
      Trial.gauged_run hg (by decide) (by decide +kernel) hr
  exact ⟨resp, hr, hreads⟩

end IppPrinterApp
