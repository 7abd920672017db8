/-
  File:      IppPrinterApp/Attributes.lean
  Subject:   Building the responses (attributes.rs).

  A builder converts runtime strings into bounded IPP strings with `expect` and `unwrap`, so a
  value is an `Except Fault IppValue` and a response an `Except Fault IppResponse`: `Fault.panic`
  is the failing conversion, `Fault.error` the error of the response constructor.

  `getPrinterAttributes` is one list of name/value pairs in the order of the source, cut into the
  source's own paragraphs (`identityAttributes`, `mediaAttributes`, `sideMarginAttributes`, …).
  The clocks a response reads are passed in (`Clock`); one response reads each of them once.
-/
import Mathlib.Data.List.Sort
import Mathlib.Data.List.Destutter
import IppPrinterApp.Printer
import IppPrinterApp.Request

namespace IppPrinterApp

/-- What a response reads of the time: the system clock, and what `uptime_secs` returns. -/
structure Clock where
  now : SystemTime
  uptime : Nat
  deriving DecidableEq, Repr

/-- `Instant`, in nanoseconds. -/
abbrev Instant := Nat

/-- `uptime_secs`: the whole seconds since its first call. `START` is set by that call. -/
def uptimeSecs (start : Option Instant) (now : Instant) : Nat × Option Instant :=
  ((now - start.getD now) / 1000000000, some (start.getD now))

/-- A value under construction. -/
abbrev Built := Except Fault IppValue

/-! ## 1. The conversions -/

/-- `try_into().expect(what)`. -/
def expectInto (max : Nat) (s what : String) : Except Fault (BoundedString max) :=
  match tryInto max s with
  | some b => .ok b
  | none => .error (.panic what)

def kw (s : String) : Built := (expectInto 255 s "keyword").map .keyword
def mime (s : String) : Built := (expectInto 255 s "mime").map .mimeMediaType
def uri (s : String) : Built := (expectInto 1023 s "uri").map .uri
def charset (s : String) : Built := (expectInto 63 s "charset").map .charset
def lang (s : String) : Built := (expectInto 63 s "language").map .naturalLanguage
def text (s : String) : Built := (expectInto 1023 s "text").map .textWithoutLanguage
def nameValue (s : String) : Built := (expectInto 255 s "name").map .nameWithoutLanguage

/-- A set of values, built left to right. -/
def arrayOf (values : List Built) : Built := (values.mapM id).map .array

def keywords (items : List String) : Built := arrayOf (items.map kw)
def enums (codes : List Int) : Built := .ok (.array (codes.map .enum))
def int (n : Int) : Built := .ok (.integer n)

/-- The attributes added to a response one after the other, all under one delimiter. -/
def addAll (tag : DelimiterTag) (resp : IppResponse) (attrs : List (String × Built)) :
    Except Fault IppResponse :=
  attrs.foldlM (fun r e => e.2.map fun v => r.add tag ⟨e.1, v⟩) resp

/-- `new_response(…)?`. -/
def newResponse (x : IppCrate) (version : IppVersion) (status : IppStatus) (requestId : Nat) :
    Except Fault IppResponse :=
  match x.newResponse version status requestId with
  | .ok r => .ok r
  | .error e => .error (.error e)

/-! ## 2. Time -/

/-- `datetime_utc`: Hinnant's `civil_from_days`, with the casts of the fields. -/
def datetimeUtc (unixSecs : Int) : IppValue :=
  let days := unixSecs / 86400
  let rem := unixSecs % 86400
  let z := days + 719468
  let era := (if z ≥ 0 then z else z - 146096).tdiv 146097
  let doe := z - era * 146097
  let yoe := (doe - doe.tdiv 1460 + doe.tdiv 36524 - doe.tdiv 146096).tdiv 365
  let year := yoe + era * 400
  let doy := doe - (365 * yoe + yoe.tdiv 4 - yoe.tdiv 100)
  let mp := (5 * doy + 2).tdiv 153
  let day := doy - (153 * mp + 2).tdiv 5 + 1
  let month := if mp < 10 then mp + 3 else mp - 9
  let year := if month ≤ 2 then year + 1 else year
  .dateTime (year % 2 ^ 16) (month % 2 ^ 8) (day % 2 ^ 8) (rem.tdiv 3600 % 2 ^ 8)
    ((rem.tmod 3600).tdiv 60 % 2 ^ 8) (rem.tmod 60 % 2 ^ 8) 0 '+' 0 0

/-- `now_unix`. -/
def nowUnix (now : SystemTime) : Int := if now < 0 then 0 else now / 1000000000

/-! ## 3. Media -/

/-- `media_col`; the members stand in the key order of the source's `BTreeMap`. -/
def mediaCol (name : String) (sizeHmm : SizeHmm) (sideMarginHmm : Int) : Built :=
  (kw name).map fun sizeName =>
    .collection
      [("media-bottom-margin", .integer 0),
        ("media-left-margin", .integer sideMarginHmm),
        ("media-right-margin", .integer sideMarginHmm),
        ("media-size", .collection
          [("x-dimension", .integer sizeHmm.1), ("y-dimension", .integer sizeHmm.2)]),
        ("media-size-name", sizeName),
        ("media-top-margin", .integer 0)]

/-- `side_margin_hmm`, in the wrapping arithmetic of a release build. -/
def sideMarginHmm (cfg : PrinterConfig) (widthHmm : Int) : Int :=
  if cfg.dpi ≤ 0 ∨ cfg.printheadWidthDots = 0 then 0
  else
    let headHmm := asI32 (((cfg.printheadWidthDots : Int) * 2540).tdiv cfg.dpi)
    (max (asI32 (widthHmm - headHmm)) 0).tdiv 2

/-- `custom_media_range`: the bounds, if both ends are positive and not inverted. -/
def customMediaRange (cfg : PrinterConfig) : Option (SizeHmm × SizeHmm) :=
  let min := cfg.mediaSizeMin
  let max := cfg.mediaSizeMax
  if min.1 > 0 ∧ min.2 > 0 ∧ max.1 > 0 ∧ max.2 > 0 ∧ max.1 ≥ min.1 ∧ max.2 ≥ min.2 then
    some (min, max)
  else none

/-- `custom_media_name`. -/
def customMediaName (bound : String) (sizeHmm : SizeHmm) : String :=
  let w := sizeHmm.1.tdiv 100
  let h := sizeHmm.2.tdiv 100
  s!"custom_{bound}_{w}x{h}mm_{w}x{h}mm"

/-- `media_size_range_col`. -/
def mediaSizeRangeCol (minHmm maxHmm : SizeHmm) : IppValue :=
  .collection
    [("x-dimension", .rangeOfInteger minHmm.1 maxHmm.1),
      ("y-dimension", .rangeOfInteger minHmm.2 maxHmm.2)]

/-- `media_size_col`. -/
def mediaSizeCol (sizeHmm : SizeHmm) : IppValue :=
  .collection [("x-dimension", .integer sizeHmm.1), ("y-dimension", .integer sizeHmm.2)]

/-- The names zipped with the sizes, the default size repeated past the end of the sizes. -/
def zipSizes (defaultSize : SizeHmm) : List String → List SizeHmm → List (String × SizeHmm)
  | [], _ => []
  | n :: ns, [] => (n, defaultSize) :: zipSizes defaultSize ns []
  | n :: ns, s :: ss => (n, s) :: zipSizes defaultSize ns ss

/-- The keywords of `media-supported`: the configured names, then the custom bookends. -/
def mediaKeywords (cfg : PrinterConfig) : List String :=
  cfg.mediaNames ++
    match customMediaRange cfg with
    | some (min, max) => [customMediaName "min" min, customMediaName "max" max]
    | none => []

/-- The size of `media-col-default`. -/
def defaultSize (cfg : PrinterConfig) : SizeHmm := cfg.mediaSizes.head?.getD (4000, 3000)

/-- The name/size pairs of `media-col-database`. -/
def mediaCols (cfg : PrinterConfig) : List (String × SizeHmm) :=
  zipSizes (defaultSize cfg) cfg.mediaNames cfg.mediaSizes ++
    match customMediaRange cfg with
    | some (min, max) => [(customMediaName "min" min, min), (customMediaName "max" max, max)]
    | none => []

/-- A `media-col` with the side margin of its own width. -/
def mediaColOf (cfg : PrinterConfig) (e : String × SizeHmm) : Built :=
  mediaCol e.1 e.2 (sideMarginHmm cfg e.2.1)

/-- The values of `media-size-supported`. -/
def mediaSizes (cfg : PrinterConfig) : List IppValue :=
  cfg.mediaSizes.map mediaSizeCol ++
    match customMediaRange cfg with
    | some (min, max) => [mediaSizeRangeCol min max]
    | none => []

/-- The side margins offered: those of every configured width and of the custom bounds, sorted
    and without repetition; `0` when there is none. -/
def sideMargins (cfg : PrinterConfig) : List Int :=
  let margins := cfg.mediaSizes.map (fun s => sideMarginHmm cfg s.1) ++
    match customMediaRange cfg with
    | some (min, max) => [sideMarginHmm cfg min.1, sideMarginHmm cfg max.1]
    | none => []
  let margins := if margins.isEmpty then [0] else margins
  (margins.insertionSort (· ≤ ·)).destutter (· ≠ ·)

/-! ## 4. Get-Printer-Attributes -/

/-- `advertise_host`. -/
def advertiseHost (host : String) : String :=
  if host == "0.0.0.0" || host == "::" || host.isEmpty then "localhost" else host

/-- `printer_uri` of attributes.rs. -/
def printerUri (record : PrinterRecord) (host : String) (port : Nat) : String :=
  s!"ipp://{advertiseHost host}:{port}/ipp/print/{record.config.name}"

def identityAttributes (record : PrinterRecord) (host : String) (port : Nat) (clock : Clock) :
    List (String × Built) :=
  let cfg := record.config
  [("printer-uri-supported", uri (printerUri record host port)),
    ("uri-authentication-supported", kw "none"),
    ("uri-security-supported", kw "none"),
    ("printer-name", nameValue cfg.name),
    ("printer-location", text ""),
    ("printer-info", text cfg.displayLabel),
    ("printer-make-and-model", text cfg.makeAndModel),
    ("printer-more-info", uri s!"http://{advertiseHost host}:{port}/"),
    ("printer-uuid", uri s!"urn:uuid:{record.uuid}"),
    ("printer-up-time", int (asI32 (max clock.uptime 1))),
    ("printer-state", .ok (.enum record.state.code)),
    ("printer-state-reasons", keywords record.reasons.ippKeywords),
    ("printer-is-accepting-jobs", .ok (.boolean true)),
    ("queued-job-count", int 0),
    ("ipp-versions-supported", keywords ["1.1", "2.0", "2.1"]),
    ("ipp-features-supported", keywords ["ipp-everywhere"]),
    ("pdl-override-supported", kw "attempted")] ++
  (if cfg.deviceId.isEmpty then [] else [("printer-device-id", text cfg.deviceId)]) ++
  [("operations-supported",
      enums [0x0002, 0x0004, 0x0005, 0x0006, 0x0008, 0x0009, 0x000a, 0x000b, 0x0039, 0x003b,
        0x003c]),
    ("charset-configured", charset "utf-8"),
    ("charset-supported", arrayOf [charset "utf-8"]),
    ("natural-language-configured", lang "en"),
    ("natural-language-supported", arrayOf [lang "en"]),
    ("generated-natural-language-supported", arrayOf [lang "en"]),
    ("compression-supported", keywords ["none"])]

/-- The formats of `document-format-supported`. -/
def documentFormats (cfg : PrinterConfig) : List String :=
  if cfg.documentFormats.isEmpty then
    ["image/pwg-raster", "application/vnd.cups-raster", "application/octet-stream"]
  else cfg.documentFormats

def resolution (cfg : PrinterConfig) : IppValue := .resolution cfg.dpi cfg.dpi 3

def documentAttributes (cfg : PrinterConfig) : List (String × Built) :=
  [("document-format-supported", arrayOf ((documentFormats cfg).map mime)),
    ("document-format-default", mime "image/pwg-raster"),
    ("pwg-raster-document-type-supported", keywords ["black_1"]),
    ("pwg-raster-document-resolution-supported", .ok (.array [resolution cfg])),
    ("urf-supported", keywords ["W8", "SRGB24", "CP1", "RS203"]),
    ("color-supported", .ok (.boolean false)),
    ("print-color-mode-supported", keywords ["monochrome"]),
    ("print-color-mode-default", kw "monochrome"),
    ("sides-supported", keywords ["one-sided"]),
    ("sides-default", kw "one-sided"),
    ("orientation-requested-default", .ok (.enum 3)),
    ("orientation-requested-supported", enums [3, 4, 5, 6]),
    ("identify-actions-supported", keywords ["display", "sound"]),
    ("identify-actions-default", keywords ["display"]),
    ("media-source-supported", keywords ["main"]),
    ("media-type-supported", keywords ["labels", "stationery"]),
    ("output-bin-supported", keywords ["face-up"]),
    ("output-bin-default", kw "face-up"),
    ("print-content-optimize-supported",
      keywords ["auto", "graphic", "photo", "text", "text-and-graphic"]),
    ("print-content-optimize-default", kw "auto"),
    ("finishings-supported", enums [3]),
    ("finishings-default", .ok (.enum 3)),
    ("job-creation-attributes-supported",
      keywords ["copies", "media", "media-col", "orientation-requested", "print-color-mode",
        "print-content-optimize", "print-quality", "printer-resolution", "sides"]),
    ("printer-resolution-default", .ok (resolution cfg)),
    ("printer-resolution-supported", .ok (.array [resolution cfg]))]

/-- The media paragraph: present when some media keyword is. -/
def mediaAttributes (record : PrinterRecord) : List (String × Built) :=
  let cfg := record.config
  match mediaKeywords cfg with
  | [] => []
  | first :: rest =>
    let ready := match record.readyMedia with
      | some rm => (rm.name, rm.sizeHmm)
      | none => (first, defaultSize cfg)
    [("media-default", kw first),
      ("media-supported", keywords (first :: rest)),
      ("media-col-default", mediaColOf cfg (first, defaultSize cfg)),
      ("media-col-supported",
        keywords ["media-size", "media-size-name", "media-top-margin", "media-bottom-margin",
          "media-left-margin", "media-right-margin", "media-source", "media-type"]),
      ("media-col-database", arrayOf ((mediaCols cfg).map (mediaColOf cfg))),
      ("media-size-supported", .ok (.array (mediaSizes cfg))),
      ("media-ready", kw ready.1),
      ("media-col-ready", arrayOf [mediaColOf cfg ready])]

def sideMarginAttributes (cfg : PrinterConfig) : List (String × Built) :=
  let sides := (sideMargins cfg).map IppValue.integer
  [("media-top-margin-supported", int 0),
    ("media-bottom-margin-supported", int 0),
    ("media-left-margin-supported", .ok (.array sides)),
    ("media-right-margin-supported", .ok (.array sides))]

def jobLimitAttributes : List (String × Built) :=
  [("copies-supported", .ok (.rangeOfInteger 1 999)),
    ("copies-default", int 1),
    ("print-quality-supported", enums [3, 4, 5]),
    ("print-quality-default", .ok (.enum 4)),
    ("multiple-document-jobs-supported", .ok (.boolean false)),
    ("multiple-operation-time-out", int 60),
    ("multiple-operation-time-out-action", kw "process-job"),
    ("job-ids-supported", .ok (.boolean true)),
    ("preferred-attributes-supported", .ok (.boolean false)),
    ("overrides-supported", keywords ["document-number", "pages"]),
    ("printer-get-attributes-supported", keywords ["document-format"]),
    ("which-jobs-supported",
      keywords ["completed", "not-completed", "aborted", "canceled", "pending", "processing"]),
    ("print-rendering-intent-default", kw "auto"),
    ("print-rendering-intent-supported", keywords ["auto"]),
    ("pwg-raster-document-sheet-back", kw "normal")]

def adminAttributes (record : PrinterRecord) (host : String) (port : Nat) (clock : Clock) :
    List (String × Built) :=
  let level := record.supplyPercent.getD 100
  let supply := s!"index=1;class=supplyThatIsConsumed;type=stoppingMaterial;unit=percent;maxcapacity=100;level={level};colorantname=unknown;"
  [("printer-geo-location", .ok (.other 0x12 [])),
    ("printer-organization", text ""),
    ("printer-organizational-unit", text ""),
    ("printer-icons", arrayOf [uri s!"http://{advertiseHost host}:{port}/icon.png"]),
    ("pages-per-minute", int 20),
    ("printer-supply", arrayOf [(expectInto 1023 supply "supply").map .octetString]),
    ("printer-supply-description", arrayOf [text "Label Stock"]),
    ("printer-supply-info-uri", uri s!"http://{advertiseHost host}:{port}/"),
    ("printer-config-change-time", int (asI32 clock.uptime)),
    ("printer-config-change-date-time", .ok (datetimeUtc (nowUnix clock.now))),
    ("printer-state-change-time", int (asI32 clock.uptime)),
    ("printer-state-change-date-time", .ok (datetimeUtc (nowUnix clock.now)))]

/-- All attributes of the printer, in the order they are added. -/
def printerAttributes (record : PrinterRecord) (host : String) (port : Nat) (clock : Clock) :
    List (String × Built) :=
  identityAttributes record host port clock ++ documentAttributes record.config ++
    mediaAttributes record ++ sideMarginAttributes record.config ++ jobLimitAttributes ++
    adminAttributes record host port clock

/-- `filter_requested`: only printer attributes are dropped. -/
def filterRequested (resp : IppResponse) (requested : Option NameSet) : IppResponse :=
  match requested with
  | none => resp
  | some set =>
    if set.isEmpty || set.contains "all" then resp
    else
      { resp with
        groups := resp.groups.map fun g =>
          if g.tag == .printerAttributes then
            { g with attributes := g.attributes.retain fun name _ => set.contains name }
          else g }

/-- `get_printer_attributes`. -/
def getPrinterAttributes (x : IppCrate) (version : IppVersion) (requestId : Nat)
    (record : PrinterRecord) (host : String) (port : Nat) (requested : Option NameSet)
    (clock : Clock) : Except Fault IppResponse := do
  let resp ← newResponse x version .successfulOk requestId
  let resp ← addAll .printerAttributes resp (printerAttributes record host port clock)
  pure (filterRequested resp requested)

/-- `validate_job`: the capability surface of Get-Printer-Attributes. -/
def validateJob (x : IppCrate) (version : IppVersion) (requestId : Nat) (record : PrinterRecord)
    (host : String) (port : Nat) (clock : Clock) : Except Fault IppResponse :=
  getPrinterAttributes x version requestId record host port none clock

/-! ## 5. Jobs -/

/-- `job_state_reason_keywords`. -/
def jobStateReasonKeywords (job : JobRecord) : List String :=
  let out :=
    (if job.reasons.contains .MEDIA_EMPTY then ["job-completed-with-errors"] else []) ++
    (if job.reasons.contains .MEDIA_JAM then ["aborted-by-system"] else []) ++
    (if job.reasons.contains .OFFLINE then ["connection-error"] else [])
  let out := match job.state with
    | .canceled => out ++ ["job-canceled-by-user"]
    | .completed => out ++ ["job-completed-successfully"]
    | .aborted => if out.isEmpty then ["aborted-by-system"] else out
    | _ => out
  if out.isEmpty then ["none"] else out

/-- The job-uri: the printer's URI followed by `/job/<id>`. -/
def jobUri (job : JobRecord) (printerUriStr : String) : String := s!"{printerUriStr}/job/{job.id}"

/-- `print_job_accepted`. -/
def printJobAccepted (x : IppCrate) (version : IppVersion) (requestId : Nat) (job : JobRecord)
    (printerUriStr : String) : Except Fault IppResponse := do
  let resp ← newResponse x version .successfulOk requestId
  addAll .jobAttributes resp
    [("job-uri", uri (jobUri job printerUriStr)),
      ("job-id", int (asI32 job.id)),
      ("job-state", .ok (.enum job.state.code)),
      ("job-state-reasons", keywords (jobStateReasonKeywords job))]

/-- The owner's name, `anonymous` where it does not fit the attribute. -/
def ownerValue (owner : String) : Built :=
  match tryInto 255 owner with
  | some b => .ok (.nameWithoutLanguage b)
  | none => nameValue "anonymous"

/-- The attributes of `job_attrs_for_group` before the filter. -/
def jobAttributes (job : JobRecord) (printerUriStr : String) (clock : Clock) :
    List (String × Built) :=
  [("job-uri", uri (jobUri job printerUriStr)),
    ("job-id", int (asI32 job.id)),
    ("job-printer-uri", uri printerUriStr),
    ("job-name", nameValue s!"job-{job.id}"),
    ("job-state", .ok (.enum job.state.code)),
    ("job-originating-user-name", ownerValue job.owner),
    ("time-at-creation", int job.createdSecs),
    ("job-state-reasons", keywords (jobStateReasonKeywords job))] ++
  (if job.message.isEmpty then [] else [("job-state-message", text job.message)]) ++
  [("time-at-processing", int job.createdSecs),
    ("job-printer-up-time", int (asI32 clock.uptime))] ++
  (match job.completedSecs with
    | some s => [("time-at-completed", int s)]
    | none => [])

/-- `job_attrs_for_group`: every attribute is built before any is dropped. -/
def jobAttrsForGroup (job : JobRecord) (printerUriStr : String) (requested : Option NameSet)
    (clock : Clock) : Except Fault (List IppAttribute) := do
  let out ← (jobAttributes job printerUriStr clock).mapM fun e => e.2.map (IppAttribute.mk e.1)
  match requested with
  | none => pure out
  | some set => pure (out.filter fun a => set.contains a.name)

/-- `build_job_attrs_response`. -/
def buildJobAttrsResponse (x : IppCrate) (version : IppVersion) (requestId : Nat)
    (job : JobRecord) (printerUriStr : String) (requested : Option NameSet) (clock : Clock) :
    Except Fault IppResponse := do
  let resp ← newResponse x version .successfulOk requestId
  let attrs ← jobAttrsForGroup job printerUriStr requested clock
  pure (attrs.foldl (fun r a => r.add .jobAttributes a) resp)

/-- `build_get_jobs_response`: each job in a group of its own. -/
def buildGetJobsResponse (x : IppCrate) (version : IppVersion) (requestId : Nat)
    (jobs : List JobRecord) (printerUriStr : String) (requested : Option NameSet)
    (clock : Clock) : Except Fault IppResponse := do
  let resp ← newResponse x version .successfulOk requestId
  let groups ← jobs.mapM fun job =>
    (jobAttrsForGroup job printerUriStr requested clock).map fun attrs =>
      IppAttributeGroup.mk .jobAttributes
        (AssocMap.ofList (attrs.map fun a => (a.name, a.value)))
  pure { resp with groups := resp.groups ++ groups }

/-! ## 6. The printer state -/

/-- `set_printer_processing`. -/
def setPrinterProcessing (record : PrinterRecord) : PrinterRecord :=
  { record with state := .processing }

/-- `set_printer_idle`. -/
def setPrinterIdle (record : PrinterRecord) : PrinterRecord := { record with state := .idle }

end IppPrinterApp
