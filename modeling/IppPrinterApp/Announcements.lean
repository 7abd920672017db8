/-
  File:      IppPrinterApp/Announcements.lean
  Subject:   What discovery and IPP announce of one printer (mdns.rs and attributes.rs).

  A client meets a printer twice: in the TXT records of its DNS-SD service, and in the attributes
  it answers with. The two are built in different modules from the same record.

  * `bareUuid_urn`, `bareUuid_bare` -- the UUID in the TXT record is the record's without its
    `urn:uuid:`;
  * `uuid_agrees_iff`: **the `printer-uuid` is `urn:uuid:` and the UUID advertised, exactly if the
    record's UUID is bare**; `uuid_of_queue` is one that came from a CUPS queue;
  * `formats_read`, `urf_read` -- what the two say of documents;
  * `documents_agree_iff`: **they say the same exactly if the configured formats are the three of
    the framework and the resolution is 203 dpi**.
-/
import IppPrinterApp.JobRefs
import IppPrinterApp.Lib.Words
import IppPrinterApp.Mdns
import IppPrinterApp.MediaCollections

namespace IppPrinterApp

open Words

/-! ## 1. The UUID -/

/-- The prefix of a UUID in IPP. -/
def urnUuid : String := "urn:uuid:"

/-- The text is a UUID in the form of IPP. -/
def IsUrn (uuid : String) : Prop := ∃ rest, rest ≠ "" ∧ uuid = urnUuid ++ rest

theorem toList_urnUuid : "urn:uuid:".toList = urnUuid.toList := rfl

theorem isPrefixOf_urn (rest : String) :
    urnUuid.toList.isPrefixOf (urnUuid ++ rest).toList = true := by
  rw [String.toList_append]
  exact List.isPrefixOf_iff_prefix.mpr (List.prefix_append _ _)

theorem IsUrn.isPrefixOf {uuid : String} (h : IsUrn uuid) :
    urnUuid.toList.isPrefixOf uuid.toList = true := by
  obtain ⟨rest, -, rfl⟩ := h
  exact isPrefixOf_urn rest

theorem bareUuid_urn (rest : String) : bareUuid (urnUuid ++ rest) = rest := by
  unfold bareUuid
  rw [toList_urnUuid, if_pos (isPrefixOf_urn rest), String.toList_append]
  exact String.ofList_toList

theorem bareUuid_bare {uuid : String} (h : ∀ rest, uuid ≠ urnUuid ++ rest) :
    bareUuid uuid = uuid := by
  unfold bareUuid
  rw [toList_urnUuid]
  refine if_neg fun hpre => ?_
  obtain ⟨rest, hrest⟩ := List.isPrefixOf_iff_prefix.mp hpre
  refine h (String.ofList rest) (String.toList_inj.mp ?_)
  rw [String.toList_append, String.toList_ofList, hrest]

/-- A text is in the form of IPP, or only the prefix of one, or its own bare form. -/
theorem bareUuid_cases (uuid : String) :
    (∃ rest, rest ≠ "" ∧ uuid = urnUuid ++ rest ∧ bareUuid uuid = rest) ∨
      (uuid = urnUuid ∧ bareUuid uuid = "") ∨ (¬IsUrn uuid ∧ bareUuid uuid = uuid) := by
  by_cases h : ∃ rest, uuid = urnUuid ++ rest
  · obtain ⟨rest, rfl⟩ := h
    by_cases hrest : rest = ""
    · subst hrest
      exact Or.inr (Or.inl ⟨String.append_empty, bareUuid_urn ""⟩)
    · exact Or.inl ⟨rest, hrest, rfl, bareUuid_urn rest⟩
  · refine Or.inr (Or.inr ⟨fun hurn => ?_, bareUuid_bare fun rest e => h ⟨rest, e⟩⟩)
    obtain ⟨rest, -, e⟩ := hurn
    exact h ⟨rest, e⟩

/-- The UUID of the TXT record: the bare one, if there is anything left of it. -/
theorem serviceInfo_uuid (host : String) (addrs : List String) (port : Nat)
    (instanceName logicalName makeAndModel uuid : String) :
    (serviceInfo host addrs port instanceName logicalName makeAndModel uuid).txt.get? "UUID" =
      if bareUuid uuid = "" then none else some (bareUuid uuid) := by
  unfold serviceInfo
  dsimp only
  by_cases h : bareUuid uuid = ""
  · have hempty : (bareUuid uuid).isEmpty = true := by simpa using h
    rw [if_pos h, if_pos hempty]
    simp [AssocMap.get?_insert]
    rfl
  · have hsome : ¬(bareUuid uuid).isEmpty = true := by simpa using h
    rw [if_neg h, if_neg hsome]
    simp [AssocMap.get?_insert]

section Announced

variable {x : IppCrate} {version : IppVersion} {requestId : Nat} {record : PrinterRecord}
  {host : String} {port : Nat} {clock : Clock} {resp : IppResponse}

/-- **The UUIDs agree**: the `printer-uuid` is `urn:uuid:` and the UUID of the TXT record. -/
def UuidsAgree (info : ServiceInfo) (resp : IppResponse) : Prop :=
  ∀ v, info.txt.get? "UUID" = some v →
    (resp.values "printer-uuid").map IppValue.toUri = [some (urnUuid ++ v)]

theorem mem_printerAttributes_uuid :
    ("printer-uuid", uri (urnUuid ++ record.uuid)) ∈ printerAttributes record host port clock := by
  have hmem : ("printer-uuid", uri (urnUuid ++ record.uuid)) ∈
      identityAttributes record host port clock := by
    have hurn : uri (urnUuid ++ record.uuid) = uri s!"urn:uuid:{record.uuid}" := rfl
    rw [hurn]
    simp [identityAttributes]
  exact mem_printerAttributes.mpr (Or.inl hmem)

/-- The `printer-uuid` of a full response. -/
theorem uuid_read (hx : x.StartsWithoutPrinter)
    (h : getPrinterAttributes x version requestId record host port none clock = .ok resp) :
    (resp.values "printer-uuid").map IppValue.toUri = [some (urnUuid ++ record.uuid)] := by
  obtain ⟨v, hv, hval⟩ := (getPrinterAttributes_valueOf hx h).1 _ mem_printerAttributes_uuid
  obtain ⟨b, hb, rfl⟩ := uri_ok hv
  rw [values_of hval]
  show [some b.val] = _
  rw [hb]

/-- **The UUIDs agree exactly if** the one of the printer's record is bare. -/
theorem uuid_agrees_iff (hx : x.StartsWithoutPrinter)
    (h : getPrinterAttributes x version requestId record host port none clock = .ok resp)
    (a : Advertiser) : UuidsAgree (a.infoOf record) resp ↔ ¬IsUrn record.uuid := by
  have hread := uuid_read hx h
  have hrec := serviceInfo_uuid a.host a.addrs a.port record.config.displayLabel
    record.config.name record.config.makeAndModel record.uuid
  unfold UuidsAgree Advertiser.infoOf
  rw [hread, hrec]
  rcases bareUuid_cases record.uuid with ⟨rest, hrest, hurn, hbare⟩ | ⟨hurn, hbare⟩ | ⟨hno, hbare⟩
  · -- the prefix is in the attribute twice
    rw [hbare, if_neg hrest]
    refine iff_of_false (fun hall => ?_) fun hno => hno ⟨rest, hrest, hurn⟩
    have he := Option.some.inj (List.cons.inj (hall rest rfl)).1
    have hlen := congrArg String.length he
    rw [hurn] at hlen
    simp [urnUuid] at hlen
  · rw [hbare, if_pos rfl]
    refine iff_of_true (fun v hv => by cases hv) fun hu => ?_
    obtain ⟨rest, hrest, hu⟩ := hu
    have he : urnUuid ++ "" = urnUuid ++ rest := String.append_empty.trans (hurn.symm.trans hu)
    exact hrest ((String.append_right_inj urnUuid).mp he).symm
  · refine iff_of_true (fun v hv => ?_) hno
    rw [hbare] at hv
    split at hv
    · cases hv
    · cases hv
      rfl

end Announced

namespace Trial

/-- The printer with the UUID of a CUPS queue, as the queue gives it. -/
def queuePrinter : PrinterRecord := { printer with uuid := "urn:uuid:4509a320-00a0" }

theorem queuePrinter_responds :
    ∃ resp, getPrinterAttributes crate 0x0200 7 queuePrinter "localhost" 8631 none clock =
      .ok resp :=
  responds ⟨by decide, by decide, by decide⟩
    ⟨by decide +kernel, by decide +kernel, by decide, by decide, by decide, by decide, by decide,
      by decide, by decide, by decide⟩

/-- An advertiser on this host. -/
def advertiser : Advertiser := .new "localhost" [] 8631

end Trial

theorem uuid_agrees_iff_printer :
    ∃ resp, getPrinterAttributes Trial.crate 0x0200 7 Trial.printer "localhost" 8631 none
        Trial.clock = .ok resp ∧ UuidsAgree (Trial.advertiser.infoOf Trial.printer) resp := by
  obtain ⟨resp, h⟩ := Trial.printer_responds
  have hno : ¬IsUrn Trial.printer.uuid := fun hu => absurd hu.isPrefixOf (by decide)
  exact ⟨resp, h, (uuid_agrees_iff Trial.crate_startsWithoutPrinter h Trial.advertiser).mpr hno⟩

/-- **A UUID from a queue**: discovery announces `4509a320-00a0`, and IPP
    `urn:uuid:urn:uuid:4509a320-00a0`. -/
theorem uuid_of_queue :
    ∃ resp, getPrinterAttributes Trial.crate 0x0200 7 Trial.queuePrinter "localhost" 8631 none
        Trial.clock = .ok resp ∧
      (Trial.advertiser.infoOf Trial.queuePrinter).txt.get? "UUID" = some "4509a320-00a0" ∧
      (resp.values "printer-uuid").map IppValue.toUri =
        [some "urn:uuid:urn:uuid:4509a320-00a0"] ∧
      ¬UuidsAgree (Trial.advertiser.infoOf Trial.queuePrinter) resp := by
  obtain ⟨resp, h⟩ := Trial.queuePrinter_responds
  have hrec : (Trial.advertiser.infoOf Trial.queuePrinter).txt.get? "UUID" =
      some "4509a320-00a0" := by decide +kernel
  have hread := uuid_read Trial.crate_startsWithoutPrinter h
  have htext : urnUuid ++ Trial.queuePrinter.uuid = "urn:uuid:urn:uuid:4509a320-00a0" := by decide
  rw [htext] at hread
  refine ⟨resp, h, hrec, hread, fun hagree => ?_⟩
  have hboth := hagree _ hrec
  rw [hread] at hboth
  exact absurd hboth (by decide)

/-! ## 2. Documents -/

/-- The elements of a comma-separated text. -/
def commaList (s : String) : List String := (words ',' s.toList).map String.ofList

def IppValue.toMime : IppValue → Option String
  | .mimeMediaType s => some s.val
  | _ => none

def IppValue.toResolution : IppValue → Option (Int × Int × Int)
  | .resolution crossFeed feed units => some (crossFeed, feed, units)
  | _ => none

/-- The resolution of the capability `RS…` of URF. -/
def rasterDpi (capability : String) : Option Nat :=
  if "RS".toList.isPrefixOf capability.toList then
    parseUnsigned 4294967296 (String.ofList (capability.toList.drop 2))
  else none

/-- The formats of the TXT record `pdl`. -/
def ServiceInfo.formats (info : ServiceInfo) : List String :=
  ((info.txt.get? "pdl").map commaList).getD []

/-- The capabilities of the TXT record `URF`. -/
def ServiceInfo.urf (info : ServiceInfo) : List String :=
  ((info.txt.get? "URF").map commaList).getD []

/-- The formats of `document-format-supported`. -/
def IppResponse.formats (resp : IppResponse) : List String :=
  (resp.values "document-format-supported").filterMap IppValue.toMime

/-- The capabilities of `urf-supported`. -/
def IppResponse.urf (resp : IppResponse) : List String :=
  (resp.values "urf-supported").filterMap IppValue.toKeyword

/-- **Discovery and IPP say the same of documents**: the same formats, with the default among them,
    and one resolution, in dots per inch. -/
structure DocumentsAgree (info : ServiceInfo) (resp : IppResponse) : Prop where
  formats : ∀ f, f ∈ info.formats ↔ f ∈ resp.formats
  default : ∃ f ∈ resp.formats,
    (resp.values "document-format-default").map IppValue.toMime = [some f]
  resolution : ∃ dpi : Nat, info.urf.filterMap rasterDpi = [dpi] ∧
    resp.urf.filterMap rasterDpi = [dpi] ∧
    (resp.values "printer-resolution-supported").map IppValue.toResolution =
      [some ((dpi : Int), (dpi : Int), 3)]

/-- The formats of the framework. -/
def rasterFormats : List String :=
  ["image/pwg-raster", "application/vnd.cups-raster", "application/octet-stream"]

/-- The capabilities of the framework. -/
def urfCapabilities : List String := ["W8", "SRGB24", "CP1", "RS203"]

section Advertised

variable (host : String) (addrs : List String) (port : Nat)
  (instanceName logicalName makeAndModel uuid : String)

/-- What a service lists, whatever the printer. -/
theorem serviceInfo_formats :
    (serviceInfo host addrs port instanceName logicalName makeAndModel uuid).formats =
      rasterFormats := by
  have hpdl : (serviceInfo host addrs port instanceName logicalName makeAndModel uuid).txt.get?
      "pdl" = some "image/pwg-raster,application/vnd.cups-raster,application/octet-stream" := by
    unfold serviceInfo
    simp [AssocMap.get?_insert]
  unfold ServiceInfo.formats
  rw [hpdl]
  decide +kernel

theorem serviceInfo_urf :
    (serviceInfo host addrs port instanceName logicalName makeAndModel uuid).urf =
      urfCapabilities := by
  have hurf : (serviceInfo host addrs port instanceName logicalName makeAndModel uuid).txt.get?
      "URF" = some "W8,SRGB24,CP1,RS203" := by
    unfold serviceInfo
    simp [AssocMap.get?_insert]
  unfold ServiceInfo.urf
  rw [hurf]
  decide +kernel

end Advertised

theorem urfCapabilities_dpi : urfCapabilities.filterMap rasterDpi = [203] := by decide

section Documents

variable {x : IppCrate} {version : IppVersion} {requestId : Nat} {record : PrinterRecord}
  {host : String} {port : Nat} {clock : Clock} {resp : IppResponse}

theorem mime_ok {s : String} {v : IppValue} (h : mime s = .ok v) : v.toMime = some s := by
  unfold mime at h
  cases hb : expectInto 255 s "mime" with
  | error f =>
      rw [hb] at h
      cases h
  | ok b =>
      rw [hb] at h
      cases h
      exact congrArg some (expectInto_ok hb)

/-- Values that are read one by one are read together. -/
theorem filterMap_of_map_eq {α β : Type*} {read : α → Option β} {vs : List α} {bs : List β}
    (h : vs.map read = bs.map some) : vs.filterMap read = bs := by
  have hid : vs.filterMap read = (vs.map read).filterMap id := by
    rw [List.filterMap_map]
    rfl
  rw [hid, h, List.filterMap_map]
  exact List.filterMap_some

/-- What a full response has of an attribute on documents. -/
theorem document_values (hx : x.StartsWithoutPrinter)
    (h : getPrinterAttributes x version requestId record host port none clock = .ok resp)
    {name : String} {built : Built} (he : (name, built) ∈ documentAttributes record.config) :
    ∃ v, built = .ok v ∧ resp.values name = v.elements := by
  have hmem : (name, built) ∈ printerAttributes record host port clock :=
    mem_printerAttributes.mpr (Or.inr (Or.inl he))
  obtain ⟨v, hv, hval⟩ := (getPrinterAttributes_valueOf hx h).1 _ hmem
  exact ⟨v, hv, values_of hval⟩

/-- The formats of a full response are those of the configuration, or the framework's. -/
theorem formats_read (hx : x.StartsWithoutPrinter)
    (h : getPrinterAttributes x version requestId record host port none clock = .ok resp) :
    resp.formats = documentFormats record.config := by
  obtain ⟨v, hv, hval⟩ := document_values hx h List.mem_cons_self
  obtain ⟨vs, rfl, hread⟩ := arrayOf_ok (g := id) (fun s v hs => mime_ok hs) hv
  unfold IppResponse.formats
  rw [hval]
  exact filterMap_of_map_eq hread

/-- The default is the framework's, whatever the configuration. -/
theorem defaultFormat_read (hx : x.StartsWithoutPrinter)
    (h : getPrinterAttributes x version requestId record host port none clock = .ok resp) :
    (resp.values "document-format-default").map IppValue.toMime = [some "image/pwg-raster"] := by
  have hmem : ("document-format-default", mime "image/pwg-raster") ∈
      documentAttributes record.config := by simp [documentAttributes]
  obtain ⟨v, hv, hval⟩ := document_values hx h hmem
  cases hv
  rw [hval]
  rfl

theorem urf_read (hx : x.StartsWithoutPrinter)
    (h : getPrinterAttributes x version requestId record host port none clock = .ok resp) :
    resp.urf = urfCapabilities := by
  have hmem : ("urf-supported", keywords urfCapabilities) ∈ documentAttributes record.config := by
    simp [documentAttributes, urfCapabilities]
  obtain ⟨v, hv, hval⟩ := document_values hx h hmem
  have hkw : arrayOf (urfCapabilities.map kw) = .ok v := hv
  obtain ⟨vs, rfl, hread⟩ := arrayOf_ok (g := id) (fun s v hs => kw_ok hs) hkw
  unfold IppResponse.urf
  rw [hval]
  exact filterMap_of_map_eq hread

theorem resolution_read (hx : x.StartsWithoutPrinter)
    (h : getPrinterAttributes x version requestId record host port none clock = .ok resp) :
    (resp.values "printer-resolution-supported").map IppValue.toResolution =
      [some (record.config.dpi, record.config.dpi, 3)] := by
  have hmem : ("printer-resolution-supported", .ok (.array [resolution record.config])) ∈
      documentAttributes record.config := by simp [documentAttributes]
  obtain ⟨v, hv, hval⟩ := document_values hx h hmem
  cases hv
  rw [hval]
  rfl

theorem documentFormats_agree {cfg : PrinterConfig} :
    (∀ f, f ∈ rasterFormats ↔ f ∈ documentFormats cfg) ↔
      cfg.documentFormats = [] ∨ ∀ f, f ∈ cfg.documentFormats ↔ f ∈ rasterFormats := by
  unfold documentFormats
  cases hl : cfg.documentFormats with
  | nil => exact iff_of_true (fun f => Iff.rfl) (Or.inl rfl)
  | cons g gs =>
      have hne : ¬(g :: gs).isEmpty = true := Bool.false_ne_true
      rw [if_neg hne]
      refine ⟨fun h => Or.inr fun f => (h f).symm, fun h f => ?_⟩
      rcases h with h | h
      · cases h
      · exact (h f).symm

/-- **The announcements of documents agree exactly if** the configuration has no formats or just
    those of the framework, and 203 dpi. -/
theorem documents_agree_iff (hx : x.StartsWithoutPrinter)
    (h : getPrinterAttributes x version requestId record host port none clock = .ok resp)
    (a : Advertiser) :
    DocumentsAgree (a.infoOf record) resp ↔
      (record.config.documentFormats = [] ∨
        ∀ f, f ∈ record.config.documentFormats ↔ f ∈ rasterFormats) ∧ record.config.dpi = 203 := by
  have hformats := formats_read hx h
  have hresolution := resolution_read hx h
  rw [← documentFormats_agree]
  constructor
  · intro hagree
    refine ⟨fun f => ?_, ?_⟩
    · have hf := hagree.formats f
      rw [hformats] at hf
      unfold Advertiser.infoOf at hf
      rw [serviceInfo_formats] at hf
      exact hf
    · obtain ⟨dpi, -, hurf, hres⟩ := hagree.resolution
      rw [urf_read hx h, urfCapabilities_dpi] at hurf
      rw [hresolution] at hres
      cases hurf
      exact (Prod.mk.inj (Option.some.inj (List.cons.inj hres).1)).1
  · intro hcfg
    obtain ⟨hall, hdpi⟩ := hcfg
    have hinfo : (a.infoOf record).formats = rasterFormats := serviceInfo_formats ..
    have hurf : (a.infoOf record).urf = urfCapabilities := serviceInfo_urf ..
    refine ⟨?_, ⟨"image/pwg-raster", ?_, defaultFormat_read hx h⟩, 203, ?_, ?_, ?_⟩
    · rw [hinfo, hformats]
      exact hall
    · rw [hformats]
      exact (hall _).mp List.mem_cons_self
    · rw [hurf, urfCapabilities_dpi]
    · rw [urf_read hx h, urfCapabilities_dpi]
    · rw [hresolution, hdpi]
      rfl

end Documents

namespace Trial

/-- The printer with the defaults of the framework. -/
def plainPrinter : PrinterRecord := .new { config "p" with documentFormats := [] } "uuid-p"

theorem plainPrinter_responds :
    ∃ resp, getPrinterAttributes crate 0x0200 7 plainPrinter "localhost" 8631 none clock =
      .ok resp :=
  responds ⟨by decide, by decide, by decide⟩
    ⟨by decide +kernel, by decide +kernel, by decide, by decide, by decide, by decide, by decide,
      by decide, by decide, by decide⟩

/-- A printer of 300 dpi that takes JPEG alone. -/
def photoPrinter : PrinterRecord :=
  .new { config "p" with documentFormats := ["image/jpeg"], dpi := 300 } "uuid-p"

theorem photoPrinter_responds :
    ∃ resp, getPrinterAttributes crate 0x0200 7 photoPrinter "localhost" 8631 none clock =
      .ok resp :=
  responds ⟨by decide, by decide, by decide⟩
    ⟨by decide +kernel, by decide +kernel, by decide, by decide, by decide, by decide, by decide,
      by decide, by decide, by decide⟩

end Trial

theorem documents_agree_iff_plain :
    ∃ resp, getPrinterAttributes Trial.crate 0x0200 7 Trial.plainPrinter "localhost" 8631 none
        Trial.clock = .ok resp ∧
      DocumentsAgree (Trial.advertiser.infoOf Trial.plainPrinter) resp := by
  obtain ⟨resp, h⟩ := Trial.plainPrinter_responds
  exact ⟨resp, h, (documents_agree_iff Trial.crate_startsWithoutPrinter h Trial.advertiser).mpr
    ⟨Or.inl rfl, rfl⟩⟩

/-- **A printer of JPEG**: discovery lists three formats that it does not take, its default is none
    of those it takes, and it prints at 300 dpi where both lists of capabilities say 203. -/
theorem jpeg_announced :
    ∃ resp, getPrinterAttributes Trial.crate 0x0200 7 Trial.photoPrinter "localhost" 8631 none
        Trial.clock = .ok resp ∧
      (Trial.advertiser.infoOf Trial.photoPrinter).formats = rasterFormats ∧
      resp.formats = ["image/jpeg"] ∧
      (resp.values "document-format-default").map IppValue.toMime = [some "image/pwg-raster"] ∧
      (Trial.advertiser.infoOf Trial.photoPrinter).urf.filterMap rasterDpi = [203] ∧
      (resp.values "printer-resolution-supported").map IppValue.toResolution =
        [some (300, 300, 3)] ∧
      ¬DocumentsAgree (Trial.advertiser.infoOf Trial.photoPrinter) resp := by
  obtain ⟨resp, h⟩ := Trial.photoPrinter_responds
  have hx := Trial.crate_startsWithoutPrinter
  have hurf : (Trial.advertiser.infoOf Trial.photoPrinter).urf = urfCapabilities :=
    serviceInfo_urf ..
  refine ⟨resp, h, serviceInfo_formats .., formats_read hx h, defaultFormat_read hx h, ?_,
    resolution_read hx h, fun hagree => ?_⟩
  · rw [hurf, urfCapabilities_dpi]
  · have hf := (hagree.formats "image/jpeg").mpr (by rw [formats_read hx h]; decide)
    rw [show (Trial.advertiser.infoOf Trial.photoPrinter).formats = rasterFormats from
      serviceInfo_formats ..] at hf
    exact absurd hf (by decide)

end IppPrinterApp
