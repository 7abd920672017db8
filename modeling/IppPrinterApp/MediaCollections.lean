/-
  File:      IppPrinterApp/MediaCollections.lean
  Subject:   The media a Get-Printer-Attributes response advertises, as a client reads them.

  A client reads a `media-col` as a name, a size and two side margins (`MediaCol`). What the
  attributes of the media paragraphs say in these terms is `ReadsMedia`, proved once of every
  response built for a printer (`reads_media`); the results about the collections speak of what is
  read.

  * `database_matches_keywords`: `media-col-database` has one entry for each keyword of
    `media-supported`, in its order, with the size and the margins that belong to it;
  * `side_margins_from_database_iff`: when every side margin offered is one of the database's.
-/
import IppPrinterApp.Conversions

namespace IppPrinterApp

open Fallible

/-! ## 1. Reading collections -/

/-- The elements of a set, a single value as itself. -/
def IppValue.elements : IppValue → List IppValue
  | .array vs => vs
  | v => [v]

/-- The values of a printer attribute. -/
def IppResponse.values (r : IppResponse) (name : String) : List IppValue :=
  ((r.valueOf .printerAttributes name).map IppValue.elements).getD []

/-- A member of a collection. -/
def IppValue.member (v : IppValue) (name : String) : Option IppValue :=
  match v with
  | .collection members => (members.find? fun e => e.1 == name).map Prod.snd
  | _ => none

def IppValue.toKeyword : IppValue → Option String
  | .keyword s => some s.val
  | _ => none

/-- A `media-size`: its two dimensions. -/
def IppValue.toSize (v : IppValue) : Option SizeHmm :=
  match v.member "x-dimension", v.member "y-dimension" with
  | some (.integer x), some (.integer y) => some (x, y)
  | _, _ => none

/-- What a client reads of a `media-col`. -/
structure MediaCol where
  name : String
  size : SizeHmm
  left : Int
  right : Int
  deriving DecidableEq, Repr

def IppValue.toMediaCol (v : IppValue) : Option MediaCol :=
  match v.member "media-size-name", (v.member "media-size").bind toSize,
    v.member "media-left-margin", v.member "media-right-margin" with
  | some (.keyword name), some size, some (.integer left), some (.integer right) =>
    some { name := name.val, size, left, right }
  | _, _, _, _ => none

/-- An entry of `media-size-supported` admits a size: it is that size, or a range about it. -/
def IppValue.admits (v : IppValue) (size : SizeHmm) : Bool :=
  match v.member "x-dimension", v.member "y-dimension" with
  | some (.integer x), some (.integer y) => x == size.1 && y == size.2
  | some (.rangeOfInteger x x'), some (.rangeOfInteger y y') =>
    x ≤ size.1 && size.1 ≤ x' && y ≤ size.2 && size.2 ≤ y'
  | _, _ => false

/-- An entry of the database as a client reads it: the margins are those of its own width. -/
def PrinterConfig.colOf (cfg : PrinterConfig) (e : String × SizeHmm) : MediaCol where
  name := e.1
  size := e.2
  left := sideMarginHmm cfg e.2.1
  right := sideMarginHmm cfg e.2.1

theorem kw_ok {s : String} {v : IppValue} (h : kw s = .ok v) : v.toKeyword = some s := by
  unfold kw at h
  cases hb : expectInto 255 s "keyword" with
  | error f =>
      rw [hb] at h
      cases h
  | ok b =>
      rw [hb] at h
      cases h
      exact congrArg some (expectInto_ok hb)

/-- **What is read of a built collection.** -/
theorem mediaColOf_ok {cfg : PrinterConfig} {e : String × SizeHmm} {v : IppValue}
    (h : mediaColOf cfg e = .ok v) : v.toMediaCol = some (cfg.colOf e) := by
  unfold mediaColOf mediaCol at h
  cases hk : kw e.1 with
  | error f =>
      rw [hk] at h
      cases h
  | ok k =>
      rw [hk] at h
      cases h
      have hname := kw_ok hk
      cases k with
      | keyword s =>
          have e₁ : s.val = e.1 := Option.some.inj hname
          show some (MediaCol.mk s.val (e.2.1, e.2.2) _ _) = _
          rw [e₁]
          rfl
      | _ => cases hname

/-- A set is read element by element. -/
theorem arrayOf_ok {α : Type} {β : Type*} {f : α → Built} {read : IppValue → Option β} {g : α → β}
    (hf : ∀ a v, f a = .ok v → read v = some (g a)) {l : List α} {v : IppValue}
    (h : arrayOf (l.map f) = .ok v) :
    ∃ vs, v = .array vs ∧ vs.map read = l.map fun a => some (g a) := by
  unfold arrayOf at h
  cases hm : (l.map f).mapM id with
  | error err =>
      rw [hm] at h
      cases h
  | ok vs =>
      rw [hm] at h
      cases h
      refine ⟨vs, rfl, ?_⟩
      have hall := mapM_ok_iff.mp hm
      rw [List.forall₂_map_left_iff] at hall
      clear hm
      induction hall with
      | nil => rfl
      | cons ha _ ih =>
          rw [List.map_cons, List.map_cons, hf _ _ ha, ih]

section ReadList

variable {α β γ : Type*} {read : α → Option β} {g : γ → β} {vs : List α} {es : List γ} {P : β → Prop}

/-- What is so of some value read is so of some entry it was made of. -/
theorem exists_read_iff (h : vs.map read = es.map fun e => some (g e)) :
    (∃ v ∈ vs, ∃ c, read v = some c ∧ P c) ↔ ∃ e ∈ es, P (g e) := by
  have hv : (∃ v ∈ vs, ∃ c, read v = some c ∧ P c) ↔
      ∃ r ∈ vs.map read, ∃ c, r = some c ∧ P c := by
    simp only [List.mem_map, exists_exists_and_eq_and]
  rw [hv, h]
  simp

/-- What is so of every value read is so of every entry they were made of. -/
theorem forall_read_iff (h : vs.map read = es.map fun e => some (g e)) :
    (∀ v ∈ vs, ∃ c, read v = some c ∧ P c) ↔ ∀ e ∈ es, P (g e) := by
  have hv : (∀ v ∈ vs, ∃ c, read v = some c ∧ P c) ↔
      ∀ r ∈ vs.map read, ∃ c, r = some c ∧ P c := by simp
  rw [hv, h]
  simp

end ReadList

/-! ## 2. The attributes of a response -/

/-- A response starts without any printer attribute. -/
def IppCrate.StartsWithoutPrinter (x : IppCrate) : Prop :=
  ∀ version status requestId r, x.newResponse version status requestId = .ok r →
    ∀ g ∈ r.groups, g.tag ≠ .printerAttributes

def identityNames : List String :=
  ["printer-uri-supported", "uri-authentication-supported", "uri-security-supported",
    "printer-name", "printer-location", "printer-info", "printer-make-and-model",
    "printer-more-info", "printer-uuid", "printer-up-time", "printer-state",
    "printer-state-reasons", "printer-is-accepting-jobs", "queued-job-count",
    "ipp-versions-supported", "ipp-features-supported", "pdl-override-supported",
    "printer-device-id", "operations-supported", "charset-configured", "charset-supported",
    "natural-language-configured", "natural-language-supported",
    "generated-natural-language-supported", "compression-supported"]

def documentNames : List String :=
  ["document-format-supported", "document-format-default", "pwg-raster-document-type-supported",
    "pwg-raster-document-resolution-supported", "urf-supported", "color-supported",
    "print-color-mode-supported", "print-color-mode-default", "sides-supported", "sides-default",
    "orientation-requested-default", "orientation-requested-supported",
    "identify-actions-supported", "identify-actions-default", "media-source-supported",
    "media-type-supported", "output-bin-supported", "output-bin-default",
    "print-content-optimize-supported", "print-content-optimize-default", "finishings-supported",
    "finishings-default", "job-creation-attributes-supported", "printer-resolution-default",
    "printer-resolution-supported"]

def mediaNames : List String :=
  ["media-default", "media-supported", "media-col-default", "media-col-supported",
    "media-col-database", "media-size-supported", "media-ready", "media-col-ready"]

def sideMarginNames : List String :=
  ["media-top-margin-supported", "media-bottom-margin-supported", "media-left-margin-supported",
    "media-right-margin-supported"]

def jobLimitNames : List String := jobLimitAttributes.map Prod.fst

def adminNames : List String :=
  ["printer-geo-location", "printer-organization", "printer-organizational-unit",
    "printer-icons", "pages-per-minute", "printer-supply", "printer-supply-description",
    "printer-supply-info-uri", "printer-config-change-time", "printer-config-change-date-time",
    "printer-state-change-time", "printer-state-change-date-time"]

section Response

variable {x : IppCrate} {version : IppVersion} {requestId : Nat} {record : PrinterRecord}
  {host : String} {port : Nat} {clock : Clock} {resp : IppResponse}

theorem printerAttributes_names :
    ((printerAttributes record host port clock).map Prod.fst).Sublist
      (identityNames ++ documentNames ++ (mediaAttributes record).map Prod.fst ++
        sideMarginNames ++ jobLimitNames ++ adminNames) := by
  have hid : ((identityAttributes record host port clock).map Prod.fst).Sublist identityNames := by
    unfold identityAttributes
    rw [List.map_append, List.map_append]
    have hdevice : ((if record.config.deviceId.isEmpty then []
        else [("printer-device-id", text record.config.deviceId)] : List (String × Built)).map
          Prod.fst).Sublist ["printer-device-id"] := by
      split
      · exact List.nil_sublist _
      · exact List.Sublist.refl _
    exact ((List.Sublist.refl _).append hdevice).append (List.Sublist.refl _)
  unfold printerAttributes
  simp only [List.map_append]
  exact ((((hid.append (.refl documentNames)).append (.refl _)).append (.refl sideMarginNames)).append
    (.refl jobLimitNames)).append (.refl adminNames)

theorem mediaAttributes_names :
    (mediaAttributes record).map Prod.fst =
      if mediaKeywords record.config = [] then [] else mediaNames := by
  unfold mediaAttributes
  dsimp only
  cases mediaKeywords record.config with
  | nil => rfl
  | cons first rest => rfl

/-- No attribute of a printer is built twice. -/
theorem printerAttributes_nodup :
    ((printerAttributes record host port clock).map Prod.fst).Nodup := by
  have hall : (identityNames ++ documentNames ++ mediaNames ++ sideMarginNames ++ jobLimitNames ++
      adminNames).Nodup := by decide +kernel
  refine List.Nodup.sublist printerAttributes_names ?_
  rw [mediaAttributes_names]
  split
  · -- without media, some of these names only
    refine hall.sublist ?_
    exact ((((List.Sublist.refl _).append (List.nil_sublist _)).append (.refl _)).append
      (.refl _)).append (.refl _)
  · exact hall

/-- A printer without media has none of the attributes of the media paragraph. -/
theorem mediaNames_absent (hk : mediaKeywords record.config = []) :
    ∀ name ∈ mediaNames, name ∉ (printerAttributes record host port clock).map Prod.fst := by
  intro name hname hmem
  have hin := printerAttributes_names.subset hmem
  rw [mediaAttributes_names, if_pos hk] at hin
  have hno : ∀ n ∈ mediaNames, n ∉ identityNames ++ documentNames ++ [] ++ sideMarginNames ++
      jobLimitNames ++ adminNames := by decide +kernel
  exact hno name hname hin

/-- **What a full response carries**: each attribute it was built of, and no other. -/
theorem getPrinterAttributes_valueOf (hx : x.StartsWithoutPrinter)
    (h : getPrinterAttributes x version requestId record host port none clock = .ok resp) :
    (∀ e ∈ printerAttributes record host port clock,
      ∃ v, e.2 = .ok v ∧ resp.valueOf .printerAttributes e.1 = some v) ∧
    ∀ name, name ∉ (printerAttributes record host port clock).map Prod.fst →
      resp.valueOf .printerAttributes name = none := by
  obtain ⟨r, hr, hrest⟩ := bind_ok h
  obtain ⟨built, hadd, hresp⟩ := bind_ok hrest
  cases hresp
  unfold newResponse at hr
  cases hnew : x.newResponse version .successfulOk requestId with
  | error f =>
      rw [hnew] at hr
      cases hr
  | ok r' =>
      rw [hnew] at hr
      cases hr
      have hnone : r.groups.find? (fun g => g.tag == .printerAttributes) = none :=
        List.find?_eq_none.mpr fun g hg => by simpa using hx _ _ _ r hnew g hg
      obtain ⟨hin, hout⟩ := addAll_valueOf printerAttributes_nodup hadd
      refine ⟨hin, fun name hname => (hout name hname).trans ?_⟩
      unfold IppResponse.valueOf
      rw [hnone]
      rfl

theorem values_of {name : String} {v : IppValue}
    (h : resp.valueOf .printerAttributes name = some v) : resp.values name = v.elements := by
  unfold IppResponse.values
  rw [h]
  rfl

theorem values_none {name : String} (h : resp.valueOf .printerAttributes name = none) :
    resp.values name = [] := by
  unfold IppResponse.values
  rw [h]
  rfl

theorem values_keyword {name s : String} {v : IppValue}
    (h : resp.valueOf .printerAttributes name = some v) (hv : v.toKeyword = some s) :
    (resp.values name).map IppValue.toKeyword = [some s] := by
  rw [values_of h]
  cases v with
  | keyword k => exact congrArg (fun o => [o]) hv
  | _ => cases hv

theorem values_mediaCol {name : String} {v : IppValue} {c : MediaCol}
    (h : resp.valueOf .printerAttributes name = some v) (hv : v.toMediaCol = some c) :
    (resp.values name).map IppValue.toMediaCol = [some c] := by
  rw [values_of h]
  cases v with
  | collection members => exact congrArg (fun o => [o]) hv
  | _ => cases hv

end Response

/-! ## 3. What is read -/

/-- The name and the size of `media-default` and `media-col-default`. -/
def defaultEntry (cfg : PrinterConfig) : Option (String × SizeHmm) :=
  (mediaKeywords cfg).head?.map fun first => (first, defaultSize cfg)

/-- The name and the size of `media-ready` and `media-col-ready`. -/
def readyEntry (record : PrinterRecord) : Option (String × SizeHmm) :=
  (defaultEntry record.config).map fun e =>
    (record.readyMedia.map fun rm => (rm.name, rm.sizeHmm)).getD e

/-- **What a client reads of a printer's media.** -/
structure ReadsMedia (resp : IppResponse) (record : PrinterRecord) : Prop where
  keywords : (resp.values "media-supported").map IppValue.toKeyword =
    (mediaKeywords record.config).map some
  database : (resp.values "media-col-database").map IppValue.toMediaCol =
    (mediaCols record.config).map fun e => some (record.config.colOf e)
  mediaDefault : (resp.values "media-default").map IppValue.toKeyword =
    (defaultEntry record.config).toList.map fun e => some e.1
  colDefault : (resp.values "media-col-default").map IppValue.toMediaCol =
    (defaultEntry record.config).toList.map fun e => some (record.config.colOf e)
  mediaReady : (resp.values "media-ready").map IppValue.toKeyword =
    (readyEntry record).toList.map fun e => some e.1
  colReady : (resp.values "media-col-ready").map IppValue.toMediaCol =
    (readyEntry record).toList.map fun e => some (record.config.colOf e)
  sizes : mediaKeywords record.config ≠ [] →
    resp.values "media-size-supported" = mediaSizes record.config
  left : resp.values "media-left-margin-supported" =
    (sideMargins record.config).map IppValue.integer
  right : resp.values "media-right-margin-supported" =
    (sideMargins record.config).map IppValue.integer

section Reads

variable {x : IppCrate} {version : IppVersion} {requestId : Nat} {record : PrinterRecord}
  {host : String} {port : Nat} {clock : Clock} {resp : IppResponse}

/-- The attributes of a printer, paragraph by paragraph. -/
theorem mem_printerAttributes {e : String × Built} :
    e ∈ printerAttributes record host port clock ↔
      e ∈ identityAttributes record host port clock ∨ e ∈ documentAttributes record.config ∨
        e ∈ mediaAttributes record ∨ e ∈ sideMarginAttributes record.config ∨
        e ∈ jobLimitAttributes ∨ e ∈ adminAttributes record host port clock := by
  unfold printerAttributes
  simp only [List.mem_append, or_assoc]

/-- The media paragraph of a printer with media. -/
theorem mediaAttributes_cons {first : String} {rest : List String}
    (hk : mediaKeywords record.config = first :: rest) :
    ∃ supported ready : String × SizeHmm, defaultEntry record.config = some supported ∧
      readyEntry record = some ready ∧
      mediaAttributes record =
        [("media-default", kw supported.1),
          ("media-supported", keywords (mediaKeywords record.config)),
          ("media-col-default", mediaColOf record.config supported),
          ("media-col-supported",
            keywords ["media-size", "media-size-name", "media-top-margin", "media-bottom-margin",
              "media-left-margin", "media-right-margin", "media-source", "media-type"]),
          ("media-col-database", arrayOf ((mediaCols record.config).map (mediaColOf record.config))),
          ("media-size-supported", .ok (.array (mediaSizes record.config))),
          ("media-ready", kw ready.1),
          ("media-col-ready", arrayOf [mediaColOf record.config ready])] := by
  have hd : defaultEntry record.config = some (first, defaultSize record.config) := by
    unfold defaultEntry
    rw [hk]
    rfl
  refine ⟨(first, defaultSize record.config),
    (record.readyMedia.map fun rm => (rm.name, rm.sizeHmm)).getD (first, defaultSize record.config),
    hd, ?_, ?_⟩
  · unfold readyEntry
    rw [hd]
    rfl
  · unfold mediaAttributes
    dsimp only
    rw [hk]
    cases record.readyMedia with
    | none => rfl
    | some rm => rfl

/-- A printer without media: nothing is read but the side margins. -/
theorem reads_media_nil (hk : mediaKeywords record.config = [])
    (habsent : ∀ name ∈ mediaNames, resp.values name = [])
    (hl : resp.values "media-left-margin-supported" =
      (sideMargins record.config).map IppValue.integer)
    (hr : resp.values "media-right-margin-supported" =
      (sideMargins record.config).map IppValue.integer) : ReadsMedia resp record := by
  have hcols : mediaCols record.config = [] := by
    rw [← List.map_eq_nil_iff (f := Prod.fst), mediaCols_names, hk]
  have hno : defaultEntry record.config = none := by
    unfold defaultEntry
    rw [hk]
    rfl
  have hread : readyEntry record = none := by
    unfold readyEntry
    rw [hno]
    rfl
  exact
    { keywords := by rw [habsent _ (by simp [mediaNames]), hk]; rfl
      database := by rw [habsent _ (by simp [mediaNames]), hcols]; rfl
      mediaDefault := by rw [habsent _ (by simp [mediaNames]), hno]; rfl
      colDefault := by rw [habsent _ (by simp [mediaNames]), hno]; rfl
      mediaReady := by rw [habsent _ (by simp [mediaNames]), hread]; rfl
      colReady := by rw [habsent _ (by simp [mediaNames]), hread]; rfl
      sizes := fun hne => absurd hk hne
      left := hl
      right := hr }

/-- A printer with media: every attribute of the paragraph, as it was built. -/
theorem reads_media_cons {first : String} {rest : List String}
    (hk : mediaKeywords record.config = first :: rest)
    (hattr : ∀ e ∈ mediaAttributes record,
      ∃ v, e.2 = .ok v ∧ resp.valueOf .printerAttributes e.1 = some v)
    (hl : resp.values "media-left-margin-supported" =
      (sideMargins record.config).map IppValue.integer)
    (hr : resp.values "media-right-margin-supported" =
      (sideMargins record.config).map IppValue.integer) : ReadsMedia resp record := by
  obtain ⟨supported, ready, hd, hready, hall⟩ := mediaAttributes_cons hk
  rw [hall] at hattr
  simp only [List.forall_mem_cons] at hattr
  obtain ⟨⟨v₁, h₁, g₁⟩, ⟨v₂, h₂, g₂⟩, ⟨v₃, h₃, g₃⟩, _, ⟨v₅, h₅, g₅⟩, ⟨v₆, h₆, g₆⟩, ⟨v₇, h₇, g₇⟩,
    ⟨v₈, h₈, g₈⟩, _⟩ := hattr
  refine
    { keywords := ?_, database := ?_, mediaDefault := ?_, colDefault := ?_, mediaReady := ?_
      colReady := ?_, sizes := ?_, left := hl, right := hr }
  · obtain ⟨vs, rfl, hvs⟩ := arrayOf_ok (g := id) (fun _ _ => kw_ok) h₂
    rw [values_of g₂]
    exact hvs
  · obtain ⟨vs, rfl, hvs⟩ := arrayOf_ok (fun _ _ => mediaColOf_ok) h₅
    rw [values_of g₅]
    exact hvs
  · rw [hd]
    exact values_keyword g₁ (kw_ok h₁)
  · rw [hd]
    exact values_mediaCol g₃ (mediaColOf_ok h₃)
  · rw [hready]
    exact values_keyword g₇ (kw_ok h₇)
  · obtain ⟨vs, rfl, hvs⟩ := arrayOf_ok (l := [ready]) (fun _ _ => mediaColOf_ok) h₈
    rw [hready, values_of g₈]
    exact hvs
  · intro _
    cases h₆
    exact values_of g₆

/-- **Every full response of a printer reads so.** -/
theorem reads_media (hx : x.StartsWithoutPrinter)
    (h : getPrinterAttributes x version requestId record host port none clock = .ok resp) :
    ReadsMedia resp record := by
  obtain ⟨hin, hout⟩ := getPrinterAttributes_valueOf hx h
  have hsides : ∀ e ∈ sideMarginAttributes record.config,
      ∃ v, e.2 = .ok v ∧ resp.valueOf .printerAttributes e.1 = some v := fun e he =>
    hin e (mem_printerAttributes.mpr (by tauto))
  simp only [sideMarginAttributes, List.forall_mem_cons] at hsides
  obtain ⟨_, _, ⟨l, hl, gl⟩, ⟨r, hr, gr⟩, _⟩ := hsides
  cases hl
  cases hr
  cases hk : mediaKeywords record.config with
  | nil =>
      exact reads_media_nil hk
        (fun name hname => values_none (hout name (mediaNames_absent hk name hname)))
        (values_of gl) (values_of gr)
  | cons first rest =>
      exact reads_media_cons hk (fun e he =>
        hin e (mem_printerAttributes.mpr (by tauto)))
        (values_of gl) (values_of gr)

end Reads

/-! ## 4. Two printers to read -/

namespace Trial

theorem crate_startsWithoutPrinter : crate.StartsWithoutPrinter := by
  intro version status requestId r h g hg
  cases h
  rw [List.mem_singleton.mp hg]
  decide

/-- A printer whose strings fit answers. -/
theorem responds {record : PrinterRecord} (hr : record.InRange) (hf : record.Fits "localhost" 8631) :
    ∃ resp, getPrinterAttributes crate 0x0200 7 record "localhost" 8631 none clock = .ok resp := by
  have hbuilt : BuiltIf crate 0x0200 7
      (getPrinterAttributes crate 0x0200 7 record "localhost" 8631 none clock)
      (record.Fits "localhost" 8631) := builtIf_getPrinterAttributes hr none
  rcases hbuilt.cases crate_buildsResponses with ⟨_, resp, h, _⟩ | ⟨hno, _⟩
  · exact ⟨resp, h⟩
  · exact absurd hf hno

theorem printer_responds :
    ∃ resp, getPrinterAttributes crate 0x0200 7 printer "localhost" 8631 none clock = .ok resp :=
  responds ⟨by decide, by decide, by decide⟩
    ⟨by decide +kernel, by decide +kernel, by decide, by decide, by decide, by decide, by decide,
      by decide, by decide, by decide⟩

/-- A printer with a size more than it has names, as wide as the other. -/
def surplus : PrinterRecord :=
  .new { config "p" with mediaSizes := [(5000, 3000), (5000, 8000)] } "uuid-p"

theorem surplus_responds :
    ∃ resp, getPrinterAttributes crate 0x0200 7 surplus "localhost" 8631 none clock = .ok resp :=
  responds ⟨by decide, by decide, by decide⟩
    ⟨by decide +kernel, by decide +kernel, by decide, by decide, by decide, by decide, by decide,
      by decide, by decide, by decide⟩

/-- A printer that leaves its only size to the default, with a head narrower than that. -/
def unsized : PrinterRecord :=
  .new { config "p" with
    printheadWidthDots := 200, mediaSizes := [], mediaSizeMin := (0, 0) } "uuid-p"

theorem unsized_responds :
    ∃ resp, getPrinterAttributes crate 0x0200 7 unsized "localhost" 8631 none clock = .ok resp :=
  responds ⟨by decide, by decide, by decide⟩
    ⟨by decide +kernel, by decide +kernel, by decide, by decide, by decide, by decide, by decide,
      by decide, by decide, by decide⟩

end Trial

/-! ## 5. The database and the keywords -/

/-- The bounds of a custom size that are advertised: both positive, not inverted. -/
def PrinterConfig.BoundsSane (cfg : PrinterConfig) : Prop :=
  0 < cfg.mediaSizeMin.1 ∧ 0 < cfg.mediaSizeMin.2 ∧ 0 < cfg.mediaSizeMax.1 ∧
    0 < cfg.mediaSizeMax.2 ∧ cfg.mediaSizeMin.1 ≤ cfg.mediaSizeMax.1 ∧
    cfg.mediaSizeMin.2 ≤ cfg.mediaSizeMax.2

instance (cfg : PrinterConfig) : Decidable cfg.BoundsSane :=
  inferInstanceAs (Decidable (_ ∧ _ ∧ _ ∧ _ ∧ _ ∧ _))

theorem customMediaRange_sane {cfg : PrinterConfig} (h : cfg.BoundsSane) :
    customMediaRange cfg = some (cfg.mediaSizeMin, cfg.mediaSizeMax) := if_pos h

theorem customMediaRange_not_sane {cfg : PrinterConfig} (h : ¬ cfg.BoundsSane) :
    customMediaRange cfg = none := if_neg h

theorem zipSizes_getElem? (d : SizeHmm) (names : List String) (sizes : List SizeHmm) (i : Nat) :
    (zipSizes d names sizes)[i]? = names[i]?.map fun n => (n, sizes[i]?.getD d) := by
  fun_induction zipSizes d names sizes generalizing i with
  | case1 => rfl
  | case2 n ns ih =>
      cases i with
      | zero => rfl
      | succ i => simpa using ih i
  | case3 n ns s ss ih =>
      cases i with
      | zero => rfl
      | succ i => simpa using ih i

theorem zipSizes_length (d : SizeHmm) (names : List String) (sizes : List SizeHmm) :
    (zipSizes d names sizes).length = names.length := by
  rw [← List.length_map (f := Prod.fst), zipSizes_names]

section Match

variable {x : IppCrate} {version : IppVersion} {requestId : Nat} {record : PrinterRecord}
  {host : String} {port : Nat} {clock : Clock} {resp : IppResponse}

/-- **The collections match the keywords**: in every full response, `media-col-database` has one
    entry for each keyword of `media-supported`, in its order and with that keyword as its name;
    the entry of a configured name has the configured size, or the default size where there is
    none; sane bounds are the sizes of the last two entries, which are beside those the only ones;
    and the side margins of an entry are those of its own width. -/
theorem database_matches_keywords (hx : x.StartsWithoutPrinter)
    (h : getPrinterAttributes x version requestId record host port none clock = .ok resp) :
    ∃ cols : List MediaCol,
      (resp.values "media-col-database").map IppValue.toMediaCol = cols.map some ∧
      (resp.values "media-supported").map IppValue.toKeyword = cols.map (fun c => some c.name) ∧
      (∀ (i : Nat) (n : String), record.config.mediaNames[i]? = some n →
        ∃ c, cols[i]? = some c ∧ c.name = n ∧
          c.size = record.config.mediaSizes[i]?.getD (defaultSize record.config)) ∧
      (record.config.BoundsSane →
        (cols.drop record.config.mediaNames.length).map (fun c => (c.name, c.size)) =
          [(customMediaName "min" record.config.mediaSizeMin, record.config.mediaSizeMin),
            (customMediaName "max" record.config.mediaSizeMax, record.config.mediaSizeMax)]) ∧
      (¬ record.config.BoundsSane → cols.length = record.config.mediaNames.length) ∧
      ∀ c ∈ cols, c.left = sideMarginHmm record.config c.size.1 ∧
        c.right = sideMarginHmm record.config c.size.1 := by
  have hread := reads_media hx h
  have hlen := zipSizes_length (defaultSize record.config) record.config.mediaNames
    record.config.mediaSizes
  refine ⟨(mediaCols record.config).map record.config.colOf, ?_, ?_, ?_, ?_, ?_, ?_⟩
  · rw [hread.database, List.map_map]
    rfl
  · rw [hread.keywords, ← mediaCols_names, List.map_map, List.map_map]
    rfl
  · intro i n hn
    have hi := (List.getElem?_eq_some_iff.mp hn).1
    have hentry := zipSizes_getElem? (defaultSize record.config) record.config.mediaNames
      record.config.mediaSizes i
    rw [hn, Option.map_some] at hentry
    refine ⟨record.config.colOf (n, _), ?_, rfl, rfl⟩
    unfold mediaCols
    rw [List.getElem?_map, List.getElem?_append_left (by rw [hlen]; exact hi), hentry]
    rfl
  · intro hs
    unfold mediaCols
    rw [customMediaRange_sane hs, ← List.map_drop, List.drop_append_of_le_length (by rw [hlen]),
      List.drop_eq_nil_of_le (by rw [hlen])]
    rfl
  · intro hs
    unfold mediaCols
    rw [customMediaRange_not_sane hs, List.length_map, List.length_append, hlen]
    rfl
  · intro c hc
    obtain ⟨e, _, rfl⟩ := List.mem_map.mp hc
    exact ⟨rfl, rfl⟩

end Match

/-- The size without a name is in neither list. -/
theorem database_matches_keywords_surplus :
    ∃ resp, getPrinterAttributes Trial.crate 0x0200 7 Trial.surplus "localhost" 8631 none
        Trial.clock = .ok resp ∧
      ∃ cols : List MediaCol,
        (resp.values "media-col-database").map IppValue.toMediaCol = cols.map some ∧
        (resp.values "media-supported").map IppValue.toKeyword =
          cols.map (fun c => some c.name) ∧
        (cols.drop 1).map (fun c => (c.name, c.size)) =
          [(customMediaName "min" (1000, 1000), (1000, 1000)),
            (customMediaName "max" (6000, 9000), (6000, 9000))] := by
  obtain ⟨resp, h⟩ := Trial.surplus_responds
  obtain ⟨cols, hdatabase, hkeywords, _, hbounds, _⟩ :=
    database_matches_keywords Trial.crate_startsWithoutPrinter h
  exact ⟨resp, h, cols, hdatabase, hkeywords, hbounds (by decide)⟩

/-! ## 6. The side margins -/

/-- The margins of the custom bounds. -/
def boundMargins (cfg : PrinterConfig) : List Int :=
  ((customMediaRange cfg).map fun r => [sideMarginHmm cfg r.1.1, sideMarginHmm cfg r.2.1]).getD []

/-- The margins of some sizes. -/
def marginsOf (cfg : PrinterConfig) (sizes : List SizeHmm) : List Int :=
  sizes.map fun s => sideMarginHmm cfg s.1

theorem mem_marginsOf {cfg : PrinterConfig} {s : SizeHmm} {sizes : List SizeHmm} (h : s ∈ sizes) :
    sideMarginHmm cfg s.1 ∈ marginsOf cfg sizes := by
  unfold marginsOf
  exact List.mem_map.mpr ⟨s, h, rfl⟩

/-- **The margins offered** are those of the configured sizes and of the bounds, and a `0` where
    there are neither. -/
theorem mem_sideMargins_iff {cfg : PrinterConfig} {m : Int} :
    m ∈ sideMargins cfg ↔ m ∈ marginsOf cfg cfg.mediaSizes ∨ m ∈ boundMargins cfg ∨
      (cfg.mediaSizes = [] ∧ customMediaRange cfg = none ∧ m = 0) := by
  unfold sideMargins
  dsimp only
  rw [(List.pairwise_insertionSort _ _).destutter_eq_dedup, List.mem_dedup,
    List.mem_insertionSort]
  unfold marginsOf boundMargins
  cases customMediaRange cfg with
  | some r => simp
  | none =>
      cases cfg.mediaSizes with
      | nil => simp
      | cons s ss => simp

/-- They are offered in strictly increasing order. -/
theorem sideMargins_increasing (cfg : PrinterConfig) : (sideMargins cfg).Pairwise (· < ·) := by
  obtain ⟨margins, e⟩ : ∃ margins : List Int,
      sideMargins cfg = (margins.insertionSort (· ≤ ·)).dedup :=
    ⟨_, (List.pairwise_insertionSort _ _).destutter_eq_dedup⟩
  have hsorted := List.pairwise_insertionSort (· ≤ ·) margins
  have hle := hsorted.sublist (List.dedup_sublist (margins.insertionSort (· ≤ ·)))
  rw [e]
  exact hle.imp₂ (fun _ _ hle hne => lt_of_le_of_ne hle hne) (List.nodup_dedup _)

theorem zipSizes_sizes (d : SizeHmm) (names : List String) (sizes : List SizeHmm) :
    (zipSizes d names sizes).map Prod.snd =
      sizes.take names.length ++ List.replicate (names.length - sizes.length) d := by
  fun_induction zipSizes d names sizes with
  | case1 => simp
  | case2 n ns ih => simpa [List.replicate_succ] using ih
  | case3 n ns s ss ih => simpa using ih

/-- The margins of the database. -/
def databaseMargins (cfg : PrinterConfig) : List Int :=
  (mediaCols cfg).map fun e => sideMarginHmm cfg e.2.1

/-- **The margins of the database** are those of the configured sizes as far as there are names
    for them, of the default size where there are more names, and of the bounds. -/
theorem mem_databaseMargins_iff {cfg : PrinterConfig} {m : Int} :
    m ∈ databaseMargins cfg ↔ m ∈ marginsOf cfg (cfg.mediaSizes.take cfg.mediaNames.length) ∨
      (cfg.mediaSizes.length < cfg.mediaNames.length ∧ m = sideMarginHmm cfg (defaultSize cfg).1) ∨
      m ∈ boundMargins cfg := by
  have hzip : (zipSizes (defaultSize cfg) cfg.mediaNames cfg.mediaSizes).map
      (fun e => sideMarginHmm cfg e.2.1) =
      marginsOf cfg ((zipSizes (defaultSize cfg) cfg.mediaNames cfg.mediaSizes).map Prod.snd) := by
    unfold marginsOf
    rw [List.map_map]
    rfl
  have hbounds : databaseMargins cfg = (zipSizes (defaultSize cfg) cfg.mediaNames
      cfg.mediaSizes).map (fun e => sideMarginHmm cfg e.2.1) ++ boundMargins cfg := by
    unfold databaseMargins mediaCols boundMargins
    rw [List.map_append]
    cases customMediaRange cfg with
    | none => rfl
    | some r => rfl
  rw [hbounds, hzip, zipSizes_sizes, marginsOf, List.map_append, List.map_replicate,
    List.mem_append, List.mem_append, List.mem_replicate, or_assoc]
  refine or_congr_right (or_congr_left (and_congr_left fun _ => ?_))
  omega

/-- The condition on a configuration: the sizes beyond the names have margins that the database has
    too, and a printer without sizes and bounds leaves no margin on its default size. -/
def PrinterConfig.MarginsUsed (cfg : PrinterConfig) : Prop :=
  (∀ s ∈ cfg.mediaSizes.drop cfg.mediaNames.length,
    sideMarginHmm cfg s.1 ∈ marginsOf cfg (cfg.mediaSizes.take cfg.mediaNames.length) ∨
      sideMarginHmm cfg s.1 ∈ boundMargins cfg) ∧
  (cfg.mediaSizes = [] → customMediaRange cfg = none → sideMarginHmm cfg 4000 = 0)

/-- **Every margin offered is one of the database's exactly if the condition holds.** -/
theorem sideMargins_subset_iff {cfg : PrinterConfig} (hk : mediaKeywords cfg ≠ []) :
    (∀ m ∈ sideMargins cfg, m ∈ databaseMargins cfg) ↔ cfg.MarginsUsed := by
  have hsizes : ∀ m, m ∈ marginsOf cfg cfg.mediaSizes ↔
      m ∈ marginsOf cfg (cfg.mediaSizes.take cfg.mediaNames.length) ∨
        m ∈ marginsOf cfg (cfg.mediaSizes.drop cfg.mediaNames.length) := by
    intro m
    conv_lhs => rw [← List.take_append_drop cfg.mediaNames.length cfg.mediaSizes]
    unfold marginsOf
    rw [List.map_append, List.mem_append]
  constructor
  · intro h
    constructor
    · intro s hs
      have hm : sideMarginHmm cfg s.1 ∈ marginsOf cfg (cfg.mediaSizes.drop cfg.mediaNames.length) :=
        mem_marginsOf hs
      have hin := h _ (mem_sideMargins_iff.mpr (Or.inl ((hsizes _).mpr (Or.inr hm))))
      rcases mem_databaseMargins_iff.mp hin with htake | ⟨hshort, _⟩ | hbound
      · exact Or.inl htake
      · have hpos := List.length_pos_of_mem hs
        rw [List.length_drop] at hpos
        omega
      · exact Or.inr hbound
    · intro hnil hnone
      have hin := h 0 (mem_sideMargins_iff.mpr (Or.inr (Or.inr ⟨hnil, hnone, rfl⟩)))
      rcases mem_databaseMargins_iff.mp hin with htake | ⟨_, h0⟩ | hbound
      · simp [hnil, marginsOf] at htake
      · rw [defaultSize, hnil] at h0
        exact h0.symm
      · simp [boundMargins, hnone] at hbound
  · rintro ⟨hextra, hnone⟩ m hm
    rw [mem_databaseMargins_iff]
    rcases mem_sideMargins_iff.mp hm with hsize | hbound | ⟨hnil, hrange, rfl⟩
    · rcases (hsizes m).mp hsize with htake | hdrop
      · exact Or.inl htake
      · obtain ⟨s, hs, rfl⟩ := List.mem_map.mp hdrop
        rcases hextra s hs with htake | hbound
        · exact Or.inl htake
        · exact Or.inr (Or.inr hbound)
    · exact Or.inr (Or.inr hbound)
    · -- no sizes and no bounds: the names are there, and all have the default size
      have hnames : cfg.mediaNames ≠ [] := by
        intro hno
        rw [Ne, mediaKeywords_eq_nil_iff, hrange] at hk
        simp [hno] at hk
      refine Or.inr (Or.inl ⟨?_, ?_⟩)
      · rw [hnil]
        exact List.length_pos_iff.mpr hnames
      · rw [defaultSize, hnil]
        exact (hnone hnil hrange).symm

section Margins

variable {x : IppCrate} {version : IppVersion} {requestId : Nat} {record : PrinterRecord}
  {host : String} {port : Nat} {clock : Clock} {resp : IppResponse}

/-- **The side margins and the database**: in a full response of a printer with media the two side
    margin sets are one strictly increasing list, each of whose margins is that of an entry of
    `media-col-database`, exactly if the condition holds. -/
theorem side_margins_from_database_iff (hx : x.StartsWithoutPrinter)
    (h : getPrinterAttributes x version requestId record host port none clock = .ok resp)
    (hk : mediaKeywords record.config ≠ []) :
    (∃ sides : List Int,
      resp.values "media-left-margin-supported" = sides.map IppValue.integer ∧
      resp.values "media-right-margin-supported" = sides.map IppValue.integer ∧
      sides.Pairwise (· < ·) ∧
      ∀ m ∈ sides, ∃ v ∈ resp.values "media-col-database", ∃ c, v.toMediaCol = some c ∧
        c.left = m ∧ c.right = m) ↔ record.config.MarginsUsed := by
  have hread := reads_media hx h
  -- a margin of the database is that of a collection read there
  have hcol : ∀ m, (∃ v ∈ resp.values "media-col-database", ∃ c, v.toMediaCol = some c ∧
      c.left = m ∧ c.right = m) ↔ m ∈ databaseMargins record.config := by
    intro m
    rw [exists_read_iff (P := fun c => c.left = m ∧ c.right = m) hread.database]
    unfold databaseMargins
    rw [List.mem_map]
    exact exists_congr fun e => and_congr_right fun _ => and_self_iff
  rw [← sideMargins_subset_iff hk]
  constructor
  · rintro ⟨sides, hl, _, _, hall⟩ m hm
    have e : sides = sideMargins record.config := by
      have hmap := hl.symm.trans hread.left
      exact List.map_injective_iff.mpr (fun a b hab => by cases hab; rfl) hmap
    rw [e] at hall
    exact (hcol m).mp (hall m hm)
  · intro hall
    exact ⟨sideMargins record.config, hread.left, hread.right, sideMargins_increasing _,
      fun m hm => (hcol m).mpr (hall m hm)⟩

end Margins

theorem side_margins_from_database_iff_surplus :
    ∃ resp, getPrinterAttributes Trial.crate 0x0200 7 Trial.surplus "localhost" 8631 none
        Trial.clock = .ok resp ∧
      ∃ sides : List Int,
        resp.values "media-left-margin-supported" = sides.map IppValue.integer ∧
        resp.values "media-right-margin-supported" = sides.map IppValue.integer ∧
        sides.Pairwise (· < ·) ∧
        ∀ m ∈ sides, ∃ v ∈ resp.values "media-col-database", ∃ c, v.toMediaCol = some c ∧
          c.left = m ∧ c.right = m := by
  obtain ⟨resp, h⟩ := Trial.surplus_responds
  refine ⟨resp, h, ?_⟩
  exact (side_margins_from_database_iff Trial.crate_startsWithoutPrinter h (by decide)).mpr
    ⟨by decide, by decide⟩

/-- The only margin offered is `0`, and the only media of the database has another one. -/
theorem borderless_never_advertised :
    ¬ ∀ (x : IppCrate) (version : IppVersion) (requestId : Nat) (record : PrinterRecord)
        (host : String) (port : Nat) (clock : Clock) (resp : IppResponse), x.StartsWithoutPrinter →
        getPrinterAttributes x version requestId record host port none clock = .ok resp →
        mediaKeywords record.config ≠ [] →
        ∃ sides : List Int,
          resp.values "media-left-margin-supported" = sides.map IppValue.integer ∧
          resp.values "media-right-margin-supported" = sides.map IppValue.integer ∧
          sides.Pairwise (· < ·) ∧
          ∀ m ∈ sides, ∃ v ∈ resp.values "media-col-database", ∃ c, v.toMediaCol = some c ∧
            c.left = m ∧ c.right = m := by
  intro h
  obtain ⟨resp, hresp⟩ := Trial.unsized_responds
  have hread := reads_media Trial.crate_startsWithoutPrinter hresp
  obtain ⟨sides, hl, _, _, hall⟩ := h _ _ _ _ _ _ _ resp Trial.crate_startsWithoutPrinter hresp (by decide)
  have hzero : (0 : Int) ∈ sides := by
    have hmem : IppValue.integer 0 ∈ sides.map IppValue.integer := by
      rw [← hl, hread.left]
      exact List.mem_map_of_mem (by decide +kernel)
    obtain ⟨m, hm, e⟩ := List.mem_map.mp hmem
    cases e
    exact hm
  have hcol := hall 0 hzero
  rw [exists_read_iff (P := fun c => c.left = 0 ∧ c.right = 0) hread.database] at hcol
  revert hcol
  decide +kernel

end IppPrinterApp
