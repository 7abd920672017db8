/-
  File:      IppPrinterApp/MediaNames.lean
  Subject:   What the names of the advertised media tell.

  A client knows a media by its name: it looks the name of `media-default` up in
  `media-col-database`, and it reads the size off a self-describing name such as
  `custom_min_10x10mm_10x10mm` (`sizeInName`).

  * `default_in_database_iff`: when the default collection is the database's entry of its name;
    `default_contradicts_name` is a printer that only has custom bounds;
  * `bookend_names_tell_iff`: the names of the custom bookends tell their sizes exactly if these
    are in whole millimetres; `bookend_name_truncated` is a printer from 10.5 mm on.
-/
import IppPrinterApp.Lib.Decimal
import IppPrinterApp.MediaCollections

namespace IppPrinterApp

open Decimal

/-! ## 1. The default collection -/

/-- **The default is the database's**: `media-col-default` has the name of `media-default` and is
    the first entry of `media-col-database` with that name; so is `media-col-ready` while no media
    is known to be loaded. -/
def DefaultInDatabase (resp : IppResponse) (record : PrinterRecord) : Prop :=
  ∃ c : MediaCol,
    (resp.values "media-default").map IppValue.toKeyword = [some c.name] ∧
    (resp.values "media-col-default").map IppValue.toMediaCol = [some c] ∧
    ((resp.values "media-col-database").filterMap IppValue.toMediaCol).find?
      (fun e => e.name == c.name) = some c ∧
    (record.readyMedia = none → (resp.values "media-col-ready").map IppValue.toMediaCol = [some c])

/-- The condition on a configuration: a name is configured, or the default size is the smallest
    custom size. -/
def PrinterConfig.DefaultNamed (cfg : PrinterConfig) : Prop :=
  cfg.mediaNames ≠ [] ∨ defaultSize cfg = cfg.mediaSizeMin

/-- The first entry of the database has the default size exactly under the condition. -/
theorem first_entry_size_iff {cfg : PrinterConfig} {e : String × SizeHmm}
    {es : List (String × SizeHmm)} (h : mediaCols cfg = e :: es) :
    e.2 = defaultSize cfg ↔ cfg.DefaultNamed := by
  unfold PrinterConfig.DefaultNamed
  cases hn : cfg.mediaNames with
  | nil =>
      -- only bookends: the first entry is the lower one
      unfold mediaCols at h
      rw [hn] at h
      by_cases hs : cfg.BoundsSane
      · rw [customMediaRange_sane hs] at h
        cases h
        exact ⟨fun h => Or.inr h.symm, fun h => (h.resolve_left fun hne => hne rfl).symm⟩
      · rw [customMediaRange_not_sane hs] at h
        cases h
  | cons n ns =>
      refine iff_of_true ?_ (Or.inl (List.cons_ne_nil n ns))
      unfold mediaCols at h
      rw [hn] at h
      unfold defaultSize at h ⊢
      cases hz : cfg.mediaSizes with
      | nil =>
          rw [hz] at h
          cases h
          rfl
      | cons s ss =>
          rw [hz] at h
          cases h
          rfl

section Default

variable {x : IppCrate} {version : IppVersion} {requestId : Nat} {record : PrinterRecord}
  {host : String} {port : Nat} {clock : Clock} {resp : IppResponse}

/-- The collections of the database, as they are read. -/
theorem database_read (hread : ReadsMedia resp record) :
    (resp.values "media-col-database").filterMap IppValue.toMediaCol =
      (mediaCols record.config).map record.config.colOf := by
  have h := congrArg (List.filterMap id) hread.database
  rw [List.filterMap_map, List.filterMap_map] at h
  rw [← List.filterMap_eq_map]
  exact h

/-- **The default is the database's exactly under the condition**: in a full response of a printer
    with media. -/
theorem default_in_database_iff (hx : x.StartsWithoutPrinter)
    (h : getPrinterAttributes x version requestId record host port none clock = .ok resp)
    (hk : mediaKeywords record.config ≠ []) :
    DefaultInDatabase resp record ↔ record.config.DefaultNamed := by
  have hread := reads_media hx h
  obtain ⟨e, es, hcols⟩ : ∃ e es, mediaCols record.config = e :: es := by
    refine List.exists_cons_of_ne_nil fun hnil => hk ?_
    rw [← mediaCols_names, hnil]
    rfl
  have hentry : defaultEntry record.config = some (e.1, defaultSize record.config) := by
    unfold defaultEntry
    rw [← mediaCols_names, hcols]
    rfl
  have hready : record.readyMedia = none →
      readyEntry record = some (e.1, defaultSize record.config) := by
    intro hno
    unfold readyEntry
    rw [hentry, hno]
    rfl
  have hdefault := hread.mediaDefault
  have hcol := hread.colDefault
  rw [hentry] at hdefault hcol
  have hfind : ((resp.values "media-col-database").filterMap IppValue.toMediaCol).find?
      (fun c => c.name == e.1) = some (record.config.colOf e) := by
    rw [database_read hread, hcols]
    exact List.find?_cons_of_pos (beq_self_eq_true e.1)
  rw [← first_entry_size_iff hcols]
  constructor
  · rintro ⟨c, _, hc, hdb, _⟩
    have ec : c = record.config.colOf (e.1, defaultSize record.config) := by
      have hsome := hc.symm.trans hcol
      cases hsome
      rfl
    rw [ec] at hdb
    have heq := Option.some.inj (hfind.symm.trans hdb)
    exact congrArg MediaCol.size heq
  · intro hsize
    have ee : (e.1, defaultSize record.config) = e := Prod.ext rfl hsize.symm
    rw [ee] at hdefault hcol hready
    refine ⟨record.config.colOf e, hdefault, hcol, hfind, fun hno => ?_⟩
    have hr := hread.colReady
    rw [hready hno] at hr
    exact hr

end Default

namespace Trial

/-- A printer of which only the bounds of a custom size are known. -/
def boundsOnly : PrinterRecord :=
  .new { config "p" with mediaNames := [], mediaSizes := [] } "uuid-p"

theorem boundsOnly_responds :
    ∃ resp, getPrinterAttributes crate 0x0200 7 boundsOnly "localhost" 8631 none clock = .ok resp :=
  responds ⟨by decide, by decide, by decide⟩
    ⟨by decide +kernel, by decide +kernel, by decide, by decide, by decide, by decide, by decide,
      by decide, by decide, by decide⟩

end Trial

theorem default_in_database_iff_printer :
    ∃ resp, getPrinterAttributes Trial.crate 0x0200 7 Trial.printer "localhost" 8631 none
        Trial.clock = .ok resp ∧ DefaultInDatabase resp Trial.printer := by
  obtain ⟨resp, h⟩ := Trial.printer_responds
  refine ⟨resp, h, ?_⟩
  exact (default_in_database_iff Trial.crate_startsWithoutPrinter h (by decide)).mpr
    (Or.inl (by decide))

/-- The default is called `custom_min_10x10mm_10x10mm` and is 40 mm by 30 mm. -/
theorem default_contradicts_name :
    ¬ ∀ (x : IppCrate) (version : IppVersion) (requestId : Nat) (record : PrinterRecord)
        (host : String) (port : Nat) (clock : Clock) (resp : IppResponse), x.StartsWithoutPrinter →
        getPrinterAttributes x version requestId record host port none clock = .ok resp →
        mediaKeywords record.config ≠ [] → DefaultInDatabase resp record := by
  intro h
  obtain ⟨resp, hresp⟩ := Trial.boundsOnly_responds
  obtain ⟨c, _, hc, hdb, _⟩ :=
    h _ _ _ _ _ _ _ resp Trial.crate_startsWithoutPrinter hresp (by decide)
  have hread := reads_media Trial.crate_startsWithoutPrinter hresp
  have hmem := List.mem_of_find?_eq_some hdb
  have hcol : c.size = (4000, 3000) := by
    have hsome := hc.symm.trans hread.colDefault
    cases hsome
    rfl
  rw [database_read hread] at hmem
  obtain ⟨e, he, rfl⟩ := List.mem_map.mp hmem
  -- the two entries are the bookends
  have hbookends : ∀ e ∈ mediaCols Trial.boundsOnly.config, e.2 ≠ (4000, 3000) := by decide
  exact hbookends e he hcol

/-! ## 2. Sizes in names -/

/-- `WxHmm`: two numbers of whole millimetres. -/
def readDims (s : List Char) : Option (Nat × Nat) :=
  match readNat s with
  | some (w, 'x' :: s) =>
    match readNat s with
    | some (h, ['m', 'm']) => some (w, h)
    | _ => none
  | _ => none

/-- The size a self-describing name ends in, in hundredths of a millimetre. -/
def sizeInName (name : String) : Option SizeHmm :=
  (readDims (afterLast '_' name.toList)).map fun d => ((d.1 : Int) * 100, (d.2 : Int) * 100)

/-- The end of a name, as it is printed. -/
def dimsText (w h : Nat) : List Char := w.repr.toList ++ 'x' :: (h.repr.toList ++ ['m', 'm'])

theorem readDims_dimsText (w h : Nat) : readDims (dimsText w h) = some (w, h) := by
  have hheight : readNat (h.repr.toList ++ ['m', 'm']) = some (h, ['m', 'm']) :=
    readNat_repr h fun c hc => by cases hc; decide
  unfold readDims dimsText
  rw [readNat_repr w (fun c hc => by cases hc; decide)]
  simp only [hheight]

theorem not_mem_dimsText (w h : Nat) : '_' ∉ dimsText w h := by
  unfold dimsText
  simp

/-- **A printed size is read back.** -/
theorem sizeInName_of_toList {name : String} (start : List Char) {w h : Nat}
    (e : name.toList = start ++ '_' :: dimsText w h) :
    sizeInName name = some ((w : Int) * 100, (h : Int) * 100) := by
  unfold sizeInName
  rw [e, afterLast_append start (not_mem_dimsText w h), readDims_dimsText]
  rfl

/-- **The size a bookend's name tells** is rounded down to whole millimetres. -/
theorem sizeInName_custom (bound : String) {s : SizeHmm} (hw : 0 ≤ s.1) (hh : 0 ≤ s.2) :
    sizeInName (customMediaName bound s) = some (s.1 / 100 * 100, s.2 / 100 * 100) := by
  obtain ⟨w, ew⟩ : ∃ w : Nat, s.1.tdiv 100 = w := Int.eq_ofNat_of_zero_le (Int.tdiv_nonneg hw (by decide))
  obtain ⟨h, eh⟩ : ∃ h : Nat, s.2.tdiv 100 = h := Int.eq_ofNat_of_zero_le (Int.tdiv_nonneg hh (by decide))
  have e : (customMediaName bound s).toList =
      ("custom_".toList ++ bound.toList ++ '_' :: (dimsText w h)) ++ '_' :: dimsText w h := by
    have er : ∀ n : Nat, Int.repr n = n.repr := fun _ => rfl
    unfold customMediaName dimsText
    dsimp only
    rw [ew, eh]
    simp [er, toString]
  rw [sizeInName_of_toList _ e, ← ew, ← eh, Int.tdiv_eq_ediv_of_nonneg hw,
    Int.tdiv_eq_ediv_of_nonneg hh]

/-- A size in whole millimetres. -/
def WholeMillimetres (s : SizeHmm) : Prop := s.1 % 100 = 0 ∧ s.2 % 100 = 0

/-- A bookend's name tells its size exactly if that is in whole millimetres. -/
theorem sizeInName_custom_iff (bound : String) {s : SizeHmm} (hw : 0 ≤ s.1) (hh : 0 ≤ s.2) :
    sizeInName (customMediaName bound s) = some s ↔ WholeMillimetres s := by
  rw [sizeInName_custom bound hw hh, Option.some.injEq, Prod.ext_iff]
  unfold WholeMillimetres
  constructor
  · rintro ⟨h₁, h₂⟩
    dsimp only at h₁ h₂
    omega
  · rintro ⟨h₁, h₂⟩
    dsimp only
    omega

/-! ## 3. The bookends -/

/-- The two ends of a range entry of `media-size-supported`. -/
def IppValue.toRange (v : IppValue) : Option (SizeHmm × SizeHmm) :=
  match v.member "x-dimension", v.member "y-dimension" with
  | some (.rangeOfInteger x x'), some (.rangeOfInteger y y') => some ((x, y), (x', y'))
  | _, _ => none

theorem toRange_mediaSizeRangeCol (min max : SizeHmm) :
    (mediaSizeRangeCol min max).toRange = some (min, max) := rfl

/-- **The bookends tell their sizes**: the last two entries of `media-col-database` are the custom
    bookends, with the ends of the range in `media-size-supported` as their sizes; and the size
    read off a bookend's name is its own, lies in the range, and is told by the same name of no
    other size in whole millimetres. -/
def BookendsTell (resp : IppResponse) : Prop :=
  ∃ (others : List (Option MediaCol)) (lo hi : MediaCol) (range : IppValue),
    (resp.values "media-col-database").map IppValue.toMediaCol = others ++ [some lo, some hi] ∧
    lo.name = customMediaName "min" lo.size ∧ hi.name = customMediaName "max" hi.size ∧
    (resp.values "media-size-supported").getLast? = some range ∧
    range.toRange = some (lo.size, hi.size) ∧
    ∀ c ∈ [lo, hi], sizeInName c.name = some c.size ∧
      (∀ s, sizeInName c.name = some s → range.admits s = true) ∧
      ∀ bound s, 0 < s.1 → 0 < s.2 → WholeMillimetres s → customMediaName bound s = c.name →
        s = c.size

/-- The condition on a configuration: its bounds are in whole millimetres. -/
def PrinterConfig.BoundsWhole (cfg : PrinterConfig) : Prop :=
  WholeMillimetres cfg.mediaSizeMin ∧ WholeMillimetres cfg.mediaSizeMax

section Bookends

variable {x : IppCrate} {version : IppVersion} {requestId : Nat} {record : PrinterRecord}
  {host : String} {port : Nat} {clock : Clock} {resp : IppResponse}

/-- The last two entries of the database are the bookends, and the last supported size is the
    range between them. -/
theorem bookends_read (hread : ReadsMedia resp record) (hs : record.config.BoundsSane) :
    ∃ (others : List (Option MediaCol)) (lo hi : MediaCol),
      (resp.values "media-col-database").map IppValue.toMediaCol = others ++ [some lo, some hi] ∧
      lo.name = customMediaName "min" lo.size ∧ lo.size = record.config.mediaSizeMin ∧
      hi.name = customMediaName "max" hi.size ∧ hi.size = record.config.mediaSizeMax ∧
      (resp.values "media-size-supported").getLast? =
        some (mediaSizeRangeCol record.config.mediaSizeMin record.config.mediaSizeMax) := by
  have hrange := customMediaRange_sane hs
  have hk : mediaKeywords record.config ≠ [] := by
    unfold mediaKeywords
    rw [hrange]
    exact List.append_ne_nil_of_right_ne_nil _ (List.cons_ne_nil _ _)
  refine ⟨(zipSizes (defaultSize record.config) record.config.mediaNames
      record.config.mediaSizes).map (fun e => some (record.config.colOf e)),
    record.config.colOf
      (customMediaName "min" record.config.mediaSizeMin, record.config.mediaSizeMin),
    record.config.colOf
      (customMediaName "max" record.config.mediaSizeMax, record.config.mediaSizeMax),
    ?_, rfl, rfl, rfl, rfl, ?_⟩
  · rw [hread.database]
    unfold mediaCols
    rw [hrange, List.map_append]
    rfl
  · rw [hread.sizes hk]
    unfold mediaSizes
    rw [hrange]
    exact List.getLast?_concat

/-- What a bookend with a size in whole millimetres tells. -/
theorem bookend_tells {bound : String} {c : MediaCol} {range : IppValue}
    (hname : c.name = customMediaName bound c.size) (hw : 0 < c.size.1) (hh : 0 < c.size.2)
    (hwhole : WholeMillimetres c.size) (hrange : range.admits c.size = true) :
    sizeInName c.name = some c.size ∧
      (∀ s, sizeInName c.name = some s → range.admits s = true) ∧
      ∀ bound s, 0 < s.1 → 0 < s.2 → WholeMillimetres s → customMediaName bound s = c.name →
        s = c.size := by
  have htells : sizeInName c.name = some c.size := by
    rw [hname]
    exact (sizeInName_custom_iff bound (Int.le_of_lt hw) (Int.le_of_lt hh)).mpr hwhole
  refine ⟨htells, ?_, ?_⟩
  · intro s hread
    rw [← Option.some.inj (htells.symm.trans hread)]
    exact hrange
  · intro bound' s hw' hh' hwhole' hname'
    have hread := (sizeInName_custom_iff bound' (Int.le_of_lt hw') (Int.le_of_lt hh')).mpr hwhole'
    rw [hname', htells] at hread
    exact (Option.some.inj hread).symm

theorem admits_mediaSizeRangeCol {min max s : SizeHmm} :
    (mediaSizeRangeCol min max).admits s = true ↔
      (min.1 ≤ s.1 ∧ min.2 ≤ s.2) ∧ s.1 ≤ max.1 ∧ s.2 ≤ max.2 := by
  unfold IppValue.admits IppValue.member mediaSizeRangeCol
  simp
  tauto

/-- **The bookends tell their sizes exactly if the bounds are in whole millimetres**: in a full
    response of a printer with sane bounds. -/
theorem bookend_names_tell_iff (hx : x.StartsWithoutPrinter)
    (h : getPrinterAttributes x version requestId record host port none clock = .ok resp)
    (hs : record.config.BoundsSane) : BookendsTell resp ↔ record.config.BoundsWhole := by
  obtain ⟨others, lo, hi, hdb, hlo, elo, hhi, ehi, hlast⟩ := bookends_read (reads_media hx h) hs
  obtain ⟨hmin₁, hmin₂, hmax₁, hmax₂, hle₁, hle₂⟩ := hs
  rw [← elo] at hmin₁ hmin₂ hle₁ hle₂ hlast
  rw [← ehi] at hmax₁ hmax₂ hle₁ hle₂ hlast
  unfold PrinterConfig.BoundsWhole
  rw [← elo, ← ehi]
  constructor
  · rintro ⟨others', lo', hi', range, hcols, _, _, _, _, htell⟩
    have hboth := List.append_inj_right' (hcols.symm.trans hdb) rfl
    cases hboth
    have h₁ := (htell lo (by simp)).1
    have h₂ := (htell hi (by simp)).1
    rw [hlo] at h₁
    rw [hhi] at h₂
    exact ⟨(sizeInName_custom_iff "min" (Int.le_of_lt hmin₁) (Int.le_of_lt hmin₂)).mp h₁,
      (sizeInName_custom_iff "max" (Int.le_of_lt hmax₁) (Int.le_of_lt hmax₂)).mp h₂⟩
  · rintro ⟨hw₁, hw₂⟩
    refine ⟨others, lo, hi, _, hdb, hlo, hhi, hlast, toRange_mediaSizeRangeCol _ _, ?_⟩
    intro c hc
    rcases List.mem_cons.mp hc with rfl | hc
    · exact bookend_tells hlo hmin₁ hmin₂ hw₁
        (admits_mediaSizeRangeCol.mpr ⟨⟨Int.le_refl _, Int.le_refl _⟩, hle₁, hle₂⟩)
    · rw [List.mem_singleton.mp hc]
      exact bookend_tells hhi hmax₁ hmax₂ hw₂
        (admits_mediaSizeRangeCol.mpr ⟨⟨hle₁, hle₂⟩, Int.le_refl _, Int.le_refl _⟩)

end Bookends

namespace Trial

/-- A printer whose smallest custom size is 10.5 mm wide. -/
def halfMillimetre : PrinterRecord :=
  .new { config "p" with mediaSizeMin := (1050, 1000) } "uuid-p"

theorem halfMillimetre_responds :
    ∃ resp, getPrinterAttributes crate 0x0200 7 halfMillimetre "localhost" 8631 none clock =
      .ok resp :=
  responds ⟨by decide, by decide, by decide⟩
    ⟨by decide +kernel, by decide +kernel, by decide, by decide, by decide, by decide, by decide,
      by decide, by decide, by decide⟩

end Trial

theorem bookend_names_tell_iff_printer :
    ∃ resp, getPrinterAttributes Trial.crate 0x0200 7 Trial.printer "localhost" 8631 none
        Trial.clock = .ok resp ∧ BookendsTell resp := by
  obtain ⟨resp, h⟩ := Trial.printer_responds
  refine ⟨resp, h, ?_⟩
  exact (bookend_names_tell_iff Trial.crate_startsWithoutPrinter h (by decide)).mpr
    ⟨⟨by decide, by decide⟩, ⟨by decide, by decide⟩⟩

/-- A bookend 10.5 mm wide is called `custom_min_10x10mm_10x10mm`. -/
theorem bookend_name_truncated :
    ¬ ∀ (x : IppCrate) (version : IppVersion) (requestId : Nat) (record : PrinterRecord)
        (host : String) (port : Nat) (clock : Clock) (resp : IppResponse), x.StartsWithoutPrinter →
        getPrinterAttributes x version requestId record host port none clock = .ok resp →
        record.config.BoundsSane → BookendsTell resp := by
  intro h
  obtain ⟨resp, hresp⟩ := Trial.halfMillimetre_responds
  have htell := h _ _ _ _ _ _ _ resp Trial.crate_startsWithoutPrinter hresp (by decide)
  obtain ⟨others, lo, hi, hdb, hlo, elo, _⟩ :=
    bookends_read (reads_media Trial.crate_startsWithoutPrinter hresp) (by decide)
  obtain ⟨others', lo', hi', range, hcols, _, _, _, _, hboth⟩ := htell
  have hends := List.append_inj_right' (hcols.symm.trans hdb) rfl
  cases hends
  have htold := (hboth lo (by simp)).1
  rw [hlo, elo] at htold
  have hwhole := (sizeInName_custom_iff "min" (by decide) (by decide)).mp htold
  exact absurd hwhole.1 (by decide)

end IppPrinterApp
