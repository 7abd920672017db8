/-
  File:      IppPrinterApp/LoadedMedia.lean
  Subject:   Loading media: `PrinterRecord::set_ready_media` over roll swaps, and what the next
             Get-Printer-Attributes says of it.

  The two media lists of a configuration are a list of names, the default in front, and the sizes
  of a prefix of them. `setReadyMedia` touches the name (`loaded_names`) and puts its size in
  front, unless the name is in front already.

  * `roll_swaps_tidy`: over any sequence of loads the names stay without repetition and every
    other name keeps its size;
  * `loaded_is_default_iff`, `tail_sizes_follow`, `collections_admitted_iff`: what the response
    then says. The first name keeps the size it has, whatever the size of the loaded media; the
    names without a size have that of the first name.
-/
import IppPrinterApp.MediaCollections
import IppPrinterApp.Bootstrap
import IppPrinterApp.Lib.Recency

namespace IppPrinterApp

open Recency

/-! ## 1. One load -/

namespace PrinterRecord

/-- The two lists without an entry. -/
theorem dropMedia_lists (media : ReadyMedia) (cfg : PrinterConfig) :
    ((dropMedia media cfg).mediaNames, (dropMedia media cfg).mediaSizes) =
      forget media.name cfg.mediaNames cfg.mediaSizes := by
  unfold dropMedia forget
  cases cfg.mediaNames.findIdx? fun n => n == media.name with
  | none => rfl
  | some i => rfl

section Load

variable {media : ReadyMedia} {r : PrinterRecord}

/-- Media with the name of the default: only the loaded media is noted. -/
theorem setReadyMedia_default (h : r.config.mediaNames.head? = some media.name) :
    r.setReadyMedia media =
      ({ r with readyMedia := some media },
        r.readyMedia.map (·.sizeHmm) != some media.sizeHmm) := by
  unfold setReadyMedia
  rw [h]
  simp

/-- Other media: its name and its size go to the front. -/
theorem setReadyMedia_other (h : r.config.mediaNames.head? ≠ some media.name) :
    r.setReadyMedia media =
      ({ r with
          readyMedia := some media
          config := { r.config with
            mediaNames := media.name :: (forget media.name r.config.mediaNames r.config.mediaSizes).1
            mediaSizes := media.sizeHmm ::
              (forget media.name r.config.mediaNames r.config.mediaSizes).2 } }, true) := by
  have hrest : ∀ cfg : PrinterConfig, dropMedia media cfg = { cfg with
      mediaNames := (dropMedia media cfg).mediaNames
      mediaSizes := (dropMedia media cfg).mediaSizes } := by
    intro cfg
    unfold dropMedia
    cases cfg.mediaNames.findIdx? fun n => n == media.name with
    | none => rfl
    | some i => rfl
  have hlists := dropMedia_lists media r.config
  have hb : (r.config.mediaNames.head? == some media.name) = false := beq_eq_false_iff_ne.mpr h
  unfold setReadyMedia
  dsimp only
  rw [hb, hrest, ← hlists]
  rfl

theorem loaded_other (h : r.config.mediaNames.head? ≠ some media.name) :
    (r.setReadyMedia media).1.config.mediaNames =
        media.name :: (forget media.name r.config.mediaNames r.config.mediaSizes).1 ∧
      (r.setReadyMedia media).1.config.mediaSizes =
        media.sizeHmm :: (forget media.name r.config.mediaNames r.config.mediaSizes).2 := by
  rw [setReadyMedia_other h]
  exact ⟨rfl, rfl⟩

/-- The record with the media loaded. -/
theorem setReadyMedia_readyMedia : (r.setReadyMedia media).1.readyMedia = some media := rfl

/-- **The name is touched**, whatever the case. -/
theorem loaded_names : (r.setReadyMedia media).1.config.mediaNames =
    touch media.name r.config.mediaNames := by
  by_cases h : r.config.mediaNames.head? = some media.name
  · rw [setReadyMedia_default h, touch_of_head h]
  · rw [(loaded_other h).1, forget_keys]
    rfl

/-- **Loading the same media again changes nothing.** -/
theorem setReadyMedia_again :
    (r.setReadyMedia media).1.setReadyMedia media = ((r.setReadyMedia media).1, false) := by
  have hhead : (r.setReadyMedia media).1.config.mediaNames.head? = some media.name := by
    rw [loaded_names]
    rfl
  rw [setReadyMedia_default hhead]
  refine Prod.ext rfl ?_
  simp [setReadyMedia_readyMedia]

/-- **Every other name keeps its size.** -/
theorem loaded_pairs :
    ((r.setReadyMedia media).1.config.mediaNames.zip
        (r.setReadyMedia media).1.config.mediaSizes).filter (·.1 ≠ media.name) =
      (r.config.mediaNames.zip r.config.mediaSizes).filter (·.1 ≠ media.name) := by
  by_cases h : r.config.mediaNames.head? = some media.name
  · rw [setReadyMedia_default h]
  · obtain ⟨hnames, hsizes⟩ := loaded_other h
    rw [hnames, hsizes, List.zip_cons_cons, List.filter_cons_of_neg (by simp), filter_zip_forget]

/-- **The other names without a size are the same as before.** -/
theorem loaded_tail :
    ((r.setReadyMedia media).1.config.mediaNames.drop
        (r.setReadyMedia media).1.config.mediaSizes.length).filter (· ≠ media.name) =
      (r.config.mediaNames.drop r.config.mediaSizes.length).filter (· ≠ media.name) := by
  by_cases h : r.config.mediaNames.head? = some media.name
  · rw [setReadyMedia_default h]
  · obtain ⟨hnames, hsizes⟩ := loaded_other h
    rw [hnames, hsizes, List.length_cons, List.drop_succ_cons, filter_drop_forget]

/-- The sizes never outnumber the names, and stay as many if they were. -/
theorem loaded_lengths (hle : r.config.mediaSizes.length ≤ r.config.mediaNames.length) :
    (r.setReadyMedia media).1.config.mediaSizes.length ≤
        (r.setReadyMedia media).1.config.mediaNames.length ∧
      (r.config.mediaSizes.length = r.config.mediaNames.length →
        (r.setReadyMedia media).1.config.mediaSizes.length =
          (r.setReadyMedia media).1.config.mediaNames.length) := by
  by_cases h : r.config.mediaNames.head? = some media.name
  · rw [setReadyMedia_default h]
    exact ⟨hle, id⟩
  · obtain ⟨hle', heq'⟩ := length_forget media.name hle
    obtain ⟨hnames, hsizes⟩ := loaded_other h
    rw [hnames, hsizes]
    exact ⟨Nat.succ_le_succ hle', fun he => congrArg Nat.succ (heq' he)⟩

end Load

/-! ## 2. Roll swaps -/

/-- The record after a sequence of loads. -/
def loadAll (r : PrinterRecord) (loads : List ReadyMedia) : PrinterRecord :=
  loads.foldl (fun r media => (r.setReadyMedia media).1) r

theorem loadAll_names (r : PrinterRecord) (loads : List ReadyMedia) :
    (r.loadAll loads).config.mediaNames =
      touchAll r.config.mediaNames (loads.map (·.name)) := by
  induction loads generalizing r with
  | nil => rfl
  | cons media loads ih =>
      show ((r.setReadyMedia media).1.loadAll loads).config.mediaNames = _
      rw [ih, loaded_names]
      rfl

theorem loadAll_lengths {r : PrinterRecord} (loads : List ReadyMedia)
    (hle : r.config.mediaSizes.length ≤ r.config.mediaNames.length) :
    (r.loadAll loads).config.mediaSizes.length ≤ (r.loadAll loads).config.mediaNames.length ∧
      (r.config.mediaSizes.length = r.config.mediaNames.length →
        (r.loadAll loads).config.mediaSizes.length =
          (r.loadAll loads).config.mediaNames.length) := by
  induction loads generalizing r with
  | nil => exact ⟨hle, id⟩
  | cons media loads ih =>
      obtain ⟨hle', heq'⟩ := @loaded_lengths media r hle
      obtain ⟨hall, heq⟩ := ih hle'
      exact ⟨hall, fun he => heq (heq' he)⟩

/-- **Roll swaps keep the lists tidy**: over any sequence of loads the names stay without
    repetition, are the old and the loaded ones, with the last one loaded in front and those never
    loaded in their order behind; the sizes never outnumber the names and stay as many if they
    were; and the next load puts its name in front of the others in their order, leaves every other
    name that has a size with it, and is without effect the second time. -/
theorem roll_swaps_tidy {r : PrinterRecord} (hn : r.config.mediaNames.Nodup)
    (hle : r.config.mediaSizes.length ≤ r.config.mediaNames.length) (loads : List ReadyMedia) :
    (r.loadAll loads).config.mediaNames.Nodup ∧
    (∀ n, n ∈ (r.loadAll loads).config.mediaNames ↔
      n ∈ r.config.mediaNames ∨ n ∈ loads.map (·.name)) ∧
    (loads ≠ [] →
      (r.loadAll loads).config.mediaNames.head? = (loads.map (·.name)).getLast?) ∧
    r.config.mediaNames.filter (· ∉ loads.map (·.name)) <:+
      (r.loadAll loads).config.mediaNames ∧
    (r.loadAll loads).config.mediaSizes.length ≤ (r.loadAll loads).config.mediaNames.length ∧
    (r.config.mediaSizes.length = r.config.mediaNames.length →
      (r.loadAll loads).config.mediaSizes.length =
        (r.loadAll loads).config.mediaNames.length) ∧
    ∀ media : ReadyMedia,
      (r.loadAll (loads ++ [media])).config.mediaNames =
        media.name :: (r.loadAll loads).config.mediaNames.filter (· ≠ media.name) ∧
      (∀ n s, n ≠ media.name →
        (n, s) ∈ (r.loadAll loads).config.mediaNames.zip (r.loadAll loads).config.mediaSizes →
        (n, s) ∈ (r.loadAll (loads ++ [media])).config.mediaNames.zip
          (r.loadAll (loads ++ [media])).config.mediaSizes) ∧
      (r.loadAll (loads ++ [media])).setReadyMedia media =
        (r.loadAll (loads ++ [media]), false) := by
  have hnames := loadAll_names r loads
  have hnodup : (r.loadAll loads).config.mediaNames.Nodup := by
    rw [hnames]
    exact nodup_touchAll hn
  obtain ⟨hlen, heq⟩ := loadAll_lengths loads hle
  refine ⟨hnodup, fun n => ?_, fun hne => ?_, ?_, hlen, heq, fun media => ?_⟩
  · rw [hnames]
    exact mem_touchAll_iff
  · rw [hnames]
    exact head_touchAll (by simpa using hne)
  · rw [hnames]
    exact filter_suffix_touchAll hn
  · have hnext : r.loadAll (loads ++ [media]) = ((r.loadAll loads).setReadyMedia media).1 := by
      unfold loadAll
      rw [List.foldl_append]
      rfl
    rw [hnext]
    refine ⟨?_, fun n s hne hmem => ?_, setReadyMedia_again⟩
    · rw [loaded_names]
      exact touch_eq_filter hnodup
    · have hother : (n, s) ∈ ((r.loadAll loads).config.mediaNames.zip
          (r.loadAll loads).config.mediaSizes).filter (·.1 ≠ media.name) :=
        List.mem_filter.mpr ⟨hmem, by simpa using hne⟩
      rw [← loaded_pairs] at hother
      exact (List.mem_filter.mp hother).1

end PrinterRecord

namespace Trial

/-- A roll of 50 by 80 mm. -/
def roll : ReadyMedia :=
  { name := "om_50x80mm_50x80mm", sizeHmm := (5000, 8000), mediaType := "labels" }

end Trial

theorem roll_swaps_tidy_roll :
    (Trial.printer.loadAll [Trial.roll]).config.mediaNames.Nodup ∧
      ∀ n, n ∈ (Trial.printer.loadAll [Trial.roll]).config.mediaNames ↔
        n ∈ Trial.printer.config.mediaNames ∨ n ∈ [Trial.roll].map (·.name) := by
  obtain ⟨hn, hmem, _⟩ := PrinterRecord.roll_swaps_tidy (r := Trial.printer) (by decide) (by decide)
    [Trial.roll]
  exact ⟨hn, hmem⟩

/-! ## 3. The loaded media as the default -/

/-- What a printer with this media loaded should show: its first name and first size are the
    media's, a full response says the same of the default and of the loaded media, and the size is
    the one loaded from the state file. -/
structure LoadedIsDefault (r : PrinterRecord) (media : ReadyMedia) : Prop where
  name : r.config.mediaNames.head? = some media.name
  size : r.config.mediaSizes.head? = some media.sizeHmm
  response : ∀ (x : IppCrate) (version : IppVersion) (requestId : Nat) (host : String) (port : Nat)
    (clock : Clock) (resp : IppResponse), x.StartsWithoutPrinter →
    getPrinterAttributes x version requestId r host port none clock = .ok resp →
    (resp.values "media-default").map IppValue.toKeyword = [some media.name] ∧
      (resp.values "media-ready").map IppValue.toKeyword = [some media.name] ∧
      ∃ c : MediaCol, c.name = media.name ∧ c.size = media.sizeHmm ∧
        (resp.values "media-col-default").map IppValue.toMediaCol = [some c] ∧
        (resp.values "media-col-ready").map IppValue.toMediaCol = [some c]
  restart : ∀ (j : SerdeJson) (before after : PrinterRegistry),
    j.Undoes (configs (before ++ r :: after)) →
    ∃ cfg, (PersistedState.load j (PersistedState.save j
        (configs (before ++ r :: after))))[before.length]? = some cfg ∧
      cfg.mediaNames.head? = some media.name ∧ cfg.mediaSizes.head? = some media.sizeHmm

/-- The default of a printer with configured names is the first of them. -/
theorem defaultEntry_of_head {cfg : PrinterConfig} {n : String} (h : cfg.mediaNames.head? = some n) :
    defaultEntry cfg = some (n, defaultSize cfg) := by
  unfold defaultEntry mediaKeywords
  rw [List.head?_append, h]
  rfl

/-- Once the lists say so, the response and the state file do. -/
theorem loadedIsDefault_of_head {r : PrinterRecord} {media : ReadyMedia}
    (hready : r.readyMedia = some media) (hn : r.config.mediaNames.head? = some media.name)
    (hs : r.config.mediaSizes.head? = some media.sizeHmm) : LoadedIsDefault r media where
  name := hn
  size := hs
  response := fun x version requestId host port clock resp hx h => by
    have hread := reads_media hx h
    have hd : defaultEntry r.config = some (media.name, media.sizeHmm) := by
      rw [defaultEntry_of_head hn, defaultSize, hs]
      rfl
    have hr : readyEntry r = some (media.name, media.sizeHmm) := by
      unfold readyEntry
      rw [hd, hready]
      rfl
    refine ⟨?_, ?_, r.config.colOf (media.name, media.sizeHmm), rfl, rfl, ?_, ?_⟩
    · rw [hread.mediaDefault, hd]
      rfl
    · rw [hread.mediaReady, hr]
      rfl
    · rw [hread.colDefault, hd]
      rfl
    · rw [hread.colReady, hr]
      rfl
  restart := fun j before after hj => by
    refine ⟨r.config, ?_, hn, hs⟩
    rw [load_save hj]
    simp [configs]

/-- **The loaded media is the default** exactly if it was not already in front with another size,
    or with none. -/
theorem loaded_is_default_iff (r : PrinterRecord) (media : ReadyMedia) :
    LoadedIsDefault (r.setReadyMedia media).1 media ↔
      r.config.mediaNames.head? ≠ some media.name ∨
        r.config.mediaSizes.head? = some media.sizeHmm := by
  by_cases hfront : r.config.mediaNames.head? = some media.name
  · have e := PrinterRecord.setReadyMedia_default hfront
    rw [or_iff_right (not_not.mpr hfront), e]
    exact ⟨fun h => h.size, fun hs => loadedIsDefault_of_head rfl hfront hs⟩
  · obtain ⟨hnames, hsizes⟩ := PrinterRecord.loaded_other hfront
    refine iff_of_true (loadedIsDefault_of_head rfl ?_ ?_) (Or.inl hfront)
    · rw [hnames]
      rfl
    · rw [hsizes]
      rfl

namespace Trial

/-- The only media of the printer, with the size the device reports. -/
def ownRoll : ReadyMedia :=
  { name := "om_50x30mm_50x30mm", sizeHmm := (5000, 3000), mediaType := "labels" }

end Trial

/-- A printer without sizes keeps reporting 40 by 30 mm as its default. -/
theorem default_size_not_loaded :
    ¬ ∀ (r : PrinterRecord) (media : ReadyMedia),
        LoadedIsDefault (r.setReadyMedia media).1 media := by
  intro h
  have hsize := (h Trial.unsized Trial.ownRoll).size
  revert hsize
  decide

/-! ## 4. The names without a size -/

/-- The sizes that `media-col-database` has for a name. -/
def advertisedSizes (cfg : PrinterConfig) (n : String) : List SizeHmm :=
  ((mediaCols cfg).filter fun e => e.1 = n).map Prod.snd

/-- The sizes configured for a name. -/
def ownSizes (cfg : PrinterConfig) (n : String) : List SizeHmm :=
  ((cfg.mediaNames.zip cfg.mediaSizes).filter fun e => e.1 = n).map Prod.snd

/-- The names left to the default size. -/
def tailNames (cfg : PrinterConfig) : List String := cfg.mediaNames.drop cfg.mediaSizes.length

/-- The sizes of the bounds that have this name. -/
def boundSizes (cfg : PrinterConfig) (n : String) : List SizeHmm :=
  (((customMediaRange cfg).map fun r => [(customMediaName "min" r.1, r.1),
    (customMediaName "max" r.2, r.2)]).getD [] |>.filter fun e => e.1 = n).map Prod.snd

theorem zipSizes_eq (d : SizeHmm) (names : List String) (sizes : List SizeHmm) :
    zipSizes d names sizes =
      names.zip sizes ++ (names.drop sizes.length).map fun n => (n, d) := by
  fun_induction zipSizes d names sizes with
  | case1 => simp
  | case2 n ns ih => simpa using ih
  | case3 n ns s ss ih => simpa using ih

theorem sizes_map_const (d : SizeHmm) (n : String) (names : List String) :
    ((names.map fun k => (k, d)).filter fun e => e.1 = n).map Prod.snd =
      List.replicate (names.count n) d := by
  induction names with
  | nil => rfl
  | cons k names ih =>
      by_cases hk : k = n
      · subst hk
        simpa [List.replicate_succ] using ih
      · simpa [hk] using ih

/-- **The sizes advertised for a name**: its own, the default size for each time it is left to it,
    and those of the bounds. -/
theorem advertisedSizes_eq (cfg : PrinterConfig) (n : String) :
    advertisedSizes cfg n = ownSizes cfg n ++
      List.replicate ((tailNames cfg).count n) (defaultSize cfg) ++ boundSizes cfg n := by
  have hb : mediaCols cfg = zipSizes (defaultSize cfg) cfg.mediaNames cfg.mediaSizes ++
      ((customMediaRange cfg).map fun r => [(customMediaName "min" r.1, r.1),
        (customMediaName "max" r.2, r.2)]).getD [] := by
    unfold mediaCols
    cases customMediaRange cfg with
    | none => rfl
    | some r => rfl
  unfold advertisedSizes
  rw [hb, zipSizes_eq, List.filter_append, List.filter_append, List.map_append, List.map_append,
    sizes_map_const]
  rfl

section Tail

variable {r : PrinterRecord} {media : ReadyMedia} {n : String}

/-- A load keeps the bounds and the head of the printer. -/
theorem loaded_range : customMediaRange (r.setReadyMedia media).1.config =
    customMediaRange r.config := by
  by_cases h : r.config.mediaNames.head? = some media.name
  · rw [PrinterRecord.setReadyMedia_default h]
  · rw [PrinterRecord.setReadyMedia_other h]
    rfl

theorem loaded_boundSizes : boundSizes (r.setReadyMedia media).1.config n =
    boundSizes r.config n := by
  unfold boundSizes
  rw [loaded_range]

theorem loaded_ownSizes (hn : n ≠ media.name) :
    ownSizes (r.setReadyMedia media).1.config n = ownSizes r.config n := by
  have hsub : ∀ l : List (String × SizeHmm), l.filter (fun e => e.1 = n) =
      (l.filter fun e => e.1 ≠ media.name).filter fun e => e.1 = n := by
    intro l
    rw [List.filter_filter]
    refine List.filter_congr fun e _ => ?_
    by_cases he : e.1 = n
    · simp [he, hn]
    · simp [he]
  unfold ownSizes
  rw [hsub, PrinterRecord.loaded_pairs, ← hsub]

theorem loaded_tail_count (hn : n ≠ media.name) :
    (tailNames (r.setReadyMedia media).1.config).count n = (tailNames r.config).count n := by
  have hsub : ∀ l : List String, l.count n = (l.filter (· ≠ media.name)).count n := fun l =>
    (List.count_filter (by simpa using hn)).symm
  unfold tailNames
  rw [hsub, PrinterRecord.loaded_tail, ← hsub]

/-- The default size after a load. -/
theorem loaded_defaultSize : defaultSize (r.setReadyMedia media).1.config =
    if r.config.mediaNames.head? = some media.name then defaultSize r.config
    else media.sizeHmm := by
  by_cases h : r.config.mediaNames.head? = some media.name
  · rw [if_pos h, PrinterRecord.setReadyMedia_default h]
  · rw [if_neg h, defaultSize, (PrinterRecord.loaded_other h).2]
    rfl

/-- The sizes advertised for another name, after a load. -/
theorem loaded_advertisedSizes (hn : n ≠ media.name) :
    advertisedSizes (r.setReadyMedia media).1.config n = ownSizes r.config n ++
      List.replicate ((tailNames r.config).count n)
        (defaultSize (r.setReadyMedia media).1.config) ++ boundSizes r.config n := by
  rw [advertisedSizes_eq, loaded_ownSizes hn, loaded_tail_count hn, loaded_boundSizes]

/-- A name of the tail keeps its sizes exactly if the default size stays. -/
theorem loaded_tail_sizes_iff (hn : n ≠ media.name) (ht : n ∈ tailNames r.config) :
    advertisedSizes (r.setReadyMedia media).1.config n = advertisedSizes r.config n ↔
      defaultSize (r.setReadyMedia media).1.config = defaultSize r.config := by
  rw [loaded_advertisedSizes hn, advertisedSizes_eq, List.append_left_inj, List.append_right_inj,
    List.replicate_inj]
  have hpos := List.count_pos_iff.mpr ht
  constructor
  · rintro ⟨_, h0 | e⟩
    · omega
    · exact e
  · exact fun e => ⟨rfl, Or.inr e⟩

end Tail

/-- **The names without a size follow the default size**: a load leaves every other name its own
    sizes, and where a name is left to the default size it has the one the load leaves behind. So
    the sizes advertised for the other names of the tail are unchanged exactly if the media was in
    front already, or has the default size, or there is no such name. -/
theorem tail_sizes_follow (r : PrinterRecord) (media : ReadyMedia) :
    (∀ n, n ≠ media.name →
      advertisedSizes r.config n = ownSizes r.config n ++
        List.replicate ((tailNames r.config).count n) (defaultSize r.config) ++
          boundSizes r.config n ∧
      advertisedSizes (r.setReadyMedia media).1.config n = ownSizes r.config n ++
        List.replicate ((tailNames r.config).count n)
          (if r.config.mediaNames.head? = some media.name then defaultSize r.config
            else media.sizeHmm) ++ boundSizes r.config n) ∧
    ((∀ n ∈ tailNames r.config, n ≠ media.name →
        advertisedSizes (r.setReadyMedia media).1.config n = advertisedSizes r.config n) ↔
      r.config.mediaNames.head? = some media.name ∨ media.sizeHmm = defaultSize r.config ∨
        ∀ n ∈ tailNames r.config, n = media.name) := by
  refine ⟨fun n hn => ⟨advertisedSizes_eq _ _, ?_⟩, ?_⟩
  · rw [loaded_advertisedSizes hn, loaded_defaultSize]
  · have hsize : defaultSize (r.setReadyMedia media).1.config = defaultSize r.config ↔
        r.config.mediaNames.head? = some media.name ∨ media.sizeHmm = defaultSize r.config := by
      rw [loaded_defaultSize]
      split
      · rename_i h
        exact iff_of_true rfl (Or.inl h)
      · rename_i h
        exact (or_iff_right h).symm
    rw [← or_assoc, ← hsize]
    constructor
    · intro h
      by_cases hall : ∀ n ∈ tailNames r.config, n = media.name
      · exact Or.inr hall
      · obtain ⟨n, ht, hn⟩ := not_forall₂.mp hall
        exact Or.inl ((loaded_tail_sizes_iff hn ht).mp (h n ht hn))
    · rintro (hsame | hall) n ht hn
      · exact (loaded_tail_sizes_iff hn ht).mpr hsame
      · exact absurd (hall n ht) hn

namespace Trial

/-- A printer with a second media, left to the default size. -/
def twoMedia : PrinterRecord :=
  .new { config "p" with
    mediaNames := ["om_50x30mm_50x30mm", "om_60x40mm_60x40mm"] } "uuid-p"

end Trial

/-- Loading a roll gives the second media the size of the roll. -/
theorem tail_size_replaced :
    ¬ ∀ (r : PrinterRecord) (media : ReadyMedia),
        r.config.mediaSizes.length < r.config.mediaNames.length →
        ∀ n ∈ tailNames r.config, n ≠ media.name →
          advertisedSizes (r.setReadyMedia media).1.config n = advertisedSizes r.config n := by
  intro h
  have hsame := h Trial.twoMedia Trial.roll (by decide) "om_60x40mm_60x40mm" (by decide) (by decide)
  revert hsame
  decide +kernel

/-! ## 5. The supported sets -/

/-- **Every collection is admitted**: of the three attributes with `media-col` values each value is
    a collection whose size is admitted by `media-size-supported` and whose side margins are among
    those supported. -/
def CollectionsAdmitted (resp : IppResponse) : Prop :=
  ∀ name ∈ ["media-col-default", "media-col-database", "media-col-ready"],
    ∀ v ∈ resp.values name, ∃ c, v.toMediaCol = some c ∧
      (∃ s ∈ resp.values "media-size-supported", s.admits c.size = true) ∧
      IppValue.integer c.left ∈ resp.values "media-left-margin-supported" ∧
      IppValue.integer c.right ∈ resp.values "media-right-margin-supported"

/-- A size the supported sets have room for: a configured one, or one within the bounds with the
    side margin of a configured size or of a bound. -/
def PrinterConfig.Covers (cfg : PrinterConfig) (size : SizeHmm) : Prop :=
  size ∈ cfg.mediaSizes ∨
    (cfg.BoundsSane ∧
      (cfg.mediaSizeMin.1 ≤ size.1 ∧ size.1 ≤ cfg.mediaSizeMax.1 ∧
        cfg.mediaSizeMin.2 ≤ size.2 ∧ size.2 ≤ cfg.mediaSizeMax.2) ∧
      (sideMarginHmm cfg size.1 ∈ marginsOf cfg cfg.mediaSizes ∨
        sideMarginHmm cfg size.1 ∈ boundMargins cfg))

instance (cfg : PrinterConfig) (size : SizeHmm) : Decidable (cfg.Covers size) :=
  inferInstanceAs (Decidable (_ ∨ cfg.BoundsSane ∧ _ ∧ (_ ∨ _)))

/-- The condition on a printer: it has a size, or room for the one it falls back to; and it has
    room for the size of the loaded media. -/
def PrinterRecord.MediaCovered (r : PrinterRecord) : Prop :=
  mediaKeywords r.config ≠ [] →
    (r.config.mediaSizes ≠ [] ∨ r.config.Covers (4000, 3000)) ∧
      ∀ rm ∈ r.readyMedia, r.config.Covers rm.sizeHmm

theorem admits_mediaSizeCol_iff (s size : SizeHmm) :
    (mediaSizeCol s).admits size = true ↔ size = s := by
  show (s.1 == size.1 && s.2 == size.2) = true ↔ size = s
  rw [Bool.and_eq_true, beq_iff_eq, beq_iff_eq, Prod.ext_iff]
  exact and_congr eq_comm eq_comm

theorem admits_mediaSizeRangeCol_iff (min max size : SizeHmm) :
    (mediaSizeRangeCol min max).admits size = true ↔
      min.1 ≤ size.1 ∧ size.1 ≤ max.1 ∧ min.2 ≤ size.2 ∧ size.2 ≤ max.2 := by
  show (decide (min.1 ≤ size.1) && decide (size.1 ≤ max.1) && decide (min.2 ≤ size.2) &&
    decide (size.2 ≤ max.2)) = true ↔ _
  simp [and_assoc]

/-- **The sizes admitted** are the configured ones and those within sane bounds. -/
theorem admitted_iff {cfg : PrinterConfig} {size : SizeHmm} :
    (∃ s ∈ mediaSizes cfg, s.admits size = true) ↔ size ∈ cfg.mediaSizes ∨
      (cfg.BoundsSane ∧ cfg.mediaSizeMin.1 ≤ size.1 ∧ size.1 ≤ cfg.mediaSizeMax.1 ∧
        cfg.mediaSizeMin.2 ≤ size.2 ∧ size.2 ≤ cfg.mediaSizeMax.2) := by
  have hconfigured : (∃ s ∈ cfg.mediaSizes.map mediaSizeCol, s.admits size = true) ↔
      size ∈ cfg.mediaSizes := by
    simp only [List.mem_map, exists_exists_and_eq_and, admits_mediaSizeCol_iff, exists_eq_right']
  unfold mediaSizes
  simp only [List.mem_append, or_and_right, exists_or, hconfigured]
  refine or_congr_right ?_
  by_cases hs : cfg.BoundsSane
  · rw [customMediaRange_sane hs]
    simp [admits_mediaSizeRangeCol_iff, hs]
  · rw [customMediaRange_not_sane hs]
    simp [hs]

/-- **Room in the supported sets** is just that: the size is admitted and its margin offered. -/
theorem covers_iff {cfg : PrinterConfig} {size : SizeHmm} :
    cfg.Covers size ↔ (∃ s ∈ mediaSizes cfg, s.admits size = true) ∧
      sideMarginHmm cfg size.1 ∈ sideMargins cfg := by
  rw [admitted_iff, mem_sideMargins_iff]
  unfold PrinterConfig.Covers
  constructor
  · rintro (hin | ⟨hs, hrange, hmargin⟩)
    · exact ⟨Or.inl hin, Or.inl (mem_marginsOf hin)⟩
    · exact ⟨Or.inr ⟨hs, hrange⟩, by tauto⟩
  · rintro ⟨hin | ⟨hs, hrange⟩, hmargin⟩
    · exact Or.inl hin
    · refine Or.inr ⟨hs, hrange, ?_⟩
      rcases hmargin with hm | hm | ⟨_, hnone, _⟩
      · exact Or.inl hm
      · exact Or.inr hm
      · rw [customMediaRange_sane hs] at hnone
        cases hnone

theorem boundMargins_sane {cfg : PrinterConfig} (hs : cfg.BoundsSane) : boundMargins cfg =
    [sideMarginHmm cfg cfg.mediaSizeMin.1, sideMarginHmm cfg cfg.mediaSizeMax.1] := by
  unfold boundMargins
  rw [customMediaRange_sane hs]
  rfl

/-- The supported sets have room for their own bounds. -/
theorem covers_bounds {cfg : PrinterConfig} (hs : cfg.BoundsSane) :
    cfg.Covers cfg.mediaSizeMin ∧ cfg.Covers cfg.mediaSizeMax := by
  have hw : cfg.mediaSizeMin.1 ≤ cfg.mediaSizeMax.1 := hs.2.2.2.2.1
  have hh : cfg.mediaSizeMin.2 ≤ cfg.mediaSizeMax.2 := hs.2.2.2.2.2
  have hm := boundMargins_sane hs
  constructor
  · exact Or.inr ⟨hs, ⟨le_refl _, hw, le_refl _, hh⟩, Or.inr (by rw [hm]; exact List.mem_cons_self)⟩
  · exact Or.inr ⟨hs, ⟨hw, le_refl _, hh, le_refl _⟩, Or.inr (by rw [hm]; simp)⟩

/-- There is room for the default size where there is a size, or room for the fallback. -/
theorem covers_defaultSize_iff {cfg : PrinterConfig} :
    cfg.Covers (defaultSize cfg) ↔ cfg.mediaSizes ≠ [] ∨ cfg.Covers (4000, 3000) := by
  cases hs : cfg.mediaSizes with
  | nil =>
      have e : defaultSize cfg = (4000, 3000) := by
        unfold defaultSize
        rw [hs]
        rfl
      rw [e]
      simp
  | cons s ss =>
      have e : defaultSize cfg = s := by
        unfold defaultSize
        rw [hs]
        rfl
      refine iff_of_true (Or.inl ?_) (Or.inl (List.cons_ne_nil s ss))
      rw [e, hs]
      exact List.mem_cons_self

/-- Where there is room for the default size there is room for the whole database. -/
theorem covers_mediaCols {cfg : PrinterConfig} (hd : cfg.Covers (defaultSize cfg)) :
    ∀ e ∈ mediaCols cfg, cfg.Covers e.2 := by
  intro e he
  unfold mediaCols at he
  rw [zipSizes_eq] at he
  rcases List.mem_append.mp he with hconfigured | hbound
  · rcases List.mem_append.mp hconfigured with hown | htail
    · exact Or.inl (List.of_mem_zip hown).2
    · obtain ⟨n, _, rfl⟩ := List.mem_map.mp htail
      exact hd
  · by_cases hs : cfg.BoundsSane
    · rw [customMediaRange_sane hs] at hbound
      obtain ⟨hmin, hmax⟩ := covers_bounds hs
      rcases List.mem_cons.mp hbound with rfl | hbound
      · exact hmin
      · rw [List.mem_singleton.mp hbound]
        exact hmax
    · rw [customMediaRange_not_sane hs] at hbound
      cases hbound

section Admitted

variable {x : IppCrate} {version : IppVersion} {requestId : Nat} {record : PrinterRecord}
  {host : String} {port : Nat} {clock : Clock} {resp : IppResponse}

/-- The collections of one attribute, in terms of the entries they were made of. -/
theorem admitted_entries_iff (hread : ReadsMedia resp record)
    (hk : mediaKeywords record.config ≠ []) {name : String} {es : List (String × SizeHmm)}
    (hes : (resp.values name).map IppValue.toMediaCol =
      es.map fun e => some (record.config.colOf e)) :
    (∀ v ∈ resp.values name, ∃ c, v.toMediaCol = some c ∧
      (∃ s ∈ resp.values "media-size-supported", s.admits c.size = true) ∧
      IppValue.integer c.left ∈ resp.values "media-left-margin-supported" ∧
      IppValue.integer c.right ∈ resp.values "media-right-margin-supported") ↔
    ∀ e ∈ es, record.config.Covers e.2 := by
  have hmem : ∀ m, IppValue.integer m ∈ (sideMargins record.config).map IppValue.integer ↔
      m ∈ sideMargins record.config := fun m =>
    List.mem_map_of_injective fun a b hab => by cases hab; rfl
  refine (forall_read_iff (P := fun c =>
    (∃ s ∈ resp.values "media-size-supported", s.admits c.size = true) ∧
      IppValue.integer c.left ∈ resp.values "media-left-margin-supported" ∧
      IppValue.integer c.right ∈ resp.values "media-right-margin-supported") hes).trans ?_
  refine forall₂_congr fun e _ => ?_
  rw [hread.sizes hk, hread.left, hread.right, hmem, hmem, covers_iff]
  exact and_congr_right fun _ => and_self_iff

/-- **The collections of a full response are admitted exactly if the printer's media are
    covered.** -/
theorem admitted_iff_covered (hread : ReadsMedia resp record) :
    CollectionsAdmitted resp ↔ record.MediaCovered := by
  unfold CollectionsAdmitted PrinterRecord.MediaCovered
  simp only [List.forall_mem_cons, List.not_mem_nil, IsEmpty.forall_iff, implies_true, and_true]
  by_cases hk : mediaKeywords record.config = []
  · -- nothing is advertised
    have hd : defaultEntry record.config = none := by
      unfold defaultEntry
      rw [hk]
      rfl
    have hr : readyEntry record = none := by
      unfold readyEntry
      rw [hd]
      rfl
    have hc : mediaCols record.config = [] := by
      rw [← List.map_eq_nil_iff (f := Prod.fst), mediaCols_names, hk]
    have hempty : ∀ name, (resp.values name).map IppValue.toMediaCol = [] →
        resp.values name = [] := fun name h => List.map_eq_nil_iff.mp h
    have h₁ := hempty _ (hread.colDefault.trans (by rw [hd]; rfl))
    have h₂ := hempty _ (hread.database.trans (by rw [hc]; rfl))
    have h₃ := hempty _ (hread.colReady.trans (by rw [hr]; rfl))
    simp [h₁, h₂, h₃, hk]
  · rw [admitted_entries_iff hread hk hread.colDefault,
      admitted_entries_iff hread hk hread.database, admitted_entries_iff hread hk hread.colReady,
      ← covers_defaultSize_iff]
    obtain ⟨first, rest, hcons⟩ := List.exists_cons_of_ne_nil hk
    have hd : defaultEntry record.config = some (first, defaultSize record.config) := by
      unfold defaultEntry
      rw [hcons]
      rfl
    have hr : readyEntry record = some ((record.readyMedia.map fun rm =>
        (rm.name, rm.sizeHmm)).getD (first, defaultSize record.config)) := by
      unfold readyEntry
      rw [hd]
      rfl
    rw [hd, hr]
    simp only [Option.toList_some, List.forall_mem_singleton, hk, ne_eq, not_false_eq_true,
      forall_const]
    cases record.readyMedia with
    | none =>
        constructor
        · rintro ⟨hdef, _, _⟩
          exact ⟨hdef, fun rm hrm => absurd hrm (Option.not_mem_none rm)⟩
        · rintro ⟨hdef, _⟩
          exact ⟨hdef, covers_mediaCols hdef, hdef⟩
    | some rm =>
        constructor
        · rintro ⟨hdef, _, hready⟩
          refine ⟨hdef, fun rm' hrm => ?_⟩
          cases hrm
          exact hready
        · rintro ⟨hdef, hready⟩
          exact ⟨hdef, covers_mediaCols hdef, hready rm rfl⟩

/-- **The supported sets and the collections**: for every configuration and every sequence of
    loads, the collections of a full response are admitted exactly if the media are covered. -/
theorem collections_admitted_iff {cfg : PrinterConfig} {uuid : String} {loads : List ReadyMedia}
    (hx : x.StartsWithoutPrinter)
    (h : getPrinterAttributes x version requestId ((PrinterRecord.new cfg uuid).loadAll loads) host
      port none clock = .ok resp) :
    CollectionsAdmitted resp ↔ ((PrinterRecord.new cfg uuid).loadAll loads).MediaCovered :=
  admitted_iff_covered (reads_media hx h)

end Admitted

theorem collections_admitted_iff_printer :
    ∃ resp, getPrinterAttributes Trial.crate 0x0200 7
        ((PrinterRecord.new (Trial.config "p") "uuid-p").loadAll []) "localhost" 8631 none
        Trial.clock = .ok resp ∧ CollectionsAdmitted resp := by
  have e : (PrinterRecord.new (Trial.config "p") "uuid-p").loadAll [] = Trial.printer := rfl
  obtain ⟨resp, h⟩ := Trial.printer_responds
  rw [← e] at h
  refine ⟨resp, h, (collections_admitted_iff Trial.crate_startsWithoutPrinter h).mpr fun _ => ⟨?_, ?_⟩⟩
  · exact Or.inl (by decide)
  · exact fun rm hrm => absurd hrm (Option.not_mem_none rm)

/-- A printer without sizes and bounds: nothing admits the size its collections report. -/
theorem default_size_not_admitted :
    ¬ ∀ (x : IppCrate) (version : IppVersion) (requestId : Nat) (cfg : PrinterConfig)
        (uuid : String) (loads : List ReadyMedia) (host : String) (port : Nat) (clock : Clock)
        (resp : IppResponse), x.StartsWithoutPrinter →
        getPrinterAttributes x version requestId ((PrinterRecord.new cfg uuid).loadAll loads) host
          port none clock = .ok resp →
        CollectionsAdmitted resp := by
  intro h
  obtain ⟨resp, hresp⟩ := Trial.unsized_responds
  have hall := h _ _ _ Trial.unsized.config "uuid-p" [] _ _ _ resp Trial.crate_startsWithoutPrinter hresp
  obtain ⟨hsize, _⟩ := (admitted_iff_covered (reads_media Trial.crate_startsWithoutPrinter hresp)).mp hall
    (by decide)
  revert hsize
  decide +kernel

end IppPrinterApp
