/-
  File:      IppPrinterApp/Conversions.lean
  Subject:   When a response can be built: the conversions of runtime strings.

  The strings of a response come from the configuration, the device, the print callback and the
  client. Only the owner of a job has a fallback (`ownerValue`); the other conversions are an
  `expect` or an `unwrap`.

  * `PrinterRecord.Fits`, `JobRecord.Fits` -- bounds on the lengths of the strings;
  * `returns_printerAttributes_iff`, `returns_jobAttributes_iff` -- a paragraph of attributes is
    built exactly if its strings are within them;
  * `answer_panics_iff`: **building an answer does not panic if and only if its strings fit**, or
    the crate has refused the header before any of them is converted;
  * `failure_message_panics` is a job whose print failed with a message of 1024 octets.
-/
import IppPrinterApp.Refusals
import IppPrinterApp.Replies

namespace IppPrinterApp

open Fallible

/-! ## 1. Decimal numbers -/

theorem utf8Size_digitChar {n : Nat} (h : n < 10) : (Nat.digitChar n).utf8Size = 1 :=
  (by decide : ∀ n < 10, (Nat.digitChar n).utf8Size = 1) n h

/-- A number below `10 ^ k` has `k` digits at most. -/
theorem utf8ByteSize_repr_le {n k : Nat} (hk : 0 < k) (h : n < 10 ^ k) :
    n.repr.utf8ByteSize ≤ k := by
  induction k generalizing n with
  | zero => exact absurd hk (Nat.lt_irrefl 0)
  | succ k ih =>
      by_cases hn : n < 10
      · rw [Nat.repr_of_lt hn, String.utf8ByteSize_singleton, utf8Size_digitChar hn]
        omega
      · have hk' : 0 < k := by
          rcases Nat.eq_zero_or_pos k with rfl | hk'
          · exact absurd (by simpa using h) hn
          · exact hk'
        have hdiv : n / 10 < 10 ^ k := by
          rw [pow_succ] at h
          omega
        have hrest := ih hk' hdiv
        rw [Nat.repr_of_ge (by omega), String.utf8ByteSize_append, String.utf8ByteSize_singleton,
          utf8Size_digitChar (Nat.mod_lt n (by omega))]
        omega

/-- The same of a number that is not negative. -/
theorem utf8ByteSize_int_le {n : Int} {k : Nat} (hk : 0 < k) (h0 : 0 ≤ n) (h : n < 10 ^ k) :
    (toString n).utf8ByteSize ≤ k := by
  obtain ⟨m, rfl⟩ := Int.eq_ofNat_of_zero_le h0
  exact utf8ByteSize_repr_le hk (by exact_mod_cast h)

/-! ## 2. Panics -/

/-- Building ended in a failing `expect` or `unwrap`. -/
def Panics {α : Type} (e : Except Fault α) : Prop := ∃ what, e = .error (.panic what)

section Sound

variable {α β : Type}

theorem not_panics_iff {e : Except Fault α} (h : Sound e) : ¬ Panics e ↔ Returns e := by
  match e, h with
  | .ok a, _ => exact ⟨fun _ => returns_ok a, fun _ ⟨_, hw⟩ => (by cases hw)⟩
  | .error (.panic what), _ =>
      exact ⟨fun hn => absurd ⟨what, rfl⟩ hn, fun hr => absurd hr (not_returns_error _)⟩

theorem Sound.bind {f : α → Except Fault β} {e : Except Fault α} (he : Sound e)
    (hf : ∀ a, Sound (f a)) : Sound (e >>= f) := by
  match e, he with
  | .ok a, _ => exact hf a
  | .error (.panic _), _ => exact trivial

@[simp] theorem sound_ok (a : α) : Sound (.ok a : Except Fault α) := trivial

/-- The value of a computation, changed. -/
theorem Sound.bind_pure {f : α → β} {e : Except Fault α} (he : Sound e) :
    Sound (e >>= fun a => pure (f a)) := he.bind fun _ => trivial

@[simp] theorem sound_map_expectInto {max : Nat} {s what : String}
    {f : BoundedString max → α} : Sound ((expectInto max s what).map f) :=
  (sound_expectInto max s what).map

@[simp] theorem sound_arrayOf {values : List Built} (h : ∀ v ∈ values, Sound v) :
    Sound (arrayOf values) := (sound_mapM h).map

/-- A fold whose steps build a value and then go on. -/
theorem sound_addAll {tag : DelimiterTag} {attrs : List (String × Built)}
    (hs : ∀ e ∈ attrs, Sound e.2) (resp : IppResponse) : Sound (addAll tag resp attrs) := by
  unfold addAll
  induction attrs generalizing resp with
  | nil => exact trivial
  | cons e attrs ih =>
      rw [List.foldlM_cons]
      exact (hs e List.mem_cons_self).map.bind fun r =>
        ih (fun e' he' => hs e' (List.mem_cons_of_mem e he')) r

end Sound

/-- What is left to do after the header: it never ends in an error, it returns exactly if `P`, and
    it keeps the header. -/
structure Completes (f : IppResponse → Except Fault IppResponse) (P : Prop) : Prop where
  sound : ∀ r, Sound (f r)
  returns : ∀ r, Returns (f r) ↔ P
  header : ∀ r resp, f r = .ok resp → resp.status = r.status ∧ resp.requestId = r.requestId

/-- A response is made of the crate's header, and completed exactly if `P`. -/
def BuiltIf (x : IppCrate) (version : IppVersion) (requestId : Nat)
    (e : Except Fault IppResponse) (P : Prop) : Prop :=
  ∃ f, e = newResponse x version .successfulOk requestId >>= f ∧ Completes f P

section BuiltIf

variable {x : IppCrate} {version : IppVersion} {requestId : Nat} {e : Except Fault IppResponse}
  {P : Prop}

/-- **Building panics exactly where the header is made and `P` fails.** -/
theorem BuiltIf.not_panics_iff (h : BuiltIf x version requestId e P) :
    ¬ Panics e ↔ ∀ r, x.newResponse version .successfulOk requestId = .ok r → P := by
  obtain ⟨f, rfl, hf⟩ := h
  unfold newResponse
  cases x.newResponse version .successfulOk requestId with
  | error err => exact ⟨fun _ r hr => (by cases hr), fun _ ⟨what, hw⟩ => (by cases hw)⟩
  | ok r =>
      have hr := (IppPrinterApp.not_panics_iff (hf.sound r)).trans (hf.returns r)
      exact ⟨fun hn _ _ => hr.mp hn, fun hP => hr.mpr (hP r rfl)⟩

/-- **With a crate that makes every header** the response is there if `P`, with the request's id
    and a successful status, and building it panics if not. -/
theorem BuiltIf.cases (h : BuiltIf x version requestId e P) (hx : x.BuildsResponses) :
    (P ∧ ∃ resp, e = .ok resp ∧ resp.status = .successfulOk ∧ resp.requestId = requestId) ∨
      (¬ P ∧ Panics e) := by
  obtain ⟨f, rfl, hf⟩ := h
  obtain ⟨r, hr, _, hstatus, hid⟩ := hx version .successfulOk requestId
  have hnew : newResponse x version .successfulOk requestId = .ok r := by
    unfold newResponse
    rw [hr]
  rw [hnew]
  by_cases hP : P
  · obtain ⟨resp, hresp⟩ := (hf.returns r).mpr hP
    obtain ⟨hs, hi⟩ := hf.header r resp hresp
    exact Or.inl ⟨hP, resp, hresp, hs.trans hstatus, hi.trans hid⟩
  · refine Or.inr ⟨hP, not_not.mp fun hn => hP ?_⟩
    exact (hf.returns r).mp ((IppPrinterApp.not_panics_iff (hf.sound r)).mp hn)

end BuiltIf

/-! ## 3. The attributes of a printer -/

theorem sound_mediaColOf (cfg : PrinterConfig) (e : String × SizeHmm) :
    Sound (mediaColOf cfg e) := Sound.map sound_map_expectInto

theorem sound_mediaAttributes (record : PrinterRecord) :
    ∀ e ∈ mediaAttributes record, Sound e.2 := by
  have hcols : Sound (arrayOf ((mediaCols record.config).map (mediaColOf record.config))) :=
    sound_arrayOf (List.forall_mem_map.mpr fun e _ => sound_mediaColOf record.config e)
  unfold mediaAttributes
  dsimp only
  split
  · exact fun e he => absurd he List.not_mem_nil
  · simp [hcols, sound_mediaColOf, sound_keywords, kw]

/-- Every attribute of a printer is there, or building it panics. -/
theorem sound_printerAttributes (record : PrinterRecord) (host : String) (port : Nat)
    (clock : Clock) : ∀ e ∈ printerAttributes record host port clock, Sound e.2 := by
  have hidentity : ∀ e ∈ identityAttributes record host port clock, Sound e.2 := by
    unfold identityAttributes
    dsimp only
    split <;> simp [sound_keywords, kw, uri, text, nameValue, int, enums, charset, lang]
  have hdocument : ∀ e ∈ documentAttributes record.config, Sound e.2 := by
    simp [documentAttributes, sound_keywords, kw, mime, enums]
  have hlimit : ∀ e ∈ jobLimitAttributes, Sound e.2 := by
    simp [jobLimitAttributes, sound_keywords, kw, int, enums]
  have hadmin : ∀ e ∈ adminAttributes record host port clock, Sound e.2 := by
    simp [adminAttributes, text, uri, int]
  have hmargin : ∀ e ∈ sideMarginAttributes record.config, Sound e.2 := by
    simp [sideMarginAttributes, int]
  unfold printerAttributes
  simp only [List.forall_mem_append]
  exact ⟨⟨⟨⟨⟨hidentity, hdocument⟩, sound_mediaAttributes record⟩, hmargin⟩, hlimit⟩, hadmin⟩

/-- The octets of `host:port` in a URI. -/
def authorityOctets (host : String) (port : Nat) : Nat :=
  (advertiseHost host).utf8ByteSize + 1 + (toString port).utf8ByteSize

/-- **The strings of a printer fit**: the bounds of `name`, `text`, `mimeMediaType` and `keyword`,
    and those of `uri` less the rest of `ipp://host:port/ipp/print/name`,
    `http://host:port/icon.png` and `urn:uuid:`. -/
structure PrinterRecord.Fits (record : PrinterRecord) (host : String) (port : Nat) : Prop where
  printerUri : 17 + authorityOctets host port + record.config.name.utf8ByteSize ≤ 1023
  iconUri : 16 + authorityOctets host port ≤ 1023
  uuid : 9 + record.uuid.utf8ByteSize ≤ 1023
  name : record.config.name.utf8ByteSize ≤ 255
  displayName : record.config.displayName.utf8ByteSize ≤ 1023
  makeAndModel : record.config.makeAndModel.utf8ByteSize ≤ 1023
  deviceId : record.config.deviceId.utf8ByteSize ≤ 1023
  documentFormats : ∀ f ∈ record.config.documentFormats, f.utf8ByteSize ≤ 255
  mediaNames : ∀ n ∈ record.config.mediaNames, n.utf8ByteSize ≤ 255
  /-- only reported where there is a media paragraph -/
  readyMedia : ∀ rm ∈ record.readyMedia, record.config.mediaNames ≠ [] ∨
    (customMediaRange record.config).isSome = true → rm.name.utf8ByteSize ≤ 255

/-- The numbers of a printer are of their types, `i32` and `u8`. -/
structure PrinterRecord.InRange (record : PrinterRecord) : Prop where
  mediaSizeMin : record.config.mediaSizeMin.1 < 2 ^ 31 ∧ record.config.mediaSizeMin.2 < 2 ^ 31
  mediaSizeMax : record.config.mediaSizeMax.1 < 2 ^ 31 ∧ record.config.mediaSizeMax.2 < 2 ^ 31
  supplyPercent : ∀ p ∈ record.supplyPercent, p < 256

section Printer

variable {record : PrinterRecord} {host : String} {port : Nat} {clock : Clock}

theorem printerUri_octets : (printerUri record host port).utf8ByteSize =
    17 + authorityOctets host port + record.config.name.utf8ByteSize := by
  have e : printerUri record host port = "ipp://" ++ advertiseHost host ++ ":" ++ toString port ++
      "/ipp/print/" ++ record.config.name := rfl
  have h1 : "ipp://".utf8ByteSize = 6 := rfl
  have h2 : ":".utf8ByteSize = 1 := rfl
  have h3 : "/ipp/print/".utf8ByteSize = 11 := rfl
  rw [e]
  simp only [String.utf8ByteSize_append, h1, h2, h3, authorityOctets]
  omega

/-- The pages the server links to. -/
theorem webUri_octets (path : String) :
    ("http://" ++ advertiseHost host ++ ":" ++ toString port ++ path).utf8ByteSize =
      7 + authorityOctets host port + path.utf8ByteSize := by
  have h1 : "http://".utf8ByteSize = 7 := rfl
  have h2 : ":".utf8ByteSize = 1 := rfl
  simp only [String.utf8ByteSize_append, h1, h2, authorityOctets]
  omega

theorem moreInfo_octets : s!"http://{advertiseHost host}:{port}/".utf8ByteSize =
    8 + authorityOctets host port :=
  (webUri_octets "/").trans (Nat.add_right_comm 7 _ 1)

theorem icon_octets : s!"http://{advertiseHost host}:{port}/icon.png".utf8ByteSize =
    16 + authorityOctets host port :=
  (webUri_octets "/icon.png").trans (Nat.add_right_comm 7 _ 9)

theorem uuid_octets : s!"urn:uuid:{record.uuid}".utf8ByteSize = 9 + record.uuid.utf8ByteSize :=
  String.utf8ByteSize_append

/-- The supply of a percentage that is one octet. -/
theorem supply_octets {level : Nat} (h : level < 256) :
    s!"index=1;class=supplyThatIsConsumed;type=stoppingMaterial;unit=percent;maxcapacity=100;level={level};colorantname=unknown;".utf8ByteSize
      ≤ 1023 := by
  have hl : (toString level).utf8ByteSize ≤ 3 := utf8ByteSize_repr_le (by decide) (by omega)
  have h1 : "index=1;class=supplyThatIsConsumed;type=stoppingMaterial;unit=percent;maxcapacity=100;level=".utf8ByteSize
    = 92 := rfl
  have h2 : ";colorantname=unknown;".utf8ByteSize = 22 := rfl
  change (_ ++ _ ++ _ : String).utf8ByteSize ≤ 1023
  rw [String.utf8ByteSize_append, String.utf8ByteSize_append]
  change
    "index=1;class=supplyThatIsConsumed;type=stoppingMaterial;unit=percent;maxcapacity=100;level=".utf8ByteSize +
      (toString level).utf8ByteSize + ";colorantname=unknown;".utf8ByteSize ≤ 1023
  omega

/-- The keywords of the flags fit. -/
theorem ippKeywords_fit (r : PrinterReason) : ∀ s ∈ r.ippKeywords, s.utf8ByteSize ≤ 255 := by
  have htable : ∀ e ∈ PrinterReason.table, e.2.utf8ByteSize ≤ 255 := by decide
  unfold PrinterReason.ippKeywords
  split
  · decide
  · exact List.forall_mem_map.mpr fun e he => htable e (List.mem_of_mem_filter he)

/-- The label is the display name, or one of two strings that fit anyway. -/
theorem displayLabel_fit_iff {cfg : PrinterConfig} (hname : cfg.name.utf8ByteSize ≤ 255)
    (hmake : cfg.makeAndModel.utf8ByteSize ≤ 1023) :
    cfg.displayLabel.utf8ByteSize ≤ 1023 ↔ cfg.displayName.utf8ByteSize ≤ 1023 := by
  unfold PrinterConfig.displayLabel
  split
  · exact Iff.rfl
  · rename_i he
    rw [Bool.not_eq_true', Bool.not_eq_false, String.isEmpty_iff_utf8ByteSize_eq_zero] at he
    have hlabel : (if !cfg.makeAndModel.isEmpty then cfg.makeAndModel
        else cfg.name).utf8ByteSize ≤ 1023 := by
      split <;> omega
    exact ⟨fun _ => by omega, fun _ => hlabel⟩

theorem returns_identityAttributes_iff :
    (∀ e ∈ identityAttributes record host port clock, Returns e.2) ↔
      17 + authorityOctets host port + record.config.name.utf8ByteSize ≤ 1023 ∧
      record.config.name.utf8ByteSize ≤ 255 ∧ record.config.displayLabel.utf8ByteSize ≤ 1023 ∧
      record.config.makeAndModel.utf8ByteSize ≤ 1023 ∧ 8 + authorityOctets host port ≤ 1023 ∧
      9 + record.uuid.utf8ByteSize ≤ 1023 ∧ record.config.deviceId.utf8ByteSize ≤ 1023 := by
  have hdevice : (∀ e ∈ (if record.config.deviceId.isEmpty then []
      else [("printer-device-id", text record.config.deviceId)] : List (String × Built)),
      Returns e.2) ↔ record.config.deviceId.utf8ByteSize ≤ 1023 := by
    split
    · rename_i he
      rw [String.isEmpty_iff_utf8ByteSize_eq_zero] at he
      rw [he]
      simp
    · simp
  unfold identityAttributes
  simp +decide only [List.forall_mem_append, List.forall_mem_cons, List.not_mem_nil, returns_uri_iff,
    returns_kw_iff, returns_nameValue_iff, returns_text_iff, returns_int, returns_ok,
    returns_keywords_iff, returns_enums, returns_charset_iff, returns_lang_iff,
    returns_arrayOf_iff, printerUri_octets, moreInfo_octets, uuid_octets, hdevice,
    iff_true_intro (ippKeywords_fit record.reasons), IsEmpty.forall_iff, implies_true, true_and,
    and_true, and_assoc]

theorem returns_documentAttributes_iff :
    (∀ e ∈ documentAttributes record.config, Returns e.2) ↔
      ∀ f ∈ record.config.documentFormats, f.utf8ByteSize ≤ 255 := by
  have hformats : (∀ f ∈ documentFormats record.config, f.utf8ByteSize ≤ 255) ↔
      ∀ f ∈ record.config.documentFormats, f.utf8ByteSize ≤ 255 := by
    unfold documentFormats
    split
    · rename_i he
      rw [List.isEmpty_iff.mp he]
      decide
    · exact Iff.rfl
  unfold documentAttributes
  simp +decide only [List.forall_mem_cons, List.not_mem_nil, List.forall_mem_map, returns_kw_iff,
    returns_mime_iff, returns_ok, returns_keywords_iff, returns_enums, returns_arrayOf_iff,
    hformats, IsEmpty.forall_iff, implies_true, and_true]

theorem returns_adminAttributes_iff (hr : ∀ p ∈ record.supplyPercent, p < 256) :
    (∀ e ∈ adminAttributes record host port clock, Returns e.2) ↔
      16 + authorityOctets host port ≤ 1023 := by
  have hlevel : record.supplyPercent.getD 100 < 256 := by
    cases hp : record.supplyPercent with
    | none => decide
    | some p => exact hr p hp
  unfold adminAttributes
  simp +decide only [List.forall_mem_cons, List.not_mem_nil, returns_text_iff, returns_uri_iff,
    returns_int, returns_ok, returns_map_iff, returns_expectInto_iff, returns_arrayOf_iff,
    moreInfo_octets, icon_octets, supply_octets hlevel, IsEmpty.forall_iff, implies_true, true_and,
    and_true]
  omega

/-! The media paragraph. -/

theorem returns_mediaColOf_iff {cfg : PrinterConfig} {e : String × SizeHmm} :
    Returns (mediaColOf cfg e) ↔ e.1.utf8ByteSize ≤ 255 :=
  returns_map_iff.trans returns_kw_iff

theorem zipSizes_names (defaultSize : SizeHmm) (names : List String) (sizes : List SizeHmm) :
    (zipSizes defaultSize names sizes).map Prod.fst = names := by
  fun_induction zipSizes defaultSize names sizes with
  | case1 => rfl
  | case2 n ns ih => exact congrArg (n :: ·) ih
  | case3 n ns s ss ih => exact congrArg (n :: ·) ih

/-- The names of the media collections are the media keywords. -/
theorem mediaCols_names (cfg : PrinterConfig) :
    (mediaCols cfg).map Prod.fst = mediaKeywords cfg := by
  unfold mediaCols mediaKeywords
  rw [List.map_append, zipSizes_names]
  cases customMediaRange cfg with
  | none => rfl
  | some range => rfl

/-- The custom name of a size whose dimensions are positive `i32`s fits. -/
theorem customMediaName_fit (bound : String) {size : SizeHmm} (hb : bound.utf8ByteSize ≤ 3)
    (hw : 0 < size.1 ∧ size.1 < 2 ^ 31) (hh : 0 < size.2 ∧ size.2 < 2 ^ 31) :
    (customMediaName bound size).utf8ByteSize ≤ 255 := by
  have hdigits : ∀ n : Int, 0 < n ∧ n < 2 ^ 31 → (toString (n.tdiv 100)).utf8ByteSize ≤ 8 := by
    intro n hn
    have e : n.tdiv 100 = n / 100 := Int.tdiv_eq_ediv_of_nonneg hn.1.le
    rw [e]
    exact utf8ByteSize_int_le (by decide) (by omega) (by omega)
  have e : customMediaName bound size = "custom_" ++ bound ++ "_" ++ toString (size.1.tdiv 100) ++ "x" ++
      toString (size.2.tdiv 100) ++ "mm_" ++ toString (size.1.tdiv 100) ++ "x" ++
      toString (size.2.tdiv 100) ++ "mm" := rfl
  have h1 : "custom_".utf8ByteSize = 7 := rfl
  have h2 : "_".utf8ByteSize = 1 := rfl
  have h3 : "x".utf8ByteSize = 1 := rfl
  have h4 : "mm_".utf8ByteSize = 3 := rfl
  have h5 : "mm".utf8ByteSize = 2 := rfl
  have hx := hdigits size.1 hw
  have hy := hdigits size.2 hh
  rw [e]
  simp only [String.utf8ByteSize_append, h1, h2, h3, h4, h5]
  omega

theorem customMediaRange_pos {cfg : PrinterConfig} {range : SizeHmm × SizeHmm}
    (h : customMediaRange cfg = some range) : range = (cfg.mediaSizeMin, cfg.mediaSizeMax) ∧
      0 < range.1.1 ∧ 0 < range.1.2 ∧ 0 < range.2.1 ∧ 0 < range.2.2 := by
  unfold customMediaRange at h
  dsimp only at h
  split at h
  · rename_i hpos
    cases h
    exact ⟨rfl, hpos.1, hpos.2.1, hpos.2.2.1, hpos.2.2.2.1⟩
  · cases h

/-- **The media keywords fit if the configured names do**: the custom names always do. -/
theorem mediaKeywords_fit_iff (hr : record.InRange) :
    (∀ n ∈ mediaKeywords record.config, n.utf8ByteSize ≤ 255) ↔
      ∀ n ∈ record.config.mediaNames, n.utf8ByteSize ≤ 255 := by
  unfold mediaKeywords
  rw [List.forall_mem_append]
  cases hc : customMediaRange record.config with
  | none => exact and_iff_left fun n hn => absurd hn List.not_mem_nil
  | some range =>
      obtain ⟨rfl, h11, h12, h21, h22⟩ := customMediaRange_pos hc
      have hmin := customMediaName_fit "min" (by decide) ⟨h11, hr.mediaSizeMin.1⟩
        ⟨h12, hr.mediaSizeMin.2⟩
      have hmax := customMediaName_fit "max" (by decide) ⟨h21, hr.mediaSizeMax.1⟩
        ⟨h22, hr.mediaSizeMax.2⟩
      refine and_iff_left ?_
      simp only [List.forall_mem_cons, List.not_mem_nil, IsEmpty.forall_iff, implies_true, and_true]
      exact ⟨hmin, hmax⟩

theorem mediaKeywords_eq_nil_iff (cfg : PrinterConfig) :
    mediaKeywords cfg = [] ↔ ¬ (cfg.mediaNames ≠ [] ∨ (customMediaRange cfg).isSome = true) := by
  unfold mediaKeywords
  rw [List.append_eq_nil_iff, not_or, not_not]
  cases customMediaRange cfg with
  | none => exact and_congr_right fun _ => ⟨fun _ => by decide, fun _ => rfl⟩
  | some range => exact and_congr_right fun _ => ⟨fun h => (by cases h), fun h => absurd rfl h⟩

theorem returns_mediaAttributes_iff (hr : record.InRange) :
    (∀ e ∈ mediaAttributes record, Returns e.2) ↔
      (∀ n ∈ record.config.mediaNames, n.utf8ByteSize ≤ 255) ∧
      ∀ rm ∈ record.readyMedia, record.config.mediaNames ≠ [] ∨
        (customMediaRange record.config).isSome = true → rm.name.utf8ByteSize ≤ 255 := by
  rw [← mediaKeywords_fit_iff hr]
  have hcols : (∀ e ∈ mediaCols record.config, e.1.utf8ByteSize ≤ 255) ↔
      ∀ n ∈ mediaKeywords record.config, n.utf8ByteSize ≤ 255 := by
    rw [← mediaCols_names, List.forall_mem_map]
  have hnil := mediaKeywords_eq_nil_iff record.config
  unfold mediaAttributes
  dsimp only
  split
  · rename_i hk
    rw [hk] at hnil ⊢
    have hno := hnil.mp rfl
    exact ⟨fun _ => ⟨fun n hn => absurd hn List.not_mem_nil, fun _ _ h => absurd h hno⟩,
      fun _ e he => absurd he List.not_mem_nil⟩
  · rename_i first rest hk
    rw [hk] at hnil hcols ⊢
    have hyes : record.config.mediaNames ≠ [] ∨ (customMediaRange record.config).isSome = true :=
      not_not.mp fun h => by cases hnil.mpr h
    simp +decide only [List.forall_mem_cons, List.not_mem_nil, List.forall_mem_map, returns_kw_iff,
      returns_ok, returns_keywords_iff, returns_arrayOf_iff, returns_mediaColOf_iff, hcols,
      IsEmpty.forall_iff, implies_true, true_and, and_true]
    cases record.readyMedia with
    | none =>
        constructor
        · exact fun h => ⟨h.2.1, fun _ hm => absurd hm (Option.not_mem_none _)⟩
        · exact fun h => ⟨h.1.1, h.1, h.1.1, h.1, h.1.1, h.1.1⟩
    | some rm =>
        constructor
        · rintro ⟨_, hall, _, _, hready, _⟩
          refine ⟨hall, fun rm' hm _ => ?_⟩
          cases hm
          exact hready
        · exact fun h => ⟨h.1.1, h.1, h.1.1, h.1, h.2 rm rfl hyes, h.2 rm rfl hyes⟩

/-- **A printer's attributes are built exactly if its strings fit.** -/
theorem returns_printerAttributes_iff (hr : record.InRange) :
    (∀ e ∈ printerAttributes record host port clock, Returns e.2) ↔ record.Fits host port := by
  have hmargin : ∀ e ∈ sideMarginAttributes record.config, Returns e.2 := by
    simp [sideMarginAttributes]
  have hlimit : ∀ e ∈ jobLimitAttributes, Returns e.2 := by
    simp +decide [jobLimitAttributes]
  unfold printerAttributes
  simp only [List.forall_mem_append, returns_identityAttributes_iff, returns_documentAttributes_iff,
    returns_mediaAttributes_iff hr, returns_adminAttributes_iff hr.supplyPercent,
    iff_true_intro hmargin, iff_true_intro hlimit, and_true]
  constructor
  · rintro ⟨⟨⟨⟨huri, hname, hlabel, hmake, _, huuid, hdevice⟩, hformats⟩, hmedia, hready⟩, hicon⟩
    exact
      { printerUri := huri, iconUri := hicon, uuid := huuid, name := hname
        displayName := (displayLabel_fit_iff hname hmake).mp hlabel
        makeAndModel := hmake, deviceId := hdevice, documentFormats := hformats
        mediaNames := hmedia, readyMedia := hready }
  · intro h
    have hlabel := (displayLabel_fit_iff h.name h.makeAndModel).mpr h.displayName
    have hmore : 8 + authorityOctets host port ≤ 1023 := by
      have hicon := h.iconUri
      omega
    exact ⟨⟨⟨⟨h.printerUri, h.name, hlabel, h.makeAndModel, hmore, h.uuid, h.deviceId⟩,
      h.documentFormats⟩, h.mediaNames, h.readyMedia⟩, h.iconUri⟩

end Printer

/-! ## 4. The attributes of a job -/

/-- The URI of a job fits: `ipp://host:port/ipp/print/name/job/id`. -/
def PrinterRecord.JobUriFits (record : PrinterRecord) (host : String) (port : Nat) (id : JobId) :
    Prop :=
  22 + authorityOctets host port + record.config.name.utf8ByteSize + (toString id).utf8ByteSize ≤ 1023

/-- **The strings of a job fit**: the bounds of `uri` and of `text`. The owner has a fallback. -/
structure JobRecord.Fits (j : JobRecord) (record : PrinterRecord) (host : String) (port : Nat) :
    Prop where
  jobUri : record.JobUriFits host port j.id
  message : j.message.utf8ByteSize ≤ 1023

instance (record : PrinterRecord) (host : String) (port : Nat) (id : JobId) :
    Decidable (record.JobUriFits host port id) := by
  unfold PrinterRecord.JobUriFits
  infer_instance

instance (j : JobRecord) (record : PrinterRecord) (host : String) (port : Nat) :
    Decidable (j.Fits record host port) :=
  decidable_of_iff (record.JobUriFits host port j.id ∧ j.message.utf8ByteSize ≤ 1023)
    ⟨fun h => ⟨h.1, h.2⟩, fun h => ⟨h.jobUri, h.message⟩⟩

/-- The id of a job is a `u32`. -/
def JobRecord.InRange (j : JobRecord) : Prop := j.id < 2 ^ 32

section Job

variable {record : PrinterRecord} {host : String} {port : Nat} {clock : Clock} {j : JobRecord}

/-- printer.rs and attributes.rs make the same URI. -/
theorem printerUri_eq (record : PrinterRecord) (host : String) (port : Nat) :
    record.config.printerUri host port = printerUri record host port := rfl

theorem jobUri_octets : (jobUri j (printerUri record host port)).utf8ByteSize =
    22 + authorityOctets host port + record.config.name.utf8ByteSize +
      (toString j.id).utf8ByteSize := by
  have e : jobUri j (printerUri record host port) =
      printerUri record host port ++ "/job/" ++ toString j.id := rfl
  have h1 : "/job/".utf8ByteSize = 5 := rfl
  rw [e]
  simp only [String.utf8ByteSize_append, printerUri_octets, h1]
  omega

/-- The name of a job fits. -/
theorem jobName_fit (hj : j.InRange) : s!"job-{j.id}".utf8ByteSize ≤ 255 := by
  have hid : (toString j.id).utf8ByteSize ≤ 10 :=
    utf8ByteSize_repr_le (by decide) (Nat.lt_trans hj (by decide))
  have e : s!"job-{j.id}" = "job-" ++ toString j.id := rfl
  have h1 : "job-".utf8ByteSize = 4 := rfl
  rw [e, String.utf8ByteSize_append, h1]
  omega

/-- The keywords of the reasons of a job fit. -/
theorem jobStateReasonKeywords_fit (j : JobRecord) :
    ∀ s ∈ jobStateReasonKeywords j, s.utf8ByteSize ≤ 255 := by
  unfold jobStateReasonKeywords
  generalize j.reasons.contains .MEDIA_EMPTY = empty
  generalize j.reasons.contains .MEDIA_JAM = jam
  generalize j.reasons.contains .OFFLINE = offline
  cases j.state <;> revert empty jam offline <;> decide

theorem returns_jobAttributes_iff (hj : j.InRange) :
    (∀ e ∈ jobAttributes j (printerUri record host port) clock, Returns e.2) ↔
      j.Fits record host port := by
  have hmessage : (∀ e ∈ (if j.message.isEmpty then [] else [("job-state-message", text j.message)] :
      List (String × Built)), Returns e.2) ↔ j.message.utf8ByteSize ≤ 1023 := by
    split
    · rename_i he
      rw [String.isEmpty_iff_utf8ByteSize_eq_zero] at he
      rw [he]
      simp
    · simp
  unfold jobAttributes
  simp only [List.forall_mem_append, List.forall_mem_cons, List.not_mem_nil, returns_uri_iff,
    returns_nameValue_iff, returns_int, returns_ok, returns_ownerValue, returns_keywords_iff,
    printerUri_octets, jobUri_octets, jobName_fit hj, iff_true_intro (jobStateReasonKeywords_fit j),
    hmessage, IsEmpty.forall_iff, implies_true, true_and, and_true]
  constructor
  · rintro ⟨⟨⟨huri, _⟩, hm⟩, _⟩
    exact ⟨huri, hm⟩
  · intro h
    have huri : 22 + authorityOctets host port + record.config.name.utf8ByteSize +
      (toString j.id).utf8ByteSize ≤ 1023 := h.jobUri
    refine ⟨⟨⟨huri, by omega⟩, h.message⟩, ?_⟩
    cases j.completedSecs with
    | none => simp
    | some s => simp

end Job

/-! ## 5. Answers -/

/-- The answers that carry attributes, with what they are built from beside the printer. -/
inductive Answer where
  /-- Get-Printer-Attributes -/
  | printerAttributes (requested : Option NameSet)
  | validateJob
  /-- Print-Job, Create-Job -/
  | accepted (job : JobRecord)
  /-- Get-Jobs -/
  | jobs (jobs : List JobRecord) (requested : Option NameSet)
  /-- Get-Job-Attributes, Send-Document -/
  | jobAttributes (job : JobRecord) (requested : Option NameSet)

namespace Answer

/-- The answer of the handler for a printer. -/
def build (x : IppCrate) (version : IppVersion) (requestId : Nat) (record : PrinterRecord)
    (host : String) (port : Nat) (clock : Clock) : Answer → Except Fault IppResponse
  | printerAttributes requested =>
    getPrinterAttributes x version requestId record host port requested clock
  | validateJob => IppPrinterApp.validateJob x version requestId record host port clock
  | accepted job =>
    printJobAccepted x version requestId job (record.config.printerUri host port)
  | jobs js requested =>
    buildGetJobsResponse x version requestId js (record.config.printerUri host port) requested clock
  | jobAttributes job requested =>
    buildJobAttrsResponse x version requestId job (record.config.printerUri host port) requested
      clock

/-- The strings it converts fit. -/
def Fits (record : PrinterRecord) (host : String) (port : Nat) : Answer → Prop
  | printerAttributes _ => record.Fits host port
  | validateJob => record.Fits host port
  | accepted job => record.JobUriFits host port job.id
  | jobs js _ => ∀ j ∈ js, j.Fits record host port
  | jobAttributes job _ => job.Fits record host port

/-- The jobs it is about. -/
def jobRecords : Answer → List JobRecord
  | accepted job => [job]
  | jobs js _ => js
  | jobAttributes job _ => [job]
  | _ => []

end Answer

section Answers

variable {x : IppCrate} {version : IppVersion} {requestId : Nat} {record : PrinterRecord}
  {host : String} {port : Nat} {clock : Clock} {j : JobRecord}

theorem returns_jobAttrsForGroup_iff (hj : j.InRange) (requested : Option NameSet) :
    Returns (jobAttrsForGroup j (printerUri record host port) requested clock) ↔
      j.Fits record host port := by
  have hm : Returns ((jobAttributes j (printerUri record host port) clock).mapM fun e =>
      e.2.map (IppAttribute.mk e.1)) ↔ j.Fits record host port := by
    rw [returns_mapM_iff, ← returns_jobAttributes_iff hj]
    exact forall₂_congr fun e _ => returns_map_iff
  rw [← hm]
  unfold jobAttrsForGroup
  cases requested with
  | none => exact returns_bind_pure_iff (g := id)
  | some set => exact returns_bind_pure_iff

/-! One lemma a builder. -/

theorem builtIf_getPrinterAttributes (hr : record.InRange) (requested : Option NameSet) :
    BuiltIf x version requestId
      (getPrinterAttributes x version requestId record host port requested clock)
      (record.Fits host port) := by
  refine ⟨_, rfl, fun r => ?_, fun r => ?_, fun r resp h => ?_⟩
  · exact (sound_addAll (sound_printerAttributes record host port clock) r).bind_pure
  · rw [← returns_printerAttributes_iff hr, returns_bind_pure_iff]
    exact returns_addAll_iff
  · obtain ⟨r', hr', h'⟩ := bind_ok h
    cases h'
    obtain ⟨hs, hi⟩ := filterRequested_header r' requested
    rw [hs, hi]
    exact addAll_header hr'

theorem builtIf_printJobAccepted :
    BuiltIf x version requestId
      (printJobAccepted x version requestId j (printerUri record host port))
      (record.JobUriFits host port j.id) := by
  refine ⟨_, rfl, fun r => ?_, fun r => ?_, fun r resp h => ?_⟩
  · exact sound_addAll (by simp [uri, int, sound_keywords]) r
  · simp only [returns_addAll_iff, List.forall_mem_cons, List.not_mem_nil, returns_uri_iff,
      returns_int, returns_ok, returns_keywords_iff, iff_true_intro (jobStateReasonKeywords_fit j),
      jobUri_octets, IsEmpty.forall_iff, implies_true, and_true]
    exact Iff.rfl
  · exact addAll_header h

theorem builtIf_buildJobAttrsResponse (hj : j.InRange) (requested : Option NameSet) :
    BuiltIf x version requestId
      (buildJobAttrsResponse x version requestId j (printerUri record host port) requested clock)
      (j.Fits record host port) := by
  refine ⟨_, rfl, fun r => ?_, fun r => ?_, fun r resp h => ?_⟩
  · exact (sound_jobAttrsForGroup j _ requested clock).bind_pure
  · rw [returns_bind_pure_iff]
    exact returns_jobAttrsForGroup_iff hj requested
  · obtain ⟨attrs, _, h'⟩ := bind_ok h
    cases h'
    exact ⟨foldl_add_status _ attrs r, foldl_add_requestId _ attrs r⟩

theorem builtIf_buildGetJobsResponse {jobs : List JobRecord} (hj : ∀ j ∈ jobs, j.InRange)
    (requested : Option NameSet) :
    BuiltIf x version requestId
      (buildGetJobsResponse x version requestId jobs (printerUri record host port) requested clock)
      (∀ j ∈ jobs, j.Fits record host port) := by
  refine ⟨_, rfl, fun r => ?_, fun r => ?_, fun r resp h => ?_⟩
  · exact (sound_mapM fun j _ => (sound_jobAttrsForGroup j _ requested clock).map).bind_pure
  · rw [returns_bind_pure_iff, returns_mapM_iff]
    exact forall₂_congr fun j hm =>
      returns_map_iff.trans (returns_jobAttrsForGroup_iff (hj j hm) requested)
  · obtain ⟨groups, _, h'⟩ := bind_ok h
    cases h'
    exact ⟨rfl, rfl⟩

theorem Answer.builtIf (a : Answer) (hr : record.InRange) (hj : ∀ j ∈ a.jobRecords, j.InRange) :
    BuiltIf x version requestId (a.build x version requestId record host port clock)
      (a.Fits record host port) := by
  cases a with
  | printerAttributes requested => exact builtIf_getPrinterAttributes hr requested
  | validateJob => exact builtIf_getPrinterAttributes hr none
  | accepted job => exact builtIf_printJobAccepted
  | jobs js requested => exact builtIf_buildGetJobsResponse hj requested
  | jobAttributes job requested =>
      exact builtIf_buildJobAttrsResponse (hj job (List.mem_singleton_self job)) requested

/-- **Building an answer does not panic if and only if its strings fit**, or the crate refuses to
    make the header in the first place. -/
theorem answer_panics_iff (a : Answer) (hr : record.InRange)
    (hj : ∀ j ∈ a.jobRecords, j.InRange) :
    ¬ Panics (a.build x version requestId record host port clock) ↔
      ∀ r, x.newResponse version .successfulOk requestId = .ok r → a.Fits record host port :=
  (a.builtIf hr hj).not_panics_iff

end Answers

instance {α : Type} (e : Except Fault α) : Decidable (Panics e) :=
  match e with
  | .ok _ => .isFalse fun ⟨_, h⟩ => (by cases h)
  | .error (.panic what) => .isTrue ⟨what, rfl⟩
  | .error (.error _) => .isFalse fun ⟨_, h⟩ => (by cases h)

namespace Trial

/-- A message of 1024 octets. -/
def longMessage : String := String.ofList (List.replicate 1024 'x')

/-- The first job of a printer, its print failed. -/
def failedJob (message : String) : JobRecord :=
  (JobRegistry.new.create clock.now "p" "ann").1.withFailure clock.now .MEDIA_JAM message

theorem failedJob_inRange (message : String) : (failedJob message).InRange :=
  show (1 : Nat) < 2 ^ 32 by decide

def printer : PrinterRecord := .new (config "p") "uuid-p"

end Trial

theorem answer_panics_iff_shortMessage :
    ¬ Panics ((Answer.jobs [Trial.failedJob "jam"] none).build Trial.crate 0x0200 7 Trial.printer
      "localhost" 8631 Trial.clock) :=
  (answer_panics_iff (.jobs [Trial.failedJob "jam"] none)
    ⟨by decide, by decide, by decide⟩
    (List.forall_mem_singleton.mpr (Trial.failedJob_inRange "jam"))).mpr fun _ _ =>
      List.forall_mem_singleton.mpr (by decide +kernel)

/-- Get-Jobs after a print failed with a long message. -/
theorem failure_message_panics :
    ¬ ∀ (x : IppCrate) (version : IppVersion) (requestId : Nat) (record : PrinterRecord)
        (host : String) (port : Nat) (clock : Clock) (a : Answer), record.InRange →
        (∀ j ∈ a.jobRecords, j.InRange) →
        ¬ Panics (a.build x version requestId record host port clock) := by
  intro h
  refine h Trial.crate 0x0200 7 Trial.printer "localhost" 8631 Trial.clock
    (.jobs [Trial.failedJob Trial.longMessage] none) ⟨by decide, by decide, by decide⟩
    (List.forall_mem_singleton.mpr (Trial.failedJob_inRange _)) ?_
  decide +kernel

end IppPrinterApp
