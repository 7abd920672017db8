/-
  File:      IppPrinterApp/Replies.lean
  Subject:   Reading responses: what a built one carries, and when one is built.

  A response is built attribute by attribute (`addAll`), and each value is converted on the way.

  * `IppResponse.valueOf` -- the value of an attribute as a client reads it;
    `addAll_valueOf` -- what is added under a name is what is read under it;
  * `returns_keywords_iff`, `returns_addAll_iff`, … -- a conversion returns exactly when its text
    is within the bound of its type, a response when all of its attributes do;
  * `printJobAccepted_carries` -- the job-id and the job-uri in the reply to a creation.
-/
import IppPrinterApp.Attributes
import IppPrinterApp.Lib.Fallible

namespace IppPrinterApp

open FirstMatch Fallible

/-! ## 1. Attributes of a response -/

/-- The value of an attribute in the first group with a delimiter. -/
def IppResponse.valueOf (r : IppResponse) (tag : DelimiterTag) (name : String) :
    Option IppValue :=
  (r.groups.find? fun g => g.tag == tag).bind fun g => g.attributes.get? name

/-- **What is added is what is read**, and nothing else of the group changes. -/
theorem IppResponse.valueOf_add (r : IppResponse) (tag : DelimiterTag) (a : IppAttribute)
    (name : String) :
    (r.add tag a).valueOf tag name =
      if a.name = name then some a.value else r.valueOf tag name := by
  unfold IppResponse.valueOf IppResponse.add addAttribute
  dsimp only
  by_cases h : r.groups.any (fun g => g.tag == tag) = true
  · -- the first group with the delimiter is the one that is changed
    have hfind := find?_updateFirst (p := fun g : IppAttributeGroup => g.tag == tag)
      (f := fun g => { g with attributes := g.attributes.insert a.name a.value })
      (fun _ => rfl) r.groups
    have hsome : (r.groups.find? fun g => g.tag == tag).isSome = true := by
      rw [List.find?_isSome]
      exact List.any_eq_true.mp h
    obtain ⟨g', hg'⟩ := Option.isSome_iff_exists.mp hsome
    rw [if_pos h, hfind, hg', Option.map_some, Option.bind_some, Option.bind_some,
      AssocMap.get?_insert]
  · have hnone : r.groups.find? (fun g => g.tag == tag) = none := by
      refine List.find?_eq_none.mpr fun g hg hgt => h ?_
      exact List.any_eq_true.mpr ⟨g, hg, hgt⟩
    have hnew : [IppAttributeGroup.mk tag (AssocMap.empty.insert a.name a.value)].find?
        (fun g => g.tag == tag) = some ⟨tag, AssocMap.empty.insert a.name a.value⟩ :=
      List.find?_cons_of_pos (beq_self_eq_true tag)
    rw [if_neg h, List.find?_append, hnone, Option.none_or, hnew]
    exact AssocMap.get?_insert AssocMap.empty a.name a.value name

section AddAll

variable {tag : DelimiterTag}

theorem addAll_cons {r : IppResponse} {e : String × Built} {attrs : List (String × Built)}
    {resp : IppResponse} (h : addAll tag r (e :: attrs) = .ok resp) :
    ∃ v, e.2 = .ok v ∧ addAll tag (r.add tag ⟨e.1, v⟩) attrs = .ok resp := by
  unfold addAll at h
  rw [List.foldlM_cons] at h
  cases hv : e.2 with
  | error f =>
      rw [hv] at h
      cases h
  | ok v =>
      rw [hv] at h
      exact ⟨v, rfl, h⟩

/-- Adding attributes leaves the header alone. -/
theorem addAll_header {attrs : List (String × Built)} {r resp : IppResponse}
    (h : addAll tag r attrs = .ok resp) :
    resp.status = r.status ∧ resp.requestId = r.requestId := by
  induction attrs generalizing r with
  | nil =>
      cases h
      exact ⟨rfl, rfl⟩
  | cons e attrs ih =>
      obtain ⟨v, _, hrest⟩ := addAll_cons h
      have hkept := ih hrest
      exact hkept

/-- **What a response built of attributes with distinct names carries**: each of them under its
    name, and under the other names what it carried before. -/
theorem addAll_valueOf {attrs : List (String × Built)} (hn : (attrs.map Prod.fst).Nodup)
    {r resp : IppResponse} (h : addAll tag r attrs = .ok resp) :
    (∀ e ∈ attrs, ∃ v, e.2 = .ok v ∧ resp.valueOf tag e.1 = some v) ∧
      ∀ name, name ∉ attrs.map Prod.fst → resp.valueOf tag name = r.valueOf tag name := by
  induction attrs generalizing r with
  | nil =>
      cases h
      exact ⟨fun e he => absurd he List.not_mem_nil, fun _ _ => rfl⟩
  | cons e attrs ih =>
      rw [List.map_cons, List.nodup_cons] at hn
      obtain ⟨v, hv, hrest⟩ := addAll_cons h
      obtain ⟨hin, hout⟩ := ih hn.2 hrest
      constructor
      · intro e' he'
        rcases List.mem_cons.mp he' with rfl | he'
        · refine ⟨v, hv, ?_⟩
          rw [hout _ hn.1, IppResponse.valueOf_add, if_pos rfl]
        · exact hin e' he'
      · intro name hname
        rw [List.map_cons, List.mem_cons, not_or] at hname
        rw [hout name hname.2, IppResponse.valueOf_add, if_neg (Ne.symm hname.1)]

theorem returns_addAll_iff {r : IppResponse} {attrs : List (String × Built)} :
    Returns (addAll tag r attrs) ↔ ∀ e ∈ attrs, Returns e.2 := returns_foldlM_iff

end AddAll

theorem foldl_add_requestId (tag : DelimiterTag) (attrs : List IppAttribute) (resp : IppResponse) :
    (attrs.foldl (fun r a => r.add tag a) resp).requestId = resp.requestId := by
  induction attrs generalizing resp with
  | nil => rfl
  | cons a attrs ih => exact ih (resp.add tag a)

theorem filterRequested_header (resp : IppResponse) (requested : Option NameSet) :
    (filterRequested resp requested).status = resp.status ∧
      (filterRequested resp requested).requestId = resp.requestId := by
  unfold filterRequested
  split
  · exact ⟨rfl, rfl⟩
  · split <;> exact ⟨rfl, rfl⟩

/-! ## 2. Conversions -/

/-- **A conversion returns exactly when the text is within the bound.** -/
@[simp] theorem returns_expectInto_iff {max : Nat} {s what : String} :
    Returns (expectInto max s what) ↔ s.utf8ByteSize ≤ max := by
  unfold expectInto
  rw [← tryInto_isSome]
  cases tryInto max s with
  | none => exact ⟨fun h => absurd h (not_returns_error _), fun h => by cases h⟩
  | some b => exact ⟨fun _ => rfl, fun _ => ⟨b, rfl⟩⟩

theorem expectInto_ok {max : Nat} {s what : String} {b : BoundedString max}
    (h : expectInto max s what = .ok b) : b.val = s := by
  unfold expectInto at h
  split at h
  · rename_i b' hb
    cases h
    exact tryInto_val hb
  · cases h

@[simp] theorem returns_kw_iff {s : String} : Returns (kw s) ↔ s.utf8ByteSize ≤ 255 :=
  returns_map_iff.trans returns_expectInto_iff

@[simp] theorem returns_mime_iff {s : String} : Returns (mime s) ↔ s.utf8ByteSize ≤ 255 :=
  returns_map_iff.trans returns_expectInto_iff

@[simp] theorem returns_uri_iff {s : String} : Returns (uri s) ↔ s.utf8ByteSize ≤ 1023 :=
  returns_map_iff.trans returns_expectInto_iff

@[simp] theorem returns_charset_iff {s : String} : Returns (charset s) ↔ s.utf8ByteSize ≤ 63 :=
  returns_map_iff.trans returns_expectInto_iff

@[simp] theorem returns_lang_iff {s : String} : Returns (lang s) ↔ s.utf8ByteSize ≤ 63 :=
  returns_map_iff.trans returns_expectInto_iff

@[simp] theorem returns_text_iff {s : String} : Returns (text s) ↔ s.utf8ByteSize ≤ 1023 :=
  returns_map_iff.trans returns_expectInto_iff

@[simp] theorem returns_nameValue_iff {s : String} :
    Returns (nameValue s) ↔ s.utf8ByteSize ≤ 255 :=
  returns_map_iff.trans returns_expectInto_iff

@[simp] theorem returns_arrayOf_iff {values : List Built} :
    Returns (arrayOf values) ↔ ∀ v ∈ values, Returns v := by
  unfold arrayOf
  rw [returns_map_iff, returns_mapM_iff]
  exact Iff.rfl

@[simp] theorem returns_keywords_iff {items : List String} :
    Returns (keywords items) ↔ ∀ s ∈ items, s.utf8ByteSize ≤ 255 := by
  unfold keywords
  rw [returns_arrayOf_iff, List.forall_mem_map]
  exact forall₂_congr fun s _ => returns_kw_iff

@[simp] theorem returns_int (n : Int) : Returns (int n) := returns_ok _

@[simp] theorem returns_enums (codes : List Int) : Returns (enums codes) := returns_ok _

/-- The owner's name has a fallback. -/
@[simp] theorem returns_ownerValue (owner : String) : Returns (ownerValue owner) := by
  unfold ownerValue
  split
  · exact returns_ok _
  · exact returns_nameValue_iff.mpr (by decide)

/-! ## 3. Job-ids and job-uris -/

/-- The `job-id` of a job on the wire: `job.id as i32`. -/
def JobRecord.wireId (j : JobRecord) : Int := asI32 j.id

/-- The attributes a job can have, in the order they are added. -/
def jobAttributeNames : List String :=
  ["job-uri", "job-id", "job-printer-uri", "job-name", "job-state", "job-originating-user-name",
    "time-at-creation", "job-state-reasons", "job-state-message", "time-at-processing",
    "job-printer-up-time", "time-at-completed"]

theorem jobAttributes_names (j : JobRecord) (printerUriStr : String) (clock : Clock) :
    ((jobAttributes j printerUriStr clock).map Prod.fst).Sublist jobAttributeNames := by
  unfold jobAttributes
  rw [List.map_append, List.map_append, List.map_append]
  have hmessage : ((if j.message.isEmpty then [] else [("job-state-message", text j.message)] :
      List (String × Built)).map Prod.fst).Sublist ["job-state-message"] := by
    split
    · exact List.nil_sublist _
    · exact List.Sublist.refl _
  refine (((List.Sublist.refl _).append hmessage).append (List.Sublist.refl _)).append ?_
  cases j.completedSecs with
  | none => exact List.nil_sublist _
  | some s => exact List.Sublist.refl _

/-- No attribute of a job is built twice. -/
theorem jobAttributes_nodup (j : JobRecord) (printerUriStr : String) (clock : Clock) :
    ((jobAttributes j printerUriStr clock).map Prod.fst).Nodup :=
  List.Nodup.sublist (jobAttributes_names j printerUriStr clock) (by decide)

theorem mem_jobAttributes_jobUri (j : JobRecord) (printerUriStr : String) (clock : Clock) :
    ("job-uri", uri (jobUri j printerUriStr)) ∈ jobAttributes j printerUriStr clock :=
  List.mem_append_left _ (List.mem_append_left _ (List.mem_append_left _ (.head _)))

theorem mem_jobAttributes_jobId (j : JobRecord) (printerUriStr : String) (clock : Clock) :
    ("job-id", int j.wireId) ∈ jobAttributes j printerUriStr clock :=
  List.mem_append_left _ (List.mem_append_left _ (List.mem_append_left _ (.tail _ (.head _))))

/-- What a reply carries of the identity of a job: its `job-id` and its `job-uri`. -/
structure Carries (read : String → Option IppValue) (j : JobRecord) (printerUriStr : String) :
    Prop where
  jobId : read "job-id" = some (.integer j.wireId)
  jobUri : ∃ b : BoundedString 1023, b.val = jobUri j printerUriStr ∧
    read "job-uri" = some (.uri b)

/-- A `uri` value that is there, read back. -/
theorem uri_ok {s : String} {v : IppValue} (h : uri s = .ok v) :
    ∃ b : BoundedString 1023, b.val = s ∧ v = .uri b := by
  unfold uri at h
  cases hb : expectInto 1023 s "uri" with
  | error f =>
      rw [hb] at h
      cases h
  | ok b =>
      rw [hb] at h
      cases h
      exact ⟨b, expectInto_ok hb, rfl⟩

/-- A bounded string is converted to itself. -/
theorem uri_val (b : BoundedString 1023) : uri b.val = .ok (.uri b) := by
  unfold uri expectInto tryInto
  rw [dif_pos b.le]
  rfl

/-- **The reply to a creation carries the job's id and uri.** -/
theorem printJobAccepted_carries {x : IppCrate} {version : IppVersion} {requestId : Nat}
    {j : JobRecord} {printerUriStr : String} {resp : IppResponse}
    (h : printJobAccepted x version requestId j printerUriStr = .ok resp) :
    Carries (resp.valueOf .jobAttributes) j printerUriStr := by
  unfold printJobAccepted at h
  cases hnew : newResponse x version .successfulOk requestId with
  | error f =>
      rw [hnew] at h
      cases h
  | ok r =>
      rw [hnew] at h
      obtain ⟨hin, _⟩ := addAll_valueOf (by simp) h
      obtain ⟨u, hu, hattr⟩ := hin ("job-uri", uri (jobUri j printerUriStr)) (by simp)
      obtain ⟨b, hb, rfl⟩ := uri_ok hu
      obtain ⟨n, hid, hattr'⟩ := hin ("job-id", int (asI32 j.id)) (by simp)
      cases hid
      exact ⟨hattr', b, hb, hattr⟩

end IppPrinterApp
