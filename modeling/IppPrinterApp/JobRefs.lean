/-
  File:      IppPrinterApp/JobRefs.lean
  Subject:   How a job is named in replies, and how a request names it (server.rs, attributes.rs).

  A reply names a job by its `job-id`, an `i32`, and by its `job-uri`, which ends in the id in
  decimal; a request names it by either. `extract_job_id` takes the first of the two it comes to,
  and within a group that is the order of a hash map.

  * `extractJobId_eq` -- the search is a first hit among what the attributes say (`jobRef`);
  * `uriJobId_jobUri` -- a job's URI ends in its id, for every `u32`;
  * `job_refs_come_back`: **a request that brings back the id or the URI of a job means the job**;
  * `job_selected_iff`: **the job selected is the same in every order of the attributes exactly if
    the references agree**; `job_selected_by_order` is a request that names two jobs.
-/
import IppPrinterApp.Listing
import IppPrinterApp.MediaCollections
import IppPrinterApp.Lib.AnyOrder
import IppPrinterApp.Lib.Decimal

namespace IppPrinterApp

open AnyOrder Decimal Fallible

/-! ## 1. Reading a reference -/

/-- The number of an integer value. -/
def IppValue.toInteger : IppValue → Option Int
  | .integer n => some n
  | _ => none

/-- The text of a URI value. -/
def IppValue.toUri : IppValue → Option String
  | .uri s => some s.val
  | _ => none

/-- The id at the end of a job's URI. -/
def uriJobId (s : String) : Option JobId := parseUnsigned (2 ^ 32) (lastSegment s)

/-- What an attribute says of a job: nothing, or its id, if the text has one. -/
def jobRef (a : IppAttribute) : Option (Option JobId) :=
  if a.name = "job-id" then a.value.toInteger.map fun n => some (asU32 n)
  else if a.name = "job-uri" then a.value.toUri.map uriJobId
  else none

/-- **A job is found as the first reference**, group by group. -/
theorem extractJobId_eq (req : IppRequest) :
    extractJobId req = (firstHit jobRef (req.groups.map (·.values))).join := by
  unfold extractJobId firstAttr firstHit
  rw [List.findSome?_map]
  congr 2
  funext g
  dsimp only [Function.comp]
  congr 1
  funext a
  obtain ⟨name, value⟩ := a
  unfold jobRef
  dsimp only
  split
  · rfl
  · rfl
  · rename_i hid huri
    by_cases h : name = "job-id"
    · rw [if_pos h]
      cases value with
      | integer n => exact absurd rfl (hid n h)
      | _ => rfl
    · rw [if_neg h]
      by_cases h' : name = "job-uri"
      · rw [if_pos h']
        cases value with
        | uri s => exact absurd rfl (huri s h')
        | _ => rfl
      · rw [if_neg h']

/-! ## 2. Ids in decimal -/

/-- Digits are parsed to the number they are, if it is below the bound. -/
theorem parseDigits_eq {bound : Nat} {cs : List Char} (hd : ∀ c ∈ cs, c.isDigit = true) {acc : Nat}
    (h : Nat.ofDigitChars 10 cs acc < bound) :
    parseDigits bound cs acc = some (Nat.ofDigitChars 10 cs acc) := by
  induction cs generalizing acc with
  | nil => rfl
  | cons c cs ih =>
      have hacc : acc * 10 + (c.toNat - 48) = 10 * acc + (c.toNat - '0'.toNat) := by
        rw [Nat.mul_comm]
        rfl
      rw [Nat.ofDigitChars_cons, ← hacc] at h ⊢
      have hlt : acc * 10 + (c.toNat - 48) < bound := Nat.lt_of_le_of_lt (le_ofDigitChars cs _) h
      unfold parseDigits
      rw [if_pos (hd c List.mem_cons_self)]
      dsimp only
      rw [if_pos hlt]
      exact ih (fun d hd' => hd d (List.mem_cons_of_mem c hd')) h

/-- **A printed number is parsed.** -/
theorem parseUnsigned_toString {bound n : Nat} (h : n < bound) :
    parseUnsigned bound (toString n) = some n := by
  have hd : ∀ c ∈ n.repr.toList, c.isDigit = true := fun c hc => isDigit_of_mem_repr hc
  have hval : Nat.ofDigitChars 10 n.repr.toList 0 = n := by
    rw [Nat.toList_repr, Nat.ofDigitChars_ten_toDigits]
  have hlt : Nat.ofDigitChars 10 n.repr.toList 0 < bound := by
    rw [hval]
    exact h
  have hparsed := parseDigits_eq hd hlt
  rw [hval] at hparsed
  have hplus : '+' ∉ n.repr.toList := fun hm => absurd (hd '+' hm) (by decide)
  unfold parseUnsigned
  split
  · exact absurd ‹_› (repr_toList_ne_nil n)
  · rename_i e
    exact absurd (show '+' ∈ n.repr.toList from e ▸ List.mem_cons_self) hplus
  · rename_i cs e
    exact absurd (show '+' ∈ n.repr.toList from e ▸ List.mem_cons_self) hplus
  · exact hparsed

theorem lastSegment_append (start : String) {rest : String} (h : '/' ∉ rest.toList) :
    lastSegment (start ++ "/" ++ rest) = rest := by
  have hpieces : (start ++ "/" ++ rest).toList = start.toList ++ '/' :: rest.toList := by
    rw [String.toList_append, String.toList_append, List.append_assoc]
    rfl
  have hlast : lastSegment (start ++ "/" ++ rest) =
      String.ofList (afterLast '/' (start ++ "/" ++ rest).toList) := rfl
  rw [hlast, hpieces, afterLast_append _ h, String.ofList_toList]

/-- **A job's URI ends in its id**, whatever is before it. -/
theorem uriJobId_jobUri {j : JobRecord} (h : j.InRange) (printerUriStr : String) :
    uriJobId (jobUri j printerUriStr) = some j.id := by
  have hsplit : jobUri j printerUriStr = printerUriStr ++ "/job" ++ "/" ++ toString j.id := by
    have hassoc : printerUriStr ++ "/job" ++ "/" = printerUriStr ++ "/job/" := by
      rw [String.append_assoc]
      rfl
    rw [hassoc]
    rfl
  have hslash : '/' ∉ (toString j.id).toList := fun hm =>
    absurd (isDigit_of_mem_repr hm) (by decide)
  unfold uriJobId
  rw [hsplit, lastSegment_append _ hslash, parseUnsigned_toString h]

/-! ## 3. References that come back -/

/-- A request that names a job by one attribute only, wherever it is. -/
def IppRequest.RefersOnlyBy (req : IppRequest) (a : IppAttribute) : Prop :=
  (∃ g ∈ req.groups, a ∈ g.values) ∧
    ∀ g ∈ req.groups, ∀ b ∈ g.values, b.name = "job-id" ∨ b.name = "job-uri" → b = a

/-- What is no `job-id` and no `job-uri` says nothing of a job. -/
theorem jobRef_name {a : IppAttribute} {x : Option JobId} (h : jobRef a = some x) :
    a.name = "job-id" ∨ a.name = "job-uri" := by
  unfold jobRef at h
  split at h
  · exact .inl ‹_›
  · split at h
    · exact .inr ‹_›
    · cases h

/-- **The only reference decides.** -/
theorem extractJobId_of_only {req : IppRequest} {a : IppAttribute} {x : Option JobId}
    (h : req.RefersOnlyBy a) (hx : jobRef a = some x) : extractJobId req = x := by
  obtain ⟨⟨g, hg, ha⟩, honly⟩ := h
  have hhit : firstHit jobRef (req.groups.map (·.values)) = some x := by
    refine firstHit_of_only ⟨g.values, List.mem_map_of_mem hg, a, ha, hx⟩ ?_
    intro l hl b hb y hy
    obtain ⟨g', hg', rfl⟩ := List.mem_map.mp hl
    rw [honly g' hg' b hb (jobRef_name hy), hx] at hy
    exact (Option.some.inj hy).symm
  rw [extractJobId_eq, hhit]
  rfl

/-- **An attribute that names the job**: its URI is the printer's followed by `/job/<id>`, and a
    request that brings it back means the job. -/
structure JobRecord.NamedBy (j : JobRecord) (printerUriStr : String) (a : IppAttribute) : Prop where
  jobUri : a.name = "job-uri" →
    ∃ b : BoundedString 1023, a.value = .uri b ∧ b.val = printerUriStr ++ "/job/" ++ toString j.id
  comesBack : ∀ req : IppRequest, req.RefersOnlyBy a → extractJobId req = some j.id

section Named

variable {j : JobRecord} {printerUriStr : String}

theorem namedBy_jobId (h : j.InRange) : j.NamedBy printerUriStr ⟨"job-id", .integer j.wireId⟩ := by
  refine ⟨fun e => absurd (show "job-id" = "job-uri" from e) (by decide), fun req honly => ?_⟩
  have href : jobRef ⟨"job-id", .integer j.wireId⟩ = some (some (asU32 j.wireId)) := rfl
  rw [extractJobId_of_only honly href, JobRecord.wireId, asU32_asI32 h]

theorem namedBy_jobUri (h : j.InRange) {b : BoundedString 1023}
    (hb : b.val = jobUri j printerUriStr) : j.NamedBy printerUriStr ⟨"job-uri", .uri b⟩ := by
  refine ⟨fun _ => ⟨b, rfl, hb⟩, fun req honly => ?_⟩
  have href : jobRef ⟨"job-uri", .uri b⟩ = some (uriJobId b.val) := rfl
  rw [extractJobId_of_only honly href, hb, uriJobId_jobUri h]

/-- The two attributes of a reply, if it carries them. -/
theorem namedBy_of_carries (h : j.InRange) {read : String → Option IppValue}
    (hc : Carries read j printerUriStr) {name : String} (hn : name = "job-uri" ∨ name = "job-id") :
    ∃ v, read name = some v ∧ j.NamedBy printerUriStr ⟨name, v⟩ := by
  rcases hn with rfl | rfl
  · obtain ⟨b, hb, hread⟩ := hc.jobUri
    exact ⟨.uri b, hread, namedBy_jobUri h hb⟩
  · exact ⟨_, hc.jobId, namedBy_jobId h⟩

/-- An attribute of a listing, if it is one of the two. -/
theorem namedBy_of_mem (h : j.InRange) {clock : Clock} {name : String} {v : IppValue}
    (hm : (name, .ok v) ∈ jobAttributes j printerUriStr clock)
    (hn : name = "job-uri" ∨ name = "job-id") : j.NamedBy printerUriStr ⟨name, v⟩ := by
  have hone : ∀ built, (name, built) ∈ jobAttributes j printerUriStr clock → built = .ok v :=
    fun built hb => congrArg Prod.snd
      (List.inj_on_of_nodup_map (jobAttributes_nodup j printerUriStr clock) hb hm rfl)
  rcases hn with rfl | rfl
  · obtain ⟨b, hb, rfl⟩ := uri_ok (hone _ (mem_jobAttributes_jobUri j printerUriStr clock))
    exact namedBy_jobUri h hb
  · have hid := hone _ (mem_jobAttributes_jobId j printerUriStr clock)
    cases hid
    exact namedBy_jobId h

/-- The two attributes are in every listing that is asked for them. -/
theorem exists_mem_of_wanted {clock : Clock} {requested : Option NameSet}
    {attrs : List IppAttribute} (h : jobAttrsForGroup j printerUriStr requested clock = .ok attrs)
    {name : String} (hn : name = "job-uri" ∨ name = "job-id")
    (hw : wanted requested name = true) : ∃ v, ⟨name, v⟩ ∈ attrs := by
  obtain ⟨out, hall, rfl⟩ := jobAttrsForGroup_ok h
  have hbuilt : ∃ built, (name, built) ∈ jobAttributes j printerUriStr clock := by
    rcases hn with rfl | rfl
    · exact ⟨_, mem_jobAttributes_jobUri j printerUriStr clock⟩
    · exact ⟨_, mem_jobAttributes_jobId j printerUriStr clock⟩
  obtain ⟨built, hb⟩ := hbuilt
  rw [hall] at hb
  obtain ⟨a, ha, e⟩ := List.mem_map.mp hb
  cases e
  exact ⟨a.value, List.mem_filter.mpr ⟨ha, hw⟩⟩

/-- What is in a listing is an attribute of the job. -/
theorem mem_jobAttributes_of_mem {clock : Clock} {requested : Option NameSet}
    {attrs : List IppAttribute} (h : jobAttrsForGroup j printerUriStr requested clock = .ok attrs)
    {a : IppAttribute} (ha : a ∈ attrs) :
    (a.name, .ok a.value) ∈ jobAttributes j printerUriStr clock := by
  obtain ⟨out, hall, rfl⟩ := jobAttrsForGroup_ok h
  rw [hall]
  exact List.mem_map_of_mem (List.mem_of_mem_filter ha)

end Named

/-- **A job is found under the id and under the URI it was given**: `print_job_accepted` and
    `job_attrs_for_group` send, as `job-uri`, the `printer-uri-supported` of the same record
    followed by `/job/<id>`, and a request that brings back that URI, or the `job-id` sent, means
    this job. -/
theorem job_refs_come_back {record : PrinterRecord} {host : String} {port : Nat} {j : JobRecord}
    (hj : j.InRange) :
    (∀ (x : IppCrate) (version : IppVersion) (requestId : Nat) (clock : Clock)
      (resp : IppResponse), x.StartsWithoutPrinter →
      getPrinterAttributes x version requestId record host port none clock = .ok resp →
      ∃ b : BoundedString 1023, b.val = printerUri record host port ∧
        resp.valueOf .printerAttributes "printer-uri-supported" = some (.uri b)) ∧
    (∀ (x : IppCrate) (version : IppVersion) (requestId : Nat) (resp : IppResponse),
      printJobAccepted x version requestId j (record.config.printerUri host port) = .ok resp →
      ∀ name, name = "job-uri" ∨ name = "job-id" →
        ∃ v, resp.valueOf .jobAttributes name = some v ∧
          j.NamedBy (printerUri record host port) ⟨name, v⟩) ∧
    (∀ (requested : Option NameSet) (clock : Clock) (attrs : List IppAttribute),
      jobAttrsForGroup j (record.config.printerUri host port) requested clock = .ok attrs →
      ∀ name, name = "job-uri" ∨ name = "job-id" →
        (wanted requested name = true → ∃ v, ⟨name, v⟩ ∈ attrs) ∧
          ∀ v, ⟨name, v⟩ ∈ attrs → j.NamedBy (printerUri record host port) ⟨name, v⟩) := by
  rw [printerUri_eq]
  refine ⟨fun x version requestId clock resp hx h => ?_, fun x version requestId resp h name hn => ?_,
    fun requested clock attrs h name hn => ⟨exists_mem_of_wanted h hn, fun v hm => ?_⟩⟩
  · have hmem : ("printer-uri-supported", uri (printerUri record host port)) ∈
        printerAttributes record host port clock :=
      mem_printerAttributes.mpr (Or.inl List.mem_cons_self)
    obtain ⟨v, hv, hread⟩ := (getPrinterAttributes_valueOf hx h).1 _ hmem
    obtain ⟨b, hb, rfl⟩ := uri_ok hv
    exact ⟨b, hb, hread⟩
  · exact namedBy_of_carries hj (printJobAccepted_carries h) hn
  · exact namedBy_of_mem hj (mem_jobAttributes_of_mem h hm) hn

namespace Trial

/-- A job whose `job-id` is negative on the wire. -/
def lateJob : JobRecord := { failedJob "" with id := 4000000000 }

/-- Cancel-Job, naming a job by these attributes. -/
def cancelBy (refs : List (String × IppValue)) : IppRequest := (Message.mk 0x0008 refs []).request

theorem cancelBy_refersOnly (n : Int) : (cancelBy [jobId n]).RefersOnlyBy ⟨"job-id", .integer n⟩ := by
  refine ⟨⟨_, List.mem_singleton_self _, ?_⟩, fun g hg b hb hn => ?_⟩
  · exact .tail _ (.tail _ (.tail _ (.head _)))
  · rw [List.mem_singleton.mp hg] at hb
    rcases hb with _ | ⟨_, _ | ⟨_, _ | ⟨_, _ | ⟨_, hb⟩⟩⟩⟩
    · exact absurd hn (by decide)
    · exact absurd hn (by decide)
    · exact absurd hn (by decide)
    · rfl
    · cases hb

end Trial

/-- The job 4000000000. -/
theorem job_refs_come_back_late :
    (∃ resp, printJobAccepted Trial.crate 0x0200 7 Trial.lateJob
        (Trial.printer.config.printerUri "localhost" 8631) = .ok resp ∧
      ∃ v, resp.valueOf .jobAttributes "job-uri" = some v ∧
        Trial.lateJob.NamedBy (printerUri Trial.printer "localhost" 8631) ⟨"job-uri", v⟩) ∧
    extractJobId (Trial.cancelBy [Trial.jobId (-294967296)]) = some 4000000000 := by
  obtain ⟨_, haccepted, _⟩ := @job_refs_come_back Trial.printer "localhost" 8631 Trial.lateJob
    (show (4000000000 : Nat) < 2 ^ 32 by decide)
  have hbuilt : BuiltIf Trial.crate 0x0200 7
      (printJobAccepted Trial.crate 0x0200 7 Trial.lateJob (printerUri Trial.printer "localhost" 8631))
      (Trial.printer.JobUriFits "localhost" 8631 Trial.lateJob.id) := builtIf_printJobAccepted
  rcases hbuilt.cases Trial.crate_buildsResponses with ⟨_, resp, h, _⟩ | ⟨hno, _⟩
  · obtain ⟨u, hu, huri⟩ := haccepted _ _ _ resp h "job-uri" (.inl rfl)
    obtain ⟨v, hv, hid⟩ := haccepted _ _ _ resp h "job-id" (.inr rfl)
    refine ⟨⟨resp, h, u, hu, huri⟩, hid.comesBack _ ?_⟩
    have hval : v = .integer Trial.lateJob.wireId :=
      Option.some.inj (hv.symm.trans (printJobAccepted_carries h).jobId)
    have hwire : Trial.lateJob.wireId = -294967296 := by decide +kernel
    rw [hval, hwire]
    exact Trial.cancelBy_refersOnly (-294967296)
  · exact absurd (show Trial.printer.JobUriFits "localhost" 8631 4000000000 by decide +kernel) hno

/-! ## 4. References in any order -/

/-- The same groups, each with its attributes in some order. -/
def SameGroups (groups groups' : List IppAttributeGroup) : Prop :=
  List.Forall₂ (fun g g' => g.tag = g'.tag ∧ g.attributes.entries.Perm g'.attributes.entries)
    groups groups'

/-- The group has a `job-id` that is an integer, or a `job-uri` that is a URI. -/
def IppAttributeGroup.NamesJob (g : IppAttributeGroup) : Prop :=
  (∃ n, g.attributes.get? "job-id" = some (.integer n)) ∨
    ∃ s, g.attributes.get? "job-uri" = some (.uri s)

/-- **The references agree**: if the first group that names a job does so in both ways, the number
    at the end of its `job-uri` is its `job-id`. -/
def IppRequest.RefsAgree (req : IppRequest) : Prop :=
  ∀ before g after, req.groups = before ++ g :: after → (∀ k ∈ before, ¬ k.NamesJob) →
    ∀ n (s : BoundedString 1023), g.attributes.get? "job-id" = some (.integer n) →
      g.attributes.get? "job-uri" = some (.uri s) → uriJobId s.val = some (asU32 n)

section Orders

variable {g : IppAttributeGroup}

theorem mem_groupValues_iff {name : String} {v : IppValue} :
    ⟨name, v⟩ ∈ g.values ↔ g.attributes.get? name = some v := by
  have hget : g.attributes.get? name = some v ↔ (name, v) ∈ g.attributes.entries :=
    AssocMap.lookupIn_eq_some_iff g.attributes.nodup
  rw [hget]
  unfold IppAttributeGroup.values
  rw [List.mem_map]
  constructor
  · rintro ⟨e, he, h⟩
    cases h
    exact he
  · exact fun h => ⟨_, h, rfl⟩

theorem jobRef_eq_some_iff {a : IppAttribute} {x : Option JobId} :
    jobRef a = some x ↔ (∃ n, a = ⟨"job-id", .integer n⟩ ∧ x = some (asU32 n)) ∨
      ∃ s, a = ⟨"job-uri", .uri s⟩ ∧ x = uriJobId s.val := by
  constructor
  · intro h
    obtain ⟨name, value⟩ := a
    rcases jobRef_name h with rfl | rfl
    · cases value with
      | integer n => exact .inl ⟨n, rfl, (Option.some.inj h).symm⟩
      | _ => cases h
    · cases value with
      | uri s => exact .inr ⟨s, rfl, (Option.some.inj h).symm⟩
      | _ => cases h
  · rintro (⟨n, rfl, rfl⟩ | ⟨s, rfl, rfl⟩)
    · rfl
    · rfl

/-- A group without a reference. -/
theorem no_jobRef_iff : (∀ a ∈ g.values, jobRef a = none) ↔ ¬ g.NamesJob := by
  constructor
  · rintro h (⟨n, hn⟩ | ⟨s, hs⟩)
    · have hnone := h _ (mem_groupValues_iff.mpr hn)
      cases hnone
    · have hnone := h _ (mem_groupValues_iff.mpr hs)
      cases hnone
  · intro h a ha
    rw [Option.eq_none_iff_forall_ne_some]
    intro x hx
    rcases jobRef_eq_some_iff.mp hx with ⟨n, rfl, _⟩ | ⟨s, rfl, _⟩
    · exact h (.inl ⟨n, mem_groupValues_iff.mp ha⟩)
    · exact h (.inr ⟨s, mem_groupValues_iff.mp ha⟩)

/-- **The references of a group agree** if it has one only, or its two name the same job. -/
theorem agree_values_iff : Agree jobRef g.values ↔
    ∀ n (s : BoundedString 1023), g.attributes.get? "job-id" = some (.integer n) →
      g.attributes.get? "job-uri" = some (.uri s) → uriJobId s.val = some (asU32 n) := by
  constructor
  · intro h n s hn hs
    exact (h _ (mem_groupValues_iff.mpr hn) _ (mem_groupValues_iff.mpr hs) (some (asU32 n))
      (uriJobId s.val) rfl rfl).symm
  · intro h a ha b hb x y hx hy
    rcases jobRef_eq_some_iff.mp hx with ⟨n, rfl, rfl⟩ | ⟨s, rfl, rfl⟩
    · rw [mem_groupValues_iff] at ha
      rcases jobRef_eq_some_iff.mp hy with ⟨m, rfl, rfl⟩ | ⟨t, rfl, rfl⟩
      · rw [mem_groupValues_iff, ha] at hb
        cases hb
        rfl
      · exact (h n t ha (mem_groupValues_iff.mp hb)).symm
    · rw [mem_groupValues_iff] at ha
      rcases jobRef_eq_some_iff.mp hy with ⟨m, rfl, rfl⟩ | ⟨t, rfl, rfl⟩
      · exact h m s (mem_groupValues_iff.mp hb) ha
      · rw [mem_groupValues_iff, ha] at hb
        cases hb
        rfl

/-- The search for the references is decided exactly if they agree. -/
theorem decided_iff {req : IppRequest} :
    Decided jobRef (req.groups.map (·.values)) ↔ req.RefsAgree := by
  constructor
  · intro h before g after hg hbefore
    refine agree_values_iff.mp (h (before.map (·.values)) g.values (after.map (·.values)) ?_ ?_)
    · rw [hg, List.map_append, List.map_cons]
    · rw [List.forall_mem_map]
      exact fun k hk => no_jobRef_iff.mpr (hbefore k hk)
  · intro h before l after hl hbefore
    obtain ⟨before', rest, hsplit, rfl, hrest⟩ := List.map_eq_append_iff.mp hl
    obtain ⟨g, after', rfl, rfl, rfl⟩ := List.map_eq_cons_iff.mp hrest
    rw [List.forall_mem_map] at hbefore
    refine agree_values_iff.mpr (h before' g after' hsplit fun k hk => ?_)
    exact no_jobRef_iff.mp (hbefore k hk)

theorem reordered_of_sameGroups {groups groups' : List IppAttributeGroup}
    (h : SameGroups groups groups') :
    Reordered (groups.map (·.values)) (groups'.map (·.values)) := by
  unfold Reordered
  rw [List.forall₂_map_left_iff, List.forall₂_map_right_iff]
  exact h.imp fun g g' hg => hg.2.map _

/-- Every order of the attributes is one of the groups. -/
theorem exists_sameGroups {groups : List IppAttributeGroup} {ls : List (List IppAttribute)}
    (h : Reordered (groups.map (·.values)) ls) :
    ∃ groups', SameGroups groups groups' ∧ groups'.map (·.values) = ls := by
  induction groups generalizing ls with
  | nil =>
      cases h
      exact ⟨[], .nil, rfl⟩
  | cons g groups ih =>
      cases h with
      | @cons _ l _ ls hp hrest =>
          obtain ⟨groups', hsame, rfl⟩ := ih hrest
          have hentries : g.attributes.entries.Perm (l.map fun a => (a.name, a.value)) := by
            have h := hp.map fun a => (a.name, a.value)
            unfold IppAttributeGroup.values at h
            rw [List.map_map] at h
            exact (List.map_id g.attributes.entries) ▸ h
          have hnodup := (hentries.map Prod.fst).nodup g.attributes.nodup
          refine ⟨⟨g.tag, ⟨_, hnodup⟩⟩ :: groups', .cons ⟨rfl, hentries⟩ hsame, ?_⟩
          rw [List.map_cons]
          congr 1
          unfold IppAttributeGroup.values
          rw [List.map_map]
          exact List.map_id l

end Orders

/-- **A job is selected whatever the order exactly if the references agree**: all orders of the
    attributes in a request's groups give the same job. -/
theorem job_selected_iff (req : IppRequest) :
    (∀ groups₁ groups₂, SameGroups req.groups groups₁ → SameGroups req.groups groups₂ →
      extractJobId { req with groups := groups₁ } = extractJobId { req with groups := groups₂ }) ↔
    req.RefsAgree := by
  rw [← decided_iff, ← firstHit_eq_iff]
  constructor
  · intro h ls₁ ls₂ h₁ h₂
    obtain ⟨groups₁, hs₁, rfl⟩ := exists_sameGroups h₁
    obtain ⟨groups₂, hs₂, rfl⟩ := exists_sameGroups h₂
    have hjoin := h groups₁ groups₂ hs₁ hs₂
    rw [extractJobId_eq, extractJobId_eq] at hjoin
    -- a reference that is no number is told from none by there being one in every order
    have hnone : firstHit jobRef (groups₁.map (·.values)) = none ↔
        firstHit jobRef (groups₂.map (·.values)) = none :=
      (firstHit_eq_none_reordered h₁).symm.trans (firstHit_eq_none_reordered h₂)
    cases e₁ : firstHit jobRef (groups₁.map (·.values)) with
    | none => exact (hnone.mp e₁).symm
    | some x =>
        cases e₂ : firstHit jobRef (groups₂.map (·.values)) with
        | none =>
            rw [hnone.mpr e₂] at e₁
            cases e₁
        | some y =>
            rw [e₁, e₂] at hjoin
            rw [show x = y from hjoin]
  · intro h groups₁ groups₂ h₁ h₂
    rw [extractJobId_eq, extractJobId_eq]
    exact congrArg Option.join
      (h _ _ (reordered_of_sameGroups h₁) (reordered_of_sameGroups h₂))

namespace Trial

/-- A `job-id` of the first job and a `job-uri` of the second. -/
def twoRefs : List (String × IppValue) :=
  [("job-id", .integer 1), ("job-uri", .uri ⟨"ipp://localhost:8631/ipp/print/p/job/2", by decide⟩)]

end Trial

/-- Cancel-Job with both, in two orders. -/
theorem job_selected_by_order :
    ¬ ∀ (req : IppRequest) (groups₁ groups₂ : List IppAttributeGroup),
        SameGroups req.groups groups₁ → SameGroups req.groups groups₂ →
        extractJobId { req with groups := groups₁ } =
          extractJobId { req with groups := groups₂ } := by
  intro h
  have hswap : SameGroups (Trial.cancelBy Trial.twoRefs).groups
      (Trial.cancelBy Trial.twoRefs.reverse).groups :=
    .cons ⟨rfl, .cons _ (.cons _ (.cons _ (.swap _ _ [])))⟩ .nil
  have e := h (Trial.cancelBy Trial.twoRefs) _ _ (List.forall₂_same.mpr fun g _ => ⟨rfl, .refl _⟩)
    hswap
  revert e
  decide +kernel

end IppPrinterApp
