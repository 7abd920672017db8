/-
  File:      IppPrinterApp/Filters.lean
  Subject:   `requested-attributes` in three operations (attributes.rs, server.rs).

  Get-Printer-Attributes builds the whole response and drops from it what is not asked for;
  Get-Job-Attributes and Get-Jobs resolve the set first and drop while they build. The special
  values are looked for in different places.

  * `wants` -- one reading of the requested set for all three: nothing, an empty set or `all` is
    everything, except that Get-Jobs has a default of its own;
  * `IppResponse.restrict` -- a response with the attributes of some groups dropped; `restrict_spec`
    is what it leaves;
  * `requested_filter`: **each response is the unfiltered one, restricted to what is wanted**,
    except that a Get-Job-Attributes of nothing has no job group;
  * `unknown_attribute` is such a request.
-/
import IppPrinterApp.Listing

namespace IppPrinterApp

open Fallible FirstMatch

/-! ## 1. What is asked for -/

/-- The attribute is asked for by a requested set, in an operation with a default. -/
def wants (default : NameSet) (requested : Option NameSet) (name : String) : Bool :=
  match requested with
  | none => default.isEmpty || default.contains name
  | some set => set.isEmpty || set.contains "all" || set.contains name

/-- The resolved filter of the job operations keeps what is wanted. -/
theorem wanted_effectiveFilter (default : NameSet) (requested : Option NameSet) (name : String) :
    wanted (effectiveFilter requested default) name = wants default requested name := by
  cases requested with
  | none =>
      unfold effectiveFilter wants
      dsimp only
      cases h : default.isEmpty with
      | true => rfl
      | false => rfl
  | some set =>
      unfold effectiveFilter wants
      dsimp only
      cases h : set.isEmpty || set.contains "all" with
      | true => rfl
      | false => rfl

/-! ## 2. Restricted responses -/

/-- The group with the attributes some predicate keeps, if it is of the kind. -/
def IppAttributeGroup.restrict (tag : DelimiterTag) (keep : String → Bool) (g : IppAttributeGroup) :
    IppAttributeGroup :=
  if g.tag == tag then { g with attributes := g.attributes.retain fun name _ => keep name } else g

/-- The response with some attributes dropped from the groups of a kind. -/
def IppResponse.restrict (r : IppResponse) (tag : DelimiterTag) (keep : String → Bool) :
    IppResponse :=
  { r with groups := r.groups.map (IppAttributeGroup.restrict tag keep) }

/-- The response without the empty groups of a kind. -/
def IppResponse.dropEmpty (r : IppResponse) (tag : DelimiterTag) : IppResponse :=
  { r with groups := r.groups.filter fun g => !(g.tag == tag && g.attributes.entries.isEmpty) }

/-- The groups of a kind. -/
def IppResponse.groupsOf (r : IppResponse) (tag : DelimiterTag) : List IppAttributeGroup :=
  r.groups.filter fun g => g.tag == tag

section Restrict

variable {r : IppResponse} {tag : DelimiterTag} {keep : String → Bool} {g : IppAttributeGroup}

theorem restrict_tag : (g.restrict tag keep).tag = g.tag := by
  unfold IppAttributeGroup.restrict
  split <;> rfl

theorem restrict_other (h : g.tag ≠ tag) : g.restrict tag keep = g :=
  if_neg fun e => h (beq_iff_eq.mp e)

/-- The entries of a group of the kind are those that are kept, with their values. -/
theorem restrict_entries (h : g.tag = tag) :
    (g.restrict tag keep).attributes.entries = g.attributes.entries.filter fun e => keep e.1 := by
  unfold IppAttributeGroup.restrict
  rw [if_pos (beq_iff_eq.mpr h)]
  rfl

theorem restrict_all (h : ∀ name, keep name = true) : g.restrict tag keep = g := by
  unfold IppAttributeGroup.restrict
  split
  · have hretain : g.attributes.retain (fun name _ => keep name) = g.attributes :=
      AssocMap.ext_entries (List.filter_eq_self.mpr fun e _ => h e.1)
    rw [hretain]
  · rfl

theorem groupsOf_restrict (other : DelimiterTag) :
    (r.restrict tag keep).groupsOf other =
      (r.groupsOf other).map (IppAttributeGroup.restrict tag keep) := by
  unfold IppResponse.groupsOf IppResponse.restrict
  rw [List.filter_map]
  congr 1
  refine List.filter_congr fun g _ => ?_
  show ((g.restrict tag keep).tag == other) = (g.tag == other)
  rw [restrict_tag]

/-- **What a restriction leaves**: the groups of other kinds as they are, as many groups of the
    kind as there were, and in each of them what is kept, with its value. -/
theorem restrict_spec (r : IppResponse) (tag : DelimiterTag) (keep : String → Bool) :
    (∀ other, other ≠ tag → (r.restrict tag keep).groupsOf other = r.groupsOf other) ∧
    ((r.restrict tag keep).groupsOf tag).map (fun g => g.attributes.entries) =
      (r.groupsOf tag).map fun g => g.attributes.entries.filter fun e => keep e.1 := by
  have htag {other : DelimiterTag} {g : IppAttributeGroup} (hg : g ∈ r.groupsOf other) :
      g.tag = other := beq_iff_eq.mp (List.mem_filter.mp hg).2
  constructor
  · intro other hne
    rw [groupsOf_restrict]
    refine (List.map_congr_left fun g hg => ?_).trans (List.map_id' _)
    exact restrict_other fun e => hne ((htag hg).symm.trans e)
  · rw [groupsOf_restrict, List.map_map]
    exact List.map_congr_left fun g hg => restrict_entries (htag hg)

end Restrict

/-! ## 3. Get-Printer-Attributes -/

section Printer

variable {x : IppCrate} {version : IppVersion} {requestId : Nat} {requested : Option NameSet}

theorem filterRequested_eq (resp : IppResponse) (requested : Option NameSet) :
    filterRequested resp requested = resp.restrict .printerAttributes (wants [] requested) := by
  have hall (h : ∀ name, wants [] requested name = true) :
      resp = resp.restrict .printerAttributes (wants [] requested) := by
    unfold IppResponse.restrict
    rw [(List.map_congr_left fun g _ => restrict_all h).trans (List.map_id' _)]
  cases requested with
  | none => exact hall fun _ => rfl
  | some set =>
      unfold filterRequested
      dsimp only
      split
      · rename_i h
        refine hall fun name => ?_
        unfold wants
        dsimp only
        rw [h]
        rfl
      · rename_i h
        have hnone : (set.isEmpty || set.contains "all") = false := Bool.eq_false_iff.mpr h
        have hkeep : wants [] (some set) = fun name => set.contains name := by
          funext name
          unfold wants
          dsimp only
          rw [hnone]
          rfl
        rw [hkeep]
        rfl

/-- **Get-Printer-Attributes** builds everything, and restricts it. -/
theorem getPrinterAttributes_filtered (record : PrinterRecord) (host : String) (port : Nat)
    (clock : Clock) :
    getPrinterAttributes x version requestId record host port requested clock =
      (getPrinterAttributes x version requestId record host port none clock).map fun r =>
        r.restrict .printerAttributes (wants [] requested) := by
  unfold getPrinterAttributes
  cases newResponse x version .successfulOk requestId with
  | error f => rfl
  | ok r =>
      show (addAll .printerAttributes r _ >>= fun resp => pure (filterRequested resp requested)) =
        Except.map _
          (addAll .printerAttributes r _ >>= fun resp => pure (filterRequested resp none))
      cases addAll .printerAttributes r (printerAttributes record host port clock) with
      | error f => rfl
      | ok resp => exact congrArg Except.ok (filterRequested_eq resp requested)

end Printer

/-! ## 4. Jobs -/

/-- The map of the attributes of a group. -/
def attributeMap (attrs : List IppAttribute) : AssocMap String IppValue :=
  .ofList (attrs.map fun a => (a.name, a.value))

/-- The group of a job, as Get-Jobs builds it. -/
def jobGroup (attrs : List IppAttribute) : IppAttributeGroup := ⟨.jobAttributes, attributeMap attrs⟩

section Jobs

variable {x : IppCrate} {version : IppVersion} {requestId : Nat} {requested : Option NameSet}
  {job : JobRecord} {printerUriStr : String} {clock : Clock} {keep : String → Bool}

/-- **The attributes of a job** are built in full before the filter. -/
theorem jobAttrsForGroup_filtered (job : JobRecord) (printerUriStr : String)
    (requested : Option NameSet) (clock : Clock) :
    jobAttrsForGroup job printerUriStr requested clock =
      (jobAttrsForGroup job printerUriStr none clock).map
        (List.filter fun a => wanted requested a.name) := by
  unfold jobAttrsForGroup
  cases (jobAttributes job printerUriStr clock).mapM fun e => e.2.map (IppAttribute.mk e.1) with
  | error f => rfl
  | ok out =>
      cases requested with
      | none => exact congrArg Except.ok (List.filter_eq_self.mpr fun _ _ => rfl).symm
      | some set => rfl

/-- The names of a job's attributes are distinct. -/
theorem names_nodup {attrs : List IppAttribute}
    (h : jobAttrsForGroup job printerUriStr none clock = .ok attrs) :
    (attrs.map IppAttribute.name).Nodup := by
  obtain ⟨out, hall, rfl⟩ := jobAttrsForGroup_ok h
  have hn := jobAttributes_nodup job printerUriStr clock
  rw [hall, List.map_map] at hn
  exact hn.sublist (List.Sublist.map _ List.filter_sublist)

/-- The group of the attributes that are kept is the restricted group. -/
theorem jobGroup_filter {attrs : List IppAttribute} (hn : (attrs.map IppAttribute.name).Nodup) :
    jobGroup (attrs.filter fun a => keep a.name) =
      (jobGroup attrs).restrict .jobAttributes keep := by
  have hnodup : ((attrs.map fun a => (a.name, a.value)).map Prod.fst).Nodup := by
    rw [List.map_map]
    exact hn
  have hmap : attributeMap (attrs.filter fun a => keep a.name) =
      (attributeMap attrs).retain fun name _ => keep name := by
    unfold attributeMap
    rw [AssocMap.retain_ofList hnodup, List.filter_map]
    rfl
  unfold jobGroup
  rw [hmap]
  rfl

/-- The groups that a fresh response has are of no job. -/
theorem map_restrict_of_other {groups : List IppAttributeGroup} {tag : DelimiterTag}
    (h : ∀ g ∈ groups, g.tag ≠ tag) : groups.map (IppAttributeGroup.restrict tag keep) = groups :=
  (List.map_congr_left fun g hg => restrict_other (h g hg)).trans (List.map_id' _)

theorem newResponse_ok {r : IppResponse} {status : IppStatus}
    (h : newResponse x version status requestId = .ok r) :
    x.newResponse version status requestId = .ok r := by
  unfold newResponse at h
  cases hn : x.newResponse version status requestId with
  | error e =>
      rw [hn] at h
      cases h
  | ok r' =>
      rw [hn] at h
      cases h
      rfl

/-- **Get-Jobs** builds the group of each job in full, and restricts it. -/
theorem buildGetJobsResponse_filtered (hx : x.StartsWithoutJobs) (jobs : List JobRecord) :
    buildGetJobsResponse x version requestId jobs printerUriStr requested clock =
      (buildGetJobsResponse x version requestId jobs printerUriStr none clock).map fun r =>
        r.restrict .jobAttributes (wanted requested) := by
  have hgroups : (jobs.mapM fun job =>
        (jobAttrsForGroup job printerUriStr requested clock).map jobGroup) =
      (jobs.mapM fun job => (jobAttrsForGroup job printerUriStr none clock).map jobGroup).map
        (List.map (IppAttributeGroup.restrict .jobAttributes (wanted requested))) := by
    refine mapM_map_eq fun job _ => ?_
    rw [jobAttrsForGroup_filtered]
    cases h : jobAttrsForGroup job printerUriStr none clock with
    | error f => rfl
    | ok attrs => exact congrArg Except.ok (jobGroup_filter (names_nodup h))
  unfold buildGetJobsResponse
  cases hr : newResponse x version .successfulOk requestId with
  | error f => rfl
  | ok r =>
      show ((jobs.mapM fun job =>
          (jobAttrsForGroup job printerUriStr requested clock).map jobGroup) >>= fun groups =>
            pure { r with groups := r.groups ++ groups }) =
        Except.map _ ((jobs.mapM fun job =>
          (jobAttrsForGroup job printerUriStr none clock).map jobGroup) >>= fun groups =>
            pure { r with groups := r.groups ++ groups })
      rw [hgroups]
      cases jobs.mapM fun job => (jobAttrsForGroup job printerUriStr none clock).map jobGroup with
      | error f => rfl
      | ok groups =>
          have hnone := hx version .successfulOk requestId r (newResponse_ok hr)
          refine congrArg Except.ok ?_
          unfold IppResponse.restrict
          dsimp only
          rw [List.map_append, map_restrict_of_other hnone]

/-- Attributes added to a response without a group of the kind are a group of their own. -/
theorem foldl_add {tag : DelimiterTag} {r : IppResponse} (hnone : ∀ g ∈ r.groups, g.tag ≠ tag)
    (attrs : List IppAttribute) (m : AssocMap String IppValue) :
    attrs.foldl (fun (r : IppResponse) a => r.add tag a)
        { r with groups := r.groups ++ [⟨tag, m⟩] } =
      { r with groups := r.groups ++
          [⟨tag, attrs.foldl (fun m a => m.insert a.name a.value) m⟩] } := by
  induction attrs generalizing m with
  | nil => rfl
  | cons a attrs ih =>
      have hmiss : ∀ g ∈ r.groups, (g.tag == tag) = false := fun g hg => by simpa using hnone g hg
      have hadd : ({ r with groups := r.groups ++ [⟨tag, m⟩] } : IppResponse).add tag a =
          { r with groups := r.groups ++ [⟨tag, m.insert a.name a.value⟩] } := by
        unfold IppResponse.add addAttribute
        have hany : (r.groups ++ [(⟨tag, m⟩ : IppAttributeGroup)]).any
            (fun g => g.tag == tag) = true := by simp
        dsimp only
        rw [if_pos hany, updateFirst_append hmiss (by simp)]
      rw [List.foldl_cons, hadd, ih, List.foldl_cons]

/-- The groups of a response to which a job's attributes were added. -/
def withJob (groups : List IppAttributeGroup) (attrs : List IppAttribute) :
    List IppAttributeGroup :=
  groups ++ if attrs.isEmpty then [] else [jobGroup attrs]

/-- The response a job's attributes are added to. -/
theorem foldl_add_jobs {r : IppResponse} (hnone : ∀ g ∈ r.groups, g.tag ≠ .jobAttributes)
    (attrs : List IppAttribute) :
    attrs.foldl (fun r a => r.add .jobAttributes a) r =
      { r with groups := withJob r.groups attrs } := by
  unfold withJob
  cases attrs with
  | nil => simp
  | cons a attrs =>
      have hmiss : ∀ g ∈ r.groups, (g.tag == .jobAttributes) = false := fun g hg => by
        simpa using hnone g hg
      have hadd : r.add .jobAttributes a =
          { r with groups :=
              r.groups ++ [⟨.jobAttributes, AssocMap.empty.insert a.name a.value⟩] } := by
        unfold IppResponse.add addAttribute
        have hany : ¬r.groups.any (fun g => g.tag == .jobAttributes) = true := by
          simpa using hnone
        rw [if_neg hany]
      have hmap : attrs.foldl (fun m a => m.insert a.name a.value)
          (AssocMap.empty.insert a.name a.value) = attributeMap (a :: attrs) := by
        unfold attributeMap AssocMap.ofList
        rw [List.map_cons, List.foldl_cons, List.foldl_map]
      rw [List.foldl_cons, hadd, foldl_add hnone, hmap]
      rfl

/-- A group is empty if it was built of nothing. -/
theorem jobGroup_isEmpty {attrs : List IppAttribute} (hn : (attrs.map IppAttribute.name).Nodup) :
    (jobGroup attrs).attributes.entries.isEmpty = attrs.isEmpty := by
  have hnodup : ((attrs.map fun a => (a.name, a.value)).map Prod.fst).Nodup := by
    rw [List.map_map]
    exact hn
  have hentries : (jobGroup attrs).attributes.entries = attrs.map fun a => (a.name, a.value) :=
    AssocMap.entries_ofList hnodup
  rw [hentries, List.isEmpty_map]

/-- Restricting the group of a job and leaving it out if it is empty is adding what is kept. -/
theorem restrict_withJob {r : IppResponse} (hnone : ∀ g ∈ r.groups, g.tag ≠ .jobAttributes)
    {attrs : List IppAttribute} (hn : (attrs.map IppAttribute.name).Nodup) :
    (({ r with groups := withJob r.groups attrs } : IppResponse).restrict .jobAttributes
        keep).dropEmpty .jobAttributes =
      { r with groups := withJob r.groups (attrs.filter fun a => keep a.name) } := by
  have hothers : r.groups.filter
      (fun g => !(g.tag == .jobAttributes && g.attributes.entries.isEmpty)) = r.groups := by
    refine List.filter_eq_self.mpr fun g hg => ?_
    have hg' : (g.tag == .jobAttributes) = false := by simpa using hnone g hg
    rw [hg']
    rfl
  have hkept : ((attrs.filter fun a => keep a.name).map IppAttribute.name).Nodup :=
    hn.sublist (List.Sublist.map _ List.filter_sublist)
  have hempty := jobGroup_isEmpty hkept
  unfold IppResponse.dropEmpty IppResponse.restrict withJob
  dsimp only
  rw [List.map_append, map_restrict_of_other hnone, List.filter_append, hothers]
  congr 2
  cases hattrs : attrs.isEmpty with
  | true =>
      rw [List.isEmpty_iff.mp hattrs]
      rfl
  | false =>
      rw [if_neg Bool.false_ne_true, List.map_singleton, ← jobGroup_filter hn]
      cases hfilter : (attrs.filter fun a => keep a.name).isEmpty with
      | true =>
          rw [hfilter] at hempty
          rw [List.filter_cons, hempty]
          rfl
      | false =>
          rw [hfilter] at hempty
          rw [List.filter_cons, hempty]
          rfl

/-- **Get-Job-Attributes** builds everything, restricts it, and leaves an empty group out. -/
theorem buildJobAttrsResponse_filtered (hx : x.StartsWithoutJobs) :
    buildJobAttrsResponse x version requestId job printerUriStr requested clock =
      (buildJobAttrsResponse x version requestId job printerUriStr none clock).map fun r =>
        (r.restrict .jobAttributes (wanted requested)).dropEmpty .jobAttributes := by
  unfold buildJobAttrsResponse
  cases hr : newResponse x version .successfulOk requestId with
  | error f => rfl
  | ok r =>
      show (jobAttrsForGroup job printerUriStr requested clock >>= fun attrs =>
          pure (attrs.foldl (fun r a => r.add .jobAttributes a) r)) =
        Except.map _ (jobAttrsForGroup job printerUriStr none clock >>= fun attrs =>
          pure (attrs.foldl (fun r a => r.add .jobAttributes a) r))
      rw [jobAttrsForGroup_filtered]
      cases h : jobAttrsForGroup job printerUriStr none clock with
      | error f => rfl
      | ok attrs =>
          have hnone := hx version .successfulOk requestId r (newResponse_ok hr)
          refine congrArg Except.ok ?_
          rw [foldl_add_jobs hnone, foldl_add_jobs hnone]
          exact (restrict_withJob hnone (names_nodup h)).symm

/-- The groups of a kind behind groups of other kinds. -/
theorem groupsOf_append {r : IppResponse} {tag : DelimiterTag}
    {before after : List IppAttributeGroup} (hr : r.groups = before ++ after)
    (hbefore : ∀ g ∈ before, g.tag ≠ tag)
    (hafter : ∀ g ∈ after, g.tag = tag) : r.groupsOf tag = after := by
  have hnone : before.filter (fun g => g.tag == tag) = [] :=
    List.filter_eq_nil_iff.mpr fun g hg => by simpa using hbefore g hg
  have hall : after.filter (fun g => g.tag == tag) = after :=
    List.filter_eq_self.mpr fun g hg => by simpa using hafter g hg
  unfold IppResponse.groupsOf
  rw [hr, List.filter_append, hnone, hall, List.nil_append]

/-- **Get-Jobs has a group for each job**, in their order. -/
theorem getJobs_groups (hx : x.StartsWithoutJobs) {jobs : List JobRecord} {resp : IppResponse}
    (h : buildGetJobsResponse x version requestId jobs printerUriStr requested clock = .ok resp) :
    List.Forall₂ (fun job g => ∃ attrs,
      jobAttrsForGroup job printerUriStr requested clock = .ok attrs ∧ g = jobGroup attrs) jobs
      (resp.groupsOf .jobAttributes) := by
  obtain ⟨r, groups, hr, hgroups, hbuilt⟩ := buildGetJobsResponse_ok h
  have htags : ∀ g ∈ groups, g.tag = .jobAttributes := by
    intro g hg
    obtain ⟨job, -, attrs, -, rfl⟩ := exists_of_forall₂ hbuilt hg
    rfl
  rw [groupsOf_append hgroups (hx version .successfulOk requestId r hr) htags]
  exact hbuilt

/-- The keys of a job's group are the names of its attributes that are asked for. -/
theorem jobGroup_keys {attrs : List IppAttribute}
    (h : jobAttrsForGroup job printerUriStr requested clock = .ok attrs) :
    (jobGroup attrs).attributes.keys =
      ((jobAttributes job printerUriStr clock).map Prod.fst).filter (wanted requested) := by
  obtain ⟨out, hall, rfl⟩ := jobAttrsForGroup_ok h
  have hout : (jobAttributes job printerUriStr clock).map Prod.fst = out.map IppAttribute.name := by
    rw [hall, List.map_map]
    rfl
  have hnames : (out.map IppAttribute.name).Nodup := by
    rw [← hout]
    exact jobAttributes_nodup job printerUriStr clock
  have hnodup : (((out.filter fun a => wanted requested a.name).map
      fun a => (a.name, a.value)).map Prod.fst).Nodup := by
    rw [List.map_map]
    exact hnames.sublist (List.Sublist.map _ List.filter_sublist)
  have hentries : (jobGroup (out.filter fun a => wanted requested a.name)).attributes.entries =
      (out.filter fun a => wanted requested a.name).map fun a => (a.name, a.value) :=
    AssocMap.entries_ofList hnodup
  unfold AssocMap.keys
  rw [hentries, hout, List.map_map, List.filter_map]
  rfl

/-- The default of Get-Jobs is just the job's URI and its id. -/
theorem default_names (job : JobRecord) (printerUriStr : String) (clock : Clock) :
    ((jobAttributes job printerUriStr clock).map Prod.fst).filter
      (wanted (effectiveFilter none ["job-uri", "job-id"])) = ["job-uri", "job-id"] := by
  unfold jobAttributes
  cases job.message.isEmpty <;> cases job.completedSecs <;> rfl

theorem getJobs_default (hx : x.StartsWithoutJobs) {jobs : List JobRecord} {resp : IppResponse}
    (h : buildGetJobsResponse x version requestId jobs printerUriStr
      (effectiveFilter none ["job-uri", "job-id"]) clock = .ok resp) :
    ∀ g ∈ resp.groupsOf .jobAttributes, g.attributes.keys = ["job-uri", "job-id"] := by
  intro g hg
  obtain ⟨job, -, attrs, hattrs, rfl⟩ := exists_of_forall₂ (getJobs_groups hx h) hg
  rw [jobGroup_keys hattrs]
  exact default_names job printerUriStr clock

/-- The job group of Get-Job-Attributes. -/
theorem getJobAttributes_group (hx : x.StartsWithoutJobs) {resp : IppResponse}
    (h : buildJobAttrsResponse x version requestId job printerUriStr requested clock = .ok resp) :
    ∃ attrs, jobAttrsForGroup job printerUriStr requested clock = .ok attrs ∧
      resp.groupsOf .jobAttributes = if attrs.isEmpty then [] else [jobGroup attrs] := by
  obtain ⟨r, hr, h'⟩ := bind_ok h
  obtain ⟨attrs, hattrs, hret⟩ := bind_ok h'
  have hnone := hx version .successfulOk requestId r (newResponse_ok hr)
  have hresp : resp = { r with groups := withJob r.groups attrs } := by
    rw [← foldl_add_jobs hnone]
    exact (Except.ok.inj hret).symm
  have hgroups : resp.groups = r.groups ++ if attrs.isEmpty then [] else [jobGroup attrs] := by
    rw [hresp]
    rfl
  refine ⟨attrs, hattrs, groupsOf_append hgroups hnone fun g hg => ?_⟩
  split at hg
  · cases hg
  · rw [List.mem_singleton.mp hg]
    rfl

/-- **Get-Job-Attributes has a group** if the job has an attribute that is asked for. -/
theorem getJobAttributes_groups (hx : x.StartsWithoutJobs) {resp : IppResponse}
    (h : buildJobAttrsResponse x version requestId job printerUriStr requested clock = .ok resp) :
    (resp.groupsOf .jobAttributes).length =
      if (jobAttributes job printerUriStr clock).any (fun e => wanted requested e.1) then 1
      else 0 := by
  obtain ⟨attrs, hattrs, hgroups⟩ := getJobAttributes_group hx h
  obtain ⟨out, hall, rfl⟩ := jobAttrsForGroup_ok hattrs
  have hany : (jobAttributes job printerUriStr clock).any (fun e => wanted requested e.1) =
      !(out.filter fun a => wanted requested a.name).isEmpty := by
    rw [hall, List.any_map, Bool.eq_iff_iff]
    simp
  rw [hgroups, hany]
  cases (out.filter fun a => wanted requested a.name).isEmpty <;> rfl

/-! ## 5. The three operations -/

/-- Groups of other kinds are not looked at. -/
theorem groupsOf_dropEmpty {r : IppResponse} {tag other : DelimiterTag} (h : other ≠ tag) :
    (r.dropEmpty tag).groupsOf other = r.groupsOf other := by
  unfold IppResponse.dropEmpty IppResponse.groupsOf
  dsimp only
  rw [List.filter_filter]
  refine List.filter_congr fun g _ => ?_
  cases hg : g.tag == other with
  | false => rfl
  | true =>
      have htag : (g.tag == tag) = false := by
        rw [beq_iff_eq.mp hg]
        simpa using h
      rw [htag]
      rfl

/-- **The requested attributes**: for every requested set, each of the three operations answers with
    its unfiltered response, restricted to what is wanted; the groups of other kinds stay, Get-Jobs
    has a group for each job, with the job's URI and id by default, and Get-Job-Attributes has its
    group if an attribute of the job is wanted. -/
theorem requested_filter (hx : x.StartsWithoutJobs) (requested : Option NameSet) :
    (∀ record host port clock,
      getPrinterAttributes x version requestId record host port requested clock =
        (getPrinterAttributes x version requestId record host port none clock).map fun r =>
          r.restrict .printerAttributes (wants [] requested)) ∧
    (∀ job printerUriStr clock,
      buildJobAttrsResponse x version requestId job printerUriStr (effectiveFilter requested [])
          clock =
        (buildJobAttrsResponse x version requestId job printerUriStr none clock).map fun r =>
          (r.restrict .jobAttributes (wants [] requested)).dropEmpty .jobAttributes) ∧
    (∀ jobs printerUriStr clock,
      buildGetJobsResponse x version requestId jobs printerUriStr
          (effectiveFilter requested ["job-uri", "job-id"]) clock =
        (buildGetJobsResponse x version requestId jobs printerUriStr none clock).map fun r =>
          r.restrict .jobAttributes (wants ["job-uri", "job-id"] requested)) ∧
    (∀ (r : IppResponse) (tag : DelimiterTag) (keep : String → Bool) (other : DelimiterTag),
      other ≠ tag → (r.restrict tag keep).groupsOf other = r.groupsOf other ∧
        ((r.restrict tag keep).dropEmpty tag).groupsOf other = r.groupsOf other) ∧
    (∀ jobs printerUriStr clock resp,
      buildGetJobsResponse x version requestId jobs printerUriStr
          (effectiveFilter requested ["job-uri", "job-id"]) clock = .ok resp →
        (resp.groupsOf .jobAttributes).length = jobs.length ∧
        (requested = none → ∀ g ∈ resp.groupsOf .jobAttributes,
          g.attributes.keys = ["job-uri", "job-id"])) ∧
    ∀ job printerUriStr clock resp,
      buildJobAttrsResponse x version requestId job printerUriStr (effectiveFilter requested [])
          clock = .ok resp →
        (resp.groupsOf .jobAttributes).length =
          if (jobAttributes job printerUriStr clock).any (fun e => wants [] requested e.1) then 1
          else 0 := by
  have hwants (default : NameSet) :
      wanted (effectiveFilter requested default) = wants default requested :=
    funext (wanted_effectiveFilter default requested)
  refine ⟨getPrinterAttributes_filtered, fun job uri clock => ?_, fun jobs uri clock => ?_,
    fun r tag keep other hne => ?_, fun jobs uri clock resp h => ⟨?_, ?_⟩,
    fun job uri clock resp h => ?_⟩
  · rw [buildJobAttrsResponse_filtered hx, hwants]
  · rw [buildGetJobsResponse_filtered hx, hwants]
  · have hkept := (restrict_spec r tag keep).1 other hne
    exact ⟨hkept, (groupsOf_dropEmpty hne).trans hkept⟩
  · exact (getJobs_groups hx h).length_eq.symm
  · intro hnone
    subst hnone
    exact getJobs_default hx h
  · have hgroups := getJobAttributes_groups hx h
    rw [hwants] at hgroups
    exact hgroups

end Jobs

namespace Trial

theorem crate_startsWithoutJobs : crate.StartsWithoutJobs := by
  intro version status requestId r h g hg
  cases h
  rw [List.mem_singleton.mp hg]
  decide

/-- Where the printer is found. -/
def printerUri : String := "ipp://localhost:8631/ipp/print/p"

/-- A response of some builder. -/
theorem built {e : Except Fault IppResponse} (h : e.toOption.isSome = true) :
    ∃ resp, e = .ok resp := by
  obtain ⟨resp, hresp⟩ := Option.isSome_iff_exists.mp h
  exact ⟨resp, ok_of_toOption hresp⟩

end Trial

theorem requested_filter_default :
    ∃ resp, buildGetJobsResponse Trial.crate 0x0200 7 [Trial.failedJob "jam"] Trial.printerUri
        (effectiveFilter none ["job-uri", "job-id"]) Trial.clock = .ok resp ∧
      (resp.groupsOf .jobAttributes).length = 1 ∧
      ∀ g ∈ resp.groupsOf .jobAttributes, g.attributes.keys = ["job-uri", "job-id"] := by
  obtain ⟨resp, h⟩ := Trial.built (show (buildGetJobsResponse Trial.crate 0x0200 7
    [Trial.failedJob "jam"] Trial.printerUri (effectiveFilter none ["job-uri", "job-id"])
    Trial.clock).toOption.isSome = true by decide +kernel)
  have hlaw := @requested_filter Trial.crate 0x0200 7 Trial.crate_startsWithoutJobs none
  obtain ⟨hlen, hkeys⟩ := hlaw.2.2.2.2.1 [Trial.failedJob "jam"] Trial.printerUri Trial.clock resp h
  exact ⟨resp, h, hlen, hkeys rfl⟩

/-- **An attribute no job has**: asked for it alone, Get-Job-Attributes has no job group, while it
    has one when asked for everything. -/
theorem unknown_attribute :
    ¬ ∀ (x : IppCrate) (version : IppVersion) (requestId : Nat) (job : JobRecord)
        (printerUriStr : String) (requested : Option NameSet) (clock : Clock)
        (full resp : IppResponse), x.StartsWithoutJobs →
        buildJobAttrsResponse x version requestId job printerUriStr none clock = .ok full →
        buildJobAttrsResponse x version requestId job printerUriStr (effectiveFilter requested [])
          clock = .ok resp →
        (resp.groupsOf .jobAttributes).length = (full.groupsOf .jobAttributes).length := by
  intro hall
  obtain ⟨full, hfull⟩ := Trial.built (show (buildJobAttrsResponse Trial.crate 0x0200 7
    (Trial.failedJob "jam") Trial.printerUri none Trial.clock).toOption.isSome = true by
      decide +kernel)
  obtain ⟨resp, hresp⟩ := Trial.built (show (buildJobAttrsResponse Trial.crate 0x0200 7
    (Trial.failedJob "jam") Trial.printerUri (effectiveFilter (some ["job-color"]) [])
    Trial.clock).toOption.isSome = true by decide +kernel)
  have hsame := hall Trial.crate 0x0200 7 (Trial.failedJob "jam") Trial.printerUri
    (some ["job-color"]) Trial.clock full resp Trial.crate_startsWithoutJobs hfull hresp
  rw [getJobAttributes_groups Trial.crate_startsWithoutJobs hfull,
    getJobAttributes_groups Trial.crate_startsWithoutJobs hresp] at hsame
  exact absurd hsame (by decide +kernel)

end IppPrinterApp
