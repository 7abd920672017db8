/-
  File:      IppPrinterApp/Listing.lean
  Subject:   Get-Jobs against the replies that created the jobs.

  A Print-Job or Create-Job request adds a job to the end of the registry, and nothing takes one
  away. What identifies a job (`JobIdentity`) never changes. So the accepted requests of a run,
  noted beside it (`Creation`, `noting`), are a chronicle of the registry.

  * `step_recorded` -- what a step does to the identities, and the creation it is;
  * `Lists` -- a group lists a job as it is now, under the job-id and job-uri that the reply to
    its creation carried;
  * `get_jobs_lists_iff`: **in every run, Get-Jobs lists exactly the jobs created through the
    printer, in the order of their creation, if and only if the strings of these jobs fit**;
  * `long_message_hides_jobs` is a run in which one failure message does not.
-/
import IppPrinterApp.InBand
import IppPrinterApp.Lib.Chronicle

namespace IppPrinterApp

open FirstMatch Fallible Transition

/-! ## 1. Creations -/

/-- An accepted creation: the printer the request came to, its user, the position of its job in
    the registry, and the reply. -/
structure Creation where
  printer : String
  owner : String
  slot : Nat
  reply : IppResponse

def Operation.creates : Operation → Bool
  | .printJob => true
  | .createJob => true
  | _ => false

/-- The creation that a reply to a Print-Job or Create-Job request accepts. -/
def acceptedBy (printer owner : String) (slot : Nat) : Reply → Option Creation
  | .ok reply =>
    if reply.status = .successfulOk then some { printer, owner, slot, reply } else none
  | _ => none

/-- The creation that a step is, if it is an accepted one. -/
def creation (o : Options) (s : System) : Action → Option Creation
  | .request clock name body =>
    match admitted o.crate s.app name body with
    | some (req, record) =>
      if (operationOf o.crate req.operationOrStatus).creates then
        acceptedBy name (requestingUser req) s.app.jobs.jobs.length
          (dispatch o.crate clock s.app name req record).reply
      else none
    | none => none
  | _ => none

/-- The server with the accepted creations noted, oldest first. -/
def noting (o : Options) : Machine (System × List Creation) Action Event :=
  (server o).withHistory fun created s a => created ++ (creation o s a).toList

/-! ## 2. What identifies a job -/

/-- What never changes of a job. -/
structure JobIdentity where
  id : JobId
  printerName : String
  owner : String
  deriving DecidableEq, Repr

def JobRecord.identity (j : JobRecord) : JobIdentity :=
  { id := j.id, printerName := j.printerName, owner := j.owner }

@[simp] theorem JobRecord.withCancel_identity (now : SystemTime) (j : JobRecord) :
    (j.withCancel now).identity = j.identity := by
  unfold JobRecord.withCancel
  split <;> rfl

@[simp] theorem JobOp.apply_identity (op : JobOp) (now : SystemTime) (j : JobRecord) :
    (op.apply now j).identity = j.identity := by
  cases op with
  | setState => rfl
  | setFailure => rfl
  | cancel => exact JobRecord.withCancel_identity now j

/-- The registry after a change that is no creation. -/
def JobRegistry.SameJobs (g g' : JobRegistry) : Prop :=
  g'.jobs.map JobRecord.identity = g.jobs.map JobRecord.identity

theorem sameJobs_update {f : JobRecord → JobRecord} (hf : ∀ j, (f j).identity = j.identity)
    (g : JobRegistry) (id : JobId) : g.SameJobs (g.update id f) :=
  map_updateFirst hf g.jobs

theorem sameJobs_cancel (g : JobRegistry) (now : SystemTime) (id : JobId) :
    g.SameJobs (g.cancel now id).2 :=
  sameJobs_update (JobRecord.withCancel_identity now) g id

section Steps

variable {o : Options} {s s' : System} {a : Action} {ev : List Event}

/-- Whoever moves beside the requests, the jobs stay who they are. -/
theorem JobsStep.sameJobs {g : JobRegistry} {ws : List Worker} (h : JobsStep o s a g ws)
    (ha : ∀ clock name body, a ≠ .request clock name body) : s.app.jobs.SameJobs g := by
  cases h with
  | same => exact rfl
  | request clock name body => exact absurd rfl (ha clock name body)
  | canceled i now id => exact sameJobs_cancel s.app.jobs now id
  | worked i now w w' hw hn =>
      unfold WorkerPc.jobsAfter
      split
      · rename_i op _
        exact sameJobs_update (JobOp.apply_identity op now) s.app.jobs w.task.id
      · exact rfl
  | returned => exact rfl

variable {x : IppCrate} {clock : Clock} {app : AppState} {name : String} {req : IppRequest}
  {record : PrinterRecord}

/-- An operation that creates no job leaves the jobs who they are. -/
theorem dispatch_sameJobs (hop : (operationOf x req.operationOrStatus).creates = false)
    (hmy : operationOf x req.operationOrStatus ≠ .cancelMyJobs) :
    app.jobs.SameJobs (dispatch x clock app name req record).app.jobs := by
  unfold dispatch
  cases hc : operationOf x req.operationOrStatus with
  | cancelMyJobs => exact absurd hc hmy
  | printJob => rw [hc] at hop; cases hop
  | createJob => rw [hc] at hop; cases hop
  | sendDocument =>
      show app.jobs.SameJobs (sendDocument x clock app name req record).app.jobs
      unfold sendDocument
      split
      · exact rfl
      · split
        · exact rfl
        · split
          · exact rfl
          · split <;> exact rfl
  | getJobAttributes =>
      show app.jobs.SameJobs (getJobAttributes x clock app req record).app.jobs
      rw [(getJobAttributes_app x clock app req record).1]
      exact rfl
  | cancelJob =>
      show app.jobs.SameJobs (cancelJob x clock app req).app.jobs
      unfold cancelJob
      split
      · exact rfl
      · exact sameJobs_cancel app.jobs clock.now _
  | _ => exact rfl

/-- Print-Job with a document that can be read: a creation, and the reply to it. -/
theorem printJob_ok {payload : List UInt8} (hp : req.payload = .ok payload) :
    (printJob x clock app name req record).app.jobs =
        (app.jobs.create clock.now name (requestingUser req)).2 ∧
      (printJob x clock app name req record).reply =
        .ofBuilt (printJobAccepted x req.version req.requestId
          (app.jobs.create clock.now name (requestingUser req)).1
          (record.config.printerUri app.host app.port)) := by
  unfold printJob
  rw [hp]
  dsimp only
  cases printJobAccepted x req.version req.requestId
      (app.jobs.create clock.now name (requestingUser req)).1
      (record.config.printerUri app.host app.port) with
  | error e => exact ⟨rfl, rfl⟩
  | ok accepted => exact ⟨rfl, rfl⟩

/-- The URI of the printer with a name. -/
def queueUri (host : String) (port : Nat) (name : String) : String :=
  s!"ipp://{advertiseHost host}:{port}/ipp/print/{name}"

/-- The URI of the job fits (`PrinterRecord.JobUriFits`). -/
def JobIdentity.uriFits (host : String) (port : Nat) (i : JobIdentity) : Bool :=
  22 + authorityOctets host port + i.printerName.utf8ByteSize + (toString i.id).utf8ByteSize ≤ 1023

theorem uriFits_iff (host : String) (port : Nat) (record : PrinterRecord) (i : JobIdentity)
    (hname : record.config.name = i.printerName) :
    i.uriFits host port = true ↔ record.JobUriFits host port i.id := by
  unfold JobIdentity.uriFits PrinterRecord.JobUriFits
  rw [decide_eq_true_iff, hname]

/-- **What a step does to the identities of the jobs**, with the creation it is: a creation is
    accepted exactly if the URI of the job fits. -/
inductive Recorded (s : System) (g : JobRegistry) : Option Creation → Prop where
  | same (h : s.app.jobs.SameJobs g) : Recorded s g none
  | accepted (now : SystemTime) (name owner : String) (reply : IppResponse)
      (hg : g = (s.app.jobs.create now name owner).2)
      (hfit : (s.app.jobs.create now name owner).1.identity.uriFits s.app.host s.app.port = true)
      (hc : Carries (reply.valueOf .jobAttributes) (s.app.jobs.create now name owner).1
        (queueUri s.app.host s.app.port name)) :
      Recorded s g (some { printer := name, owner, slot := s.app.jobs.jobs.length, reply })
  | unanswered (now : SystemTime) (name owner : String)
      (hg : g = (s.app.jobs.create now name owner).2)
      (hfit : (s.app.jobs.create now name owner).1.identity.uriFits s.app.host s.app.port =
        false) : Recorded s g none

/-- The two ways a creation ends. -/
theorem recorded_of_created (hx : o.crate.BuildsResponses)
    (hf : findPrinter s.app.printers name = some record) {reply : Reply}
    (hr : reply = .ofBuilt (printJobAccepted o.crate req.version req.requestId
      (s.app.jobs.create clock.now name (requestingUser req)).1
      (record.config.printerUri s.app.host s.app.port))) :
    Recorded s (s.app.jobs.create clock.now name (requestingUser req)).2
      (acceptedBy name (requestingUser req) s.app.jobs.jobs.length reply) := by
  have hname := findPrinter_name hf
  have huri : record.config.printerUri s.app.host s.app.port =
      queueUri s.app.host s.app.port name := by
    rw [← hname]
    rfl
  have hiff := uriFits_iff s.app.host s.app.port record
    (s.app.jobs.create clock.now name (requestingUser req)).1.identity hname
  have hbuilt : BuiltIf o.crate req.version req.requestId
      (printJobAccepted o.crate req.version req.requestId
        (s.app.jobs.create clock.now name (requestingUser req)).1
        (printerUri record s.app.host s.app.port))
      (record.JobUriFits s.app.host s.app.port
        (s.app.jobs.create clock.now name (requestingUser req)).1.id) := builtIf_printJobAccepted
  rcases hbuilt.cases hx with
    ⟨hfit, resp, hresp, hst, _⟩ | ⟨hfit, what, hpanic⟩
  · have e : reply = .ok resp := by
      rw [hr, printerUri_eq, hresp]
      rfl
    rw [e]
    unfold acceptedBy
    dsimp only
    rw [if_pos hst]
    refine .accepted clock.now name (requestingUser req) resp rfl (hiff.mpr hfit) ?_
    rw [← huri]
    exact printJobAccepted_carries hresp
  · have e : reply = .panic what := by
      rw [hr, printerUri_eq, hpanic]
      rfl
    rw [e]
    exact .unanswered clock.now name (requestingUser req) rfl
      (Bool.eq_false_iff.mpr fun h => hfit (hiff.mp h))

/-- **Every step is recorded.** -/
theorem step_recorded (hx : o.crate.BuildsResponses) (hs : step o s a = some (s', ev)) :
    Recorded s s'.app.jobs (creation o s a) := by
  have hother : (∀ clock name body, a ≠ .request clock name body) → creation o s a = none →
      Recorded s s'.app.jobs (creation o s a) := by
    intro ha hc
    rw [hc]
    exact .same ((step_jobs hs).sameJobs ha)
  cases a with
  | request clock name body =>
      unfold creation
      dsimp only
      rcases step_request hs with ⟨reply, hg, rfl, _⟩ | ⟨req, record, task, hg, hop, _, rfl⟩ |
        ⟨req, record, task, hg, hop, _, rfl⟩ | ⟨req, record, hg, hop, rfl, _⟩
      · have hadm : admitted o.crate s'.app name body = none := by
          unfold admitted
          rw [hg]
          rfl
        rw [hadm]
        exact .same rfl
      · rw [mem_admitted.mpr hg]
        dsimp only
        rw [hop]
        exact .same rfl
      · rw [mem_admitted.mpr hg]
        dsimp only
        rw [hop]
        exact .same rfl
      · rw [mem_admitted.mpr hg]
        dsimp only
        have hf := (gates_ok hg).printer
        cases hc : operationOf o.crate req.operationOrStatus with
        | printJob =>
            rw [if_pos (show Operation.printJob.creates = true from rfl), dispatch_printJob hc]
            cases hp : req.payload with
            | error e =>
                unfold printJob
                rw [hp]
                exact .same rfl
            | ok payload =>
                obtain ⟨hjobs, hreply⟩ := @printJob_ok o.crate clock s.app name req record _ hp
                rw [hjobs]
                exact recorded_of_created hx hf hreply
        | createJob =>
            rw [if_pos (show Operation.createJob.creates = true from rfl), dispatch_createJob hc]
            exact recorded_of_created hx hf rfl
        | _ =>
            refine .same (dispatch_sameJobs ?_ hop.1)
            rw [hc]
            rfl
  | _ => exact hother (fun _ _ _ h => by cases h) rfl

/-- The server stays where it was started. -/
theorem step_address (hs : step o s a = some (s', ev)) :
    s'.app.host = s.app.host ∧ s'.app.port = s.app.port := by
  cases a with
  | request clock name body =>
      rcases step_request hs with ⟨_, _, rfl, _⟩ | ⟨_, _, _, _, _, _, rfl⟩ |
        ⟨_, _, _, _, _, _, rfl⟩ | ⟨req, record, _, _, rfl, _⟩
      · exact ⟨rfl, rfl⟩
      · exact ⟨rfl, rfl⟩
      · exact ⟨rfl, rfl⟩
      · show (dispatch o.crate clock s.app name req record).app.host = _ ∧
          (dispatch o.crate clock s.app name req record).app.port = _
        rw [dispatch_frame]
        exact ⟨rfl, rfl⟩
  | cancelNext i now =>
      obtain ⟨_, _, ⟨_, _, _, _, rfl⟩ | ⟨_, rfl, _⟩⟩ := step_cancelNext hs
      · exact ⟨rfl, rfl⟩
      · exact ⟨rfl, rfl⟩
  | identified i =>
      obtain ⟨_, _, rfl, _⟩ := step_identified hs
      exact ⟨rfl, rfl⟩
  | worker i now =>
      obtain ⟨_, _, _, _, _, rfl⟩ := step_worker hs
      exact ⟨rfl, rfl⟩
  | outcome i out =>
      obtain ⟨_, _, _, _, rfl⟩ := step_outcome hs
      exact ⟨rfl, rfl⟩
  | pollTick =>
      obtain ⟨_, _, rfl⟩ := step_pollTick hs
      exact ⟨rfl, rfl⟩
  | pollAnswer status =>
      obtain ⟨_, _, _, _, _, _, rfl, _⟩ := step_pollAnswer hs
      exact ⟨rfl, rfl⟩
  | poll =>
      obtain ⟨_, _, _, rfl⟩ := step_poll hs
      exact ⟨rfl, rfl⟩
  | mediaPost name form =>
      rcases step_mediaPost hs with rfl | ⟨_, _, rfl⟩
      · exact ⟨rfl, rfl⟩
      · exact ⟨rfl, rfl⟩
  | mediaAnswer i refusal =>
      obtain ⟨_, _, _, _, _, rfl⟩ := step_mediaAnswer hs
      exact ⟨rfl, rfl⟩
  | media i =>
      obtain ⟨_, _, _, _, _, rfl⟩ := step_media hs
      exact ⟨rfl, rfl⟩

end Steps

/-- The creation is of the job with this identity, at this position. -/
structure Notes (host : String) (port : Nat) (i : JobIdentity) (n : Nat) (c : Creation) : Prop where
  slot : c.slot = n
  printer : c.printer = i.printerName
  owner : c.owner = i.owner
  carries : ∀ j : JobRecord, j.id = i.id →
    Carries (c.reply.valueOf .jobAttributes) j (queueUri host port i.printerName)

/-- The creations noted are the chronicle of the registry. -/
def Chronicled (p : System × List Creation) : Prop :=
  Chronicle.Kept JobRecord.identity (JobIdentity.uriFits p.1.app.host p.1.app.port)
    (Notes p.1.app.host p.1.app.port) p.1.app.jobs.jobs p.2

section Runs

variable {o : Options} {d : Deployment} {tr : List Event} {s s' : System}
  {created : List Creation}

/-- A job with the same id is carried as well. -/
theorem Carries.same_id {read : String → Option IppValue} {j j' : JobRecord} {uriStr : String}
    (h : Carries read j uriStr) (hid : j'.id = j.id) : Carries read j' uriStr := by
  obtain ⟨hjob, b, hb, huri⟩ := h
  refine ⟨?_, b, ?_, huri⟩
  · unfold JobRecord.wireId at hjob ⊢
    rw [hid]
    exact hjob
  · unfold IppPrinterApp.jobUri at hb ⊢
    rw [hid]
    exact hb

theorem Recorded.chronicled {g : JobRegistry} {c : Option Creation} (h : Recorded s g c)
    (hk : Chronicled (s, created)) (hg : s'.app.jobs = g) (hhost : s'.app.host = s.app.host)
    (hport : s'.app.port = s.app.port) : Chronicled (s', created ++ c.toList) := by
  unfold Chronicled at hk ⊢
  dsimp only at hk ⊢
  rw [hg, hhost, hport]
  cases h with
  | same h =>
      rw [Option.toList_none, List.append_nil]
      exact hk.same_keys h
  | accepted now name owner reply hg' hfit hc =>
      subst hg'
      exact hk.add_due hfit ⟨rfl, rfl, rfl, fun j hj => hc.same_id hj⟩
  | unanswered now name owner hg' hfit =>
      subst hg'
      rw [Option.toList_none, List.append_nil]
      exact hk.add_other hfit

/-- **In every run the accepted creations are the chronicle of the registry.** -/
theorem run_chronicled (hx : o.crate.BuildsResponses)
    (h : Run (noting o) anyStep (boot d, []) tr (s, created)) : Chronicled (s, created) := by
  have hstart : Chronicled (boot d, []) := Chronicle.kept_nil
  refine Run.always (I := Chronicled) hstart ?_ h
  rintro ⟨s, created⟩ a ⟨s', created'⟩ ev hk _ hs
  obtain ⟨hs', hnote⟩ := step_withHistory hs
  obtain ⟨hhost, hport⟩ := step_address hs'
  dsimp only at hnote
  rw [hnote]
  exact (step_recorded hx hs').chronicled hk rfl hhost hport

end Runs

/-- The ids of a registry are `u32`s. -/
theorem JobRegistry.Wf.inRange {g : JobRegistry} (h : g.Wf) : ∀ j ∈ g.jobs, j.InRange := by
  intro j hj
  obtain ⟨k, hk⟩ := List.mem_iff_getElem?.mp hj
  have hlt : JobRegistry.idAt k < 2 ^ 32 := by
    unfold JobRegistry.idAt
    omega
  exact Nat.lt_of_le_of_lt (Nat.le_of_eq (h.ids k j hk)) hlt

/-! ## 3. What a listing carries -/

/-- The attribute is asked for. -/
def wanted (requested : Option NameSet) (name : String) : Bool :=
  match requested with
  | none => true
  | some set => set.contains name

/-- **The group lists the job of a creation**: it holds the attributes of the job as it is now
    that are asked for and no others, and the job-id and job-uri of the reply to its creation. -/
structure Lists (g : IppAttributeGroup) (c : Creation) (j : JobRecord) (printerUriStr : String)
    (requested : Option NameSet) (clock : Clock) : Prop where
  tag : g.tag = .jobAttributes
  reads : ∀ name v, g.attributes.get? name = some v ↔
    (name, .ok v) ∈ jobAttributes j printerUriStr clock ∧ wanted requested name = true
  jobId : wanted requested "job-id" = true →
    g.attributes.get? "job-id" = c.reply.valueOf .jobAttributes "job-id"
  jobUri : wanted requested "job-uri" = true →
    g.attributes.get? "job-uri" = c.reply.valueOf .jobAttributes "job-uri"

section Groups

variable {j : JobRecord} {printerUriStr : String} {requested : Option NameSet} {clock : Clock}

theorem map_mk_ok {name : String} {b : Built} {a : IppAttribute}
    (h : b.map (IppAttribute.mk name) = .ok a) : (name, b) = (a.name, .ok a.value) := by
  cases b with
  | error f => cases h
  | ok v =>
      cases h
      rfl

/-- What is built for a group: the attributes that are asked for, each with its value. -/
theorem jobAttrsForGroup_ok {attrs : List IppAttribute}
    (h : jobAttrsForGroup j printerUriStr requested clock = .ok attrs) :
    ∃ out : List IppAttribute,
      jobAttributes j printerUriStr clock = out.map (fun a => (a.name, .ok a.value)) ∧
      attrs = out.filter fun a => wanted requested a.name := by
  unfold jobAttrsForGroup at h
  obtain ⟨out, hout, hret⟩ := bind_ok h
  refine ⟨out, ?_, ?_⟩
  · have hall := mapM_ok_iff.mp hout
    rw [← List.forall₂_eq_eq_eq, List.forall₂_map_right_iff]
    exact hall.imp fun e a he => map_mk_ok he
  · cases requested with
    | none =>
        cases hret
        exact (List.filter_eq_self.mpr fun _ _ => rfl).symm
    | some set =>
        cases hret
        rfl

/-- The group of the attributes reads as they do. -/
theorem group_reads {attrs : List IppAttribute}
    (h : jobAttrsForGroup j printerUriStr requested clock = .ok attrs) (name : String)
    (v : IppValue) :
    (AssocMap.ofList (attrs.map fun a => (a.name, a.value))).get? name = some v ↔
      (name, .ok v) ∈ jobAttributes j printerUriStr clock ∧ wanted requested name = true := by
  obtain ⟨out, hall, rfl⟩ := jobAttrsForGroup_ok h
  have hnames : (out.map IppAttribute.name).Nodup := by
    have hn := jobAttributes_nodup j printerUriStr clock
    rw [hall, List.map_map] at hn
    exact hn
  have hnodup : (((out.filter fun a => wanted requested a.name).map
      fun a => (a.name, a.value)).map Prod.fst).Nodup := by
    rw [List.map_map]
    exact hnames.sublist (List.Sublist.map _ List.filter_sublist)
  rw [AssocMap.get?_ofList_iff hnodup, hall, List.mem_map, List.mem_map]
  constructor
  · rintro ⟨a, ha, e⟩
    cases e
    obtain ⟨hmem, hw⟩ := List.mem_filter.mp ha
    exact ⟨⟨a, hmem, rfl⟩, hw⟩
  · rintro ⟨⟨a, hmem, e⟩, hw⟩
    cases e
    exact ⟨a, List.mem_filter.mpr ⟨hmem, hw⟩, rfl⟩

/-- **A group built for the job of a creation lists it.** -/
theorem lists_of_built {attrs : List IppAttribute} {c : Creation}
    (h : jobAttrsForGroup j printerUriStr requested clock = .ok attrs)
    (hc : Carries (c.reply.valueOf .jobAttributes) j printerUriStr) :
    Lists ⟨.jobAttributes, AssocMap.ofList (attrs.map fun a => (a.name, a.value))⟩ c j printerUriStr
      requested clock where
  tag := rfl
  reads := group_reads h
  jobId := fun hw => by
    rw [hc.jobId]
    exact (group_reads h "job-id" _).mpr ⟨mem_jobAttributes_jobId j printerUriStr clock, hw⟩
  jobUri := fun hw => by
    obtain ⟨b, hb, huri⟩ := hc.jobUri
    rw [huri]
    refine (group_reads h "job-uri" _).mpr ⟨?_, hw⟩
    have hbuilt : uri (IppPrinterApp.jobUri j printerUriStr) = .ok (.uri b) := by
      rw [← hb]
      exact uri_val b
    rw [← hbuilt]
    exact mem_jobAttributes_jobUri j printerUriStr clock

end Groups

/-! ## 4. Get-Jobs -/

/-- A response starts without any job. -/
def IppCrate.StartsWithoutJobs (x : IppCrate) : Prop :=
  ∀ version status requestId r, x.newResponse version status requestId = .ok r →
    ∀ g ∈ r.groups, g.tag ≠ .jobAttributes

/-- The filter of a Get-Jobs request. -/
def listingFilter (x : IppCrate) (req : IppRequest) : Option NameSet :=
  effectiveFilter (extractRequestedAttributes x req) ["job-uri", "job-id"]

/-- The creation is one a Get-Jobs request to the printer asks for. -/
def Creation.asked (p : String) (req : IppRequest) (c : Creation) : Bool :=
  c.printer == p && (!myJobsFlag req || c.owner == requestingUser req)

/-- **The reply lists the creations**: it has a job group for each of them that is asked for, in
    their order, and no other one. -/
def ListsCreations (o : Options) (s : System) (created : List Creation) (clock : Clock) (p : String)
    (body : List UInt8) (req : IppRequest) : Prop :=
  ∃ resp, (handleIpp o.crate clock s.app p body).reply = .ok resp ∧
    resp.status = .successfulOk ∧
    List.Forall₂ (fun g c => ∃ j, s.app.jobs.jobs[c.slot]? = some j ∧
        Lists g c j (queueUri s.app.host s.app.port p) (listingFilter o.crate req) clock)
      (resp.groups.filter fun g => g.tag == .jobAttributes)
      (created.filter (Creation.asked p req))

section Listing

variable {o : Options} {d : Deployment} {tr : List Event} {s : System} {created : List Creation}
  {clock : Clock} {p : String} {body : List UInt8} {req : IppRequest} {record : PrinterRecord}

/-- The listed jobs, selected by who they are. -/
def JobIdentity.asked (p : String) (req : IppRequest) (i : JobIdentity) : Bool :=
  i.printerName == p && (!myJobsFlag req || i.owner == requestingUser req)

theorem listedJobs_eq (app : AppState) (p : String) (req : IppRequest) :
    listedJobs app p req = app.jobs.jobs.filter fun j => j.identity.asked p req := by
  unfold listedJobs JobRegistry.jobsForPrinter JobIdentity.asked
  cases hm : myJobsFlag req with
  | true =>
      rw [if_pos rfl, List.filter_filter]
      refine List.filter_congr fun j _ => ?_
      rw [Bool.and_comm]
      rfl
  | false =>
      rw [if_neg Bool.false_ne_true]
      refine List.filter_congr fun j _ => ?_
      exact (Bool.and_true _).symm

/-- **The listed jobs are those of the creations asked for**, in the same order, and each is named
    as in the reply to its creation, if their URIs fit. -/
theorem listed_creations (hk : Chronicled (s, created)) (hname : record.config.name = p)
    (hfit : ∀ j ∈ listedJobs s.app p req, j.Fits record s.app.host s.app.port) :
    List.Forall₂ (fun j c => s.app.jobs.jobs[c.slot]? = some j ∧
        Carries (c.reply.valueOf .jobAttributes) j (queueUri s.app.host s.app.port p))
      (listedJobs s.app p req) (created.filter (Creation.asked p req)) := by
  have hprinter : ∀ j ∈ listedJobs s.app p req, j.printerName = p := by
    intro j hj
    rw [listedJobs_eq] at hj
    have hasked := (List.mem_filter.mp hj).2
    unfold JobIdentity.asked at hasked
    rw [Bool.and_eq_true] at hasked
    exact beq_iff_eq.mp hasked.1
  have hselected : List.Forall₂ (fun j c => ∃ n, s.app.jobs.jobs[n]? = some j ∧
      Notes s.app.host s.app.port j.identity n c)
      (listedJobs s.app p req) (created.filter (Creation.asked p req)) := by
    rw [listedJobs_eq]
    refine Chronicle.Kept.select hk (fun i n c hn => ?_) fun j hj hasked => ?_
    · unfold JobIdentity.asked Creation.asked
      rw [hn.printer, hn.owner]
    · have hlisted : j ∈ listedJobs s.app p req := by
        rw [listedJobs_eq]
        exact List.mem_filter.mpr ⟨hj, hasked⟩
      exact (uriFits_iff _ _ _ _ (hname.trans (hprinter j hlisted).symm)).mpr (hfit j hlisted).jobUri
  refine ((List.forall₂_and_left _ _).mpr ⟨hprinter, hselected⟩).imp ?_
  rintro j c ⟨hp, n, hn, hnotes⟩
  have hc := hnotes.carries j rfl
  have hp' : j.identity.printerName = p := hp
  rw [hp'] at hc
  rw [hnotes.slot]
  exact ⟨hn, hc⟩

/-- What a built listing is made of. -/
theorem buildGetJobsResponse_ok {x : IppCrate} {version : IppVersion} {requestId : Nat}
    {jobs : List JobRecord} {printerUriStr : String} {requested : Option NameSet}
    {resp : IppResponse}
    (h : buildGetJobsResponse x version requestId jobs printerUriStr requested clock = .ok resp) :
    ∃ r groups, x.newResponse version .successfulOk requestId = .ok r ∧
      resp.groups = r.groups ++ groups ∧
      List.Forall₂ (fun j g => ∃ attrs, jobAttrsForGroup j printerUriStr requested clock = .ok attrs ∧
        g = ⟨.jobAttributes, AssocMap.ofList (attrs.map fun a => (a.name, a.value))⟩) jobs groups := by
  unfold buildGetJobsResponse at h
  obtain ⟨r, hr, h'⟩ := bind_ok h
  obtain ⟨groups, hgroups, hret⟩ := bind_ok h'
  refine ⟨r, groups, ?_, ?_, ?_⟩
  · unfold newResponse at hr
    split at hr
    · rename_i r' hr'
      cases hr
      exact hr'
    · cases hr
  · cases hret
    rfl
  · refine (mapM_ok_iff.mp hgroups).imp fun j g hg => ?_
    cases ha : jobAttrsForGroup j printerUriStr requested clock with
    | error f =>
        rw [ha] at hg
        cases hg
    | ok attrs =>
        rw [ha] at hg
        cases hg
        exact ⟨attrs, rfl, rfl⟩

/-- The reply to Get-Jobs. -/
theorem handleIpp_getJobs (clock : Clock) (hg : gates o.crate s.app p body = .ok (req, record))
    (hop : operationOf o.crate req.operationOrStatus = .getJobs) :
    (handleIpp o.crate clock s.app p body).reply =
      .ofBuilt (buildGetJobsResponse o.crate req.version req.requestId (listedJobs s.app p req)
        (printerUri record s.app.host s.app.port) (listingFilter o.crate req) clock) := by
  unfold handleIpp
  rw [hg]
  dsimp only
  rw [dispatch_getJobs hop]
  rfl

/-- **Get-Jobs against the creations.** In every run, Get-Jobs lists the jobs created through the
    printer (those of the requesting user if `my-jobs` is set) in the order of their creation, each
    as it is now and as the reply to its creation named it, if and only if the URIs and messages
    of the jobs to list fit. -/
theorem get_jobs_lists_iff (hx : o.crate.BuildsResponses) (hj : o.crate.StartsWithoutJobs)
    (h : Run (noting o) anyStep (boot d, []) tr (s, created))
    (hg : gates o.crate s.app p body = .ok (req, record))
    (hop : operationOf o.crate req.operationOrStatus = .getJobs) :
    ListsCreations o s created clock p body req ↔
      ∀ j ∈ listedJobs s.app p req, j.Fits record s.app.host s.app.port := by
  have hrun : Run (server o) anyStep (boot d) tr s :=
    (run_iff_withHistory (G := anyStep) []).mpr ⟨created, h⟩
  have hwf := run_wf hrun
  have hrange : ∀ j ∈ listedJobs s.app p req, j.InRange := by
    intro j hm
    rw [listedJobs_eq] at hm
    exact hwf.inRange j (List.mem_of_mem_filter hm)
  have hname := findPrinter_name (gates_ok hg).printer
  have huri : printerUri record s.app.host s.app.port = queueUri s.app.host s.app.port p := by
    rw [← hname]
    rfl
  have hreply := handleIpp_getJobs clock hg hop
  have hbuilt : BuiltIf o.crate req.version req.requestId
      (buildGetJobsResponse o.crate req.version req.requestId (listedJobs s.app p req)
        (printerUri record s.app.host s.app.port) (listingFilter o.crate req) clock)
      (∀ j ∈ listedJobs s.app p req, j.Fits record s.app.host s.app.port) :=
    builtIf_buildGetJobsResponse hrange _
  rcases hbuilt.cases hx with
    ⟨hfit, resp, hresp, hst, _⟩ | ⟨hfit, what, hpanic⟩
  · refine iff_of_true ⟨resp, ?_, hst, ?_⟩ hfit
    · rw [hreply, hresp]
      rfl
    · obtain ⟨r, groups, hr, hgroups, hbuilt⟩ := buildGetJobsResponse_ok hresp
      have hnone : r.groups.filter (fun g => g.tag == .jobAttributes) = [] :=
        List.filter_eq_nil_iff.mpr fun g hgm => by
          simpa using hj _ _ _ r hr g hgm
      have hlists := (Chronicle.forall₂_comp hbuilt.flip
        (listed_creations (run_chronicled hx h) hname hfit)).imp fun g c hgc =>
          show ∃ j, s.app.jobs.jobs[c.slot]? = some j ∧ Lists g c j
              (queueUri s.app.host s.app.port p) (listingFilter o.crate req) clock by
            obtain ⟨j, ⟨attrs, hattrs, rfl⟩, hn, hc⟩ := hgc
            rw [huri] at hattrs
            exact ⟨j, hn, lists_of_built hattrs hc⟩
      have htags : ∀ g ∈ groups, g.tag = .jobAttributes :=
        ((List.forall₂_and_left _ _).mp (hlists.imp fun g c hgc =>
          ⟨hgc.elim fun _ hl => hl.2.tag, hgc⟩)).1
      have hall : groups.filter (fun g => g.tag == .jobAttributes) = groups :=
        List.filter_eq_self.mpr fun g hgm => beq_iff_eq.mpr (htags g hgm)
      rw [hgroups, List.filter_append, hnone, hall, List.nil_append]
      exact hlists
  · refine iff_of_false ?_ hfit
    rintro ⟨resp, hr, _⟩
    rw [hreply, hpanic] at hr
    cases hr

end Listing

namespace Trial

/-- Get-Jobs. -/
def list : Message := ⟨0x000a, [], []⟩

/-- The crate with Get-Jobs among the messages it parses. -/
def listingCrate : IppCrate :=
  { crate with
    parse := fun body => if body = list.body then .ok list.request else crate.parse body }

def listingOptions : Options := { options with crate := listingCrate }

theorem listingCrate_parse : listingCrate.parse list.body = .ok list.request := by
  show (if list.body = list.body then .ok list.request else crate.parse list.body) = _
  exact if_pos rfl

theorem listingCrate_buildsResponses : listingCrate.BuildsResponses := crate_buildsResponses

theorem listingCrate_startsWithoutJobs : listingCrate.StartsWithoutJobs := by
  intro version status requestId r hr g hg
  cases hr
  rw [List.mem_singleton.mp hg]
  exact fun h => by cases h

/-- Create-Job on the first printer, on the second, and Print-Job on the first, whose callback
    fails with a message. -/
def failing (message : String) : List Action :=
  [post "p" create, post "q" create, post "p" print] ++ times 4 (.worker 0 5) ++
    [.outcome 0 (.failed ⟨.MEDIA_JAM, message⟩)] ++ times 3 (.worker 0 6)

/-- Where that leads. -/
def afterFailure (message : String) : System × List Creation :=
  endOf (noting listingOptions) anyStep (boot deployment, []) (failing message)

end Trial

theorem get_jobs_lists_iff_jam :
    ListsCreations Trial.listingOptions (Trial.afterFailure "jam").1 (Trial.afterFailure "jam").2
      Trial.clock "p" Trial.list.body Trial.list.request := by
  have hrun : Run (noting Trial.listingOptions) anyStep (boot Trial.deployment, [])
      (traceOf (noting Trial.listingOptions) anyStep (boot Trial.deployment, [])
        (Trial.failing "jam"))
      ((Trial.afterFailure "jam").1, (Trial.afterFailure "jam").2) :=
    run_endOf_pair (by decide +kernel)
  obtain ⟨⟨req, record⟩, hadm⟩ := Option.isSome_iff_exists.mp (show (admitted Trial.listingCrate
    (Trial.afterFailure "jam").1.app "p" Trial.list.body).isSome = true by decide +kernel)
  have hg := mem_admitted.mp hadm
  have hreq : req = Trial.list.request :=
    Except.ok.inj ((gates_ok hg).parsed.symm.trans Trial.listingCrate_parse)
  subst hreq
  have hfits : ∀ r ∈ findPrinter (Trial.afterFailure "jam").1.app.printers "p",
      ∀ j ∈ listedJobs (Trial.afterFailure "jam").1.app "p" Trial.list.request,
        j.Fits r (Trial.afterFailure "jam").1.app.host (Trial.afterFailure "jam").1.app.port := by
    decide +kernel
  exact (get_jobs_lists_iff Trial.listingCrate_buildsResponses Trial.listingCrate_startsWithoutJobs
    hrun hg rfl).mpr (hfits record (gates_ok hg).printer)

/-- A message of 1024 octets: no job of the printer is listed any more. -/
theorem long_message_hides_jobs :
    ¬ ∀ (o : Options) (d : Deployment) (tr : List Event) (s : System) (created : List Creation)
        (clock : Clock) (p : String) (body : List UInt8) (req : IppRequest)
        (record : PrinterRecord), o.crate.BuildsResponses → o.crate.StartsWithoutJobs →
        Run (noting o) anyStep (boot d, []) tr (s, created) →
        gates o.crate s.app p body = .ok (req, record) →
        operationOf o.crate req.operationOrStatus = .getJobs →
        ListsCreations o s created clock p body req := by
  intro h
  have hrun : Run (noting Trial.listingOptions) anyStep (boot Trial.deployment, [])
      (traceOf (noting Trial.listingOptions) anyStep (boot Trial.deployment, [])
        (Trial.failing Trial.longMessage))
      ((Trial.afterFailure Trial.longMessage).1, (Trial.afterFailure Trial.longMessage).2) :=
    run_endOf_pair (by decide +kernel)
  obtain ⟨⟨req, record⟩, hadm⟩ := Option.isSome_iff_exists.mp (show (admitted Trial.listingCrate
    (Trial.afterFailure Trial.longMessage).1.app "p" Trial.list.body).isSome = true by
      decide +kernel)
  have hg := mem_admitted.mp hadm
  have hreq : req = Trial.list.request :=
    Except.ok.inj ((gates_ok hg).parsed.symm.trans Trial.listingCrate_parse)
  subst hreq
  obtain ⟨resp, hreply, _⟩ := h Trial.listingOptions Trial.deployment _ _ _ Trial.clock "p"
    Trial.list.body Trial.list.request record Trial.listingCrate_buildsResponses
    Trial.listingCrate_startsWithoutJobs hrun hg rfl
  -- no answer at all is sent
  have hpanic : ¬(handleIpp Trial.listingOptions.crate Trial.clock
        (Trial.afterFailure Trial.longMessage).1.app "p" Trial.list.body).reply.Successful ∧
      ¬(handleIpp Trial.listingOptions.crate Trial.clock
        (Trial.afterFailure Trial.longMessage).1.app "p" Trial.list.body).reply.Refuses := by
    decide +kernel
  rw [hreply] at hpanic
  exact hpanic.2 hpanic.1

end IppPrinterApp
