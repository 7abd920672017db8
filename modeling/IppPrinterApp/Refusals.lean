/-
  File:      IppPrinterApp/Refusals.lean
  Subject:   Refused requests, and what the builders of responses can do.

  Every exit of the handler with something else than a successful status comes before the
  effects: an operation that has created a job, started a worker or called the device only
  answers successfully from there on, and a cancel that is refused has changed nothing.

  * `Accepts`: a builder either answers successfully or panics, so it never refuses;
  * `cancel_unchanged`: a cancel that does not end in Canceled leaves the registry alone;
  * `refused_request_no_effect`: **a refused request has no effect**, and a malformed one is
    refused.

  A failing `expect` is no answer (`Reply.panic`): what is said here is said of answers.
-/
import IppPrinterApp.Persist

namespace IppPrinterApp

/-! ## 1. What a builder can do -/

/-- A built response is successful, and what goes wrong in building it is a panic. -/
def Accepts : Except Fault IppResponse → Prop
  | .ok resp => resp.status = .successfulOk
  | .error (.panic _) => True
  | .error (.error _) => False

/-- A value that is there, or whose building panics. -/
def Sound {α : Type} : Except Fault α → Prop
  | .ok _ => True
  | .error (.panic _) => True
  | .error (.error _) => False

section Builders

variable {α β : Type}

theorem Sound.map {f : α → β} {e : Except Fault α} (h : Sound e) : Sound (e.map f) := by
  match e, h with
  | .ok _, _ => trivial
  | .error (.panic _), _ => trivial

theorem sound_expectInto (max : Nat) (s what : String) : Sound (expectInto max s what) := by
  unfold expectInto
  split <;> trivial

theorem sound_mapM {f : α → Except Fault β} {l : List α} (hf : ∀ a ∈ l, Sound (f a)) :
    Sound (l.mapM f) := by
  induction l with
  | nil => exact trivial
  | cons a l ih =>
      have hl := ih fun a' ha' => hf a' (List.mem_cons_of_mem a ha')
      rw [List.mapM_cons]
      match he : f a, hf a List.mem_cons_self with
      | .error (.panic _), _ => exact trivial
      | .ok b, _ =>
          match hbs : l.mapM f, hl with
          | .error (.panic _), _ => exact trivial
          | .ok bs, _ => exact trivial

theorem sound_keywords (items : List String) : Sound (keywords items) := by
  unfold keywords arrayOf
  refine Sound.map ?_
  rw [List.mapM_map]
  exact sound_mapM fun s _ => (sound_expectInto 255 s "keyword").map

/-- Adding sound attributes keeps the status. -/
theorem accepts_addAll {tag : DelimiterTag} {attrs : List (String × Built)}
    (hs : ∀ e ∈ attrs, Sound e.2) {resp : IppResponse} (h : resp.status = .successfulOk) :
    Accepts (addAll tag resp attrs) := by
  unfold addAll
  induction attrs generalizing resp with
  | nil => exact h
  | cons e attrs ih =>
      rw [List.foldlM_cons]
      have hrest := fun e' he' => hs e' (List.mem_cons_of_mem e he')
      match hv : e.2, hs e List.mem_cons_self with
      | .error (.panic _), _ => exact trivial
      | .ok v, _ =>
          have hadd : (resp.add tag ⟨e.1, v⟩).status = .successfulOk := h
          exact ih hrest hadd

theorem accepts_printJobAccepted {x : IppCrate} (hx : x.BuildsResponses) (version : IppVersion)
    (requestId : Nat) (job : JobRecord) (printerUriStr : String) :
    Accepts (printJobAccepted x version requestId job printerUriStr) := by
  obtain ⟨r, hr, _, hst, _⟩ := hx version .successfulOk requestId
  have hnew : newResponse x version .successfulOk requestId = .ok r := by
    unfold newResponse
    rw [hr]
  unfold printJobAccepted
  rw [hnew]
  refine accepts_addAll (fun e he => ?_) hst
  simp only [List.mem_cons, List.not_mem_nil, or_false] at he
  rcases he with rfl | rfl | rfl | rfl
  · exact (sound_expectInto 1023 _ "uri").map
  · trivial
  · trivial
  · exact sound_keywords _

/-- Every attribute of a job is sound. -/
theorem sound_jobAttributes (job : JobRecord) (printerUriStr : String) (clock : Clock) :
    ∀ e ∈ jobAttributes job printerUriStr clock, Sound e.2 := by
  have hname : ∀ s, Sound (nameValue s) := fun s => (sound_expectInto 255 s "name").map
  have huri : ∀ s, Sound (uri s) := fun s => (sound_expectInto 1023 s "uri").map
  have howner : Sound (ownerValue job.owner) := by
    unfold ownerValue
    split
    · trivial
    · exact hname _
  intro e he
  unfold jobAttributes at he
  simp only [List.mem_append, List.mem_cons, List.not_mem_nil, or_false] at he
  rcases he with ((he | he) | he) | he
  · rcases he with rfl | rfl | rfl | rfl | rfl | rfl | rfl | rfl
    · exact huri _
    · trivial
    · exact huri _
    · exact hname _
    · trivial
    · exact howner
    · trivial
    · exact sound_keywords _
  · split at he
    · cases he
    · rw [List.mem_singleton.mp he]
      exact (sound_expectInto 1023 _ "text").map
  · rcases he with rfl | rfl
    · trivial
    · trivial
  · split at he
    · rw [List.mem_singleton.mp he]
      trivial
    · cases he

theorem sound_jobAttrsForGroup (job : JobRecord) (printerUriStr : String)
    (requested : Option NameSet) (clock : Clock) :
    Sound (jobAttrsForGroup job printerUriStr requested clock) := by
  have hm : Sound ((jobAttributes job printerUriStr clock).mapM fun e =>
      e.2.map (IppAttribute.mk e.1)) :=
    sound_mapM fun e he => (sound_jobAttributes job printerUriStr clock e he).map
  unfold jobAttrsForGroup
  match hout : (jobAttributes job printerUriStr clock).mapM fun e =>
      e.2.map (IppAttribute.mk e.1), hm with
  | .error (.panic _), _ => exact trivial
  | .ok out, _ => cases requested <;> exact trivial

theorem foldl_add_status (tag : DelimiterTag) (attrs : List IppAttribute) (resp : IppResponse) :
    (attrs.foldl (fun r a => r.add tag a) resp).status = resp.status := by
  induction attrs generalizing resp with
  | nil => rfl
  | cons a attrs ih => exact ih (resp.add tag a)

theorem accepts_buildJobAttrsResponse {x : IppCrate} (hx : x.BuildsResponses)
    (version : IppVersion) (requestId : Nat) (job : JobRecord) (printerUriStr : String)
    (requested : Option NameSet) (clock : Clock) :
    Accepts (buildJobAttrsResponse x version requestId job printerUriStr requested clock) := by
  obtain ⟨r, hr, _, hst, _⟩ := hx version .successfulOk requestId
  have hnew : newResponse x version .successfulOk requestId = .ok r := by
    unfold newResponse
    rw [hr]
  unfold buildJobAttrsResponse
  rw [hnew]
  match hout : jobAttrsForGroup job printerUriStr requested clock,
      sound_jobAttrsForGroup job printerUriStr requested clock with
  | .error (.panic _), _ => exact trivial
  | .ok attrs, _ =>
      show ((attrs.foldl (fun r a => r.add .jobAttributes a) r).status = .successfulOk)
      rw [foldl_add_status]
      exact hst

/-- A reply made of an accepting response is no refusal. -/
theorem Accepts.not_refuses {e : Except Fault IppResponse} (h : Accepts e) :
    ¬ (Reply.ofBuilt e).Refuses := by
  match e, h with
  | .ok resp, h => exact fun hr => hr h
  | .error (.panic _), _ => exact fun hr => hr

end Builders

/-! ## 2. The operations -/

/-- The request changed nothing, started no worker and did not call on the device. -/
structure Handled.Untouched (app : AppState) (h : Handled) : Prop where
  app_eq : h.app = app
  spawned : h.spawned = none
  identified : h.identified = none

/-- **A cancel that does not end in Canceled leaves the registry alone.** -/
theorem JobRegistry.cancel_unchanged {g : JobRegistry} {now : SystemTime} {id : JobId}
    (h : (g.cancel now id).1 ≠ some .canceled) : (g.cancel now id).2 = g := by
  have hjobs : (g.update id (·.withCancel now)).jobs = g.jobs := by
    refine List.ext_getElem? fun k => ?_
    rw [JobRegistry.update_getElem?]
    split
    · rename_i hk
      rw [← hk, ← JobRegistry.get_eq_getElem?]
      cases hg : g.get id with
      | none => rfl
      | some j =>
          cases ht : j.state.isTerminal with
          | true => rw [Option.map_some, JobRecord.withCancel_terminal ht]
          | false =>
              refine absurd ?_ h
              unfold JobRegistry.cancel
              rw [hg, Option.map_some, JobRecord.withCancel_active ht]
    · rfl
  show ({ g with jobs := (g.update id (·.withCancel now)).jobs } : JobRegistry) = g
  rw [hjobs]

section Operations

variable {x : IppCrate} {clock : Clock} {app : AppState} {name : String} {body : List UInt8}
  {req : IppRequest} {record : PrinterRecord}

theorem untouched_answer (app : AppState) (reply : Reply) :
    (app.answer reply).Untouched app := ⟨rfl, rfl, rfl⟩

theorem printJob_refused (hx : x.BuildsResponses)
    (h : (printJob x clock app name req record).reply.Refuses) :
    (printJob x clock app name req record).Untouched app := by
  unfold printJob at h ⊢
  split at h
  · exact untouched_answer app _
  · rename_i payload hp
    have hacc := accepts_printJobAccepted hx req.version req.requestId
      (app.jobs.create clock.now name (requestingUser req)).1
      (record.config.printerUri app.host app.port)
    dsimp only at h
    split at h
    · rename_i e he
      rw [he] at hacc
      exact absurd h hacc.not_refuses
    · rename_i accepted he
      rw [he] at hacc
      exact absurd h hacc.not_refuses

theorem createJob_refused (hx : x.BuildsResponses)
    (h : (createJob x clock app name req record).reply.Refuses) :
    (createJob x clock app name req record).Untouched app :=
  absurd h (accepts_printJobAccepted hx req.version req.requestId _ _).not_refuses

theorem sendDocument_refused (hx : x.BuildsResponses)
    (h : (sendDocument x clock app name req record).reply.Refuses) :
    (sendDocument x clock app name req record).Untouched app := by
  unfold sendDocument at h ⊢
  split at h
  · rename_i hl
    rw [if_pos hl]
    exact untouched_answer app _
  · rename_i hl
    rw [if_neg hl]
    cases hid : extractJobId req with
    | none => exact untouched_answer app _
    | some id =>
        rw [hid] at h
        dsimp only at h ⊢
        cases hg : app.jobs.get id with
        | none => exact untouched_answer app _
        | some job =>
            rw [hg] at h
            dsimp only at h ⊢
            cases hp : req.payload with
            | error e => exact untouched_answer app _
            | ok payload =>
                rw [hp] at h
                exact absurd h (accepts_buildJobAttrsResponse hx _ _ _ _ _ _).not_refuses

theorem cancelJob_refused (hx : x.BuildsResponses)
    (h : (cancelJob x clock app req).reply.Refuses) :
    (cancelJob x clock app req).Untouched app := by
  unfold cancelJob at h ⊢
  split at h
  · exact untouched_answer app _
  · rename_i id hid
    have hst := (respond_refuses hx _ _ _).mp h
    have hsame : (app.jobs.cancel clock.now id).2 = app.jobs := by
      refine JobRegistry.cancel_unchanged fun e => hst ?_
      rw [e]
    refine ⟨?_, rfl, rfl⟩
    show ({ app with jobs := (app.jobs.cancel clock.now id).2 } : AppState) = app
    rw [hsame]

theorem getJobAttributes_untouched :
    (getJobAttributes x clock app req record).Untouched app := by
  unfold getJobAttributes
  split
  · exact untouched_answer app _
  · split <;> exact untouched_answer app _

/-- A refused operation has no effect. -/
theorem dispatch_refused (hx : x.BuildsResponses)
    (h : (dispatch x clock app name req record).reply.Refuses) :
    (dispatch x clock app name req record).Untouched app := by
  unfold dispatch at h ⊢
  split at h
  · exact untouched_answer app _
  · exact absurd rfl ((respond_refuses hx _ _ _).mp h)
  · exact absurd rfl ((respond_refuses hx _ _ _).mp h)
  · exact untouched_answer app _
  · exact untouched_answer app _
  · exact printJob_refused hx h
  · exact createJob_refused hx h
  · exact sendDocument_refused hx h
  · exact untouched_answer app _
  · exact getJobAttributes_untouched
  · exact cancelJob_refused hx h
  · exact untouched_answer app _
  · exact untouched_answer app _

/-- What no request may be: of another major version than 1 or 2, with ill-ordered operation
    attributes, with request-id 0, or without a target. -/
def Malformed (req : IppRequest) (body : List UInt8) : Prop :=
  ¬(req.version / 256 = 1 ∨ req.version / 256 = 2) ∨
    operationAttributesWellOrdered body = false ∨ req.requestId = 0 ∨
    (hasOperationAttr req "printer-uri" = false ∧ hasOperationAttr req "job-uri" = false)

/-- A malformed request does not pass the gates. -/
theorem gates_malformed (hparse : x.parse body = .ok req) (hm : Malformed req body) :
    ∃ reply, gates x app name body = .error reply := by
  cases hg : gates x app name body with
  | error reply => exact ⟨reply, rfl⟩
  | ok e =>
      obtain ⟨req', record'⟩ := e
      have ha := gates_ok hg
      have e : req' = req := Except.ok.inj (ha.parsed.symm.trans hparse)
      subst e
      rcases hm with hv | ho | hid | ⟨hp, hj⟩
      · exact absurd ha.version hv
      · rw [ha.ordered] at ho
        cases ho
      · exact absurd hid ha.requestId
      · rcases ha.target with ht | ht
        · rw [hp] at ht
          cases ht
        · rw [hj] at ht
          cases ht

/-- What ends a request at the gates is a refusal. -/
theorem gates_error_refuses (hx : x.BuildsResponses) {reply : Reply}
    (h : gates x app name body = .error reply) : reply.Refuses := by
  unfold gates at h
  split at h
  · cases h
    trivial
  · split at h
    · cases h
      exact (respond_refuses hx _ _ _).mpr (by decide)
    · split at h
      · cases h
        exact (respond_refuses hx _ _ _).mpr (by decide)
      · split at h
        · cases h
          exact (respond_refuses hx _ _ _).mpr (by decide)
        · split at h
          · cases h
            exact (respond_refuses hx _ _ _).mpr (by decide)
          · split at h
            · cases h
              trivial
            · cases h

/-- **A refused request has no effect**: where the handler answers with anything but a successful
    status, the registries are as before, no worker was started and the device was not asked to
    identify itself. A malformed request is refused. -/
theorem refused_request_no_effect (hx : x.BuildsResponses) (clock : Clock) (app : AppState)
    (name : String) (body : List UInt8) :
    ((handleIpp x clock app name body).reply.Refuses →
      (handleIpp x clock app name body).Untouched app) ∧
    (∀ req, x.parse body = .ok req → Malformed req body →
      (handleIpp x clock app name body).reply.Refuses ∧
        (handleIpp x clock app name body).Untouched app) := by
  constructor
  · intro h
    unfold handleIpp at h ⊢
    cases hg : gates x app name body with
    | error reply => exact untouched_answer app reply
    | ok e =>
        rw [hg] at h
        exact dispatch_refused hx h
  · intro req hparse hm
    obtain ⟨reply, hg⟩ : ∃ reply, gates x app name body = .error reply :=
      gates_malformed hparse hm
    unfold handleIpp
    rw [hg]
    exact ⟨gates_error_refuses hx hg, untouched_answer app reply⟩

end Operations

/-- Cancel-Job for a job that is not there. -/
theorem refused_request_no_effect_unknown :
    (handleIpp Trial.crate Trial.clock created.app "p" Trial.cancelUnknown.body).Untouched
      created.app :=
  (refused_request_no_effect Trial.crate_buildsResponses Trial.clock created.app "p"
    Trial.cancelUnknown.body).1 (by decide +kernel)

end IppPrinterApp
