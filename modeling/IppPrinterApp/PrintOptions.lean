/-
  File:      IppPrinterApp/PrintOptions.lean
  Subject:   The copies and the print quality of a request, from the request to the print callback.

  A printer announces 1 to 999 copies, 1 of them by default, and three qualities. A request names
  what it likes, or nothing; the readers of server.rs take the first attribute they can read.

  * `extractCopies_eq` -- the copies handed on, from the copies asked for;
  * `announced` -- what every full response of a printer announces;
  * `starting`, `run_handed` -- the requests of a run that start a worker, noted beside it: every
    call of the print callback carries what one of them was read to;
  * `print_options_iff`: **what is handed to the callback is what the printer announces exactly if
    the request asks for a number of copies and the first one it names is at most 999**;
  * `copies_missing` is a run of a request that names none, and its callback is told 0.
-/
import IppPrinterApp.Documents
import IppPrinterApp.JobRefs
import IppPrinterApp.MediaCollections

namespace IppPrinterApp

open AnyOrder Transition

/-! ## 1. What a request asks for -/

/-- The number of copies an attribute asks for. -/
def copiesOf (a : IppAttribute) : Option Int := if a.name = "copies" then a.value.toInteger else none

/-- The copies a request asks for: the first integer `copies`, group by group. -/
def IppRequest.askedCopies (req : IppRequest) : Option Int :=
  firstHit copiesOf (req.groups.map (·.values))

/-- No attribute is called `copies`. -/
def IppRequest.NamesNoCopies (req : IppRequest) : Prop :=
  ∀ g ∈ req.groups, ∀ a ∈ g.values, a.name ≠ "copies"

instance (req : IppRequest) : Decidable req.NamesNoCopies :=
  inferInstanceAs (Decidable (∀ g ∈ req.groups, ∀ a ∈ g.values, a.name ≠ "copies"))

/-- An `IppValue::Integer` holds an `i32`. -/
def IppValue.isI32 : IppValue → Bool
  | .integer n => decide (-2 ^ 31 ≤ n) && decide (n < 2 ^ 31)
  | _ => true

def IppRequest.IntegersFit (req : IppRequest) : Prop :=
  ∀ g ∈ req.groups, ∀ a ∈ g.values, a.value.isI32 = true

/-- **What the server relies on**: the integers of a parsed request are `i32`s. -/
def IppCrate.ParsesI32 (x : IppCrate) : Prop :=
  ∀ body req, x.parse body = .ok req → req.IntegersFit

section Request

variable {req : IppRequest}

/-- **The copies handed on**: the copies asked for, but not less than one; none asked for are
    handed on as 0. -/
theorem extractCopies_eq (req : IppRequest) :
    extractCopies req = (req.askedCopies.map fun n => asU32 (max n 1)).getD 0 := by
  unfold extractCopies IppRequest.askedCopies firstAttr firstHit
  rw [List.findSome?_map, List.map_findSome?]
  congr 2
  funext g
  dsimp only [Function.comp]
  rw [List.map_findSome?]
  congr 1
  funext a
  obtain ⟨name, value⟩ := a
  unfold copiesOf
  dsimp only [Function.comp]
  split
  · rfl
  · rename_i hno
    by_cases h : name = "copies"
    · rw [if_pos h]
      cases value with
      | integer n => exact absurd rfl (hno n h)
      | _ => rfl
    · rw [if_neg h]
      rfl

/-- What is asked for stands in the request. -/
theorem askedCopies_mem {n : Int} (h : req.askedCopies = some n) :
    ∃ g ∈ req.groups, ∃ a ∈ g.values, a.name = "copies" ∧ a.value = .integer n := by
  obtain ⟨vs, hvs, hg⟩ := List.exists_of_findSome?_eq_some h
  obtain ⟨g, hgm, rfl⟩ := List.mem_map.mp hvs
  obtain ⟨⟨name, value⟩, ha, hc⟩ := List.exists_of_findSome?_eq_some hg
  refine ⟨g, hgm, ⟨name, value⟩, ha, ?_⟩
  unfold copiesOf at hc
  split at hc
  · rename_i hname
    cases value with
    | integer m =>
        cases hc
        exact ⟨hname, rfl⟩
    | _ => cases hc
  · cases hc

theorem askedCopies_fit (hi : req.IntegersFit) {n : Int} (h : req.askedCopies = some n) :
    n < 2 ^ 31 := by
  obtain ⟨g, hg, a, ha, -, hv⟩ := askedCopies_mem h
  have hfit := hi g hg a ha
  rw [hv] at hfit
  exact of_decide_eq_true (Bool.and_eq_true_iff.mp hfit).2

theorem askedCopies_none (h : req.NamesNoCopies) : req.askedCopies = none := by
  cases hc : req.askedCopies with
  | none => rfl
  | some n =>
      obtain ⟨g, hg, a, ha, hname, -⟩ := askedCopies_mem hc
      exact absurd hname (h g hg a ha)

/-- **The copies handed on lie in the range exactly if** some are asked for, and the first of them
    at most 999. -/
theorem extractCopies_range (hi : req.IntegersFit) :
    (1 ≤ extractCopies req ∧ extractCopies req ≤ 999) ↔
      ∃ n, req.askedCopies = some n ∧ n ≤ 999 := by
  rw [extractCopies_eq]
  cases h : req.askedCopies with
  | none => simp
  | some n =>
      have hlt := askedCopies_fit hi h
      have hcast : asU32 (max n 1) = (max n 1).toNat := by
        unfold asU32
        rw [Int.emod_eq_of_lt (by omega) (by omega)]
      simp only [Option.map_some, Option.getD_some, hcast, Option.some.injEq, exists_eq_left']
      omega

/-- A quality that is read is one of three. -/
theorem extractPrintQuality_range {q : Nat} (h : extractPrintQuality req = some q) :
    q = 3 ∨ q = 4 ∨ q = 5 := by
  obtain ⟨g, -, hg⟩ := List.exists_of_findSome?_eq_some h
  obtain ⟨a, -, ha⟩ := List.exists_of_findSome?_eq_some hg
  split at ha
  · split at ha
    · cases ha
      omega
    · cases ha
  · cases ha

end Request

/-! ## 2. What a printer announces -/

/-- What a full response says of copies and qualities. -/
structure Announces (resp : IppResponse) : Prop where
  copies : resp.valueOf .printerAttributes "copies-supported" = some (.rangeOfInteger 1 999)
  default : resp.valueOf .printerAttributes "copies-default" = some (.integer 1)
  qualities : resp.valueOf .printerAttributes "print-quality-supported" =
    some (.array [.enum 3, .enum 4, .enum 5])

/-- **Every full response announces the same.** -/
theorem announced {x : IppCrate} {version : IppVersion} {requestId : Nat} {record : PrinterRecord}
    {host : String} {port : Nat} {clock : Clock} {resp : IppResponse}
    (hx : x.StartsWithoutPrinter)
    (h : getPrinterAttributes x version requestId record host port none clock = .ok resp) :
    Announces resp := by
  have hlimits : ∀ e ∈ jobLimitAttributes,
      ∃ v, e.2 = .ok v ∧ resp.valueOf .printerAttributes e.1 = some v := fun e he =>
    (getPrinterAttributes_valueOf hx h).1 e (mem_printerAttributes.mpr (by tauto))
  unfold jobLimitAttributes at hlimits
  simp only [List.forall_mem_cons] at hlimits
  obtain ⟨⟨c, hc, gc⟩, ⟨d, hd, gd⟩, ⟨q, hq, gq⟩, -⟩ := hlimits
  cases hc
  cases hd
  cases hq
  exact ⟨gc, gd, gq⟩

/-- A request that started a worker, and the worker's task. -/
structure Started where
  req : IppRequest
  task : PrintTask

/-- **What is handed on is what a response announces**: the copies lie in the range, and are the
    default where the request names none, and the quality is one of those listed. -/
structure Offered (resp : IppResponse) (st : Started) : Prop where
  copies : ∃ least most, resp.valueOf .printerAttributes "copies-supported" =
    some (.rangeOfInteger least most) ∧ least ≤ st.task.copies ∧ (st.task.copies : Int) ≤ most
  default : st.req.NamesNoCopies →
    resp.valueOf .printerAttributes "copies-default" = some (.integer st.task.copies)
  quality : ∀ q, st.task.printQuality = some q → ∃ qs : List IppValue,
    resp.valueOf .printerAttributes "print-quality-supported" = some (.array qs) ∧ .enum q ∈ qs

/-- The task has the options of the request. -/
structure Started.ReadsOptions (st : Started) : Prop where
  copies : st.task.copies = extractCopies st.req
  quality : st.task.printQuality = extractPrintQuality st.req

section Offer

variable {resp : IppResponse} {st : Started}

theorem Offered.range (h : Offered resp st) (ha : Announces resp) :
    1 ≤ st.task.copies ∧ st.task.copies ≤ 999 := by
  obtain ⟨least, most, hr, hl, hm⟩ := h.copies
  rw [ha.copies] at hr
  cases hr
  omega

/-- **A request's options are offered exactly if** it asks for copies, the first time for at most
    999. -/
theorem offered_iff (ha : Announces resp) (ho : st.ReadsOptions) (hi : st.req.IntegersFit) :
    Offered resp st ↔ ∃ n, st.req.askedCopies = some n ∧ n ≤ 999 := by
  have hrange := extractCopies_range hi
  rw [← ho.copies] at hrange
  constructor
  · exact fun h => hrange.mp (h.range ha)
  · intro hn
    obtain ⟨hleast, hmost⟩ := hrange.mpr hn
    refine ⟨⟨1, 999, ha.copies, by omega, by omega⟩, fun hno => ?_, fun q hq => ?_⟩
    · obtain ⟨n, hn, -⟩ := hn
      rw [askedCopies_none hno] at hn
      cases hn
    · rw [ho.quality] at hq
      refine ⟨_, ha.qualities, ?_⟩
      rcases extractPrintQuality_range hq with rfl | rfl | rfl <;> simp

end Offer

/-! ## 3. From the request to the callback -/

/-- The request a step starts a worker for. -/
def started (o : Options) (s : System) : Action → Option Started
  | .request clock name body =>
    match gates o.crate s.app name body with
    | .ok (req, record) =>
      if operationOf o.crate req.operationOrStatus = .cancelMyJobs then none
      else (dispatch o.crate clock s.app name req record).spawned.map fun task => ⟨req, task⟩
    | .error _ => none
  | _ => none

/-- The server with the requests that started a worker noted, oldest first. -/
def starting (o : Options) : Machine (System × List Started) Action Event :=
  (server o).withHistory fun sts s a => sts ++ (started o s a).toList

section Starting

variable {o : Options} {s s' : System} {a : Action} {ev tr : List Event} {sts : List Started}
  {d : Deployment}

/-- A request that starts a worker has its options read. -/
theorem started_reads {st : Started} (hx : o.crate.ParsesI32) (h : started o s a = some st) :
    st.ReadsOptions ∧ st.req.IntegersFit := by
  unfold started at h
  split at h
  · rename_i clock name body
    split at h
    · rename_i req record hg
      split at h
      · cases h
      · rename_i hop
        obtain ⟨task, ht, rfl⟩ := Option.map_eq_some_iff.mp h
        refine ⟨?_, hx body req (gates_ok hg).parsed⟩
        have hj := dispatch_jobs o.crate clock s.app name req record hop
        rw [ht] at hj
        generalize (dispatch o.crate clock s.app name req record).app.jobs = g at hj
        cases hj with
        | printed => exact ⟨rfl, rfl⟩
        | sent => exact ⟨rfl, rfl⟩
    · cases h
  · cases h

/-- A worker that moves keeps its task. -/
theorem task_of_mem_set {workers : List Worker} {i : Nat} {u u' w : Worker}
    (hu : workers[i]? = some u) (ht : u'.task = u.task) (hw : w ∈ workers.set i u') :
    ∃ v ∈ workers, v.task = w.task := by
  rcases List.mem_or_eq_of_mem_set hw with hw | rfl
  · exact ⟨w, hw, rfl⟩
  · exact ⟨u, List.mem_of_getElem? hu, ht.symm⟩

/-- **A worker after a step** was there before it, or is the one its request started. -/
theorem step_started (h : step o s a = some (s', ev)) {w : Worker} (hw : w ∈ s'.workers) :
    (∃ u ∈ s.workers, u.task = w.task) ∨ ∃ st, started o s a = some st ∧ st.task = w.task := by
  cases a with
  | request clock name body =>
      rcases step_request h with ⟨_, _, rfl, _⟩ | ⟨_, _, _, _, _, _, rfl⟩ |
        ⟨_, _, _, _, _, _, rfl⟩ | ⟨req, record, hg, hop, rfl, _⟩
      · exact Or.inl ⟨w, hw, rfl⟩
      · exact Or.inl ⟨w, hw, rfl⟩
      · exact Or.inl ⟨w, hw, rfl⟩
      · rcases List.mem_append.mp hw with hw | hw
        · exact Or.inl ⟨w, hw, rfl⟩
        · obtain ⟨task, ht, rfl⟩ := Option.map_eq_some_iff.mp (Option.mem_toList.mp hw)
          refine Or.inr ⟨⟨req, task⟩, ?_, rfl⟩
          unfold started
          dsimp only
          rw [hg]
          dsimp only
          rw [if_neg hop.1, ht]
          rfl
  | worker i now =>
      obtain ⟨u, u', hu, hn, _, rfl⟩ := step_worker h
      exact Or.inl (task_of_mem_set hu (Worker.next_task hn) hw)
  | outcome i out =>
      obtain ⟨u, hu, _, _, rfl⟩ := step_outcome h
      have ht : ({ u with pc := .ofOutcome out } : Worker).task = u.task := rfl
      exact Or.inl (task_of_mem_set hu ht hw)
  | _ =>
      have hj := step_jobs h
      generalize s'.app.jobs = g at hj
      generalize s'.workers = ws at hj hw
      cases hj <;> exact Or.inl ⟨w, hw, rfl⟩

/-- A call of the print callback, and the request it is for. -/
def HandedOn (tr : List Event) (sts : List Started) : Prop :=
  ∀ ctx payload copies, Event.printJob ctx payload copies ∈ tr →
    ∃ st ∈ sts, ctx = st.task.context ∧ payload = st.task.payload ∧ copies = st.task.copies

/-- What the noted requests say of the workers and of the calls. -/
structure Handed (tr : List Event) (p : System × List Started) : Prop where
  tasks : ∀ w ∈ p.1.workers, ∃ st ∈ p.2, st.task = w.task
  calls : HandedOn tr p.2
  read : ∀ st ∈ p.2, st.ReadsOptions ∧ st.req.IntegersFit

theorem Handed.step {p p' : System × List Started} (hx : o.crate.ParsesI32) (hI : Handed tr p)
    (h : (starting o).step p a = some (p', ev)) : Handed (tr ++ ev) p' := by
  obtain ⟨s, sts⟩ := p
  obtain ⟨s', sts'⟩ := p'
  obtain ⟨hs, hnote⟩ := step_withHistory h
  dsimp only at hnote
  have hmem {st : Started} (hst : st ∈ sts) : st ∈ sts' := by
    rw [hnote]
    exact List.mem_append_left _ hst
  refine ⟨fun w hw => ?_, fun ctx payload copies he => ?_, fun st hst => ?_⟩
  · rcases step_started hs hw with ⟨u, hu, ht⟩ | ⟨st, hst, ht⟩
    · obtain ⟨st, hst, hu'⟩ := hI.tasks u hu
      exact ⟨st, hmem hst, hu'.trans ht⟩
    · refine ⟨st, ?_, ht⟩
      rw [hnote, hst]
      exact List.mem_append_right sts List.mem_cons_self
  · rcases List.mem_append.mp he with he | he
    · obtain ⟨st, hst, hargs⟩ := hI.calls ctx payload copies he
      exact ⟨st, hmem hst, hargs⟩
    · have hsrc := step_event hs he
      cases hsrc with
      | printJob i now w hw hp =>
          obtain ⟨st, hst, ht⟩ := hI.tasks w (List.mem_of_getElem? hw)
          exact ⟨st, hmem hst, by rw [ht], by rw [ht], by rw [ht]⟩
  · rw [hnote] at hst
    rcases List.mem_append.mp hst with hst | hst
    · exact hI.read st hst
    · exact started_reads hx (Option.mem_toList.mp hst)

/-- **In every run** each call of the print callback is for a request that started a worker. -/
theorem run_handed (hx : o.crate.ParsesI32)
    (h : Run (starting o) anyStep (boot d, []) tr (s, sts)) : Handed tr (s, sts) := by
  refine Run.invariant (I := Handed) ?_ (fun _ _ _ _ _ hI _ hs => hI.step hx hs) h
  exact ⟨nofun, nofun, nofun⟩

/-- **The print options of every run**: what a call of the callback is handed was read from a
    request that started a worker, and for each such request it is what every full response of
    every printer announces if and only if the request asks for copies, the first time for at
    most 999. -/
theorem print_options_iff (hx : o.crate.ParsesI32) (hp : o.crate.StartsWithoutPrinter)
    (h : Run (starting o) anyStep (boot d, []) tr (s, sts)) :
    HandedOn tr sts ∧
    ∀ st ∈ sts, ∀ version requestId record host port clock resp,
      getPrinterAttributes o.crate version requestId record host port none clock = .ok resp →
      (Offered resp st ↔ ∃ n, st.req.askedCopies = some n ∧ n ≤ 999) := by
  have hI := run_handed hx h
  refine ⟨hI.calls, fun st hst version requestId record host port clock resp hr => ?_⟩
  obtain ⟨hread, hfit⟩ := hI.read st hst
  exact offered_iff (announced hp hr) hread hfit

end Starting

/-! ## 4. Two requests -/

namespace Trial

/-- Two copies, in good quality. -/
def printTwo : Message :=
  { print with
    attributes := print.attributes ++ [("copies", .integer 2), ("print-quality", .enum 5)] }

/-- A crate that parses the two requests. -/
def copyCrate : IppCrate :=
  { crate with parse := fun body =>
      match [print, printTwo].find? fun m => m.body == body with
      | some m => .ok m.request
      | none => .error "invalid tag" }

def copyOptions : Options := { crate := copyCrate, retryMs := none, hooked := false }

theorem copyCrate_parsesI32 : copyCrate.ParsesI32 := by
  intro body req h
  have hall : ∀ m ∈ [print, printTwo], m.request.IntegersFit := by
    intro m hm
    unfold IppRequest.IntegersFit
    rcases List.mem_cons.mp hm with rfl | hm
    · decide
    · rw [List.mem_singleton.mp hm]
      decide
  unfold copyCrate at h
  dsimp only at h
  split at h
  · rename_i m hm
    cases h
    exact hall m (List.mem_of_find?_eq_some hm)
  · cases h

/-- The request is answered and the callback is called. -/
def printed (m : Message) : List Action := post "p" m :: times 4 (.worker 0 5)

end Trial

/-- The run of one print request, and the requests of it that start a worker. -/
def Trial.afterPrinting (m : Message) : System × List Started :=
  endOf (starting copyOptions) anyStep (boot deployment, []) (printed m)

theorem Trial.run_printing {m : Message} (h : (exec (starting copyOptions) anyStep
    (boot deployment, []) (printed m)).isSome = true) :
    Run (starting copyOptions) anyStep (boot deployment, [])
      (traceOf (starting copyOptions) anyStep (boot deployment, []) (printed m))
      ((afterPrinting m).1, (afterPrinting m).2) :=
  run_endOf_pair h

theorem print_options_iff_two :
    (Trial.afterPrinting Trial.printTwo).2.length = 1 ∧
      ∃ resp, getPrinterAttributes Trial.copyCrate 0x0200 7 Trial.printer "localhost" 8631 none
          Trial.clock = .ok resp ∧
        ∀ st ∈ (Trial.afterPrinting Trial.printTwo).2, Offered resp st := by
  obtain ⟨resp, hr⟩ := Trial.printer_responds
  have h := print_options_iff Trial.copyCrate_parsesI32 Trial.crate_startsWithoutPrinter
    (Trial.run_printing (m := Trial.printTwo) (by decide +kernel))
  have hall : (Trial.afterPrinting Trial.printTwo).2.all
      (fun st => st.req.askedCopies == some 2) = true := by decide +kernel
  refine ⟨by decide +kernel, resp, hr, fun st hst => ?_⟩
  have hiff := h.2 st hst 0x0200 7 Trial.printer "localhost" 8631 Trial.clock resp hr
  exact hiff.mpr ⟨2, beq_iff_eq.mp (List.all_eq_true.mp hall st hst), by decide⟩

/-- The callback is called for this number of copies. -/
def Event.callsFor (copies : Nat) : Event → Bool
  | .printJob _ _ n => n == copies
  | _ => false

/-- **A request that names no copies**: the callback is called for 0 of them, which no response of
    the printer announces. -/
theorem copies_missing :
    (traceOf (starting Trial.copyOptions) anyStep (boot Trial.deployment, [])
      (Trial.printed Trial.print)).countP (Event.callsFor 0) = 1 ∧
    (Trial.afterPrinting Trial.print).2.length = 1 ∧
    ∀ st ∈ (Trial.afterPrinting Trial.print).2, st.req.NamesNoCopies ∧ st.task.copies = 0 ∧
      ∀ resp, getPrinterAttributes Trial.copyCrate 0x0200 7 Trial.printer "localhost" 8631 none
        Trial.clock = .ok resp → ¬ Offered resp st := by
  refine ⟨by decide +kernel, by decide +kernel, fun st hst => ?_⟩
  have hall : (Trial.afterPrinting Trial.print).2.all
      (fun st => decide (st.req.NamesNoCopies ∧ st.task.copies = 0)) = true := by decide +kernel
  obtain ⟨hnone, hzero⟩ := of_decide_eq_true (List.all_eq_true.mp hall st hst)
  refine ⟨hnone, hzero, fun resp hr hoff => ?_⟩
  have hrange := hoff.range (announced Trial.crate_startsWithoutPrinter hr)
  omega

end IppPrinterApp
