/-
  File:      IppPrinterApp/JobIds.lean
  Subject:   The job-ids over any sequence of registry operations.

  The counter of the registry is 32 bits wide and wraps; on the wire a job-id is a signed 32-bit
  integer. Ids are looked up from the front of a list that only grows.

  * `IdsSound` -- the ids increase, every job finds itself under its own id, and every id is sent
    as a positive integer;
  * `ids_sound_iff`: **the ids are sound exactly while fewer than 2^31 jobs were created**;
    `job_id_negative` is the first creation past that.
-/
import IppPrinterApp.Replies

namespace IppPrinterApp

/-! ## 1. Sequences of operations -/

/-- An operation of the registry, with the clock it reads. -/
inductive RegistryOp where
  | create (now : SystemTime) (printerName owner : String)
  | get (id : JobId)
  | jobsForPrinter (printerName : String)
  | setState (now : SystemTime) (id : JobId) (state : JobState)
  | setFailure (now : SystemTime) (id : JobId) (reasons : PrinterReason) (message : String)
  | cancel (now : SystemTime) (id : JobId)
  deriving DecidableEq, Repr

namespace RegistryOp

/-- The registry after an operation. -/
def apply (g : JobRegistry) : RegistryOp → JobRegistry
  | create now printerName owner => (g.create now printerName owner).2
  | get _ => g
  | jobsForPrinter _ => g
  | setState now id state => g.setState now id state
  | setFailure now id reasons message => g.setFailure now id reasons message
  | cancel now id => (g.cancel now id).2

def creates : RegistryOp → Bool
  | create .. => true
  | _ => false

theorem apply_wf {g : JobRegistry} (h : g.Wf) (op : RegistryOp) : (apply g op).Wf := by
  cases op with
  | create now p u => exact JobRegistry.create_wf h now p u
  | get => exact h
  | jobsForPrinter => exact h
  | setState now id st => exact JobRegistry.update_wf h (f := (·.withState now st)) (fun _ => rfl) id
  | setFailure now id r m =>
      exact JobRegistry.update_wf h (f := (·.withFailure now r m)) (fun _ => rfl) id
  | cancel now id => exact JobRegistry.update_wf h (fun j => j.withCancel_id now) id

theorem apply_length (g : JobRegistry) (op : RegistryOp) :
    (apply g op).jobs.length = g.jobs.length + if op.creates then 1 else 0 := by
  cases op with
  | create now p u => exact JobRegistry.create_length g now p u
  | get => rfl
  | jobsForPrinter => rfl
  | setState now id st => exact JobRegistry.update_length g id _
  | setFailure now id r m => exact JobRegistry.update_length g id _
  | cancel now id => exact JobRegistry.update_length g id _

end RegistryOp

/-- The registry after a sequence of operations on a new one. -/
def JobRegistry.after (ops : List RegistryOp) : JobRegistry := ops.foldl RegistryOp.apply .new

/-- **Ids follow positions after every sequence**, and there are as many jobs as creations. -/
theorem JobRegistry.after_spec (ops : List RegistryOp) :
    (after ops).Wf ∧ (after ops).jobs.length = ops.countP RegistryOp.creates := by
  have key : ∀ (ops : List RegistryOp) (g : JobRegistry), g.Wf →
      (ops.foldl RegistryOp.apply g).Wf ∧ (ops.foldl RegistryOp.apply g).jobs.length =
        g.jobs.length + ops.countP RegistryOp.creates := by
    intro ops
    induction ops with
    | nil => exact fun g hg => ⟨hg, rfl⟩
    | cons op ops ih =>
        intro g hg
        obtain ⟨hwf, hlen⟩ := ih _ (RegistryOp.apply_wf hg op)
        refine ⟨hwf, ?_⟩
        rw [List.foldl_cons, hlen, RegistryOp.apply_length, List.countP_cons]
        omega
  obtain ⟨hwf, hlen⟩ := key ops .new JobRegistry.new_wf
  exact ⟨hwf, by rw [after, hlen]; exact Nat.zero_add _⟩

/-! ## 2. Ids on the wire -/

theorem asI32_of_lt {n : Nat} (h : n < 2 ^ 31) : asI32 n = n :=
  asI32_eq_self (by omega) (by omega)

theorem asI32_of_ge {n : Nat} (h : 2 ^ 31 ≤ n) (h' : n < 2 ^ 32) : asI32 n < 0 := by
  unfold asI32
  rw [Int.bmod_def]
  omega

/-- Every `job-id` sent for the job is positive: in a listing, in the reply to
    Get-Job-Attributes and Send-Document (`job_attrs_for_group`), and in the reply to its
    creation (`print_job_accepted`). -/
structure JobRecord.SentPositive (j : JobRecord) : Prop where
  listed : ∀ printerUriStr clock n, ("job-id", int n) ∈ jobAttributes j printerUriStr clock → 0 < n
  accepted : ∀ x version requestId printerUriStr resp n,
    printJobAccepted x version requestId j printerUriStr = .ok resp →
    resp.valueOf .jobAttributes "job-id" = some (.integer n) → 0 < n

/-- The id sent is the wire id, whichever reply sends it. -/
theorem JobRecord.sentPositive_iff {j : JobRecord} : j.SentPositive ↔ 0 < j.wireId := by
  constructor
  · intro h
    exact h.listed "" ⟨0, 0⟩ j.wireId (mem_jobAttributes_jobId j "" ⟨0, 0⟩)
  · intro h
    refine ⟨fun printerUriStr clock n hmem => ?_, fun x version requestId printerUriStr resp n hok
      hn => ?_⟩
    · have hid := mem_jobAttributes_jobId j printerUriStr clock
      have e := List.inj_on_of_nodup_map (jobAttributes_nodup j printerUriStr clock) hmem hid rfl
      have hval : int n = int j.wireId := congrArg Prod.snd e
      rw [IppValue.integer.inj (Except.ok.inj hval)]
      exact h
    · have hval := hn.symm.trans (printJobAccepted_carries hok).jobId
      rw [IppValue.integer.inj (Option.some.inj hval)]
      exact h

/-! ## 3. Sound ids -/

/-- **What the ids are for.** -/
structure IdsSound (g : JobRegistry) : Prop where
  distinct : (g.jobs.map (·.id)).Nodup
  increasing : (g.jobs.map (·.id)).Pairwise (· < ·)
  positive : ∀ j ∈ g.jobs, j.SentPositive
  found : ∀ (k : Nat) (j : JobRecord), g.jobs[k]? = some j →
    g.slotOf j.id = k ∧ g.get j.id = some j

section Sound

variable {g : JobRegistry}

/-- The ids of a registry whose counter has not wrapped. -/
theorem JobRegistry.Wf.ids_eq (h : g.Wf) (hlt : g.jobs.length < 2 ^ 32) :
    g.jobs.map (·.id) = (List.range g.jobs.length).map (· + 1) := by
  refine List.ext_getElem? fun k => ?_
  rw [List.getElem?_map, List.getElem?_map]
  by_cases hk : k < g.jobs.length
  · rw [List.getElem?_range hk, List.getElem?_eq_getElem hk]
    have hid := h.ids k _ (List.getElem?_eq_getElem hk)
    rw [JobRegistry.idAt_of_lt (by omega)] at hid
    exact congrArg some hid
  · rw [List.getElem?_eq_none (by omega), List.getElem?_eq_none (by simpa using hk)]
    rfl

theorem idsSound_of_lt (h : g.Wf) (hlt : g.jobs.length < 2 ^ 31) : IdsSound g := by
  have hlt' : g.jobs.length < 2 ^ 32 := by omega
  have hinc : (g.jobs.map (·.id)).Pairwise (· < ·) := by
    rw [h.ids_eq hlt', List.pairwise_map]
    exact List.pairwise_lt_range.imp fun hab => Nat.succ_lt_succ hab
  refine ⟨hinc.imp fun hab => Nat.ne_of_lt hab, hinc, fun j hj => ?_, fun k j hk => ?_⟩
  · obtain ⟨k, hk⟩ := List.mem_iff_getElem?.mp hj
    have hkl : k < g.jobs.length := (List.getElem?_eq_some_iff.mp hk).1
    have hid : j.id = k + 1 := (h.ids k j hk).trans (JobRegistry.idAt_of_lt (by omega))
    rw [JobRecord.sentPositive_iff, JobRecord.wireId, hid, asI32_of_lt (by omega)]
    exact Int.natCast_pos.mpr (Nat.succ_pos k)
  · exact ⟨JobRegistry.slotOf_id h hlt' hk, JobRegistry.get_self h hlt' hk⟩

/-- The job number 2^31 has a negative job-id on the wire. -/
theorem not_idsSound_of_ge (h : g.Wf) (hge : 2 ^ 31 ≤ g.jobs.length) : ¬ IdsSound g := by
  intro hs
  have hk : 2 ^ 31 - 1 < g.jobs.length := by omega
  have hid := h.ids _ _ (List.getElem?_eq_getElem hk)
  have hat : JobRegistry.idAt (2 ^ 31 - 1) = 2 ^ 31 := rfl
  have hpos := JobRecord.sentPositive_iff.mp (hs.positive _ (List.getElem_mem hk))
  have hneg : g.jobs[2 ^ 31 - 1].wireId < 0 := by
    rw [JobRecord.wireId, hid, hat]
    exact asI32_of_ge (by omega) (by omega)
  omega

end Sound

/-- **The ids are sound exactly while fewer than 2^31 jobs were created**, whatever else is done
    to the registry in between: they are distinct and increase in the order of allocation, each is
    sent as a positive integer, and under its id each job is found. -/
theorem ids_sound_iff (ops : List RegistryOp) :
    IdsSound (.after ops) ↔ ops.countP RegistryOp.creates < 2 ^ 31 := by
  obtain ⟨hwf, hlen⟩ := JobRegistry.after_spec ops
  constructor
  · intro hs
    by_contra hge
    exact not_idsSound_of_ge hwf (by omega) hs
  · intro hlt
    exact idsSound_of_lt hwf (by omega)

/-- The 2^31st creation. -/
theorem job_id_negative :
    ¬ IdsSound (.after (List.replicate (2 ^ 31) (.create 0 "p" "ann"))) := by
  obtain ⟨hwf, hlen⟩ :=
    JobRegistry.after_spec (List.replicate (2 ^ 31) (.create 0 "p" "ann"))
  refine not_idsSound_of_ge hwf ?_
  rw [hlen, List.countP_replicate, if_pos (show RegistryOp.creates (.create 0 "p" "ann") = true from rfl)]

end IppPrinterApp
