/-
  File:      IppPrinterApp/Lib/Spool.lean
  Subject:   A spooled job: documents that are handed to a device, and what is said of the job.

  Clients submit documents to a job and may cancel it. Each document is handed to a device, which
  answers; some answers ask for another try. What is said of the job is a status that every report
  of an answer overwrites. Documents go their ways independently of one another, so the status is
  the place where they meet.

  * `Job.step` -- the machine: which moves there are, and what is seen of them;
  * `Steps`, `step_job` -- what a move does, said once;
  * `run_truthful` -- the status is one of the answers that were given, or tells a cancel;
  * `run_attended` -- a job whose documents are all gone has a final status;
  * `run_single` -- a job with one document, not canceled, ends with the last answer.
-/
import IppPrinterApp.Lib.Pool
import IppPrinterApp.Lib.Simulation

namespace Spool

open Transition

variable {δ ρ : Type*}

/-! ## 1. The machine -/

/-- Where a document is. -/
inductive Stage (ρ : Type*) where
  /-- with the spooler, to be handed to the device -/
  | queued
  /-- with the device -/
  | out
  /-- answered, the answer still to be reported -/
  | answered (r : ρ)
  /-- reported for good, or given up -/
  | leaving
  | gone
  deriving DecidableEq, Repr

/-- What is said of a job. -/
inductive Status (ρ : Type*) where
  | waiting
  | working
  | told (r : ρ)
  | canceled
  deriving DecidableEq, Repr

structure Job (δ ρ : Type*) where
  status : Status ρ
  canceled : Bool
  docs : List (δ × Stage ρ)
  deriving DecidableEq, Repr

/-- What can happen to a document. -/
inductive DocMove (ρ : Type*) where
  | start
  | hand
  | answer (r : ρ)
  | report
  | giveUp
  | confirm
  | leave

inductive Move (δ ρ : Type*) where
  | create
  | submit (d : δ)
  | cancel
  | doc (i : Nat) (m : DocMove ρ)

/-- What the outside sees: documents handed to the device, and its answers. -/
inductive Seen (δ ρ : Type*) where
  | handed (d : δ)
  | answered (r : ρ)

/-- No more is to be expected. `again` are the answers that ask for another try. -/
def Status.final (again : ρ → Bool) : Status ρ → Bool
  | .waiting => false
  | .working => false
  | .told r => !again r
  | .canceled => true

@[simp] theorem Status.final_told (again : ρ → Bool) (r : ρ) :
    (Status.told r).final again = !again r := rfl

namespace Job

/-- A job as it is created. -/
def fresh : Job δ ρ := { status := .waiting, canceled := false, docs := [] }

/-- A document goes on to another stage. -/
def put (j : Job δ ρ) (i : Nat) (d : δ) (st : Stage ρ) : Job δ ρ :=
  { j with docs := j.docs.set i (d, st) }

/-- A cancel, which comes too late for a job with a final status. -/
def cancel (again : ρ → Bool) (j : Job δ ρ) : Job δ ρ :=
  if j.status.final again then j else { j with status := .canceled, canceled := true }

/-- Where a reported document goes. -/
def after (again : ρ → Bool) (r : ρ) : Stage ρ := if again r then .queued else .leaving

/-- A move of the document `d` at position `i` and stage `st`. -/
def docStep (again : ρ → Bool) (j : Job δ ρ) (i : Nat) (d : δ) :
    Stage ρ → DocMove ρ → Option (Job δ ρ × List (Seen δ ρ))
  | .queued, .start => some ({ j with status := .working }, [])
  | .queued, .hand => some (j.put i d .out, [.handed d])
  | .out, .answer r => some (j.put i d (.answered r), [.answered r])
  | .answered r, .report => some ({ j.put i d (after again r) with status := .told r }, [])
  | .queued, .giveUp => if j.canceled then some (j.put i d .leaving, []) else none
  | .answered _, .giveUp => if j.canceled then some (j.put i d .leaving, []) else none
  | .leaving, .confirm => if j.canceled then some ((j.cancel again).put i d .gone, []) else none
  | .leaving, .leave => if j.canceled then none else some (j.put i d .gone, [])
  | _, _ => none

def step (again : ρ → Bool) (j : Job δ ρ) : Move δ ρ → Option (Job δ ρ × List (Seen δ ρ))
  | .create => none
  | .submit d => some ({ j with docs := j.docs ++ [(d, .queued)] }, [])
  | .cancel => some (j.cancel again, [])
  | .doc i m =>
    match j.docs[i]? with
    | some (d, st) => j.docStep again i d st m
    | none => none

end Job

/-- **The machine of one job**, which is not there at first. -/
def machine (again : ρ → Bool) : Machine (Option (Job δ ρ)) (Move δ ρ) (Seen δ ρ) where
  step
    | none, .create => some (some .fresh, [])
    | none, _ => none
    | some j, m => (j.step again m).map fun r => (some r.1, r.2)

/-! ## 2. What a move does -/

section Steps

variable {again : ρ → Bool} {j j' : Job δ ρ} {b b' : Option (Job δ ρ)} {m : Move δ ρ}
  {ev tr : List (Seen δ ρ)}

/-- **What a move does to a job**, and what is seen of it. -/
inductive Steps (again : ρ → Bool) (j : Job δ ρ) : Job δ ρ → List (Seen δ ρ) → Prop where
  | submitted (d : δ) : Steps again j { j with docs := j.docs ++ [(d, .queued)] } []
  | canceled : Steps again j (j.cancel again) []
  | started (i : Nat) (d : δ) (hi : j.docs[i]? = some (d, .queued)) :
      Steps again j { j with status := .working } []
  | handed (i : Nat) (d : δ) (hi : j.docs[i]? = some (d, .queued)) :
      Steps again j (j.put i d .out) [.handed d]
  | answered (i : Nat) (d : δ) (r : ρ) (hi : j.docs[i]? = some (d, .out)) :
      Steps again j (j.put i d (.answered r)) [.answered r]
  | reported (i : Nat) (d : δ) (r : ρ) (hi : j.docs[i]? = some (d, .answered r)) :
      Steps again j { j.put i d (Job.after again r) with status := .told r } []
  | gaveUp (i : Nat) (d : δ) (st : Stage ρ) (hi : j.docs[i]? = some (d, st))
      (hst : st = .queued ∨ ∃ r, st = .answered r) (hc : j.canceled = true) :
      Steps again j (j.put i d .leaving) []
  | confirmed (i : Nat) (d : δ) (hi : j.docs[i]? = some (d, .leaving)) (hc : j.canceled = true) :
      Steps again j ((j.cancel again).put i d .gone) []
  | left (i : Nat) (d : δ) (hi : j.docs[i]? = some (d, .leaving)) (hc : j.canceled = false) :
      Steps again j (j.put i d .gone) []

/-- A move of a document, as a run. -/
theorem run_doc {i : Nat} {d : δ} {st : Stage ρ} {dm : DocMove ρ} (hi : j.docs[i]? = some (d, st))
    (h : j.docStep again i d st dm = some (j', ev)) :
    Run (machine again) anyStep (some j) ev (some j') := by
  have hstep : (machine again).step (some j) (.doc i dm) = some (some j', ev) := by
    show (j.step again (.doc i dm)).map _ = _
    unfold Job.step
    dsimp only
    rw [hi]
    dsimp only
    rw [h]
    rfl
  exact Run.one hstep

theorem steps_of_docStep {i : Nat} {d : δ} {st : Stage ρ} {dm : DocMove ρ}
    (hi : j.docs[i]? = some (d, st)) (h : j.docStep again i d st dm = some (j', ev)) :
    Steps again j j' ev := by
  unfold Job.docStep at h
  split at h
  · cases h
    exact .started i d hi
  · cases h
    exact .handed i d hi
  · cases h
    exact .answered i d _ hi
  · cases h
    exact .reported i d _ hi
  · split at h
    · rename_i hc
      cases h
      exact .gaveUp i d _ hi (Or.inl rfl) hc
    · cases h
  · split at h
    · rename_i hc
      cases h
      exact .gaveUp i d _ hi (Or.inr ⟨_, rfl⟩) hc
    · cases h
  · split at h
    · rename_i hc
      cases h
      exact .confirmed i d hi hc
    · cases h
  · split at h
    · cases h
    · rename_i hc
      cases h
      exact .left i d hi (Bool.eq_false_iff.mpr hc)
  · cases h

theorem step_job (h : j.step again m = some (j', ev)) : Steps again j j' ev := by
  cases m with
  | create => cases h
  | submit d =>
      cases h
      exact .submitted d
  | cancel =>
      cases h
      exact .canceled
  | doc i dm =>
      dsimp only [Job.step] at h
      cases hi : j.docs[i]? with
      | none => rw [hi] at h; cases h
      | some x =>
          rw [hi] at h
          exact steps_of_docStep hi h

/-- A move of the machine creates the job, or is one of the job's. -/
theorem step_machine (h : (machine again).step b m = some (b', ev)) :
    (b = none ∧ b' = some .fresh ∧ ev = []) ∨
      ∃ j j', b = some j ∧ b' = some j' ∧ Steps again j j' ev := by
  cases b with
  | none =>
      cases m with
      | create =>
          cases h
          exact Or.inl ⟨rfl, rfl, rfl⟩
      | _ => cases h
  | some j =>
      obtain ⟨⟨j', ev'⟩, hs, e⟩ := Option.map_eq_some_iff.mp h
      cases e
      exact Or.inr ⟨j, j', rfl, rfl, step_job hs⟩

/-- **The invariant rule for a job**: what holds of a fresh job and survives every move holds of
    the job in every run, with what is seen of it. -/
theorem run_job {I : List (Seen δ ρ) → Job δ ρ → Prop} (h₀ : ∀ tr, I tr .fresh)
    (hstep : ∀ tr j j' ev, I tr j → Steps again j j' ev → I (tr ++ ev) j')
    (h : Run (machine again) anyStep none tr (some j)) : I tr j := by
  suffices hinv : ∀ j', some j = some j' → I tr j' from hinv j rfl
  refine Run.invariant (I := fun tr b => ∀ j', b = some j' → I tr j') ?_ ?_ h
  · intro j' e
    cases e
  · intro tr b m b' ev hI _ hs j' e
    rcases step_machine hs with ⟨_, rfl, _⟩ | ⟨j₁, j₂, rfl, rfl, hst⟩
    · cases e
      exact h₀ _
    · cases e
      exact hstep tr j₁ _ ev (hI j₁ rfl) hst

end Steps

/-! ## 3. The status tells the truth -/

section Status

variable {again : ρ → Bool} {j j' : Job δ ρ} {ev tr : List (Seen δ ρ)} {i : Nat} {d : δ}
  {st : Stage ρ}

theorem Job.cancel_docs (again : ρ → Bool) (j : Job δ ρ) : (j.cancel again).docs = j.docs := by
  unfold Job.cancel
  split <;> rfl

theorem Job.cancel_final (again : ρ → Bool) (j : Job δ ρ) :
    (j.cancel again).status.final again = true := by
  unfold Job.cancel
  split
  · rename_i hf
    exact hf
  · rfl

theorem Job.cancel_canceled (h : j.canceled = true) : (j.cancel again).canceled = true := by
  unfold Job.cancel
  split
  · exact h
  · rfl

/-- A document of a job after one has gone on is the one that has, or was there before. -/
theorem Job.mem_put {x : δ × Stage ρ} (h : x ∈ (j.put i d st).docs) : x ∈ j.docs ∨ x = (d, st) :=
  Pool.mem_set h

/-- What is said of the job was answered, or it is canceled; and so were the answers that are still
    to be reported. -/
structure Truthful (tr : List (Seen δ ρ)) (j : Job δ ρ) : Prop where
  told : ∀ r, j.status = .told r → .answered r ∈ tr
  pending : ∀ d r, (d, .answered r) ∈ j.docs → .answered r ∈ tr
  canceled : j.status = .canceled → j.canceled = true

theorem Truthful.append (h : Truthful tr j) (ev : List (Seen δ ρ)) : Truthful (tr ++ ev) j where
  told := fun r hr => List.mem_append_left ev (h.told r hr)
  pending := fun d r hr => List.mem_append_left ev (h.pending d r hr)
  canceled := h.canceled

/-- A document that goes on to a stage whose answer, if it is one, was given. -/
theorem Truthful.put (h : Truthful tr j) (hst : ∀ r, st = .answered r → .answered r ∈ tr) :
    Truthful tr (j.put i d st) where
  told := h.told
  pending := fun d' r hr => by
    rcases Job.mem_put hr with hr | hr
    · exact h.pending d' r hr
    · exact hst r (Prod.mk.inj hr).2.symm
  canceled := h.canceled

theorem Truthful.cancel (h : Truthful tr j) (again : ρ → Bool) : Truthful tr (j.cancel again) := by
  unfold Job.cancel
  split
  · exact h
  · exact ⟨nofun, h.pending, fun _ => rfl⟩

theorem Truthful.step (h : Truthful tr j) (hs : Steps again j j' ev) :
    Truthful (tr ++ ev) j' := by
  have hev := h.append ev
  cases hs with
  | submitted d =>
      refine ⟨hev.told, fun d' r hr => ?_, hev.canceled⟩
      rcases List.mem_append.mp hr with hr | hr
      · exact hev.pending d' r hr
      · cases List.mem_singleton.mp hr
  | canceled => exact hev.cancel again
  | started i d hi => exact ⟨nofun, hev.pending, nofun⟩
  | handed i d hi => exact hev.put nofun
  | answered i d r hi =>
      refine hev.put fun r' e => ?_
      cases e
      exact List.mem_append_right tr List.mem_cons_self
  | reported i d r hi =>
      have hgiven := hev.pending d r (List.mem_of_getElem? hi)
      have hput : Truthful (tr ++ []) (j.put i d (Job.after again r)) := hev.put fun r' e => by
        unfold Job.after at e
        split at e <;> cases e
      refine ⟨fun r' e => ?_, hput.pending, nofun⟩
      cases e
      exact hgiven
  | gaveUp i d st hi hst hc => exact hev.put nofun
  | confirmed i d hi hc => exact (hev.cancel again).put nofun
  | left i d hi hc => exact hev.put nofun

/-- **The status tells the truth**: in every run, an answer that is told was given, and a job that
    is said to be canceled is. -/
theorem run_truthful (h : Run (machine again) anyStep none tr (some j)) : Truthful tr j :=
  run_job (fun _ => ⟨nofun, nofun, nofun⟩) (fun _ _ _ _ hI hs => hI.step hs) h

/-! ## 4. A job that is left alone has its final status -/

/-- More will be said of the job on account of a document at this stage. -/
def Stage.awaited (canceled : Bool) : Stage ρ → Bool
  | .queued => true
  | .out => true
  | .answered _ => true
  | .leaving => canceled
  | .gone => false

/-- While the status is not final, there is a document on whose account more will be said. -/
def Attended (again : ρ → Bool) (j : Job δ ρ) : Prop :=
  j.status.final again = false → j.docs ≠ [] → ∃ x ∈ j.docs, x.2.awaited j.canceled = true

/-- A document that goes on to such a stage. -/
theorem attended_put {x : δ × Stage ρ} (hi : j.docs[i]? = some x)
    (hst : st.awaited j.canceled = true) (status : Status ρ) :
    Attended again { j.put i d st with status } := fun _ _ =>
  ⟨(d, st), List.mem_set (List.getElem?_eq_some_iff.mp hi).1 _, hst⟩

theorem Attended.step (h : Attended again j) (hs : Steps again j j' ev) : Attended again j' := by
  cases hs with
  | submitted d =>
      exact fun _ _ => ⟨(d, .queued), List.mem_append_right _ List.mem_cons_self, rfl⟩
  | canceled =>
      intro hf
      rw [Job.cancel_final] at hf
      cases hf
  | started i d hi => exact fun _ _ => ⟨(d, .queued), List.mem_of_getElem? hi, rfl⟩
  | handed i d hi => exact attended_put hi rfl j.status
  | answered i d r hi => exact attended_put hi rfl j.status
  | reported i d r hi =>
      cases hr : again r with
      | true =>
          refine attended_put hi ?_ (.told r)
          rw [Job.after, hr]
          rfl
      | false =>
          intro hf
          rw [Status.final_told, hr] at hf
          cases hf
  | gaveUp i d st hi hst hc =>
      have hleaving : (Stage.leaving : Stage ρ).awaited j.canceled = true := hc
      exact attended_put hi hleaving j.status
  | confirmed i d hi hc =>
      intro hf
      exact absurd ((Job.cancel_final again j).symm.trans hf) nofun
  | left i d hi hc =>
      intro hf hne
      have hdocs : j.docs ≠ [] := fun e => by
        rw [e] at hi
        cases hi
      obtain ⟨x, hx, hst⟩ := h hf hdocs
      -- the document that leaves is not the one: its job is not canceled
      have hmoved : x ∈ j.docs.set i (d, .gone) ∨ x = (d, .leaving) ∧ _ :=
        Pool.mem_or_moved hi hx
      rcases hmoved with hx' | ⟨rfl, _⟩
      · exact ⟨x, hx', hst⟩
      · exact absurd (hst.symm.trans hc) nofun

/-- **A job whose documents are all gone has a final status.** -/
theorem run_attended (h : Run (machine again) anyStep none tr (some j)) (hne : j.docs ≠ [])
    (hgone : ∀ x ∈ j.docs, x.2 = .gone) : j.status.final again = true := by
  have hinv : Attended again j :=
    run_job (I := fun _ j => Attended again j) (fun _ _ hne => absurd rfl hne)
      (fun _ _ _ _ hI hs => hI.step hs) h
  cases hf : j.status.final again with
  | true => rfl
  | false =>
      obtain ⟨x, hx, hst⟩ := hinv hf hne
      rw [hgone x hx] at hst
      cases hst

/-! ## 5. A job with one document -/

/-- The answer an event gives. -/
def Seen.answer : Seen δ ρ → Option ρ
  | .handed _ => none
  | .answered r => some r

/-- The last answer of the device. -/
def lastAnswer (tr : List (Seen δ ρ)) : Option ρ := (tr.filterMap Seen.answer).getLast?

theorem lastAnswer_answered (tr : List (Seen δ ρ)) (r : ρ) :
    lastAnswer (tr ++ [.answered r]) = some r := by
  unfold lastAnswer
  rw [List.filterMap_append]
  exact List.getLast?_concat

/-- What holds of the job when its only document has come to a stage. -/
def Settled (again : ρ → Bool) (tr : List (Seen δ ρ)) (j : Job δ ρ) : Stage ρ → Prop
  | .queued => True
  | .out => True
  | .answered r => lastAnswer tr = some r
  | _ => j.canceled = false → ∃ r, j.status = .told r ∧ again r = false ∧ lastAnswer tr = some r

theorem Settled.cancel (h : Settled again tr j st) : Settled again tr (j.cancel again) st := by
  unfold Job.cancel
  split
  · exact h
  · cases st with
    | queued => trivial
    | out => trivial
    | answered r => exact h
    | leaving => exact nofun
    | gone => exact nofun

/-- How the job stands by its document, if it has one only. -/
def Single (again : ρ → Bool) (tr : List (Seen δ ρ)) (j : Job δ ρ) : Prop :=
  ∀ x, j.docs = [x] → Settled again tr j x.2

/-- The only document, before it goes on. -/
theorem only_before {x y : δ × Stage ρ} (hi : j.docs[i]? = some x)
    (h : (j.put i d st).docs = [y]) : j.docs = [x] := by
  have hlen : j.docs.length = 1 := by
    have e := congrArg List.length h
    unfold Job.put at e
    rw [List.length_set] at e
    exact e
  obtain ⟨z, hz⟩ := List.length_eq_one_iff.mp hlen
  have hx := List.mem_of_getElem? hi
  rw [hz] at hx ⊢
  rw [List.mem_singleton.mp hx]

/-- The only document, after it has gone on. -/
theorem only_after {x y : δ × Stage ρ} (hi : j.docs[i]? = some x)
    (h : (j.put i d st).docs = [y]) : y = (d, st) := by
  have hmem : (d, st) ∈ (j.put i d st).docs :=
    List.mem_set (List.getElem?_eq_some_iff.mp hi).1 _
  rw [h] at hmem
  exact (List.mem_singleton.mp hmem).symm

theorem Single.step (h : Single again tr j) (hs : Steps again j j' ev) :
    Single again (tr ++ ev) j' := by
  intro y hy
  cases hs with
  | submitted d =>
      have hmem : (d, .queued) ∈ j.docs ++ [(d, .queued)] :=
        List.mem_append_right _ List.mem_cons_self
      rw [show j.docs ++ [(d, .queued)] = [y] from hy] at hmem
      rw [← List.mem_singleton.mp hmem]
      trivial
  | canceled =>
      rw [Job.cancel_docs] at hy
      rw [List.append_nil]
      exact (h y hy).cancel
  | started i d hi =>
      have hmem := List.mem_of_getElem? hi
      rw [show j.docs = [y] from hy] at hmem
      rw [← List.mem_singleton.mp hmem]
      trivial
  | handed i d hi =>
      rw [only_after hi hy]
      trivial
  | answered i d r hi =>
      rw [only_after hi hy]
      exact lastAnswer_answered tr r
  | reported i d r hi =>
      have hlast := h (d, .answered r) (only_before hi hy)
      rw [only_after hi hy, List.append_nil]
      unfold Job.after
      cases hr : again r with
      | true => trivial
      | false => exact fun _ => ⟨r, rfl, hr, hlast⟩
  | gaveUp i d st hi hst hc =>
      rw [only_after hi hy]
      exact fun hno => absurd (hc.symm.trans hno) nofun
  | confirmed i d hi hc =>
      rw [only_after (j := j.cancel again) (by rw [Job.cancel_docs]; exact hi) hy]
      exact fun hno => absurd ((Job.cancel_canceled hc).symm.trans hno) nofun
  | left i d hi hc =>
      have hleft := h (d, .leaving) (only_before hi hy)
      rw [only_after hi hy, List.append_nil]
      exact hleft

/-- **A job with one document, not canceled, ends with the last answer.** -/
theorem run_single (h : Run (machine again) anyStep none tr (some j)) {d : δ}
    (hdocs : j.docs = [(d, .gone)]) (hc : j.canceled = false) :
    ∃ r, j.status = .told r ∧ again r = false ∧ lastAnswer tr = some r := by
  have hinv : Single again tr j :=
    run_job (I := fun tr j => Single again tr j) (fun _ _ hx => nomatch hx)
      (fun _ _ _ _ hI hs => hI.step hs) h
  exact hinv _ hdocs hc

end Status

end Spool
