/-
  File:      IppPrinterApp/Lib/TornFile.lean
  Subject:   A file that the parties of a machine write in two steps, by truncating it first.

  A machine whose parties hold copies of a datum, and write them to a file, writes each in one step
  at best. The file system knows two: the file is opened, which truncates it, and the text is
  written over what is there, from the first octet on. In between anybody else may do the same, an
  open may fail, and so may a write after some octets.

  * `Saver` -- whose turn an action is, what each party holds, and the text of it;
  * `Machine.onFile` -- the machine with the octets of the file, and those who have it open;
  * `run_of_onFile`: the file is nobody's input, so the machine runs as before;
  * `WholeWrites` -- the writes do not overlap, and one that has opened the file is completed;
  * `run_fileHolds`: **then the file is the text of a copy when nobody has it open**, and empty
    while somebody does.
-/
import IppPrinterApp.Lib.WriteBack
import IppPrinterApp.Lib.Transition

namespace WriteBack

open Transition

/-! ## 1. The file -/

/-- The file as it is: its octets, and who has it open for writing. -/
structure OpenFile (ι : Type*) where
  octets : ByteArray
  opened : List ι

variable {σ α ε ι δ : Type*}

/-- The first `k` octets of a text, over what is there. -/
def overlay (text old : ByteArray) (k : Nat) : ByteArray :=
  text.extract 0 k ++ old.extract (text.extract 0 k).size old.size

theorem overlay_empty {text : ByteArray} {k : Nat} (h : text.size ≤ k) :
    overlay text ByteArray.empty k = text := by
  have hall : text.extract 0 k = text := by
    rw [← Nat.max_eq_left h]
    exact ByteArray.extract_zero_max_size
  have hnone : ByteArray.empty.extract text.size ByteArray.empty.size = ByteArray.empty :=
    ByteArray.extract_eq_empty_iff.mpr (by simp)
  unfold overlay
  rw [hall, hnone, ByteArray.append_empty]

/-- A text over a longer one: a mixture of the two. -/
example : overlay ⟨#[97, 98]⟩ ⟨#[120, 121, 122]⟩ 2 = ⟨#[97, 98, 122]⟩ := by decide +kernel

variable [DecidableEq ι]

/-- The file opened by a party: truncated. -/
def OpenFile.create (f : OpenFile ι) (i : ι) : OpenFile ι where
  octets := ByteArray.empty
  opened := i :: f.opened

/-- The file after a party has written `k` octets of a text and closed it, if it had it open. -/
def OpenFile.write (f : OpenFile ι) (i : ι) (text : ByteArray) (k : Nat) : OpenFile ι :=
  if i ∈ f.opened then
    { octets := overlay text f.octets k, opened := f.opened.erase i }
  else f

/-- Who acts in a machine, and which copy each party is about to write. -/
structure Saver (σ α ι δ : Type*) where
  actor : σ → α → Option ι
  holds : σ → ι → Option δ
  text : δ → ByteArray

/-- Who writes which copy in an action. -/
def Saver.saves (S : Saver σ α ι δ) (s : σ) (a : α) : Option (ι × δ) :=
  (S.actor s a).bind fun i => (S.holds s i).map fun copy => (i, copy)

/-- An action on the file: a party that is about to write opens it; or the machine acts, and where
    its action is a write of a party that has the file open, `k` octets of the text are written. -/
inductive FileAction (ι α : Type*) where
  | opens (i : ι)
  | act (a : α) (k : Nat)

/-- The machine with its file. -/
def onFile (M : Machine σ α ε) (S : Saver σ α ι δ) :
    Machine (σ × OpenFile ι) (FileAction ι α) ε where
  step p
    | .opens i =>
      if (S.holds p.1 i).isSome ∧ i ∉ p.2.opened then some ((p.1, p.2.create i), []) else none
    | .act a k =>
      (M.step p.1 a).map fun r =>
        ((r.1, (S.saves p.1 a).elim p.2 fun e => p.2.write e.1 (S.text e.2) k), r.2)

/-- Nobody opens the file while another has it open, and who has it open writes all of its text. An
    open may fail: the party then writes without it, which changes nothing. -/
def WholeWrites (S : Saver σ α ι δ) (p : σ × OpenFile ι) : FileAction ι α → Prop
  | .opens _ => p.2.opened = []
  | .act a k => ∀ e ∈ S.saves p.1 a, e.1 ∈ p.2.opened → (S.text e.2).size ≤ k

instance (S : Saver σ α ι δ) : DecidableRel (WholeWrites S)
  | _, .opens _ | _, .act .. => by
    unfold WholeWrites
    infer_instance

section Rules

variable {M : Machine σ α ε} {S : Saver σ α ι δ} {p p' : σ × OpenFile ι} {s₀ s : σ}
  {f₀ f : OpenFile ι} {ev tr : List ε} {I : σ → Prop} {P : σ → δ → Prop}
  {G : σ × OpenFile ι → FileAction ι α → Prop}

/-- **What a step does**: it truncates the file, or it is one of the machine. -/
theorem step_onFile {a : FileAction ι α} (h : (onFile M S).step p a = some (p', ev)) :
    (∃ i, a = .opens i ∧ p'.1 = p.1 ∧ p'.2 = p.2.create i ∧ ev = []) ∨
      ∃ b k, a = .act b k ∧ M.step p.1 b = some (p'.1, ev) ∧
        p'.2 = (S.saves p.1 b).elim p.2 fun e => p.2.write e.1 (S.text e.2) k := by
  cases a with
  | opens i =>
      unfold onFile at h
      dsimp only at h
      split at h
      · cases h
        exact Or.inl ⟨i, rfl, rfl, rfl, rfl⟩
      · cases h
  | act b k =>
      obtain ⟨r, hr, e⟩ := Option.map_eq_some_iff.mp h
      cases e
      exact Or.inr ⟨b, k, rfl, hr, rfl⟩

/-- **The machine runs as before.** -/
theorem run_of_onFile (h : Run (onFile M S) G (s₀, f₀) tr (s, f)) : Run M anyStep s₀ tr s := by
  suffices hrun : Run M anyStep s₀ tr (s, f).1 from hrun
  refine Run.invariant (I := fun tr p => Run M anyStep s₀ tr p.1) .start ?_ h
  intro tr p a p' ev hrun _ hs
  rcases step_onFile hs with ⟨i, _, e, _, rfl⟩ | ⟨b, k, _, hb, _⟩
  · rw [List.append_nil, e]
    exact hrun
  · exact hrun.step trivial hb

/-- **Who opens the file and writes all of its copy leaves the text of it.** -/
theorem octets_of_save [DecidableRel G] {as : List (FileAction ι α)} {i : ι} {a : α} {k : Nat}
    {copy : δ}
    (h : (exec (onFile M S) G p (as ++ [.opens i] ++ [.act a k])).isSome = true)
    (hs : S.saves (endOf (onFile M S) G p (as ++ [.opens i])).1 a = some (i, copy))
    (hk : (S.text copy).size ≤ k) :
    (endOf (onFile M S) G p (as ++ [.opens i] ++ [.act a k])).2.octets = S.text copy := by
  obtain ⟨hbefore, _, hact⟩ := endOf_concat h
  obtain ⟨_, _, hopen⟩ := endOf_concat hbefore
  rcases step_onFile hact with ⟨_, e, _⟩ | ⟨_, _, e, _, hfile⟩
  · cases e
  · cases e
    rw [hfile, hs]
    rcases step_onFile hopen with ⟨_, e, _, hcreated, _⟩ | ⟨_, _, e, _⟩
    · cases e
      show (OpenFile.write _ i (S.text copy) k).octets = S.text copy
      rw [hcreated]
      have hmem : i ∈ ((endOf (onFile M S) G p as).2.create i).opened := List.mem_cons_self
      unfold OpenFile.write
      rw [if_pos hmem]
      exact overlay_empty hk
    · cases e

/-- What the file is: a text of a copy that `P` grants, or empty and open to one party. -/
structure FileHolds (S : Saver σ α ι δ) (P : σ → δ → Prop) (p : σ × OpenFile ι) : Prop where
  shut : p.2.opened = [] → ∃ copy, P p.1 copy ∧ p.2.octets = S.text copy
  opened : p.2.opened ≠ [] → p.2.octets = ByteArray.empty ∧ p.2.opened.length = 1

omit [DecidableEq ι] in
theorem FileHolds.create {i : ι} (h : p.2.opened = []) :
    FileHolds S P (p.1, p.2.create i) where
  shut := fun e => nomatch e
  opened := fun _ => ⟨rfl, congrArg (fun l => List.length (i :: l)) h⟩

/-- A copy that `P` grants is written whole, or not at all. -/
theorem FileHolds.write {s' : σ} {i : ι} {copy : δ} {k : Nat} (h : FileHolds S P p)
    (hkeep : ∀ x, P p.1 x → P s' x) (hcopy : P s' copy)
    (hk : i ∈ p.2.opened → (S.text copy).size ≤ k) :
    FileHolds S P (s', p.2.write i (S.text copy) k) := by
  unfold OpenFile.write
  by_cases hi : i ∈ p.2.opened
  · rw [if_pos hi]
    obtain ⟨hempty, hone⟩ := h.opened (List.ne_nil_of_mem hi)
    have hnone : p.2.opened.erase i = [] :=
      List.eq_nil_of_length_eq_zero (by rw [List.length_erase_of_mem hi, hone])
    refine ⟨fun _ => ⟨copy, hcopy, ?_⟩, fun hne => absurd hnone hne⟩
    show overlay (S.text copy) p.2.octets k = S.text copy
    rw [hempty, overlay_empty (hk hi)]
  · rw [if_neg hi]
    exact ⟨fun e => (h.shut e).imp fun x hx => ⟨hkeep x hx.1, hx.2⟩, h.opened⟩

/-- **The rule of the file**: if steps keep `P`, and what is written is granted by it, the file of a
    run of whole writes is the text of such a copy when it is shut, and empty while it is open. -/
theorem run_fileHolds (h₀ : I s₀) (hfile : FileHolds S P (s₀, f₀))
    (hstep : ∀ s a s' ev, I s → M.step s a = some (s', ev) →
      I s' ∧ (∀ x, P s x → P s' x) ∧ ∀ e ∈ S.saves s a, P s' e.2)
    (h : Run (onFile M S) (WholeWrites S) (s₀, f₀) tr (s, f)) : FileHolds S P (s, f) := by
  suffices hinv : I s ∧ FileHolds S P (s, f) from hinv.2
  refine Run.always (I := fun p => I p.1 ∧ FileHolds S P p) ⟨h₀, hfile⟩ ?_ h
  intro p a p' ev ⟨hI, hf⟩ hg hs
  obtain ⟨s', f'⟩ := p'
  rcases step_onFile hs with ⟨i, rfl, rfl, rfl, _⟩ | ⟨b, k, rfl, hb, rfl⟩
  · exact ⟨hI, .create hg⟩
  · obtain ⟨hI', hkeep, hgrant⟩ := hstep p.1 b s' ev hI hb
    refine ⟨hI', ?_⟩
    cases he : S.saves p.1 b with
    | none => exact ⟨fun e => (hf.shut e).imp fun x hx => ⟨hkeep x hx.1, hx.2⟩, hf.opened⟩
    | some e => exact hf.write hkeep (hgrant e he) (hg e he)

end Rules

end WriteBack
