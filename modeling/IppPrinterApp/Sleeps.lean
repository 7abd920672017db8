/-
  File:      IppPrinterApp/Sleeps.lean
  Subject:   The cancelable sleep of a held job (`sleep_cancelable`, server.rs), step by step.

  The loop reads the flag, naps a slice and subtracts it; somebody else may set the flag between
  any two of these. `sleeper` is the loop beside that somebody: its own steps are the reads, the
  naps and the wake-ups, and a set can come at any time or never.

  * `sleepCancelable_returned`, `sleepCancelable_napped` -- a round of `sleepCancelable` is a read
    and, if it goes on, a nap and a wake-up;
  * `SleepPc.Spends`, `run_spends` -- what has been slept and what is left make the duration, and
    every slice left is a nap to come;
  * `run_heard` -- nothing follows a read that saw the flag;
  * `run_late` -- a set is followed by at most one more nap;
  * `sleep_cancelable_runs`: **no underflow, at most a nap a slice, the whole duration if nobody
    sets the flag, and the answer is what the last read saw**.
-/
import IppPrinterApp.Worker
import IppPrinterApp.Lib.Transition

namespace IppPrinterApp

open Transition

/-! ## 1. The loop -/

/-- Where a sleep is: the step it takes next. -/
inductive SleepPc where
  /-- the head of the loop: about to read the flag -/
  | head (left : Duration)
  /-- the flag was not set: about to nap -/
  | ready (left : Duration)
  /-- napping; the nap is subtracted on waking up -/
  | napping (left nap : Duration)
  | returned (canceled : Bool)
  /-- a nap was longer than what was left: the subtraction of durations panics -/
  | panicked
  deriving DecidableEq, Repr

/-- What is seen of a sleep, and of the one who sets the flag. -/
inductive SleepEvent where
  | read (canceled : Bool)
  | nap (d : Duration)
  | woke
  | set
  deriving DecidableEq, Repr

/-- An own step of the loop. -/
def SleepPc.next (flag : Bool) : SleepPc → Option (SleepPc × SleepEvent)
  | .head left =>
    if left > 0 then
      if flag then some (.returned true, .read true) else some (.ready left, .read false)
    else some (.returned flag, .read flag)
  | .ready left => some (.napping left (min left SLICE), .nap (min left SLICE))
  | .napping left nap => some (if nap ≤ left then .head (left - nap) else .panicked, .woke)
  | .returned _ | .panicked => none

/-- A read that finds the flag set ends the sleep, whatever is left. -/
theorem next_head_set (left : Duration) :
    (SleepPc.head left).next true = some (.returned true, .read true) := by
  unfold SleepPc.next
  dsimp only
  split <;> rfl

theorem next_head_clear {left : Duration} (h : 0 < left) :
    (SleepPc.head left).next false = some (.ready left, .read false) := by
  unfold SleepPc.next
  dsimp only
  rw [if_pos h]
  rfl

theorem next_head_end : (SleepPc.head 0).next false = some (.returned false, .read false) := rfl

theorem next_napping {left nap : Duration} (flag : Bool) (h : nap ≤ left) :
    (SleepPc.napping left nap).next flag = some (.head (left - nap), .woke) := by
  unfold SleepPc.next
  dsimp only
  rw [if_pos h]

/-- The flag and the loop. -/
structure Sleep where
  flag : Bool
  pc : SleepPc
  deriving DecidableEq, Repr

/-- Who moves. -/
inductive SleepAct where
  | own
  | cancel
  deriving DecidableEq, Repr

/-- The loop beside one who may set the flag. -/
def sleeper : Machine Sleep SleepAct SleepEvent where
  step c
    | .own => (c.pc.next c.flag).map fun r => (⟨c.flag, r.1⟩, [r.2])
    | .cancel => some (⟨true, c.pc⟩, [.set])

/-- What a step of the sleeper is. -/
inductive SleepMove : Sleep → Sleep → SleepEvent → Prop where
  | set (c : Sleep) : SleepMove c ⟨true, c.pc⟩ .set
  | noticed (left : Duration) : SleepMove ⟨true, .head left⟩ ⟨true, .returned true⟩ (.read true)
  | unnoticed {left : Duration} (h : 0 < left) :
      SleepMove ⟨false, .head left⟩ ⟨false, .ready left⟩ (.read false)
  | ended : SleepMove ⟨false, .head 0⟩ ⟨false, .returned false⟩ (.read false)
  | nap (flag : Bool) (left : Duration) :
      SleepMove ⟨flag, .ready left⟩ ⟨flag, .napping left (min left SLICE)⟩ (.nap (min left SLICE))
  | woke (flag : Bool) {left nap : Duration} (h : nap ≤ left) :
      SleepMove ⟨flag, .napping left nap⟩ ⟨flag, .head (left - nap)⟩ .woke
  | underflow (flag : Bool) {left nap : Duration} (h : ¬nap ≤ left) :
      SleepMove ⟨flag, .napping left nap⟩ ⟨flag, .panicked⟩ .woke

/-- **What a step of the sleeper can be.** -/
theorem sleeper_step {c c' : Sleep} {a : SleepAct} {ev : List SleepEvent}
    (h : sleeper.step c a = some (c', ev)) : ∃ e, ev = [e] ∧ SleepMove c c' e := by
  cases a with
  | cancel =>
      cases h
      exact ⟨.set, rfl, .set c⟩
  | own =>
      obtain ⟨flag, pc⟩ := c
      obtain ⟨⟨pc', e⟩, hn, he⟩ := Option.map_eq_some_iff.mp h
      cases he
      refine ⟨e, rfl, ?_⟩
      dsimp only at hn ⊢
      cases pc with
      | head left =>
          cases flag with
          | true =>
              rw [next_head_set] at hn
              cases hn
              exact .noticed left
          | false =>
              rcases Nat.eq_zero_or_pos left with rfl | hl
              · cases hn
                exact .ended
              · rw [next_head_clear hl] at hn
                cases hn
                exact .unnoticed hl
      | ready left =>
          cases hn
          exact .nap flag left
      | napping left nap =>
          by_cases hle : nap ≤ left
          · rw [next_napping flag hle] at hn
            cases hn
            exact .woke flag hle
          · unfold SleepPc.next at hn
            dsimp only at hn
            rw [if_neg hle] at hn
            cases hn
            exact .underflow flag hle
      | returned b => cases hn
      | panicked => cases hn

/-! ## 2. The round of the worker's model -/

/-- An own step, from what the loop does. -/
theorem sleeper_own {flag : Bool} {pc pc' : SleepPc} {e : SleepEvent}
    (h : pc.next flag = some (pc', e)) :
    sleeper.step ⟨flag, pc⟩ .own = some (⟨flag, pc'⟩, [e]) := by
  show Option.map _ (pc.next flag) = _
  rw [h]
  rfl

theorem sleepCancelable_returned {flag b : Bool} {left : Duration}
    (h : sleepCancelable flag left = .returned b) :
    sleeper.step ⟨flag, .head left⟩ .own = some (⟨flag, .returned b⟩, [.read b]) := by
  apply sleeper_own
  unfold sleepCancelable at h
  rcases Nat.eq_zero_or_pos left with rfl | hl
  · cases h
    rfl
  · rw [if_pos hl] at h
    cases flag with
    | true =>
        cases h
        exact next_head_set left
    | false => cases h

/-- **A round that goes on** is a read, a nap and a wake-up. -/
theorem sleepCancelable_napped {flag : Bool} {left left' : Duration}
    (h : sleepCancelable flag left = .napped left') :
    Run sleeper anyStep ⟨flag, .head left⟩ [.read false, .nap (min left SLICE), .woke]
      ⟨flag, .head left'⟩ := by
  unfold sleepCancelable at h
  rcases Nat.eq_zero_or_pos left with rfl | hl
  · cases h
  · rw [if_pos hl] at h
    cases flag with
    | true => cases h
    | false =>
        cases h
        have hread := sleeper_own (next_head_clear hl)
        have hnap : sleeper.step ⟨false, .ready left⟩ .own = some (⟨false, _⟩, [_]) :=
          sleeper_own rfl
        have hwoke := sleeper_own (next_napping false (Nat.min_le_left left SLICE))
        exact ((Run.start.step trivial hread).step trivial hnap).step trivial hwoke

/-! ## 3. Counting -/

/-- How long an event sleeps, in nanoseconds. -/
def SleepEvent.slept : SleepEvent → Nat
  | .nap d => d
  | _ => 0

def SleepEvent.isNap : SleepEvent → Bool
  | .nap _ => true
  | _ => false

def SleepEvent.isSet : SleepEvent → Bool
  | .set => true
  | _ => false

/-- A read that saw the flag. -/
def SleepEvent.isSeen : SleepEvent → Bool
  | .read b => b
  | _ => false

def SleepEvent.reads : SleepEvent → Option Bool
  | .read b => some b
  | _ => none

/-- The whole time slept. -/
def slept (tr : List SleepEvent) : Nat := (tr.map SleepEvent.slept).sum

/-- The naps begun. -/
def naps (tr : List SleepEvent) : Nat := tr.countP SleepEvent.isNap

/-- The steps of the loop itself. -/
def ownSteps (tr : List SleepEvent) : Nat := tr.countP fun e => !e.isSet

/-- What the last read saw. -/
def lastRead (tr : List SleepEvent) : Option Bool := (tr.filterMap SleepEvent.reads).getLast?

/-- The naps begun after the first event of a kind. -/
def napsAfter (kind : SleepEvent → Bool) : List SleepEvent → Nat
  | [] => 0
  | e :: tr => if kind e then naps tr else napsAfter kind tr

/-- The slices of a duration, the last one maybe shorter: `⌈dur / SLICE⌉`. -/
def slices (dur : Duration) : Nat := (dur + SLICE - 1) / SLICE

section Counting

variable (tr : List SleepEvent) (e : SleepEvent)

theorem slept_step : slept (tr ++ [e]) = slept tr + e.slept := by
  simp [slept]

theorem naps_step : naps (tr ++ [e]) = naps tr + if e.isNap then 1 else 0 := by
  simp [naps, List.countP_singleton]

theorem ownSteps_step : ownSteps (tr ++ [e]) = ownSteps tr + if e.isSet then 0 else 1 := by
  cases h : e.isSet <;> simp [ownSteps, h]

/-- What an event of each kind adds to the account. -/
theorem account_read (b : Bool) :
    slept (tr ++ [.read b]) = slept tr ∧ naps (tr ++ [.read b]) = naps tr ∧
      ownSteps (tr ++ [.read b]) = ownSteps tr + 1 :=
  ⟨slept_step tr (.read b), naps_step tr (.read b), ownSteps_step tr (.read b)⟩

theorem account_nap (d : Duration) :
    slept (tr ++ [.nap d]) = slept tr + d ∧ naps (tr ++ [.nap d]) = naps tr + 1 ∧
      ownSteps (tr ++ [.nap d]) = ownSteps tr + 1 :=
  ⟨slept_step tr (.nap d), naps_step tr (.nap d), ownSteps_step tr (.nap d)⟩

theorem account_woke :
    slept (tr ++ [.woke]) = slept tr ∧ naps (tr ++ [.woke]) = naps tr ∧
      ownSteps (tr ++ [.woke]) = ownSteps tr + 1 :=
  ⟨slept_step tr .woke, naps_step tr .woke, ownSteps_step tr .woke⟩

theorem account_set :
    slept (tr ++ [.set]) = slept tr ∧ naps (tr ++ [.set]) = naps tr ∧
      ownSteps (tr ++ [.set]) = ownSteps tr :=
  ⟨slept_step tr .set, naps_step tr .set, ownSteps_step tr .set⟩

theorem lastRead_read (b : Bool) : lastRead (tr ++ [.read b]) = some b := by
  simp [lastRead, SleepEvent.reads]

theorem lastRead_set : lastRead (tr ++ [.set]) = lastRead tr := by
  simp [lastRead, SleepEvent.reads]

theorem napsAfter_step (kind : SleepEvent → Bool) :
    napsAfter kind (tr ++ [e]) = napsAfter kind tr + if tr.any kind && e.isNap then 1 else 0 := by
  induction tr with
  | nil => cases h : kind e <;> simp [napsAfter, naps, h]
  | cons d tr ih =>
      rw [List.cons_append, napsAfter, napsAfter, List.any_cons, ih, naps_step]
      cases kind d <;> simp

/-- What follows an event of the kind is not more than what follows the first. -/
theorem naps_le_napsAfter {kind : SleepEvent → Bool} {before after : List SleepEvent}
    {d : SleepEvent} (h : kind d = true) : naps after ≤ napsAfter kind (before ++ d :: after) := by
  induction before with
  | nil =>
      rw [List.nil_append, napsAfter, if_pos h]
  | cons c before ih =>
      rw [List.cons_append, napsAfter]
      split
      · unfold naps
        rw [List.countP_append, List.countP_cons]
        omega
      · exact ih

end Counting

/-- Taking at most `k` away is a quotient less, rounding up. -/
theorem ceil_sub_min {n k : Nat} (hn : 0 < n) (hk : 0 < k) :
    (n - min n k + k - 1) / k + 1 = (n + k - 1) / k := by
  rcases Nat.le_total n k with hle | hle
  · have hlast : (n + k - 1) / k = 1 := Nat.div_eq_of_lt_le (by omega) (by omega)
    rw [hlast, Nat.min_eq_left hle, Nat.sub_self, Nat.zero_add, Nat.div_eq_of_lt (by omega)]
  · have hmore : n + k - 1 = n - k + k - 1 + k := by omega
    rw [Nat.min_eq_right hle, hmore, Nat.add_div_right _ hk]

/-- **A nap is a slice less.** -/
theorem slices_nap {left : Duration} (h : 0 < left) :
    slices (left - min left SLICE) + 1 = slices left :=
  ceil_sub_min h (by decide)

/-! ## 4. What is left -/

/-- **The account of a sleep**: slept and left make the duration, the naps begun and the slices left
    its slices, and a nap comes with a read and a wake-up. -/
def SleepPc.Spends (dur : Duration) (tr : List SleepEvent) : SleepPc → Prop
  | .head left =>
    slept tr + left = dur ∧ naps tr + slices left = slices dur ∧ ownSteps tr = 3 * naps tr
  | .ready left =>
    0 < left ∧ slept tr + left = dur ∧ naps tr + slices left = slices dur ∧
      ownSteps tr = 3 * naps tr + 1
  | .napping left nap =>
    nap ≤ left ∧ slept tr + (left - nap) = dur ∧ naps tr + slices (left - nap) = slices dur ∧
      ownSteps tr + 1 = 3 * naps tr
  | .returned canceled =>
    slept tr ≤ dur ∧ naps tr ≤ slices dur ∧ ownSteps tr = 3 * naps tr + 1 ∧
      (canceled = false → slept tr = dur)
  | .panicked => False

/-- **A step keeps the account.** -/
theorem spends_step {dur : Duration} {tr : List SleepEvent} {c c' : Sleep} {e : SleepEvent}
    (h : c.pc.Spends dur tr) (hm : SleepMove c c' e) : c'.pc.Spends dur (tr ++ [e]) := by
  cases hm with
  | set c =>
      obtain ⟨hs, hn, ho⟩ := account_set tr
      obtain ⟨flag, pc⟩ := c
      cases pc <;> simp only [SleepPc.Spends, hs, hn, ho] at h ⊢ <;> exact h
  | noticed left =>
      obtain ⟨hs, hn, ho⟩ := h
      obtain ⟨hs', hn', ho'⟩ := account_read tr true
      exact ⟨by omega, by omega, by omega, fun hf => by cases hf⟩
  | unnoticed hl =>
      obtain ⟨hs, hn, ho⟩ := h
      obtain ⟨hs', hn', ho'⟩ := account_read tr false
      exact ⟨hl, by omega, by omega, by omega⟩
  | ended =>
      obtain ⟨hs, hn, ho⟩ := h
      obtain ⟨hs', hn', ho'⟩ := account_read tr false
      exact ⟨by omega, by omega, by omega, fun _ => by omega⟩
  | nap flag left =>
      obtain ⟨hl, hs, hn, ho⟩ := h
      obtain ⟨hs', hn', ho'⟩ := account_nap tr (min left SLICE)
      have hslice := slices_nap hl
      have hle := Nat.min_le_left left SLICE
      exact ⟨hle, by omega, by omega, by omega⟩
  | woke flag hle =>
      obtain ⟨-, hs, hn, ho⟩ := h
      obtain ⟨hs', hn', ho'⟩ := account_woke tr
      exact ⟨by omega, by omega, by omega⟩
  | underflow flag hnot => exact absurd h.1 hnot

section Runs

variable {dur : Duration} {flag : Bool} {tr : List SleepEvent} {c : Sleep}

theorem run_spends (h : Run sleeper anyStep ⟨flag, .head dur⟩ tr c) : c.pc.Spends dur tr := by
  refine Run.invariant (I := fun tr c => c.pc.Spends dur tr) ?_ ?_ h
  · exact ⟨Nat.zero_add dur, Nat.zero_add _, rfl⟩
  · intro tr c a c' ev hI _ hs
    obtain ⟨e, rfl, hm⟩ := sleeper_step hs
    exact spends_step hI hm

/-- Wherever a sleep is, its naps and its steps are bounded by the slices of the duration. -/
theorem SleepPc.Spends.bounds {pc : SleepPc} (h : pc.Spends dur tr) :
    naps tr ≤ slices dur ∧ ownSteps tr ≤ 3 * slices dur + 1 := by
  cases pc with
  | head left =>
      obtain ⟨-, hn, ho⟩ := h
      omega
  | ready left =>
      obtain ⟨-, -, hn, ho⟩ := h
      omega
  | napping left nap =>
      obtain ⟨-, -, hn, ho⟩ := h
      omega
  | returned canceled =>
      obtain ⟨-, hn, ho, -⟩ := h
      omega
  | panicked => exact h.elim

/-- A sleep that has not returned goes on. -/
theorem SleepPc.Spends.goes_on {pc : SleepPc} (h : pc.Spends dur tr) (b : Bool) :
    (∃ canceled, pc = .returned canceled) ∨ (sleeper.step ⟨b, pc⟩ .own).isSome = true := by
  cases pc with
  | head left =>
      right
      cases b with
      | true => rw [sleeper_own (next_head_set left)]; rfl
      | false =>
          rcases Nat.eq_zero_or_pos left with rfl | hl
          · rw [sleeper_own next_head_end]; rfl
          · rw [sleeper_own (next_head_clear hl)]; rfl
  | ready left => exact Or.inr rfl
  | napping left nap => exact Or.inr rfl
  | returned canceled => exact Or.inl ⟨canceled, rfl⟩
  | panicked => exact h.elim

/-! ## 5. The flag -/

/-- **Nothing follows a read that saw the flag** but further sets: the sleep has returned. -/
def Heard (tr : List SleepEvent) (c : Sleep) : Prop :=
  napsAfter SleepEvent.isSeen tr = 0 ∧
    (tr.any SleepEvent.isSeen = true → c.pc = .returned true)

theorem run_heard (h : Run sleeper anyStep ⟨flag, .head dur⟩ tr c) : Heard tr c := by
  refine Run.invariant (I := Heard) ?_ ?_ h
  · exact ⟨rfl, fun hseen => by cases hseen⟩
  · intro tr c a c' ev hI _ hs
    obtain ⟨e, rfl, hm⟩ := sleeper_step hs
    obtain ⟨hnone, hret⟩ := hI
    have hunseen (hpc : c.pc ≠ .returned true) : tr.any SleepEvent.isSeen = false :=
      Bool.eq_false_iff.mpr fun h => hpc (hret h)
    unfold Heard
    rw [napsAfter_step, List.any_append, hnone]
    cases hm with
    | set c => simpa [SleepEvent.isNap, SleepEvent.isSeen] using hret
    | noticed left => simp [SleepEvent.isNap]
    | unnoticed hl => simp [SleepEvent.isNap, SleepEvent.isSeen, hunseen nofun]
    | ended => simp [SleepEvent.isNap, SleepEvent.isSeen, hunseen nofun]
    | nap b left => simp [SleepEvent.isSeen, hunseen nofun]
    | woke b hle => simp [SleepEvent.isNap, SleepEvent.isSeen, hunseen nofun]
    | underflow b hnot => simp [SleepEvent.isNap, SleepEvent.isSeen, hunseen nofun]

/-- What the flag, the position and the events have to do with each other. -/
structure FlagNoted (flag : Bool) (tr : List SleepEvent) (c : Sleep) : Prop where
  /-- the flag is set as soon as somebody has set it -/
  set : c.flag = (flag || tr.any SleepEvent.isSet)
  /-- **at most one nap begins late**, and its read was before the set -/
  late : napsAfter SleepEvent.isSet tr ≤ 1
  ready : ∀ left, c.pc = .ready left → napsAfter SleepEvent.isSet tr = 0
  /-- the answer is what the last read saw -/
  last : ∀ b, c.pc = .returned b → lastRead tr = some b ∧ (b = true → c.flag = true)

/-- Before anybody has set the flag, no nap is late. -/
theorem napsAfter_of_any {kind : SleepEvent → Bool} (h : tr.any kind = false) :
    napsAfter kind tr = 0 := by
  induction tr with
  | nil => rfl
  | cons e tr ih =>
      rw [List.any_cons, Bool.or_eq_false_iff] at h
      rw [napsAfter, h.1]
      exact ih h.2

theorem FlagNoted.unset (h : FlagNoted flag tr c) (hc : c.flag = false) :
    flag = false ∧ tr.any SleepEvent.isSet = false := by
  have hset := h.set
  rw [hc] at hset
  exact Bool.or_eq_false_iff.mp hset.symm

theorem flagNoted_step {c' : Sleep} {e : SleepEvent} (h : FlagNoted flag tr c)
    (hm : SleepMove c c' e) : FlagNoted flag (tr ++ [e]) c' := by
  have hset : c'.flag = (flag || (tr ++ [e]).any SleepEvent.isSet) := by
    rw [List.any_append, ← Bool.or_assoc, ← h.set]
    cases hm <;> simp [SleepEvent.isSet]
  have hquiet (he : e.isNap = false) :
      napsAfter SleepEvent.isSet (tr ++ [e]) = napsAfter SleepEvent.isSet tr := by
    rw [napsAfter_step, he, Bool.and_false]
    rfl
  cases hm with
  | set c =>
      rw [show (⟨true, c.pc⟩ : Sleep).flag = true from rfl] at hset
      exact ⟨hset, (hquiet rfl).symm ▸ h.late,
        fun left hpc => (hquiet rfl).trans (h.ready left hpc),
        fun b hpc => ⟨(lastRead_set tr).trans (h.last b hpc).1, fun _ => rfl⟩⟩
  | noticed left =>
      refine ⟨hset, (hquiet rfl).symm ▸ h.late, nofun, fun b hpc => ?_⟩
      cases hpc
      exact ⟨lastRead_read tr true, fun _ => rfl⟩
  | unnoticed hl =>
      -- the flag is not set yet
      have hnone := napsAfter_of_any (h.unset rfl).2
      exact ⟨hset, (hquiet rfl).symm ▸ h.late, fun _ _ => (hquiet rfl).trans hnone, nofun⟩
  | ended =>
      refine ⟨hset, (hquiet rfl).symm ▸ h.late, nofun, fun b hpc => ?_⟩
      cases hpc
      exact ⟨lastRead_read tr false, nofun⟩
  | nap b left =>
      refine ⟨hset, ?_, nofun, nofun⟩
      rw [napsAfter_step, h.ready left rfl, Nat.zero_add]
      split <;> decide
  | woke b hle => exact ⟨hset, (hquiet rfl).symm ▸ h.late, nofun, nofun⟩
  | underflow b hnot => exact ⟨hset, (hquiet rfl).symm ▸ h.late, nofun, nofun⟩

theorem run_flagNoted (h : Run sleeper anyStep ⟨flag, .head dur⟩ tr c) : FlagNoted flag tr c := by
  refine Run.invariant (I := FlagNoted flag) ?_ ?_ h
  · exact ⟨(Bool.or_false flag).symm, Nat.zero_le 1, nofun, nofun⟩
  · intro tr c a c' ev hI _ hs
    obtain ⟨e, rfl, hm⟩ := sleeper_step hs
    exact flagNoted_step hI hm

/-- A flag set before the sleep begins: no nap at all. -/
theorem run_set_before (h : Run sleeper anyStep ⟨true, .head dur⟩ tr c) : naps tr = 0 := by
  have hboth : c.flag = true ∧ (c.pc = .head dur ∨ c.pc = .returned true) ∧ naps tr = 0 := by
    refine Run.invariant (I := fun tr c =>
      c.flag = true ∧ (c.pc = .head dur ∨ c.pc = .returned true) ∧ naps tr = 0) ?_ ?_ h
    · exact ⟨rfl, Or.inl rfl, rfl⟩
    · intro tr c a c' ev hI _ hs
      obtain ⟨e, rfl, hm⟩ := sleeper_step hs
      obtain ⟨hflag, hpc, hn⟩ := hI
      cases hm with
      | set c => exact ⟨rfl, hpc, (account_set tr).2.1.trans hn⟩
      | noticed left => exact ⟨rfl, Or.inr rfl, (account_read tr true).2.1.trans hn⟩
      | unnoticed hl => cases hflag
      | ended => cases hflag
      | nap b left => rcases hpc with hpc | hpc <;> cases hpc
      | woke b hle => rcases hpc with hpc | hpc <;> cases hpc
      | underflow b hnot => rcases hpc with hpc | hpc <;> cases hpc
  exact hboth.2.2

/-! ## 6. Every sleep -/

/-- **The cancelable sleep**, whatever the duration and whenever the flag is set: it never
    underflows, it returns after at most a nap a slice, it sleeps the whole duration if nobody sets
    the flag, no nap begins once a read has seen the flag and at most one between the set and that
    read, and it answers what its last read saw. -/
theorem sleep_cancelable_runs (h : Run sleeper anyStep ⟨flag, .head dur⟩ tr c) :
    c.pc ≠ .panicked ∧
    (naps tr ≤ slices dur ∧ ownSteps tr ≤ 3 * slices dur + 1 ∧
      ((∃ b, c.pc = .returned b) ∨ (sleeper.step c .own).isSome = true)) ∧
    (flag = false → .set ∉ tr → ∀ b, c.pc = .returned b → b = false ∧ slept tr = dur) ∧
    (∀ before after, tr = before ++ .read true :: after → naps after = 0) ∧
    (∀ before after, tr = before ++ .set :: after → naps after ≤ 1) ∧
    (flag = true → naps tr = 0) ∧
    (∀ b, c.pc = .returned b → lastRead tr = some b) := by
  have hspends := run_spends h
  have hnoted := run_flagNoted h
  obtain ⟨hnaps, hsteps⟩ := hspends.bounds
  refine ⟨?_, ⟨hnaps, hsteps, hspends.goes_on c.flag⟩, ?_, ?_, ?_, ?_, ?_⟩
  · intro hpc
    rw [hpc] at hspends
    exact hspends
  · intro hflag hset b hpc
    have hunset : c.flag = false := by
      have hno : tr.any SleepEvent.isSet = false := by
        rw [List.any_eq_false]
        intro e he hse
        cases e <;> first | exact hset he | cases hse
      rw [hnoted.set, hflag, hno]
      rfl
    have hb : b = false := by
      cases b with
      | false => rfl
      | true => rw [(hnoted.last true hpc).2 rfl] at hunset; cases hunset
    rw [hpc] at hspends
    exact ⟨hb, hspends.2.2.2 hb⟩
  · intro before after htr
    have hnone := (run_heard h).1
    have hle := @naps_le_napsAfter SleepEvent.isSeen before after (.read true) rfl
    rw [htr] at hnone
    omega
  · intro before after htr
    have hlate := hnoted.late
    have hle := @naps_le_napsAfter SleepEvent.isSet before after .set rfl
    rw [htr] at hlate
    omega
  · intro hflag
    subst hflag
    exact run_set_before h
  · exact fun b hpc => (hnoted.last b hpc).1

end Runs

/-- 300 ms, and the flag is set during the last nap. -/
def Trial.nap : List SleepAct := [.own, .own, .own, .own, .own, .cancel, .own, .own]

theorem sleep_cancelable_runs_late :
    lastRead (traceOf sleeper anyStep ⟨false, .head (millis 300)⟩ Trial.nap) = some true ∧
      naps (traceOf sleeper anyStep ⟨false, .head (millis 300)⟩ Trial.nap) ≤ 2 := by
  have h := sleep_cancelable_runs (run_endOf (by decide : (exec sleeper anyStep
    ⟨false, .head (millis 300)⟩ Trial.nap).isSome = true))
  exact ⟨h.2.2.2.2.2.2 true (by decide), h.2.1.1⟩

end IppPrinterApp
