/-
  File:      IppPrinterApp/Lib/Logbook.lean
  Subject:   A logbook: entries with a key, in the order they were made.

  `entriesOf k` are the entries of one key in their order, `lastOf k` is the last of them. A new
  entry goes to the end of its key's entries and is the last of them; nothing changes for any
  other key.
-/
import Mathlib.Data.List.Basic

namespace Logbook

variable {κ ω : Type*} [DecidableEq κ]

/-- The entries of one key. -/
def entriesOf (k : κ) (log : List (κ × ω)) : List ω := (log.filter fun e => e.1 = k).map (·.2)

/-- The last entry of one key. -/
def lastOf (k : κ) (log : List (κ × ω)) : Option ω := (entriesOf k log).getLast?

@[simp] theorem entriesOf_nil (k : κ) : entriesOf k ([] : List (κ × ω)) = [] := rfl

@[simp] theorem entriesOf_append (k : κ) (log log' : List (κ × ω)) :
    entriesOf k (log ++ log') = entriesOf k log ++ entriesOf k log' := by
  simp [entriesOf]

@[simp] theorem entriesOf_own (k : κ) (v : ω) : entriesOf k [(k, v)] = [v] := by
  simp [entriesOf]

theorem entriesOf_other {k k' : κ} (h : k ≠ k') (v : ω) : entriesOf k [(k', v)] = [] := by
  simp [entriesOf, h.symm]

@[simp] theorem lastOf_nil (k : κ) : lastOf k ([] : List (κ × ω)) = none := rfl

@[simp] theorem lastOf_own (k : κ) (log : List (κ × ω)) (v : ω) :
    lastOf k (log ++ [(k, v)]) = some v := by
  simp [lastOf]

theorem lastOf_other {k k' : κ} (h : k ≠ k') (log : List (κ × ω)) (v : ω) :
    lastOf k (log ++ [(k', v)]) = lastOf k log := by
  simp [lastOf, entriesOf_other h]

end Logbook
