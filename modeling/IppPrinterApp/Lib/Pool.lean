/-
  File:      IppPrinterApp/Lib/Pool.lean
  Subject:   A pool of tasks: a list that grows at its end and whose members move in place.

  Every task has a key that it keeps. What can be said about the tasks of one key is said about
  the sublist `Pool.tasksOf key k`: a new task goes to the end of its key's sublist and to no
  other; a task that moves is replaced where it stands in its key's sublist and in no other.

  What the tasks of a pool amount to together is `Pool.stock`: a new task adds its amount to it, a
  move exchanges the amounts of one task, and a task that leaves takes its amount with it.

  What is noted of each task stands beside the pool, in a list of its own: it stays in its place
  when the task moves, and goes when the task leaves.
-/
import Mathlib.Algebra.BigOperators.Group.List.Basic
import Mathlib.Algebra.Order.Group.Multiset
import Mathlib.Algebra.Order.Monoid.Unbundled.Basic
import Mathlib.Data.List.Forall2

namespace Pool

variable {τ κ : Type*} [DecidableEq κ] (key : τ → κ)

/-- The tasks of one key, in the order of the pool. -/
def tasksOf (k : κ) (pool : List τ) : List τ := pool.filter fun t => key t = k

variable {key}

theorem mem_tasksOf {k : κ} {pool : List τ} {t : τ} :
    t ∈ tasksOf key k pool ↔ t ∈ pool ∧ key t = k := by
  unfold tasksOf
  rw [List.mem_filter, decide_eq_true_eq]

theorem tasksOf_append_own {k : κ} {pool : List τ} {t : τ} (h : key t = k) :
    tasksOf key k (pool ++ [t]) = tasksOf key k pool ++ [t] := by
  unfold tasksOf
  rw [List.filter_append, List.filter_singleton, h]
  simp

theorem tasksOf_append_other {k : κ} {pool : List τ} {t : τ} (h : key t ≠ k) :
    tasksOf key k (pool ++ [t]) = tasksOf key k pool := by
  unfold tasksOf
  rw [List.filter_append, List.filter_singleton]
  simp [h]

/-- **A move** seen by the key of the task that moves: it is replaced where it stands. -/
theorem tasksOf_set_own {k : κ} {pool : List τ} {i : Nat} {t t' : τ} (hi : pool[i]? = some t)
    (ht : key t = k) (ht' : key t' = k) :
    ∃ before after, tasksOf key k pool = before ++ t :: after ∧
      tasksOf key k (pool.set i t') = before ++ t' :: after := by
  induction pool generalizing i with
  | nil => cases hi
  | cons u pool ih =>
      cases i with
      | zero =>
          cases hi
          refine ⟨[], tasksOf key k pool, ?_, ?_⟩
          · exact List.filter_cons_of_pos (by simpa using ht)
          · exact List.filter_cons_of_pos (by simpa using ht')
      | succ i =>
          obtain ⟨before, after, h₁, h₂⟩ := ih hi
          unfold tasksOf at h₁ h₂ ⊢
          by_cases hu : key u = k
          · refine ⟨u :: before, after, ?_, ?_⟩
            · rw [List.filter_cons_of_pos (by simpa using hu), h₁, List.cons_append]
            · rw [List.set_cons_succ, List.filter_cons_of_pos (by simpa using hu), h₂,
                List.cons_append]
          · refine ⟨before, after, ?_, ?_⟩
            · rw [List.filter_cons_of_neg (by simpa using hu), h₁]
            · rw [List.set_cons_succ, List.filter_cons_of_neg (by simpa using hu), h₂]

/-- A move seen by any other key: nothing. -/
theorem tasksOf_set_other {k : κ} {pool : List τ} {i : Nat} {t t' : τ} (hi : pool[i]? = some t)
    (ht : key t ≠ k) (ht' : key t' ≠ k) :
    tasksOf key k (pool.set i t') = tasksOf key k pool := by
  unfold tasksOf
  induction pool generalizing i with
  | nil => rfl
  | cons u pool ih =>
      cases i with
      | zero =>
          cases hi
          rw [List.set_cons_zero, List.filter_cons_of_neg (by simpa using ht'),
            List.filter_cons_of_neg (by simpa using ht)]
      | succ i =>
          rw [List.set_cons_succ, List.filter_cons, List.filter_cons, ih hi]

/-- Moves leave the number of tasks of every key alone. -/
theorem length_tasksOf_set {k : κ} {pool : List τ} {i : Nat} {t t' : τ} (hi : pool[i]? = some t)
    (ht : key t' = key t) :
    (tasksOf key k (pool.set i t')).length = (tasksOf key k pool).length := by
  by_cases h : key t = k
  · obtain ⟨before, after, h₁, h₂⟩ := tasksOf_set_own hi h (ht.trans h)
    rw [h₁, h₂, List.length_append, List.length_append, List.length_cons, List.length_cons]
  · rw [tasksOf_set_other hi h (by rw [ht]; exact h)]

/-- A task of the pool is there after a move, or it is the one that moved. -/
theorem mem_or_moved {pool : List τ} {i : Nat} {t t' u : τ} (hi : pool[i]? = some t)
    (hu : u ∈ pool) : u ∈ pool.set i t' ∨ (u = t ∧ t' ∈ pool.set i t') := by
  obtain ⟨n, hn⟩ := List.mem_iff_getElem?.mp hu
  have hlt : i < pool.length := (List.getElem?_eq_some_iff.mp hi).1
  by_cases hni : i = n
  · subst hni
    refine Or.inr ⟨Option.some.inj (hn.symm.trans hi), ?_⟩
    exact List.mem_of_getElem? (List.getElem?_set_self hlt)
  · refine Or.inl (List.mem_of_getElem? (i := n) ?_)
    rw [List.getElem?_set_ne hni]
    exact hn

/-- A task of the pool after a move is the moved one or one of before. -/
theorem mem_set {pool : List τ} {i : Nat} {t' u : τ} (h : u ∈ pool.set i t') :
    u ∈ pool ∨ u = t' := List.mem_or_eq_of_mem_set h

/-! ## The stock of a pool -/

section Stock

variable {σ μ : Type*} [AddCommMonoid μ] (amount : σ → μ)

/-- What the tasks of a pool amount to. -/
def stock (pool : List σ) : μ := (pool.map amount).sum

@[simp] theorem stock_nil : stock amount [] = 0 := rfl

@[simp] theorem stock_append (pool pool' : List σ) :
    stock amount (pool ++ pool') = stock amount pool + stock amount pool' := by
  unfold stock
  rw [List.map_append, List.sum_append]

@[simp] theorem stock_singleton (t : σ) : stock amount [t] = amount t := by
  unfold stock
  rw [List.map_singleton, List.sum_singleton]

theorem stock_cons (t : σ) (pool : List σ) :
    stock amount (t :: pool) = amount t + stock amount pool := by
  unfold stock
  rw [List.map_cons, List.sum_cons]

/-- **A move** exchanges the amounts of the task that moves. -/
theorem stock_set {pool : List σ} {i : Nat} {t : σ} (t' : σ) (hi : pool[i]? = some t) :
    amount t + stock amount (pool.set i t') = amount t' + stock amount pool := by
  induction pool generalizing i with
  | nil => cases hi
  | cons u pool ih =>
      cases i with
      | zero =>
          cases hi
          rw [List.set_cons_zero, stock_cons, stock_cons, add_left_comm]
      | succ i =>
          rw [List.set_cons_succ, stock_cons, stock_cons, add_left_comm, ih hi, add_left_comm]

/-- A move that keeps the amount of its task. -/
theorem stock_set_same {pool : List σ} {i : Nat} {t : σ} (t' : σ) (hi : pool[i]? = some t)
    (h : amount t' = amount t) : stock amount (pool.set i t') = stock amount pool := by
  induction pool generalizing i with
  | nil => rfl
  | cons u pool ih =>
      cases i with
      | zero =>
          cases hi
          rw [List.set_cons_zero, stock_cons, stock_cons, h]
      | succ i => rw [List.set_cons_succ, stock_cons, stock_cons, ih hi]

/-- **A task that leaves** takes its amount with it. -/
theorem stock_eraseIdx {pool : List σ} {i : Nat} {t : σ} (hi : pool[i]? = some t) :
    amount t + stock amount (pool.eraseIdx i) = stock amount pool := by
  induction pool generalizing i with
  | nil => cases hi
  | cons u pool ih =>
      cases i with
      | zero =>
          cases hi
          rw [List.eraseIdx_cons_zero, stock_cons]
      | succ i => rw [List.eraseIdx_cons_succ, stock_cons, stock_cons, add_left_comm, ih hi]

/-- **A move that balances**: what it takes out and what the task is then worth is what the task
    was worth and what comes in; and so it is for the pool. -/
theorem stock_move {ν : Type*} [AddCancelCommMonoid ν] (worth : σ → ν) {pool : List σ} {i : Nat}
    {t t' : σ} {out inn : ν} (hi : pool[i]? = some t) (h : out + worth t' = worth t + inn) :
    out + stock worth (pool.set i t') = stock worth pool + inn := by
  refine add_left_cancel (a := worth t) ?_
  calc worth t + (out + stock worth (pool.set i t'))
      = out + (worth t + stock worth (pool.set i t')) := add_left_comm _ _ _
    _ = out + worth t' + stock worth pool := by rw [stock_set worth t' hi, add_assoc]
    _ = worth t + inn + stock worth pool := by rw [h]
    _ = worth t + (stock worth pool + inn) := by rw [add_assoc, add_comm inn]

/-- A move that lowers what its task amounts to, but for what is added to it. -/
theorem stock_set_lt {work : σ → Nat} {pool : List σ} {i added : Nat} {t t' : σ}
    (hi : pool[i]? = some t) (h : work t' + 1 ≤ work t + added) :
    stock work (pool.set i t') + 1 ≤ stock work pool + added := by
  have hset := stock_set work t' hi
  omega

/-- What is in a stock of items is with one of the tasks. -/
theorem mem_stock {ι : Type*} {items : σ → Multiset ι} {pool : List σ} {x : ι} :
    x ∈ stock items pool ↔ ∃ t ∈ pool, x ∈ items t := by
  induction pool with
  | nil => simp
  | cons t pool ih => simp [stock_cons, ih]

end Stock

/-! ## Stocks in an order -/

section Ordered

variable {σ ν : Type*} [AddCommMonoid ν] [PartialOrder ν] [AddLeftMono ν] {pool : List σ} {i : Nat}
  {t t' : σ} {out inn : ν}

/-- A stock grows with what its tasks amount to. -/
theorem stock_mono {amount amount' : σ → ν} (h : ∀ t ∈ pool, amount t ≤ amount' t) :
    stock amount pool ≤ stock amount' pool := by
  induction pool with
  | nil => exact le_rfl
  | cons t pool ih =>
      rw [stock_cons, stock_cons]
      exact add_le_add (h t List.mem_cons_self) (ih fun u hu => h u (List.mem_cons_of_mem t hu))

variable [AddLeftReflectLE ν]

/-- **A move that makes up** for its task and what comes in makes up for the pool. -/
theorem le_stock_move (worth : σ → ν) (hi : pool[i]? = some t)
    (h : worth t + inn ≤ out + worth t') :
    stock worth pool + inn ≤ out + stock worth (pool.set i t') := by
  refine le_of_add_le_add_left (a := worth t) ?_
  calc worth t + (stock worth pool + inn)
      = worth t + inn + stock worth pool := by rw [add_assoc, add_comm inn]
    _ ≤ out + worth t' + stock worth pool := add_le_add_left h _
    _ = out + (worth t + stock worth (pool.set i t')) := by
        rw [stock_set worth t' hi, add_assoc]
    _ = worth t + (out + stock worth (pool.set i t')) := add_left_comm _ _ _

/-- **A move that is paid for** by its task and what comes in is paid for by the pool. -/
theorem stock_move_le (worth : σ → ν) (hi : pool[i]? = some t)
    (h : out + worth t' ≤ worth t + inn) :
    out + stock worth (pool.set i t') ≤ stock worth pool + inn := by
  refine le_of_add_le_add_left (a := worth t) ?_
  calc worth t + (out + stock worth (pool.set i t'))
      = out + worth t' + stock worth pool := by
        rw [add_left_comm, stock_set worth t' hi, add_assoc]
    _ ≤ worth t + inn + stock worth pool := add_le_add_left h _
    _ = worth t + (stock worth pool + inn) := by rw [add_assoc, add_comm inn]

end Ordered

section Notes

variable {τ ν : Type*} {R : τ → ν → Prop} {pool : List τ} {notes : List ν} {i : Nat} {t : τ}

/-- The note beside a task. -/
theorem noted (h : List.Forall₂ R pool notes) (hi : pool[i]? = some t) :
    ∃ n, notes[i]? = some n ∧ R t n := by
  induction h generalizing i with
  | nil => cases hi
  | cons hr _ ih =>
      cases i with
      | zero =>
          cases hi
          exact ⟨_, rfl, hr⟩
      | succ i => exact ih hi

theorem notes_append (h : List.Forall₂ R pool notes) {n : ν} (hr : R t n) :
    List.Forall₂ R (pool ++ [t]) (notes ++ [n]) :=
  List.rel_append h (.cons hr .nil)

theorem notes_set (h : List.Forall₂ R pool notes) {t' : τ} (hi : pool[i]? = some t)
    (hmove : ∀ n, R t n → R t' n) : List.Forall₂ R (pool.set i t') notes := by
  induction h generalizing i with
  | nil => exact .nil
  | cons hr hrest ih =>
      cases i with
      | zero =>
          cases hi
          exact .cons (hmove _ hr) hrest
      | succ i => exact .cons hr (ih hi)

theorem notes_eraseIdx (h : List.Forall₂ R pool notes) (i : Nat) :
    List.Forall₂ R (pool.eraseIdx i) (notes.eraseIdx i) := by
  induction h generalizing i with
  | nil => exact .nil
  | cons hr hrest ih =>
      cases i with
      | zero => exact hrest
      | succ i => exact .cons hr (ih i)

end Notes

end Pool
