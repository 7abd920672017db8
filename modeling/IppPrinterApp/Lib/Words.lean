/-
  File:      IppPrinterApp/Lib/Words.lean
  Subject:   The words of a list: its non-empty pieces between separators.

  Text is cut into words by dropping every run of separators, and put together again with one
  separator between two words. What is lost is the runs; the words are not: the words of joined
  words are those words (`words_join`).

  What counts as a separator may be given by a test too: `runs p` are the maximal runs of elements
  with `p`.

  * `runs_append`, `runs_gap_append`, `runs_append_gap` -- the elements between two runs, and
    before the first and after the last, do not matter;
  * `maximalRuns_runs` -- they are the maximal ones;
  * `runs_map` -- runs under a change of the elements;
  * `runs_join` -- the runs of joined runs are those runs;
  * `join_tight` -- joined words do not start or end with a separator, or have two in a row.
-/
import Mathlib.Data.List.Basic
import Mathlib.Data.List.TakeWhile

namespace Words

variable {α : Type*} [DecidableEq α] {sep : α}

/-- The non-empty pieces between separators. -/
def words (sep : α) (xs : List α) : List (List α) := (xs.splitOn sep).filter fun w => !w.isEmpty

/-- One separator between two words. -/
def join (sep : α) (ws : List (List α)) : List α := [sep].intercalate ws

/-- A word: not empty, and without a separator. -/
def IsWord (sep : α) (w : List α) : Prop := w ≠ [] ∧ sep ∉ w

/-! ## Runs -/

section Runs

omit [DecidableEq α]

variable {β : Type*} {p : α → Bool}

/-- The maximal runs of elements with `p`: the non-empty pieces between the others. -/
def runs (p : α → Bool) (xs : List α) : List (List α) :=
  (xs.splitOnP fun x => !p x).filter fun w => !w.isEmpty

theorem runs_nil : runs p ([] : List α) = [] := by simp [runs]

/-- An element without `p` ends one run and starts the next. -/
theorem runs_append_cons {x : α} (hx : p x = false) (xs ys : List α) :
    runs p (xs ++ x :: ys) = runs p xs ++ runs p ys := by
  have hsep : (!p x) = true := by rw [hx]; rfl
  unfold runs
  rw [List.splitOnP_append_cons xs ys hsep, List.filter_append]

/-- What comes before the first run does not matter. -/
theorem runs_gap_append {u : List α} (hu : ∀ x ∈ u, p x = false) (xs : List α) :
    runs p (u ++ xs) = runs p xs := by
  induction u with
  | nil => rfl
  | cons x u ih =>
      have hx : p x = false := hu x List.mem_cons_self
      have hcons : runs p (x :: (u ++ xs)) = runs p [] ++ runs p (u ++ xs) :=
        runs_append_cons hx [] (u ++ xs)
      rw [List.cons_append, hcons, runs_nil, List.nil_append]
      exact ih fun y hy => hu y (List.mem_cons_of_mem x hy)

/-- **What lies between two runs does not matter**, if something does. -/
theorem runs_append {u : List α} (hne : u ≠ []) (hu : ∀ x ∈ u, p x = false) (xs ys : List α) :
    runs p (xs ++ u ++ ys) = runs p xs ++ runs p ys := by
  obtain ⟨x, v, rfl⟩ := List.exists_cons_of_ne_nil hne
  rw [List.append_assoc, List.cons_append, runs_append_cons (hu x List.mem_cons_self),
    runs_gap_append fun y hy => hu y (List.mem_cons_of_mem x hy)]

/-- What comes after the last run does not matter. -/
theorem runs_append_gap {u : List α} (hu : ∀ x ∈ u, p x = false) (xs : List α) :
    runs p (xs ++ u) = runs p xs := by
  by_cases hne : u = []
  · rw [hne, List.append_nil]
  · have h := runs_append hne hu xs []
    rw [List.append_nil, runs_nil, List.append_nil] at h
    exact h

/-- A list of elements with `p` is one run. -/
theorem runs_run {w : List α} (hne : w ≠ []) (hw : ∀ x ∈ w, p x = true) : runs p w = [w] := by
  have hall : ∀ x ∈ w, (!p x) = false := fun x hx => by rw [hw x hx]; rfl
  unfold runs
  rw [List.splitOnP_eq_singleton hall]
  simp [hne]

/-- **The first run** ends where an element has not `p`. -/
theorem runs_run_append {w xs : List α} (hne : w ≠ []) (hw : ∀ x ∈ w, p x = true)
    (hend : ∀ x ∈ xs.head?, p x = false) : runs p (w ++ xs) = w :: runs p xs := by
  cases xs with
  | nil => rw [List.append_nil, runs_run hne hw, runs_nil]
  | cons x xs =>
      have hx : p x = false := hend x rfl
      have hgap : runs p (x :: xs) = runs p xs :=
        runs_gap_append (u := [x]) (fun y hy => by rw [List.mem_singleton.mp hy]; exact hx) xs
      rw [runs_append_cons hx, runs_run hne hw, hgap]
      rfl

/-- **Runs under a change of the elements.** -/
theorem runs_map (q : β → Bool) (f : α → β) (xs : List α) :
    runs q (xs.map f) = (runs (fun x => q (f x)) xs).map (List.map f) := by
  have hsplit : (xs.map f).splitOnP (fun y => !q y) =
      (xs.splitOnP fun x => !q (f x)).map (List.map f) := by
    induction xs with
    | nil => rfl
    | cons x xs ih =>
        rw [List.map_cons, List.splitOnP_cons_eq_if_modifyHead,
          List.splitOnP_cons_eq_if_modifyHead, ih]
        cases hx : q (f x) with
        | true => cases xs.splitOnP fun x => !q (f x) <;> rfl
        | false => rfl
  unfold runs
  rw [hsplit, List.filter_map]
  congr 2
  funext w
  simp

/-- A run is not empty, and has only elements with `p`. -/
theorem of_mem_runs {xs w : List α} (h : w ∈ runs p xs) : w ≠ [] ∧ ∀ x ∈ w, p x = true := by
  obtain ⟨hm, hne⟩ := List.mem_filter.mp h
  refine ⟨by simpa using hne, ?_⟩
  clear hne h
  induction xs generalizing w with
  | nil =>
      rw [List.splitOnP_nil, List.mem_singleton] at hm
      rw [hm]
      exact fun x hx => absurd hx List.not_mem_nil
  | cons x xs ih =>
      rw [List.splitOnP_cons_eq_if_modifyHead] at hm
      cases hx : p x with
      | false =>
          rw [hx] at hm
          rcases List.mem_cons.mp hm with rfl | hm
          · exact fun y hy => absurd hy List.not_mem_nil
          · exact ih hm
      | true =>
          rw [hx] at hm
          -- the first piece grows by `x`
          cases hpieces : xs.splitOnP fun x => !p x with
          | nil => exact absurd hpieces (List.splitOnP_ne_nil _ xs)
          | cons v vs =>
              rw [hpieces] at hm ih
              rcases List.mem_cons.mp hm with rfl | hm
              · intro y hy
                rcases List.mem_cons.mp hy with rfl | hy
                · exact hx
                · exact ih List.mem_cons_self y hy
              · exact ih (List.mem_cons_of_mem v hm)

/-- **The runs of joined runs** are those runs, where the separator is none. -/
theorem runs_join {sep : α} (hsep : p sep = false) {ws : List (List α)}
    (h : ∀ w ∈ ws, w ≠ [] ∧ ∀ x ∈ w, p x = true) : runs p (join sep ws) = ws := by
  induction ws with
  | nil => exact runs_nil
  | cons w ws ih =>
      have hrest := ih fun v hv => h v (List.mem_cons_of_mem w hv)
      have hw := runs_run (h w List.mem_cons_self).1 (h w List.mem_cons_self).2
      cases ws with
      | nil =>
          have e : join sep [w] = w := List.intercalate_singleton
          rw [e]
          exact hw
      | cons v vs =>
          have e : join sep (w :: v :: vs) = w ++ sep :: join sep (v :: vs) := by
            unfold join
            rw [List.intercalate_cons_cons, List.append_assoc]
            rfl
          rw [e, runs_append_cons hsep, hw, hrest]
          rfl

/-- `ws` are the maximal runs of `xs`: each is followed by an element without `p`, if by any, and
    between them there are only such elements. -/
inductive MaximalRuns (p : α → Bool) : List α → List (List α) → Prop
  | gap {u : List α} (hu : ∀ x ∈ u, p x = false) : MaximalRuns p u []
  | run {u w xs : List α} {ws : List (List α)} (hu : ∀ x ∈ u, p x = false) (hne : w ≠ [])
      (hw : ∀ x ∈ w, p x = true) (hend : ∀ x ∈ xs.head?, p x = false)
      (rest : MaximalRuns p xs ws) : MaximalRuns p (u ++ (w ++ xs)) (w :: ws)

/-- A list is a gap, or begins with a gap and a run. -/
theorem gap_or_run (xs : List α) : (∀ x ∈ xs, p x = false) ∨ ∃ u w ys, xs = u ++ (w ++ ys) ∧
    (∀ x ∈ u, p x = false) ∧ w ≠ [] ∧ (∀ x ∈ w, p x = true) ∧ ∀ x ∈ ys.head?, p x = false := by
  have hu : ∀ x ∈ xs.takeWhile (fun x => !p x), p x = false := fun x hx => by
    simpa using List.mem_takeWhile_imp hx
  have hsplit : xs.takeWhile (fun x => !p x) ++ xs.dropWhile (fun x => !p x) = xs :=
    List.takeWhile_append_dropWhile
  cases hys : xs.dropWhile fun x => !p x with
  | nil =>
      rw [hys, List.append_nil] at hsplit
      rw [hsplit] at hu
      exact .inl hu
  | cons y ys =>
      have hy : p y = true := by
        have h := List.head?_dropWhile_not (fun x => !p x) xs
        rw [hys] at h
        simpa using h
      have hend : ∀ x ∈ ((y :: ys).dropWhile p).head?, p x = false := by
        intro x hx
        have h := List.head?_dropWhile_not p (y :: ys)
        rw [hx] at h
        simpa using h
      refine .inr ⟨_, (y :: ys).takeWhile p, (y :: ys).dropWhile p, ?_, hu, by simp [hy],
        fun x hx => List.mem_takeWhile_imp hx, hend⟩
      rw [List.takeWhile_append_dropWhile, ← hys, hsplit]

/-- **The runs are the maximal ones.** -/
theorem maximalRuns_runs (xs : List α) : MaximalRuns p xs (runs p xs) := by
  -- the induction skips a gap and a run at a time
  induction hn : xs.length using Nat.strongRecOn generalizing xs with
  | _ n ih =>
      rcases gap_or_run (p := p) xs with hu | ⟨u, w, ys, rfl, hu, hne, hw, hend⟩
      · have hnone := runs_gap_append hu []
        rw [List.append_nil, runs_nil] at hnone
        rw [hnone]
        exact .gap hu
      · have hlt : ys.length < n := by
          have hpos := List.length_pos_of_ne_nil hne
          rw [← hn, List.length_append, List.length_append]
          omega
        rw [runs_gap_append hu, runs_run_append hne hw hend]
        exact .run hu hne hw hend (ih _ hlt ys rfl)

end Runs

/-- Words are the runs of what is no separator. -/
theorem words_eq_runs (xs : List α) : words sep xs = runs (fun x => !(x == sep)) xs := by
  unfold words runs
  rw [List.splitOn_eq_splitOnP]
  simp

theorem isWord_of_mem_words {xs w : List α} (h : w ∈ words sep xs) : IsWord sep w := by
  rw [words_eq_runs] at h
  obtain ⟨hne, hall⟩ := of_mem_runs h
  refine ⟨hne, fun hm => ?_⟩
  simpa using hall sep hm

/-! ## Joined words -/

/-- **Joined words are cut into the same words again.** -/
theorem words_join {ws : List (List α)} (h : ∀ w ∈ ws, IsWord sep w) :
    words sep (join sep ws) = ws := by
  cases ws with
  | nil => simp [words, join]
  | cons w ws =>
      unfold words join
      rw [List.splitOn_intercalate sep (fun l hl => (h l hl).2) (List.cons_ne_nil w ws)]
      refine List.filter_eq_self.mpr fun l hl => ?_
      simpa using (h l hl).1

theorem join_eq_nil_iff {ws : List (List α)} (h : ∀ w ∈ ws, IsWord sep w) :
    join sep ws = [] ↔ ws = [] := by
  constructor
  · intro hj
    rw [← words_join h, hj]
    simp [words]
  · rintro rfl
    rfl

omit [DecidableEq α] in
/-- Joined words have only their elements and the separator. -/
theorem mem_join {x : α} {ws : List (List α)} (h : x ∈ join sep ws) :
    x = sep ∨ ∃ w ∈ ws, x ∈ w := by
  induction ws with
  | nil => exact absurd h List.not_mem_nil
  | cons w ws ih =>
      cases ws with
      | nil =>
          unfold join at h
          rw [List.intercalate_singleton] at h
          exact .inr ⟨w, List.mem_cons_self, h⟩
      | cons v vs =>
          unfold join at h
          rw [List.intercalate_cons_cons, List.mem_append, List.mem_append] at h
          rcases h with (h | h) | h
          · exact .inr ⟨w, List.mem_cons_self, h⟩
          · exact .inl (List.mem_singleton.mp h)
          · rcases ih h with h | ⟨v, hv, hx⟩
            · exact .inl h
            · exact .inr ⟨v, List.mem_cons_of_mem w hv, hx⟩

/-- **Joined words are tight**: no separator first, last, or next to another. -/
theorem join_tight {ws : List (List α)} (h : ∀ w ∈ ws, IsWord sep w) :
    (∀ rest, join sep ws ≠ sep :: rest) ∧ (∀ start, join sep ws ≠ start ++ [sep]) ∧
      ∀ start rest, join sep ws ≠ start ++ sep :: sep :: rest := by
  -- each would leave an empty piece, and the pieces are the words
  have hpieces : [] ∈ (join sep ws).splitOn sep → join sep ws = [] := by
    intro hm
    by_cases hws : ws = []
    · rw [hws]
      rfl
    · unfold join at hm
      rw [List.splitOn_intercalate sep (fun l hl => (h l hl).2) hws] at hm
      exact absurd rfl (h [] hm).1
  have hsplit : ∀ start rest, (start ++ sep :: rest).splitOn sep =
      start.splitOn sep ++ rest.splitOn sep := List.splitOn_append_cons_self
  refine ⟨fun rest e => ?_, fun start e => ?_, fun start rest e => ?_⟩
  · have hnil := hpieces (by rw [e]; exact (hsplit [] rest) ▸ List.mem_append_left _ (by simp))
    rw [e] at hnil
    cases hnil
  · have hnil := hpieces (by rw [e, hsplit]; exact List.mem_append_right _ (by simp))
    rw [e] at hnil
    simp at hnil
  · have hnil := hpieces (by
      rw [e, hsplit]
      exact List.mem_append_right _ ((hsplit [] rest) ▸ List.mem_append_left _ (by simp)))
    rw [e] at hnil
    simp at hnil

end Words
