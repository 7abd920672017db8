/-
  File:      IppPrinterApp/Lib/AssocMap.lean
  Subject:   Finite maps in iteration order.

  A hash map, seen by code that iterates over it, is a list of entries with pairwise distinct
  keys in an order the code may not rely on. `AssocMap` is that list with the distinctness as a
  field; a statement for every `AssocMap` is a statement for every iteration order.

  * `get?_insert`, `get?_erase` -- what a lookup finds after an insertion and after a removal;
  * `get?_foldl_insert`, `get?_ofList_iff` -- what it finds after the insertion of entries with
    distinct keys;
  * `entries_ofList`, `retain_ofList` -- such a map has them in their order, and keeping some of it
    is the map of those.
-/
import Mathlib.Data.List.Basic
import Mathlib.Data.List.Nodup

/-- A map from `κ` to `α`, as its entries in iteration order. -/
structure AssocMap (κ α : Type*) where
  entries : List (κ × α)
  nodup : (entries.map Prod.fst).Nodup

namespace AssocMap

variable {κ α : Type*}

def empty : AssocMap κ α := ⟨[], List.nodup_nil⟩

def keys (m : AssocMap κ α) : List κ := m.entries.map Prod.fst

def values (m : AssocMap κ α) : List α := m.entries.map Prod.snd

/-- The entries a predicate keeps (`HashMap::retain`). -/
def retain (m : AssocMap κ α) (keep : κ → α → Bool) : AssocMap κ α :=
  ⟨m.entries.filter fun e => keep e.1 e.2,
    List.Nodup.sublist (List.Sublist.map Prod.fst List.filter_sublist) m.nodup⟩

section Insert

variable [DecidableEq κ]

/-- The entries after an insertion: the old value is replaced where it stands, a new key goes
    to the end. -/
def insertEntries (k : κ) (v : α) : List (κ × α) → List (κ × α)
  | [] => [(k, v)]
  | e :: es => if e.1 = k then (k, v) :: es else e :: insertEntries k v es

theorem mem_keys_insertEntries (k : κ) (v : α) (es : List (κ × α)) (x : κ) :
    x ∈ (insertEntries k v es).map Prod.fst ↔ x = k ∨ x ∈ es.map Prod.fst := by
  induction es with
  | nil => simp [insertEntries]
  | cons e es ih =>
      by_cases h : e.1 = k
      · simp [insertEntries, h]
      · simp only [insertEntries, h, ↓reduceIte, List.map_cons, List.mem_cons, ih]
        tauto

theorem nodup_insertEntries (k : κ) (v : α) (es : List (κ × α)) (h : (es.map Prod.fst).Nodup) :
    ((insertEntries k v es).map Prod.fst).Nodup := by
  induction es with
  | nil => simp [insertEntries]
  | cons e es ih =>
      rw [List.map_cons, List.nodup_cons] at h
      by_cases he : e.1 = k
      · simp only [insertEntries, he, ↓reduceIte, List.map_cons, List.nodup_cons]
        exact ⟨he ▸ h.1, h.2⟩
      · simp only [insertEntries, he, ↓reduceIte, List.map_cons, List.nodup_cons]
        refine ⟨fun hm => ?_, ih h.2⟩
        rcases (mem_keys_insertEntries k v es e.1).mp hm with h' | h'
        · exact he h'
        · exact h.1 h'

/-- `HashMap::insert`. -/
def insert (m : AssocMap κ α) (k : κ) (v : α) : AssocMap κ α :=
  ⟨insertEntries k v m.entries, nodup_insertEntries k v m.entries m.nodup⟩

/-- The map of a list of entries, later entries replacing earlier ones of the same key. -/
def ofList (es : List (κ × α)) : AssocMap κ α := es.foldl (fun m e => m.insert e.1 e.2) empty

end Insert

/-! ## Lookups -/

section Lookup

variable [DecidableEq κ]

/-- The value of the first entry with a key. -/
def lookupIn (es : List (κ × α)) (k : κ) : Option α :=
  (es.find? fun e => decide (e.1 = k)).map Prod.snd

/-- `HashMap::get`. -/
def get? (m : AssocMap κ α) (k : κ) : Option α := lookupIn m.entries k

/-- `HashMap::contains_key`. -/
def containsKey (m : AssocMap κ α) (k : κ) : Bool := (m.get? k).isSome

/-- `HashMap::remove`. -/
def erase (m : AssocMap κ α) (k : κ) : AssocMap κ α := m.retain fun k' _ => decide (k' ≠ k)

theorem lookupIn_cons (e : κ × α) (es : List (κ × α)) (k : κ) :
    lookupIn (e :: es) k = if e.1 = k then some e.2 else lookupIn es k := by
  unfold lookupIn
  by_cases h : e.1 = k
  · rw [if_pos h, List.find?_cons_of_pos (by simpa using h)]
    rfl
  · rw [if_neg h, List.find?_cons_of_neg (by simpa using h)]

theorem lookupIn_eq_some_iff {es : List (κ × α)} (hn : (es.map Prod.fst).Nodup) {k : κ} {v : α} :
    lookupIn es k = some v ↔ (k, v) ∈ es := by
  induction es with
  | nil => exact ⟨fun h => (by cases h), fun h => absurd h List.not_mem_nil⟩
  | cons e es ih =>
      rw [List.map_cons, List.nodup_cons] at hn
      rw [lookupIn_cons, List.mem_cons]
      by_cases hk : e.1 = k
      · subst hk
        rw [if_pos rfl]
        constructor
        · intro h
          cases h
          exact Or.inl rfl
        · rintro (h | h)
          · exact congrArg some (congrArg Prod.snd h).symm
          · exact absurd (List.mem_map_of_mem (f := Prod.fst) h) hn.1
      · rw [if_neg hk, ih hn.2]
        constructor
        · exact Or.inr
        · rintro (h | h)
          · exact absurd (congrArg Prod.fst h).symm hk
          · exact h

/-- The values of a map are what its lookups find. -/
theorem mem_values_iff (m : AssocMap κ α) (v : α) : v ∈ m.values ↔ ∃ k, m.get? k = some v := by
  unfold values get?
  rw [List.mem_map]
  constructor
  · rintro ⟨e, he, rfl⟩
    exact ⟨e.1, (lookupIn_eq_some_iff m.nodup).mpr he⟩
  · rintro ⟨k, hk⟩
    exact ⟨(k, v), (lookupIn_eq_some_iff m.nodup).mp hk, rfl⟩

/-- **A lookup after an insertion**: the new value under its key, as before under the others. -/
theorem get?_insert (m : AssocMap κ α) (k : κ) (v : α) (k' : κ) :
    (m.insert k v).get? k' = if k = k' then some v else m.get? k' := by
  show lookupIn (insertEntries k v m.entries) k' = if k = k' then some v else lookupIn m.entries k'
  induction m.entries with
  | nil =>
      show lookupIn [(k, v)] k' = _
      rw [lookupIn_cons]
  | cons e es ih =>
      by_cases he : e.1 = k
      · have hins : insertEntries k v (e :: es) = (k, v) :: es := by simp [insertEntries, he]
        rw [hins, lookupIn_cons, lookupIn_cons, he]
        by_cases hk : k = k'
        · rw [if_pos hk, if_pos hk]
        · rw [if_neg hk, if_neg hk, if_neg hk]
      · have hins : insertEntries k v (e :: es) = e :: insertEntries k v es := by
          simp [insertEntries, he]
        rw [hins, lookupIn_cons, lookupIn_cons, ih]
        by_cases hk : k = k'
        · subst hk
          rw [if_neg he, if_pos rfl, if_pos rfl]
        · rw [if_neg hk, if_neg hk]

/-- **A lookup after a removal**: nothing under the key, as before under the others. -/
theorem get?_erase (m : AssocMap κ α) (k k' : κ) :
    (m.erase k).get? k' = if k = k' then none else m.get? k' := by
  show lookupIn (m.entries.filter fun e => decide (e.1 ≠ k)) k' =
    if k = k' then none else lookupIn m.entries k'
  induction m.entries with
  | nil => exact (ite_self _).symm
  | cons e es ih =>
      by_cases he : e.1 = k
      · rw [List.filter_cons_of_neg (by simpa using he), ih, lookupIn_cons, he]
        by_cases hk : k = k'
        · rw [if_pos hk, if_pos hk]
        · rw [if_neg hk, if_neg hk, if_neg hk]
      · rw [List.filter_cons_of_pos (by simpa using he), lookupIn_cons, lookupIn_cons, ih]
        by_cases hk : k = k'
        · subst hk
          rw [if_neg he, if_pos rfl, if_pos rfl]
        · rw [if_neg hk, if_neg hk]

/-- What is inserted under keys that are pairwise distinct is found, and the other keys find what
    they found before. -/
theorem get?_foldl_insert (es : List (κ × α)) (hn : (es.map Prod.fst).Nodup) (m : AssocMap κ α) :
    (∀ e ∈ es, (es.foldl (fun m e => m.insert e.1 e.2) m).get? e.1 = some e.2) ∧
      ∀ k, k ∉ es.map Prod.fst → (es.foldl (fun m e => m.insert e.1 e.2) m).get? k = m.get? k := by
  induction es generalizing m with
  | nil => exact ⟨fun e he => absurd he List.not_mem_nil, fun _ _ => rfl⟩
  | cons e es ih =>
      rw [List.map_cons, List.nodup_cons] at hn
      obtain ⟨hin, hout⟩ := ih hn.2 (m.insert e.1 e.2)
      rw [List.foldl_cons]
      constructor
      · intro e' he'
        rcases List.mem_cons.mp he' with rfl | he'
        · rw [hout _ hn.1, get?_insert, if_pos rfl]
        · exact hin e' he'
      · intro k hk
        rw [List.map_cons, List.mem_cons, not_or] at hk
        rw [hout k hk.2, get?_insert, if_neg (Ne.symm hk.1)]

/-- **The map of entries with distinct keys** finds just them. -/
theorem get?_ofList_iff {es : List (κ × α)} (hn : (es.map Prod.fst).Nodup) {k : κ} {v : α} :
    (ofList es).get? k = some v ↔ (k, v) ∈ es := by
  obtain ⟨hin, hout⟩ := get?_foldl_insert es hn empty
  constructor
  · intro h
    by_cases hk : k ∈ es.map Prod.fst
    · obtain ⟨e, he, rfl⟩ := List.mem_map.mp hk
      have hv : some e.2 = some v := (hin e he).symm.trans h
      cases hv
      exact he
    · cases (hout k hk).symm.trans h
  · exact fun h => hin (k, v) h

end Lookup

/-! ## Maps of entries -/

theorem ext_entries {m m' : AssocMap κ α} (h : m.entries = m'.entries) : m = m' := by
  obtain ⟨es, hn⟩ := m
  obtain ⟨es', hn'⟩ := m'
  cases h
  rfl

section OfList

variable [DecidableEq κ]

/-- A new key goes to the end. -/
theorem insertEntries_of_notMem {k : κ} {v : α} {es : List (κ × α)} (h : k ∉ es.map Prod.fst) :
    insertEntries k v es = es ++ [(k, v)] := by
  induction es with
  | nil => rfl
  | cons e es ih =>
      rw [List.map_cons, List.mem_cons, not_or] at h
      rw [insertEntries, if_neg (Ne.symm h.1), ih h.2]
      rfl

theorem entries_foldl_insert {es : List (κ × α)} {m : AssocMap κ α}
    (hn : ((m.entries ++ es).map Prod.fst).Nodup) :
    (es.foldl (fun m e => m.insert e.1 e.2) m).entries = m.entries ++ es := by
  induction es generalizing m with
  | nil => exact (List.append_nil m.entries).symm
  | cons e es ih =>
      have hsplit : m.entries ++ e :: es = (m.entries ++ [e]) ++ es := by simp
      have hnew : e.1 ∉ m.entries.map Prod.fst := by
        rw [List.map_append, List.map_cons, List.nodup_append] at hn
        exact fun hm => hn.2.2 e.1 hm e.1 List.mem_cons_self rfl
      have hentries : (m.insert e.1 e.2).entries = m.entries ++ [e] := insertEntries_of_notMem hnew
      rw [hsplit, ← hentries] at hn
      rw [List.foldl_cons, ih hn, hentries, hsplit]

/-- **The map of entries with distinct keys** has them in their order. -/
theorem entries_ofList {es : List (κ × α)} (hn : (es.map Prod.fst).Nodup) :
    (ofList es).entries = es := entries_foldl_insert hn

/-- Keeping some keys of it is the map of the entries with these keys. -/
theorem retain_ofList {es : List (κ × α)} (hn : (es.map Prod.fst).Nodup) (keep : κ → Bool) :
    (ofList es).retain (fun k _ => keep k) = ofList (es.filter fun e => keep e.1) := by
  have hn' : ((es.filter fun e => keep e.1).map Prod.fst).Nodup :=
    hn.sublist (List.Sublist.map Prod.fst List.filter_sublist)
  refine ext_entries ?_
  rw [entries_ofList hn']
  exact congrArg (List.filter fun e => keep e.1) (entries_ofList hn)

end OfList

end AssocMap
