/-
  File:      IppPrinterApp/Lib/Ledger.lean
  Subject:   A local index of what is registered with a remote store under another key.

  The owner of some entries keeps an index from its own names to the keys of the store, and enters
  and strikes an entry on both sides. `Describes v n` says that the value `v` is the one of the
  name `n`; a value describes one name at most.

  * `Balanced` -- each name's key holds its value, and each value in the store is indexed;
  * `enter_balanced`, `strike_balanced` -- entering a name under a key that is its own keeps the
    balance, striking always does;
  * `Balanced.agrees`, `enter_agrees_iff` -- balanced books agree, and an entry under a key that
    is not its own name's breaks the agreement at once.
-/
import IppPrinterApp.Lib.AssocMap

namespace Ledger

variable {ν κ σ : Type*} [DecidableEq ν] [DecidableEq κ]

/-- The index and the store. -/
structure Books (ν κ σ : Type*) where
  index : AssocMap ν κ
  store : AssocMap κ σ

/-- The name is registered under the key, over whatever was there. -/
def Books.enter (b : Books ν κ σ) (n : ν) (k : κ) (v : σ) : Books ν κ σ :=
  { index := b.index.insert n k, store := b.store.insert k v }

/-- The name's key is given up on both sides. -/
def Books.strike (b : Books ν κ σ) (n : ν) : Books ν κ σ :=
  match b.index.get? n with
  | some k => { index := b.index.erase n, store := b.store.erase k }
  | none => b

/-- **The books agree**: the names in the index are those that a value in the store describes, and
    every key in the store is indexed under exactly one name. -/
structure Agrees (Describes : σ → ν → Prop) (b : Books ν κ σ) : Prop where
  names : ∀ n, b.index.containsKey n = true ↔ ∃ k v, b.store.get? k = some v ∧ Describes v n
  keys : ∀ k v, b.store.get? k = some v → ∃! n, b.index.get? n = some k

/-- **The books balance**: every indexed key holds the value of its name, and every value in the
    store is indexed under its name. -/
structure Balanced (Describes : σ → ν → Prop) (b : Books ν κ σ) : Prop where
  live : ∀ n k, b.index.get? n = some k → ∃ v, b.store.get? k = some v ∧ Describes v n
  recorded : ∀ k v, b.store.get? k = some v → ∃ n, Describes v n ∧ b.index.get? n = some k

/-- The key is no other name's, and the name has no other key. -/
def Clear (b : Books ν κ σ) (n : ν) (k : κ) : Prop :=
  ∀ n' k', b.index.get? n' = some k' → (n' = n ↔ k' = k)

section Rules

variable {Describes : σ → ν → Prop} {b : Books ν κ σ} {n : ν} {k : κ} {v : σ}

theorem empty_balanced : Balanced Describes (⟨AssocMap.empty, AssocMap.empty⟩ : Books ν κ σ) where
  live := fun n k h => by cases h
  recorded := fun k v h => by cases h

theorem enter_balanced (h : Balanced Describes b) (hv : Describes v n) (hc : Clear b n k) :
    Balanced Describes (b.enter n k v) where
  live := fun n' k' hi => by
    have hi' := (AssocMap.get?_insert b.index n k n').symm.trans hi
    show ∃ w, (b.store.insert k v).get? k' = some w ∧ Describes w n'
    rw [AssocMap.get?_insert]
    split at hi'
    · rename_i e
      subst e
      cases hi'
      exact ⟨v, if_pos rfl, hv⟩
    · rename_i hne
      have hk : k ≠ k' := fun e => hne ((hc n' k' hi').mpr e.symm).symm
      rw [if_neg hk]
      exact h.live n' k' hi'
  recorded := fun k' w hs => by
    have hs' := (AssocMap.get?_insert b.store k v k').symm.trans hs
    show ∃ n', Describes w n' ∧ (b.index.insert n k).get? n' = some k'
    split at hs'
    · rename_i e
      subst e
      cases hs'
      exact ⟨n, hv, by rw [AssocMap.get?_insert, if_pos rfl]⟩
    · rename_i hne
      obtain ⟨n', hw, hi⟩ := h.recorded k' w hs'
      have hn : n ≠ n' := fun e => hne ((hc n' k' hi).mp e.symm).symm
      exact ⟨n', hw, by rw [AssocMap.get?_insert, if_neg hn, hi]⟩

section Functional

variable (hd : ∀ v n n', Describes v n → Describes v n' → n = n')
include hd

/-- In balanced books no key is indexed twice. -/
theorem Balanced.name_unique (h : Balanced Describes b) {n' : ν} (hn : b.index.get? n = some k)
    (hn' : b.index.get? n' = some k) : n = n' := by
  obtain ⟨v, hv, hdv⟩ := h.live n k hn
  obtain ⟨v', hv', hdv'⟩ := h.live n' k hn'
  rw [hv] at hv'
  cases hv'
  exact hd v n n' hdv hdv'

/-- **Balanced books agree.** -/
theorem Balanced.agrees (h : Balanced Describes b) : Agrees Describes b where
  names := fun n => by
    constructor
    · intro hc
      obtain ⟨k, hk⟩ := Option.isSome_iff_exists.mp hc
      obtain ⟨v, hv, hdv⟩ := h.live n k hk
      exact ⟨k, v, hv, hdv⟩
    · rintro ⟨k, v, hv, hdv⟩
      obtain ⟨n', hdv', hi⟩ := h.recorded k v hv
      rw [hd v n n' hdv hdv']
      exact Option.isSome_iff_exists.mpr ⟨k, hi⟩
  keys := fun k v hv => by
    obtain ⟨n, _, hi⟩ := h.recorded k v hv
    exact ⟨n, hi, fun n' hi' => h.name_unique hd hi' hi⟩

theorem strike_balanced (h : Balanced Describes b) (n : ν) : Balanced Describes (b.strike n) := by
  unfold Books.strike
  split
  · rename_i k hk
    constructor
    · intro n' k' hi
      have hi' := (AssocMap.get?_erase b.index n n').symm.trans hi
      show ∃ w, (b.store.erase k).get? k' = some w ∧ Describes w n'
      split at hi'
      · cases hi'
      · rename_i hne
        have hkk : k ≠ k' := fun e => hne (h.name_unique hd hk (e ▸ hi'))
        rw [AssocMap.get?_erase, if_neg hkk]
        exact h.live n' k' hi'
    · intro k' w hs
      have hs' := (AssocMap.get?_erase b.store k k').symm.trans hs
      show ∃ n', Describes w n' ∧ (b.index.erase n).get? n' = some k'
      split at hs'
      · cases hs'
      · rename_i hne
        obtain ⟨n', hw, hi⟩ := h.recorded k' w hs'
        have hnn : n ≠ n' := fun e => by
          subst e
          rw [hk] at hi
          exact hne (Option.some.inj hi)
        exact ⟨n', hw, by rw [AssocMap.get?_erase, if_neg hnn, hi]⟩
  · exact h

/-- **An entry keeps the agreement exactly if its key is clear.** -/
theorem enter_agrees_iff (h : Balanced Describes b) (hv : Describes v n) :
    Agrees Describes (b.enter n k v) ↔ Clear b n k := by
  constructor
  · intro ha n' k' hi
    constructor
    · -- the name had another key: that key is left in the store without a name
      rintro rfl
      by_contra hne
      obtain ⟨w, hw, _⟩ := h.live n' k' hi
      have hw' : (b.enter n' k v).store.get? k' = some w := by
        show (b.store.insert k v).get? k' = some w
        rw [AssocMap.get?_insert, if_neg (Ne.symm hne), hw]
      obtain ⟨m, hm, _⟩ := ha.keys k' w hw'
      have hm' := (AssocMap.get?_insert b.index n' k m).symm.trans hm
      split at hm'
      · cases hm'
        exact hne rfl
      · rename_i hnm
        exact hnm (h.name_unique hd hi hm')
    · -- the key was another name's: it is indexed twice
      rintro rfl
      by_contra hne
      have hk : (b.enter n k' v).store.get? k' = some v := by
        show (b.store.insert k' v).get? k' = some v
        rw [AssocMap.get?_insert, if_pos rfl]
      obtain ⟨m, _, huniq⟩ := ha.keys k' v hk
      have h₁ : n = m := huniq n (by
        show (b.index.insert n k').get? n = some k'
        rw [AssocMap.get?_insert, if_pos rfl])
      have h₂ : n' = m := huniq n' (by
        show (b.index.insert n k').get? n' = some k'
        rw [AssocMap.get?_insert, if_neg (Ne.symm hne), hi])
      exact hne (h₂.trans h₁.symm)
  · intro hc
    exact (enter_balanced h hv hc).agrees hd

end Functional

end Rules

end Ledger
