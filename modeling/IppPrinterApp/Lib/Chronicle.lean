/-
  File:      IppPrinterApp/Lib/Chronicle.lean
  Subject:   Notes on a list that only grows.

  The elements of a list may change, but a part of each, its key, does not, and no element goes.
  Of every element whose key is `due`, a note was made when it was added: `Kept` says that the
  notes are there, in the order of the elements, each at the position it was made for.

  * `Kept.same_keys`, `Kept.add_due`, `Kept.add_other` -- what a step of the list does to it;
  * `Kept.select` -- a selection by keys meets the same selection of the notes, element by
    element.
-/
import Mathlib.Data.List.Forall2
import Mathlib.Logic.Relation

namespace Chronicle

variable {α κ η : Type*} {key : α → κ} {due : κ → Bool} {R : κ → Nat → η → Prop}
  {l l' : List α} {notes : List η}

/-- The keys that are due, with their positions. -/
def dueKeys (key : α → κ) (due : κ → Bool) (l : List α) : List (κ × Nat) :=
  (l.map key).zipIdx.filter fun e => due e.1

/-- The notes are those on the elements that are due, in their order. -/
def Kept (key : α → κ) (due : κ → Bool) (R : κ → Nat → η → Prop) (l : List α) (notes : List η) :
    Prop :=
  List.Forall₂ (fun e h => R e.1 e.2 h) (dueKeys key due l) notes

theorem kept_nil : Kept key due R [] [] := .nil

/-- Changes that keep the keys need no note. -/
theorem Kept.same_keys (h : Kept key due R l notes) (hk : l'.map key = l.map key) :
    Kept key due R l' notes := by
  unfold Kept dueKeys at h ⊢
  rw [hk]
  exact h

theorem dueKeys_append (l : List α) (a : α) : dueKeys key due (l ++ [a]) =
    dueKeys key due l ++ if due (key a) then [(key a, l.length)] else [] := by
  unfold dueKeys
  rw [List.map_append, List.zipIdx_append, List.filter_append, List.length_map, Nat.zero_add]
  refine congrArg _ ?_
  show List.filter _ [(key a, l.length)] = _
  rw [List.filter_singleton]
  cases due (key a) <;> rfl

/-- A new element that is due, and the note on it. -/
theorem Kept.add_due (h : Kept key due R l notes) {a : α} {note : η} (hd : due (key a) = true)
    (hR : R (key a) l.length note) : Kept key due R (l ++ [a]) (notes ++ [note]) := by
  unfold Kept
  rw [dueKeys_append, if_pos hd]
  exact List.rel_append h (.cons hR .nil)

/-- A new element that is not due. -/
theorem Kept.add_other (h : Kept key due R l notes) {a : α} (hd : due (key a) = false) :
    Kept key due R (l ++ [a]) notes := by
  unfold Kept
  rw [dueKeys_append, if_neg (Bool.eq_false_iff.mp hd), List.append_nil]
  exact h

/-- **A selection by keys, on both sides**: if only elements that are due are selected, they are
    the elements of the notes selected, each at its position. -/
theorem Kept.select (h : Kept key due R l notes) {sel : κ → Bool} {sel' : η → Bool}
    (hsel : ∀ k n note, R k n note → (sel k = true ↔ sel' note = true))
    (hdue : ∀ a ∈ l, sel (key a) = true → due (key a) = true) :
    List.Forall₂ (fun a note => ∃ n, l[n]? = some a ∧ R (key a) n note)
      (l.filter fun a => sel (key a)) (notes.filter sel') := by
  have hboth := List.rel_filter (p := fun e : κ × Nat => sel e.1) (q := sel')
    (fun e note hR => hsel e.1 e.2 note hR) h
  -- the keys selected are those of the elements selected
  have hkeys : (dueKeys key due l).filter (fun e => sel e.1) =
      (l.zipIdx.filter fun e => sel (key e.1)).map (Prod.map key id) := by
    unfold dueKeys
    rw [List.filter_filter, List.zipIdx_map, List.filter_map]
    refine congrArg _ (List.filter_congr fun e he => ?_)
    have hmem : e.1 ∈ l := List.mem_of_getElem? (List.mem_zipIdx_iff_getElem?.mp he)
    show (sel (key e.1) && due (key e.1)) = sel (key e.1)
    cases hs : sel (key e.1) with
    | false => rfl
    | true => rw [hdue e.1 hmem hs]; rfl
  have helems : l.filter (fun a => sel (key a)) =
      (l.zipIdx.filter fun e => sel (key e.1)).map Prod.fst := by
    conv_lhs => rw [← List.zipIdx_map_fst 0 l]
    rw [List.filter_map]
    rfl
  rw [hkeys, List.forall₂_map_left_iff] at hboth
  rw [helems, List.forall₂_map_left_iff]
  have hpos : ∀ e ∈ l.zipIdx.filter fun e => sel (key e.1), l[e.2]? = some e.1 := fun e he =>
    List.mem_zipIdx_iff_getElem?.mp (List.mem_of_mem_filter he)
  have hall := (List.forall₂_and_left (p := fun e : α × Nat => l[e.2]? = some e.1) _ _).mpr
    ⟨hpos, hboth⟩
  exact hall.imp fun e note he => ⟨e.2, he.1, he.2⟩

/-- Two element-by-element relations, one after the other. -/
theorem forall₂_comp {β : Type*} {P : α → β → Prop} {Q : β → η → Prop} {as : List α} {bs : List β}
    {hs : List η} (h : List.Forall₂ P as bs) (h' : List.Forall₂ Q bs hs) :
    List.Forall₂ (Relation.Comp P Q) as hs := by
  induction h generalizing hs with
  | nil =>
      cases h'
      exact .nil
  | cons hab _ ih =>
      cases h' with
      | cons hbc hrest => exact .cons ⟨_, hab, hbc⟩ (ih hrest)

end Chronicle
