/-
  File:      IppPrinterApp/Escapes.lean
  Subject:   What `esc` (server.rs) makes of a text, whatever is in it.

  The code replaces four characters one after the other, each in the whole text. The ampersand
  goes first, so no later replacement meets an ampersand that an earlier one wrote.

  * `esc_singlePass` -- the four replacements are one pass over the text (`entity`);
  * `entity_starts`, `count_ampersand_esc` -- an ampersand of the result starts an entity, one for
    each special character of the text;
  * `unesc_esc` -- decoding the entities gives the text back;
  * `esc_entities`: **the single pass, no markup, every ampersand an entity, decodable,
    injective**.
-/
import IppPrinterApp.Lib.Substitution
import IppPrinterApp.Pages

namespace IppPrinterApp

open Substitution

/-! ## 1. A single pass -/

/-- The characters escaped and their entities, in the order of the code. -/
def entities : List (Char × List Char) :=
  [('&', "&amp;".toList), ('<', "&lt;".toList), ('>', "&gt;".toList), ('"', "&quot;".toList)]

/-- What the escape makes of one character. -/
def entity : Char → List Char
  | '&' => "&amp;".toList
  | '<' => "&lt;".toList
  | '>' => "&gt;".toList
  | '"' => "&quot;".toList
  | c => [c]

/-- The four characters that have an entity. -/
def IsSpecial (c : Char) : Prop := c = '&' ∨ c = '<' ∨ c = '>' ∨ c = '"'

instance (c : Char) : Decidable (IsSpecial c) :=
  inferInstanceAs (Decidable (c = '&' ∨ c = '<' ∨ c = '>' ∨ c = '"'))

theorem entity_of_not_special {c : Char} (h : ¬IsSpecial c) : entity c = [c] := by
  unfold IsSpecial at h
  unfold entity
  split <;> simp_all

theorem toList_replaceChar (c : Char) (by' s : String) :
    (replaceChar c by' s).toList = replaceAll (c, by'.toList) s.toList := by
  unfold replaceChar
  rw [String.toList_ofList]
  rfl

theorem toList_esc (s : String) : (esc s).toList = inTurn entities s.toList := by
  unfold esc
  rw [toList_replaceChar, toList_replaceChar, toList_replaceChar, toList_replaceChar]
  rfl

theorem image_entities (c : Char) : image entities c = entity c := by
  by_cases h : IsSpecial c
  · rcases h with rfl | rfl | rfl | rfl <;> rfl
  · rw [entity_of_not_special h]
    have hspecial : ∀ r ∈ entities, IsSpecial r.1 := by decide
    exact image_of_forall_ne fun r hr e => h (e ▸ hspecial r hr)

/-- **Four replacements, one pass.** -/
theorem esc_singlePass (s : String) : (esc s).toList = s.toList.flatMap entity := by
  have hsettled : Settled entities := by decide
  rw [toList_esc, inTurn_eq hsettled]
  exact congrArg (fun f => s.toList.flatMap f) (funext image_entities)

/-! ## 2. Ampersands -/

/-- An ampersand stands in an entity at most as its first character. -/
theorem ampersand_notMem_tail (c : Char) : '&' ∉ (entity c).tail := by
  by_cases h : IsSpecial c
  · rcases h with rfl | rfl | rfl | rfl <;> decide
  · rw [entity_of_not_special h]
    exact List.not_mem_nil

/-- And there it stands for the special characters. -/
theorem head?_entity (c : Char) : (entity c).head? = some '&' ↔ IsSpecial c := by
  by_cases h : IsSpecial c
  · refine iff_of_true ?_ h
    rcases h with rfl | rfl | rfl | rfl <;> rfl
  · rw [entity_of_not_special h]
    refine iff_of_false (fun e => h (Or.inl ?_)) h
    exact Option.some.inj e

/-- **Every ampersand of the result starts an entity.** -/
theorem entity_starts {s : String} {before rest : List Char}
    (h : (esc s).toList = before ++ '&' :: rest) : ∃ r ∈ entities, r.2 <+: '&' :: rest := by
  rw [esc_singlePass] at h
  obtain ⟨c, -, hhead, hpre⟩ := starts_of_mem ampersand_notMem_tail h
  have hmem : (c, entity c) ∈ entities := by
    rcases (head?_entity c).mp hhead with rfl | rfl | rfl | rfl <;> decide
  exact ⟨(c, entity c), hmem, hpre⟩

/-- **As many ampersands as special characters**: what is escaped is escaped once. -/
theorem count_ampersand_esc (s : String) :
    (esc s).toList.count '&' = s.toList.countP fun c => decide (IsSpecial c) := by
  rw [esc_singlePass, count_flatMap_marker ampersand_notMem_tail]
  exact List.countP_congr fun c _ => by simp [head?_entity]

/-! ## 3. Decoding -/

/-- A text with its entities decoded. -/
def unesc : List Char → List Char
  | '&' :: 'a' :: 'm' :: 'p' :: ';' :: rest => '&' :: unesc rest
  | '&' :: 'l' :: 't' :: ';' :: rest => '<' :: unesc rest
  | '&' :: 'g' :: 't' :: ';' :: rest => '>' :: unesc rest
  | '&' :: 'q' :: 'u' :: 'o' :: 't' :: ';' :: rest => '"' :: unesc rest
  | c :: rest => c :: unesc rest
  | [] => []

theorem unesc_cons {c : Char} (h : c ≠ '&') (rest : List Char) :
    unesc (c :: rest) = c :: unesc rest := by
  rw [unesc.eq_def]
  split <;> simp_all

/-- What an entity decodes to. -/
theorem unesc_entity (c : Char) (rest : List Char) : unesc (entity c ++ rest) = c :: unesc rest := by
  by_cases h : IsSpecial c
  · rcases h with rfl | rfl | rfl | rfl <;> rfl
  · rw [entity_of_not_special h]
    exact unesc_cons (fun e => h (Or.inl e)) rest

/-- **Decoding undoes the escape.** -/
theorem unesc_esc (s : String) : unesc (esc s).toList = s.toList := by
  rw [esc_singlePass]
  exact leftInverse_flatMap rfl unesc_entity s.toList

theorem esc_injective : Function.Injective esc := by
  intro s t h
  have hd : s.toList = t.toList := by rw [← unesc_esc s, h, unesc_esc t]
  exact String.toList_inj.mp hd

/-! ## 4. The escape -/

theorem notMem_esc {c : Char} (hc : c ∈ markupChars) (s : String) : c ∉ (esc s).toList :=
  List.count_eq_zero.mp (markup_esc hc s)

/-- **The escape is the character map of the four entities, leaves no markup and nothing that is
not an entity behind an ampersand, and can be undone.** -/
theorem esc_entities :
    (∀ s : String,
      (esc s).toList = s.toList.flatMap entity ∧
      ('<' ∉ (esc s).toList ∧ '>' ∉ (esc s).toList ∧ '"' ∉ (esc s).toList) ∧
      (∀ before rest, (esc s).toList = before ++ '&' :: rest →
        ∃ r ∈ entities, r.2 <+: '&' :: rest) ∧
      ((esc s).toList.count '&' = s.toList.countP fun c => decide (IsSpecial c)) ∧
      unesc (esc s).toList = s.toList) ∧
    Function.Injective esc := by
  refine ⟨fun s => ?_, esc_injective⟩
  have hmarkup : '<' ∉ (esc s).toList ∧ '>' ∉ (esc s).toList ∧ '"' ∉ (esc s).toList :=
    ⟨notMem_esc (by decide) s, notMem_esc (by decide) s, notMem_esc (by decide) s⟩
  exact ⟨esc_singlePass s, hmarkup, fun _ _ => entity_starts, count_ampersand_esc s, unesc_esc s⟩

/-- An entity in the text is escaped like any other text, and comes back. -/
example : esc "a<b &lt; \"c\"" = "a&lt;b &amp;lt; &quot;c&quot;" := by decide

end IppPrinterApp
