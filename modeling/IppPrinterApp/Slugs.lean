/-
  File:      IppPrinterApp/Slugs.lean
  Subject:   The name `printer_name_from_uri` proposes (server.rs), from any text.

  The name has to be the one CUPS derives from the same text, case apart. The code gets it by
  mapping, trimming, splitting and joining; here it is told from the text itself.

  * `slugWords_eq` -- the words are the maximal runs of ASCII letters and digits, in lower case;
  * `isSlug_printerNameFromUri` -- the name has the form of a queue name (`IsSlug`);
  * `asciiRuns_congr` -- case and separators of the text do not matter (`Respelled`);
  * `asciiRuns_join` -- the sanitiser leaves its own names alone;
  * `printer_name_sanitised`: **the name is the joined runs, a slug, blind to case and separators,
    and a fixed point**.
-/
import Mathlib.Logic.Relation
import IppPrinterApp.Bootstrap
import IppPrinterApp.Lib.Ascii

namespace IppPrinterApp

open Ascii Words

/-! ## 1. Characters of a slug -/

/-- **A character becomes a `_` exactly if it is no letter or digit.** -/
theorem slugChar_beq (c : Char) : (slugChar c == '_') = !c.isAlphanum := by
  unfold slugChar
  cases hc : c.isAlphanum with
  | false => rfl
  | true =>
      have hne : c.toLower ≠ '_' := by
        intro e
        rw [← isAlphanum_toLower, e] at hc
        revert hc
        decide
      simpa using hne

theorem slugChar_of_isAlphanum {c : Char} (h : c.isAlphanum = true) : slugChar c = c.toLower :=
  if_pos h

/-! ## 2. The runs of a text -/

/-- The text a name is made of: the description, or the URI if there is none. -/
def slugSource (uri info : String) : List Char := (if info.isEmpty then uri else info).toList

theorem slugSource_of_ne {info : String} (uri : String) (h : info ≠ "") :
    slugSource uri info = info.toList := by
  have hne : info.isEmpty = false := by simpa using h
  unfold slugSource
  rw [hne]
  rfl

theorem slugSource_empty (uri : String) : slugSource uri "" = uri.toList := rfl

/-- The maximal runs of ASCII letters and digits, in lower case. -/
def asciiRuns (text : List Char) : List (List Char) :=
  (runs Char.isAlphanum text).map (List.map Char.toLower)

/-- Lower case first makes no difference. -/
theorem asciiRuns_eq (text : List Char) :
    asciiRuns text = runs Char.isAlphanum (text.map Char.toLower) := by
  rw [runs_map]
  simp only [isAlphanum_toLower]
  rfl

/-- A run, as a name has it. -/
theorem of_mem_asciiRuns {text w : List Char} (h : w ∈ asciiRuns text) :
    w ≠ [] ∧ ∀ c ∈ w, c.isLower = true ∨ c.isDigit = true := by
  obtain ⟨v, hv, rfl⟩ := List.mem_map.mp h
  obtain ⟨hne, hall⟩ := of_mem_runs hv
  refine ⟨by simpa using hne, fun c hc => ?_⟩
  obtain ⟨d, hd, rfl⟩ := List.mem_map.mp hc
  exact lower_or_digit_toLower (hall d hd)

/-- **The words of a device's text** are its runs, trimming or not. -/
theorem slugWords_eq (uri info : String) : slugWords uri info = asciiRuns (slugSource uri info) := by
  have htrim : ∀ slug : List Char,
      words '_' ((slug.dropWhile (· == '_')).rdropWhile (· == '_')) =
        runs (fun c => !(c == '_')) slug := by
    intro slug
    have hhead : ∀ x ∈ slug.takeWhile (· == '_'), (!(x == '_')) = false := by
      intro x hx
      have h : (x == '_') = true := @List.mem_takeWhile_imp _ (· == '_') _ x hx
      rw [h]
      rfl
    have htail : ∀ x ∈ (slug.dropWhile (· == '_')).rtakeWhile (· == '_'), (!(x == '_')) = false := by
      intro x hx
      have h : (x == '_') = true := @List.mem_rtakeWhile_imp _ (· == '_') _ x hx
      rw [h]
      rfl
    rw [words_eq_runs, ← runs_append_gap htail, List.rdropWhile_append_rtakeWhile,
      ← runs_gap_append hhead, List.takeWhile_append_dropWhile]
  have hwords : slugWords uri info =
      runs (fun c => !(c == '_')) ((slugSource uri info).map slugChar) := htrim _
  rw [hwords, runs_map]
  simp only [slugChar_beq, Bool.not_not]
  unfold asciiRuns
  refine List.map_congr_left fun w hw => List.map_congr_left fun c hc => ?_
  exact slugChar_of_isAlphanum ((of_mem_runs hw).2 c hc)

/-! ## 3. The form of a name -/

/-- A queue name as the sanitiser writes it. -/
structure IsSlug (name : List Char) : Prop where
  nonempty : name ≠ []
  chars : ∀ c ∈ name, c.isLower = true ∨ c.isDigit = true ∨ c = '_'
  noLeading : ∀ rest, name ≠ '_' :: rest
  noTrailing : ∀ start, name ≠ start ++ ['_']
  noDoubled : ∀ start rest, name ≠ start ++ '_' :: '_' :: rest

/-- The words of a name are lower-case runs too. -/
theorem of_mem_nameWords {uri info : String} {w : List Char} (h : w ∈ nameWords uri info) :
    w ≠ [] ∧ ∀ c ∈ w, c.isLower = true ∨ c.isDigit = true := by
  unfold nameWords at h
  split at h
  · rw [List.mem_singleton.mp h]
    have hall : ("printer".toList.all Char.isLower) = true := by decide
    exact ⟨by decide, fun c hc => .inl (List.all_eq_true.mp hall c hc)⟩
  · rw [slugWords_eq] at h
    exact of_mem_asciiRuns h

theorem nameWords_ne_nil (uri info : String) : nameWords uri info ≠ [] := by
  unfold nameWords
  split
  · exact List.cons_ne_nil _ _
  · assumption

/-- **Every proposed name is a slug.** -/
theorem isSlug_printerNameFromUri (uri info : String) :
    IsSlug (printerNameFromUri uri info).toList := by
  rw [printerNameFromUri_toList]
  have hwords := isWord_nameWords uri info
  obtain ⟨hlead, htrail, hdouble⟩ := join_tight hwords
  refine ⟨?_, fun c hc => ?_, hlead, htrail, hdouble⟩
  · exact fun e => nameWords_ne_nil uri info ((join_eq_nil_iff hwords).mp e)
  · rcases mem_join hc with rfl | ⟨w, hw, hc⟩
    · exact .inr (.inr rfl)
    · rcases (of_mem_nameWords hw).2 c hc with h | h
      · exact .inl h
      · exact .inr (.inl h)

/-! ## 4. Spellings of one name -/

/-- One text is another with a letter in the other case, or with other separators at one place:
    between two parts, before the text, or after it. -/
inductive Respelled : List Char → List Char → Prop
  | letter (xs ys : List Char) {c d : Char} (h : c.toLower = d.toLower) :
      Respelled (xs ++ c :: ys) (xs ++ d :: ys)
  | between (xs ys : List Char) {u v : List Char} (hu : ∀ c ∈ u, c.isAlphanum = false)
      (hv : ∀ c ∈ v, c.isAlphanum = false) (hne : u ≠ []) (hne' : v ≠ []) :
      Respelled (xs ++ u ++ ys) (xs ++ v ++ ys)
  | before (xs : List Char) {u : List Char} (hu : ∀ c ∈ u, c.isAlphanum = false) :
      Respelled (u ++ xs) xs
  | after (xs : List Char) {u : List Char} (hu : ∀ c ∈ u, c.isAlphanum = false) :
      Respelled (xs ++ u) xs

theorem asciiRuns_respelled {text text' : List Char} (h : Respelled text text') :
    asciiRuns text = asciiRuns text' := by
  cases h with
  | letter xs ys h =>
      rw [asciiRuns_eq, asciiRuns_eq, List.map_append, List.map_append, List.map_cons,
        List.map_cons, h]
  | between xs ys hu hv hne hne' =>
      unfold asciiRuns
      rw [runs_append hne hu, runs_append hne' hv]
  | before _ hu =>
      unfold asciiRuns
      rw [runs_gap_append hu]
  | after _ hu =>
      unfold asciiRuns
      rw [runs_append_gap hu]

/-- **Case and separators do not matter**, at however many places they differ. -/
theorem asciiRuns_congr {text text' : List Char} (h : Relation.EqvGen Respelled text text') :
    asciiRuns text = asciiRuns text' := by
  induction h with
  | rel _ _ h => exact asciiRuns_respelled h
  | refl => rfl
  | symm _ _ _ ih => exact ih.symm
  | trans _ _ _ _ _ ih ih' => exact ih.trans ih'

/-- **Joined lower-case runs** have these runs again. -/
theorem asciiRuns_join {ws : List (List Char)}
    (h : ∀ w ∈ ws, w ≠ [] ∧ ∀ c ∈ w, c.isLower = true ∨ c.isDigit = true) :
    asciiRuns (join '_' ws) = ws := by
  unfold asciiRuns
  rw [runs_join (by decide) fun w hw =>
    ⟨(h w hw).1, fun c hc => isAlphanum_of_lower_or_digit ((h w hw).2 c hc)⟩]
  refine (List.map_congr_left fun w hw => ?_).trans (List.map_id ws)
  refine (List.map_congr_left fun c hc => ?_).trans (List.map_id w)
  exact toLower_of_lower_or_digit ((h w hw).2 c hc)

/-- A text whose runs are those of a name is given that name. -/
theorem printerNameFromUri_congr {uri info uri' info' : String}
    (h : asciiRuns (slugSource uri' info') = nameWords uri info) :
    printerNameFromUri uri' info' = printerNameFromUri uri info := by
  refine printerNameFromUri_inj.mpr ?_
  have hne : slugWords uri' info' ≠ [] := by
    rw [slugWords_eq, h]
    exact nameWords_ne_nil uri info
  rw [← h, ← slugWords_eq]
  unfold nameWords
  split
  · exact absurd ‹_› hne
  · rfl

/-! ## 5. The name -/

/-- **The name is the runs of its text, in lower case and joined by `_`**, or `printer`; it is a
    slug, the same for every spelling of the text, and the name of itself. -/
theorem printer_name_sanitised (uri info : String) :
    (∃ ws, MaximalRuns Char.isAlphanum (slugSource uri info) ws ∧
      (printerNameFromUri uri info).toList =
        if ws = [] then "printer".toList else join '_' (ws.map (List.map Char.toLower))) ∧
    IsSlug (printerNameFromUri uri info).toList ∧
    (∀ uri' info', Relation.EqvGen Respelled (slugSource uri info) (slugSource uri' info') →
      printerNameFromUri uri' info' = printerNameFromUri uri info) ∧
    (∀ uri', printerNameFromUri uri' (printerNameFromUri uri info) =
      printerNameFromUri uri info) ∧
    printerNameFromUri (printerNameFromUri uri info) "" = printerNameFromUri uri info := by
  have hagain : asciiRuns (printerNameFromUri uri info).toList = nameWords uri info := by
    rw [printerNameFromUri_toList]
    exact asciiRuns_join fun w hw => of_mem_nameWords hw
  have hne : printerNameFromUri uri info ≠ "" := fun e =>
    (isSlug_printerNameFromUri uri info).nonempty (by rw [e]; rfl)
  refine ⟨⟨runs Char.isAlphanum (slugSource uri info), maximalRuns_runs _, ?_⟩,
    isSlug_printerNameFromUri uri info, fun uri' info' h => ?_, fun uri' => ?_, ?_⟩
  · have hwords : slugWords uri info =
        (runs Char.isAlphanum (slugSource uri info)).map (List.map Char.toLower) :=
      slugWords_eq uri info
    rw [printerNameFromUri_toList]
    unfold nameWords
    rw [hwords]
    cases runs Char.isAlphanum (slugSource uri info) with
    | nil => rfl
    | cons w ws => rfl
  · refine printerNameFromUri_inj.mpr ?_
    unfold nameWords
    rw [slugWords_eq, slugWords_eq, asciiRuns_congr h]
  · refine printerNameFromUri_congr ?_
    rw [slugSource_of_ne uri' hne]
    exact hagain
  · refine printerNameFromUri_congr ?_
    rw [slugSource_empty]
    exact hagain

end IppPrinterApp
