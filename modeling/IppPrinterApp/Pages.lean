/-
  File:      IppPrinterApp/Pages.lean
  Subject:   The HTML pages (`index_handler`, `media_page`, server.rs) and the strings put into them.

  Both pages are built by hand out of fixed text, numbers and strings. What a string may do to a
  page is seen in the number of `<`, `>` and `"` on it (`markup`): the fixed text has its own, and
  a page whose strings add to them lets a string be markup.

  * `markup_esc` -- an escaped string has none, so the media page has the same markup whatever its
    strings are (`mediaPage_markup`);
  * `indexPage_markup` -- the index page has what its strings have on top of its own: none of them
    is escaped there;
  * `pages_same_markup_iff`: two registries that differ in strings only have pages with the same
    markup exactly if those strings have equally much of it.
-/
import IppPrinterApp.System

namespace IppPrinterApp

/-! ## 1. The index page -/

/-- The entry of a printer on the index page. -/
def indexItem (host : String) (port : Nat) (cfg : PrinterConfig) : String :=
  s!"<li><b>{cfg.displayLabel}</b> (<code>{cfg.name}</code>) — " ++
    s!"<code>{cfg.printerUri host port}</code> — device <code>{cfg.deviceUri}</code> — " ++
    s!"<a href=\"/media/{cfg.name}\">media</a></li>"

def indexHead : String :=
  "<!DOCTYPE html><html><head><title>ipp-printer-app</title></head><body>" ++
    "<h1>ipp-printer-app</h1><ul>"

def indexFoot (host : String) (port : Nat) : String :=
  let h := if host.isEmpty || host == "0.0.0.0" || host == "::" then "localhost" else host
  "</ul><p>Register with CUPS: <code>lpadmin -p NAME -E -v " ++
    s!"ipp://{h}:{port}/ipp/print/NAME -m everywhere</code></p></body></html>"

/-- `index_handler`: the page of all printers. -/
def indexPage (host : String) (port : Nat) (printers : PrinterRegistry) : String :=
  printers.foldl (fun html p => html ++ indexItem host port p.config) indexHead ++
    indexFoot host port

/-! ## 2. Markup -/

/-- How often a character stands in a text. -/
def markup (c : Char) (s : String) : Nat := s.toList.count c

/-- The characters that make markup. -/
def markupChars : List Char := ['<', '>', '"']

@[simp] theorem markup_append (c : Char) (s t : String) :
    markup c (s ++ t) = markup c s + markup c t := by
  unfold markup
  rw [String.toList_append, List.count_append]

@[simp] theorem markup_empty (c : Char) : markup c "" = 0 := rfl

section Replace

variable {c d : Char} {by' : String}

/-- What is replaced is gone. -/
theorem markup_replaceChar_self (h : markup c by' = 0) (s : String) :
    markup c (replaceChar c by' s) = 0 := by
  unfold markup replaceChar
  rw [String.toList_ofList]
  induction s.toList with
  | nil => rfl
  | cons e es ih =>
      rw [List.flatMap_cons, List.count_append, ih, Nat.add_zero]
      by_cases he : e = c
      · rw [if_pos he]
        exact h
      · rw [if_neg he]
        exact List.count_eq_zero.mpr fun hm => he (List.mem_singleton.mp hm).symm

/-- What is not replaced stays, and the text put in adds none of it. -/
theorem markup_replaceChar_other (hd : d ≠ c) (h : markup d by' = 0) (s : String) :
    markup d (replaceChar c by' s) = markup d s := by
  unfold markup replaceChar
  rw [String.toList_ofList]
  induction s.toList with
  | nil => rfl
  | cons e es ih =>
      rw [List.flatMap_cons, List.count_append, ih, List.count_cons]
      by_cases he : e = c
      · have hne : (e == d) = false := by
          rw [he]
          exact beq_eq_false_iff_ne.mpr (Ne.symm hd)
        have hb : by'.toList.count d = 0 := h
        rw [if_pos he, hb, hne, Nat.zero_add]
        rfl
      · rw [if_neg he, List.count_singleton]
        omega

end Replace

/-- **An escaped string has no markup.** -/
theorem markup_esc {c : Char} (hc : c ∈ markupChars) (s : String) : markup c (esc s) = 0 := by
  unfold esc
  rcases List.mem_cons.mp hc with rfl | hc
  · rw [markup_replaceChar_other (by decide) (by decide),
      markup_replaceChar_other (by decide) (by decide)]
    exact markup_replaceChar_self (by decide) _
  rcases List.mem_cons.mp hc with rfl | hc
  · rw [markup_replaceChar_other (by decide) (by decide)]
    exact markup_replaceChar_self (by decide) _
  rw [List.mem_singleton.mp hc]
  exact markup_replaceChar_self (by decide) _

/-- A number has no markup. -/
theorem markup_repr {c : Char} (hc : c ∈ markupChars) (n : Nat) : markup c n.repr = 0 := by
  have hdigit : c.isDigit = false := by
    rcases List.mem_cons.mp hc with rfl | hc
    · rfl
    rcases List.mem_cons.mp hc with rfl | hc
    · rfl
    rw [List.mem_singleton.mp hc]
    rfl
  refine List.count_eq_zero.mpr fun hm => ?_
  rw [Nat.toList_repr] at hm
  rw [Nat.isDigit_of_mem_toDigits (by decide) (by decide) hm] at hdigit
  cases hdigit

/-! ## 3. The pages without their strings -/

/-- A configuration with the strings of the pages left out. -/
def PrinterConfig.blank (cfg : PrinterConfig) : PrinterConfig :=
  { cfg with name := "", displayName := "", makeAndModel := "", deviceUri := "" }

/-- A fresh printer with the configuration left blank. -/
def PrinterRecord.blank (r : PrinterRecord) : PrinterRecord := .new r.config.blank ""

@[simp] theorem PrinterRecord.blank_config (r : PrinterRecord) :
    r.blank.config = r.config.blank := rfl

theorem map_blank_of_configs {ps qs : PrinterRegistry}
    (h : (configs ps).map (·.blank) = (configs qs).map (·.blank)) :
    ps.map (·.blank) = qs.map (·.blank) := by
  have hfresh : ∀ rs : PrinterRegistry,
      rs.map (·.blank) = ((configs rs).map (·.blank)).map fun cfg => PrinterRecord.new cfg "" := by
    intro rs
    rw [configs, List.map_map, List.map_map]
    rfl
  rw [hfresh ps, hfresh qs, h]

/-- The markup that a printer's strings have, each as often as the index page shows it. -/
def PrinterConfig.markup (c : Char) (cfg : PrinterConfig) : Nat :=
  IppPrinterApp.markup c cfg.displayLabel + 3 * IppPrinterApp.markup c cfg.name +
    IppPrinterApp.markup c cfg.deviceUri

/-- **An entry of the index page has the markup of its strings** on top of its own. -/
theorem indexItem_markup (c : Char) (host : String) (port : Nat) (cfg : PrinterConfig) :
    markup c (indexItem host port cfg) =
      markup c (indexItem host port cfg.blank) + cfg.markup c := by
  have hlabel : cfg.blank.displayLabel = "" := rfl
  have hname : cfg.blank.name = "" := rfl
  have huri : cfg.blank.deviceUri = "" := rfl
  unfold indexItem PrinterConfig.printerUri PrinterConfig.markup
  simp only [markup_append, hlabel, hname, huri, toString, markup_empty]
  omega

/-- The entries put behind a text add their markup. -/
theorem markup_items (c : Char) (host : String) (port : Nat) (printers : PrinterRegistry)
    (html : String) :
    markup c (printers.foldl (fun html p => html ++ indexItem host port p.config) html) =
      markup c html + (printers.map fun p => markup c (indexItem host port p.config)).sum := by
  induction printers generalizing html with
  | nil => rfl
  | cons p ps ih =>
      rw [List.foldl_cons, ih, markup_append, List.map_cons, List.sum_cons]
      omega

/-- **The index page has the markup of all strings on it** on top of its own. -/
theorem indexPage_markup (c : Char) (host : String) (port : Nat) (printers : PrinterRegistry) :
    markup c (indexPage host port printers) =
      markup c (indexPage host port (printers.map (·.blank))) +
        (printers.map fun p => p.config.markup c).sum := by
  have hsum : (printers.map fun p => markup c (indexItem host port p.config)).sum =
      ((printers.map (·.blank)).map fun p => markup c (indexItem host port p.config)).sum +
        (printers.map fun p => p.config.markup c).sum := by
    induction printers with
    | nil => rfl
    | cons p ps ih =>
        have hitem := indexItem_markup c host port p.config
        simp only [List.map_cons, List.sum_cons, ih, hitem, PrinterRecord.blank_config]
        omega
  unfold indexPage
  rw [markup_append, markup_append, markup_items, markup_items, hsum]
  omega

/-- **The media page has the same markup whatever its strings are**: all of them are escaped, and
    the loaded media is on it in numbers. -/
theorem mediaPage_markup {c : Char} (hc : c ∈ markupChars) (r : PrinterRecord)
    (message : Option String) (isError : Bool) :
    markup c (mediaPage r message isError) =
      markup c (mediaPage r.blank (message.map fun _ => "") isError) := by
  have hesc := markup_esc hc
  have hnum := markup_repr hc
  -- the bounds are the same
  have hbounds : hasMinimum r.blank.config = hasMinimum r.config := rfl
  have hmin : r.blank.config.mediaSizeMin = r.config.mediaSizeMin := rfl
  have hmax : r.blank.config.mediaSizeMax = r.config.mediaSizeMax := rfl
  unfold mediaPage
  cases message with
  | none =>
      simp only [markup_append, hesc, toString, hnum, hbounds, hmin, hmax, Option.map_none]
  | some m =>
      cases isError with
      | true =>
          simp only [markup_append, hesc, toString, hnum, hbounds, hmin, hmax, Option.map_some,
            if_true]
      | false =>
          simp only [markup_append, hesc, toString, hnum, hbounds, hmin, hmax, Option.map_some,
            Bool.false_eq_true, if_false]

/-! ## 4. Two registries -/

/-- Two texts have the same markup. -/
def SameMarkup (s t : String) : Prop := ∀ c ∈ markupChars, markup c s = markup c t

/-- Every page rendered from the one registry has the markup of the one from the other: the index
    page, and the media pages of the printers at one place, with any message. -/
def PagesAgree (host : String) (port : Nat) (ps qs : PrinterRegistry) : Prop :=
  SameMarkup (indexPage host port ps) (indexPage host port qs) ∧
    ∀ (i : Nat) (p q : PrinterRecord), ps[i]? = some p → qs[i]? = some q →
      ∀ (m m' : Option String) (isError : Bool), m.isSome = m'.isSome →
        SameMarkup (mediaPage p m isError) (mediaPage q m' isError)

/-- The media pages agree in any case. -/
theorem mediaPage_sameMarkup {p q : PrinterRecord} (h : p.blank = q.blank) {m m' : Option String}
    (hm : m.isSome = m'.isSome) (isError : Bool) :
    SameMarkup (mediaPage p m isError) (mediaPage q m' isError) := by
  have hnone : (m.map fun _ => "") = m'.map fun _ => "" := by
    cases m with
    | none =>
        cases m' with
        | none => rfl
        | some s' => cases hm
    | some s =>
        cases m' with
        | none => cases hm
        | some s' => rfl
  intro c hc
  rw [mediaPage_markup hc, mediaPage_markup hc q, h, hnone]

/-- The index pages agree in a character exactly if their strings do. -/
theorem indexPage_markup_eq_iff {host : String} {port : Nat} {ps qs : PrinterRegistry}
    (h : (configs ps).map (·.blank) = (configs qs).map (·.blank)) (c : Char) :
    markup c (indexPage host port ps) = markup c (indexPage host port qs) ↔
      (ps.map fun p => p.config.markup c).sum = (qs.map fun q => q.config.markup c).sum := by
  rw [indexPage_markup c host port ps, indexPage_markup c host port qs, map_blank_of_configs h]
  omega

/-- **Strings are no markup** -- exactly if they have none: for two registries whose configurations
    differ in their names, display names, models and device URIs only, the pages rendered from them
    have the same number of `<`, `>` and `"` exactly if the strings of the index page have, each
    taken as often as it is shown there. -/
theorem pages_same_markup_iff {host : String} {port : Nat} {ps qs : PrinterRegistry}
    (h : (configs ps).map (·.blank) = (configs qs).map (·.blank)) :
    PagesAgree host port ps qs ↔
      ∀ c ∈ markupChars, (ps.map fun p => p.config.markup c).sum =
        (qs.map fun q => q.config.markup c).sum := by
  unfold PagesAgree SameMarkup
  constructor
  · exact fun hall c hc => (indexPage_markup_eq_iff h c).mp (hall.1 c hc)
  · refine fun hsum => ⟨fun c hc => (indexPage_markup_eq_iff h c).mpr (hsum c hc), ?_⟩
    intro i p q hp hq m m' isError hm
    have hblank : p.blank = q.blank := by
      have hi := congrArg (·[i]?) (map_blank_of_configs h)
      simp only [List.getElem?_map, hp, hq, Option.map_some, Option.some.injEq] at hi
      exact hi
    exact mediaPage_sameMarkup hblank hm isError

namespace Trial

/-- A printer of this model. -/
def printerOf (makeAndModel : String) : PrinterRecord :=
  .new { config "p" with makeAndModel } "uuid-p"

theorem printerOf_blank (m n : String) :
    (configs [printerOf m]).map (·.blank) = (configs [printerOf n]).map (·.blank) := rfl

/-- The model is what differs. -/
theorem printerOf_markup {m : String} (hm : m.isEmpty = false) (c : Char) :
    ([printerOf m].map fun p => p.config.markup c).sum =
      markup c m + (3 * markup c "p" + markup c "usb://label") := by
  have hlabel : (printerOf m).config.displayLabel = m := by
    show (if !("" : String).isEmpty then "" else if !m.isEmpty then m else "p") = m
    rw [hm]
    rfl
  have hname : (printerOf m).config.name = "p" := rfl
  have huri : (printerOf m).config.deviceUri = "usb://label" := rfl
  simp only [List.map_cons, List.map_nil, List.sum_cons, List.sum_nil, PrinterConfig.markup, hlabel,
    hname, huri]
  omega

end Trial

theorem pages_same_markup_iff_models :
    PagesAgree "localhost" 8631 [Trial.printerOf "Label Printer"] [Trial.printerOf "Receipts"] := by
  have hmodels : ∀ c ∈ markupChars, markup c "Label Printer" = markup c "Receipts" := by
    simp [markupChars, markup]
  refine (pages_same_markup_iff (Trial.printerOf_blank _ _)).mpr fun c hc => ?_
  rw [Trial.printerOf_markup (by decide), Trial.printerOf_markup (by decide), hmodels c hc]

/-- A device whose model name is a tag puts that tag on the index page. -/
theorem model_name_is_markup :
    ¬ ∀ (host : String) (port : Nat) (ps qs : PrinterRegistry),
        (configs ps).map (·.blank) = (configs qs).map (·.blank) → PagesAgree host port ps qs := by
  intro h
  have hblank := Trial.printerOf_blank "Label Printer" "<b>Label Printer"
  have hindex := (h "localhost" 8631 _ _ hblank).1 '<' (by decide)
  have hsum := (indexPage_markup_eq_iff hblank '<').mp hindex
  rw [Trial.printerOf_markup (by decide), Trial.printerOf_markup (by decide)] at hsum
  have hmodels : markup '<' "Label Printer" = markup '<' "<b>Label Printer" := by omega
  simp [markup] at hmodels

end IppPrinterApp
