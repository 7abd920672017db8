/-
  File:      IppPrinterApp/MediaForms.lean
  Subject:   The size entered in the media form (`media_apply_handler`, server.rs).

  The form has whole millimetres in two `u32`. The handler casts them to `i32`, multiplies by 100,
  and compares the product with the bounds if the lower bound is set.

  * `accepted_form_recorded_iff`: **what is recorded is what was entered** exactly if both
    dimensions are positive and their hundredths fit an `i32`; `wrapped_form_accepted` is a width
    of 42 kilometres that is recorded as 27 mm;
  * `form_follows_advert_iff`: **the form refuses what the printer does not advertise**, and shows
    the advertised bounds, exactly if a lower bound that is set is not above the upper one;
    `unadvertised_bounds_block` is a printer with a lower bound only.
-/
import IppPrinterApp.MediaNames

namespace IppPrinterApp

open Decimal

/-! ## 1. What is recorded -/

theorem asI32_bounds (n : Int) : -2 ^ 31 ≤ asI32 n ∧ asI32 n < 2 ^ 31 := by
  unfold asI32
  rw [Int.bmod_def]
  omega

/-- The hundredths of one dimension are 100 times its millimetres exactly if they fit. -/
theorem hundredths_iff {n : Nat} (h : n < 2 ^ 32) :
    asI32 (asI32 n * 100) = (n : Int) * 100 ↔ n * 100 < 2 ^ 31 := by
  constructor
  · intro e
    have hlt := (asI32_bounds (asI32 n * 100)).2
    rw [e] at hlt
    omega
  · intro hlt
    rw [asI32_eq_self (n := n) (by omega) (by omega)]
    exact asI32_eq_self (by omega) (by omega)

/-- The recorded size is the entered one exactly if both dimensions fit. -/
theorem media_sizeHmm_iff {form : MediaForm} (hw : form.widthMm < 2 ^ 32)
    (hh : form.heightMm < 2 ^ 32) :
    form.media.sizeHmm = ((form.widthMm : Int) * 100, (form.heightMm : Int) * 100) ↔
      form.widthMm * 100 < 2 ^ 31 ∧ form.heightMm * 100 < 2 ^ 31 := by
  have e : form.media.sizeHmm =
      (asI32 (asI32 form.widthMm * 100), asI32 (asI32 form.heightMm * 100)) := rfl
  rw [e, Prod.mk.injEq, hundredths_iff hw, hundredths_iff hh]

/-- **The name of the media** tells the entered size. -/
theorem sizeInName_media (form : MediaForm) :
    sizeInName form.media.name = some ((form.widthMm : Int) * 100, (form.heightMm : Int) * 100) := by
  refine sizeInName_of_toList ("om_".toList ++ dimsText form.widthMm form.heightMm) ?_
  unfold MediaForm.media dimsText
  simp [toString]

/-- The sizes within two bounds. -/
def Within (lo hi s : SizeHmm) : Prop := (lo.1 ≤ s.1 ∧ lo.2 ≤ s.2) ∧ s.1 ≤ hi.1 ∧ s.2 ≤ hi.2

instance (lo hi s : SizeHmm) : Decidable (Within lo hi s) :=
  inferInstanceAs (Decidable ((_ ∧ _) ∧ _ ∧ _))

/-- **The bounds check**, in terms of the bounds. -/
theorem outOfRange_iff {form : MediaForm} {cfg : PrinterConfig} :
    form.outOfRange cfg = true ↔
      hasMinimum cfg = true ∧ ¬ Within cfg.mediaSizeMin cfg.mediaSizeMax form.sizeHmm := by
  unfold MediaForm.outOfRange Within
  rw [Bool.and_eq_true]
  refine and_congr_right fun _ => ?_
  simp only [Bool.or_eq_true, decide_eq_true_eq]
  omega

theorem hasMinimum_iff {cfg : PrinterConfig} :
    hasMinimum cfg = true ↔ 0 < cfg.mediaSizeMin.1 ∧ 0 < cfg.mediaSizeMin.2 := by
  unfold hasMinimum
  rw [Bool.and_eq_true, decide_eq_true_eq, decide_eq_true_eq]

/-- The cast and the product of one dimension stay within an `i32`. -/
def NoOverflow (n : Nat) : Prop := n < 2 ^ 31 ∧ asI32 n * 100 < 2 ^ 31

/-- **The media of a form is recorded right**: its size is the one entered, positive, within the
    bounds if the lower one is set, and told by its name; and no arithmetic overflowed. -/
structure RecordedRight (form : MediaForm) (cfg : PrinterConfig) (m : ReadyMedia) : Prop where
  size : m.sizeHmm = ((form.widthMm : Int) * 100, (form.heightMm : Int) * 100)
  positive : 0 < m.sizeHmm.1 ∧ 0 < m.sizeHmm.2
  within : hasMinimum cfg = true → Within cfg.mediaSizeMin cfg.mediaSizeMax m.sizeHmm
  named : sizeInName m.name = some m.sizeHmm
  exact : NoOverflow form.widthMm ∧ NoOverflow form.heightMm

/-- The condition on a form: both dimensions are positive, and in hundredths fit an `i32`. -/
def MediaForm.Fits (form : MediaForm) : Prop :=
  (0 < form.widthMm ∧ form.widthMm * 100 < 2 ^ 31) ∧
    0 < form.heightMm ∧ form.heightMm * 100 < 2 ^ 31

section Recorded

variable {hooked : Bool} {printers printers' : PrinterRegistry} {name : String} {form : MediaForm}
  {record updated : PrinterRecord} {pc : MediaPc} {t : MediaTask} {page : Option Page}

/-- A form is accepted exactly if it is not out of range. -/
theorem mediaStart_ok_iff (hf : findPrinter printers name = some record) :
    (∃ pc, mediaStart hooked printers name form = .ok pc) ↔
      form.outOfRange record.config = false := by
  unfold mediaStart
  rw [hf]
  dsimp only
  cases ho : form.outOfRange record.config with
  | false => exact ⟨fun _ => rfl, fun _ => ⟨_, rfl⟩⟩
  | true => exact ⟨fun ⟨_, h⟩ => (by cases h), fun h => (by cases h)⟩

/-- What the handler writes is the media of its form. -/
theorem step_write_readyMedia
    (h : (MediaTask.mk name form .write).step printers' = some (t, page))
    (ht : t.pc = .snapshot updated) : updated.readyMedia = some form.media := by
  unfold MediaTask.step at h
  dsimp only at h
  cases hf : findPrinter printers' name with
  | none =>
      rw [hf] at h
      cases h
      cases ht
  | some r =>
      rw [hf] at h
      cases h
      cases ht
      rfl

/-- **What is recorded is what was entered, exactly under the condition**: for a form that was
    accepted on the copy of the record taken at the start, whatever the registry is by the time of
    the write. -/
theorem accepted_form_recorded_iff (hw : form.widthMm < 2 ^ 32) (hh : form.heightMm < 2 ^ 32)
    (hf : findPrinter printers name = some record)
    (hstart : mediaStart hooked printers name form = .ok pc)
    (h : (MediaTask.mk name form .write).step printers' = some (t, page))
    (ht : t.pc = .snapshot updated) :
    (∃ m, updated.readyMedia = some m ∧ RecordedRight form record.config m) ↔ form.Fits := by
  have hm := step_write_readyMedia h ht
  have hin : form.outOfRange record.config = false := (mediaStart_ok_iff hf).mp ⟨pc, hstart⟩
  have hsize : form.media.sizeHmm = form.sizeHmm := rfl
  have hfits := media_sizeHmm_iff hw hh
  constructor
  · rintro ⟨m, e, hr⟩
    cases hm.symm.trans e
    obtain ⟨hw₁, hh₁⟩ := hfits.mp hr.size
    have hpos := hr.positive
    rw [hr.size] at hpos
    obtain ⟨hw₀, hh₀⟩ := hpos
    refine ⟨⟨?_, hw₁⟩, ?_, hh₁⟩
    · omega
    · omega
  · rintro ⟨⟨hw₀, hw₁⟩, hh₀, hh₁⟩
    have hs := hfits.mpr ⟨hw₁, hh₁⟩
    refine ⟨form.media, hm, hs, ?_, ?_, ?_, ?_⟩
    · have hpos : 0 < (form.widthMm : Int) * 100 ∧ 0 < (form.heightMm : Int) * 100 := by omega
      rw [hs]
      exact hpos
    · intro hmin
      rw [hsize]
      refine Classical.byContradiction fun hout => ?_
      rw [outOfRange_iff.mpr ⟨hmin, hout⟩] at hin
      cases hin
    · exact (sizeInName_media form).trans (congrArg some hs.symm)
    · unfold NoOverflow
      rw [asI32_eq_self (n := form.widthMm) (by omega) (by omega),
        asI32_eq_self (n := form.heightMm) (by omega) (by omega)]
      omega

end Recorded

/-- 50 mm by 30 mm. -/
theorem accepted_form_recorded_iff_label :
    ∃ m, (Trial.printer.setReadyMedia (MediaForm.mk 50 30).media).1.readyMedia = some m ∧
      RecordedRight ⟨50, 30⟩ Trial.printer.config m := by
  have hf : findPrinter [Trial.printer] "p" = some Trial.printer := rfl
  have hstart : mediaStart false [Trial.printer] "p" ⟨50, 30⟩ = .ok .write := rfl
  have hstep : (MediaTask.mk "p" ⟨50, 30⟩ .write).step [Trial.printer] =
      some (⟨"p", ⟨50, 30⟩, .snapshot (Trial.printer.setReadyMedia (MediaForm.mk 50 30).media).1⟩,
        none) := rfl
  exact (accepted_form_recorded_iff (by decide) (by decide) hf hstart hstep rfl).mpr
    ⟨⟨by decide, by decide⟩, by decide, by decide⟩

/-- A width of 42949700 mm is recorded as 27.04 mm, which the bounds of the printer admit. -/
theorem wrapped_form_accepted :
    ¬ ∀ (hooked : Bool) (printers printers' : PrinterRegistry) (name : String) (form : MediaForm)
        (record updated : PrinterRecord) (pc : MediaPc) (t : MediaTask) (page : Option Page),
        form.widthMm < 2 ^ 32 → form.heightMm < 2 ^ 32 →
        findPrinter printers name = some record →
        mediaStart hooked printers name form = .ok pc →
        (MediaTask.mk name form .write).step printers' = some (t, page) →
        t.pc = .snapshot updated →
        ∃ m, updated.readyMedia = some m ∧ RecordedRight form record.config m := by
  intro h
  obtain ⟨m, hm, hr⟩ := h false [Trial.printer] [Trial.printer] "p" ⟨42949700, 30⟩ Trial.printer
    (Trial.printer.setReadyMedia (MediaForm.mk 42949700 30).media).1 .write _ none (by decide)
    (by decide) rfl rfl rfl rfl
  cases hm
  exact absurd hr.size (by decide)

/-! ## 2. The form and the advertised range -/

/-- The paragraph of the page about the sizes accepted. -/
def boundsParagraph (range : SizeHmm × SizeHmm) : String :=
  s!"<p>Accepts {range.1.1.tdiv 100}×{range.1.2.tdiv 100}mm to " ++
    s!"{range.2.1.tdiv 100}×{range.2.2.tdiv 100}mm.</p>"

/-- The page up to that paragraph. -/
def pageHead (record : PrinterRecord) (message : Option String) (isError : Bool) : String :=
  let banner := message.elim "" fun m =>
    if isError then s!"<p style=\"color:#b00\"><b>{esc m}</b></p>"
    else s!"<p style=\"color:#070\">{esc m}</p>"
  s!"<!DOCTYPE html><html><head><title>Media — {esc record.config.name}</title></head><body>" ++
    s!"<h1>Loaded media</h1><h2>{esc record.config.displayLabel}</h2>{banner}"

/-- The page from there on. -/
def pageTail (record : PrinterRecord) : String :=
  "<form method=\"post\">" ++
    s!"<label>Width <input name=\"width_mm\" type=\"number\" min=\"1\" value=\"{(currentMediaMm record).1}\"></label> mm<br>" ++
    s!"<label>Length <input name=\"height_mm\" type=\"number\" min=\"1\" value=\"{(currentMediaMm record).2}\"></label> mm<br>" ++
    "<button type=\"submit\">Set</button></form>" ++
    "<p><a href=\"/\">Back</a></p></body></html>"

/-- **The page** shows the bounds of the configuration if the lower one is set. -/
theorem mediaPage_eq (record : PrinterRecord) (message : Option String) (isError : Bool) :
    mediaPage record message isError =
      pageHead record message isError ++
        (if hasMinimum record.config then
          boundsParagraph (record.config.mediaSizeMin, record.config.mediaSizeMax) else "") ++
        pageTail record := by
  have etext : ∀ s : String, toString s = s := fun _ => rfl
  unfold mediaPage pageHead pageTail boundsParagraph
  cases hmin : hasMinimum record.config with
  | true => cases message <;> simp only [hmin, if_true, etext, Option.elim, String.append_assoc]
  | false =>
      cases message <;>
        simp only [hmin, if_neg Bool.false_ne_true, etext, Option.elim, String.append_assoc,
          String.empty_append]

/-- The condition on a configuration: a lower bound that is set is not above the upper one. -/
def PrinterConfig.BoundsOrdered (cfg : PrinterConfig) : Prop :=
  hasMinimum cfg = true →
    cfg.mediaSizeMin.1 ≤ cfg.mediaSizeMax.1 ∧ cfg.mediaSizeMin.2 ≤ cfg.mediaSizeMax.2

theorem boundsSane_iff {cfg : PrinterConfig} :
    cfg.BoundsSane ↔ hasMinimum cfg = true ∧ cfg.BoundsOrdered := by
  unfold PrinterConfig.BoundsOrdered PrinterConfig.BoundsSane
  rw [hasMinimum_iff]
  constructor
  · rintro ⟨h₁, h₂, _, _, h₃, h₄⟩
    exact ⟨⟨h₁, h₂⟩, fun _ => ⟨h₃, h₄⟩⟩
  · rintro ⟨⟨h₁, h₂⟩, h⟩
    obtain ⟨h₃, h₄⟩ := h ⟨h₁, h₂⟩
    omega

theorem boundsParagraph_ne (range : SizeHmm × SizeHmm) : boundsParagraph range ≠ "" := by
  intro h
  unfold boundsParagraph at h
  have htext := (String.append_eq_empty_iff.mp h).2
  simp at htext
  exact absurd htext.2 (by decide)

/-- **The page shows the advertised bounds exactly under the condition.** -/
theorem page_bounds_iff (record : PrinterRecord) (message : Option String) (isError : Bool) :
    mediaPage record message isError =
        pageHead record message isError ++
          ((customMediaRange record.config).map boundsParagraph).getD "" ++ pageTail record ↔
      record.config.BoundsOrdered := by
  rw [mediaPage_eq]
  by_cases hs : record.config.BoundsSane
  · obtain ⟨hmin, hordered⟩ := boundsSane_iff.mp hs
    rw [customMediaRange_sane hs, hmin]
    exact iff_of_true rfl hordered
  · rw [customMediaRange_not_sane hs]
    cases hmin : hasMinimum record.config with
    | false =>
        refine iff_of_true rfl fun h => ?_
        rw [hmin] at h
        cases h
    | true =>
        -- the paragraph is there, with bounds that are not advertised
        refine iff_of_false (fun h => ?_) fun hordered => hs (boundsSane_iff.mpr ⟨hmin, hordered⟩)
        rw [String.append_left_inj, String.append_right_inj] at h
        exact boundsParagraph_ne _ h

/-- The form is refused as out of range. -/
def RefusedSize (hooked : Bool) (printers : PrinterRegistry) (name : String) (form : MediaForm) :
    Prop :=
  ∃ page, mediaStart hooked printers name form = .error page ∧ page.status = 400

section Advertised

variable {hooked : Bool} {printers : PrinterRegistry} {name : String} {form : MediaForm}
  {record : PrinterRecord}

theorem refusedSize_iff (hf : findPrinter printers name = some record) :
    RefusedSize hooked printers name form ↔ form.outOfRange record.config = true := by
  unfold RefusedSize mediaStart
  rw [hf]
  dsimp only
  cases ho : form.outOfRange record.config with
  | true => exact ⟨fun _ => rfl, fun _ => ⟨_, rfl, rfl⟩⟩
  | false => exact ⟨fun ⟨_, h, _⟩ => (by cases h), fun h => (by cases h)⟩

/-- **The bounds check is that of the advertised range exactly under the condition**: bounds that
    are not advertised refuse every size. -/
theorem outOfRange_advertised_iff {cfg : PrinterConfig} :
    (form.outOfRange cfg = true ↔
      ∃ range, customMediaRange cfg = some range ∧ ¬ Within range.1 range.2 form.sizeHmm) ↔
      cfg.BoundsOrdered := by
  rw [outOfRange_iff]
  by_cases hs : cfg.BoundsSane
  · obtain ⟨hmin, hordered⟩ := boundsSane_iff.mp hs
    rw [customMediaRange_sane hs]
    refine iff_of_true ?_ hordered
    constructor
    · rintro ⟨_, hout⟩
      exact ⟨_, rfl, hout⟩
    · rintro ⟨range, e, hout⟩
      cases e
      exact ⟨hmin, hout⟩
  · rw [customMediaRange_not_sane hs]
    have hnone : ¬ ∃ range : SizeHmm × SizeHmm, none = some range ∧
        ¬ Within range.1 range.2 form.sizeHmm := by
      rintro ⟨range, e, _⟩
      cases e
    cases hmin : hasMinimum cfg with
    | false =>
        refine iff_of_true (iff_of_false (fun h => by cases h.1) hnone) fun h => ?_
        rw [hmin] at h
        cases h
    | true =>
        have hunordered : ¬ cfg.BoundsOrdered := fun h => hs (boundsSane_iff.mpr ⟨hmin, h⟩)
        refine iff_of_false (fun h => hnone (h.mp ⟨rfl, fun hin => hunordered fun _ => ?_⟩)) hunordered
        obtain ⟨⟨h₁, h₂⟩, h₃, h₄⟩ := hin
        exact ⟨Int.le_trans h₁ h₃, Int.le_trans h₂ h₄⟩

/-- **The form follows the advert exactly under the condition**: it refuses a size that does not
    overflow if and only if a range is advertised and the size lies outside, and the page shows
    the advertised bounds. -/
theorem form_follows_advert_iff (hf : findPrinter printers name = some record)
    (hw : form.widthMm * 100 < 2 ^ 31) (hh : form.heightMm * 100 < 2 ^ 31) :
    ((RefusedSize hooked printers name form ↔
        ∃ range, customMediaRange record.config = some range ∧
          ¬ Within range.1 range.2 ((form.widthMm : Int) * 100, (form.heightMm : Int) * 100)) ∧
      ∀ message isError, mediaPage record message isError =
        pageHead record message isError ++
          ((customMediaRange record.config).map boundsParagraph).getD "" ++ pageTail record) ↔
      record.config.BoundsOrdered := by
  have hsize := (media_sizeHmm_iff (by omega) (by omega)).mpr ⟨hw, hh⟩
  rw [← hsize, refusedSize_iff hf]
  constructor
  · rintro ⟨hrefused, _⟩
    exact outOfRange_advertised_iff.mp hrefused
  · intro hordered
    exact ⟨outOfRange_advertised_iff.mpr hordered,
      fun message isError => (page_bounds_iff record message isError).mpr hordered⟩

end Advertised

namespace Trial

/-- A printer with a lower bound only: it advertises no custom size. -/
def lowerBoundOnly : PrinterRecord :=
  .new { config "p" with mediaSizeMax := (0, 0) } "uuid-p"

end Trial

theorem form_follows_advert_iff_label :
    RefusedSize false [Trial.printer] "p" ⟨200, 34⟩ ↔
      ∃ range, customMediaRange Trial.printer.config = some range ∧
        ¬ Within range.1 range.2 ((200 : Int) * 100, (34 : Int) * 100) :=
  ((form_follows_advert_iff rfl (by decide) (by decide)).mpr (fun _ => by decide)).1

/-- 50 mm by 30 mm, the printer's only configured media, is refused. -/
theorem unadvertised_bounds_block :
    ¬ ∀ (hooked : Bool) (printers : PrinterRegistry) (name : String) (form : MediaForm)
        (record : PrinterRecord), findPrinter printers name = some record →
        form.widthMm * 100 < 2 ^ 31 → form.heightMm * 100 < 2 ^ 31 →
        (RefusedSize hooked printers name form ↔
          ∃ range, customMediaRange record.config = some range ∧
            ¬ Within range.1 range.2 ((form.widthMm : Int) * 100, (form.heightMm : Int) * 100)) ∧
        ∀ message isError, mediaPage record message isError =
          pageHead record message isError ++
            ((customMediaRange record.config).map boundsParagraph).getD "" ++ pageTail record := by
  intro h
  obtain ⟨hrefused, _⟩ :=
    h false [Trial.lowerBoundOnly] "p" ⟨50, 30⟩ Trial.lowerBoundOnly rfl (by decide) (by decide)
  have hf : findPrinter [Trial.lowerBoundOnly] "p" = some Trial.lowerBoundOnly := rfl
  have hout : RefusedSize false [Trial.lowerBoundOnly] "p" ⟨50, 30⟩ :=
    (refusedSize_iff hf).mpr (by decide)
  obtain ⟨range, e, _⟩ := hrefused.mp hout
  revert e
  simp [show customMediaRange Trial.lowerBoundOnly.config = none by decide]

end IppPrinterApp
