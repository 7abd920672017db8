/-
  File:      IppPrinterApp/SideMargins.lean
  Subject:   What the side margins leave of a sheet (`side_margin_hmm`, attributes.rs).

  A head narrower than the sheet leaves stock on both sides that it cannot mark; the margins are
  half of the difference each. Two divisions round here: the width of the head, from dots to
  hundredths of a millimetre, and the half. Both round down.

  * `imageable_eq` -- the width left over is the rounded width of the head, and one hundredth more
    if the difference is odd;
  * `side_margins_fit_iff`: **the head can mark what the margins leave** exactly if the difference
    is even; `imageable_beyond_head` is a sheet of 50.01 mm under a head of 48.04 mm;
  * `side_margin_exact`: **no cast and no subtraction loses anything** as long as the width of the
    head is an `i32`, and the margin lies between nothing and half the sheet, grows with the sheet
    and shrinks with the head; no dots at all are no margin. `side_margin_inexact` has both ends
    of the range.
-/
import IppPrinterApp.System

namespace IppPrinterApp

/-- The width of the head in whole hundredths of a millimetre. -/
def headHmm (cfg : PrinterConfig) : Int := (cfg.printheadWidthDots : Int) * 2540 / cfg.dpi

/-- What the margins leave of a sheet. -/
def imageableHmm (cfg : PrinterConfig) (widthHmm : Int) : Int :=
  widthHmm - 2 * sideMarginHmm cfg widthHmm

section Margins

variable {cfg : PrinterConfig} {w : Int}

/-- The head marks its rounded width, and not one hundredth more. -/
theorem headHmm_bounds (hdpi : 0 < cfg.dpi) :
    headHmm cfg * cfg.dpi ≤ (cfg.printheadWidthDots : Int) * 2540 ∧
      (cfg.printheadWidthDots : Int) * 2540 < (headHmm cfg + 1) * cfg.dpi :=
  ⟨Int.ediv_mul_le _ (by omega), Int.lt_ediv_add_one_mul_self _ hdpi⟩

/-- A sheet is wider than the head exactly if it is wider than the rounded width. -/
theorem wider_iff (hdpi : 0 < cfg.dpi) :
    (cfg.printheadWidthDots : Int) * 2540 < w * cfg.dpi ↔ headHmm cfg < w :=
  (Int.ediv_lt_iff_lt_mul hdpi).symm

theorem headHmm_nonneg (hdpi : 0 < cfg.dpi) : 0 ≤ headHmm cfg :=
  Int.ediv_nonneg (by omega) (Int.le_of_lt hdpi)

/-- The division of the source truncates, which for a positive resolution is the same. -/
theorem tdiv_eq_headHmm : ((cfg.printheadWidthDots : Int) * 2540).tdiv cfg.dpi = headHmm cfg :=
  Int.tdiv_eq_ediv_of_nonneg (by omega)

theorem asI32_headHmm (hdpi : 0 < cfg.dpi) (hhead : headHmm cfg < 2 ^ 31) :
    asI32 (headHmm cfg) = headHmm cfg :=
  asI32_eq_self (Int.le_trans (by decide) (headHmm_nonneg hdpi)) hhead

theorem asI32_difference (hdpi : 0 < cfg.dpi) (hhead : headHmm cfg < 2 ^ 31) (hw₀ : 0 ≤ w)
    (hw : w < 2 ^ 31) : asI32 (w - headHmm cfg) = w - headHmm cfg := by
  have hpos := headHmm_nonneg hdpi
  exact asI32_eq_self (by omega) (by omega)

/-- No dots, no margin: the source asks before it divides. -/
theorem sideMarginHmm_no_dots (h : cfg.printheadWidthDots = 0) : sideMarginHmm cfg w = 0 :=
  if_pos (Or.inr h)

/-- **The margin**, without the casts of the source: they lose nothing here. -/
theorem sideMarginHmm_eq (hdpi : 0 < cfg.dpi) (hdots : 0 < cfg.printheadWidthDots)
    (hhead : headHmm cfg < 2 ^ 31) (hw₀ : 0 ≤ w) (hw : w < 2 ^ 31) :
    sideMarginHmm cfg w = max (w - headHmm cfg) 0 / 2 := by
  unfold sideMarginHmm
  dsimp only
  rw [if_neg (by omega), tdiv_eq_headHmm, asI32_headHmm hdpi hhead,
    asI32_difference hdpi hhead hw₀ hw, Int.tdiv_eq_ediv_of_nonneg (by omega)]

/-- **What is left** of a wider sheet: the rounded width of the head, and the odd hundredth of the
    difference. -/
theorem imageable_eq (hdpi : 0 < cfg.dpi) (hdots : 0 < cfg.printheadWidthDots)
    (hhead : headHmm cfg < 2 ^ 31) (hw₀ : 0 ≤ w) (hw : w < 2 ^ 31) (hwide : headHmm cfg < w) :
    imageableHmm cfg w = headHmm cfg + (w - headHmm cfg) % 2 := by
  unfold imageableHmm
  rw [sideMarginHmm_eq hdpi hdots hhead hw₀ hw]
  omega

/-- A sheet no wider than the head has no margins. -/
theorem sideMarginHmm_narrow (hdpi : 0 < cfg.dpi) (hdots : 0 < cfg.printheadWidthDots)
    (hhead : headHmm cfg < 2 ^ 31) (hw₀ : 0 ≤ w) (hw : w < 2 ^ 31) (hnarrow : w ≤ headHmm cfg) :
    sideMarginHmm cfg w = 0 := by
  rw [sideMarginHmm_eq hdpi hdots hhead hw₀ hw]
  omega

/-- **The margins fit the head**: it can mark what they leave of a wider sheet, a sheet no wider
    has none, and less than two hundredths of a millimetre that it could mark are given up. -/
def MarginsFit (cfg : PrinterConfig) (w : Int) : Prop :=
  ((cfg.printheadWidthDots : Int) * 2540 < w * cfg.dpi →
    imageableHmm cfg w * cfg.dpi ≤ (cfg.printheadWidthDots : Int) * 2540) ∧
  (w * cfg.dpi ≤ (cfg.printheadWidthDots : Int) * 2540 → sideMarginHmm cfg w = 0) ∧
  min (w * cfg.dpi) ((cfg.printheadWidthDots : Int) * 2540) - imageableHmm cfg w * cfg.dpi <
    2 * cfg.dpi

/-- **The margins fit exactly if** the sheet is no wider than the head or wider by an even number
    of hundredths. -/
theorem side_margins_fit_iff (hdpi : 0 < cfg.dpi) (hdots : 0 < cfg.printheadWidthDots)
    (hhead : headHmm cfg < 2 ^ 31) (hw₀ : 0 ≤ w) (hw : w < 2 ^ 31) :
    MarginsFit cfg w ↔ w ≤ headHmm cfg ∨ (w - headHmm cfg) % 2 = 0 := by
  obtain ⟨hmark, hmore⟩ := headHmm_bounds hdpi
  have hwide := wider_iff (w := w) hdpi
  unfold MarginsFit
  rcases Int.lt_or_le (headHmm cfg) w with hlt | hle
  · have himg := imageable_eq hdpi hdots hhead hw₀ hw hlt
    have hover := hwide.mpr hlt
    rw [Int.add_mul] at hmore
    rcases Int.emod_two_eq (w - headHmm cfg) with heven | hodd
    · rw [himg, heven, Int.add_zero]
      refine iff_of_true ⟨fun _ => hmark, fun hno => ?_, ?_⟩ (Or.inr rfl)
      · omega
      · omega
    · -- the odd hundredth is beyond the head
      refine iff_of_false (fun h => ?_) (by omega)
      have himageable := h.1 hover
      rw [himg, hodd, Int.add_mul] at himageable
      omega
  · have hmargin := sideMarginHmm_narrow hdpi hdots hhead hw₀ hw hle
    have himg : imageableHmm cfg w = w := by
      unfold imageableHmm
      omega
    rw [himg, hmargin]
    refine iff_of_true ⟨fun hover => ?_, fun _ => rfl, ?_⟩ (Or.inl hle)
    · exact absurd (hwide.mp hover) (by omega)
    · omega

end Margins

theorem side_margins_fit_iff_label :
    MarginsFit (Trial.config "p") 5000 :=
  (side_margins_fit_iff (by decide) (by decide) (by decide) (by decide) (by decide)).mpr
    (Or.inr (by decide))

/-- 384 dots at 203 dpi are 48.04 mm; of a sheet of 50.01 mm the margins leave 48.05 mm. -/
theorem imageable_beyond_head :
    ¬ ∀ (cfg : PrinterConfig) (w : Int), 0 < cfg.dpi → 0 < cfg.printheadWidthDots →
        headHmm cfg < 2 ^ 31 → 0 ≤ w → w < 2 ^ 31 → MarginsFit cfg w := by
  intro h
  have hfit := h (Trial.config "p") 5001 (by decide) (by decide) (by decide) (by decide) (by decide)
  exact absurd (hfit.1 (by decide)) (by decide)

/-! ## Exactness -/

/-- **The margin is the exact value**: the product fits an `i64`, the quotient and the difference
    an `i32`. -/
structure ExactMargin (cfg : PrinterConfig) (w : Int) : Prop where
  product : (cfg.printheadWidthDots : Int) * 2540 < 2 ^ 63
  quotient : asI32 (((cfg.printheadWidthDots : Int) * 2540).tdiv cfg.dpi) = headHmm cfg
  difference : asI32 (w - headHmm cfg) = w - headHmm cfg
  margin : sideMarginHmm cfg w = max 0 (w - headHmm cfg) / 2

/-- The same printer with another head. -/
def PrinterConfig.withDots (cfg : PrinterConfig) (dots : Nat) : PrinterConfig :=
  { cfg with printheadWidthDots := dots }

section Exact

variable {cfg : PrinterConfig} {w w' : Int} {dots : Nat}

theorem exactMargin (hdpi : 0 < cfg.dpi) (hdots : 0 < cfg.printheadWidthDots)
    (hu32 : (cfg.printheadWidthDots : Int) < 2 ^ 32) (hhead : headHmm cfg < 2 ^ 31) (hw₀ : 0 ≤ w)
    (hw : w < 2 ^ 31) : ExactMargin cfg w where
  product := by omega
  quotient := by rw [tdiv_eq_headHmm, asI32_headHmm hdpi hhead]
  difference := asI32_difference hdpi hhead hw₀ hw
  margin := by rw [sideMarginHmm_eq hdpi hdots hhead hw₀ hw, Int.max_comm]

/-- **Between nothing and half the sheet.** -/
theorem sideMarginHmm_bounds (hdpi : 0 < cfg.dpi) (hhead : headHmm cfg < 2 ^ 31) (hw₀ : 0 ≤ w)
    (hw : w < 2 ^ 31) : 0 ≤ sideMarginHmm cfg w ∧ sideMarginHmm cfg w ≤ w / 2 := by
  rcases Nat.eq_zero_or_pos cfg.printheadWidthDots with hno | hdots
  · rw [sideMarginHmm_no_dots hno]
    omega
  · have hpos := headHmm_nonneg hdpi
    rw [sideMarginHmm_eq hdpi hdots hhead hw₀ hw]
    omega

/-- **A wider sheet has no smaller margin.** -/
theorem sideMarginHmm_mono (hdpi : 0 < cfg.dpi) (hhead : headHmm cfg < 2 ^ 31) (hw₀ : 0 ≤ w)
    (hle : w ≤ w') (hw' : w' < 2 ^ 31) : sideMarginHmm cfg w ≤ sideMarginHmm cfg w' := by
  rcases Nat.eq_zero_or_pos cfg.printheadWidthDots with hno | hdots
  · rw [sideMarginHmm_no_dots hno, sideMarginHmm_no_dots hno]
  · rw [sideMarginHmm_eq hdpi hdots hhead hw₀ (by omega),
      sideMarginHmm_eq hdpi hdots hhead (by omega) hw']
    omega

/-- More dots are a wider head. -/
theorem headHmm_mono (hdpi : 0 < cfg.dpi) (hle : cfg.printheadWidthDots ≤ dots) :
    headHmm cfg ≤ headHmm (cfg.withDots dots) :=
  Int.ediv_le_ediv hdpi (by simp only [PrinterConfig.withDots]; omega)

/-- **A wider head leaves no larger margin.** -/
theorem sideMarginHmm_antitone (hdpi : 0 < cfg.dpi) (hdots : 0 < cfg.printheadWidthDots)
    (hle : cfg.printheadWidthDots ≤ dots) (hhead : headHmm (cfg.withDots dots) < 2 ^ 31)
    (hw₀ : 0 ≤ w) (hw : w < 2 ^ 31) :
    sideMarginHmm (cfg.withDots dots) w ≤ sideMarginHmm cfg w := by
  have hmono := headHmm_mono hdpi hle
  have hdpi' : 0 < (cfg.withDots dots).dpi := hdpi
  have hdots' : 0 < (cfg.withDots dots).printheadWidthDots := Nat.lt_of_lt_of_le hdots hle
  rw [sideMarginHmm_eq hdpi hdots (by omega) hw₀ hw, sideMarginHmm_eq hdpi' hdots' hhead hw₀ hw]
  omega

end Exact

/-- **The side margin, for every head whose width is an `i32`.** -/
theorem side_margin_exact {cfg : PrinterConfig} {w : Int} (hdpi : 0 < cfg.dpi)
    (hu32 : (cfg.printheadWidthDots : Int) < 2 ^ 32) (hhead : headHmm cfg < 2 ^ 31) (hw₀ : 0 ≤ w)
    (hw : w < 2 ^ 31) :
    (0 < cfg.printheadWidthDots → ExactMargin cfg w) ∧
    (cfg.printheadWidthDots = 0 → sideMarginHmm cfg w = 0) ∧
    (0 ≤ sideMarginHmm cfg w ∧ sideMarginHmm cfg w ≤ w / 2) ∧
    (∀ w', w ≤ w' → w' < 2 ^ 31 → sideMarginHmm cfg w ≤ sideMarginHmm cfg w') ∧
    (∀ dots, 0 < cfg.printheadWidthDots → cfg.printheadWidthDots ≤ dots →
      headHmm (cfg.withDots dots) < 2 ^ 31 →
      sideMarginHmm (cfg.withDots dots) w ≤ sideMarginHmm cfg w) :=
  ⟨fun hdots => exactMargin hdpi hdots hu32 hhead hw₀ hw, sideMarginHmm_no_dots,
    sideMarginHmm_bounds hdpi hhead hw₀ hw,
    fun _ hle hw' => sideMarginHmm_mono hdpi hhead hw₀ hle hw',
    fun _ hdots hle hhead' => sideMarginHmm_antitone hdpi hdots hle hhead' hw₀ hw⟩

/-- A sheet of 50 mm under a head of 48.04 mm has 0.98 mm on each side. -/
theorem side_margin_exact_label :
    sideMarginHmm (Trial.config "p") 5000 = max 0 (5000 - headHmm (Trial.config "p")) / 2 :=
  have h := @side_margin_exact (Trial.config "p") 5000 (by decide) (by decide) (by decide)
    (by decide) (by decide)
  (h.1 (by decide)).margin

/-- **Not for every head**: none has no margin, where half the sheet would be left over, and one of
    4294967295 dots at 1 dpi, which is -25.40 mm wide after the cast, leaves more than half. -/
theorem side_margin_inexact :
    (¬ ∀ (cfg : PrinterConfig) (w : Int), 0 < cfg.dpi → (cfg.printheadWidthDots : Int) < 2 ^ 32 →
        0 ≤ w → w < 2 ^ 31 → sideMarginHmm cfg w = max 0 (w - headHmm cfg) / 2) ∧
    5000 / 2 < sideMarginHmm
      { Trial.config "p" with dpi := 1, printheadWidthDots := 4294967295 } 5000 := by
  refine ⟨fun h => ?_, by decide⟩
  have hnone := h ((Trial.config "p").withDots 0) 5000 (by decide) (by decide) (by decide)
    (by decide)
  exact absurd hnone (by decide)

end IppPrinterApp
