/-
  File:      IppPrinterApp/Lib/Calendar.lean
  Subject:   The proleptic Gregorian calendar.

  A `Date` is valid by construction: its month is one of twelve and its day one of that month's.
  Dates are numbered by days from 1 January 1970 on, in both directions, and points in time by
  seconds; a day has 86400 seconds.

  * `yearStart_succ`, `monthStart_succ` -- the day numbers of the years and the months of a year
    follow each other at the lengths of the calendar;
  * `dayNumber_march` -- the day number counted from March, where the leap day comes last;
  * `Date.in_year`, `year_unique` -- a date is within its year, a day in one only.
-/
import Mathlib.Tactic.IntervalCases

namespace Calendar

/-! ## Years and months -/

/-- The leap-year rule. -/
def IsLeap (y : Int) : Prop := y % 4 = 0 ∧ (y % 100 ≠ 0 ∨ y % 400 = 0)

instance (y : Int) : Decidable (IsLeap y) := inferInstanceAs (Decidable (_ ∧ (_ ∨ _)))

def daysInYear (y : Int) : Int := if IsLeap y then 366 else 365

def daysInMonth (y m : Int) : Int :=
  if m = 2 then if IsLeap y then 29 else 28
  else if m = 4 ∨ m = 6 ∨ m = 9 ∨ m = 11 then 30
  else 31

/-- The day number of the first of January. -/
def yearStart (y : Int) : Int :=
  365 * (y - 1970) + ((y - 1) / 4 - (y - 1) / 100 + (y - 1) / 400) - 477

example : yearStart 1970 = 0 := rfl

/-- **Years follow each other.** -/
theorem yearStart_succ (y : Int) : yearStart (y + 1) = yearStart y + daysInYear y := by
  unfold yearStart daysInYear
  by_cases h : IsLeap y
  · rw [if_pos h]
    unfold IsLeap at h
    omega
  · rw [if_neg h]
    unfold IsLeap at h
    omega

theorem yearStart_mono {y y' : Int} (h : y ≤ y') : yearStart y ≤ yearStart y' := by
  unfold yearStart
  omega

/-- The days of a year before the first of month `m`. -/
def monthStart (y : Int) : Nat → Int
  | 0 => 0
  | 1 => 0
  | m + 1 => monthStart y m + daysInMonth y m

/-- **Months follow each other.** -/
theorem monthStart_succ (y : Int) {m : Nat} (h : 1 ≤ m) :
    monthStart y (m + 1) = monthStart y m + daysInMonth y m := by
  cases m with
  | zero => cases h
  | succ m => rfl

theorem daysInMonth_pos (y m : Int) : 0 < daysInMonth y m := by
  unfold daysInMonth
  split
  · split <;> decide
  · split <;> decide

theorem daysInMonth_le (y m : Int) : daysInMonth y m ≤ 31 := by
  unfold daysInMonth
  split
  · split <;> decide
  · split <;> decide

theorem monthStart_mono (y : Int) {m m' : Nat} (h₁ : 1 ≤ m) (h : m ≤ m') :
    monthStart y m ≤ monthStart y m' := by
  induction m', h using Nat.le_induction with
  | base => exact Int.le_refl _
  | succ k hk ih =>
      have hpos := daysInMonth_pos y k
      rw [monthStart_succ y (Nat.le_trans h₁ hk)]
      omega

/-- The months in numbers: from March on, five of them have 153 days. -/
theorem monthStart_eq (y : Int) {m : Nat} (h₁ : 1 ≤ m) (h₂ : m ≤ 12) :
    monthStart y m =
      if m ≤ 2 then 31 * ((m : Int) - 1)
      else (153 * ((m : Int) - 3) + 2) / 5 + 59 + if IsLeap y then 1 else 0 := by
  induction m, h₁ using Nat.le_induction with
  | base => rfl
  | succ k hk ih =>
      rw [monthStart_succ y hk, ih (by omega)]
      unfold daysInMonth
      have hk' : k ≤ 11 := by omega
      by_cases hl : IsLeap y
      · rw [if_pos hl, if_pos hl]
        interval_cases k <;> rfl
      · rw [if_neg hl, if_neg hl]
        interval_cases k <;> rfl

/-- The twelve months are the year. -/
theorem monthStart_end (y : Int) : monthStart y 13 = daysInYear y := by
  unfold daysInYear
  by_cases h : IsLeap y
  · simp [monthStart, daysInMonth, h]
  · simp [monthStart, daysInMonth, h]

/-! ## Dates -/

structure Date where
  year : Int
  month : Nat
  day : Int
  month_valid : 1 ≤ month ∧ month ≤ 12
  day_valid : 1 ≤ day ∧ day ≤ daysInMonth year month

/-- Days since 1 January 1970. -/
def Date.dayNumber (d : Date) : Int := yearStart d.year + monthStart d.year d.month + (d.day - 1)

/-- The day number of a date by the year that starts in March: the months of such a year have the
    same lengths in every year, and its leap day comes last. -/
theorem dayNumber_march (d : Date) {y mp : Int}
    (h : (d.month ≤ 2 ∧ d.year = y + 1 ∧ (d.month : Int) = mp - 9) ∨
      (2 < d.month ∧ d.year = y ∧ (d.month : Int) = mp + 3)) :
    d.dayNumber =
      365 * y + y / 4 - y / 100 + y / 400 + (153 * mp + 2) / 5 + (d.day - 1) - 719468 := by
  obtain ⟨h₁, h₂⟩ := d.month_valid
  unfold Date.dayNumber yearStart
  rw [monthStart_eq d.year h₁ h₂]
  rcases h with ⟨hm, hy, hmp⟩ | ⟨hm, hy, hmp⟩
  · rw [if_pos hm]
    omega
  · rw [if_neg (by omega), hy, hmp]
    by_cases hl : IsLeap y
    · rw [if_pos hl]
      unfold IsLeap at hl
      omega
    · rw [if_neg hl]
      unfold IsLeap at hl
      omega

/-- **A date is within its year.** -/
theorem Date.in_year (d : Date) :
    yearStart d.year ≤ d.dayNumber ∧ d.dayNumber < yearStart (d.year + 1) := by
  obtain ⟨h₁, h₂⟩ := d.month_valid
  obtain ⟨hd₁, hd₂⟩ := d.day_valid
  have hfirst : 0 ≤ monthStart d.year d.month := monthStart_mono d.year (Nat.le_refl 1) h₁
  have hlast := monthStart_mono d.year (Nat.le_add_left 1 d.month) (Nat.succ_le_succ h₂)
  rw [monthStart_succ d.year h₁, monthStart_end] at hlast
  rw [yearStart_succ]
  unfold Date.dayNumber
  omega

/-- A day is in one year only. -/
theorem year_unique {y y' n : Int} (h : yearStart y ≤ n) (h₁ : n < yearStart (y + 1))
    (h' : yearStart y' ≤ n) (h₁' : n < yearStart (y' + 1)) : y = y' := by
  rcases Int.lt_trichotomy y y' with hlt | heq | hlt
  · have hmono : yearStart (y + 1) ≤ yearStart y' := yearStart_mono hlt
    omega
  · exact heq
  · have hmono : yearStart (y' + 1) ≤ yearStart y := yearStart_mono hlt
    omega

/-! ## Points in time -/

/-- A time of day, in seconds. -/
structure TimeOfDay where
  hour : Int
  minute : Int
  second : Int
  hour_valid : 0 ≤ hour ∧ hour < 24
  minute_valid : 0 ≤ minute ∧ minute < 60
  second_valid : 0 ≤ second ∧ second < 60

/-- Seconds since midnight. -/
def TimeOfDay.seconds (c : TimeOfDay) : Int := c.hour * 3600 + c.minute * 60 + c.second

/-- Seconds since 1 January 1970. -/
def unixSeconds (d : Date) (c : TimeOfDay) : Int := d.dayNumber * 86400 + c.seconds

/-- A timestamp is within a year. -/
def InYear (t y : Int) : Prop := yearStart y * 86400 ≤ t ∧ t < yearStart (y + 1) * 86400

/-- The year of a timestamp is that of its day. -/
theorem InYear.year_eq {t y : Int} (h : InYear t y) {d : Date} (hd : d.dayNumber = t / 86400) :
    d.year = y := by
  obtain ⟨h₀, h₁⟩ := h
  obtain ⟨hd₀, hd₁⟩ := d.in_year
  refine year_unique hd₀ hd₁ ?_ ?_
  · omega
  · omega

end Calendar
