/-
  File:      IppPrinterApp/Datetimes.lean
  Subject:   Timestamps as calendar dates (`datetime_utc`, attributes.rs).

  The source cuts the day number into eras of 400 years, the day of the era into years, and the
  day of the year into months, each by one truncating division, in years that start in March. The
  proof cuts along the calendar instead: an era into centuries of 36524 days, a century into
  four-year spans of 1461 days, a span into years (`SplitDay`), and shows that the source's
  formulas find the same pieces.

  * `yearOfEra_eq` -- the year of the era;
  * `civil_valid` -- month and day are those of a valid date, with the day number put in;
  * `datetime_utc_roundtrip`: **every timestamp of the years 0 to 65535 becomes a valid date and
    time of day, which stand for that timestamp**.
-/
import IppPrinterApp.Attributes
import IppPrinterApp.Lib.Calendar

namespace IppPrinterApp

open Calendar

/-! ## 1. The era -/

/-- The era of a day: the source's case distinction is the division that rounds down. -/
theorem era_eq (z : Int) : (if z ≥ 0 then z else z - 146096).tdiv 146097 = z / 146097 := by
  by_cases h : z ≥ 0
  · rw [if_pos h, Int.tdiv_eq_ediv_of_nonneg h]
  · have e : z - 146096 = -(146096 - z) := by omega
    rw [if_neg h, e, Int.neg_tdiv, Int.tdiv_eq_ediv_of_nonneg (by omega)]
    omega

/-- **A day of the era along the calendar**: its century, the four-year span in it, the year in
    that, and the day. A last day of a year of 366 days is the last of a span, and of the last
    span of a century only in the last century. -/
structure SplitDay (doe : Int) where
  century : Int
  span : Int
  year : Int
  day : Int
  century_valid : 0 ≤ century ∧ century ≤ 3
  span_valid : 0 ≤ span ∧ span ≤ 24
  year_valid : 0 ≤ year ∧ year ≤ 3
  day_valid : 0 ≤ day ∧ day ≤ 365
  leap : day = 365 → year = 3 ∧ (span = 24 → century = 3)
  sum : doe = 36524 * century + 1461 * span + 365 * year + day

namespace SplitDay

variable {doe : Int}

/-- Years since the start of the era. -/
def years (s : SplitDay doe) : Int := 100 * s.century + 4 * s.span + s.year

/-- Every day of the era is split. -/
theorem exists_split (h₀ : 0 ≤ doe) (h₁ : doe < 146097) : Nonempty (SplitDay doe) := by
  -- the last century and the last year of a span are a day longer
  obtain ⟨c, r, hr, hc, hr₀, hr₁⟩ : ∃ c r, doe = 36524 * c + r ∧ (0 ≤ c ∧ c ≤ 3) ∧
      (0 ≤ r ∧ r ≤ 36524) ∧ (r = 36524 → c = 3) :=
    ⟨min (doe / 36524) 3, doe - 36524 * min (doe / 36524) 3, by omega, by omega, by omega, by omega⟩
  obtain ⟨q, s, hs, hq, hs₀, hs₁⟩ : ∃ q s, r = 1461 * q + s ∧ (0 ≤ q ∧ q ≤ 24) ∧
      (0 ≤ s ∧ s ≤ 1460) ∧ (s = 1460 → q = 24 → c = 3) :=
    ⟨r / 1461, r % 1461, by omega, by omega, by omega, by omega⟩
  exact ⟨{
    century := c
    span := q
    year := min (s / 365) 3
    day := s - 365 * min (s / 365) 3
    century_valid := hc
    span_valid := hq
    year_valid := by omega
    day_valid := by omega
    leap := by omega
    sum := by omega }⟩

/-- **The source's year of the era** is that of the split. -/
theorem yearOfEra_eq (s : SplitDay doe) :
    (doe - doe / 1460 + doe / 36524 - doe / 146096) / 365 = s.years := by
  obtain ⟨c, q, y, d, hc, hq, hy, hd, hleap, hsum⟩ := s
  -- only the last day of the era lies past four plain centuries
  have hrange : (36524 * c ≤ doe ∧ doe < 36524 * c + 36524) ∨ (c = 3 ∧ doe = 146096) := by omega
  have hcentury : doe / 36524 - doe / 146096 = c := by
    rcases hrange with ⟨hlo, hhi⟩ | ⟨rfl, rfl⟩
    · have hno : doe / 146096 = 0 := by omega
      omega
    · decide
  have hspan : doe / 1460 = 25 * c + q + (24 * c + q + (365 * y + d)) / 1460 := by omega
  unfold years
  dsimp only
  omega

/-- The source's day of the year is that of the split. -/
theorem dayOfYear_eq (s : SplitDay doe) :
    doe - (365 * s.years + s.years / 4 - s.years / 100) = s.day := by
  obtain ⟨c, q, y, d, hc, hq, hy, hd, hleap, hsum⟩ := s
  unfold years
  dsimp only
  omega

end SplitDay

/-! ## 2. The date -/

section Civil

variable {doe : Int}

/-- The month of a year's day, counted from March. -/
def marchMonth (doy : Int) : Int := (5 * doy + 2) / 153

/-- The source's month, day and year of a day of the year. -/
def civilMonth (doy : Int) : Int :=
  if marchMonth doy < 10 then marchMonth doy + 3 else marchMonth doy - 9

def civilDay (doy : Int) : Int := doy - (153 * marchMonth doy + 2) / 5 + 1

def civilYear (year doy : Int) : Int := if civilMonth doy ≤ 2 then year + 1 else year

theorem marchMonth_bounds {doy : Int} (h : 0 ≤ doy ∧ doy ≤ 365) :
    0 ≤ marchMonth doy ∧ marchMonth doy ≤ 11 := by
  unfold marchMonth
  omega

/-- The month is one of twelve. -/
theorem civilMonth_valid {doy : Int} (h : 0 ≤ doy ∧ doy ≤ 365) :
    1 ≤ civilMonth doy ∧ civilMonth doy ≤ 12 := by
  have hmp := marchMonth_bounds h
  unfold civilMonth
  omega

/-- **The day is one of the month's**: 29 February comes in leap years only. -/
theorem civilDay_valid (s : SplitDay doe) (era : Int) :
    1 ≤ civilDay s.day ∧
      civilDay s.day ≤ daysInMonth (civilYear (s.years + era * 400) s.day) (civilMonth s.day) := by
  have hmp := marchMonth_bounds s.day_valid
  obtain ⟨c, q, y, d, hc, hq, hy, hd, hleap, hsum⟩ := s
  unfold civilDay civilYear civilMonth SplitDay.years daysInMonth IsLeap
  dsimp only at hmp ⊢
  obtain ⟨h₀, h₁⟩ := hmp
  have hdef : marchMonth d = (5 * d + 2) / 153 := rfl
  generalize marchMonth d = mp at hdef h₀ h₁ ⊢
  interval_cases mp <;> simp <;> omega

/-- **The day number is put in**: whatever date has the source's year, month and day. -/
theorem civil_dayNumber (s : SplitDay doe) (era : Int) (d : Date)
    (hy : d.year = civilYear (s.years + era * 400) s.day) (hm : (d.month : Int) = civilMonth s.day)
    (hd : d.day = civilDay s.day) : d.dayNumber = era * 146097 + doe - 719468 := by
  have hdoy := s.dayOfYear_eq
  have hmp := marchMonth_bounds s.day_valid
  have hyears : 0 ≤ s.years ∧ s.years < 400 := by
    obtain ⟨c, q, y, d, hc, hq, hy, _⟩ := s
    unfold SplitDay.years
    dsimp only
    omega
  -- January and February belong to the March year before
  have hcase : (d.month ≤ 2 ∧ d.year = s.years + era * 400 + 1 ∧
        (d.month : Int) = marchMonth s.day - 9) ∨
      (2 < d.month ∧ d.year = s.years + era * 400 ∧ (d.month : Int) = marchMonth s.day + 3) := by
    unfold civilYear at hy
    unfold civilMonth at hy hm
    omega
  rw [dayNumber_march d hcase, hd]
  unfold civilDay
  omega

end Civil

/-! ## 3. The value -/

/-- A date and a time of day as an IPP `dateTime`, in UTC. -/
def dateTimeValue (d : Date) (c : TimeOfDay) : IppValue :=
  .dateTime d.year d.month d.day c.hour c.minute c.second 0 '+' 0 0

/-- The fields of `datetime_utc`, the divisions rounding down. -/
theorem datetimeUtc_eq (t : Int) (s : SplitDay ((t / 86400 + 719468) % 146097)) :
    datetimeUtc t =
      .dateTime (civilYear (s.years + (t / 86400 + 719468) / 146097 * 400) s.day % 2 ^ 16)
        (civilMonth s.day % 2 ^ 8) (civilDay s.day % 2 ^ 8)
        (t % 86400 / 3600 % 2 ^ 8) (t % 86400 % 3600 / 60 % 2 ^ 8) (t % 86400 % 60 % 2 ^ 8)
        0 '+' 0 0 := by
  have hday := s.day_valid
  have hmp := marchMonth_bounds hday
  have hyears : 0 ≤ s.years := by
    have hc := s.century_valid
    have hq := s.span_valid
    have hy := s.year_valid
    unfold SplitDay.years
    omega
  have hdoe : ∀ z : Int, z - z / 146097 * 146097 = z % 146097 := fun z => by omega
  have hrem : 0 ≤ t % 86400 := by omega
  unfold datetimeUtc
  dsimp only
  rw [era_eq, hdoe]
  generalize t / 86400 + 719468 = z at s hday hmp hyears ⊢
  have hpos : 0 ≤ z % 146097 := by omega
  have hyoe := s.yearOfEra_eq
  have hdoy := s.dayOfYear_eq
  have hnum : 0 ≤ z % 146097 - z % 146097 / 1460 + z % 146097 / 36524 - z % 146097 / 146096 := by
    omega
  rw [Int.tdiv_eq_ediv_of_nonneg hpos, Int.tdiv_eq_ediv_of_nonneg hpos,
    Int.tdiv_eq_ediv_of_nonneg hpos, Int.tdiv_eq_ediv_of_nonneg hnum, hyoe,
    Int.tdiv_eq_ediv_of_nonneg hyears, Int.tdiv_eq_ediv_of_nonneg hyears, hdoy,
    Int.tdiv_eq_ediv_of_nonneg (by omega), Int.tdiv_eq_ediv_of_nonneg (by omega),
    Int.tdiv_eq_ediv_of_nonneg hrem, Int.tmod_eq_emod_of_nonneg hrem,
    Int.tmod_eq_emod_of_nonneg hrem, Int.tdiv_eq_ediv_of_nonneg (by omega)]
  rfl

/-- The time of day of a timestamp. -/
def timeOfDay (t : Int) : TimeOfDay where
  hour := t % 86400 / 3600
  minute := t % 86400 % 3600 / 60
  second := t % 86400 % 60
  hour_valid := by omega
  minute_valid := by omega
  second_valid := by omega

theorem timeOfDay_seconds (t : Int) : (timeOfDay t).seconds = t % 86400 := by
  unfold timeOfDay TimeOfDay.seconds
  dsimp only
  omega

/-- **`datetime_utc` and the calendar**: for a timestamp of a year that fits the `u16` field, the
    value is a valid date, in that year, with a valid time of day, and they stand for that very
    timestamp. -/
theorem datetime_utc_roundtrip {t y : Int} (hy : InYear t y) (h₀ : 0 ≤ y) (h₁ : y < 2 ^ 16) :
    ∃ (d : Date) (c : TimeOfDay),
      datetimeUtc t = dateTimeValue d c ∧ unixSeconds d c = t ∧ d.year = y := by
  obtain ⟨s⟩ : Nonempty (SplitDay ((t / 86400 + 719468) % 146097)) :=
    SplitDay.exists_split (by omega) (by omega)
  generalize hera : (t / 86400 + 719468) / 146097 = era
  have hmonth := civilMonth_valid s.day_valid
  have hday := civilDay_valid s era
  have hcast : ((civilMonth s.day).toNat : Int) = civilMonth s.day :=
    Int.toNat_of_nonneg (by omega)
  let d : Date := {
    year := civilYear (s.years + era * 400) s.day
    month := (civilMonth s.day).toNat
    day := civilDay s.day
    month_valid := by omega
    day_valid := by rw [hcast]; exact hday }
  have hnumber : d.dayNumber = t / 86400 := by
    rw [civil_dayNumber s era d rfl hcast rfl, ← hera]
    omega
  have hyear : civilYear (s.years + era * 400) s.day = y := hy.year_eq hnumber
  refine ⟨d, timeOfDay t, ?_, ?_, hyear⟩
  · have hlong : daysInMonth (civilYear (s.years + era * 400) s.day) (civilMonth s.day) ≤ 31 :=
      daysInMonth_le _ _
    -- every field fits its machine integer
    have eyear : civilYear (s.years + era * 400) s.day % 2 ^ 16 =
        civilYear (s.years + era * 400) s.day := Int.emod_eq_of_lt (by omega) (by omega)
    have emonth : civilMonth s.day % 2 ^ 8 = civilMonth s.day :=
      Int.emod_eq_of_lt (by omega) (by omega)
    have eday : civilDay s.day % 2 ^ 8 = civilDay s.day := Int.emod_eq_of_lt (by omega) (by omega)
    have ehour : t % 86400 / 3600 % 2 ^ 8 = t % 86400 / 3600 :=
      Int.emod_eq_of_lt (by omega) (by omega)
    have eminute : t % 86400 % 3600 / 60 % 2 ^ 8 = t % 86400 % 3600 / 60 :=
      Int.emod_eq_of_lt (by omega) (by omega)
    have esecond : t % 86400 % 60 % 2 ^ 8 = t % 86400 % 60 :=
      Int.emod_eq_of_lt (by omega) (by omega)
    rw [datetimeUtc_eq t s, hera, eyear, emonth, eday, ehour, eminute, esecond]
    unfold dateTimeValue
    dsimp only [d]
    rw [hcast]
    rfl
  · unfold unixSeconds
    rw [hnumber, timeOfDay_seconds]
    omega

/-- 29 February 2000. -/
theorem datetime_utc_roundtrip_leap :
    ∃ (d : Date) (c : TimeOfDay),
      datetimeUtc 951782400 = dateTimeValue d c ∧ unixSeconds d c = 951782400 ∧ d.year = 2000 :=
  datetime_utc_roundtrip ⟨by decide, by decide⟩ (by decide) (by decide)

/-- The first second of the year 0. -/
example : datetimeUtc (-62167219200) = .dateTime 0 1 1 0 0 0 0 '+' 0 0 := rfl

end IppPrinterApp
