import SessionLedger.Instant.Calendar
import Mathlib.Tactic.Common

/-!
# Days and their numbers

The date of a number is a day of the calendar, and that day has the number: no day is lost between
the two, over all the years there are.

A number is cut into a cycle of 400 years and a place in it. In a cycle that begins in March, every
century has 36524 days but the last, which has one more; every span of four years has 1461 days but
the last of a century, which lacks one except in the last century; and every year has 365 days but
the last of a span. So a place is a century, a span, a year and a day, and day 365 is there in few
years only. The divisions of `dateOf` are read off a place one by one.

## Main definitions

* `Calendar.CyclePlace` — a day in a cycle of 400 years
* `Calendar.marchDate` — the date of a day in a year that begins in March

## Main results

* `Calendar.dateOf_eq` — the date of a place in a cycle
* `Calendar.dayNumber_dateOf` — the date of a number has that number
* `Calendar.valid_dateOf` — the date of a number names a day
* `Calendar.year_dateOf` — the year of a date, up to its cycle
-/

namespace SessionLedger

namespace Calendar

/-- No month has more than 31 days. -/
theorem daysInMonth_le (year : Int) (month : Nat) : daysInMonth year month ≤ 31 := by
  unfold daysInMonth
  split
  · split <;> decide
  · decide
  · decide
  · decide
  · decide
  · decide

/-! ### Places in a cycle -/

/-- A day in a cycle of 400 years that begin in March. -/
structure CyclePlace where
  century : Int
  /-- The span of four years in the century. -/
  span : Int
  /-- The year in the span. -/
  year : Int
  /-- The day in the year. -/
  day : Int
  century_mem : 0 ≤ century ∧ century ≤ 3
  span_mem : 0 ≤ span ∧ span ≤ 24
  year_mem : 0 ≤ year ∧ year ≤ 3
  day_mem : 0 ≤ day ∧ day ≤ 365
  /-- The last day is there in the last year of a span only, and in the last span of the last
  century only. -/
  leap : day = 365 → year = 3 ∧ (span < 24 ∨ century = 3)

namespace CyclePlace

variable (p : CyclePlace)

/-- The year in the cycle. -/
def yearOfEra : Int := 100 * p.century + 4 * p.span + p.year

/-- The days of the cycle before the place. -/
def dayOfEra : Int := 36524 * p.century + 1461 * p.span + 365 * p.year + p.day

theorem yearOfEra_mem : 0 ≤ p.yearOfEra ∧ p.yearOfEra < 400 := by
  obtain ⟨c, q, r, d, _, _, _, _, _⟩ := p
  simp only [yearOfEra]
  omega

theorem dayOfEra_mem : 0 ≤ p.dayOfEra ∧ p.dayOfEra < 146097 := by
  obtain ⟨c, q, r, d, _, _, _, _, _⟩ := p
  simp only [dayOfEra]
  omega

/-- The days of a cycle before a year of it. -/
theorem yearStart :
    365 * p.yearOfEra + p.yearOfEra / 4 - p.yearOfEra / 100 = p.dayOfEra - p.day := by
  obtain ⟨c, q, r, d, _, _, _, _, _⟩ := p
  have hspans : (100 * c + 4 * q + r) / 4 = 25 * c + q := by omega
  have hcenturies : (100 * c + 4 * q + r) / 100 = c := by omega
  simp only [yearOfEra, dayOfEra, hspans, hcenturies]
  omega

/-- Every day of a cycle has a place. -/
theorem exists_dayOfEra_eq {n : Int} (hlow : 0 ≤ n) (hhigh : n < 146097) :
    ∃ p : CyclePlace, p.dayOfEra = n := by
  -- the last century and the last year of a span take the day that is left over
  obtain ⟨c, hc⟩ : ∃ c, c = min (n / 36524) 3 := ⟨_, rfl⟩
  obtain ⟨m, hm⟩ : ∃ m, m = n - 36524 * c := ⟨_, rfl⟩
  have hcentury : 0 ≤ c ∧ c ≤ 3 := by omega
  have hrest : 0 ≤ m ∧ m ≤ 36524 ∧ (c < 3 → m < 36524) := by omega
  obtain ⟨q, hq⟩ : ∃ q, q = m / 1461 := ⟨_, rfl⟩
  obtain ⟨k, hk⟩ : ∃ k, k = m - 1461 * q := ⟨_, rfl⟩
  have hspan : 0 ≤ q ∧ q ≤ 24 := by omega
  have hinner : 0 ≤ k ∧ k ≤ 1460 ∧ (q = 24 → c < 3 → k < 1460) := by omega
  obtain ⟨r, hr⟩ : ∃ r, r = min (k / 365) 3 := ⟨_, rfl⟩
  have hyear : 0 ≤ r ∧ r ≤ 3 := by omega
  have hday : 0 ≤ k - 365 * r ∧ k - 365 * r ≤ 365 := by omega
  refine ⟨⟨c, q, r, k - 365 * r, hcentury, hspan, hyear, hday, fun hlast => ?_⟩, ?_⟩
  · omega
  · simp only [dayOfEra]
    omega

/-- The year of a day of the cycle, by the divisions that make every year one of 365 days. -/
theorem yearOfEra_eq :
    (p.dayOfEra - p.dayOfEra / 1460 + p.dayOfEra / 36524 - p.dayOfEra / 146096) / 365 =
      p.yearOfEra := by
  obtain ⟨c, q, r, d, hc, hq, hr, hd, hleap⟩ := p
  simp only [dayOfEra, yearOfEra]
  obtain ⟨n, hn⟩ : ∃ n, n = 36524 * c + 1461 * q + 365 * r + d := ⟨_, rfl⟩
  rw [← hn]
  -- only the very last day of a cycle is day 36524 of a century
  have hrest : 1461 * q + 365 * r + d < 36524 ∨ c = 3 ∧ 1461 * q + 365 * r + d = 36524 := by omega
  have hcenturies : n / 36524 - n / 146096 = c := by
    rcases hrest with h | ⟨rfl, h⟩
    · have hlast : n / 146096 = 0 := by omega
      omega
    · have hn : n = 146096 := by omega
      rw [hn]
      decide
  have hspans : n / 1460 = 25 * c + q ∨ n / 1460 = 25 * c + q + 1 := by omega
  omega

end CyclePlace

/-! ### Days of a year that begins in March -/

/-- The date of a day in a year that begins in March. -/
def marchDate (year day : Int) : Date :=
  let month := (5 * day + 2) / 153
  ⟨if month < 10 then year else year + 1,
    (if month < 10 then month + 3 else month - 9).toNat,
    (day - (153 * month + 2) / 5 + 1).toNat⟩

/-- A year of a cycle, split again into the cycle and the year in it. -/
theorem fdiv_year (era : Int) (p : CyclePlace) : (p.yearOfEra + era * 400).fdiv 400 = era := by
  obtain ⟨hlow, hhigh⟩ := p.yearOfEra_mem
  rw [Int.fdiv_eq_ediv_of_nonneg _ (by omega)]
  omega

/-- The date of a place in a cycle. -/
theorem dateOf_eq (era : Int) (p : CyclePlace) :
    dateOf (era * 146097 + p.dayOfEra - 719468) = marchDate (p.yearOfEra + era * 400) p.day := by
  obtain ⟨hlow, hhigh⟩ := p.dayOfEra_mem
  have hshift : era * 146097 + p.dayOfEra - 719468 + 719468 = era * 146097 + p.dayOfEra := by omega
  have hera : (era * 146097 + p.dayOfEra).fdiv 146097 = era := by
    rw [Int.fdiv_eq_ediv_of_nonneg _ (by omega)]
    omega
  have hrest : era * 146097 + p.dayOfEra - era * 146097 = p.dayOfEra := by omega
  have hday : p.dayOfEra - (365 * p.yearOfEra + p.yearOfEra / 4 - p.yearOfEra / 100) = p.day := by
    have := p.yearStart
    omega
  simp only [dateOf, hshift, hera, hrest, p.yearOfEra_eq, hday, marchDate]
  obtain ⟨hzero, hlast⟩ := p.day_mem
  by_cases hm : (5 * p.day + 2) / 153 < 10
  · have hmonth : ¬ (5 * p.day + 2) / 153 + 3 ≤ 2 := by omega
    simp only [if_pos hm, if_neg hmonth]
  · have hmonth : (5 * p.day + 2) / 153 - 9 ≤ 2 := by omega
    simp only [if_neg hm, if_pos hmonth]

/-- A day of a year that begins in March has the number of its place. -/
theorem dayNumber_marchDate (era : Int) (p : CyclePlace) :
    dayNumber (marchDate (p.yearOfEra + era * 400) p.day) =
      era * 146097 + p.dayOfEra - 719468 := by
  obtain ⟨hzero, hlast⟩ := p.day_mem
  have hstart := p.yearStart
  obtain ⟨m, hm⟩ : ∃ m, m = (5 * p.day + 2) / 153 := ⟨_, rfl⟩
  have hday : (153 * m + 2) / 5 + ((p.day - (153 * m + 2) / 5 + 1).toNat : Int) - 1 = p.day := by
    omega
  have hyear : p.yearOfEra + era * 400 - era * 400 = p.yearOfEra := by omega
  by_cases hlt : m < 10
  · have hmonth : ¬ (m + 3).toNat ≤ 2 := by omega
    have hback : ((((m + 3).toNat + 9) % 12 : Nat) : Int) = m := by omega
    simp only [dayNumber, marchDate, ← hm, if_pos hlt, if_neg hmonth, hback, hday, fdiv_year, hyear]
    omega
  · have hmonth : (m - 9).toNat ≤ 2 := by omega
    have hback : ((((m - 9).toNat + 9) % 12 : Nat) : Int) = m := by omega
    have hnext : p.yearOfEra + era * 400 + 1 - 1 = p.yearOfEra + era * 400 := by omega
    simp only [dayNumber, marchDate, ← hm, if_neg hlt, if_pos hmonth, hback, hday, hnext, fdiv_year,
      hyear]
    omega

/-- The year after one with a last day is a leap year. -/
theorem isLeapYear_of_day_eq (era : Int) (p : CyclePlace) (h : p.day = 365) :
    isLeapYear (p.yearOfEra + era * 400 + 1) = true := by
  obtain ⟨c, q, r, d, _, _, _, _, hleap⟩ := p
  obtain ⟨rfl, hspan⟩ := hleap h
  have hfour : (100 * c + 4 * q + 3 + era * 400 + 1) % 4 = 0 := by omega
  have hhundred : (100 * c + 4 * q + 3 + era * 400 + 1) % 100 ≠ 0 ∨
      (100 * c + 4 * q + 3 + era * 400 + 1) % 400 = 0 := by omega
  simpa [isLeapYear, CyclePlace.yearOfEra, hfour] using hhundred

/-- The last month of such a year, February, takes the days that are left over. -/
theorem february_le (era : Int) (p : CyclePlace) (hfeb : 11 = (5 * p.day + 2) / 153) :
    (p.day - 337 + 1).toNat ≤ daysInMonth (p.yearOfEra + era * 400 + 1) 2 := by
  obtain ⟨hzero, hlast⟩ := p.day_mem
  simp only [daysInMonth]
  by_cases hleap : p.day = 365
  · rw [if_pos (isLeapYear_of_day_eq era p hleap)]
    omega
  · split <;> omega

/-- The date of a place names a day. -/
theorem valid_marchDate (era : Int) (p : CyclePlace) :
    Valid (marchDate (p.yearOfEra + era * 400) p.day) := by
  obtain ⟨hzero, hlast⟩ := p.day_mem
  have hfeb := february_le era p
  obtain ⟨m, hm⟩ : ∃ m, m = (5 * p.day + 2) / 153 := ⟨_, rfl⟩
  have hcases : m = 0 ∨ m = 1 ∨ m = 2 ∨ m = 3 ∨ m = 4 ∨ m = 5 ∨ m = 6 ∨ m = 7 ∨ m = 8 ∨ m = 9 ∨
      m = 10 ∨ m = 11 := by omega
  simp only [Valid, marchDate, ← hm] at hfeb ⊢
  -- in every month but February the days are those of a fixed table
  rcases hcases with rfl | rfl | rfl | rfl | rfl | rfl | rfl | rfl | rfl | rfl | rfl | rfl
  case inr.inr.inr.inr.inr.inr.inr.inr.inr.inr.inr =>
    exact ⟨by decide, by decide, by omega, hfeb rfl⟩
  all_goals
    simp [daysInMonth]
    omega

/-! ### The date of a number -/

/-- Every number is that of a place in a cycle. -/
theorem exists_place (n : Int) :
    ∃ (era : Int) (p : CyclePlace), n = era * 146097 + p.dayOfEra - 719468 := by
  obtain ⟨p, hp⟩ := CyclePlace.exists_dayOfEra_eq (n := (n + 719468) % 146097) (by omega) (by omega)
  exact ⟨(n + 719468) / 146097, p, by omega⟩

/-- **The date of a number has that number.** -/
theorem dayNumber_dateOf (n : Int) : dayNumber (dateOf n) = n := by
  obtain ⟨era, p, rfl⟩ := exists_place n
  rw [dateOf_eq, dayNumber_marchDate]

example : dateOf 0 = ⟨1970, 1, 1⟩ ∧ dayNumber ⟨1970, 1, 1⟩ = 0 := by decide

/-- **The date of a number names a day.** -/
theorem valid_dateOf (n : Int) : Valid (dateOf n) := by
  obtain ⟨era, p, rfl⟩ := exists_place n
  rw [dateOf_eq]
  exact valid_marchDate era p

example : dateOf 11016 = ⟨2000, 2, 29⟩ := by decide

/-- The year of a date, up to the cycle of 400 years that it lies in. -/
theorem year_dateOf (n : Int) :
    400 * ((n + 719468) / 146097) ≤ (dateOf n).year ∧
      (dateOf n).year ≤ 400 * ((n + 719468) / 146097) + 400 := by
  obtain ⟨era, p, rfl⟩ := exists_place n
  obtain ⟨hlow, hhigh⟩ := p.dayOfEra_mem
  obtain ⟨hzero, hlast⟩ := p.yearOfEra_mem
  rw [dateOf_eq]
  simp only [marchDate]
  split <;> omega

end Calendar

end SessionLedger
