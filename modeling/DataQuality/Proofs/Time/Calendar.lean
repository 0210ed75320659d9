import DataQuality.Time.Calendar
/-!
# The calendar — days and dates are the same

A day lies in one year of its era and in one month of that year, and the date
that is counted out for it exists and is counted back to it
(`toDays_ofDays`, `exists?_ofDays`). Years begin in March here, so that a leap
day is the last day of its year: the 366th day of a year is there only where
the year that follows in the calendar has a 29th of February
(`yearOfEra_spec`).
-/

namespace DataQuality

namespace Time

variable {day : Int}

/-! ## Years of an era -/

/-- The days of an era before one of its years. -/
def daysBefore (year : Int) : Int := 365 * year + year / 4 - year / 100

/-- The year of an era in which one of its days lies. -/
def yearOfEra (day : Int) : Int := (day - day / 1460 + day / 36524 - day / 146096) / 365

/-- A day of an era lies in one of four centuries, of which the last is a day
longer than the others. -/
theorem exists_century (hlow : 0 ≤ day) (hhigh : day < 146097) :
    ∃ century, day / 36524 - day / 146096 = century ∧ 0 ≤ century ∧ century ≤ 3 ∧
      36524 * century ≤ day ∧ day ≤ 36524 * century + 36524 ∧
      (day = 36524 * century + 36524 → century = 3) := by
  refine ⟨_, rfl, ?_⟩
  omega

/-- **A day lies in its year**: not before its first day, and not after its
366th, which only leap years have. -/
theorem yearOfEra_spec (hlow : 0 ≤ day) (hhigh : day < 146097) :
    0 ≤ yearOfEra day ∧ yearOfEra day ≤ 399 ∧ daysBefore (yearOfEra day) ≤ day ∧
      day ≤ daysBefore (yearOfEra day) + 365 ∧
      (day = daysBefore (yearOfEra day) + 365 → yearOfEra day % 4 = 3 ∧
        (yearOfEra day % 100 = 99 → yearOfEra day = 399)) := by
  obtain ⟨century, hcentury, hfirst, hlast, hfrom, hto, hlong⟩ := exists_century hlow hhigh
  have hyear : yearOfEra day = (day - day / 1460 + century) / 365 := by
    rw [yearOfEra, ← hcentury]
    congr 1
    omega
  have hleaps : 25 * century ≤ day / 1460 := by omega
  generalize yearOfEra day = year at hyear ⊢
  generalize hfours : day / 1460 = fours at hyear hleaps
  -- A group of four years and a century each set the count of leap days off by one at most.
  have hbelow : year / 4 ≤ fours := by omega
  have habove : fours ≤ year / 4 + 1 := by omega
  have hhundreds : year / 100 = century := by omega
  rw [daysBefore, hhundreds]
  refine ⟨by omega, by omega, by omega, by omega, fun hleap => ⟨by omega, fun hninety => by omega⟩⟩

/-! ## Months of a year -/

/-- The days of a year before one of its months. -/
def daysBeforeMonth (month : Int) : Int := (153 * month + 2) / 5

/-- The month of a year in which one of its days lies. -/
def monthOfYear (dayOfYear : Int) : Int := (5 * dayOfYear + 2) / 153

/-- How many days a month of a year has at most. The last one is February. -/
def longestMonth (month : Int) : Int :=
  if month = 11 then 29 else daysBeforeMonth (month + 1) - daysBeforeMonth month

/-- **A day lies in its month.** -/
theorem monthOfYear_spec (dayOfYear : Int) (hlow : 0 ≤ dayOfYear) (hhigh : dayOfYear ≤ 365) :
    0 ≤ monthOfYear dayOfYear ∧ monthOfYear dayOfYear ≤ 11 ∧
      daysBeforeMonth (monthOfYear dayOfYear) ≤ dayOfYear ∧
      dayOfYear <
        daysBeforeMonth (monthOfYear dayOfYear) + longestMonth (monthOfYear dayOfYear) := by
  have hmonth : monthOfYear dayOfYear = (5 * dayOfYear + 2) / 153 := rfl
  generalize monthOfYear dayOfYear = month at hmonth ⊢
  rw [longestMonth]
  simp only [daysBeforeMonth]
  by_cases hfebruary : month = 11
  · rw [if_pos hfebruary]
    omega
  · rw [if_neg hfebruary]
    omega

/-! ## Dates -/

/-- What a date is counted out of: the era, the year in it, the month and the
day of the month, with years beginning in March. -/
structure DateParts where
  era : Int
  year : Int
  month : Int
  day : Int

namespace DateParts

/-- The parts of a day. -/
def ofDays (days : Int) : DateParts :=
  let day := (days + 719468) % 146097
  let dayOfYear := day - daysBefore (yearOfEra day)
  let month := monthOfYear dayOfYear
  ⟨(days + 719468) / 146097, yearOfEra day, month, dayOfYear - daysBeforeMonth month + 1⟩

/-- The date of the parts. January and February belong to the next year of the
calendar. -/
def date (p : DateParts) : Date :=
  if p.month < 10 then ⟨p.year + p.era * 400, (p.month + 3).toNat, p.day.toNat⟩
  else ⟨p.year + p.era * 400 + 1, (p.month - 9).toNat, p.day.toNat⟩

/-- The parts are those of a day. Only in leap years February, which is the
last month, has a day more than 28. -/
structure Tells (p : DateParts) (days : Int) : Prop where
  year_nonneg : 0 ≤ p.year
  year_le : p.year ≤ 399
  month_nonneg : 0 ≤ p.month
  month_le : p.month ≤ 11
  day_pos : 1 ≤ p.day
  day_le : p.day ≤ longestMonth p.month
  days_eq : days + 719468 =
    p.era * 146097 + daysBefore p.year + daysBeforeMonth p.month + (p.day - 1)
  leap : p.month = 11 → p.day = 29 → p.year % 4 = 3 ∧ (p.year % 100 = 99 → p.year = 399)

/-- **Every day is told by its parts.** -/
theorem tells_ofDays (days : Int) : (ofDays days).Tells days := by
  have hlow : 0 ≤ (days + 719468) % 146097 := Int.emod_nonneg _ (by decide)
  have hhigh : (days + 719468) % 146097 < 146097 := Int.emod_lt_of_pos _ (by decide)
  have hdays := Int.mul_ediv_add_emod (days + 719468) 146097
  obtain ⟨hyear, hyears, hbegun, hends, hleap⟩ := yearOfEra_spec hlow hhigh
  rw [ofDays]
  generalize (days + 719468) % 146097 = day at hdays hyear hyears hbegun hends hleap ⊢
  generalize yearOfEra day = year at hyear hyears hbegun hends hleap ⊢
  obtain ⟨hmonth, hmonths, hin, hbefore⟩ :=
    monthOfYear_spec (day - daysBefore year) (by omega) (by omega)
  constructor <;> dsimp only
  case leap =>
    intro hfebruary hlast
    rw [hfebruary] at hlast
    simp only [daysBeforeMonth] at hlast
    exact hleap (by omega)
  all_goals omega

end DateParts

namespace Date

variable {days : Int}

theorem ofDays_eq (days : Int) : ofDays days = (DateParts.ofDays days).date := rfl

/-- **The date of a day is counted back to the day.** -/
theorem toDays_ofDays (days : Int) : (ofDays days).toDays = days := by
  have h := DateParts.tells_ofDays days
  rw [ofDays_eq]
  generalize DateParts.ofDays days = p at h ⊢
  obtain ⟨hyear, hyears, hmonth, hmonths, hday, -, hdays, -⟩ := h
  simp only [daysBefore, daysBeforeMonth] at hdays
  rw [DateParts.date]
  split <;> simp only [toDays]
  · rw [if_neg (by omega)]
    omega
  · rw [if_pos (by omega)]
    omega

/-- A month but February is as long in every year. -/
theorem longestMonth_le {month : Int} (hmonth : 0 ≤ month) (hmonths : month ≤ 10) (year : Int) :
    longestMonth month ≤ daysInMonth year (if month < 10 then month + 3 else month - 9).toNat := by
  have hcases : month = 0 ∨ month = 1 ∨ month = 2 ∨ month = 3 ∨ month = 4 ∨ month = 5 ∨
      month = 6 ∨ month = 7 ∨ month = 8 ∨ month = 9 ∨ month = 10 := by omega
  rcases hcases with rfl | rfl | rfl | rfl | rfl | rfl | rfl | rfl | rfl | rfl | rfl <;>
    simp [longestMonth, daysBeforeMonth, daysInMonth]

theorem exists?_iff {d : Date} :
    d.exists? = true ↔ 1 ≤ d.day ∧ d.day ≤ daysInMonth d.year d.month := by
  rw [exists?, Bool.and_eq_true, decide_eq_true_eq, decide_eq_true_eq]

/-- A date that exists is in one of twelve months of at most 31 days. -/
theorem le_of_exists? {d : Date} (h : d.exists? = true) : d.month ≤ 12 ∧ d.day ≤ 31 := by
  obtain ⟨hpos, hle⟩ := exists?_iff.mp h
  have hfebruary : (if isLeapYear d.year then 29 else 28) ≤ 31 := by split <;> decide
  unfold daysInMonth at hle
  split at hle <;> omega

/-- **The date of a day exists.** -/
theorem exists?_ofDays (days : Int) : (ofDays days).exists? = true := by
  have h := DateParts.tells_ofDays days
  rw [ofDays_eq]
  generalize DateParts.ofDays days = p at h ⊢
  obtain ⟨hyear, hyears, hmonth, hmonths, hday, hlongest, -, hleap⟩ := h
  rw [exists?_iff]
  rcases Int.lt_or_le p.month 11 with hother | hfebruary
  · have hle := longestMonth_le hmonth (by omega)
    rw [DateParts.date]
    split
    · rename_i hspring
      have hle := hle (p.year + p.era * 400)
      rw [if_pos hspring] at hle
      dsimp only
      omega
    · rename_i hjanuary
      have hle := hle (p.year + p.era * 400 + 1)
      rw [if_neg hjanuary] at hle
      dsimp only
      omega
  · have hlast : p.month = 11 := by omega
    rw [DateParts.date, if_neg (by omega), hlast]
    rw [hlast, longestMonth, if_pos rfl] at hlongest
    change 1 ≤ p.day.toNat ∧ p.day.toNat ≤
      if isLeapYear (p.year + p.era * 400 + 1) then 29 else 28
    refine ⟨by omega, ?_⟩
    split
    · omega
    · rename_i hordinary
      -- The 29th would make the year of the calendar a leap year.
      have hne : p.day ≠ 29 := by
        intro heq
        obtain ⟨hfourth, hcentury⟩ := hleap hlast heq
        refine hordinary ?_
        simp only [isLeapYear, Bool.and_eq_true, Bool.or_eq_true, beq_iff_eq, bne_iff_ne]
        omega
      omega

/-- The years of days are in the order of the days. -/
theorem year_ofDays_mem (hlow : -96465292 ≤ days) (hhigh : days ≤ 95026236) :
    -262143 ≤ (ofDays days).year ∧ (ofDays days).year ≤ 262142 := by
  have h := DateParts.tells_ofDays days
  rw [ofDays_eq]
  generalize DateParts.ofDays days = p at h ⊢
  obtain ⟨hyear, hyears, hmonth, hmonths, hday, hlongest, hdays, -⟩ := h
  simp only [daysBefore, daysBeforeMonth, longestMonth] at hdays hlongest
  rw [DateParts.date]
  split <;> dsimp only
  · omega
  · omega

end Date

end Time

end DataQuality
