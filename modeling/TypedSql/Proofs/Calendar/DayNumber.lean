import Mathlib.Tactic.Common
import Mathlib.Tactic.IntervalCases
import TypedSql.Calendar.Date

/-!
A day is found again by its number. Both ways go through years that begin in March, in which a month
begins on the day `(153 * month + 2) / 5` and the leap day comes last, and through the 400 years after
which the calendar repeats itself.
-/

namespace TypedSql

/-! ## The year within 400 years -/

/-- The number of a day in 400 years, by its year and the day of that year. -/
def dayOfEra (year day : Int) : Int := year * 365 + year / 4 - year / 100 + day

theorem dayOfEra_bounds {year day : Int} (hyear : 0 ≤ year ∧ year < 400)
    (hday : 0 ≤ day ∧ day ≤ 365) : 0 ≤ dayOfEra year day ∧ dayOfEra year day < 146097 := by
  rw [dayOfEra]
  omega

/-- A number of days from centuries, groups of four years, years and days gives these back when the
leap days before it are left out. The last year of a group can have a leap day, but the last group of
a century has one only in the last century. -/
theorem years_of_days {century group year day n : Int} (hcentury : 0 ≤ century ∧ century ≤ 3)
    (hgroup : 0 ≤ group ∧ group ≤ 24) (hyear : 0 ≤ year ∧ year ≤ 3) (hday : 0 ≤ day ∧ day ≤ 365)
    (hleap : day ≤ 364 ∨ year = 3 ∧ (group ≤ 23 ∨ century = 3))
    (hn : n = 36524 * century + 1461 * group + 365 * year + day) :
    (n - n / 1460 + n / 36524 - n / 146096) / 365 = 100 * century + 4 * group + year := by
  have hcenturies : n / 36524 - n / 146096 = century := by
    by_cases hlast : n = 146096
    · omega
    · have hnext : n < 36524 * (century + 1) := by omega
      have hthis : n / 36524 = century := by omega
      have hnone : n / 146096 = 0 := by omega
      omega
  have hgroups : n / 1460 =
      25 * century + group + (24 * century + group + 365 * year + day) / 1460 := by omega
  omega

/-- The last year before a leap year, within 400 years. -/
theorem group_of_leap {year : Int} (hyear : 0 ≤ year ∧ year < 400) (hfour : (year + 1) % 4 = 0)
    (hcentury : (year + 1) % 100 ≠ 0 ∨ (year + 1) % 400 = 0) :
    year % 4 = 3 ∧ (year % 100 / 4 ≤ 23 ∨ year / 100 = 3) := by
  refine ⟨by omega, ?_⟩
  rcases hcentury with hcentury | hera
  · left
    omega
  · right
    omega

/-- A year of the 400 by its century, its group of four years and its place in the group. -/
theorem year_parts (year : Int) :
    100 * (year / 100) + 4 * (year % 100 / 4) + year % 4 = year := by
  omega

theorem dayOfEra_parts (year day : Int) :
    dayOfEra year day =
      36524 * (year / 100) + 1461 * (year % 100 / 4) + 365 * (year % 4) + day := by
  rw [dayOfEra]
  omega

theorem year_of_dayOfEra {year day : Int} (hyear : 0 ≤ year ∧ year < 400)
    (hday : 0 ≤ day ∧ day ≤ 365)
    (hleap : day ≤ 364 ∨ (year + 1) % 4 = 0 ∧ ((year + 1) % 100 ≠ 0 ∨ (year + 1) % 400 = 0)) :
    (dayOfEra year day - dayOfEra year day / 1460 + dayOfEra year day / 36524 -
      dayOfEra year day / 146096) / 365 = year := by
  have hlast := hleap.imp_right fun ⟨hfour, hcentury⟩ => group_of_leap hyear hfour hcentury
  have hcentury : 0 ≤ year / 100 ∧ year / 100 ≤ 3 := by omega
  have hgroup : 0 ≤ year % 100 / 4 ∧ year % 100 / 4 ≤ 24 := by omega
  have hone : 0 ≤ year % 4 ∧ year % 4 ≤ 3 := by omega
  rw [years_of_days hcentury hgroup hone hday hlast (dayOfEra_parts year day), year_parts]

/-! ## Months from March on -/

/-- The day of a year that begins in March, by its month and the day of that month. -/
def dayOfYear (month day : Int) : Int := (153 * month + 2) / 5 + day - 1

/-- A day of a month in a year that begins in March. No month is shorter than the day is late, and
February, the last of them, has 29 days in a leap year only. -/
structure MarchDay (year month day : Int) : Prop where
  inYear : 0 ≤ month ∧ month ≤ 11
  inMonth : 1 ≤ day ∧ day ≤ 31
  short : day = 31 → month ≠ 1 ∧ month ≠ 3 ∧ month ≠ 6 ∧ month ≠ 8
  february : month = 11 → day ≤ 28 ∨ day = 29 ∧ isLeapYear (year + 1) = true

namespace MarchDay

variable {year month day : Int} (h : MarchDay year month day)
include h

theorem month_of_dayOfYear : (5 * dayOfYear month day + 2) / 153 = month := by
  obtain ⟨hlow, hhigh⟩ := h.inYear
  have hday := h.inMonth
  have hshort := h.short
  have hfebruary : month = 11 → day ≤ 29 := fun hm => by
    rcases h.february hm with hd | ⟨hd, -⟩ <;> omega
  rw [dayOfYear]
  interval_cases month <;> omega

theorem dayOfYear_bounds : 0 ≤ dayOfYear month day ∧ dayOfYear month day ≤ 365 := by
  have hmonth := h.inYear
  have hday := h.inMonth
  have hfebruary : month = 11 → day ≤ 29 := fun hm => by
    rcases h.february hm with hd | ⟨hd, -⟩ <;> omega
  rw [dayOfYear]
  omega

/-- Only the year before a leap year goes on to a day 365. -/
theorem le_or_isLeapYear : dayOfYear month day ≤ 364 ∨ isLeapYear (year + 1) = true := by
  have hmonth := h.inYear
  have hday := h.inMonth
  by_cases hlast : month = 11
  · refine (h.february hlast).imp (fun hshort => ?_) And.right
    rw [dayOfYear]
    omega
  · left
    rw [dayOfYear]
    omega

end MarchDay

/-! ## Days and their numbers -/

/-- The number of a day, by 400 years, the year of these and the day of that year. -/
def numberOfDay (era year day : Int) : Int := era * 146097 + dayOfEra year day - 719468

theorem era_of_numberOfDay {year day : Int} (hyear : 0 ≤ year ∧ year < 400)
    (hday : 0 ≤ day ∧ day ≤ 365) (era : Int) :
    (numberOfDay era year day + 719468).fdiv 146097 = era := by
  have hbounds := dayOfEra_bounds hyear hday
  rw [Int.fdiv_eq_ediv_of_nonneg _ (by decide), numberOfDay]
  omega

theorem MarchDay.ofDayNumber?_numberOfDay {year month day : Int} (h : MarchDay year month day) :
    Date.ofDayNumber? (numberOfDay (year / 400) (year % 400) (dayOfYear month day)) =
      Date.of? (if month < 10 then year else year + 1)
        (if month < 10 then month + 3 else month - 9).toNat day.toNat := by
  have hyear : 0 ≤ year % 400 ∧ year % 400 < 400 := by omega
  have hera := era_of_numberOfDay hyear h.dayOfYear_bounds (year / 400)
  have hrest : numberOfDay (year / 400) (year % 400) (dayOfYear month day) + 719468 -
      year / 400 * 146097 = dayOfEra (year % 400) (dayOfYear month day) := by
    rw [numberOfDay]
    omega
  have hleap : dayOfYear month day ≤ 364 ∨ (year % 400 + 1) % 4 = 0 ∧
      ((year % 400 + 1) % 100 ≠ 0 ∨ (year % 400 + 1) % 400 = 0) := by
    refine h.le_or_isLeapYear.imp_right fun hleap => ?_
    simp only [isLeapYear, Bool.and_eq_true, Bool.or_eq_true, beq_iff_eq, bne_iff_ne] at hleap
    omega
  have hback := year_of_dayOfEra hyear h.dayOfYear_bounds hleap
  have hday : dayOfEra (year % 400) (dayOfYear month day) -
      (365 * (year % 400) + year % 400 / 4 - year % 400 / 100) = dayOfYear month day := by
    rw [dayOfEra]
    omega
  have hend : dayOfYear month day - (153 * month + 2) / 5 + 1 = day := by
    rw [dayOfYear]
    omega
  have hwhole : year % 400 + year / 400 * 400 = year := by omega
  have hmonth := h.inYear
  simp only [Date.ofDayNumber?, hera, hrest, hback, hday, h.month_of_dayOfYear, hend, hwhole]
  by_cases hm : month < 10
  · rw [if_pos hm, if_pos hm, if_neg (by omega), Int.add_zero]
  · rw [if_neg hm, if_neg hm, if_pos (by omega)]

namespace Date

/-- A day of the calendar in the year that begins in March. -/
theorem marchDay (d : Date) :
    MarchDay (if d.month ≤ 2 then d.year - 1 else d.year)
      (if d.month ≤ 2 then d.month + 9 else d.month - 3) d.day := by
  obtain ⟨hfirst, hlast⟩ := d.inMonths
  obtain ⟨hday, hlength⟩ := d.inDays
  rw [daysInMonth] at hlength
  by_cases hm : d.month ≤ 2
  · rw [if_pos hm, if_pos hm]
    refine ⟨by omega, ?_, by omega, fun hfebruary => ?_⟩
    · constructor
      · omega
      · split at hlength
        · split at hlength <;> omega
        · rw [if_neg (by omega)] at hlength
          omega
    · rw [if_pos (by omega)] at hlength
      rw [Int.sub_add_cancel]
      split at hlength
      · rename_i hleap
        rcases Nat.lt_or_ge d.day 29 with hshort | hlong
        · left
          omega
        · exact .inr ⟨by omega, hleap⟩
      · left
        omega
  · rw [if_neg hm, if_neg hm]
    rw [if_neg (by omega)] at hlength
    refine ⟨by omega, ?_, fun hlong => ?_, by omega⟩
    · split at hlength <;> omega
    · split at hlength <;> omega

theorem dayNumber_eq (d : Date) :
    let year := if d.month ≤ 2 then d.year - 1 else d.year
    let month : Int := if d.month ≤ 2 then d.month + 9 else d.month - 3
    d.dayNumber = numberOfDay (year / 400) (year % 400) (dayOfYear month d.day) := by
  intro year month
  have hyear : year % 400 = year - year / 400 * 400 := by omega
  rw [hyear, ← Int.fdiv_eq_ediv_of_nonneg year (by decide)]
  rfl

theorem ofDayNumber?_dayNumber (d : Date) : ofDayNumber? d.dayNumber = some d := by
  rw [dayNumber_eq, d.marchDay.ofDayNumber?_numberOfDay, ← of?_parts d]
  obtain ⟨hfirst, hlast⟩ := d.inMonths
  by_cases hm : d.month ≤ 2
  · rw [if_pos hm, if_pos hm, if_neg (by omega), if_neg (by omega)]
    congr 1
    all_goals omega
  · rw [if_neg hm, if_neg hm, if_pos (by omega), if_pos (by omega)]
    congr 1
    omega

end Date

/-- A date and a time of day are found again by their seconds, the nanoseconds kept beside them. -/
theorem DateTime.ofSeconds?_seconds (t : DateTime) :
    ofSeconds? t.seconds t.time.nanosecond = some t := by
  obtain ⟨hhour, hminute, hsecond⟩ := t.time.inClock
  have hday : t.seconds.fdiv 86400 = t.date.dayNumber := by
    rw [Int.fdiv_eq_ediv_of_nonneg _ (by decide), seconds]
    omega
  have hrest : (t.seconds - t.date.dayNumber * 86400).toNat =
      t.time.hour * 3600 + t.time.minute * 60 + t.time.second := by
    rw [seconds]
    omega
  have hclock : (t.time.hour * 3600 + t.time.minute * 60 + t.time.second) / 3600 = t.time.hour ∧
      (t.time.hour * 3600 + t.time.minute * 60 + t.time.second) / 60 % 60 = t.time.minute ∧
      (t.time.hour * 3600 + t.time.minute * 60 + t.time.second) % 60 = t.time.second := by
    omega
  obtain ⟨hhours, hminutes, hseconds⟩ := hclock
  simp only [ofSeconds?, hday, hrest, hhours, hminutes, hseconds, Date.ofDayNumber?_dayNumber,
    TimeOfDay.of?_parts]
  rfl

end TypedSql
