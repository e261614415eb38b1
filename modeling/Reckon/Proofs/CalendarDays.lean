import Mathlib.Tactic.IntervalCases
import Reckon.Calendar

/-!
# Days and dates

Every day has a date of the calendar, and the number of that date is the day's. The four hundred years
after which the calendar repeats begin in March here, and a day in them has a century, a group of four
years, a year and a day of the year. A group ends in a leap day, but the last group of a century only
in the last century.
-/

namespace Reckon

theorem isLeapYear_iff {year : Int} :
    isLeapYear year = true ↔ year % 4 = 0 ∧ (year % 100 ≠ 0 ∨ year % 400 = 0) := by
  simp [isLeapYear]

theorem monthLength_le (year : Int) (month : Nat) : monthLength year month ≤ 31 := by
  unfold monthLength
  split
  · split <;> omega
  · omega
  · omega
  · omega
  · omega
  · omega

/-! ### Four hundred years -/

/-- A day in four hundred years that begin in March. -/
structure CycleDay where
  century : Nat
  group : Nat
  year : Nat
  day : Nat
  century_lt : century < 4
  group_lt : group < 25
  year_lt : year < 4
  day_lt : day < 366
  leap : day = 365 → year = 3 ∧ (group = 24 → century = 3)

namespace CycleDay

variable (d : CycleDay)

def ofGroup : Nat :=
  365 * d.year + d.day

def ofCentury : Nat :=
  1461 * d.group + d.ofGroup

def number : Nat :=
  36524 * d.century + d.ofCentury

def yearOfCycle : Nat :=
  100 * d.century + 4 * d.group + d.year

theorem exists_of_lt {n : Nat} (h : n < 146097) : ∃ d : CycleDay, d.number = n := by
  by_cases hlast : n = 146096
  · refine ⟨⟨3, 24, 3, 365, by omega, by omega, by omega, by omega, fun _ => ⟨rfl, fun _ => rfl⟩⟩, ?_⟩
    simp only [number, ofCentury, ofGroup]
    omega
  · by_cases hleap : n % 36524 % 1461 = 1460
    · refine ⟨⟨n / 36524, n % 36524 / 1461, 3, 365, by omega, by omega, by omega, by omega, ?_⟩, ?_⟩
      · intro _
        omega
      · simp only [number, ofCentury, ofGroup]
        omega
    · refine ⟨⟨n / 36524, n % 36524 / 1461, n % 36524 % 1461 / 365, n % 36524 % 1461 % 365,
        by omega, by omega, by omega, by omega, ?_⟩, ?_⟩
      · intro _
        omega
      · simp only [number, ofCentury, ofGroup]
        omega

theorem ofGroup_lt : d.ofGroup < 1461 := by
  have hyear := d.year_lt
  have hday := d.day_lt
  have hleap := d.leap
  unfold ofGroup
  omega

theorem ofCentury_lt : d.ofCentury < 36525 ∧ (d.ofCentury = 36524 → d.century = 3) := by
  have hgroup := d.group_lt
  have hleap := d.leap
  have hrest := d.ofGroup_lt
  have hday := d.day_lt
  have hyear := d.year_lt
  unfold ofCentury
  refine ⟨by omega, ?_⟩
  intro h
  unfold ofGroup at h
  omega

/-! ### Counting its leap days -/

/-- Groups are counted by their years of 365 days, so that a count of them is one too large near the
ends of centuries. -/
theorem number_div_1460 :
    d.number / 1460 =
      25 * d.century + d.group + (24 * d.century + d.group + d.ofGroup) / 1460 := by
  unfold number ofCentury
  omega

theorem number_div_36524 : d.number / 36524 = d.century + d.number / 146096 := by
  obtain ⟨hlt, hlast⟩ := d.ofCentury_lt
  have hcentury := d.century_lt
  unfold number
  by_cases h : d.ofCentury = 36524
  · omega
  · have hnone : (36524 * d.century + d.ofCentury) / 146096 = 0 := by omega
    omega

/-- What is counted too much is no more than the days of the year. -/
theorem excess_le :
    (24 * d.century + d.group + d.ofGroup) / 1460 ≤ d.day ∧
      d.day < 365 + (24 * d.century + d.group + d.ofGroup) / 1460 := by
  have hcentury := d.century_lt
  have hgroup := d.group_lt
  have hyear := d.year_lt
  have hday := d.day_lt
  have hleap := d.leap
  unfold ofGroup
  omega

theorem yearOfCycle_eq :
    ((d.number : Int) - d.number / 1460 + d.number / 36524 - d.number / 146096) / 365 =
      d.yearOfCycle := by
  obtain ⟨hle, hlt⟩ := d.excess_le
  have hgroups := d.number_div_1460
  have hcenturies := d.number_div_36524
  have hnumber : d.number =
      36524 * d.century + (1461 * d.group + (365 * d.year + d.day)) := rfl
  unfold yearOfCycle
  omega

theorem dayOfYear_eq :
    (d.number : Int) - (365 * d.yearOfCycle + d.yearOfCycle / 4 - d.yearOfCycle / 100) = d.day := by
  have hgroup := d.group_lt
  have hyear := d.year_lt
  have hgroups : d.yearOfCycle / 4 = 25 * d.century + d.group := by
    unfold yearOfCycle
    omega
  have hcenturies : d.yearOfCycle / 100 = d.century := by
    unfold yearOfCycle
    omega
  have hnumber : d.number =
      36524 * d.century + (1461 * d.group + (365 * d.year + d.day)) := rfl
  have hcycle : d.yearOfCycle = 100 * d.century + 4 * d.group + d.year := rfl
  omega

theorem yearOfCycle_lt : d.yearOfCycle < 400 := by
  have hcentury := d.century_lt
  have hgroup := d.group_lt
  have hyear := d.year_lt
  unfold yearOfCycle
  omega

/-- The leap day belongs to February of the next year of the calendar. -/
theorem isLeapYear_of_day (h : d.day = 365) (cycle : Int) :
    isLeapYear (d.yearOfCycle + cycle * 400 + 1) = true := by
  obtain ⟨hyear, hlast⟩ := d.leap h
  have hcentury := d.century_lt
  have hgroup := d.group_lt
  rw [isLeapYear_iff, yearOfCycle]
  omega

end CycleDay

/-! ### Months from March on -/

namespace Date

def ofMarchDay (year : Int) (day : Nat) : Date :=
  let month := (5 * day + 2) / 153
  let dayOfMonth := day - (153 * month + 2) / 5 + 1
  if month < 10 then ⟨year, month + 3, dayOfMonth⟩ else ⟨year + 1, month - 9, dayOfMonth⟩

theorem ofDayNumber_eq {n : Int} {d : CycleDay} (h : (d.number : Int) = (n + 719468) % 146097) :
    ofDayNumber n = ofMarchDay (d.yearOfCycle + (n + 719468) / 146097 * 400) d.day := by
  have hmonth : (5 * (d.day : Int) + 2) / 153 = ((5 * d.day + 2) / 153 : Nat) := by omega
  have hle : (153 * ((5 * d.day + 2) / 153) + 2) / 5 ≤ d.day := by omega
  have hday : ((d.day : Int) - (153 * ((5 * d.day + 2) / 153 : Nat) + 2) / 5 + 1).toNat =
      d.day - (153 * ((5 * d.day + 2) / 153) + 2) / 5 + 1 := by omega
  simp only [ofDayNumber, ← h, d.yearOfCycle_eq, d.dayOfYear_eq, ofMarchDay, hmonth, hday]
  by_cases hearly : (5 * d.day + 2) / 153 < 10
  · rw [if_pos hearly, if_pos (by omega)]
    congr 1
  · rw [if_neg hearly, if_neg (by omega)]
    congr 1
    omega

variable {year : Int} {day : Nat}

/-- The months from March to January, with the days between their beginnings. -/
theorem monthLength_fromMarch {month : Nat} (h : month < 11) (year : Int) :
    monthLength year (if month < 10 then month + 3 else month - 9) =
      (153 * (month + 1) + 2) / 5 - (153 * month + 2) / 5 := by
  interval_cases month <;> rfl

theorem valid_ofMarchDay (h : day < 366) (hleap : day = 365 → isLeapYear (year + 1) = true)
    (hfirst : firstYear ≤ (ofMarchDay year day).year)
    (hlast : (ofMarchDay year day).year ≤ lastYear) : (ofMarchDay year day).Valid := by
  refine ⟨hfirst, hlast, ?_⟩
  unfold ofMarchDay
  generalize hmonth : (5 * day + 2) / 153 = month
  have hlt : month < 12 := by omega
  by_cases hearly : month < 10
  · have hlength := @monthLength_fromMarch month (by omega) year
    rw [if_pos hearly] at hlength
    simp only [if_pos hearly, hlength]
    omega
  · simp only [if_neg hearly]
    by_cases hjanuary : month < 11
    · have hlength := monthLength_fromMarch hjanuary (year + 1)
      rw [if_neg hearly] at hlength
      simp only [hlength]
      omega
    · obtain rfl : month = 11 := by omega
      have hlength : monthLength (year + 1) 2 = if isLeapYear (year + 1) then 29 else 28 := rfl
      simp only [hlength]
      by_cases hday : day = 365
      · rw [if_pos (hleap hday)]
        omega
      · split <;> omega

theorem dayNumber_ofMarchDay (h : day < 366) :
    (ofMarchDay year day).dayNumber =
      365 * year + year / 4 - year / 100 + year / 400 + day - 719468 := by
  unfold ofMarchDay
  generalize hmonth : (5 * day + 2) / 153 = month
  have hlt : month < 12 := by omega
  by_cases hearly : month < 10
  · have hlate : ¬month + 3 ≤ 2 := by omega
    simp only [if_pos hearly, dayNumber, if_neg hlate]
    omega
  · have hsecond : month - 9 ≤ 2 := by omega
    simp only [if_neg hearly, dayNumber, if_pos hsecond]
    omega

/-! ### All days -/

theorem exists_ofMarchDay (n : Int) :
    ∃ (d : CycleDay) (cycle : Int), n = d.number + cycle * 146097 - 719468 ∧
      ofDayNumber n = ofMarchDay (d.yearOfCycle + cycle * 400) d.day := by
  have hlt : ((n + 719468) % 146097).toNat < 146097 := by omega
  obtain ⟨d, hd⟩ := CycleDay.exists_of_lt hlt
  have hnumber : (d.number : Int) = (n + 719468) % 146097 := by omega
  exact ⟨d, (n + 719468) / 146097, by omega, ofDayNumber_eq hnumber⟩

theorem dayNumber_ofDayNumber (n : Int) : (ofDayNumber n).dayNumber = n := by
  obtain ⟨d, cycle, rfl, hdate⟩ := exists_ofMarchDay n
  have hday := d.dayOfYear_eq
  have hyear := d.yearOfCycle_lt
  rw [hdate, dayNumber_ofMarchDay d.day_lt]
  omega

theorem valid_ofDayNumber {n : Int} (hfirst : firstYear ≤ (ofDayNumber n).year)
    (hlast : (ofDayNumber n).year ≤ lastYear) : (ofDayNumber n).Valid := by
  obtain ⟨d, cycle, -, hdate⟩ := exists_ofMarchDay n
  rw [hdate] at hfirst hlast ⊢
  exact valid_ofMarchDay d.day_lt (fun h => d.isLeapYear_of_day h cycle) hfirst hlast

end Date

end Reckon
