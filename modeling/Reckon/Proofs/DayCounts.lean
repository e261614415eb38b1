import Mathlib.Algebra.Order.BigOperators.Group.Finset
import Reckon.Proofs.CalendarDays

/-!
# Days counted year by year

The number of a date is what counting gives: the lengths of the years from 1970 up to its own, or
of those back to it with a minus, the lengths of the months before its own, and the days before its
day. The quotients that the number is made of count leap years, and so grow from year to year by what
the length of the year asks for.
-/

namespace Reckon

open Finset

def yearLength (year : Int) : Int :=
  if isLeapYear year then 366 else 365

def daysToYear (year : Int) : Int :=
  ∑ n ∈ range (year - 1970).toNat, yearLength (1970 + n) -
    ∑ n ∈ range (1970 - year).toNat, yearLength (year + n)

def daysToMonth (year : Int) (month : Nat) : Nat :=
  ∑ m ∈ range (month - 1), monthLength year (m + 1)

namespace Date

def daysSince1970 (d : Date) : Int :=
  daysToYear d.year + daysToMonth d.year d.month + (d.day - 1)

end Date

/-! ### Years -/

theorem daysToYear_succ (year : Int) : daysToYear (year + 1) = daysToYear year + yearLength year := by
  unfold daysToYear
  rcases Int.lt_or_le year 1970 with hbefore | hafter
  · -- one year less lies between, the first one
    have hless : (1970 - year).toNat = (1970 - (year + 1)).toNat + 1 := by omega
    have hnone : (year - 1970).toNat = 0 ∧ (year + 1 - 1970).toNat = 0 := by omega
    have hyear (n : Nat) : year + (n + 1 : Nat) = year + 1 + n := by omega
    rw [hless, sum_range_succ', hnone.1, hnone.2]
    simp only [hyear, Int.natCast_zero, Int.add_zero]
    omega
  · have hmore : (year + 1 - 1970).toNat = (year - 1970).toNat + 1 := by omega
    have hnone : (1970 - year).toNat = 0 ∧ (1970 - (year + 1)).toNat = 0 := by omega
    have hyear : 1970 + ((year - 1970).toNat : Int) = year := by omega
    rw [hmore, sum_range_succ, hnone.1, hnone.2, hyear, sum_range_zero, sum_range_zero]
    omega

theorem daysToYear_le {year later : Int} (h : year ≤ later) :
    daysToYear year ≤ daysToYear later := by
  induction later, h using Int.leInduction with
  | base => exact Int.le_refl _
  | succ later _ ih =>
    rw [daysToYear_succ, yearLength]
    split <;> omega

/-- Leap years before a year, counted from the year zero. -/
def leapYearsBefore (year : Int) : Int :=
  (year - 1) / 4 - (year - 1) / 100 + (year - 1) / 400

theorem leapYearsBefore_succ (year : Int) :
    365 + leapYearsBefore (year + 1) = leapYearsBefore year + yearLength year := by
  unfold leapYearsBefore yearLength
  split
  · rename_i hleap
    obtain ⟨hfourth, hhundredth⟩ := isLeapYear_iff.mp hleap
    omega
  · rename_i hcommon
    have hnot := mt isLeapYear_iff.mpr hcommon
    omega

theorem daysToYear_eq (year : Int) :
    daysToYear year = 365 * year + leapYearsBefore year - 719527 := by
  induction year using Int.inductionOn' (b := 1970) with
  | zero => rfl
  | succ year hafter ih =>
    have hstep := leapYearsBefore_succ year
    rw [daysToYear_succ]
    omega
  | pred year hbefore ih =>
    have hcount := daysToYear_succ (year - 1)
    have hstep := leapYearsBefore_succ (year - 1)
    rw [Int.sub_add_cancel] at hcount hstep
    omega

/-! ### Months -/

theorem daysToMonth_succ (year : Int) {month : Nat} (h : 1 ≤ month) :
    daysToMonth year (month + 1) = daysToMonth year month + monthLength year month := by
  obtain ⟨month, rfl⟩ := Nat.exists_eq_add_of_le' h
  exact sum_range_succ _ month

theorem daysToMonth_fromMarch (year : Int) {month : Nat} (h : month < 10) :
    daysToMonth year (month + 3) =
      31 + (if isLeapYear year then 29 else 28) + (153 * month + 2) / 5 := by
  induction month with
  | zero => rfl
  | succ month ih =>
    have hlength := Date.monthLength_fromMarch (Nat.lt_trans (Nat.lt_of_succ_lt h) (by omega)) year
    rw [if_pos (Nat.lt_of_succ_lt h)] at hlength
    rw [Nat.add_right_comm, daysToMonth_succ year (by omega), ih (Nat.lt_of_succ_lt h), hlength]
    omega

theorem daysToMonth_le (year : Int) {month later : Nat} (h : month ≤ later) :
    daysToMonth year month ≤ daysToMonth year later :=
  sum_le_sum_of_subset (range_mono (Nat.sub_le_sub_right h 1))

theorem daysToMonth_whole (year : Int) : (daysToMonth year 13 : Int) = yearLength year := by
  have hdecember := @daysToMonth_fromMarch year 9 (by decide)
  rw [daysToMonth_succ year (by decide), hdecember, yearLength]
  cases isLeapYear year <;> rfl

namespace Date

/-- Before March only the leap days of earlier years count, and from March on also the year's own. -/
theorem dayNumber_eq_daysSince1970 {d : Date} (hfirst : 1 ≤ d.month) (hlast : d.month ≤ 12) :
    d.dayNumber = d.daysSince1970 := by
  have hyear := daysToYear_eq d.year
  unfold leapYearsBefore at hyear
  rw [daysSince1970, dayNumber]
  by_cases hearly : d.month ≤ 2
  · have hmonth : (daysToMonth d.year d.month : Int) = 31 * (d.month - 1) := by
      obtain h | h : d.month = 1 ∨ d.month = 2 := by omega
      · rw [h]
        rfl
      · rw [h]
        rfl
    simp only [if_pos hearly]
    omega
  · obtain ⟨month, hmonth⟩ : ∃ month, d.month = month + 3 := ⟨d.month - 3, by omega⟩
    have hlength := leapYearsBefore_succ d.year
    have hdays := @daysToMonth_fromMarch d.year month (by omega)
    unfold leapYearsBefore yearLength at hlength
    have hlate : ¬month + 3 ≤ 2 := by omega
    simp only [hmonth, if_neg hlate, hdays]
    by_cases hleap : isLeapYear d.year
    · rw [if_pos hleap] at hlength ⊢
      omega
    · rw [if_neg hleap] at hlength ⊢
      omega

/-- A date lies within its year. -/
theorem daysSince1970_bounds {d : Date} (h : d.Valid) :
    daysToYear d.year ≤ d.daysSince1970 ∧ d.daysSince1970 < daysToYear (d.year + 1) := by
  obtain ⟨-, -, hfirst, hlast, hday, hlength⟩ := h
  have hmonth := daysToMonth_succ d.year hfirst
  have hyear := daysToMonth_le d.year (show d.month + 1 ≤ 13 by omega)
  have hwhole := daysToMonth_whole d.year
  rw [daysSince1970, daysToYear_succ]
  omega

/-- The days that instants have. -/
theorem dayNumber_bounds {d : Date} (h : d.Valid) :
    -96465292 ≤ d.dayNumber ∧ d.dayNumber ≤ 95026236 := by
  obtain ⟨hbegin, hend⟩ := daysSince1970_bounds h
  obtain ⟨hfirst, hlast, hjanuary, hdecember, -⟩ := h
  have hleast := daysToYear_le hfirst
  have hmost := daysToYear_le (show d.year + 1 ≤ lastYear + 1 by omega)
  rw [daysToYear_eq firstYear] at hleast
  rw [daysToYear_eq (lastYear + 1)] at hmost
  unfold leapYearsBefore firstYear at hleast
  unfold leapYearsBefore lastYear at hmost
  rw [dayNumber_eq_daysSince1970 hjanuary hdecember]
  omega

end Date

end Reckon
