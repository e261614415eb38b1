/-!
# The calendar

Dates of the Gregorian calendar, extended to all years. Days are counted from the first of January
1970, and inside a year as if it began in March, so that a leap day comes last.
-/

namespace Reckon

structure Date where
  year : Int
  month : Nat
  day : Nat
deriving DecidableEq

def isLeapYear (year : Int) : Bool :=
  year % 4 = 0 && (year % 100 ≠ 0 || year % 400 = 0)

def monthLength (year : Int) (month : Nat) : Nat :=
  match month with
  | 2 => if isLeapYear year then 29 else 28
  | 4 | 6 | 9 | 11 => 30
  | _ => 31

namespace Date

/-- The years for which dates exist. -/
def firstYear : Int := -262143

def lastYear : Int := 262142

def Valid (d : Date) : Prop :=
  firstYear ≤ d.year ∧ d.year ≤ lastYear ∧ 1 ≤ d.month ∧ d.month ≤ 12 ∧
    1 ≤ d.day ∧ d.day ≤ monthLength d.year d.month

instance (d : Date) : Decidable d.Valid :=
  inferInstanceAs (Decidable (_ ∧ _))

/-- Days from the first of January 1970 to a date. -/
def dayNumber (d : Date) : Int :=
  let year := if d.month ≤ 2 then d.year - 1 else d.year
  let month : Int := if d.month ≤ 2 then d.month + 9 else d.month - 3
  365 * year + year / 4 - year / 100 + year / 400 + (153 * month + 2) / 5 + d.day - 719469

/-- The date so many days after the first of January 1970. Four hundred years have 146097 days. -/
def ofDayNumber (n : Int) : Date :=
  let shifted := n + 719468
  let day := shifted % 146097
  let year := (day - day / 1460 + day / 36524 - day / 146096) / 365
  let dayOfYear := day - (365 * year + year / 4 - year / 100)
  let month := (5 * dayOfYear + 2) / 153
  let dayOfMonth := dayOfYear - (153 * month + 2) / 5 + 1
  let marchYear := year + shifted / 146097 * 400
  if month < 10 then ⟨marchYear, (month + 3).toNat, dayOfMonth.toNat⟩
  else ⟨marchYear + 1, (month - 9).toNat, dayOfMonth.toNat⟩

/-- Sunday is zero. -/
def weekday (n : Int) : Nat :=
  ((n + 4) % 7).toNat

end Date

end Reckon
