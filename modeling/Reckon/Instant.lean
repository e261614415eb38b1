import Reckon.Calendar
import Reckon.Span

/-!
# Instants

An instant is a second since the start of 1970, without leap seconds, and nanoseconds past it. A leap
second is the time after the last second of a minute: it shares that second's number and has from one
to two thousand million nanoseconds. Instants exist for all days of the calendar.
-/

namespace Reckon

/-- A time of day is a number of seconds below this. -/
abbrev secondsPerDay : Int := 86400

structure Instant where
  second : Int
  nano : Nat
  first_le : -8334601228800 ≤ second
  le_last : second ≤ 8210266876799
  nano_lt : nano < 2000000000
  leap : 1000000000 ≤ nano → second % 60 = 59
deriving DecidableEq

namespace Instant

def make? (second : Int) (nano : Nat) : Option Instant :=
  if h : -8334601228800 ≤ second ∧ second ≤ 8210266876799 ∧ nano < 2000000000 ∧
      (1000000000 ≤ nano → second % 60 = 59) then
    some ⟨second, nano, h.1, h.2.1, h.2.2.1, h.2.2.2⟩
  else none

def epoch : Instant := ⟨0, 0, by decide, by decide, by decide, by decide⟩

def isLeap (t : Instant) : Bool :=
  1000000000 ≤ t.nano

def date (t : Instant) : Date :=
  .ofDayNumber (t.second / secondsPerDay)

def secondOfDay (t : Instant) : Int :=
  t.second % secondsPerDay

def ofDate? (date : Date) (secondOfDay nano : Nat) : Option Instant :=
  if date.Valid then make? (date.dayNumber * secondsPerDay + secondOfDay) nano else none

/-- Milliseconds since the start of 1970; a leap second runs on into the next one's. -/
def millis (t : Instant) : Int :=
  t.second * 1000 + t.nano / 1000000

def ofMillis? (ms : Int) : Option Instant :=
  make? (ms / 1000) ((ms % 1000).toNat * 1000000)

/-- Adding to a leap second stays within it as long as it can, and counts from the ordinary second
beside it otherwise. -/
def addParts? (t : Instant) (seconds subsecond : Int) : Option Instant :=
  let nano : Int := t.nano
  if t.isLeap && seconds = 0 && !(0 < subsecond && 2000000000 ≤ nano + subsecond) then
    make? t.second (nano + subsecond).toNat
  else
    let (base, nano) :=
      if t.isLeap then
        if seconds < 0 then (t.second + 1, nano - 1000000000) else (t.second, nano - 1000000000)
      else (t.second, nano)
    let total := nano + subsecond
    make? (base + seconds + total / 1000000000) (total % 1000000000).toNat

def add? (t : Instant) (d : Span) : Option Instant :=
  t.addParts? d.seconds d.subsecond

def sub? (t : Instant) (d : Span) : Option Instant :=
  t.add? d.neg

/-- A leap second that lies between two times of day counts as a second. -/
def leapsBetween (a b : Instant) : Int :=
  if b.secondOfDay < a.secondOfDay ∧ b.isLeap then 1
  else if a.secondOfDay < b.secondOfDay ∧ a.isLeap then -1
  else 0

def since (a b : Instant) : Span where
  nanos := (a.second - b.second + leapsBetween a b) * 1000000000 + ((a.nano : Int) - b.nano)
  lower := by
    have := a.first_le; have := b.le_last; have := a.nano_lt; have := b.nano_lt
    unfold leapsBetween
    split
    · omega
    · split <;> omega
  upper := by
    have := a.le_last; have := b.first_le; have := a.nano_lt; have := b.nano_lt
    unfold leapsBetween
    split
    · omega
    · split <;> omega

end Instant

end Reckon
