import Reckon.DecimalText
import Reckon.Letters
import Reckon.TextOrder

/-!
# Spans of time

A span is a signed number of nanoseconds that stays within as many milliseconds as 64 bits count,
the same in both directions. Its text is `[-][days.]hours:minutes:seconds[.fraction]`, and reading
such a text keeps three digits of the fraction.
-/

namespace Reckon

structure Span where
  nanos : Int
  lower : -9223372036854775807000000 ≤ nanos
  upper : nanos ≤ 9223372036854775807000000
deriving DecidableEq

namespace Span

def ofNanos? (n : Int) : Option Span :=
  if h : -9223372036854775807000000 ≤ n ∧ n ≤ 9223372036854775807000000 then some ⟨n, h.1, h.2⟩
  else none

def zero : Span := ⟨0, by decide, by decide⟩

/-- The one number of milliseconds that is too small becomes the next one. -/
def ofMillis (ms : Int64) : Span where
  nanos := max ms.toInt (-9223372036854775807) * 1000000
  lower := by have := ms.le_toInt; omega
  upper := by have := ms.toInt_lt; omega

/-- Whole milliseconds, toward zero. -/
def millis (d : Span) : Int :=
  d.nanos.tdiv 1000000

/-- Whole seconds, toward zero. -/
def seconds (d : Span) : Int :=
  d.nanos.tdiv 1000000000

/-- What is left over whole seconds, with the sign of the span. -/
def subsecond (d : Span) : Int :=
  d.nanos.tmod 1000000000

def add? (a b : Span) : Option Span :=
  ofNanos? (a.nanos + b.nanos)

def sub? (a b : Span) : Option Span :=
  ofNanos? (a.nanos - b.nanos)

def neg (d : Span) : Span where
  nanos := -d.nanos
  lower := by have := d.upper; omega
  upper := by have := d.lower; omega

/-! ### Text -/

def text (d : Span) : List Char :=
  let total := d.millis.natAbs
  let days := total / 86400000
  let hours := total % 86400000 / 3600000
  let minutes := total % 3600000 / 60000
  let seconds := total % 60000 / 1000
  let fraction := total % 1000
  (if d.millis < 0 then ['-'] else []) ++
    (if days = 0 then [] else natText days ++ ['.']) ++
    paddedText 2 hours ++ ':' :: paddedText 2 minutes ++ ':' :: paddedText 2 seconds ++
    (if fraction = 0 then [] else '.' :: paddedText 3 fraction)

/-- Days and hours: the days, if there are any, end in a point. -/
def readHours? (s : List Char) : Option (Nat × Nat) :=
  match splitAtFirst? '.' s with
  | some (days, hours) => do some (← readNat? days, ← readNat? hours)
  | none => do some (0, ← readNat? s)

def readFraction? (s : List Char) : Option Nat :=
  (readNat? s).map fun _ => digitsValue ((s ++ ['0', '0', '0']).take 3)

def readSeconds? (s : List Char) : Option (Nat × Nat) :=
  match splitAtFirst? '.' s with
  | some (seconds, fraction) => do some (← readNat? seconds, ← readFraction? fraction)
  | none => do some (← readNat? s, 0)

def read? (s : List Char) : Option Span :=
  let s := trim s
  let negative := s.head? == some '-'
  match splitAtEach ':' (if negative then s.drop 1 else s) with
  | [first, second, third] => do
    let (days, hours) ← readHours? first
    let minutes ← readNat? second
    let (seconds, fraction) ← readSeconds? third
    let total := days * 86400000 + hours * 3600000 + minutes * 60000 + seconds * 1000 + fraction
    if 60 ≤ minutes || 60 ≤ seconds then none
    else ofNanos? ((if negative then -(total : Int) else total) * 1000000)
  | _ => none

end Span

end Reckon
