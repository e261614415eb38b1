import Reckon.Instant

/-!
# Texts of instants

An instant is written as date, `T`, time with milliseconds, and `Z`; a year that does not have four
digits gets a sign. Three forms are read: the written one, in which the fraction is optional and an
offset may stand for `Z`; a date and a time apart by blanks or `T`, whose numbers may be shorter and
have blanks before them; and such a date alone. Second sixty is a leap second.
-/

namespace Reckon

namespace Instant

def yearText (year : Int) : List Char :=
  if year < 0 then '-' :: paddedText 4 year.natAbs
  else if 9999 < year then '+' :: paddedText 4 year.natAbs
  else paddedText 4 year.natAbs

def dateText (d : Date) : List Char :=
  yearText d.year ++ '-' :: paddedText 2 d.month ++ '-' :: paddedText 2 d.day

def text (t : Instant) : List Char :=
  let secondOfDay := t.secondOfDay.toNat
  let second := secondOfDay % 60 + t.nano / 1000000000
  dateText t.date ++ 'T' :: paddedText 2 (secondOfDay / 3600) ++
    ':' :: paddedText 2 (secondOfDay / 60 % 60) ++ ':' :: paddedText 2 second ++
    '.' :: paddedText 3 (t.nano % 1000000000 / 1000000) ++ ['Z']

/-- A date, a time of day with second sixty allowed, and nanoseconds, as they stand in a text. -/
structure Reading where
  date : Date
  hour : Nat
  minute : Nat
  second : Nat
  nano : Nat

namespace Reading

/-- The instant that is read, on a clock that is ahead by an offset in seconds. -/
def instant? (r : Reading) (offset : Int) : Option Instant :=
  if r.date.Valid ∧ r.hour < 24 ∧ r.minute < 60 ∧ r.second ≤ 60 then
    let second := min r.second 59
    let secondOfDay := r.hour * 3600 + r.minute * 60 + second
    make? (r.date.dayNumber * secondsPerDay + secondOfDay - offset)
      (r.nano + (r.second - second) * 1000000000)
  else none

end Reading

abbrev TextPart (α : Type) := List Char → Option (α × List Char)

/-- From `least` up to `most` digits, as many as there are. -/
def number (least most : Nat) : TextPart Nat := fun s =>
  let digits := (s.take most).takeWhile isDigit
  if digits.length < least then none else some (digitsValue digits, s.drop digits.length)

def mark (c : Char) : TextPart Unit
  | [] => none
  | d :: s => if d = c then some ((), s) else none

/-- The first nine digits count, and at least one must be there. -/
def fraction : TextPart Nat
  | '.' :: s => do
    let (n, rest) ← number 1 9 s
    some (n * Nat.pow 10 (9 - (s.length - rest.length)), rest.dropWhile isDigit)
  | s => some (0, s)

def time (least : Nat) (blanks : List Char → List Char) :
    TextPart (Nat × Nat × Nat × Nat) := fun s => do
  let (hour, s) ← number least 2 (blanks s)
  let (_, s) ← mark ':' s
  let (minute, s) ← number least 2 (blanks s)
  let (_, s) ← mark ':' s
  let (second, s) ← number least 2 (blanks s)
  let (nano, s) ← fraction s
  some ((hour, minute, second, nano), s)

/-- `Z`, or a sign and hours and minutes. -/
def offset : TextPart Int
  | [] => none
  | c :: s =>
    if c = 'Z' || c = 'z' then some (0, s)
    else if c = '+' || c = '-' || c = '\u2212' then do
      let (hours, s) ← number 2 2 s
      let (_, s) ← mark ':' s
      let (minutes, s) ← number 2 2 s
      if 24 ≤ hours || 60 ≤ minutes then none
      else
        let seconds : Int := hours * 3600 + minutes * 60
        some (if c = '+' then seconds else -seconds, s)
    else none

def readWithOffset? (s : List Char) : Option Instant := do
  let (year, s) ← number 4 4 s
  let (_, s) ← mark '-' s
  let (month, s) ← number 2 2 s
  let (_, s) ← mark '-' s
  let (day, s) ← number 2 2 s
  match s with
  | [] => none
  | c :: s =>
    if c = 'T' || c = 't' || c = ' ' then do
      let ((hour, minute, second, nano), s) ← time 2 id s
      let (offset, s) ← offset s
      if s.isEmpty then
        Reading.instant? ⟨⟨year, month, day⟩, hour, minute, second, nano⟩ offset
      else none
    else none

/-- A year with a sign may have any number of digits. -/
def signedYear : TextPart Int := fun s =>
  match trimStart s with
  | '-' :: s => (number 1 s.length s).map fun (n, s) => (-(n : Int), s)
  | '+' :: s => (number 1 s.length s).map fun (n, s) => ((n : Int), s)
  | s => (number 1 4 s).map fun (n, s) => ((n : Int), s)

def looseDate : TextPart Date := fun s => do
  let (year, s) ← signedYear s
  let (_, s) ← mark '-' s
  let (month, s) ← number 1 2 (trimStart s)
  let (_, s) ← mark '-' s
  let (day, s) ← number 1 2 (trimStart s)
  some (⟨year, month, day⟩, s)

def readLoose? (s : List Char) : Option Instant := do
  let (date, s) ← looseDate s
  if s.isEmpty then Reading.instant? ⟨date, 0, 0, 0, 0⟩ 0
  else
    let s :=
      match s with
      | 'T' :: rest => rest
      | _ => s
    let ((hour, minute, second, nano), s) ← time 1 trimStart s
    if s.isEmpty then Reading.instant? ⟨date, hour, minute, second, nano⟩ 0 else none

def read? (s : List Char) : Option Instant :=
  let s := trim s
  (readWithOffset? s).orElse fun _ => readLoose? s

end Instant

end Reckon
