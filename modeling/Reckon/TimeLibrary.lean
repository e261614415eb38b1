import Reckon.Library

/-!
# Functions of time

Dates and spans are made from their parts, which are checked and never carried over into one another,
or from one value. Milliseconds beyond a full second are those of a leap second, and only the last
second of a minute has them.
-/

namespace Reckon.TimeLibrary

def dateOfParts (year month day hour minute second millisecond : Int) : Option Instant :=
  if 0 ≤ hour ∧ hour < 24 ∧ 0 ≤ minute ∧ minute < 60 ∧ 0 ≤ second ∧ second < 60 ∧
      0 ≤ millisecond then
    Instant.ofDate? ⟨year, month.toNat, day.toNat⟩
      (hour * 3600 + minute * 60 + second).toNat (millisecond.toNat * 1000000)
  else none

/-- A part that is not given takes its default. -/
def part (arguments : List Value) (i : Nat) (default : Int) : Evaluated Int :=
  if i < arguments.length then integerArgument "DATE" arguments i else .ok default

def date (arguments : List Value) : Evaluated Value := do
  if arguments.length = 1 then
    .ok (.instant (← instantArgument "DATE" arguments 0))
  else
    let year ← part arguments 0 0
    let month ← part arguments 1 1
    let day ← part arguments 2 1
    let hour ← part arguments 3 0
    let minute ← part arguments 4 0
    let second ← part arguments 5 0
    let millisecond ← part arguments 6 0
    match dateOfParts year month day hour minute second millisecond with
    | some t => .ok (.instant t)
    | none =>
      refuseArgument (.invalidDate "DATE" year month day hour minute second millisecond)

def weekday (arguments : List Value) : Evaluated Value := do
  let t ← instantArgument "DAYOFWEEK" arguments 0
  .ok (.ofInt (Date.weekday (t.second / secondsPerDay)))

def ticks (moment : Moment) (arguments : List Value) : Evaluated Value := do
  let t ← if arguments.isEmpty then .ok moment.now else instantArgument "TICKS" arguments 0
  .ok (.long (clampInt64 t.millis))

/-- The milliseconds of a number of parts, if they are of that number. -/
def units? : Nat → Option (List Int)
  | 3 => some [3600000, 60000, 1000]
  | 4 => some [86400000, 3600000, 60000, 1000]
  | 5 => some [86400000, 3600000, 60000, 1000, 1]
  | _ => none

/-- Every product and every partial sum must fit 64 bits. -/
def spanSum (arguments : List Value) : (i : Nat) → (total : Int64) → List Int → Evaluated Int64
  | _, total, [] => .ok total
  | i, total, unit :: rest => do
    let n ← integerArgument "TIMESPAN" arguments i
    match toInt64? (n * unit) with
    | none => refuseArgument (.outOfRange "TIMESPAN")
    | some ms =>
      match toInt64? (total.toInt + ms.toInt) with
      | none => refuseArgument (.outOfRange "TIMESPAN")
      | some total => spanSum arguments (i + 1) total rest

def timeSpan (arguments : List Value) : Evaluated Value := do
  if arguments.length = 1 then
    let v := argument arguments 0
    match v.toSpan? with
    | some d => .ok (.span d)
    | none => refuseArgument (.notSpan "TIMESPAN" v.text)
  else
    match units? arguments.length with
    | some units => .ok (.span (.ofMillis (← spanSum arguments 0 0 units)))
    | none => .error (.argumentCount "TIMESPAN" .oneOrThreeToFive arguments.length)

def functions : List Function := [
  .fixed "NOW" 0 fun _ moment _ => .ok (.instant moment.now),
  ⟨"DATE", 1, some 7, fun _ _ arguments => date arguments⟩,
  .fixed "DAYOFWEEK" 1 fun _ _ arguments => weekday arguments,
  ⟨"TICKS", 0, some 1, fun _ moment arguments => ticks moment arguments⟩,
  ⟨"TIMESPAN", 1, some 5, fun _ _ arguments => timeSpan arguments⟩]

end Reckon.TimeLibrary
