import Reckon.Library

/-!
# Functions of numbers

Absolute values, rounding, roots, logarithms, angles, and the sum and the extremes of any number of
arguments. Rounding leaves whole numbers as they are and takes halves away from zero.
-/

namespace Reckon.NumberLibrary

def ofDouble (name : String) (f : Float → Float) : Function :=
  .fixed name 1 fun _ _ arguments => do
    .ok (.double (f (← numberArgument name arguments 0)))

def constant (name : String) (x : Float) : Function :=
  .fixed name 0 fun _ _ _ => .ok (.double x)

def random : Function :=
  .fixed "RND" 0 fun _ moment _ => .ok (.double moment.chance)

/-! ### Rounding -/

def truncate (x : Float) : Float :=
  if x < 0 then x.ceil else x.floor

def isWholeNumber : Value → Bool
  | .integer _ | .long _ => true
  | _ => false

def rounding (name : String) (f : Float → Float) : Function :=
  .fixed name 1 fun _ _ arguments => do
    if isWholeNumber (argument arguments 0) then .ok (argument arguments 0)
    else .ok (.double (f (← numberArgument name arguments 0)))

/-- A power by squaring, with `power` times `base ^ n` the result. -/
def powerFrom (base power : Float) (n : Nat) : Float :=
  if n = 0 then power
  else
    let power := if n % 2 = 1 then power * base else power
    if n / 2 = 0 then power else powerFrom (base * base) power (n / 2)

/-- Rounds at a place after the point, or before it for negative places. -/
def roundAt (x : Float) (places : Int) : Float :=
  let places := max (-308) (min places 308)
  let factor := powerFrom 10 1 places.natAbs
  if 0 ≤ places then (x * factor).round / factor else (x / factor).round * factor

def round : Function :=
  ⟨"ROUND", 1, some 2, fun _ _ arguments => do
    let places ← if 1 < arguments.length then integerArgument "ROUND" arguments 1 else .ok 0
    if 0 ≤ places ∧ isWholeNumber (argument arguments 0) then .ok (argument arguments 0)
    else .ok (.double (roundAt (← numberArgument "ROUND" arguments 0) places))⟩

/-! ### Absolute values and squares -/

def absolute (v : Value) : Evaluated Value :=
  match v with
  | .integer n => .ok (.ofInt n.toInt.natAbs)
  | .long n =>
    match toInt64? n.toInt.natAbs with
    | some m => .ok (.long m)
    | none => .ok (.double (nearestFloat n).abs)
  | .float x => .ok (.float x.abs)
  | v => do .ok (.double (← numberArgument "ABS" [v] 0).abs)

def abs : Function :=
  .fixed "ABS" 1 fun _ _ arguments => absolute (argument arguments 0)

def square : Function :=
  .fixed "SQR" 1 fun _ _ arguments =>
    evaluated ((argument arguments 0).multiply (argument arguments 0))

/-! ### Any number of arguments -/

/-- Keeps the first of the values that no later one is beyond, `beyond` being greater or less. -/
def extremeFrom (name : String) (beyond : Ordering) (rule : TextRule) :
    (best : Option Value) → List Value → Evaluated (Option Value)
  | best, [] => .ok best
  | best, v :: rest =>
    match v with
    | .object _ => refuseArgument (.notComparable name v.kind)
    | v =>
      match best with
      | none => extremeFrom name beyond rule (some v) rest
      | some current => do
        let found ← evaluated (v.compare? rule current)
        extremeFrom name beyond rule (some (if found = some beyond then v else current)) rest

def extreme (name : String) (beyond : Ordering) : Function :=
  .variadic name 1 fun rule _ arguments => do
    .ok ((← extremeFrom name beyond rule none (flattenOnce arguments)).getD .null)

/-- The number a value adds to a sum; null adds nothing. -/
def summand (v : Value) : Evaluated (Option Value) :=
  match v with
  | .null => .ok none
  | .string s =>
    match decimalOf? s.toList with
    | some x => .ok (some (.double x))
    | none => refuseArgument (.notNumberText "SUM" s)
  | .array _ | .object _ => refuseArgument (.notSummable "SUM" v.kind)
  | v => .ok (some v)

def sumFrom : (total : Option Value) → List Value → Evaluated (Option Value)
  | total, [] => .ok total
  | total, v :: rest => do
    match ← summand v, total with
    | none, total => sumFrom total rest
    | some v, none => sumFrom (some v) rest
    | some v, some total => do sumFrom (some (← evaluated (total.add v))) rest

def sum : Function :=
  .variadic "SUM" 1 fun _ _ arguments => do
    .ok ((← sumFrom none (flattenOnce arguments)).getD (.integer 0))

def functions : List Function := [
  abs,
  ofDouble "ACOS" Float.acos,
  ofDouble "ASIN" Float.asin,
  ofDouble "ATAN" Float.atan,
  rounding "CEIL" Float.ceil,
  ofDouble "COS" Float.cos,
  constant "E" 2.718281828459045,
  ofDouble "EXP" Float.exp,
  rounding "FLOOR" Float.floor,
  ofDouble "LOG" Float.log,
  ofDouble "LOG10" Float.log10,
  extreme "MAX" .gt,
  extreme "MIN" .lt,
  constant "PI" 3.141592653589793,
  random,
  round,
  ofDouble "SIN" Float.sin,
  square,
  ofDouble "SQRT" Float.sqrt,
  sum,
  ofDouble "TAN" Float.tan,
  rounding "TRUNC" truncate]

end Reckon.NumberLibrary
