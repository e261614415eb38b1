import Reckon.Operator
import Reckon.Conversion

/-!
# Arithmetic

Both operands are taken to the wider of their two numeric kinds. Whole numbers are computed exactly:
two of 32 bits give the narrowest kind that holds the result, a longer one gives 64 bits, and a
result that no whole kind holds is computed again in floating point.
-/

namespace Reckon

inductive Numeric where
  | integer (n : Int32)
  | long (n : Int64)
  | float (x : Float32)
  | double (x : Float)

namespace Value

/-- Null is zero, and so is a text that holds no number. -/
def numeric? : Value → Option Numeric
  | null => some (.integer 0)
  | integer n => some (.integer n)
  | long n => some (.long n)
  | float x => some (.float x)
  | double x => some (.double x)
  | boolean b => some (.integer (if b then 1 else 0))
  | string s =>
    match decimalOf? s.toList with
    | some x => some (.double x)
    | none => some (.integer 0)
  | _ => none

end Value

namespace Numeric

def whole? : Numeric → Option Int64
  | integer n => some n.toInt64
  | long n => some n
  | _ => none

def isLong : Numeric → Bool
  | long _ => true
  | _ => false

def isDouble : Numeric → Bool
  | double _ => true
  | _ => false

def toDouble : Numeric → Float
  | integer n => nearestFloat n.toInt64
  | long n => nearestFloat n
  | float x => widen x
  | double x => x

def toFloat : Numeric → Float32
  | integer n => n.toInt64.toFloat32
  | long n => n.toFloat32
  | float x => x
  | double x => x.toFloat32

end Numeric

inductive Arithmetic where
  | add
  | subtract
  | multiply
  | divide
  | modulo
  | power
deriving DecidableEq

namespace Arithmetic

def operator : Arithmetic → Operator
  | add => .add
  | subtract => .subtract
  | multiply => .multiply
  | divide => .divide
  | modulo => .modulo
  | power => .power

/-- The power of a whole number, unless it certainly needs more than 64 bits or the exponent more
than 32. Powers of zero and of the units repeat after the second. -/
def wholePower? (x y : Int) : Option Int :=
  if y < 0 ∨ 4294967296 ≤ y then none
  else if 2 ≤ x.natAbs then if 64 ≤ y then none else some (x.pow y.toNat)
  else if 2 < y then some (x.pow (2 - y.toNat % 2))
  else some (x.pow y.toNat)

/-- Nothing when the result, or for a remainder the quotient, needs more than 64 bits. -/
def whole? (op : Arithmetic) (x y : Int) : Outcome (Option Int64) :=
  match op with
  | add => .ok (toInt64? (x + y))
  | subtract => .ok (toInt64? (x - y))
  | multiply => .ok (toInt64? (x * y))
  | divide => if y = 0 then .error .divisionByZero else .ok (toInt64? (x.tdiv y))
  | modulo =>
    if y = 0 then .error .divisionByZero
    else .ok ((toInt64? (x.tdiv y)).bind fun _ => toInt64? (x.tmod y))
  | power => .ok ((wholePower? x y).bind toInt64?)

def floating (op : Arithmetic) (x y : Float) : Outcome Float :=
  match op with
  | add => .ok (x + y)
  | subtract => .ok (x - y)
  | multiply => .ok (x * y)
  | divide => if y == 0 then .error .divisionByZero else .ok (x / y)
  | modulo => if y == 0 then .error .divisionByZero else .ok (remainder x y)
  | power => .ok (x.pow y)

def combine (op : Arithmetic) (a b : Numeric) : Outcome Value :=
  match a.whole?, b.whole? with
  | some x, some y => do
    match ← op.whole? x.toInt y.toInt with
    | some n => if a.isLong || b.isLong then .ok (.long n) else .ok (.ofInt n.toInt)
    | none => .ok (.double (← op.floating (nearestFloat x) (nearestFloat y)))
  | _, _ =>
    if a.isDouble || b.isDouble then do
      .ok (.double (← op.floating a.toDouble b.toDouble))
    else do
      .ok (.float (← op.floating (widen a.toFloat) (widen b.toFloat)).toFloat32)

def apply (op : Arithmetic) (left right : Value) : Outcome Value :=
  match left.numeric?, right.numeric? with
  | some a, some b => op.combine a b
  | _, _ => refuse op.operator left right

end Arithmetic

/-! ### Instants and spans -/

/-- The value, or a refusal when there is none in range. -/
def orRefuse (operator : Operator) (left right : Value) (result : Option Value) : Outcome Value :=
  match result with
  | some v => .ok v
  | none => refuse operator left right

namespace Value

/-- A text takes anything that follows or precedes it as text. -/
def add (left right : Value) : Outcome Value :=
  match left, right with
  | string s, v => .ok (string (s ++ v.text))
  | v, string s => .ok (string (v.text ++ s))
  | instant t, span d | span d, instant t => orRefuse .add left right ((t.add? d).map instant)
  | span a, span b => orRefuse .add left right ((a.add? b).map span)
  | _, _ => Arithmetic.add.apply left right

def subtract (left right : Value) : Outcome Value :=
  match left, right with
  | instant t, span d => orRefuse .subtract left right ((t.sub? d).map instant)
  | instant a, instant b => .ok (span (a.since b))
  | span a, span b => orRefuse .subtract left right ((a.sub? b).map span)
  | _, _ => Arithmetic.subtract.apply left right

/-- Whether a span can be multiplied by this. -/
def isFactor (v : Value) : Bool :=
  v.numeric?.isSome && !v.isNull

/-- A number of milliseconds in floating point as a span: cut toward zero, held in range, and zero
where it is no number. -/
def spanOfMillis (ms : Float) : Value :=
  let whole :=
    match wholeOf? ms with
    | some n => n
    | none => if ms.isNaN then 0 else if ms < 0 then Int64.minValue else Int64.maxValue
  span (.ofMillis whole)

def millisOf (d : Span) : Float :=
  nearestFloat (clampInt64 d.millis)

def multiply (left right : Value) : Outcome Value :=
  match left, right with
  | span d, factor =>
    if factor.isFactor then .ok (spanOfMillis (millisOf d * factor.asDouble))
    else Arithmetic.multiply.apply left right
  | factor, span d =>
    if factor.isFactor then .ok (spanOfMillis (millisOf d * factor.asDouble))
    else Arithmetic.multiply.apply left right
  | _, _ => Arithmetic.multiply.apply left right

def divide (left right : Value) : Outcome Value :=
  match left, right with
  | span a, span b =>
    if b.millis = 0 then .error .divisionByZero else .ok (double (millisOf a / millisOf b))
  | span d, divisor =>
    if divisor.numeric?.isSome then
      if divisor.asDouble == 0 then .error .divisionByZero
      else .ok (spanOfMillis (millisOf d / divisor.asDouble))
    else Arithmetic.divide.apply left right
  | _, _ => Arithmetic.divide.apply left right

def negate (operand : Value) : Outcome Value :=
  match operand with
  | null => .ok null
  | integer n => .ok (ofInt (-n.toInt))
  | long n =>
    match toInt64? (-n.toInt) with
    | some m => .ok (long m)
    | none => .ok (double (-nearestFloat n))
  | float x => .ok (float (-x))
  | double x => .ok (double (-x))
  | boolean b => .ok (integer (if b then -1 else 0))
  | span d => .ok (span d.neg)
  | string s =>
    match decimalOf? s.toList with
    | some x => .ok (double (-x))
    | none => .ok null
  | _ => refuseUnary .negate operand

end Value

end Reckon
