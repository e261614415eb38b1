import Reckon.Value

/-!
# Conversion

A value is read as another kind where that has a meaning, and as nothing where it has none. Null
reads as the zero of a kind; numbers are cut toward zero and held within their range; instants and
spans count as milliseconds.
-/

namespace Reckon

/-! ### Texts as numbers -/

/-- Blanks around the number do not matter, and infinity is not a number here. -/
def decimalOf? (s : List Char) : Option Float :=
  (readFloat? (trim s)).filter Float.isFinite

def wholeOf? (x : Float) : Option Int64 :=
  (wholePart? x).map clampInt64

def longOf? (s : List Char) : Option Int64 :=
  ((readInt? (trim s)).bind toInt64?).orElse fun _ => (decimalOf? s).bind wholeOf?

def booleanOf? (s : List Char) : Option Bool :=
  if sameLetters (trim s) "true".toList then some true
  else if sameLetters (trim s) "false".toList then some false
  else (decimalOf? s).map (· != 0)

namespace Json

def toDouble? : Json → Option Float
  | .integer n => some (floatOfInt n)
  | .float x => some x
  | .boolean b => some (if b then 1 else 0)
  | .string s => decimalOf? s.toList
  | _ => none

end Json

namespace Value

def toLong? : Value → Option Int64
  | null => some 0
  | integer n => some n.toInt64
  | long n => some n
  | float x => wholeOf? (widen x)
  | double x => wholeOf? x
  | boolean b => some (if b then 1 else 0)
  | string s => longOf? s.toList
  | instant t => some (clampInt64 t.millis)
  | span d => some (clampInt64 d.millis)
  | object document => document.toDouble?.bind wholeOf?
  | array _ => none

def toDouble? : Value → Option Float
  | null => some 0
  | integer n => some (nearestFloat n.toInt64)
  | long n => some (nearestFloat n)
  | float x => some (widen x)
  | double x => some x
  | boolean b => some (if b then 1 else 0)
  | string s => decimalOf? s.toList
  | instant t => some (nearestFloat (clampInt64 t.millis))
  | span d => some (nearestFloat (clampInt64 d.millis))
  | object document => document.toDouble?
  | array _ => none

def toBoolean? : Value → Option Bool
  | null => some false
  | boolean b => some b
  | integer n => some (n != 0)
  | long n => some (n != 0)
  | float x => some (x != 0)
  | double x => some (x != 0)
  | string s => booleanOf? s.toList
  | object (.boolean b) => some b
  | _ => none

def toInstant? : Value → Option Instant
  | instant t => some t
  | string s => Instant.read? s.toList
  | object (.string s) => Instant.read? s.toList
  | span _ | array _ => none
  | v => v.toLong?.bind fun ms => Instant.ofMillis? ms.toInt

def toSpan? : Value → Option Span
  | span d => some d
  | string s => (Span.read? s.toList).orElse fun _ => (longOf? s.toList).map Span.ofMillis
  | instant _ | array _ => none
  | v => v.toLong?.map Span.ofMillis

def asLong (v : Value) : Int64 :=
  v.toLong?.getD 0

def asInteger (v : Value) : Int32 :=
  clampInt32 v.asLong.toInt

def asDouble (v : Value) : Float :=
  v.toDouble?.getD 0

def asFloat (v : Value) : Float32 :=
  v.asDouble.toFloat32

def asBoolean (v : Value) : Bool :=
  v.toBoolean?.getD false

def asInstant (v : Value) : Instant :=
  v.toInstant?.getD .epoch

def asSpan (v : Value) : Span :=
  v.toSpan?.getD .zero

def convert? (v : Value) : Kind → Option Value
  | .null => some null
  | .integer => v.toLong?.map fun n => integer (clampInt32 n.toInt)
  | .long => v.toLong?.map long
  | .float => v.toDouble?.map fun x => float x.toFloat32
  | .double => v.toDouble?.map double
  | .string => some (string v.text)
  | .boolean => v.toBoolean?.map boolean
  | .instant => v.toInstant?.map instant
  | .span => v.toSpan?.map span
  | .object => if v.isNull then none else some (object v.toJson)
  | .array => if v.isNull then none else some (array [v])

/-- A value of the kind asked for is left as it is, and one that has no such reading becomes null. -/
def convert (v : Value) (target : Kind) : Value :=
  if v.kind = target then v else (v.convert? target).getD null

end Value

end Reckon
