/-!
# Whole numbers of 32 and 64 bits

Arithmetic is done on `Int`, and a result is kept in the narrowest type that holds it. `toInt32?` and
`toInt64?` succeed exactly on the numbers of their type; `clampInt32` and `clampInt64` take the
nearest one. A number becomes a floating point one by its magnitude.
-/

namespace Reckon

def toInt32? (n : Int) : Option Int32 :=
  if -2147483648 ≤ n ∧ n ≤ 2147483647 then some (Int32.ofInt n) else none

def toInt64? (n : Int) : Option Int64 :=
  if -9223372036854775808 ≤ n ∧ n ≤ 9223372036854775807 then some (Int64.ofInt n) else none

def clampInt32 (n : Int) : Int32 :=
  Int32.ofInt (max (-2147483648) (min n 2147483647))

def clampInt64 (n : Int) : Int64 :=
  Int64.ofInt (max (-9223372036854775808) (min n 9223372036854775807))

/-- The nearest floating point number, by the magnitude. The opposite of the least number wraps
around, but its bits without a sign are the magnitude all the same. -/
def nearestFloat (n : Int64) : Float :=
  if n < 0 then -(-n).toUInt64.toFloat else n.toUInt64.toFloat

theorem toInt_of_toInt32? {n : Int} {k : Int32} (h : toInt32? n = some k) : k.toInt = n := by
  unfold toInt32? at h
  split at h
  · cases h
    exact Int32.toInt_ofInt_of_le (by omega) (by omega)
  · cases h

theorem toInt_of_toInt64? {n : Int} {k : Int64} (h : toInt64? n = some k) : k.toInt = n := by
  unfold toInt64? at h
  split at h
  · cases h
    exact Int64.toInt_ofInt_of_le (by omega) (by omega)
  · cases h

end Reckon
