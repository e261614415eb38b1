import Reckon.BinaryFloat

/-!
# The shortest decimal of a floating point number

Among the decimals that round to a number, the ones with the fewest digits are taken, and of these
the one nearest to the number. The decimals that round to it fill an interval: half way to both
neighbours, with the ends when the significand is even. A grid of spacing `10 ^ k` has a point in
that interval only if one of the two grid points around the number is in it.
-/

namespace Reckon

/-- The decimal `digits * 10 ^ exponent`. -/
structure ShortDecimal where
  digits : Nat
  exponent : Int

/-- Where a number lies exactly half way between the two decimals left. -/
inductive HalfWay where
  | up
  | even
deriving DecidableEq

namespace BinaryFloat

/-- The better of the two points of the grid `10 ^ k` around the number, if one rounds to it.
Lengths are counted in quarters of the unit `2 ^ exponent`. -/
def onGrid? (b : BinaryFloat) (half : HalfWay) (k : Int) : Option Nat :=
  let scale := Nat.pow 2 b.exponent.toNat * Nat.pow 10 (-k).toNat
  let spacing := 4 * Nat.pow 2 (-b.exponent).toNat * Nat.pow 10 k.toNat
  let value := 4 * b.significand * scale
  let low := value - (if b.atBinade then 1 else 2) * scale
  let high := value + 2 * scale
  let inside (n : Nat) : Bool :=
    if b.significand % 2 = 0 then low ≤ n * spacing && n * spacing ≤ high
    else low < n * spacing && n * spacing < high
  let floor := value / spacing
  match inside floor, inside (floor + 1) with
  | false, false => none
  | true, false => some floor
  | false, true => some (floor + 1)
  | true, true =>
    let below := value - floor * spacing
    let above := (floor + 1) * spacing - value
    if below < above || (below = above && half = .even && floor % 2 = 0) then some floor
    else some (floor + 1)

def shortestFrom (b : BinaryFloat) (half : HalfWay) : (grids : Nat) → (k : Int) → ShortDecimal
  | 0, k => ⟨(b.onGrid? half k).getD 0, k⟩
  | grids + 1, k =>
    match b.onGrid? half k with
    | some digits => ⟨digits, k⟩
    | none => b.shortestFrom half grids (k - 1)

/-- The search starts above the first digit of the number; seventeen digits below it always do. -/
def shortest (b : BinaryFloat) (half : HalfWay) : ShortDecimal :=
  if b.significand = 0 then ⟨0, 0⟩
  else b.shortestFrom half 24 ((b.significand.log2 + b.exponent + 1) * 30103 / 100000 + 2)

end BinaryFloat

end Reckon
