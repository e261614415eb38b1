/-!
# Finite floating point numbers as integers times powers of two

`binary64?` and `binary32?` read the sign, the significand and the exponent off the bits of a finite
number. `widen`, `wholePart?` and `remainder` are exact, so they are computed on these
parts.
-/

namespace Reckon

/-- The number `± significand * 2 ^ exponent`. At `atBinade` the significand is the least of its
exponent, so that the numbers below it lie half as far apart as those above. -/
structure BinaryFloat where
  negative : Bool
  significand : Nat
  exponent : Int
  atBinade : Bool

namespace BinaryFloat

/-- Reads a word of a sign, `exponentBits` exponent bits and `fractionBits` fraction bits; there is
no number to read where the exponent is all ones. -/
def ofWord? (exponentBits fractionBits : Nat) (word : Nat) : Option BinaryFloat :=
  let fraction := word % Nat.pow 2 fractionBits
  let biased := word / Nat.pow 2 fractionBits % Nat.pow 2 exponentBits
  let negative := word / Nat.pow 2 (fractionBits + exponentBits) % 2 = 1
  let lowest : Int := 2 - Int.pow 2 (exponentBits - 1) - fractionBits
  if biased = Nat.pow 2 exponentBits - 1 then none
  else if biased = 0 then some ⟨negative, fraction, lowest, false⟩
  else some ⟨negative, Nat.pow 2 fractionBits + fraction, lowest + (biased - 1),
    fraction = 0 && 1 < biased⟩

/-- The integer part, toward zero. -/
def whole (b : BinaryFloat) : Int :=
  let magnitude := b.significand * Nat.pow 2 b.exponent.toNat / Nat.pow 2 (-b.exponent).toNat
  if b.negative then -(magnitude : Int) else magnitude

end BinaryFloat

def binary64? (x : Float) : Option BinaryFloat :=
  BinaryFloat.ofWord? 11 52 x.toBits.toNat

def binary32? (x : Float32) : Option BinaryFloat :=
  BinaryFloat.ofWord? 8 23 x.toBits.toNat

def wholePart? (x : Float) : Option Int :=
  (binary64? x).map BinaryFloat.whole

/-- Every number of 32 bits is one of 64 bits. -/
def widen (x : Float32) : Float :=
  let word := x.toBits.toNat
  let fraction := word % Nat.pow 2 23
  let biased := word / Nat.pow 2 23 % Nat.pow 2 8
  let sign := word / Nat.pow 2 31 * Nat.pow 2 63
  let magnitude :=
    if biased = 255 then 2047 * Nat.pow 2 52 + fraction * Nat.pow 2 29
    else if biased = 0 then
      if fraction = 0 then 0
      else
        let top := fraction.log2
        (top + 874) * Nat.pow 2 52 + (fraction - Nat.pow 2 top) * Nat.pow 2 (52 - top)
    else (biased + 896) * Nat.pow 2 52 + fraction * Nat.pow 2 29
  Float.ofBits (UInt64.ofNat (sign + magnitude))

/-- What is left of `x` after taking away as many whole `y` as fit, with the sign of `x`. -/
def remainder (x y : Float) : Float :=
  match binary64? x, binary64? y with
  | some a, some b =>
    if b.significand = 0 then 0 / 0
    else
      let unit := min a.exponent b.exponent
      let left := a.significand * Nat.pow 2 (a.exponent - unit).toNat
      let right := b.significand * Nat.pow 2 (b.exponent - unit).toNat
      let rest := (Float.ofNat (left % right)).scaleB unit
      if a.negative then -rest else rest
  | some _, none => if y.isNaN then y else x
  | none, _ => 0 / 0

end Reckon
