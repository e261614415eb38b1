import Mathlib.Algebra.Order.Ring.Int
import Mathlib.Algebra.Ring.Commute
import Reckon.Proofs.Widening

/-!
# Remainders and powers of whole numbers

A remainder of whole numbers is exact and no wider than they are, and a power of them is exact as
long as 64 bits hold it. Two cases leave the whole numbers although their results would not have to:
the remainder of the least long number by minus one, whose quotient is too long, and powers of zero
and of the units with exponents of more than 32 bits.
-/

namespace Reckon

/-! ### Remainders -/

theorem FitsIn32.fitsIn64 {r : Int} (h : FitsIn32 r) : FitsIn64 r := by
  unfold FitsIn32 at h
  unfold FitsIn64
  omega

theorem Value.fitsIn32_of_wholeNumber? {v : Value} {x : Int} (h : v.wholeNumber? = some x)
    (hshort : v.isLong = false) : FitsIn32 x := by
  cases v with
  | null =>
    cases h
    exact ⟨by decide, by decide⟩
  | boolean b =>
    cases h
    cases b <;> exact ⟨by decide, by decide⟩
  | integer n =>
    cases h
    exact ⟨n.le_toInt, n.toInt_lt⟩
  | long n => cases hshort
  | _ => cases h

theorem Value.fitsIn64_of_wholeNumber? {v : Value} {x : Int} (h : v.wholeNumber? = some x) :
    FitsIn64 x := by
  cases v with
  | long n =>
    cases h
    exact fitsIn64_toInt n
  | _ => exact (fitsIn32_of_wholeNumber? h rfl).fitsIn64

/-- What the wider of two operands holds is neither widened nor given in floating point. -/
theorem Widened.kept {long : Bool} {r : Int} {v : Value} (h : Widened long r v)
    (h64 : FitsIn64 r) (h32 : long = false → FitsIn32 r) :
    v.kind = (if long then .long else .integer) ∧ v.wholeNumber? = some r := by
  cases h with
  | integer n hlong hn => exact ⟨by rw [hlong]; rfl, congrArg some hn⟩
  | long n hlong hn =>
    have hlong : long = true := by
      rcases hlong with hlong | hwide
      · exact hlong
      · exact Bool.eq_true_of_not_eq_false fun hshort => hwide (h32 hshort)
    exact ⟨by rw [hlong]; rfl, congrArg some hn⟩
  | double x hx => exact absurd h64 hx

theorem natAbs_tmod_lt (x : Int) {y : Int} (hy : y ≠ 0) : (x.tmod y).natAbs < y.natAbs := by
  rw [Int.natAbs_tmod]
  exact Nat.mod_lt _ (Int.natAbs_pos.mpr hy)

theorem fits_tmod (x : Int) {y : Int} (hy : y ≠ 0) :
    (FitsIn64 y → FitsIn64 (x.tmod y)) ∧ (FitsIn32 y → FitsIn32 (x.tmod y)) := by
  have hlt := natAbs_tmod_lt x hy
  unfold FitsIn64 FitsIn32
  omega

namespace Arithmetic

/-- A remainder is there if its quotient is. -/
theorem whole?_modulo {x y : Int} (hx : FitsIn64 x) (hy : y ≠ 0)
    (hleast : ¬(x = -2 ^ 63 ∧ y = -1)) : modulo.whole? x y = .ok (toInt64? (x.tmod y)) := by
  have hquotient : FitsIn64 (x.tdiv y) := by
    by_cases hone : y = -1
    · rw [hone, Int.tdiv_neg, Int.tdiv_one]
      unfold FitsIn64 at *
      omega
    · exact fitsIn64_tdiv hx hone
  rw [whole?, if_neg hy]
  cases hq : toInt64? (x.tdiv y) with
  | none => exact absurd hquotient (toInt64?_eq_none hq)
  | some q => rfl

theorem modulo_apply {a b : Value} {x y : Int} (ha : a.wholeNumber? = some x)
    (hb : b.wholeNumber? = some y) (hy : y ≠ 0) (hleast : ¬(x = -2 ^ 63 ∧ y = -1)) :
    ∃ v, modulo.apply a b = .ok v ∧ v.kind = (if a.isLong || b.isLong then .long else .integer) ∧
      v.wholeNumber? = some (x.tmod y) := by
  obtain ⟨h64, h32⟩ := fits_tmod x hy
  have hfits : FitsIn64 (x.tmod y) := h64 (Value.fitsIn64_of_wholeNumber? hb)
  obtain ⟨m, n, k, l, happly, hk, hl, rfl, rfl, hm, hn⟩ := apply_eq_combine modulo ha hb
  have hwhole := whole?_modulo (fitsIn64_toInt k) hy hleast
  obtain ⟨v, hv, hwidened⟩ := combine_widened hk hl hwhole fun hwide => absurd hfits hwide
  rw [hm, hn] at hwidened
  refine ⟨v, happly.trans hv, hwidened.kept hfits fun hshort => h32 ?_⟩
  exact Value.fitsIn32_of_wholeNumber? hb (Bool.or_eq_false_iff.mp hshort).2

theorem modulo_least_by_minus_one {a b : Value} (ha : a.wholeNumber? = some (-2 ^ 63))
    (hb : b.wholeNumber? = some (-1)) :
    modulo.apply a b =
      .ok (.double (remainder (nearestFloat Int64.minValue) (nearestFloat (-1)))) := by
  obtain ⟨m, n, k, l, happly, hk, hl, hmin, hone, -, -⟩ := apply_eq_combine modulo ha hb
  obtain rfl : k = Int64.minValue := Int64.toInt_inj.mp hmin
  obtain rfl : l = -1 := Int64.toInt_inj.mp hone
  rw [happly]
  refine combine_floating hk hl rfl ?_
  have hz : (nearestFloat (-1) == 0) = false := by decide
  rw [floating, hz]
  rfl

/-! ### Powers -/

theorem not_fits_pow {x : Int} {k : Nat} (hx : 2 ≤ x.natAbs) (hk : 64 ≤ k) :
    ¬FitsIn64 (x ^ k) := by
  have hlarge : 2 ^ 64 ≤ (x ^ k).natAbs := by
    calc 2 ^ 64 ≤ 2 ^ k := Nat.pow_le_pow_right (by decide) hk
      _ ≤ x.natAbs ^ k := Nat.pow_le_pow_left hx k
      _ = (x ^ k).natAbs := (Int.natAbs_pow x k).symm
  unfold FitsIn64
  omega

/-- Powers of zero and of the units repeat after the second. -/
theorem pow_of_natAbs_le_one {x : Int} {k : Nat} (hx : x.natAbs ≤ 1) (hk : 2 < k) :
    x ^ (2 - k % 2) = x ^ k := by
  obtain rfl | rfl | rfl : x = 0 ∨ x = 1 ∨ x = -1 := by omega
  · rw [zero_pow (by omega), zero_pow (by omega)]
  · rw [one_pow, one_pow]
  · rw [neg_one_pow_eq_pow_mod_two, neg_one_pow_eq_pow_mod_two k]
    congr 1
    omega

theorem wholePower?_eq {x : Int} {k : Nat} (h : k < 2 ^ 32 ∨ 2 ≤ x.natAbs) :
    (wholePower? x k).bind toInt64? = toInt64? (x ^ k) := by
  have hwide (hx : 2 ≤ x.natAbs) (hk : 64 ≤ k) : toInt64? (x ^ k) = none := by
    have hnot := not_fits_pow hx hk
    unfold FitsIn64 at hnot
    exact if_neg (by omega)
  rw [wholePower?, Int.toNat_natCast]
  by_cases hlong : 2 ^ 32 ≤ k
  · rw [if_pos (by omega), hwide (by omega) (by omega)]
    rfl
  · rw [if_neg (by omega)]
    by_cases hx : 2 ≤ x.natAbs
    · rw [if_pos hx]
      by_cases hk : 64 ≤ k
      · rw [if_pos (by omega), hwide hx hk]
        rfl
      · rw [if_neg (by omega)]
        rfl
    · rw [if_neg hx]
      by_cases hk : 2 < k
      · rw [if_pos (by omega), ← pow_of_natAbs_le_one (by omega) hk]
        rfl
      · rw [if_neg (by omega)]
        rfl

theorem power_apply {a b : Value} {x : Int} {k : Nat} (ha : a.wholeNumber? = some x)
    (hb : b.wholeNumber? = some (k : Int)) (h : k < 2 ^ 32 ∨ 2 ≤ x.natAbs) :
    ∃ v, power.apply a b = .ok v ∧ Widened (a.isLong || b.isLong) (x ^ k) v := by
  obtain ⟨m, n, p, q, happly, hp, hq, rfl, hk, hm, hn⟩ := apply_eq_combine power ha hb
  have hwhole : power.whole? p.toInt q.toInt = .ok (toInt64? (p.toInt ^ k)) := by
    rw [whole?, hk, wholePower?_eq h]
  rw [happly, ← hm, ← hn]
  exact combine_widened hp hq hwhole fun _ => ⟨_, rfl⟩

theorem power_of_long_exponent {a b : Value} {x : Int} {k : Nat} (ha : a.wholeNumber? = some x)
    (hb : b.wholeNumber? = some (k : Int)) (h : 2 ^ 32 ≤ k) :
    power.apply a b =
      .ok (.double ((nearestFloat (Int64.ofInt x)).pow (nearestFloat (Int64.ofInt k)))) := by
  obtain ⟨m, n, p, q, happly, hp, hq, rfl, hk, -, -⟩ := apply_eq_combine power ha hb
  have hwhole : power.whole? p.toInt q.toInt = .ok none := by
    rw [whole?, hk, wholePower?, if_pos (by omega)]
    rfl
  rw [happly, ← hk, Int64.ofInt_toInt, Int64.ofInt_toInt]
  exact combine_floating hp hq hwhole rfl

end Arithmetic

/-! ### Results -/

/-- The remainder of a division cut toward zero is exact, in the wider kind of the two operands. Of
the least long number by minus one it is computed in floating point. -/
theorem remainder_results (rule : TextRule) {a b : Value} {x y : Int}
    (ha : a.wholeNumber? = some x) (hb : b.wholeNumber? = some y) (hy : y ≠ 0) :
    (¬(x = -2 ^ 63 ∧ y = -1) → ∃ v, Operator.modulo.apply rule [a, b] = .ok v ∧
      v.kind = (if a.isLong || b.isLong then .long else .integer) ∧
      v.wholeNumber? = some (x - y * x.tdiv y)) ∧
    (x = -2 ^ 63 ∧ y = -1 → Operator.modulo.apply rule [a, b] =
      .ok (.double (remainder (nearestFloat Int64.minValue) (nearestFloat (-1))))) := by
  have happly : Operator.modulo.apply rule [a, b] = Arithmetic.modulo.apply a b := rfl
  rw [happly, ← Int.tmod_def]
  refine ⟨Arithmetic.modulo_apply ha hb hy, ?_⟩
  rintro ⟨rfl, rfl⟩
  exact Arithmetic.modulo_least_by_minus_one ha hb

theorem remainder_of_least_long :
    (∃ v, Operator.modulo.apply .exact [.long Int64.minValue, .integer (-3)] = .ok v ∧
      v.kind = .long ∧ v.wholeNumber? = some (-2)) ∧
    Operator.modulo.apply .exact [.long Int64.minValue, .integer (-1)] =
      .ok (.double (remainder (nearestFloat Int64.minValue) (nearestFloat (-1)))) := by
  have hleast : (Value.long Int64.minValue).wholeNumber? = some (-2 ^ 63) := by decide
  constructor
  · obtain ⟨v, hv, hkind, hnumber⟩ := (remainder_results .exact hleast (b := .integer (-3))
      (y := -3) (by decide) (by decide)).1 (by decide)
    exact ⟨v, hv, hkind, hnumber.trans (by decide)⟩
  · exact (remainder_results .exact hleast (b := .integer (-1)) (y := -1) (by decide)
      (by decide)).2 (by decide)

/-- The remainder that the least long number leaves by minus one is not given as a whole number. -/
theorem remainder_leaves_whole_numbers :
    ¬∀ (rule : TextRule) (a b : Value) (x y : Int), a.wholeNumber? = some x →
      b.wholeNumber? = some y → y ≠ 0 → ∃ v, Operator.modulo.apply rule [a, b] = .ok v ∧
        v.kind = (if a.isLong || b.isLong then .long else .integer) ∧
        v.wholeNumber? = some (x - y * x.tdiv y) := by
  intro h
  obtain ⟨v, hv, hkind, -⟩ :=
    h .exact (.long Int64.minValue) (.integer (-1)) (-2 ^ 63) (-1) (by decide) (by decide)
      (by decide)
  obtain rfl : Value.double _ = v := Except.ok.inj hv
  cases hkind

/-- A power with an exponent that is not negative is exact, widened no farther than it must be. Of
zero and of the units it is computed in floating point where the exponent needs more than 32
bits. -/
theorem power_results (rule : TextRule) {a b : Value} {x : Int} {k : Nat}
    (ha : a.wholeNumber? = some x) (hb : b.wholeNumber? = some (k : Int)) :
    (k < 2 ^ 32 ∨ 2 ≤ x.natAbs → ∃ v, Operator.power.apply rule [a, b] = .ok v ∧
      Widened (a.isLong || b.isLong) (x ^ k) v) ∧
    (2 ^ 32 ≤ k → Operator.power.apply rule [a, b] =
      .ok (.double ((nearestFloat (Int64.ofInt x)).pow (nearestFloat (Int64.ofInt k))))) :=
  ⟨Arithmetic.power_apply ha hb, Arithmetic.power_of_long_exponent ha hb⟩

/-- The least long number is a power of two integers. -/
theorem power_of_minus_two_and_one :
    (∃ v, Operator.power.apply .exact [.integer (-2), .integer 63] = .ok v ∧
      Widened false ((-2) ^ 63) v) ∧
    Operator.power.apply .exact [.boolean true, .long 4294967296] =
      .ok (.double ((nearestFloat (Int64.ofInt 1)).pow (nearestFloat (Int64.ofInt 4294967296)))) :=
  ⟨(power_results .exact (a := .integer (-2)) (b := .integer 63) (k := 63) (by decide)
      (by decide)).1 (by decide),
    (power_results .exact (a := .boolean true) (b := .long 4294967296) (k := 4294967296) (by decide)
      (by decide)).2 (by decide)⟩

/-- A power of minus one is a whole number whatever the exponent is, but it is not always given as
one. -/
theorem power_leaves_whole_numbers :
    ¬∀ (rule : TextRule) (a b : Value) (x : Int) (k : Nat), a.wholeNumber? = some x →
      b.wholeNumber? = some (k : Int) → ∃ v, Operator.power.apply rule [a, b] = .ok v ∧
        Widened (a.isLong || b.isLong) (x ^ k) v := by
  intro h
  obtain ⟨v, hv, hwidened⟩ :=
    h .exact (.integer (-1)) (.long 9007199254740993) (-1) 9007199254740993 (by decide) (by decide)
  obtain rfl : Value.double _ = v := Except.ok.inj hv
  have hpow : (-1 : Int) ^ 9007199254740993 = -1 := neg_one_pow_eq_pow_mod_two 9007199254740993
  rw [hpow] at hwidened
  cases hwidened with
  | double x hx => exact hx ⟨by decide, by decide⟩

end Reckon
