import Mathlib.Algebra.Ring.Int.Defs
import Reckon.NumberLibrary
import Reckon.Proofs.Sequencing

/-!
# Widened results

A sum, a difference, a product, a quotient, a negated or an absolute value of whole numbers is exact
as long as 64 bits hold it. It is long where an operand is or where it needs more than 32 bits, and a
floating point number where it needs more than 64. Only a division by zero fails.
-/

namespace Reckon

def FitsIn32 (r : Int) : Prop :=
  -2 ^ 31 ≤ r ∧ r < 2 ^ 31

def FitsIn64 (r : Int) : Prop :=
  -2 ^ 63 ≤ r ∧ r < 2 ^ 63

instance (r : Int) : Decidable (FitsIn32 r) :=
  inferInstanceAs (Decidable (_ ∧ _))

instance (r : Int) : Decidable (FitsIn64 r) :=
  inferInstanceAs (Decidable (_ ∧ _))

def Value.wholeNumber? : Value → Option Int
  | null => some 0
  | boolean b => some (if b then 1 else 0)
  | integer n => some n.toInt
  | long n => some n.toInt
  | _ => none

def Value.isLong : Value → Bool
  | long _ => true
  | _ => false

/-- What two whole numbers give when there is no limit to their size; quotients are cut toward
zero. -/
def exactResult : Operator → Int → Int → Option Int
  | .add, x, y => some (x + y)
  | .subtract, x, y => some (x - y)
  | .multiply, x, y => some (x * y)
  | .divide, x, y => if y = 0 then none else some (x.tdiv y)
  | _, _, _ => none

/-- The value is the number `r`, or a floating point number in its place, in the narrowest kind that
it may have; no kind narrower than a long one may be given where `long` holds. -/
inductive Widened (long : Bool) (r : Int) : Value → Prop where
  | integer (n : Int32) : long = false → n.toInt = r → Widened long r (.integer n)
  | long (n : Int64) : long = true ∨ ¬FitsIn32 r → n.toInt = r → Widened long r (.long n)
  | double (x : Float) : ¬FitsIn64 r → Widened long r (.double x)

/-! ### Numbers that words hold -/

theorem toInt32?_eq_none {r : Int} (h : toInt32? r = none) : ¬FitsIn32 r := by
  unfold toInt32? at h
  unfold FitsIn32
  split at h
  · cases h
  · omega

theorem toInt64?_eq_none {r : Int} (h : toInt64? r = none) : ¬FitsIn64 r := by
  unfold toInt64? at h
  unfold FitsIn64
  split at h
  · cases h
  · omega

theorem toInt64?_eq (n : Int) : toInt64? n = if FitsIn64 n then some (.ofInt n) else none := by
  unfold toInt64? FitsIn64
  exact if_congr (by omega) rfl rfl

theorem fitsIn64_toInt (n : Int64) : FitsIn64 n.toInt :=
  ⟨n.le_toInt, n.toInt_lt⟩

theorem fitsIn64_of_toInt32 (n : Int32) : FitsIn64 (-n.toInt) ∧ FitsIn64 n.toInt.natAbs := by
  have hlo := n.le_toInt
  have hhi := n.toInt_lt
  unfold FitsIn64
  omega

/-- A quotient of two long numbers is too long only for the least of them and minus one. -/
theorem fitsIn64_tdiv {x y : Int} (hx : FitsIn64 x) (hy : y ≠ -1) : FitsIn64 (x.tdiv y) := by
  have hq : (x.tdiv y).natAbs = x.natAbs / y.natAbs := Int.natAbs_tdiv x y
  unfold FitsIn64 at hx ⊢
  by_cases hone : y = 1
  · rwa [hone, Int.tdiv_one]
  · by_cases hzero : y = 0
    · rw [hzero, Int.tdiv_zero]
      omega
    · have hhalf : x.natAbs / y.natAbs ≤ x.natAbs / 2 :=
        Nat.div_le_div_left (by omega) (by decide)
      omega

theorem Value.ofInt_widened {r : Int} (h : FitsIn64 r) : Widened false r (.ofInt r) := by
  unfold ofInt
  split
  · rename_i k hk
    exact .integer k rfl (toInt_of_toInt32? hk)
  · rename_i hnone
    split
    · rename_i k hk
      exact .long k (.inr (toInt32?_eq_none hnone)) (toInt_of_toInt64? hk)
    · rename_i hnone
      exact absurd h (toInt64?_eq_none hnone)

/-! ### Two operands -/

theorem Value.numeric?_of_wholeNumber? {v : Value} {x : Int} (h : v.wholeNumber? = some x) :
    ∃ m k, v.numeric? = some m ∧ m.whole? = some k ∧ k.toInt = x ∧ m.isLong = v.isLong := by
  cases v with
  | null =>
    cases h
    exact ⟨_, _, rfl, rfl, rfl, rfl⟩
  | boolean b =>
    cases h
    cases b <;> exact ⟨_, _, rfl, rfl, rfl, rfl⟩
  | integer n =>
    cases h
    exact ⟨_, _, rfl, rfl, Int32.toInt_toInt64 n, rfl⟩
  | long n =>
    cases h
    exact ⟨_, _, rfl, rfl, rfl, rfl⟩
  | _ => cases h

theorem Value.toLong?_of_wholeNumber? {v : Value} {x : Int} (h : v.wholeNumber? = some x) :
    v.isStructured = false ∧ ∃ n : Int64, v.toLong? = some n ∧ n.toInt = x := by
  cases v with
  | null =>
    cases h
    exact ⟨rfl, 0, rfl, rfl⟩
  | boolean b =>
    cases h
    cases b
    · exact ⟨rfl, 0, rfl, rfl⟩
    · exact ⟨rfl, 1, rfl, rfl⟩
  | integer n =>
    cases h
    exact ⟨rfl, n.toInt64, rfl, Int32.toInt_toInt64 n⟩
  | long n =>
    cases h
    exact ⟨rfl, n, rfl, rfl⟩
  | _ => cases h

namespace Arithmetic

theorem whole?_of_exactResult {op : Arithmetic} {x y r : Int}
    (h : exactResult op.operator x y = some r) : op.whole? x y = .ok (toInt64? r) := by
  cases op with
  | add | subtract | multiply =>
    cases h
    rfl
  | divide =>
    simp only [operator, exactResult] at h
    split at h
    · cases h
    · rename_i hy
      cases h
      exact if_neg hy
  | modulo | power => cases h

/-- The one quotient that is too long has no zero for its divisor in floating point either. -/
theorem floating_of_exactResult {op : Arithmetic} {x y : Int64} {r : Int}
    (h : exactResult op.operator x.toInt y.toInt = some r) (hr : ¬FitsIn64 r) :
    ∃ z, op.floating (nearestFloat x) (nearestFloat y) = .ok z := by
  cases op with
  | add | subtract | multiply => exact ⟨_, rfl⟩
  | divide =>
    have hy : y = -1 := by
      by_contra hne
      simp only [operator, exactResult] at h
      split at h
      · cases h
      · cases h
        exact hr (fitsIn64_tdiv (fitsIn64_toInt x) fun hy => hne (Int64.toInt_inj.mp hy))
    have hz : (nearestFloat (-1) == 0) = false := by decide
    subst hy
    exact ⟨_, by rw [floating, hz]; rfl⟩
  | modulo | power => cases h

/-- What has no whole result is computed again in floating point. -/
theorem combine_floating {op : Arithmetic} {a b : Numeric} {x y : Int64} {z : Float}
    (ha : a.whole? = some x) (hb : b.whole? = some y)
    (hwhole : op.whole? x.toInt y.toInt = .ok none)
    (hz : op.floating (nearestFloat x) (nearestFloat y) = .ok z) :
    op.combine a b = .ok (.double z) := by
  simp only [combine, ha, hb, hwhole, hz, ok_bind]

/-- A whole result is widened no farther than it must be, if the operator computes it whenever 64
bits hold it, and in floating point otherwise. -/
theorem combine_widened {op : Arithmetic} {a b : Numeric} {x y : Int64} {r : Int}
    (ha : a.whole? = some x) (hb : b.whole? = some y)
    (hwhole : op.whole? x.toInt y.toInt = .ok (toInt64? r))
    (hfloating : ¬FitsIn64 r → ∃ z, op.floating (nearestFloat x) (nearestFloat y) = .ok z) :
    ∃ v, op.combine a b = .ok v ∧ Widened (a.isLong || b.isLong) r v := by
  cases hn : toInt64? r with
  | none =>
    obtain ⟨z, hz⟩ := hfloating (toInt64?_eq_none hn)
    rw [hn] at hwhole
    exact ⟨.double z, combine_floating ha hb hwhole hz, .double z (toInt64?_eq_none hn)⟩
  | some n =>
    have hnr : n.toInt = r := toInt_of_toInt64? hn
    simp only [combine, ha, hb, hwhole, hn, ok_bind]
    cases hlong : a.isLong || b.isLong with
    | true => exact ⟨.long n, rfl, .long n (.inl rfl) hnr⟩
    | false =>
      have hfits : FitsIn64 r := hnr ▸ fitsIn64_toInt n
      exact ⟨.ofInt n.toInt, rfl, hnr.symm ▸ Value.ofInt_widened hfits⟩

/-- Operands that count as whole numbers are combined as words that hold them. -/
theorem apply_eq_combine (op : Arithmetic) {a b : Value} {x y : Int}
    (ha : a.wholeNumber? = some x) (hb : b.wholeNumber? = some y) :
    ∃ m n k l, op.apply a b = op.combine m n ∧ m.whole? = some k ∧ n.whole? = some l ∧
      k.toInt = x ∧ l.toInt = y ∧ m.isLong = a.isLong ∧ n.isLong = b.isLong := by
  obtain ⟨m, k, hm, hmk, hk, hml⟩ := Value.numeric?_of_wholeNumber? ha
  obtain ⟨n, l, hn, hnl, hl, hnlong⟩ := Value.numeric?_of_wholeNumber? hb
  exact ⟨m, n, k, l, by simp only [apply, hm, hn], hmk, hnl, hk, hl, hml, hnlong⟩

theorem apply_widened {op : Arithmetic} {a b : Value} {x y r : Int}
    (ha : a.wholeNumber? = some x) (hb : b.wholeNumber? = some y)
    (hr : exactResult op.operator x y = some r) :
    ∃ v, op.apply a b = .ok v ∧ Widened (a.isLong || b.isLong) r v := by
  obtain ⟨m, n, k, l, happly, hk, hl, rfl, rfl, hm, hn⟩ := apply_eq_combine op ha hb
  rw [happly, ← hm, ← hn]
  exact combine_widened hk hl (whole?_of_exactResult hr) (floating_of_exactResult hr)

end Arithmetic

theorem exists_arithmetic {op : Operator} {x y r : Int} (h : exactResult op x y = some r) :
    ∃ arithmetic : Arithmetic, arithmetic.operator = op := by
  cases op with
  | add => exact ⟨.add, rfl⟩
  | subtract => exact ⟨.subtract, rfl⟩
  | multiply => exact ⟨.multiply, rfl⟩
  | divide => exact ⟨.divide, rfl⟩
  | _ => cases h

/-- Only texts, instants and spans have a meaning of their own for the arithmetic operators. -/
theorem Operator.apply_of_wholeNumber? (rule : TextRule) (op : Arithmetic) {a b : Value} {x y : Int}
    (ha : a.wholeNumber? = some x) (hb : b.wholeNumber? = some y) :
    op.operator.apply rule [a, b] = op.apply a b := by
  cases a with
  | null | boolean | integer | long =>
    cases b with
    | null | boolean | integer | long => cases op <;> rfl
    | _ => cases hb
  | _ => cases ha

theorem Arithmetic.divide_by_zero {a b : Value} {x : Int} (ha : a.wholeNumber? = some x)
    (hb : b.wholeNumber? = some 0) : Arithmetic.divide.apply a b = .error .divisionByZero := by
  obtain ⟨m, n, k, l, happly, hk, hl, -, hzero, -, -⟩ := apply_eq_combine .divide ha hb
  rw [happly]
  simp only [combine, hk, hl, whole?, hzero, if_true, error_bind]

/-! ### One operand -/

theorem long_or_double_widened {ε : Type} (r : Int) (x : Float) :
    ∃ v, (match toInt64? r with
      | some m => Except.ok (Value.long m)
      | none => .ok (.double x) : Except ε Value) = .ok v ∧ Widened true r v := by
  cases hm : toInt64? r with
  | none => exact ⟨_, rfl, .double x (toInt64?_eq_none hm)⟩
  | some m => exact ⟨_, rfl, .long m (.inl rfl) (toInt_of_toInt64? hm)⟩

theorem Value.negate_widened {v : Value} {x : Int} (hv : v.kind = .integer ∨ v.kind = .long)
    (hx : v.wholeNumber? = some x) : ∃ w, v.negate = .ok w ∧ Widened v.isLong (-x) w := by
  cases v with
  | integer n =>
    cases hx
    exact ⟨_, rfl, ofInt_widened (fitsIn64_of_toInt32 n).1⟩
  | long n =>
    cases hx
    exact long_or_double_widened (-n.toInt) (-nearestFloat n)
  | _ => rcases hv with hv | hv <;> cases hv

theorem NumberLibrary.absolute_widened {v : Value} {x : Int}
    (hv : v.kind = .integer ∨ v.kind = .long) (hx : v.wholeNumber? = some x) :
    ∃ w, absolute v = .ok w ∧ Widened v.isLong x.natAbs w := by
  cases v with
  | integer n =>
    cases hx
    exact ⟨_, rfl, Value.ofInt_widened (fitsIn64_of_toInt32 n).2⟩
  | long n =>
    cases hx
    exact long_or_double_widened n.toInt.natAbs (nearestFloat n).abs
  | _ => rcases hv with hv | hv <;> cases hv

/-! ### All of them -/

/-- Whole numbers never wrap around and never fail but in a division by zero: each result is the
exact one, widened no farther than it must be. -/
theorem widened_results (rule : TextRule) :
    (∀ (op : Operator) (a b : Value) (x y r : Int), a.wholeNumber? = some x →
      b.wholeNumber? = some y → exactResult op x y = some r →
      ∃ v, op.apply rule [a, b] = .ok v ∧ Widened (a.isLong || b.isLong) r v) ∧
    (∀ (a b : Value) (x : Int), a.wholeNumber? = some x → b.wholeNumber? = some 0 →
      Operator.divide.apply rule [a, b] = .error .divisionByZero) ∧
    ∀ (a : Value) (x : Int), a.kind = .integer ∨ a.kind = .long → a.wholeNumber? = some x →
      (∃ v, Operator.negate.apply rule [a] = .ok v ∧ Widened a.isLong (-x) v) ∧
      ∃ v, (∀ moment, NumberLibrary.abs.body rule moment [a] = .ok v) ∧
        Widened a.isLong x.natAbs v := by
  refine ⟨fun op a b x y r ha hb hr => ?_, fun a b x ha hb => ?_, fun a x hk ha => ⟨?_, ?_⟩⟩
  · obtain ⟨arithmetic, rfl⟩ := exists_arithmetic hr
    rw [Operator.apply_of_wholeNumber? rule arithmetic ha hb]
    exact Arithmetic.apply_widened ha hb hr
  · exact (Operator.apply_of_wholeNumber? rule .divide ha hb).trans
      (Arithmetic.divide_by_zero ha hb)
  · exact Value.negate_widened hk ha
  · obtain ⟨v, habs, hv⟩ := NumberLibrary.absolute_widened hk ha
    exact ⟨v, fun _ => habs, hv⟩

/-- The least long number has no opposite among the long ones, and so no quotient by minus one. -/
theorem widened_least_by_minus_one :
    ∃ v, Operator.divide.apply .exact [.long Int64.minValue, .integer (-1)] = .ok v ∧
      Widened true (2 ^ 63) v :=
  (widened_results .exact).1 .divide (.long Int64.minValue) (.integer (-1)) (-2 ^ 63) (-1) (2 ^ 63)
    (by decide) (by decide) (by decide)

end Reckon
