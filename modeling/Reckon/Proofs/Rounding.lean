import Mathlib.Algebra.Order.Field.Power
import Mathlib.Algebra.Order.Field.Rat
import Mathlib.Tactic.Linarith
import Mathlib.Tactic.Positivity
import Reckon.Proofs.PackedFloats

/-!
# Rounding to the nearest floating point number

A mantissa together with what is known of the digits behind it stands for an exact number. Shifting
halves the number, and rounding goes up from half a unit below an even mantissa on. So a number is
rounded to one whose exponent is at most `k` just where it lies below the middle between the largest
of these and the next power of two.
-/

namespace Reckon

open Float.Model Float.Model.UnpackedFloat

/-- The exact number of which a mantissa is the whole part. -/
def Measures (mantissa : Nat) (x : ℚ) : Accuracy → Prop
  | .exact => x = mantissa
  | .inexact .lt => mantissa < x ∧ x < mantissa + 1 / 2
  | .inexact .eq => x = mantissa + 1 / 2
  | .inexact .gt => mantissa + 1 / 2 < x ∧ x < mantissa + 1

def Represents (em : ExtendedMantissa) (x : ℚ) : Prop :=
  Measures em.mantissa x em.accuracy

section

variable {em : ExtendedMantissa} {mantissa : Nat} {accuracy : Accuracy} {x : ℚ}

theorem Measures.bounds (h : Measures mantissa x accuracy) : mantissa ≤ x ∧ x < mantissa + 1 := by
  match accuracy, h with
  | .exact, h => exact ⟨h.ge, by rw [h]; linarith⟩
  | .inexact .lt, h => exact ⟨h.1.le, by linarith [h.2]⟩
  | .inexact .eq, h => exact ⟨by rw [h]; linarith, by rw [h]; linarith⟩
  | .inexact .gt, h => exact ⟨by linarith [h.1], h.2⟩

theorem represents_ofMantissaAndAccuracy (h : Measures mantissa x accuracy) :
    Represents (.ofMantissaAndAccuracy mantissa accuracy) x := by
  match accuracy, h with
  | .exact, h => exact h
  | .inexact .lt, h => exact h
  | .inexact .eq, h => exact h
  | .inexact .gt, h => exact h

theorem le_iff_of_nearest {n m : Nat} (hlow : (m : ℚ) - 1 / 2 ≤ x) (hhigh : x < (m : ℚ) + 1 / 2) :
    n ≤ m ↔ (n : ℚ) - 1 / 2 ≤ x := by
  constructor
  · intro hle
    have hcast : (n : ℚ) ≤ m := by exact_mod_cast hle
    linarith
  · intro hhalf
    have hcast : (n : ℚ) < ((m + 1 : Nat) : ℚ) := by
      push_cast
      linarith
    exact Nat.le_of_lt_succ (by exact_mod_cast hcast)

/-- Rounding goes up to an even number from half a unit below it on. -/
theorem le_roundToNearestEven_iff (h : Measures mantissa x accuracy) {n : Nat} (hn : n % 2 = 0) :
    n ≤ accuracy.roundToNearestEven mantissa ↔ (n : ℚ) - 1 / 2 ≤ x := by
  match accuracy, h with
  | .exact, h =>
    have hx : x = mantissa := h
    exact le_iff_of_nearest (m := mantissa) (by linarith) (by linarith)
  | .inexact .lt, ⟨hlow, hhigh⟩ =>
    exact le_iff_of_nearest (m := mantissa) (by linarith) hhigh
  | .inexact .eq, h =>
    have hx : x = mantissa + 1 / 2 := h
    have heven : n ≤ mantissa + mantissa % 2 ↔ n ≤ mantissa + 1 := by omega
    exact heven.trans (le_iff_of_nearest (by push_cast; linarith) (by push_cast; linarith))
  | .inexact .gt, ⟨hlow, hhigh⟩ =>
    exact le_iff_of_nearest (m := mantissa + 1) (by push_cast; linarith) (by push_cast; linarith)

/-- Of the digits behind the mantissa only matters whether there are any. -/
theorem Represents.behind (h : Represents em x) :
    if em.roundBit || em.stickyBit then (em.mantissa : ℚ) < x ∧ x < em.mantissa + 1
    else x = em.mantissa := by
  obtain ⟨mantissa, roundBit, stickyBit⟩ := em
  match roundBit, stickyBit, h with
  | false, false, h => exact h
  | false, true, ⟨hlow, hhigh⟩ => exact ⟨hlow, by linarith⟩
  | true, false, h =>
    have hx : x = mantissa + 1 / 2 := h
    exact ⟨by linarith, by linarith⟩
  | true, true, ⟨hlow, hhigh⟩ => exact ⟨by linarith, hhigh⟩

theorem Represents.shiftRightOne (h : Represents em x) : Represents em.shiftRightOne (x / 2) := by
  have hbehind := h.behind
  have hmantissa : (em.mantissa : ℚ) =
      2 * ((em.mantissa / 2 : Nat) : ℚ) + ((em.mantissa % 2 : Nat) : ℚ) := by
    exact_mod_cast (Nat.div_add_mod em.mantissa 2).symm
  rw [Represents, ExtendedMantissa.shiftRightOne]
  rcases Nat.mod_two_eq_zero_or_one em.mantissa with hparity | hparity
  · rw [hparity, Nat.cast_zero, add_zero] at hmantissa
    cases hbits : em.roundBit || em.stickyBit with
    | false =>
      rw [hbits, if_neg Bool.false_ne_true, hmantissa] at hbehind
      simp only [hparity, bne_self_eq_false]
      change x / 2 = _
      linarith
    | true =>
      rw [hbits, if_pos rfl, hmantissa] at hbehind
      simp only [hparity, bne_self_eq_false]
      change _ < x / 2 ∧ x / 2 < _
      constructor <;> linarith [hbehind.1, hbehind.2]
  · rw [hparity, Nat.cast_one] at hmantissa
    have hodd : (1 != 0) = true := rfl
    cases hbits : em.roundBit || em.stickyBit with
    | false =>
      rw [hbits, if_neg Bool.false_ne_true, hmantissa] at hbehind
      simp only [hparity, hodd]
      change x / 2 = _
      linarith
    | true =>
      rw [hbits, if_pos rfl, hmantissa] at hbehind
      simp only [hparity, hodd]
      change _ < x / 2 ∧ x / 2 < _
      constructor <;> linarith [hbehind.1, hbehind.2]

theorem Represents.shiftRight (h : Represents em x) (n : Nat) :
    Represents (em >>> n) (x / 2 ^ n) := by
  change Represents (n.repeat ExtendedMantissa.shiftRightOne em) _
  induction n with
  | zero => rwa [pow_zero, div_one]
  | succ n ih =>
    rw [pow_succ, ← div_div]
    exact ih.shiftRightOne

theorem mantissa_shiftRight (em : ExtendedMantissa) (n : Nat) :
    (em >>> n).mantissa = em.mantissa / 2 ^ n := by
  change (n.repeat ExtendedMantissa.shiftRightOne em).mantissa = _
  induction n with
  | zero => rw [pow_zero, Nat.div_one]; rfl
  | succ n ih =>
    rw [pow_succ, ← Nat.div_div_eq_div_mul, ← ih]
    rfl

end

/-! ### Shifting to fifty-three digits -/

def aimedExponent (mantissa : Nat) (exponent : Int) : Int :=
  max exponent (max (mantissa.log2 + exponent - 52) (-1074))

theorem shiftToTargetExponent_eq (mantissa : Nat) (exponent : Int) (accuracy : Accuracy) :
    shiftToTargetExponent .binary64 mantissa exponent accuracy =
      (ExtendedMantissa.ofMantissaAndAccuracy mantissa accuracy >>>
          (aimedExponent mantissa exponent - exponent).toNat,
        aimedExponent mantissa exponent) := by
  have htarget : Format.binary64.targetExponent (totalExponent mantissa exponent) =
      max (mantissa.log2 + exponent - 52) (-1074) := by
    have hdigits : totalExponent mantissa exponent - Format.binary64.mantissaBits =
        mantissa.log2 + exponent - 52 := by
      rw [totalExponent]
      change (mantissa.log2 : Int) + 1 + exponent - 53 = _
      omega
    rw [Format.targetExponent, hdigits]
    rfl
  have hshift : (max (mantissa.log2 + exponent - 52) (-1074) - exponent).toNat =
      (aimedExponent mantissa exponent - exponent).toNat := by
    rw [aimedExponent]
    omega
  have hsum : exponent + (aimedExponent mantissa exponent - exponent).toNat =
      aimedExponent mantissa exponent := by
    rw [aimedExponent]
    omega
  rw [shiftToTargetExponent, shiftToExponent, htarget, hshift, hsum]

section

variable {mantissa : Nat} {accuracy : Accuracy} {x : ℚ}

def shifted (mantissa : Nat) (exponent : Int) (x : ℚ) : ℚ :=
  x / 2 ^ (aimedExponent mantissa exponent - exponent).toNat

theorem shifted_mul (mantissa : Nat) (exponent : Int) (x : ℚ) :
    shifted mantissa exponent x * 2 ^ aimedExponent mantissa exponent = x * 2 ^ exponent := by
  have hsum : aimedExponent mantissa exponent =
      (aimedExponent mantissa exponent - exponent).toNat + exponent := by
    rw [aimedExponent]
    omega
  have hne : (2 : ℚ) ^ (aimedExponent mantissa exponent - exponent).toNat ≠ 0 := by positivity
  have hpow : (2 : ℚ) ^ aimedExponent mantissa exponent =
      2 ^ (aimedExponent mantissa exponent - exponent).toNat * 2 ^ exponent := by
    rw [← zpow_natCast, ← zpow_add₀ two_ne_zero, ← hsum]
  rw [hpow, shifted, ← mul_assoc, div_mul_cancel₀ _ hne]

theorem shifted_lt (h : Measures mantissa x accuracy) (exponent : Int) :
    shifted mantissa exponent x < 2 ^ 53 := by
  have hlast : mantissa + 1 ≤ 2 ^ (mantissa.log2 + 1) := Nat.lt_log2_self
  have hdigits : mantissa.log2 + 1 ≤ 53 + (aimedExponent mantissa exponent - exponent).toNat := by
    rw [aimedExponent]
    omega
  have hbound : mantissa + 1 ≤ 2 ^ 53 * 2 ^ (aimedExponent mantissa exponent - exponent).toNat := by
    rw [← Nat.pow_add]
    exact hlast.trans (Nat.pow_le_pow_right Nat.two_pos hdigits)
  rw [shifted, div_lt_iff₀ (by positivity)]
  calc x < mantissa + 1 := h.bounds.2
    _ ≤ 2 ^ 53 * 2 ^ (aimedExponent mantissa exponent - exponent).toNat := by exact_mod_cast hbound

/-- A number is only shifted while fifty-three digits are left of it. -/
theorem le_shifted (h : Measures mantissa x accuracy) {exponent : Int}
    (hmoved : exponent < aimedExponent mantissa exponent)
    (hleast : -1074 < aimedExponent mantissa exponent) :
    2 ^ 52 ≤ shifted mantissa exponent x := by
  have hdigits : (aimedExponent mantissa exponent - exponent).toNat + 52 = mantissa.log2 := by
    rw [aimedExponent] at hmoved hleast ⊢
    omega
  have hne : mantissa ≠ 0 := by
    rintro rfl
    rw [Nat.log2_zero] at hdigits
    omega
  have hbound : 2 ^ 52 * 2 ^ (aimedExponent mantissa exponent - exponent).toNat ≤ mantissa := by
    rw [← Nat.pow_add, Nat.add_comm, hdigits]
    exact Nat.log2_self_le hne
  rw [shifted, le_div_iff₀ (by positivity)]
  calc (2 : ℚ) ^ 52 * 2 ^ (aimedExponent mantissa exponent - exponent).toNat ≤ mantissa := by
        exact_mod_cast hbound
    _ ≤ x := h.bounds.1

/-! ### Rounding -/

def roundedMantissa (mantissa : Nat) (exponent : Int) (accuracy : Accuracy) : Nat :=
  (ExtendedMantissa.ofMantissaAndAccuracy mantissa accuracy >>>
    (aimedExponent mantissa exponent - exponent).toNat).roundedMantissa

theorem le_roundedMantissa_iff (h : Measures mantissa x accuracy) (exponent : Int) {n : Nat}
    (hn : n % 2 = 0) :
    n ≤ roundedMantissa mantissa exponent accuracy ↔
      (n : ℚ) - 1 / 2 ≤ shifted mantissa exponent x :=
  le_roundToNearestEven_iff ((represents_ofMantissaAndAccuracy h).shiftRight _) hn

theorem roundedMantissa_lt (h : Measures mantissa x accuracy) (exponent : Int) :
    roundedMantissa mantissa exponent accuracy < 2 ^ 54 := by
  have hlt := shifted_lt h exponent
  by_contra hlarge
  have hhalf := (le_roundedMantissa_iff h exponent (n := 2 ^ 54) rfl).mp (Nat.le_of_not_lt hlarge)
  norm_num at hhalf hlt
  linarith

theorem le_roundedMantissa (h : Measures mantissa x accuracy) {exponent : Int}
    (hmoved : exponent < aimedExponent mantissa exponent)
    (hleast : -1074 < aimedExponent mantissa exponent) :
    2 ^ 52 ≤ roundedMantissa mantissa exponent accuracy := by
  have hleft := le_shifted h hmoved hleast
  refine (le_roundedMantissa_iff h exponent rfl).mpr ?_
  push_cast
  linarith

/-- Zero, or a finite number of no greater exponent. -/
def ExponentAtMost (k : Int) : UnpackedFloat → Prop
  | .zero _ => True
  | .finite _ _ exponent _ => exponent ≤ k
  | .infinity _ => False
  | .notANumber => False

theorem exponentAtMost_dite {k exponent : Int} {sign : Sign} {mantissa : Nat} {p : Prop}
    [Decidable p] {hpos : ¬p → 0 < mantissa} :
    ExponentAtMost k (if h : p then .zero sign else .finite sign mantissa exponent (hpos h)) ↔
      p ∨ exponent ≤ k := by
  by_cases h : p
  · rw [dif_pos h]
    exact iff_of_true trivial (.inl h)
  · rw [dif_neg h]
    exact (or_iff_right h).symm

theorem exponentAtMost_roundWithAccuracy (sign : Sign) (mantissa : Nat) (exponent k : Int)
    (accuracy : Accuracy) :
    ExponentAtMost k (roundWithAccuracy .binary64 sign mantissa exponent accuracy) ↔
      roundedMantissa mantissa exponent accuracy = 0 ∨
        aimedExponent (roundedMantissa mantissa exponent accuracy)
          (aimedExponent mantissa exponent) ≤ k := by
  have hleast : -1074 ≤ aimedExponent mantissa exponent :=
    (le_max_right _ _).trans (le_max_right _ _)
  have hfinal (n : Nat) {e : Int} (he : -1074 ≤ e) :
      n / 2 ^ (aimedExponent n e - e).toNat = 0 ↔ n = 0 := by
    rw [Nat.div_eq_zero_iff_lt (Nat.two_pow_pos _)]
    constructor
    · intro hlt
      by_contra hne
      have hshift : (aimedExponent n e - e).toNat ≤ n.log2 := by
        rw [aimedExponent]
        omega
      exact absurd hlt (Nat.not_lt_of_le
        ((Nat.pow_le_pow_right Nat.two_pos hshift).trans (Nat.log2_self_le hne)))
    · rintro rfl
      exact Nat.two_pow_pos _
  rw [roundWithAccuracy, shiftToTargetExponent_eq]
  dsimp only
  rw [shiftToTargetExponent_eq]
  dsimp only
  rw [mantissa_shiftRight]
  exact exponentAtMost_dite.trans (or_congr_left (hfinal _ hleast))

theorem lt_of_aimedExponent_lt (h : Measures mantissa x accuracy) {exponent k : Int}
    (hless : aimedExponent mantissa exponent < k) :
    x * 2 ^ exponent < (2 ^ 53 - 1 / 2) * 2 ^ k := by
  have hunit : (0 : ℚ) < 2 ^ aimedExponent mantissa exponent := by positivity
  have hnext : (0 : ℚ) < 2 ^ (k - 1) := by positivity
  have hpow : (2 : ℚ) ^ k = 2 ^ (k - 1) * 2 := by
    rw [← zpow_add_one₀ two_ne_zero, Int.sub_add_cancel]
  have hle : (2 : ℚ) ^ aimedExponent mantissa exponent ≤ 2 ^ (k - 1) :=
    zpow_le_zpow_right₀ one_le_two (by omega)
  calc x * 2 ^ exponent
      = shifted mantissa exponent x * 2 ^ aimedExponent mantissa exponent :=
        (shifted_mul mantissa exponent x).symm
    _ < 2 ^ 53 * 2 ^ aimedExponent mantissa exponent :=
        mul_lt_mul_of_pos_right (shifted_lt h exponent) hunit
    _ ≤ 2 ^ 53 * 2 ^ (k - 1) := by gcongr
    _ ≤ (2 ^ 53 - 1 / 2) * 2 ^ k := by
      rw [hpow]
      linarith

theorem le_of_lt_aimedExponent (h : Measures mantissa x accuracy) {exponent k : Int}
    (hk : -1074 ≤ k) (hexponent : exponent ≤ k) (hmore : k < aimedExponent mantissa exponent) :
    (2 ^ 53 - 1 / 2) * 2 ^ k ≤ x * 2 ^ exponent := by
  have hleft := le_shifted h (hexponent.trans_lt hmore) (hk.trans_lt hmore)
  have hpos : (0 : ℚ) < 2 ^ k := by positivity
  have hpow : (2 : ℚ) ^ (k + 1) = 2 ^ k * 2 := zpow_add_one₀ two_ne_zero k
  have hle : (2 : ℚ) ^ (k + 1) ≤ 2 ^ aimedExponent mantissa exponent :=
    zpow_le_zpow_right₀ one_le_two (by omega)
  calc (2 ^ 53 - 1 / 2) * (2 : ℚ) ^ k ≤ 2 ^ 52 * 2 ^ (k + 1) := by
        rw [hpow]
        linarith
    _ ≤ 2 ^ 52 * 2 ^ aimedExponent mantissa exponent := by gcongr
    _ ≤ shifted mantissa exponent x * 2 ^ aimedExponent mantissa exponent := by gcongr
    _ = x * 2 ^ exponent := shifted_mul mantissa exponent x

/-- What matters is whether rounding needs one digit more where the exponent is `k` already. -/
theorem exponentAtMost_round_iff (h : Measures mantissa x accuracy) (sign : Sign)
    {exponent k : Int} (hk : -1074 ≤ k) (hexponent : exponent ≤ k) :
    ExponentAtMost k (roundWithAccuracy .binary64 sign mantissa exponent accuracy) ↔
      x * 2 ^ exponent < (2 ^ 53 - 1 / 2) * 2 ^ k := by
  rw [exponentAtMost_roundWithAccuracy]
  rcases lt_trichotomy (aimedExponent mantissa exponent) k with hless | hsame | hmore
  · have hlt := roundedMantissa_lt h exponent
    generalize roundedMantissa mantissa exponent accuracy = r at hlt ⊢
    have hlog : r ≠ 0 → r.log2 < 54 := fun hne => (Nat.log2_lt hne).mpr hlt
    refine iff_of_true ?_ (lt_of_aimedExponent_lt h hless)
    rw [aimedExponent]
    omega
  · have hpos : (0 : ℚ) < 2 ^ k := by positivity
    have hround := le_roundedMantissa_iff h exponent (n := 2 ^ 53) rfl
    generalize roundedMantissa mantissa exponent accuracy = r at hround ⊢
    have hdigits : (r = 0 ∨ aimedExponent r k ≤ k) ↔ ¬2 ^ 53 ≤ r := by
      by_cases hzero : r = 0
      · rw [hzero]
        exact iff_of_true (.inl rfl) (by norm_num)
      · rw [or_iff_right hzero, ← Nat.le_log2 hzero, aimedExponent]
        omega
    rw [← shifted_mul mantissa, hsame, mul_lt_mul_iff_left₀ hpos, hdigits, hround, not_le]
    norm_num
  · have hle := le_roundedMantissa h (hexponent.trans_lt hmore) (hk.trans_lt hmore)
    generalize roundedMantissa mantissa exponent accuracy = r at hle ⊢
    refine iff_of_false ?_ (not_lt.mpr (le_of_lt_aimedExponent h hk hexponent hmore))
    rw [not_or, aimedExponent]
    omega

end

/-! ### Packing -/

section

variable {b : BitVec Format.binary64.numBits}

theorem toNat_unpackExponent_eq_iff :
    (unpackExponent b).toNat = 2047 ↔ unpackExponent b = -1#_ := by
  rw [← BitVec.toNat_inj]
  rfl

/-- An exponent of all ones is none of a finite number. -/
theorem isFinite_unpack :
    (UnpackedFloat.unpack .binary64 b).isFinite = true ↔ (unpackExponent b).toNat ≠ 2047 := by
  rw [ne_eq, toNat_unpackExponent_eq_iff]
  have hunpacked := unpackedAs b
  generalize UnpackedFloat.unpack .binary64 b = u at hunpacked ⊢
  cases hunpacked with
  | infinity sign hones => exact iff_of_false Bool.false_ne_true (not_not_intro hones)
  | notANumber hones => exact iff_of_false Bool.false_ne_true (not_not_intro hones)
  | zero sign hones => exact iff_of_true rfl hones
  | subnormal sign hones => exact iff_of_true rfl hones
  | normal sign hones => exact iff_of_true rfl hones

theorem exponentAtMost_unpack {k : Int} (hk : -1074 ≤ k) (hfinite : (unpackExponent b).toNat ≠ 2047)
    (hexponent : ((unpackExponent b).toNat : Int) - 1075 ≤ k) :
    ExponentAtMost k (UnpackedFloat.unpack .binary64 b) := by
  rw [ne_eq, toNat_unpackExponent_eq_iff] at hfinite
  have hunpacked := unpackedAs b
  generalize UnpackedFloat.unpack .binary64 b = u at hunpacked ⊢
  cases hunpacked with
  | infinity sign hones => exact absurd hones hfinite
  | notANumber hones => exact absurd hones hfinite
  | zero => trivial
  | subnormal sign hones hzero =>
    rw [hzero]
    exact hk
  | normal => exact hexponent

theorem exponentAtMost_of_isFinite
    (h : (UnpackedFloat.unpack .binary64 b).isFinite = true) :
    ExponentAtMost 971 (UnpackedFloat.unpack .binary64 b) := by
  have hfinite := isFinite_unpack.mp h
  have hword : (unpackExponent b).toNat < 2048 := (unpackExponent b).isLt
  exact exponentAtMost_unpack (by norm_num) hfinite (by omega)

theorem mantissa_lt_of_unpack {sign : Sign} {mantissa : Nat} {exponent : Int} {hpos : 0 < mantissa}
    (h : UnpackedFloat.unpack .binary64 b = .finite sign mantissa exponent hpos) :
    mantissa < 2 ^ 53 := by
  have hunpacked := unpackedAs b
  rw [h] at hunpacked
  cases hunpacked with
  | subnormal => exact (BitVec.isLt _).trans (by norm_num)
  | normal => exact BitVec.isLt _

end

theorem unpackExponent_pack (sign : Sign) (mantissa : Nat) (exponent : Int) (hpos : 0 < mantissa) :
    (unpackExponent (UnpackedFloat.pack .binary64 (.finite sign mantissa exponent hpos))).toNat =
      if 971 < exponent then 2047
      else if mantissa.log2 = 52 then (exponent + 1075).toNat else 0 := by
  have hbiased : (exponent + Format.binary64.exponentBias +
      Format.binary64.mantissaBitsWithoutImplicit).toNat = (exponent + 1075).toNat := by
    rw [add_assoc]
    rfl
  have hlarge : 2 ^ Format.binary64.exponentBits ≤ (exponent + 1075).toNat + 1 ↔
      971 < exponent := by
    change 2048 ≤ (exponent + 1075).toNat + 1 ↔ 971 < exponent
    omega
  have hdigits : mantissa.log2 + 1 = Format.binary64.mantissaBits ↔ mantissa.log2 = 52 := by
    change mantissa.log2 + 1 = 53 ↔ mantissa.log2 = 52
    omega
  rw [pack_finite]
  simp only [hbiased, hlarge, hdigits]
  split_ifs with hhuge hnormal
  · rw [unpackExponent_packComponents]
    rfl
  · rw [unpackExponent_packComponents, BitVec.toNat_ofNat]
    exact Nat.mod_eq_of_lt (by change _ < 2048; omega)
  · rw [unpackExponent_packComponents]
    rfl

theorem exponentAtMost_unpack_pack {k : Int} (hk : -1074 ≤ k) (hk' : k ≤ 971) {u : UnpackedFloat}
    (h : ExponentAtMost k u) :
    ExponentAtMost k (UnpackedFloat.unpack .binary64 (UnpackedFloat.pack .binary64 u)) := by
  cases u with
  | infinity => cases h
  | notANumber => cases h
  | zero sign =>
    have hword : (unpackExponent (UnpackedFloat.pack .binary64 (.zero sign))).toNat = 0 := by
      rw [pack_zero, unpackExponent_packComponents]
      rfl
    exact exponentAtMost_unpack hk (by omega) (by omega)
  | finite sign mantissa exponent hpos =>
    have hexponent : exponent ≤ k := h
    apply exponentAtMost_unpack hk
    · rw [unpackExponent_pack]
      split_ifs <;> omega
    · rw [unpackExponent_pack]
      split_ifs <;> omega

/-- A number is packed as a finite one unless its exponent is too great. -/
theorem isFinite_unpack_pack (u : UnpackedFloat) :
    (UnpackedFloat.unpack .binary64 (UnpackedFloat.pack .binary64 u)).isFinite = true ↔
      ExponentAtMost 971 u := by
  rw [isFinite_unpack]
  cases u with
  | infinity sign =>
    rw [pack_infinity, unpackExponent_packComponents]
    exact iff_of_false (not_not_intro rfl) id
  | notANumber =>
    rw [pack_notANumber]
    exact iff_of_false (by decide) id
  | zero sign =>
    rw [pack_zero, unpackExponent_packComponents]
    exact iff_of_true (by decide) trivial
  | finite sign mantissa exponent hpos =>
    rw [unpackExponent_pack]
    change _ ↔ exponent ≤ 971
    split_ifs <;> omega

end Reckon
