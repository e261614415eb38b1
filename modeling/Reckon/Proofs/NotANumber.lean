import Reckon.BinaryFloat
import Reckon.Proofs.PackedFloats

/-!
# Bits that are no number

Sixty-four bits stand for no number where their exponent is all ones and their mantissa is not
zero, and so do thirty-two. Widening takes the one exponent of all ones to the other and keeps the
mantissa there, so a widened number is a number and what is no number stays none.
-/

namespace Reckon

open Float.Model

section

variable {format : Format}

theorem isNaN_unpack (b : BitVec format.numBits) :
    (UnpackedFloat.unpack format b).isNaN = true ↔
      UnpackedFloat.unpackExponent b = -1#_ ∧ UnpackedFloat.unpackMantissa b ≠ 0#_ := by
  have hunpacked := unpackedAs b
  generalize UnpackedFloat.unpack format b = x at hunpacked ⊢
  cases hunpacked with
  | infinity sign hones hmantissa =>
    exact iff_of_false Bool.false_ne_true fun h => h.2 hmantissa
  | notANumber hones hmantissa => exact iff_of_true rfl ⟨hones, hmantissa⟩
  | zero sign hones => exact iff_of_false Bool.false_ne_true fun h => hones h.1
  | subnormal sign hones => exact iff_of_false Bool.false_ne_true fun h => hones h.1
  | normal sign hones => exact iff_of_false Bool.false_ne_true fun h => hones h.1

theorem isNaN_unpack_iff (b : BitVec format.numBits) :
    (UnpackedFloat.unpack format b).isNaN = true ↔
      b.toNat / 2 ^ format.mantissaBitsWithoutImplicit % 2 ^ format.exponentBits =
          2 ^ format.exponentBits - 1 ∧
        b.toNat % 2 ^ format.mantissaBitsWithoutImplicit ≠ 0 := by
  rw [isNaN_unpack, ne_eq, ← BitVec.toNat_inj, ← BitVec.toNat_inj, toNat_unpackExponent,
    toNat_unpackMantissa, toNat_ones, BitVec.toNat_ofNat, Nat.zero_mod]

theorem isNaN_unpack_packComponents (sign : UnpackedFloat.Sign)
    (exponent : BitVec format.exponentBits)
    (mantissa : BitVec format.mantissaBitsWithoutImplicit) :
    (UnpackedFloat.unpack format
        (UnpackedFloat.packComponents format sign exponent mantissa)).isNaN = true ↔
      exponent = -1#_ ∧ mantissa ≠ 0#_ := by
  rw [isNaN_unpack, UnpackedFloat.unpackExponent_packComponents,
    UnpackedFloat.unpackMantissa_packComponents]

theorem isNaN_unpack_packedNaN :
    (UnpackedFloat.unpack format (UnpackedFloat.packedNaN format)).isNaN = true := by
  have hpos : 0 < format.mantissaBitsWithoutImplicit := format.hm
  refine (isNaN_unpack_packComponents _ _ _).mpr ⟨rfl, fun hzero => ?_⟩
  have hbit := congrArg (BitVec.getLsbD · (format.mantissaBitsWithoutImplicit - 1)) hzero
  simp [Nat.sub_lt hpos Nat.one_pos] at hbit

theorem isNaN_unpack_pack (x : UnpackedFloat) :
    (UnpackedFloat.unpack format (UnpackedFloat.pack format x)).isNaN = x.isNaN := by
  rw [Bool.eq_iff_iff]
  cases x with
  | notANumber => exact iff_of_true isNaN_unpack_packedNaN rfl
  | infinity sign =>
    rw [pack_infinity, isNaN_unpack_packComponents]
    exact iff_of_false (fun h => h.2 rfl) Bool.false_ne_true
  | zero sign =>
    rw [pack_zero, isNaN_unpack_packComponents]
    exact iff_of_false (fun h => h.2 rfl) Bool.false_ne_true
  | finite sign mantissa exponent hpos =>
    refine iff_of_false ?_ Bool.false_ne_true
    rw [pack_finite]
    dsimp only
    split
    · rw [isNaN_unpack_packComponents]
      exact fun h => h.2 rfl
    · next hfinite =>
      split
      · rw [isNaN_unpack_packComponents]
        exact fun h => ofNat_ne_ones (Nat.not_le.mp hfinite) h.1
      · rw [isNaN_unpack_packComponents]
        exact fun h => zero_ne_ones h.1

end

theorem isNaN_ofBits_iff (word : UInt64) :
    (Float.ofBits word).isNaN = true ↔
      word.toNat / 2 ^ 52 % 2 ^ 11 = 2047 ∧ word.toNat % 2 ^ 52 ≠ 0 := by
  have hpacked : (Float.ofBits word).isNaN = (UnpackedFloat.unpack .binary64
      (UnpackedFloat.pack .binary64 (UnpackedFloat.unpack .binary64 word.toBitVec))).isNaN := rfl
  rw [hpacked, isNaN_unpack_pack]
  exact @isNaN_unpack_iff .binary64 word.toBitVec

theorem isNaN_iff_of_parts {sign exponent mantissa : Nat} (hsign : sign < 2)
    (hexponent : exponent < 2048) (hmantissa : mantissa < 2 ^ 52) :
    (Float.ofBits (UInt64.ofNat (sign * 2 ^ 63 + (exponent * 2 ^ 52 + mantissa)))).isNaN = true ↔
      exponent = 2047 ∧ mantissa ≠ 0 := by
  have hword : (UInt64.ofNat (sign * 2 ^ 63 + (exponent * 2 ^ 52 + mantissa))).toNat =
      sign * 2 ^ 63 + (exponent * 2 ^ 52 + mantissa) := by
    apply UInt64.toNat_ofNat_of_lt
    rw [UInt64.size]
    omega
  rw [isNaN_ofBits_iff, hword]
  omega

theorem isNaN32_iff {x : Float32} :
    x.isNaN = true ↔ x.toBits.toNat / 2 ^ 23 % 2 ^ 8 = 255 ∧ x.toBits.toNat % 2 ^ 23 ≠ 0 := by
  exact @isNaN_unpack_iff .binary32 x.toBits.toBitVec

/-! ### Widening -/

/-- The first digit of a fraction without an implicit one becomes implicit. -/
theorem widened_mantissa_lt {fraction : Nat} (hzero : fraction ≠ 0) (hlt : fraction < 2 ^ 23) :
    fraction.log2 < 23 ∧ (fraction - 2 ^ fraction.log2) * 2 ^ (52 - fraction.log2) < 2 ^ 52 := by
  have htop : fraction.log2 < 23 := (Nat.log2_lt hzero).mpr hlt
  have hdigit : 2 ^ fraction.log2 ≤ fraction := Nat.log2_self_le hzero
  have hnext : fraction < 2 ^ (fraction.log2 + 1) := Nat.lt_log2_self
  have hrest : fraction - 2 ^ fraction.log2 < 2 ^ fraction.log2 := by omega
  refine ⟨htop, ?_⟩
  calc (fraction - 2 ^ fraction.log2) * 2 ^ (52 - fraction.log2)
      < 2 ^ fraction.log2 * 2 ^ (52 - fraction.log2) :=
        Nat.mul_lt_mul_of_pos_right hrest (Nat.two_pow_pos _)
    _ = 2 ^ 52 := by rw [← Nat.pow_add, Nat.add_sub_cancel' (by omega)]

/-- The sign, the exponent and the mantissa of a widened number. -/
theorem widen_parts (x : Float32) :
    ∃ sign exponent mantissa, sign < 2 ∧ exponent < 2048 ∧ mantissa < 2 ^ 52 ∧
      widen x = Float.ofBits (UInt64.ofNat (sign * 2 ^ 63 + (exponent * 2 ^ 52 + mantissa))) ∧
      (exponent = 2047 ↔ x.toBits.toNat / 2 ^ 23 % 2 ^ 8 = 255) ∧
      (exponent = 2047 → (mantissa = 0 ↔ x.toBits.toNat % 2 ^ 23 = 0)) := by
  have hword : x.toBits.toNat < 2 ^ 32 := x.toBits.toNat_lt
  rw [widen]
  generalize x.toBits.toNat = word at hword ⊢
  have hsign : word / 2 ^ 31 < 2 := by omega
  -- The cases of `widen`: all ones, nothing but a fraction, and a number with an implicit digit.
  by_cases hones : word / 2 ^ 23 % 2 ^ 8 = 255
  · refine ⟨word / 2 ^ 31, 2047, word % 2 ^ 23 * 2 ^ 29, hsign, by omega, by omega, ?_, ?_, ?_⟩
    · simp only [Nat.pow_eq, if_pos hones]
    · omega
    · omega
  · by_cases hleast : word / 2 ^ 23 % 2 ^ 8 = 0
    · by_cases hzero : word % 2 ^ 23 = 0
      · refine ⟨word / 2 ^ 31, 0, 0, hsign, by omega, by omega, ?_, by omega, by omega⟩
        simp only [Nat.pow_eq, if_neg hones, if_pos hleast, if_pos hzero, Nat.zero_mul]
      · obtain ⟨htop, hmantissa⟩ := widened_mantissa_lt hzero (by omega)
        refine ⟨word / 2 ^ 31, (word % 2 ^ 23).log2 + 874, _, hsign, by omega, hmantissa, ?_,
          by omega, by omega⟩
        simp only [Nat.pow_eq, if_neg hones, if_pos hleast, if_neg hzero]
    · refine ⟨word / 2 ^ 31, word / 2 ^ 23 % 2 ^ 8 + 896, word % 2 ^ 23 * 2 ^ 29, hsign, by omega,
        by omega, ?_, by omega, by omega⟩
      simp only [Nat.pow_eq, if_neg hones, if_neg hleast]

theorem isNaN_widen (x : Float32) : (widen x).isNaN = x.isNaN := by
  obtain ⟨sign, exponent, mantissa, hsign, hexponent, hmantissa, hwiden, hones, hzero⟩ :=
    widen_parts x
  rw [Bool.eq_iff_iff, hwiden, isNaN_iff_of_parts hsign hexponent hmantissa, isNaN32_iff, ← hones]
  exact and_congr_right fun h => not_congr (hzero h)

end Reckon
