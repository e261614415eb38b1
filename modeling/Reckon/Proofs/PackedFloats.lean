import Mathlib.Algebra.Group.Nat.Defs

/-!
# Packed floating point numbers

The exponent and the mantissa among the bits tell what kind of number they stand for: an exponent of
all ones is that of infinity and of what is no number, and an exponent of zero that of zero and of
numbers without an implicit first digit. A number is packed with an exponent of all ones only where
it is not finite or too great.
-/

namespace Reckon

open Float.Model Float.Model.UnpackedFloat

variable {format : Format}

/-! ### Unpacking -/

inductive UnpackedAs (b : BitVec format.numBits) : UnpackedFloat → Prop where
  | infinity (sign : Sign) (hones : unpackExponent b = -1#_) (hmantissa : unpackMantissa b = 0#_) :
      UnpackedAs b (.infinity sign)
  | notANumber (hones : unpackExponent b = -1#_) (hmantissa : unpackMantissa b ≠ 0#_) :
      UnpackedAs b .notANumber
  | zero (sign : Sign) (hones : unpackExponent b ≠ -1#_) : UnpackedAs b (.zero sign)
  | subnormal (sign : Sign) (hones : unpackExponent b ≠ -1#_) (hzero : unpackExponent b = 0#_)
      (hpos : 0 < (unpackMantissa b).toNat) :
      UnpackedAs b (.finite sign (unpackMantissa b).toNat
        ((unpackExponent b).toNat - (format.exponentBias + format.mantissaBitsWithoutImplicit) + 1)
        hpos)
  | normal (sign : Sign) (hones : unpackExponent b ≠ -1#_)
      (hpos : 0 < (1#1 ++ unpackMantissa b).toNat) :
      UnpackedAs b (.finite sign (1#1 ++ unpackMantissa b).toNat
        ((unpackExponent b).toNat - (format.exponentBias + format.mantissaBitsWithoutImplicit))
        hpos)

theorem unpackedAs (b : BitVec format.numBits) : UnpackedAs b (UnpackedFloat.unpack format b) := by
  by_cases hones : unpackExponent b = -1#_
  · by_cases hmantissa : unpackMantissa b = 0#_
    · have hunpack : UnpackedFloat.unpack format b = .infinity (.ofBitVec (unpackSign b)) :=
        (if_pos hones).trans (if_pos hmantissa)
      rw [hunpack]
      exact .infinity _ hones hmantissa
    · have hunpack : UnpackedFloat.unpack format b = .notANumber :=
        (if_pos hones).trans (if_neg hmantissa)
      rw [hunpack]
      exact .notANumber hones hmantissa
  by_cases hzero : unpackExponent b = 0#_
  · by_cases hmantissa : unpackMantissa b = 0#_
    · have hunpack : UnpackedFloat.unpack format b = .zero (.ofBitVec (unpackSign b)) :=
        (if_neg hones).trans ((if_pos hzero).trans (dif_pos hmantissa))
      rw [hunpack]
      exact .zero _ hones
    · have hpos : 0 < (unpackMantissa b).toNat :=
        Nat.pos_of_ne_zero fun h => hmantissa (BitVec.eq_of_toNat_eq h)
      have hunpack : UnpackedFloat.unpack format b = .finite _ _ _ hpos :=
        (if_neg hones).trans ((if_pos hzero).trans (dif_neg hmantissa))
      rw [hunpack]
      exact .subnormal _ hones hzero hpos
  · have hunpack : UnpackedFloat.unpack format b = .finite _ (1#1 ++ unpackMantissa b).toNat _ _ :=
      (if_neg hones).trans (if_neg hzero)
    rw [hunpack]
    exact .normal _ hones _

theorem toNat_unpackMantissa (b : BitVec format.numBits) :
    (unpackMantissa b).toNat = b.toNat % 2 ^ format.mantissaBitsWithoutImplicit := by
  have hwidth : format.mantissaBitsWithoutImplicit - 1 - 0 + 1 =
      format.mantissaBitsWithoutImplicit := Nat.sub_add_cancel format.hm
  rw [unpackMantissa, BitVec.toNat_cast, BitVec.extractLsb_toNat, Nat.shiftRight_zero, hwidth]

theorem toNat_unpackExponent (b : BitVec format.numBits) :
    (unpackExponent b).toNat =
      b.toNat / 2 ^ format.mantissaBitsWithoutImplicit % 2 ^ format.exponentBits := by
  have hwidth : format.mantissaBitsWithoutImplicit + format.exponentBits - 1 -
      format.mantissaBitsWithoutImplicit + 1 = format.exponentBits := by
    have hpos : 0 < format.exponentBits := format.he
    omega
  rw [unpackExponent, BitVec.toNat_cast, BitVec.extractLsb_toNat, Nat.shiftRight_eq_div_pow,
    hwidth]

theorem toNat_ones : (-1#_ : BitVec format.exponentBits).toNat = 2 ^ format.exponentBits - 1 := by
  rw [BitVec.neg_one_eq_allOnes, BitVec.toNat_allOnes]

/-! ### Packing -/

theorem pack_notANumber : UnpackedFloat.pack format .notANumber = packedNaN format := rfl

theorem pack_infinity (sign : Sign) :
    UnpackedFloat.pack format (.infinity sign) = packComponents format sign (-1#_) 0 := rfl

theorem pack_zero (sign : Sign) :
    UnpackedFloat.pack format (.zero sign) = packComponents format sign 0 0 := rfl

theorem pack_finite (sign : Sign) (mantissa : Nat) (exponent : Int) (hpos : 0 < mantissa) :
    UnpackedFloat.pack format (.finite sign mantissa exponent hpos) =
      let biased := (exponent + format.exponentBias + format.mantissaBitsWithoutImplicit).toNat
      if 2 ^ format.exponentBits ≤ biased + 1 then packComponents format sign (-1#_) 0
      else if mantissa.log2 + 1 = format.mantissaBits then
        packComponents format sign (BitVec.ofNat _ biased) (BitVec.ofNat _ mantissa)
      else packComponents format sign 0#_ (BitVec.ofNat _ mantissa) := rfl

/-- The exponent of a finite number is not all ones, since there it would be packed as infinite. -/
theorem ofNat_ne_ones {n : Nat} (h : n + 1 < 2 ^ format.exponentBits) :
    BitVec.ofNat format.exponentBits n ≠ -1#_ := by
  intro heq
  have hnat : n = 2 ^ format.exponentBits - 1 := by
    rw [← toNat_ones, ← heq, BitVec.toNat_ofNat, Nat.mod_eq_of_lt (by omega)]
  omega

theorem zero_ne_ones : (0#_ : BitVec format.exponentBits) ≠ -1#_ :=
  ofNat_ne_ones (Nat.one_lt_two_pow (Nat.ne_of_gt format.he))

end Reckon
