import Reckon.Conversion
import Reckon.Proofs.DecimalForms
import Reckon.Proofs.Rounding

/-!
# Decimal numbers out of range

A decimal number is read as the nearest floating point number, and as an infinite one from the
middle between the largest of those and the next power of two on. This does not depend on how it is
computed: by dividing or multiplying two floating point numbers where both are exact, and by whole
numbers of any size otherwise.
-/

namespace Reckon

open Float.Model Float.Model.UnpackedFloat

/-! ### Products and quotients -/

section

variable {s s' : Sign} {m m' : Nat} {e e' k : Int} {hm : 0 < m} {hm' : 0 < m'}

theorem exponentAtMost_mul (hk : -1074 ≤ k) (he : e + e' ≤ k) :
    ExponentAtMost k (UnpackedFloat.mul .binary64 (.finite s m e hm) (.finite s' m' e' hm')) ↔
      (m * m' : ℚ) * 2 ^ (e + e') < (2 ^ 53 - 1 / 2) * 2 ^ k := by
  have hmeasures : Measures (m * m') (m * m' : ℚ) .exact := (Nat.cast_mul m m').symm
  exact exponentAtMost_round_iff hmeasures _ hk he

/-- The quotient and the remainder say where a fraction lies. -/
theorem measures_accuracyOfFraction {d : Nat} (hd : 0 < d) (n : Nat) :
    Measures (n / d) (n / d : ℚ) (accuracyOfFraction (n % d) d) := by
  have hpos : (0 : ℚ) < d := by exact_mod_cast hd
  have hcast : (n : ℚ) = d * ((n / d : Nat) : ℚ) + ((n % d : Nat) : ℚ) := by
    exact_mod_cast (Nat.div_add_mod n d).symm
  have hfraction : (n / d : ℚ) = ((n / d : Nat) : ℚ) + ((n % d : Nat) : ℚ) / d := by
    rw [div_eq_iff hpos.ne', add_mul, div_mul_cancel₀ _ hpos.ne', mul_comm]
    exact hcast
  have hrest : ((n % d : Nat) : ℚ) / d < 1 := by
    rw [div_lt_one hpos]
    exact_mod_cast Nat.mod_lt n hd
  rw [hfraction, accuracyOfFraction]
  split
  · rename_i hzero
    rw [hzero]
    simp [Measures]
  · rename_i hne
    have hrestpos : 0 < ((n % d : Nat) : ℚ) / d :=
      div_pos (by exact_mod_cast Nat.pos_of_ne_zero hne) hpos
    have htwice : 2 * (((n % d : Nat) : ℚ) / d) = ((2 * (n % d) : Nat) : ℚ) / d := by
      rw [Nat.cast_mul, Nat.cast_two, mul_div_assoc]
    cases hhalf : compare (2 * (n % d)) d with
    | lt =>
      have hless : ((2 * (n % d) : Nat) : ℚ) / d < 1 := by
        rw [div_lt_one hpos]
        exact_mod_cast compare_lt_iff_lt.mp hhalf
      exact ⟨by linarith, by linarith⟩
    | eq =>
      have hsame : ((2 * (n % d) : Nat) : ℚ) / d = 1 := by
        rw [compare_eq_iff_eq.mp hhalf, div_self hpos.ne']
      change _ = _
      linarith
    | gt =>
      have hmore : 1 < ((2 * (n % d) : Nat) : ℚ) / d := by
        rw [one_lt_div hpos]
        exact_mod_cast compare_gt_iff_gt.mp hhalf
      exact ⟨by linarith, by linarith⟩

theorem exponentAtMost_div (hk : -1074 ≤ k) (he : e - e' ≤ k) :
    ExponentAtMost k (UnpackedFloat.div .binary64 (.finite s m e hm) (.finite s' m' e' hm')) ↔
      (m / m' : ℚ) * 2 ^ (e - e') < (2 ^ 53 - 1 / 2) * 2 ^ k := by
  obtain ⟨target, htarget⟩ : ∃ target, target = min (e - e')
      (Format.binary64.targetExponent (totalExponent m e - totalExponent m' e')) := ⟨_, rfl⟩
  have hdiv : UnpackedFloat.div .binary64 (.finite s m e hm) (.finite s' m' e' hm') =
      roundWithAccuracy .binary64 (s / s') (m <<< (e - e' - target).toNat / m') target
        (accuracyOfFraction (m <<< (e - e' - target).toNat % m') m') := by
    rw [htarget]
    rfl
  have hle : target ≤ e - e' := by
    rw [htarget]
    exact min_le_left _ _
  have hvalue : ((m <<< (e - e' - target).toNat : Nat) / m' : ℚ) * 2 ^ target =
      (m / m' : ℚ) * 2 ^ (e - e') := by
    have hsum : e - e' = ((e - e' - target).toNat : Int) + target := by omega
    conv_rhs => rw [hsum, zpow_add₀ two_ne_zero, zpow_natCast]
    rw [Nat.shiftLeft_eq, Nat.cast_mul, Nat.cast_pow, Nat.cast_two]
    ring
  rw [hdiv, exponentAtMost_round_iff (measures_accuracyOfFraction hm' _) _ hk (hle.trans he),
    hvalue]

end

/-- A whole number of fifty-three digits needs no positive exponent. -/
theorem exponentAtMost_ofNat {n : Nat} (hn : n < 2 ^ 53) :
    ExponentAtMost 0 (UnpackedFloat.ofNat .binary64 n) := by
  rw [UnpackedFloat.ofNat, UnpackedFloat.ofInt, UnpackedFloat.normalize]
  rcases Nat.eq_zero_or_pos n with rfl | hpos
  · trivial
  · have hcompare : compare (n : Int) 0 = .gt := compare_gt_iff_gt.mpr (by omega)
    rw [hcompare]
    dsimp only
    rw [UnpackedFloat.round, decreaseExponent, Int.toNat_natCast]
    dsimp only
    generalize (0 - Format.binary64.targetExponent (totalExponent n 0)).toNat = shift
    have hmeasures : Measures (n <<< shift) ((n <<< shift : Nat) : ℚ) .exact := rfl
    rw [exponentAtMost_round_iff hmeasures _ (by norm_num) (by omega)]
    have hvalue : ((n <<< shift : Nat) : ℚ) * 2 ^ (0 - (shift : Int)) = n := by
      rw [Nat.shiftLeft_eq, zero_sub, zpow_neg, zpow_natCast]
      push_cast
      rw [mul_assoc, mul_inv_cancel₀ (by positivity), mul_one]
    have hle : (n : ℚ) ≤ 2 ^ 53 - 1 := by
      have hcast : ((n + 1 : Nat) : ℚ) ≤ ((2 ^ 53 : Nat) : ℚ) := by exact_mod_cast hn
      push_cast at hcast
      linarith
    rw [hvalue, zpow_zero, mul_one]
    linarith

/-! ### Whole numbers times powers of ten -/

theorem two_pow_1024 : (2 : ℚ) ^ 1024 = 2 ^ 54 * 2 ^ 970 :=
  pow_add 2 54 970

theorem out_of_range_eq : ((2 : ℚ) ^ 53 - 1 / 2) * 2 ^ (971 : Int) = 2 ^ 1024 - 2 ^ 970 := by
  have hlast : (2 : ℚ) ^ (971 : Int) = 2 * 2 ^ 970 := by rw [zpow_ofNat, ← pow_succ']
  rw [hlast, two_pow_1024]
  generalize (2 : ℚ) ^ 970 = last
  ring

theorem one_lt_out_of_range : (1 : ℚ) < 2 ^ 1024 - 2 ^ 970 := by
  have hone : (1 : ℚ) ≤ 2 ^ 970 := one_le_pow₀ one_le_two
  rw [two_pow_1024]
  generalize (2 : ℚ) ^ 970 = last at hone ⊢
  linarith

theorem out_of_range_of_great_power {m : Nat} (hm : m ≠ 0) {e : Int} (he : 1024 ≤ e) :
    (2 : ℚ) ^ 1024 - 2 ^ 970 ≤ m * 10 ^ e := by
  have hone : (1 : ℚ) ≤ m := by exact_mod_cast Nat.pos_of_ne_zero hm
  calc (2 : ℚ) ^ 1024 - 2 ^ 970 ≤ 2 ^ (1024 : Int) := by norm_num
    _ ≤ 2 ^ e := zpow_le_zpow_right₀ one_le_two he
    _ ≤ 10 ^ e := zpow_le_zpow_left₀ (by omega) two_pos.le (by norm_num)
    _ ≤ m * 10 ^ e := le_mul_of_one_le_left (by positivity) hone

/-- Each place of a negative power of ten takes a binary digit away at least. -/
theorem lt_one_of_few_digits {m : Nat} {e : Int} (he : m.log2 + 1 + e ≤ 0) :
    (m : ℚ) * 10 ^ e < 1 := by
  have hdigits : (m : ℚ) < 2 ^ ((m.log2 : Int) + 1) := by
    have hlast : m < 2 ^ (m.log2 + 1) := Nat.lt_log2_self
    exact_mod_cast hlast
  have hten : (10 : ℚ) ^ e ≤ 2 ^ e := by
    obtain ⟨n, rfl⟩ : ∃ n : Nat, e = -(n : Int) := ⟨(-e).toNat, by omega⟩
    rw [zpow_neg, zpow_neg, zpow_natCast, zpow_natCast]
    gcongr
    norm_num
  calc (m : ℚ) * 10 ^ e ≤ m * 2 ^ e := by gcongr
    _ < 2 ^ ((m.log2 : Int) + 1) * 2 ^ e := mul_lt_mul_of_pos_right hdigits (by positivity)
    _ = 2 ^ (m.log2 + 1 + e) := (zpow_add₀ two_ne_zero _ _).symm
    _ ≤ 1 := zpow_le_one_of_nonpos₀ one_le_two he

/-- The cases are those of the conversion: zero, powers that are much too great or much too small,
and otherwise a product or a quotient of whole numbers. -/
theorem exponentAtMost_ofScientific (m : Nat) (e : Int) :
    ExponentAtMost 971 (UnpackedFloat.ofScientific .binary64 m e) ↔
      (m : ℚ) * 10 ^ e < 2 ^ 1024 - 2 ^ 970 := by
  have hrange := one_lt_out_of_range
  rw [UnpackedFloat.ofScientific]
  by_cases hm : m = 0
  · rw [dif_pos hm, hm, Nat.cast_zero, zero_mul]
    exact iff_of_true trivial (one_pos.trans hrange)
  rw [dif_neg hm]
  by_cases hhuge : (2 ^ 11 : Int) < e
  · rw [if_pos hhuge]
    have he : 1024 ≤ e := by omega
    exact iff_of_false id (not_lt.mpr (out_of_range_of_great_power hm he))
  rw [if_neg hhuge]
  by_cases htiny : e < -((2 ^ 11 : Int) + m.log2)
  · rw [if_pos htiny]
    have he : m.log2 + 1 + e ≤ 0 := by omega
    exact iff_of_true trivial ((lt_one_of_few_digits he).trans hrange)
  rw [if_neg htiny]
  by_cases hwhole : 0 ≤ e
  · rw [if_pos hwhole, exponentAtMost_mul (by norm_num)
      (by change (-53 : Int) + 0 ≤ 971; norm_num), out_of_range_eq]
    obtain ⟨n, rfl⟩ := Int.eq_ofNat_of_zero_le hwhole
    have hvalue : ((m <<< Format.binary64.mantissaBits : Nat) : ℚ) *
        ((10 ^ (n : Int).toNat : Nat) : ℚ) * 2 ^ (-(Format.binary64.mantissaBits : Int) + 0) =
        m * 10 ^ (n : Int) := by
      rw [Int.toNat_natCast, zpow_natCast, add_zero, zpow_neg, zpow_natCast, Nat.shiftLeft_eq]
      push_cast
      field_simp
    rw [hvalue]
  · rw [if_neg hwhole, exponentAtMost_div (by norm_num) (by norm_num), out_of_range_eq]
    obtain ⟨n, rfl⟩ : ∃ n : Nat, e = -(n : Int) := ⟨(-e).toNat, by omega⟩
    rw [neg_neg, Int.toNat_natCast, sub_zero, zpow_zero, mul_one, zpow_neg, zpow_natCast,
      ← div_eq_mul_inv, Nat.cast_pow, Nat.cast_ofNat]

/-! ### Small numbers -/

/-- No greater than the largest power of ten that is a floating point number, and not too close to
zero to divide by. -/
def isModerate : UnpackedFloat → Bool
  | .finite _ _ exponent _ => -52 ≤ exponent && exponent ≤ 21
  | _ => false

theorem isModerate_powerOfTen :
    ∀ i : Fin 23, isModerate (Float.exactlyRepresentablePowersOfTen[i]).toModel.unpack = true := by
  decide +kernel

section

variable {b b' : BitVec Format.binary64.numBits}

theorem exists_moderate (h : isModerate (UnpackedFloat.unpack .binary64 b) = true) :
    ∃ sign mantissa exponent hpos,
      UnpackedFloat.unpack .binary64 b = .finite sign mantissa exponent hpos ∧
        -52 ≤ exponent ∧ exponent ≤ 21 := by
  cases hb : UnpackedFloat.unpack .binary64 b with
  | finite sign mantissa exponent hpos =>
    rw [hb] at h
    have hbounds : (decide (-52 ≤ exponent) && decide (exponent ≤ 21)) = true := h
    rw [Bool.and_eq_true, decide_eq_true_iff, decide_eq_true_iff] at hbounds
    exact ⟨sign, mantissa, exponent, hpos, rfl, hbounds⟩
  | _ =>
    rw [hb] at h
    cases h

theorem small_in_range {x : ℚ} {i : Int} (hx : x < 2 ^ 128) (hi : i ≤ 52) :
    x * 2 ^ i < (2 ^ 53 - 1 / 2) * 2 ^ (971 : Int) := by
  have hpos : (0 : ℚ) < 2 ^ i := by positivity
  have hscale : (2 : ℚ) ^ i ≤ 2 ^ (52 : Int) := zpow_le_zpow_right₀ one_le_two hi
  have hlast : (2 : ℚ) ^ (128 : Int) ≤ 2 ^ (971 : Int) :=
    zpow_le_zpow_right₀ one_le_two (by norm_num)
  calc x * 2 ^ i < 2 ^ 128 * 2 ^ i := mul_lt_mul_of_pos_right hx hpos
    _ ≤ 2 ^ 128 * 2 ^ (52 : Int) := by gcongr
    _ = 2 ^ 52 * 2 ^ (128 : Int) := by norm_num
    _ ≤ 2 ^ 52 * 2 ^ (971 : Int) := by gcongr
    _ ≤ (2 ^ 53 - 1 / 2) * 2 ^ (971 : Int) := by
      gcongr
      norm_num

theorem exponentAtMost_moderate (h : ExponentAtMost 0 (UnpackedFloat.unpack .binary64 b))
    (h' : isModerate (UnpackedFloat.unpack .binary64 b') = true) :
    ExponentAtMost 971 (UnpackedFloat.mul .binary64 (UnpackedFloat.unpack .binary64 b)
        (UnpackedFloat.unpack .binary64 b')) ∧
      ExponentAtMost 971 (UnpackedFloat.div .binary64 (UnpackedFloat.unpack .binary64 b)
        (UnpackedFloat.unpack .binary64 b')) := by
  obtain ⟨s', m', e', hm', hb', hlow, hhigh⟩ := exists_moderate h'
  have hm'lt : (m' : ℚ) < 2 ^ 53 := by exact_mod_cast mantissa_lt_of_unpack hb'
  rw [hb']
  cases hb : UnpackedFloat.unpack .binary64 b with
  | zero => exact ⟨trivial, trivial⟩
  | infinity =>
    rw [hb] at h
    cases h
  | notANumber =>
    rw [hb] at h
    cases h
  | finite s m e hm =>
    have hmlt : (m : ℚ) < 2 ^ 53 := by exact_mod_cast mantissa_lt_of_unpack hb
    rw [hb] at h
    have he : e ≤ 0 := h
    have hpos : (0 : ℚ) < m := by exact_mod_cast hm
    have hone : (1 : ℚ) ≤ m' := by exact_mod_cast hm'
    rw [exponentAtMost_mul (by norm_num) (by omega), exponentAtMost_div (by norm_num) (by omega)]
    refine ⟨small_in_range ?_ (by omega), small_in_range ?_ (by omega)⟩
    · calc (m : ℚ) * m' < 2 ^ 53 * 2 ^ 53 := by gcongr
        _ ≤ 2 ^ 128 := by norm_num
    · calc (m : ℚ) / m' ≤ m := div_le_self hpos.le hone
        _ < 2 ^ 53 := hmlt
        _ ≤ 2 ^ 128 := by norm_num

end

/-- A number of up to fifty-three digits, as it is before it is scaled. -/
theorem exponentAtMost_toFloat {m : Nat} (hm : m < 2 ^ 53) :
    ExponentAtMost 0 m.toUInt64.toFloat.toModel.unpack := by
  have hword : m.toUInt64.toNat = m := Nat.mod_eq_of_lt (hm.trans (by norm_num))
  refine exponentAtMost_unpack_pack (by norm_num) (by norm_num) ?_
  rw [UnpackedFloat.ofUInt64, hword]
  exact exponentAtMost_ofNat hm

theorem scaled_in_range {m : Nat} {z : Int} (hm : m < 2 ^ 53) (hz : z ≤ 22) :
    (m : ℚ) * 10 ^ z < 2 ^ 1024 - 2 ^ 970 := by
  have hcast : (m : ℚ) < 2 ^ 53 := by exact_mod_cast hm
  have hten : (10 : ℚ) ^ z ≤ 10 ^ (22 : Int) := zpow_le_zpow_right₀ (by norm_num) hz
  have hsmall : (m : ℚ) * 10 ^ z < 2 ^ 128 :=
    calc (m : ℚ) * 10 ^ z ≤ 2 ^ 53 * 10 ^ (22 : Int) := by gcongr
      _ < 2 ^ 128 := by norm_num
  have hrange := small_in_range hsmall (i := 0) (by norm_num)
  rwa [zpow_zero, mul_one, out_of_range_eq] at hrange

/-- Both ways to compute a decimal number run over at the same place. -/
theorem isFinite_ofScientific (m : Nat) (negative : Bool) (e : Nat) :
    (Float.ofScientific m negative e).isFinite = true ↔
      (m : ℚ) * 10 ^ (if negative then -(e : Int) else e) < 2 ^ 1024 - 2 ^ 970 := by
  have hlarge (z : Int) : (Float.ofModel (Float.Model.ofScientific m z)).isFinite = true ↔
      (m : ℚ) * 10 ^ z < 2 ^ 1024 - 2 ^ 970 :=
    (isFinite_unpack_pack _).trans (exponentAtMost_ofScientific m z)
  rw [Float.ofScientific]
  split_ifs with hsmall hnegative hnegative
  · have hmoderate := exponentAtMost_moderate (exponentAtMost_toFloat hsmall.1)
      (isModerate_powerOfTen ⟨e, by omega⟩)
    exact iff_of_true ((isFinite_unpack_pack _).mpr hmoderate.2)
      (scaled_in_range hsmall.1 (by omega))
  · have hmoderate := exponentAtMost_moderate (exponentAtMost_toFloat hsmall.1)
      (isModerate_powerOfTen ⟨e, by omega⟩)
    exact iff_of_true ((isFinite_unpack_pack _).mpr hmoderate.1)
      (scaled_in_range hsmall.1 (by omega))
  · rw [Int.negOfNat_eq]
    exact hlarge _
  · exact hlarge _

theorem isFinite_neg (x : Float) : (-x).isFinite = x.isFinite := by
  rw [Bool.eq_iff_iff]
  refine (isFinite_unpack_pack x.toModel.unpack.neg).trans ?_
  change ExponentAtMost 971 x.toModel.unpack.neg ↔ x.toModel.unpack.isFinite = true
  have hword : x.toModel.unpack.isFinite = true → ExponentAtMost 971 x.toModel.unpack :=
    exponentAtMost_of_isFinite
  cases hparts : x.toModel.unpack with
  | zero => exact iff_of_true trivial rfl
  | infinity => exact iff_of_false id nofun
  | notANumber => exact iff_of_false id nofun
  | finite sign mantissa exponent hpos =>
    rw [hparts] at hword
    exact iff_of_true (hword rfl) rfl

/-- The nearest floating point number is infinite. The largest others are `2 ^ 1024 - 2 ^ 971` in
magnitude, and this lies beyond the middle between them and the next power of two, or upon it. -/
def Overflows (x : ℚ) : Prop :=
  2 ^ 1024 - 2 ^ 970 ≤ |x|

namespace DecimalText

theorem le_of_mul_pow_le {n digits places : Nat} {exponent : Int}
    (h : Nat.pow 2 n * Nat.pow 10 places ≤ digits) (hplaces : -(places : Int) ≤ exponent) :
    (2 : ℚ) ^ n ≤ digits * 10 ^ exponent := by
  have hdigits : (2 : ℚ) ^ n * 10 ^ places ≤ digits := by exact_mod_cast h
  have hpow : (10 : ℚ) ^ (-(places : Int)) ≤ 10 ^ exponent :=
    zpow_le_zpow_right₀ (by norm_num) hplaces
  have hne : (10 : ℚ) ^ places ≠ 0 := by positivity
  calc (2 : ℚ) ^ n = 2 ^ n * 10 ^ places * 10 ^ (-(places : Int)) := by
        rw [zpow_neg, zpow_natCast, mul_assoc, mul_inv_cancel₀ hne, mul_one]
    _ ≤ digits * 10 ^ exponent := by gcongr

theorem le_value_of_isHuge {d : DecimalText} (h : d.isHuge = true) :
    2 ^ 1024 ≤ (d.digits : ℚ) * 10 ^ d.exponent := by
  have hplaces : -((-d.exponent).toNat : Int) ≤ d.exponent := by omega
  rw [isHuge, Bool.and_eq_true, decide_eq_true_iff, decide_eq_true_iff] at h
  obtain ⟨-, hdigits⟩ := h
  have hvalue := le_of_mul_pow_le hdigits hplaces
  exact hvalue

/-- A decimal number is read as a finite one below the middle between the largest of these and the
next power of two. -/
theorem isFinite_toFloat (d : DecimalText) :
    d.toFloat.isFinite = true ↔ (d.digits : ℚ) * 10 ^ d.exponent < 2 ^ 1024 - 2 ^ 970 := by
  have hsign (x : Float) : (if d.negative = true then -x else x).isFinite = x.isFinite := by
    split
    · exact isFinite_neg x
    · rfl
  rw [toFloat, hsign]
  split
  · rename_i hhuge
    have hone : (1 / 0 : Float).isFinite = false := rfl
    have hpos : (0 : ℚ) < 2 ^ 970 := by positivity
    rw [hone]
    refine iff_of_false Bool.false_ne_true (not_lt.mpr ?_)
    exact (sub_le_self _ hpos.le).trans (le_value_of_isHuge hhuge)
  · have hexponent : (if decide (d.exponent < 0) then -(d.exponent.natAbs : Int)
        else d.exponent.natAbs) = d.exponent := by
      by_cases hnegative : d.exponent < 0
      · rw [decide_eq_true hnegative, if_pos rfl]
        omega
      · rw [decide_eq_false hnegative, if_neg Bool.false_ne_true]
        omega
    rw [isFinite_ofScientific, hexponent]

end DecimalText

/-! ### Texts -/

namespace DecimalForm

variable (f : DecimalForm)

/-- A text of this form is a number unless that is too large. -/
theorem decimalOf?_eq_none_iff {s : List Char} (h : trim s = f.text) :
    decimalOf? s = none ↔ Overflows f.value := by
  have hfinite := DecimalText.isFinite_toFloat ⟨f.sign.negative,
    digitsValue (f.mantissa.front ++ f.mantissa.back), f.exponent - f.mantissa.back.length⟩
  dsimp only at hfinite
  rw [decimalOf?, readFloat?, h, f.read?_text, Option.map_some, Overflows, abs_value, ← not_lt,
    ← hfinite]
  simp [Option.filter_some]

end DecimalForm

/-- A text is no decimal number if it does not look like one, or if the floating point number nearest
to what it stands for is infinite. -/
theorem no_decimal_iff (s : List Char) :
    decimalOf? s = none ↔ (¬∃ f : DecimalForm, trim s = f.text) ∨
      ∃ f : DecimalForm, trim s = f.text ∧ Overflows f.value := by
  constructor
  · intro hnone
    by_cases hform : ∃ f : DecimalForm, trim s = f.text
    · obtain ⟨f, hf⟩ := hform
      exact .inr ⟨f, hf, (f.decimalOf?_eq_none_iff hf).mp hnone⟩
    · exact .inl hform
  · rintro (hform | ⟨f, hf, hlarge⟩)
    · have hread : DecimalText.read? (trim s) = none := by
        cases hread : DecimalText.read? (trim s) with
        | none => rfl
        | some d => exact absurd (DecimalText.exists_form_of_read? hread) hform
      rw [decimalOf?, readFloat?, hread]
      rfl
    · exact (f.decimalOf?_eq_none_iff hf).mpr hlarge

end Reckon
