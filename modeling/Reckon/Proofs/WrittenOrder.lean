import Reckon.Comparison
import Reckon.Proofs.LetterCase
import Reckon.Proofs.Numerals
import Reckon.Proofs.TextOrdering

/-!
# The order of written numbers

Texts of one length that go on are in the order of these texts, and where they are the same in the
order of what follows. So numerals of one width are in the order of their numbers. Characters up to
the last capital keep their order in lowercase, and texts of them are in one order in both rules.
-/

namespace Reckon

/-! ### Orders of numbers -/

theorem compare_cast (m n : Nat) : compare (m : Int) n = compare m n := by
  simp only [Int.compare_eq_ite_lt, Nat.compare_eq_ite_lt, Int.ofNat_lt]

/-- The order of numbers in two places, the lower of which stays below the base. -/
theorem compare_places {base high high' low low' : Int} (hlow : 0 ≤ low ∧ low < base)
    (hlow' : 0 ≤ low' ∧ low' < base) :
    compare (high * base + low) (high' * base + low') =
      (compare high high').then (compare low low') := by
  have hless {m n x y : Int} (h : m < n) (hx : x < base) (hy : 0 ≤ y) :
      m * base + x < n * base + y := by
    have hstep : (m + 1) * base ≤ n * base := Int.mul_le_mul_of_nonneg_right h (by omega)
    rw [Int.add_mul] at hstep
    omega
  rcases Int.lt_trichotomy high high' with h | rfl | h
  · rw [Int.compare_eq_lt.mpr h, Int.compare_eq_lt.mpr (hless h hlow.2 hlow'.1)]
    rfl
  · have hsame : compare high high = .eq := Int.compare_eq_eq.mpr rfl
    simp only [hsame, Ordering.eq_then, Int.compare_eq_ite_lt, Int.add_lt_add_iff_left]
  · rw [Int.compare_eq_gt.mpr h, Int.compare_eq_gt.mpr (hless h hlow'.2 hlow.1)]
    rfl

/-! ### Texts of one length -/

theorem compareText_cons_self (c : Char) (s t : List Char) :
    compareText (c :: s) (c :: t) = compareText s t := by
  rw [compareText, if_neg (Nat.lt_irrefl _), if_neg (Nat.lt_irrefl _)]

theorem compareText_append {s t : List Char} (h : s.length = t.length) (s' t' : List Char) :
    compareText (s ++ s') (t ++ t') = (compareText s t).then (compareText s' t') := by
  induction s generalizing t with
  | nil =>
    obtain rfl : t = [] := List.length_eq_zero_iff.mp h.symm
    rfl
  | cons c s ih =>
    cases t with
    | nil => cases h
    | cons d t =>
      rw [List.cons_append, List.cons_append, compareText, compareText, ih (Nat.succ.inj h)]
      split
      · rfl
      · split <;> rfl

theorem digitsValue_concat (s : List Char) (c : Char) :
    digitsValue (s ++ [c]) = digitsValue s * 10 + (c.toNat - 48) := by
  rw [digitsValue_eq, digitsValue_eq, Nat.ofDigitChars_append, Nat.ofDigitChars_cons,
    Nat.ofDigitChars_nil, Nat.mul_comm]
  rfl

theorem compareText_digits {s t : List Char} (h : s.length = t.length)
    (hs : ∀ c ∈ s, isDigit c = true) (ht : ∀ c ∈ t, isDigit c = true) :
    compareText s t = compare (digitsValue s) (digitsValue t) := by
  -- From the last digit, which is the low place both of the text and of the number.
  induction s using List.reverseRecOn generalizing t with
  | nil =>
    obtain rfl : t = [] := List.length_eq_zero_iff.mp h.symm
    exact (Nat.compare_eq_eq.mpr rfl).symm
  | append_singleton s c ih =>
    rcases List.eq_nil_or_concat t with rfl | ⟨t, d, rfl⟩
    · simp at h
    · rw [List.concat_eq_append] at *
      have hlength : s.length = t.length := by simpa using h
      obtain ⟨hs, hc⟩ := List.forall_mem_append.mp hs
      obtain ⟨ht, hd⟩ := List.forall_mem_append.mp ht
      have hc := isDigit_iff.mp (hc c (List.mem_singleton_self c))
      have hd := isDigit_iff.mp (hd d (List.mem_singleton_self d))
      have hlt {m n : Nat} (hm : 48 ≤ m) : m < n ↔ m - 48 < n - 48 := by omega
      have hlast : compareText [c] [d] = compare (c.toNat - 48) (d.toNat - 48) := by
        rw [compareText, Nat.compare_eq_ite_lt, if_congr (hlt hc.1) rfl rfl,
          if_congr (hlt hd.1) rfl rfl]
        rfl
      rw [compareText_append hlength, ih hlength hs ht, hlast, digitsValue_concat,
        digitsValue_concat, ← compare_cast, ← compare_cast, ← compare_cast]
      push_cast
      rw [compare_places (by omega) (by omega)]

/-- Numerals of one width are in the order of their numbers. -/
theorem compareText_numeral {width m n : Nat} {s t : List Char} (hs : IsNumeral width s m)
    (ht : IsNumeral width t n) (s' t' : List Char) :
    compareText (s ++ s') (t ++ t') = (compare m n).then (compareText s' t') := by
  have hlength : s.length = t.length := hs.length.trans ht.length.symm
  rw [compareText_append hlength, compareText_digits hlength hs.digits ht.digits, hs.value,
    ht.value]

/-! ### Texts without small letters -/

theorem lowercase_of_ascii {s : List Char} (h : ∀ c ∈ s, c.toNat < 0x80) (behind : List Char) :
    lowercaseAfter behind s = small s := by
  induction s generalizing behind with
  | nil => rfl
  | cons c s ih =>
    obtain ⟨hc, hs⟩ := List.forall_mem_cons.mp h
    have hsigma : c ≠ '\u03a3' := by
      rintro rfl
      exact absurd hc (by decide)
    rw [lowercaseAfter, if_neg hsigma, lowercaseOf, if_pos hc, ih hs]
    rfl

theorem toNat_toLower {c : Char} (h : c.toNat ≤ 90) :
    c.toLower.toNat = if 65 ≤ c.toNat then c.toNat + 32 else c.toNat := by
  have hall : ∀ n < 91, (Char.ofNat n).toLower.toNat = if 65 ≤ n then n + 32 else n := by decide
  rw [← hall c.toNat (Nat.lt_succ_of_le h), Char.ofNat_toNat]

theorem compareText_small {s t : List Char} (hs : ∀ c ∈ s, c.toNat ≤ 90)
    (ht : ∀ c ∈ t, c.toNat ≤ 90) : compareText (small s) (small t) = compareText s t := by
  induction s generalizing t with
  | nil => cases t <;> rfl
  | cons c s ih =>
    cases t with
    | nil => rfl
    | cons d t =>
      obtain ⟨hc, hs⟩ := List.forall_mem_cons.mp hs
      obtain ⟨hd, ht⟩ := List.forall_mem_cons.mp ht
      have hlt {c d : Char} (hc : c.toNat ≤ 90) (hd : d.toNat ≤ 90) :
          c.toLower.toNat < d.toLower.toNat ↔ c.toNat < d.toNat := by
        rw [toNat_toLower hc, toNat_toLower hd]
        split <;> split <;> omega
      rw [small_cons, small_cons, compareText, compareText, ih hs ht]
      simp only [hlt hc hd, hlt hd hc]

theorem TextRule.compare_of_no_small_letters (rule : TextRule) {s t : List Char}
    (hs : ∀ c ∈ s, c.toNat ≤ 90) (ht : ∀ c ∈ t, c.toNat ≤ 90) :
    rule.compare s t = compareText s t := by
  cases rule with
  | exact => rfl
  | ignoringCase =>
    have hlower {s : List Char} (hs : ∀ c ∈ s, c.toNat ≤ 90) : lowercase s = small s :=
      lowercase_of_ascii (fun c hc => Nat.lt_of_le_of_lt (hs c hc) (by decide)) []
    rw [TextRule.compare, form, form, hlower hs, hlower ht, compareText_small hs ht]

end Reckon
