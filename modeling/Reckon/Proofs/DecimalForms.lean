import Mathlib.Algebra.Order.Field.Rat
import Mathlib.Tactic.FieldSimp
import Mathlib.Tactic.Positivity
import Mathlib.Tactic.Ring
import Reckon.Proofs.CutAgain
import Reckon.Proofs.Numerals
import Reckon.Proofs.SmallTokens

/-!
# Which texts are decimal numbers

A decimal number is read from a sign, digits, a point and digits, and an exponent. There may be
digits on either side of the point or on both, or no point at all; a sign and an exponent may be
missing. Such a text is a number unless what it stands for is too large in magnitude.
-/

namespace Reckon

/-! ### Forms -/

inductive SignMark where
  | absent
  | plus
  | minus

namespace SignMark

def text : SignMark → List Char
  | absent => []
  | plus => ['+']
  | minus => ['-']

def negative : SignMark → Bool
  | minus => true
  | _ => false

end SignMark

/-- Digits on the left of a point, on both sides or on the right; there need be none behind a point
that has some in front of it. -/
inductive Mantissa where
  | whole (digits : Numeral)
  | pointed (digits : Numeral) (behind : List Char) (hbehind : ∀ c ∈ behind, isDigit c = true)
  | fraction (digits : Numeral)

namespace Mantissa

def text : Mantissa → List Char
  | whole digits => digits.text
  | pointed digits behind _ => digits.text ++ '.' :: behind
  | fraction digits => '.' :: digits.text

/-- Of the digits behind the point the first stands for tenths. -/
def value : Mantissa → ℚ
  | whole digits => digits.value
  | pointed digits behind _ =>
    digits.value + (Nat.ofDigitChars 10 behind 0 : ℚ) / 10 ^ behind.length
  | fraction digits => (digits.value : ℚ) / 10 ^ digits.text.length

end Mantissa

structure Power where
  letter : Char
  isLetter : letter = 'e' ∨ letter = 'E'
  sign : SignMark
  digits : Numeral

namespace Power

def text (p : Power) : List Char :=
  p.letter :: (p.sign.text ++ p.digits.text)

def value (p : Power) : Int :=
  if p.sign.negative then -(p.digits.value : Int) else p.digits.value

end Power

structure DecimalForm where
  sign : SignMark
  mantissa : Mantissa
  power : Option Power

namespace DecimalForm

variable (f : DecimalForm)

def powerText : Option Power → List Char
  | none => []
  | some power => power.text

def text : List Char :=
  f.sign.text ++ (f.mantissa.text ++ powerText f.power)

def exponent : Int :=
  (f.power.map Power.value).getD 0

def magnitude : ℚ :=
  f.mantissa.value * 10 ^ f.exponent

def value : ℚ :=
  if f.sign.negative then -f.magnitude else f.magnitude

end DecimalForm

/-! ### From a text to its parts -/

theorem exists_sign (s : List Char) :
    ∃ sign : SignMark, s = sign.text ++ (splitSign s).2 ∧ (splitSign s).1 = sign.negative := by
  unfold splitSign
  split
  · exact ⟨.plus, rfl, rfl⟩
  · exact ⟨.minus, rfl, rfl⟩
  · exact ⟨.absent, rfl, rfl⟩

theorem readInt?_eq (s : List Char) : readInt? s = (readNat? (splitSign s).2).map fun n : Nat =>
    if (splitSign s).1 then -(n : Int) else (n : Int) := by
  rw [readInt?]
  obtain ⟨negative, digits⟩ := splitSign s
  dsimp only
  cases readNat? digits with
  | none => rfl
  | some n => rfl

namespace DecimalText

theorem exists_power {s : List Char} {k : Int} (h : readExponent? s = some k) :
    ∃ power, s = DecimalForm.powerText power := by
  cases s with
  | nil => exact ⟨none, rfl⟩
  | cons e rest =>
    rw [readExponent?] at h
    split at h
    · rename_i hletter
      have he : e = 'e' ∨ e = 'E' := by simpa using hletter
      obtain ⟨sign, hsign, -⟩ := exists_sign rest
      rw [readInt?_eq, Option.map_eq_some_iff] at h
      obtain ⟨n, hn, -⟩ := h
      obtain ⟨digits, hdigits, -⟩ := exists_numeral_of_readNat? hn
      rw [hdigits] at hsign
      exact ⟨some ⟨e, he, sign, digits⟩, by rw [hsign]; rfl⟩
    · cases h

theorem exists_mantissa {whole rest : List Char} (hwhole : ∀ c ∈ whole, isDigit c = true)
    (hsome : whole ≠ [] ∨ (pointSplit rest).1 ≠ []) :
    ∃ mantissa : Mantissa, whole ++ rest = mantissa.text ++ (pointSplit rest).2 := by
  by_cases hne : whole = []
  · have hfraction := hsome.resolve_left (absurd hne)
    unfold pointSplit at hfraction ⊢
    split at hfraction
    · rename_i tail
      have hdigits : ∀ c ∈ tail.takeWhile isDigit, isDigit c = true :=
        fun _ hc => List.mem_takeWhile_imp hc
      refine ⟨.fraction ⟨_, hfraction, hdigits⟩, ?_⟩
      rw [hne, Mantissa.text, List.nil_append, List.cons_append, List.takeWhile_append_dropWhile]
    · exact absurd rfl hfraction
  · unfold pointSplit
    split
    · rename_i tail
      have hdigits : ∀ c ∈ tail.takeWhile isDigit, isDigit c = true :=
        fun _ hc => List.mem_takeWhile_imp hc
      refine ⟨.pointed ⟨whole, hne, hwhole⟩ _ hdigits, ?_⟩
      rw [Mantissa.text, List.append_assoc, List.cons_append, List.takeWhile_append_dropWhile]
    · exact ⟨.whole ⟨whole, hne, hwhole⟩, rfl⟩

theorem exists_form_of_read? {s : List Char} {d : DecimalText} (h : read? s = some d) :
    ∃ f : DecimalForm, s = f.text := by
  rw [read?_eq_pointSplit] at h
  dsimp only at h
  split at h
  · cases h
  · rename_i hsome
    rw [Bool.and_eq_true, List.isEmpty_iff, List.isEmpty_iff, not_and_or] at hsome
    obtain ⟨k, hk, -⟩ := Option.map_eq_some_iff.mp h
    obtain ⟨sign, hsign, -⟩ := exists_sign s
    obtain ⟨mantissa, hmantissa⟩ := exists_mantissa (fun _ hc => List.mem_takeWhile_imp hc) hsome
    obtain ⟨power, hpower⟩ := exists_power hk
    rw [List.takeWhile_append_dropWhile] at hmantissa
    refine ⟨⟨sign, mantissa, power⟩, ?_⟩
    rw [DecimalForm.text, ← hpower, ← hmantissa]
    exact hsign

end DecimalText

/-! ### From the parts to a number -/

theorem splitSign_text (sign : SignMark) {rest : List Char}
    (h : ∀ c ∈ rest.head?, c ≠ '+' ∧ c ≠ '-') :
    splitSign (sign.text ++ rest) = (sign.negative, rest) := by
  cases sign with
  | plus => rfl
  | minus => rfl
  | absent =>
    cases rest with
    | nil => rfl
    | cons c rest =>
      obtain ⟨hplus, hminus⟩ := h c rfl
      rw [SignMark.text, List.nil_append, splitSign_cons, if_neg hplus, if_neg hminus]
      rfl

theorem not_sign_of_isDigit {c : Char} (h : isDigit c = true) : c ≠ '+' ∧ c ≠ '-' := by
  constructor
  · rintro rfl
    cases h
  · rintro rfl
    cases h

theorem Numeral.not_sign (n : Numeral) (rest : List Char) :
    ∀ c ∈ (n.text ++ rest).head?, c ≠ '+' ∧ c ≠ '-' := by
  obtain ⟨d, more, htext⟩ := List.exists_cons_of_ne_nil n.ne_nil
  have hd : isDigit d = true := n.digits d (by rw [htext]; exact List.mem_cons_self)
  rw [htext]
  rintro c ⟨⟩
  exact not_sign_of_isDigit hd

theorem Power.readExponent?_text (p : Power) :
    DecimalText.readExponent? p.text = some p.value := by
  have hletter : (decide (p.letter = 'e') || decide (p.letter = 'E')) = true := by
    simpa using p.isLetter
  have hsign : splitSign (p.sign.text ++ p.digits.text) = (p.sign.negative, p.digits.text) := by
    have hhead := p.digits.not_sign []
    rw [List.append_nil] at hhead
    exact splitSign_text p.sign hhead
  rw [text, DecimalText.readExponent?, if_pos hletter, readInt?_eq, hsign, p.digits.readNat?_text]
  rfl

namespace Mantissa

def front : Mantissa → List Char
  | whole digits => digits.text
  | pointed digits _ _ => digits.text
  | fraction _ => []

def back : Mantissa → List Char
  | whole _ => []
  | pointed _ behind _ => behind
  | fraction digits => digits.text

variable (m : Mantissa)

theorem value_append (s t : List Char) :
    (Nat.ofDigitChars 10 (s ++ t) 0 : ℚ) / 10 ^ t.length =
      Nat.ofDigitChars 10 s 0 + (Nat.ofDigitChars 10 t 0 : ℚ) / 10 ^ t.length := by
  have hsum : Nat.ofDigitChars 10 (s ++ t) 0 =
      10 ^ t.length * Nat.ofDigitChars 10 s 0 + Nat.ofDigitChars 10 t 0 := by
    rw [Nat.ofDigitChars_append]
    exact Nat.ofDigitChars_eq_ofDigitChars_zero
  have hne : (10 : ℚ) ^ t.length ≠ 0 := by positivity
  rw [hsum]
  push_cast
  field_simp

theorem value_eq : m.value = (digitsValue (m.front ++ m.back) : ℚ) / 10 ^ m.back.length := by
  rw [digitsValue_eq]
  cases m with
  | whole digits => simp [value, front, back, Numeral.value]
  | pointed digits behind hbehind => exact (value_append _ _).symm
  | fraction digits => rfl

/-- There is a digit, in front of the point or behind it. -/
theorem front_or_back : (m.front.isEmpty && m.back.isEmpty) = false := by
  cases m with
  | whole digits => simp [front, digits.ne_nil]
  | pointed digits behind hbehind => simp [front, digits.ne_nil]
  | fraction digits => simp [back, digits.ne_nil]

theorem not_sign (rest : List Char) : ∀ c ∈ (m.text ++ rest).head?, c ≠ '+' ∧ c ≠ '-' := by
  cases m with
  | whole digits => exact digits.not_sign rest
  | pointed digits behind hbehind =>
    rw [text, List.append_assoc]
    exact digits.not_sign _
  | fraction digits =>
    rintro c ⟨⟩
    exact ⟨by decide, by decide⟩

/-- Behind the digits of a mantissa there is no other digit and no other point. -/
theorem split_text {rest : List Char} (h : ∀ c ∈ rest.head?, isDigit c = false ∧ c ≠ '.') :
    (m.text ++ rest).takeWhile isDigit = m.front ∧
      pointSplit ((m.text ++ rest).dropWhile isDigit) = (m.back, rest) := by
  have hstops : ∀ c ∈ rest.head?, isDigit c = false := fun c hc => (h c hc).1
  have hpoint (tail : List Char) : ∀ c ∈ ('.' :: tail).head?, isDigit c = false := by
    rintro c ⟨⟩
    rfl
  cases m with
  | whole digits =>
    obtain ⟨htake, hdrop⟩ := span_of_stops digits.digits hstops
    rw [text, htake, hdrop, pointSplit_of_no_point fun c hc => (h c hc).2]
    exact ⟨rfl, rfl⟩
  | pointed digits behind hbehind =>
    obtain ⟨htake, hdrop⟩ := span_of_stops digits.digits (hpoint (behind ++ rest))
    obtain ⟨htake', hdrop'⟩ := span_of_stops hbehind hstops
    rw [text, List.append_assoc, List.cons_append, htake, hdrop, pointSplit, htake', hdrop']
    exact ⟨rfl, rfl⟩
  | fraction digits =>
    obtain ⟨htake, hdrop⟩ := span_of_stops digits.digits hstops
    have hfront : ('.' :: (digits.text ++ rest)).takeWhile isDigit = [] := rfl
    have hback : ('.' :: (digits.text ++ rest)).dropWhile isDigit = '.' :: (digits.text ++ rest) :=
      rfl
    rw [text, List.cons_append, hfront, hback, pointSplit, htake, hdrop]
    exact ⟨rfl, rfl⟩

end Mantissa

namespace DecimalForm

theorem head_powerText (power : Option Power) :
    ∀ c ∈ (powerText power).head?, isDigit c = false ∧ c ≠ '.' := by
  cases power with
  | none => nofun
  | some power =>
    rintro c ⟨⟩
    rcases power.isLetter with hletter | hletter
    · rw [hletter]
      exact ⟨rfl, by decide⟩
    · rw [hletter]
      exact ⟨rfl, by decide⟩

variable (f : DecimalForm)

theorem readExponent?_powerText :
    DecimalText.readExponent? (powerText f.power) = some f.exponent := by
  rw [exponent]
  cases f.power with
  | none => rfl
  | some power => exact power.readExponent?_text

theorem read?_text : DecimalText.read? f.text = some ⟨f.sign.negative,
    digitsValue (f.mantissa.front ++ f.mantissa.back), f.exponent - f.mantissa.back.length⟩ := by
  obtain ⟨hfront, hback⟩ := f.mantissa.split_text (head_powerText f.power)
  rw [text, read?_eq_pointSplit, splitSign_text f.sign (f.mantissa.not_sign _)]
  dsimp only
  rw [hfront, hback, f.mantissa.front_or_back, if_neg Bool.false_ne_true,
    f.readExponent?_powerText]
  rfl

theorem abs_value : |f.value| = (digitsValue (f.mantissa.front ++ f.mantissa.back) : ℚ) *
    10 ^ (f.exponent - f.mantissa.back.length) := by
  have hmagnitude : f.magnitude = (digitsValue (f.mantissa.front ++ f.mantissa.back) : ℚ) *
      10 ^ (f.exponent - f.mantissa.back.length) := by
    rw [magnitude, f.mantissa.value_eq, zpow_sub₀ (by norm_num), zpow_natCast]
    ring
  have hnonneg : 0 ≤ f.magnitude := by
    rw [hmagnitude]
    exact mul_nonneg (Nat.cast_nonneg _) (zpow_nonneg (by norm_num) _)
  rw [← hmagnitude, value]
  split
  · rw [abs_neg, abs_of_nonneg hnonneg]
  · exact abs_of_nonneg hnonneg

end DecimalForm

end Reckon
