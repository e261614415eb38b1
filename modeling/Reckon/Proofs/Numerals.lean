import Mathlib.Data.List.Induction
import Mathlib.Data.List.TakeWhile
import Reckon.DecimalText
import Reckon.Letters
import Reckon.TextOrder

/-!
# Numerals

A numeral is a text of digits alone. It stands for one number, which zeros in front do not change,
and a number below a power of ten has a numeral of that many digits. Digits are no blanks and no
marks, so a numeral between marks comes back whole when the text is trimmed or split.
-/

namespace Reckon

/-! ### Digits -/

theorem isDigit_iff {c : Char} : isDigit c = true ↔ 48 ≤ c.toNat ∧ c.toNat ≤ 57 := by
  simp [isDigit, Char.le_def, UInt32.le_iff_toNat_le]

theorem exists_ofNat_of_isDigit {c : Char} (h : isDigit c = true) :
    ∃ n < 10, c = Char.ofNat (48 + n) := by
  obtain ⟨hleast, hmost⟩ := isDigit_iff.mp h
  refine ⟨c.toNat - 48, by omega, ?_⟩
  rw [Nat.add_sub_cancel' hleast, Char.ofNat_toNat]

theorem all_isDigit_natText (n : Nat) : ∀ c ∈ natText n, isDigit c = true :=
  fun _ hc => Nat.isDigit_of_mem_toDigits (by decide) (by decide) hc

theorem natText_ne_nil (n : Nat) : natText n ≠ [] :=
  Nat.toDigits_ne_nil

theorem placeValue_reverse (l : List Char) :
    placeValue 10 (l.reverse.map fun c => c.toNat - '0'.toNat) = Nat.ofDigitChars 10 l 0 := by
  induction l using List.reverseRecOn with
  | nil => rfl
  | append_singleton l c ih =>
    rw [List.reverse_concat, List.map_cons, placeValue, ih, Nat.ofDigitChars_append,
      Nat.ofDigitChars_cons, Nat.ofDigitChars_nil, Nat.add_comm]

theorem digitsValue_eq (s : List Char) : digitsValue s = Nat.ofDigitChars 10 s 0 := by
  rw [digitsValue, joinDigits_eq_placeValue, placeValue_reverse]

theorem digitsValue_natText (n : Nat) : digitsValue (natText n) = n := by
  rw [digitsValue_eq, natText, Nat.ofDigitChars_ten_toDigits]

theorem digitsValue_zeros_append (k : Nat) (s : List Char) :
    digitsValue (List.replicate k '0' ++ s) = digitsValue s := by
  rw [digitsValue_eq, digitsValue_eq, Nat.ofDigitChars_append, Nat.ofDigitChars_replicate_zero,
    Nat.mul_zero]

theorem readNat?_eq {s : List Char} (hne : s ≠ []) (hdigits : ∀ c ∈ s, isDigit c = true) :
    readNat? s = some (digitsValue s) := by
  have hempty : s.isEmpty = false := by simpa using hne
  have hall : s.all isDigit = true := List.all_eq_true.mpr hdigits
  rw [readNat?, hempty, hall]
  rfl

theorem readNat?_natText (n : Nat) : readNat? (natText n) = some n := by
  rw [readNat?_eq (natText_ne_nil n) (all_isDigit_natText n), digitsValue_natText]

/-! ### Numerals of a given width -/

structure IsNumeral (width : Nat) (s : List Char) (n : Nat) : Prop where
  length : s.length = width
  digits : ∀ c ∈ s, isDigit c = true
  value : digitsValue s = n

theorem isNumeral_paddedText {width n : Nat} (hwidth : 0 < width) (h : n < Nat.pow 10 width) :
    IsNumeral width (paddedText width n) n where
  length := by
    have hle : (natText n).length ≤ width := (Nat.length_toDigits_le_iff (by decide) hwidth).mpr h
    rw [paddedText, List.length_append, List.length_replicate]
    omega
  digits := by
    intro c hc
    rcases List.mem_append.mp hc with hc | hc
    · rw [List.eq_of_mem_replicate hc]
      rfl
    · exact all_isDigit_natText n c hc
  value := by rw [paddedText, digitsValue_zeros_append, digitsValue_natText]

theorem IsNumeral.readNat? {width n : Nat} {s : List Char} (h : IsNumeral (width + 1) s n) :
    readNat? s = some n := by
  have hne : s ≠ [] := List.ne_nil_of_length_eq_add_one h.length
  rw [readNat?_eq hne h.digits, h.value]

/-! ### Numerals of any width -/

structure Numeral where
  text : List Char
  ne_nil : text ≠ []
  digits : ∀ c ∈ text, isDigit c = true

namespace Numeral

def value (n : Numeral) : Nat :=
  Nat.ofDigitChars 10 n.text 0

theorem readNat?_text (n : Numeral) : readNat? n.text = some n.value := by
  rw [readNat?_eq n.ne_nil n.digits, digitsValue_eq, value]

end Numeral

/-- Nothing but numerals is read as a number. -/
theorem exists_numeral_of_readNat? {s : List Char} {k : Nat} (h : readNat? s = some k) :
    ∃ n : Numeral, s = n.text ∧ k = n.value := by
  have hshape : ¬(s.isEmpty || !s.all isDigit) = true := by
    intro hbad
    rw [readNat?, if_pos hbad] at h
    cases h
  simp only [Bool.or_eq_true, List.isEmpty_iff, Bool.not_eq_true', not_or, Bool.not_eq_false,
    List.all_eq_true] at hshape
  let n : Numeral := ⟨s, hshape.1, hshape.2⟩
  exact ⟨n, rfl, Option.some.inj (h.symm.trans n.readNat?_text)⟩

/-! ### Blanks and marks -/

theorem isBlank_of_isDigit {c : Char} (h : isDigit c = true) : isBlank c = false := by
  obtain ⟨hleast, hmost⟩ := isDigit_iff.mp h
  simp only [isBlank, Bool.or_eq_false_iff, Bool.and_eq_false_iff, decide_eq_false_iff_not,
    beq_eq_false_iff_ne]
  omega

theorem not_mem_of_digits {s : List Char} {mark : Char} (hmark : isDigit mark = false)
    (h : ∀ c ∈ s, isDigit c = true) : mark ∉ s := by
  intro hmem
  have hdigit := h mark hmem
  rw [hmark] at hdigit
  cases hdigit

theorem trim_eq_self {s : List Char} (h : ∀ c ∈ s, isBlank c = false) : trim s = s := by
  have hstart (t : List Char) (ht : ∀ c ∈ t, isBlank c = false) : trimStart t = t := by
    cases t with
    | nil => rfl
    | cons c t =>
      have hc : ¬isBlank c = true := by simp [ht c List.mem_cons_self]
      exact List.dropWhile_cons_of_neg hc
  have hback : ∀ c ∈ s.reverse, isBlank c = false := by
    intro c hc
    exact h c (List.mem_reverse.mp hc)
  rw [trim, hstart s h, hstart s.reverse hback, List.reverse_reverse]

theorem splitAtEach_of_not_mem {mark : Char} {s : List Char} (h : mark ∉ s) :
    splitAtEach mark s = [s] := by
  induction s with
  | nil => rfl
  | cons c s ih =>
    obtain ⟨hc, hs⟩ : mark ≠ c ∧ mark ∉ s := by simpa using h
    rw [splitAtEach, if_neg hc.symm, ih hs]

theorem splitAtEach_append {mark : Char} {s : List Char} (h : mark ∉ s) (t : List Char) :
    splitAtEach mark (s ++ mark :: t) = s :: splitAtEach mark t := by
  induction s with
  | nil => rw [List.nil_append, splitAtEach, if_pos rfl]
  | cons c s ih =>
    obtain ⟨hc, hs⟩ : mark ≠ c ∧ mark ∉ s := by simpa using h
    rw [List.cons_append, splitAtEach, if_neg hc.symm, ih hs]

theorem splitAtFirst?_of_not_mem {mark : Char} {s : List Char} (h : mark ∉ s) :
    splitAtFirst? mark s = none := by
  have hrest : s.dropWhile (· != mark) = [] := by
    apply List.dropWhile_eq_nil_iff.mpr
    intro c hc
    have hne : c ≠ mark := ne_of_mem_of_not_mem hc h
    simpa using hne
  rw [splitAtFirst?, hrest]

theorem splitAtFirst?_append {mark : Char} {s : List Char} (h : mark ∉ s) (t : List Char) :
    splitAtFirst? mark (s ++ mark :: t) = some (s, t) := by
  have hbefore : ∀ c ∈ s, (c != mark) = true := by
    intro c hc
    have hne : c ≠ mark := ne_of_mem_of_not_mem hc h
    simpa using hne
  have hrest : (s ++ mark :: t).dropWhile (· != mark) = mark :: t := by
    rw [List.dropWhile_append_of_pos hbefore, List.dropWhile_cons_of_neg (by simp)]
  have hpart : (s ++ mark :: t).takeWhile (· != mark) = s := by
    rw [List.takeWhile_append_of_pos hbefore, List.takeWhile_cons_of_neg (by simp),
      List.append_nil]
  rw [splitAtFirst?, hrest, hpart]

theorem splitAtEach_ne_nil (mark : Char) (s : List Char) : splitAtEach mark s ≠ [] := by
  cases s with
  | nil => nofun
  | cons c s =>
    rw [splitAtEach]
    split
    · nofun
    · split <;> nofun

theorem intercalate_splitAtEach (mark : Char) (s : List Char) :
    [mark].intercalate (splitAtEach mark s) = s := by
  induction s with
  | nil => rfl
  | cons c s ih =>
    obtain ⟨part, parts, hparts⟩ := List.exists_cons_of_ne_nil (splitAtEach_ne_nil mark s)
    rw [hparts] at ih
    rw [splitAtEach, hparts]
    split
    · rename_i hc
      rw [hc, List.intercalate_cons_cons, ih]
      rfl
    · cases parts with
      | nil => simpa using ih
      | cons next parts => simpa using ih

theorem eq_append_of_splitAtFirst? {mark : Char} {s before after : List Char}
    (h : splitAtFirst? mark s = some (before, after)) : s = before ++ mark :: after := by
  have hparts := List.takeWhile_append_dropWhile (p := (· != mark)) (l := s)
  have hstop := List.head?_dropWhile_not (· != mark) s
  rw [splitAtFirst?] at h
  cases hrest : s.dropWhile (· != mark) with
  | nil =>
    rw [hrest] at h
    cases h
  | cons c rest =>
    rw [hrest] at h hparts hstop
    obtain ⟨rfl, rfl⟩ := Prod.mk.inj (Option.some.inj h)
    obtain rfl : c = mark := by simpa using hstop
    exact hparts.symm

end Reckon
