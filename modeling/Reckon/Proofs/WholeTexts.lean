import Reckon.Proofs.Cuts
import Reckon.Proofs.Numerals
import Reckon.Proofs.Signs
import Reckon.Proofs.Widening

/-!
# The texts of whole numbers

The text of a whole number is a formula: its digits are one lexeme, which is read as a constant in
the narrowest kind that holds it, and a minus in front negates that. So the number comes back, in a
kind that holds it, unless its magnitude alone needs more than 64 bits.
-/

namespace Reckon

open Cursor

/-! ### Digits -/

theorem splitSign_of_digits {s : List Char} (hdigits : ∀ c ∈ s, isDigit c = true) :
    splitSign s = (false, s) := by
  unfold splitSign
  split
  · exact absurd (hdigits '+' List.mem_cons_self) (by decide)
  · exact absurd (hdigits '-' List.mem_cons_self) (by decide)
  · rfl

theorem readInt?_of_digits {s : List Char} (hne : s ≠ []) (hdigits : ∀ c ∈ s, isDigit c = true) :
    readInt? s = some (digitsValue s : Int) := by
  rw [readInt?, splitSign_of_digits hdigits]
  simp only [readNat?_eq hne hdigits]
  rfl

theorem readFloat?_of_digits {s : List Char} (hne : s ≠ [])
    (hdigits : ∀ c ∈ s, isDigit c = true) :
    readFloat? s = some (DecimalText.toFloat ⟨false, digitsValue s, 0⟩) := by
  have hwhole : s.takeWhile isDigit = s := List.takeWhile_eq_self_iff.mpr hdigits
  have hrest : s.dropWhile isDigit = [] := List.dropWhile_eq_nil_iff.mpr hdigits
  simp [readFloat?, DecimalText.read?, splitSign_of_digits hdigits, hwhole, hrest, hne,
    DecimalText.readExponent?]

/-! ### Lexemes -/

namespace LexemeRules

theorem classOf_digit {c : Char} (h : isDigit c = true) : formula.classOf c = some .number := by
  obtain ⟨n, hn, rfl⟩ := exists_ofNat_of_isDigit h
  match n with
  | 0 | 1 | 2 | 3 | 4 | 5 | 6 | 7 | 8 | 9 => rfl
  | n + 10 => omega

/-- Digits that nothing follows are one number. -/
theorem cut_digits {first : Char} {ahead : List Char} (hfirst : isDigit first = true)
    (hahead : ∀ c ∈ ahead, isDigit c = true) :
    formula.cut first ahead = ⟨.integer, first :: ahead, ahead⟩ := by
  have hne (c : Char) (hc : isDigit c = false) : first ≠ c := by
    rintro rfl
    rw [hc] at hfirst
    cases hfirst
  have hhex : startsHex formula first ahead = false := by
    cases ahead with
    | nil => simp [startsHex]
    | cons d ahead =>
      have hd : isDigit d = true := hahead d List.mem_cons_self
      have hx : d ≠ 'x' ∧ d ≠ 'X' := by
        constructor <;> rintro rfl <;> cases hd
      simp [startsHex, hx]
  have hwhole : ahead.takeWhile isDigit = ahead := List.takeWhile_eq_self_iff.mpr hahead
  have hnumber : numberRest formula first ahead = (.integer, ahead) := by
    simp [numberRest, hhex, hwhole, fractionPart, exponentPart, hne '.' rfl]
  rw [cut, commentTail?_of_ne (hne '/' rfl), plainCut, classOf_digit hfirst]
  simp only [numberCut, hnumber]

theorem lexemesFrom_digits {bound : Nat} {before digits : List Char} (hne : digits ≠ [])
    (hdigits : ∀ c ∈ digits, isDigit c = true) :
    formula.lexemesFrom (bound + 2) (between before digits) =
      [⟨.integer, digits, place (before ++ digits) before.length⟩,
        ⟨.ending, [], place (before ++ digits) (before ++ digits).length⟩] := by
  cases digits with
  | nil => exact absurd rfl hne
  | cons first ahead =>
    obtain ⟨hfirst, hahead⟩ := List.forall_mem_cons.mp hdigits
    rw [lexemesFrom_between, cut_digits hfirst hahead]
    simp only [List.drop_length, lexemesFrom, readLexeme_end]
    rfl

end LexemeRules

/-! ### Tokens -/

theorem exists_length_natText (n : Nat) : ∃ more, (natText n).length = more + 1 :=
  Nat.exists_eq_succ_of_ne_zero (by simp [natText_ne_nil])

theorem readTokens_natText (n : Nat) :
    ∃ p q, readTokens .formula (natText n) =
      [⟨TokenReading.wholeConstant (natText n), p⟩, ⟨.ending, q⟩] := by
  have hskip : LexemeRules.formula.skipEnd = false := rfl
  obtain ⟨more, hmore⟩ := exists_length_natText n
  have hlexemes :=
    @LexemeRules.lexemesFrom_digits more [] _ (natText_ne_nil n) (all_isDigit_natText n)
  rw [(readTokens_eq hskip _).1, LexemeRules.readable, LexemeRules.lexemes, hmore, ← between_nil,
    hlexemes]
  exact ⟨_, _, rfl⟩

theorem readTokens_minus_natText (n : Nat) :
    ∃ p q r, readTokens .formula ('-' :: natText n) =
      [⟨.action (.operator .negate), p⟩, ⟨TokenReading.wholeConstant (natText n), q⟩,
        ⟨.ending, r⟩] := by
  have hskip : LexemeRules.formula.skipEnd = false := rfl
  obtain ⟨more, hmore⟩ := exists_length_natText n
  have hlexemes :=
    @LexemeRules.lexemesFrom_digits more ['-'] _ (natText_ne_nil n) (all_isDigit_natText n)
  have hsign : LexemeRules.formula.cut '-' (natText n) = ⟨.symbol, ['-'], []⟩ := rfl
  rw [(readTokens_eq hskip _).1, LexemeRules.readable, LexemeRules.lexemes, List.length_cons, hmore,
    ← between_nil, LexemeRules.lexemesFrom_between, hsign]
  simp only [List.nil_append, List.drop_zero, List.length_nil]
  rw [hlexemes]
  exact ⟨_, _, _, rfl⟩

/-! ### Evaluating them -/

section

variable {n : Nat} {v w : Value} (rule : TextRule) (known : Variables) (functions : Functions)
  (moments : Moments)

theorem evaluate_natText (h : TokenReading.wholeConstant (natText n) = TokenReading.constant v) :
    ∃ program, Program.parse (String.ofList (natText n)) = .ok program ∧
      program.evaluate rule known functions moments = .ok v := by
  obtain ⟨p, q, htokens⟩ := readTokens_natText n
  rw [h] at htokens
  rw [Program.parse, String.toList_ofList, htokens]
  exact ⟨_, rfl, rfl⟩

theorem evaluate_minus_natText
    (h : TokenReading.wholeConstant (natText n) = TokenReading.constant v) (hnegate : v.negate = .ok w) :
    ∃ program, Program.parse (String.ofList ('-' :: natText n)) = .ok program ∧
      program.evaluate rule known functions moments = .ok w := by
  obtain ⟨p, q, r, htokens⟩ := readTokens_minus_natText n
  rw [h] at htokens
  rw [Program.parse, String.toList_ofList, htokens]
  have happly : Operator.negate.apply rule [v] = .ok w := hnegate
  refine ⟨⟨[⟨.constant v, q⟩, ⟨.operator .negate, p⟩]⟩, rfl, ?_⟩
  simp [Program.evaluate, Program.runFrom, Instruction.run, ValueStack.push, ValueStack.popMany,
    ValueStack.empty, Operator.arity, happly, evaluated, Except.mapError, Program.result]

end

namespace TokenReading

variable {s : List Char} (hne : s ≠ []) (hdigits : ∀ c ∈ s, isDigit c = true)

include hne hdigits

theorem wholeConstant_of_digits (h : FitsIn64 (digitsValue s)) :
    wholeConstant s = constant (.ofInt (digitsValue s)) := by
  rw [wholeConstant, readInt?_of_digits hne hdigits, Option.bind_some]
  cases hn : toInt64? (digitsValue s : Int) with
  | none => exact absurd h (toInt64?_eq_none hn)
  | some k => simp only [toInt_of_toInt64? hn]

/-- More than 64 bits hold becomes a floating point number. -/
theorem wholeConstant_of_many_digits (h : ¬FitsIn64 (digitsValue s)) :
    wholeConstant s = constant (.double (DecimalText.toFloat ⟨false, digitsValue s, 0⟩)) := by
  rw [wholeConstant, readInt?_of_digits hne hdigits, Option.bind_some, toInt64?_eq, if_neg h,
    readFloat?_of_digits hne hdigits]

end TokenReading

theorem wholeConstant_natText {n : Nat} (h : FitsIn64 n) :
    TokenReading.wholeConstant (natText n) = TokenReading.constant (.ofInt n) := by
  have hn := digitsValue_natText n
  rw [TokenReading.wholeConstant_of_digits (natText_ne_nil n) (all_isDigit_natText n) (by rwa [hn]),
    hn]

theorem wholeConstant_natText_of_not_fits {n : Nat} (h : ¬FitsIn64 n) :
    TokenReading.wholeConstant (natText n) =
      TokenReading.constant (.double (DecimalText.toFloat ⟨false, n, 0⟩)) := by
  have hn := digitsValue_natText n
  rw [TokenReading.wholeConstant_of_many_digits (natText_ne_nil n) (all_isDigit_natText n)
    (by rwa [hn]), hn]

theorem Widened.whole {long : Bool} {r : Int} {v : Value} (h : Widened long r v)
    (hr : FitsIn64 r) : (v.kind = .integer ∨ v.kind = .long) ∧ v.wholeNumber? = some r := by
  cases h with
  | integer n _ hn => exact ⟨.inl rfl, congrArg some hn⟩
  | long n _ hn => exact ⟨.inr rfl, congrArg some hn⟩
  | double x hx => exact absurd hr hx

theorem evaluate_intText (rule : TextRule) (known : Variables) (functions : Functions)
    (moments : Moments) {n : Int} (h : FitsIn64 n) (hleast : n ≠ -2 ^ 63) :
    ∃ program w, Program.parse (String.ofList (intText n)) = .ok program ∧
      program.evaluate rule known functions moments = .ok w ∧
      (w.kind = .integer ∨ w.kind = .long) ∧ w.wholeNumber? = some n := by
  have hmagnitude : FitsIn64 n.natAbs := by
    unfold FitsIn64 at *
    omega
  have hconstant := wholeConstant_natText hmagnitude
  have hwidened := Value.ofInt_widened hmagnitude
  obtain ⟨hkind, hwhole⟩ := hwidened.whole hmagnitude
  by_cases hn : n < 0
  · obtain ⟨w, hnegate, hw⟩ := Value.negate_widened hkind hwhole
    have hopposite : -(n.natAbs : Int) = n := by omega
    rw [hopposite] at hw
    obtain ⟨program, hparse, hevaluate⟩ :=
      evaluate_minus_natText rule known functions moments hconstant hnegate
    rw [intText, if_pos hn]
    exact ⟨program, w, hparse, hevaluate, hw.whole h⟩
  · have hsame : (n.natAbs : Int) = n := by omega
    rw [hsame] at hwhole hkind hconstant
    obtain ⟨program, hparse, hevaluate⟩ := evaluate_natText rule known functions moments hconstant
    rw [intText, if_neg hn]
    exact ⟨program, _, hparse, hevaluate, hkind, hwhole⟩

def leastLongFloat : Float :=
  -DecimalText.toFloat ⟨false, 9223372036854775808, 0⟩

theorem leastLongFloat_toBits : leastLongFloat.toBits = 0xC3E0000000000000 := by
  have hhuge : DecimalText.isHuge ⟨false, 9223372036854775808, 0⟩ = false := by decide +kernel
  rw [leastLongFloat, DecimalText.toFloat, hhuge]
  decide

theorem evaluate_least_long (rule : TextRule) (known : Variables) (functions : Functions)
    (moments : Moments) :
    ∃ program, Program.parse (Value.long Int64.minValue).text = .ok program ∧
      program.evaluate rule known functions moments = .ok (.double leastLongFloat) := by
  have hlong : ¬FitsIn64 ((9223372036854775808 : Nat) : Int) := by decide
  have hconstant := wholeConstant_natText_of_not_fits hlong
  exact evaluate_minus_natText rule known functions moments hconstant rfl

/-- The text of a whole number is a formula that gives the number back, in a kind of its own. The
magnitude of the least long number is no long number, and so its text gives a floating point number
of the same size. -/
theorem evaluate_whole_texts (rule : TextRule) (known : Variables) (functions : Functions)
    (moments : Moments) :
    (∀ (v : Value) (n : Int), v.kind = .integer ∨ v.kind = .long → v.wholeNumber? = some n →
      n ≠ -2 ^ 63 →
      ∃ program w, Program.parse v.text = .ok program ∧
        program.evaluate rule known functions moments = .ok w ∧
        (w.kind = .integer ∨ w.kind = .long) ∧ w.wholeNumber? = some n) ∧
    ∃ program x, Program.parse (Value.long Int64.minValue).text = .ok program ∧
      program.evaluate rule known functions moments = .ok (.double x) ∧
      x.toBits = 0xC3E0000000000000 := by
  refine ⟨fun v n hkind hn hleast => ?_, ?_⟩
  · cases v with
    | integer k =>
      obtain rfl : k.toInt = n := Option.some.inj hn
      have hfits : FitsIn64 k.toInt := by
        have hlo := k.le_toInt
        have hhi := k.toInt_lt
        unfold FitsIn64
        omega
      exact evaluate_intText rule known functions moments hfits hleast
    | long k =>
      obtain rfl : k.toInt = n := Option.some.inj hn
      exact evaluate_intText rule known functions moments (fitsIn64_toInt k) hleast
    | _ => rcases hkind with hkind | hkind <;> cases hkind
  · obtain ⟨program, hparse, hevaluate⟩ := evaluate_least_long rule known functions moments
    exact ⟨program, _, hparse, hevaluate, leastLongFloat_toBits⟩

theorem evaluate_text_of_two_minima :
    (∃ program w, Program.parse (Value.integer Int32.minValue).text = .ok program ∧
      program.evaluate .exact (fun _ => none) (fun _ => none) (fun _ => ⟨.epoch, 0⟩) = .ok w ∧
      (w.kind = .integer ∨ w.kind = .long) ∧ w.wholeNumber? = some (-2 ^ 31)) ∧
    ∃ program w, Program.parse (Value.long (Int64.minValue + 1)).text = .ok program ∧
      program.evaluate .exact (fun _ => none) (fun _ => none) (fun _ => ⟨.epoch, 0⟩) = .ok w ∧
      (w.kind = .integer ∨ w.kind = .long) ∧ w.wholeNumber? = some (1 - 2 ^ 63) :=
  have h := evaluate_whole_texts .exact (fun _ => none) (fun _ => none) (fun _ => ⟨.epoch, 0⟩)
  ⟨h.1 (.integer Int32.minValue) (-2 ^ 31) (.inl rfl) (by decide) (by decide),
    h.1 (.long (Int64.minValue + 1)) (1 - 2 ^ 63) (.inr rfl) (by decide) (by decide)⟩

/-- The least long number does not come back as a whole number. -/
theorem least_long_comes_back_floating :
    ¬∀ v : Value, v.kind = .integer ∨ v.kind = .long →
      ∃ program w, Program.parse v.text = .ok program ∧
        program.evaluate .exact (fun _ => none) (fun _ => none) (fun _ => ⟨.epoch, 0⟩) = .ok w ∧
        (w.kind = .integer ∨ w.kind = .long) ∧ w.wholeNumber? = v.wholeNumber? := by
  intro h
  obtain ⟨program, w, hparse, hevaluate, hkind, -⟩ := h (.long Int64.minValue) (.inr rfl)
  obtain ⟨program', hparse', hevaluate'⟩ :=
    evaluate_least_long .exact (fun _ => none) (fun _ => none) (fun _ => ⟨.epoch, 0⟩)
  obtain rfl : program' = program := Except.ok.inj (hparse'.symm.trans hparse)
  obtain rfl : Value.double leastLongFloat = w := Except.ok.inj (hevaluate'.symm.trans hevaluate)
  rcases hkind with hkind | hkind <;> cases hkind

end Reckon
