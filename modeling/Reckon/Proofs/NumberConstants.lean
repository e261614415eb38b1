import Mathlib.Data.Nat.Digits.Defs
import Reckon.Proofs.NumberLexemes
import Reckon.Proofs.WholeTexts

/-!
# Numbers become constants

Each number of a text becomes one constant, of a kind that depends on nothing but its digits: whole
and hexadecimal numbers have the narrowest kind that holds them, however many zeros stand in front,
and decimals are floating point numbers.
-/

namespace Reckon

def digitValue (c : Char) : Nat :=
  match c with
  | '0' => 0
  | '1' => 1
  | '2' => 2
  | '3' => 3
  | '4' => 4
  | '5' => 5
  | '6' => 6
  | '7' => 7
  | '8' => 8
  | '9' => 9
  | 'a' | 'A' => 10
  | 'b' | 'B' => 11
  | 'c' | 'C' => 12
  | 'd' | 'D' => 13
  | 'e' | 'E' => 14
  | 'f' | 'F' => 15
  | _ => 0

def numeralValue (base : Nat) (digits : List Char) : Nat :=
  Nat.ofDigits base (digits.reverse.map digitValue)

/-- The value is of the narrowest kind for the number, and the number itself where that is a whole
one. -/
structure Value.IsNarrowest (n : Nat) (v : Value) : Prop where
  integer : n < 2 ^ 31 → ∃ k : Int32, v = .integer k ∧ k.toInt = n
  long : 2 ^ 31 ≤ n → n < 2 ^ 63 → ∃ k : Int64, v = .long k ∧ k.toInt = n
  double : 2 ^ 63 ≤ n → ∃ x, v = .double x

def NumberDenotes : LexemeKind → List Char → Value → Prop
  | .integer, s, v => v.IsNarrowest (numeralValue 10 s)
  | .hexadecimal, s, v => v.IsNarrowest (numeralValue 16 (s.drop 2))
  | .float, s, v => ∃ x, v = .double x ∧ readFloat? s = some x
  | _, _, _ => False

/-! ### Digits -/

theorem placeValue_eq_ofDigits (base : Nat) (digits : List Nat) :
    placeValue base digits = Nat.ofDigits base digits := by
  induction digits with
  | nil => rfl
  | cons d rest ih => rw [placeValue, Nat.ofDigits_cons, ih]

theorem toNat_lt_of_isHexDigit {c : Char} (h : isHexDigit c = true) : c.toNat < 128 := by
  simp only [isHexDigit, isDigit, Bool.or_eq_true, Bool.and_eq_true, decide_eq_true_eq, Char.le_def,
    UInt32.le_iff_toNat_le] at h
  rcases h with (⟨-, hmost⟩ | ⟨-, hmost⟩) | ⟨-, hmost⟩
  all_goals exact Nat.lt_of_le_of_lt hmost (by decide)

theorem hexValue_eq_digitValue {c : Char} (h : isHexDigit c = true) :
    TokenReading.hexValue c = digitValue c := by
  have hascii : ∀ i < 128, isHexDigit (Char.ofNat i) = true →
      TokenReading.hexValue (Char.ofNat i) = digitValue (Char.ofNat i) := by decide
  have hvalue := hascii c.toNat (toNat_lt_of_isHexDigit h)
  rw [Char.ofNat_toNat] at hvalue
  exact hvalue h

theorem isHexDigit_of_isDigit {c : Char} (h : isDigit c = true) : isHexDigit c = true := by
  rw [isHexDigit, h, Bool.true_or, Bool.true_or]

theorem digitsValue_eq_numeralValue {s : List Char} (h : ∀ c ∈ s, isDigit c = true) :
    digitsValue s = numeralValue 10 s := by
  have hvalues : s.reverse.map (fun c => c.toNat - '0'.toNat) = s.reverse.map digitValue :=
    List.map_congr_left fun c hc => by
      have hdigit := h c (List.mem_reverse.mp hc)
      rw [← hexValue_eq_digitValue (isHexDigit_of_isDigit hdigit), TokenReading.hexValue,
        if_pos hdigit]
  rw [digitsValue, joinDigits_eq_placeValue, placeValue_eq_ofDigits, numeralValue, hvalues]

theorem Widened.isNarrowest {n : Nat} {v : Value} (h : Widened false n v) : v.IsNarrowest n := by
  cases h with
  | integer k _ hk =>
    have hmost := k.toInt_lt
    exact ⟨fun _ => ⟨k, rfl, hk⟩, fun _ => by omega, fun _ => by omega⟩
  | long k hwide hk =>
    have hmost := k.toInt_lt
    have hfits : ¬FitsIn32 n := hwide.resolve_left Bool.false_ne_true
    unfold FitsIn32 at hfits
    exact ⟨fun _ => by omega, fun _ _ => ⟨k, rfl, hk⟩, fun _ => by omega⟩
  | double x hwide =>
    unfold FitsIn64 at hwide
    exact ⟨fun _ => by omega, fun _ => by omega, fun _ => ⟨x, rfl⟩⟩

/-! ### Reading numbers -/

namespace TokenReading

theorem wholeConstant_isNarrowest {s : List Char} (hne : s ≠ [])
    (hdigits : ∀ c ∈ s, isDigit c = true) :
    ∃ v, wholeConstant s = constant v ∧ v.IsNarrowest (numeralValue 10 s) := by
  rw [← digitsValue_eq_numeralValue hdigits]
  by_cases hfits : FitsIn64 (digitsValue s)
  · exact ⟨_, wholeConstant_of_digits hne hdigits hfits, (Value.ofInt_widened hfits).isNarrowest⟩
  · exact ⟨_, wholeConstant_of_many_digits hne hdigits hfits,
      Widened.isNarrowest (.double _ hfits)⟩

theorem hexConstant_isNarrowest {s : List Char} (hdigits : ∀ c ∈ s.drop 2, isHexDigit c = true) :
    ∃ v, hexConstant s = constant v ∧ v.IsNarrowest (numeralValue 16 (s.drop 2)) := by
  have hvalues : (s.drop 2).map hexValue = (s.drop 2).map digitValue :=
    List.map_congr_left fun c hc => hexValue_eq_digitValue (hdigits c hc)
  have hvalue : joinDigits 16 ((s.drop 2).map hexValue).reverse = numeralValue 16 (s.drop 2) := by
    rw [joinDigits_eq_placeValue, placeValue_eq_ofDigits, numeralValue, hvalues, List.map_reverse]
  rw [hexConstant, hvalue]
  generalize numeralValue 16 (s.drop 2) = n
  cases hn : toInt64? (n : Int) with
  | none => exact ⟨_, rfl, Widened.isNarrowest (.double _ (toInt64?_eq_none hn))⟩
  | some k =>
    have hk : k.toInt = n := toInt_of_toInt64? hn
    have hfits : FitsIn64 k.toInt := fitsIn64_toInt k
    have hwidened := Value.ofInt_widened hfits
    rw [hk] at hwidened
    exact ⟨_, by simp only [hk], hwidened.isNarrowest⟩

/-- A number is read as a constant whatever stands around it. -/
theorem read_number {l : Lexeme} (h : IsNumber l.kind l.value) :
    ∃ v, NumberDenotes l.kind l.value v ∧
      ∀ after afterOperand, read l after afterOperand = (some (constant v), 0) := by
  obtain ⟨kind, s, p⟩ := l
  cases h with
  | integer hne hdigits =>
    obtain ⟨v, hconstant, hv⟩ := wholeConstant_isNarrowest hne hdigits
    exact ⟨v, hv, fun _ _ => by rw [read, hconstant]⟩
  | hexadecimal hx hne hdigits =>
    obtain ⟨v, hconstant, hv⟩ := @hexConstant_isNarrowest ('0' :: _ :: _) hdigits
    exact ⟨v, hv, fun _ _ => by rw [read, hconstant]⟩
  | float hs hwhole hfraction hexponent hne =>
    obtain ⟨x, hx⟩ := readFloat?_of_parts hwhole hfraction hexponent hne
    rw [← show s = _ from hs] at hx
    have hconstant : floatConstant s = constant (.double x) := by rw [floatConstant, hx]
    exact ⟨.double x, ⟨x, rfl, hx⟩, fun _ _ => by rw [read, hconstant]⟩

end TokenReading

/-! ### Tokens of a text -/

theorem Lexeme.isLookedFor_of_isNumber {l : Lexeme} (h : l.kind.isNumber = true) :
    l.kind ≠ .blank ∧ l.kind ≠ .comment ∧ l.isLookedFor = false := by
  obtain ⟨kind, s, p⟩ := l
  cases kind with
  | integer | float | hexadecimal => exact ⟨nofun, nofun, rfl⟩
  | _ => cases h

/-- A lexeme that becomes the same token everywhere, and cannot go into another one, becomes the only
token at its place. -/
theorem mem_readTokens_iff {text : List Char} {l : Lexeme} {kind : TokenKind} {used : Nat}
    (hl : l ∈ LexemeRules.formula.lexemes text)
    (hplain : l.kind ≠ .blank ∧ l.kind ≠ .comment ∧ l.isLookedFor = false)
    (hread : ∀ after afterOperand, TokenReading.read l after afterOperand = (some kind, used))
    (token : Token) :
    token ∈ readTokens .formula text ∧ token.position = l.position ↔
      token = ⟨kind, l.position⟩ := by
  obtain ⟨hblank, hcomment, hlook⟩ := hplain
  have hmem : l ∈ LexemeRules.formula.readable text :=
    List.mem_filter.mpr ⟨hl, by simp [hblank, hcomment]⟩
  rw [(readTokens_eq rfl text).1]
  constructor
  · rintro ⟨htoken, hposition⟩
    obtain ⟨before, after, hsplit⟩ := List.append_of_mem htoken
    obtain ⟨m, rest, n, hsuffix, hm, htoken, -⟩ := TokenReading.tokens_eq_append hsplit
    have hmem' : m ∈ LexemeRules.formula.lexemes text :=
      List.mem_of_mem_filter (hsuffix.mem List.mem_cons_self)
    obtain rfl := LexemeRules.eq_of_position hmem' hl (hm.trans hposition)
    rw [hread, Prod.mk.injEq, Option.some.injEq] at htoken
    rw [htoken.1, hm]
  · rintro rfl
    obtain ⟨before, after, hsplit⟩ := List.append_of_mem hmem
    rw [hsplit, TokenReading.tokens_append hlook (Nat.zero_le _), TokenReading.tokens, hread]
    exact ⟨List.mem_append_right _ List.mem_cons_self, rfl⟩

/-- A number has the form of its kind and becomes the constant that its digits denote, and no other
token stands at its place. -/
theorem number_becomes_constant {text : List Char} {l : Lexeme}
    (hl : l ∈ LexemeRules.formula.lexemes text) (hkind : l.kind.isNumber = true) :
    IsNumber l.kind l.value ∧
      ∃ v, NumberDenotes l.kind l.value v ∧
        ∀ token, token ∈ readTokens .formula text ∧ token.position = l.position ↔
          token = ⟨.action (.constant v), l.position⟩ := by
  have hnumber := LexemeRules.isNumber_of_mem hl hkind
  obtain ⟨v, hv, hread⟩ := TokenReading.read_number hnumber
  exact ⟨hnumber, v, hv, mem_readTokens_iff hl (Lexeme.isLookedFor_of_isNumber hkind) hread⟩

/-- Digits are letters of either case, with zeros in front. -/
theorem hexadecimal_becomes_long :
    let text := "x*0X00aBcDeF98".toList
    ∃ k : Int64, k.toInt = 2882400152 ∧
      ⟨.action (.constant (.long k)), ⟨1, 3⟩⟩ ∈ readTokens .formula text := by
  intro text
  have hl : ⟨.hexadecimal, "0X00aBcDeF98".toList, ⟨1, 3⟩⟩ ∈ LexemeRules.formula.lexemes text := by
    decide
  obtain ⟨-, v, hv, htoken⟩ := number_becomes_constant hl rfl
  have hvalue : numeralValue 16 "00aBcDeF98".toList = 2882400152 := by decide
  obtain ⟨k, rfl, hk⟩ := Value.IsNarrowest.long hv (by decide) (by decide)
  exact ⟨k, hk, ((htoken _).mpr rfl).1⟩

end Reckon
