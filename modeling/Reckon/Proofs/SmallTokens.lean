import Reckon.Proofs.LettersOutsideQuotes
import Reckon.Proofs.Renaming
import Reckon.Proofs.Signs

/-!
# Tokens in small letters

Lexemes that agree in small letters become the same tokens, except that names are in small letters:
numbers have the same values, keywords are keywords in any case, and quoted texts are left alone.
-/

namespace Reckon

/-! ### Numbers -/

section

variable {s : List Char}

/-- A capital letter is no digit, so digits are as they were. -/
theorem toLower_of_isDigit {c : Char} (h : isDigit c = true) : c.toLower = c := by
  rcases toLower_eq_self_or c with hc | ⟨i, hi, hc, -⟩
  · exact hc
  · have hcapital : ∀ i < 26, isDigit (Char.ofNat (65 + i)) = false := by decide
    rw [hc, hcapital i hi] at h
    exact absurd h nofun

theorem small_of_digits (h : ∀ c ∈ s, isDigit c = true) : small s = s :=
  (List.map_congr_left fun c hc => toLower_of_isDigit (h c hc)).trans s.map_id

theorem takeWhile_digits_small (s : List Char) :
    (small s).takeWhile isDigit = s.takeWhile isDigit := by
  rw [takeWhile_isDigit_small]
  exact small_of_digits fun c hc => List.mem_takeWhile_imp hc

theorem dropWhile_digits_small (s : List Char) :
    (small s).dropWhile isDigit = small (s.dropWhile isDigit) :=
  dropWhile_small isDigit_toLower s

theorem readNat?_small (s : List Char) : readNat? (small s) = readNat? s := by
  have hall : (small s).all isDigit = s.all isDigit := by
    rw [small, List.all_map]
    exact congrArg s.all (funext isDigit_toLower)
  rw [readNat?, readNat?, isEmpty_small, hall]
  by_cases h : s.all isDigit = true
  · rw [small_of_digits (List.all_eq_true.mp h)]
  · have hrefused : (s.isEmpty || !s.all isDigit) = true := by simp [h]
    rw [if_pos hrefused, if_pos hrefused]

theorem splitSign_cons (c : Char) (s : List Char) :
    splitSign (c :: s) =
      if c = '+' then (false, s) else if c = '-' then (true, s) else (false, c :: s) := by
  by_cases hplus : c = '+'
  · rw [hplus, splitSign, if_pos rfl]
  · by_cases hminus : c = '-'
    · rw [hminus, splitSign, if_neg (by decide), if_pos rfl]
    · rw [if_neg hplus, if_neg hminus, splitSign]
      · exact fun rest h => hplus (List.cons.inj h).1
      · exact fun rest h => hminus (List.cons.inj h).1

theorem splitSign_small (s : List Char) :
    splitSign (small s) = ((splitSign s).1, small (splitSign s).2) := by
  cases s with
  | nil => rfl
  | cons c s =>
    have hplus : c.toLower = '+' ↔ c = '+' := toLower_eq_iff rfl
    have hminus : c.toLower = '-' ↔ c = '-' := toLower_eq_iff rfl
    rw [small_cons, splitSign_cons, splitSign_cons]
    simp only [hplus, hminus]
    split
    · rfl
    · split
      · rfl
      · rfl

theorem readInt?_small (s : List Char) : readInt? (small s) = readInt? s := by
  rw [readInt?, readInt?, splitSign_small]
  simp only [readNat?_small]

theorem readExponent?_small (s : List Char) :
    DecimalText.readExponent? (small s) = DecimalText.readExponent? s := by
  cases s with
  | nil => rfl
  | cons c s =>
    have hletter : (decide (c.toLower = 'e') || decide (c.toLower = 'E')) =
        (decide (c = 'e') || decide (c = 'E')) :=
      apply_toLower (f := fun c => decide (c = 'e') || decide (c = 'E')) (by decide) c
    rw [small_cons, DecimalText.readExponent?, DecimalText.readExponent?, hletter, readInt?_small]

/-- What stands behind the digits before a point: the digits after it, if there is one, and the
rest. -/
def pointSplit : List Char → List Char × List Char
  | '.' :: tail => (tail.takeWhile isDigit, tail.dropWhile isDigit)
  | tail => ([], tail)

theorem read?_eq_pointSplit (s : List Char) : DecimalText.read? s =
    let body := (splitSign s).2
    let whole := body.takeWhile isDigit
    let split := pointSplit (body.dropWhile isDigit)
    if whole.isEmpty && split.1.isEmpty then none
    else (DecimalText.readExponent? split.2).map fun exponent =>
      ⟨(splitSign s).1, digitsValue (whole ++ split.1), exponent - split.1.length⟩ := rfl

theorem pointSplit_of_no_point {s : List Char} (h : ∀ c ∈ s.head?, c ≠ '.') :
    pointSplit s = ([], s) := by
  unfold pointSplit
  split
  · exact absurd rfl (h '.' rfl)
  · rfl

theorem pointSplit_small (s : List Char) :
    pointSplit (small s) = ((pointSplit s).1, small (pointSplit s).2) := by
  cases s with
  | nil => rfl
  | cons c s =>
    by_cases hc : c = '.'
    · subst hc
      have hsplit : pointSplit (small ('.' :: s)) =
          ((small s).takeWhile isDigit, (small s).dropWhile isDigit) := rfl
      rw [hsplit, takeWhile_digits_small, dropWhile_digits_small]
      rfl
    · have hother {d : Char} (hd : d ≠ '.') (tail : List Char) :
          pointSplit (d :: tail) = ([], d :: tail) := by
        refine pointSplit_of_no_point ?_
        rintro c ⟨⟩
        exact hd
      rw [small_cons, hother hc, hother (mt (toLower_eq_iff rfl).mp hc), small_cons]

theorem read?_small (s : List Char) : DecimalText.read? (small s) = DecimalText.read? s := by
  rw [read?_eq_pointSplit, read?_eq_pointSplit, splitSign_small]
  simp only [takeWhile_digits_small, dropWhile_digits_small, pointSplit_small,
    readExponent?_small]

theorem readFloat?_small (s : List Char) : readFloat? (small s) = readFloat? s := by
  rw [readFloat?, readFloat?, read?_small]

end

/-! ### Lexemes that are looked for -/

namespace TokenReading

theorem toUpper_small (s : List Char) : (small s).map Char.toUpper = s.map Char.toUpper := by
  rw [small, List.map_map]
  exact List.map_congr_left fun c _ => apply_toLower (by decide) c

theorem isWord_folded (l : Lexeme) (keyword : String) :
    isWord l.folded keyword = isWord l keyword := by
  by_cases hkind : l.kind = .quoted
  · rw [Lexeme.folded, if_pos hkind]
  · rw [Lexeme.folded, if_neg hkind, isWord, isWord, Lexeme.small, toUpper_small]

theorem isSymbol_paren_folded (l : Lexeme) : l.folded.isSymbol ['('] = l.isSymbol ['('] := by
  by_cases hkind : l.kind = .quoted
  · rw [Lexeme.folded, if_pos hkind]
  · have hvalue : small l.value = ['('] ↔ l.value = ['('] := small_eq_iff (by decide)
    rw [Lexeme.folded, if_neg hkind, Bool.eq_iff_iff, Lexeme.isSymbol_iff, Lexeme.isSymbol_iff,
      Lexeme.small, hvalue]

/-! ### What lexemes become -/

theorem unknown_small (s : List Char) : unknown (small s) = (unknown s).rename smallText :=
  congrArg TokenKind.unknown (smallText_ofList s).symm

theorem wholeConstant_small (s : List Char) :
    wholeConstant (small s) = (wholeConstant s).rename smallText := by
  rw [wholeConstant, wholeConstant, readInt?_small, readFloat?_small]
  cases (readInt? s).bind toInt64? with
  | some n => rfl
  | none =>
    cases readFloat? s with
    | some x => rfl
    | none => exact unknown_small s

theorem floatConstant_small (s : List Char) :
    floatConstant (small s) = (floatConstant s).rename smallText := by
  rw [floatConstant, floatConstant, readFloat?_small]
  cases readFloat? s with
  | some x => rfl
  | none => exact unknown_small s

theorem hexValue_toLower {c : Char} (h : isHexDigit c = true) :
    hexValue c.toLower = hexValue c := by
  rcases toLower_eq_self_or c with hc | ⟨i, hi, hc, hlower⟩
  · rw [hc]
  · have hdigits : ∀ i < 26, isHexDigit (Char.ofNat (65 + i)) = true →
        hexValue (Char.ofNat (97 + i)) = hexValue (Char.ofNat (65 + i)) := by decide
    rw [hlower, hdigits i hi (hc ▸ h), ← hc]

theorem hexConstant_small {s : List Char} (h : ∀ c ∈ s.drop 2, isHexDigit c = true) :
    hexConstant (small s) = (hexConstant s).rename smallText := by
  have hdigits : ((small s).drop 2).map hexValue = (s.drop 2).map hexValue := by
    rw [drop_small, small, List.map_map]
    exact List.map_congr_left fun c hc => hexValue_toLower (h c hc)
  rw [hexConstant, hexConstant, hdigits]
  split
  · rfl
  · rfl

theorem word_small (value : List Char) (after : List Lexeme) :
    word (small value) (after.map Lexeme.folded) =
      ((word value after).1.rename smallText, (word value after).2) := by
  have hnext (i : Nat) (keyword : String) :
      ((after.map Lexeme.folded)[i]?.map (isWord · keyword)).getD false =
        (after[i]?.map (isWord · keyword)).getD false := by
    rw [List.getElem?_map, Option.map_map]
    simp only [Function.comp_def, isWord_folded]
  have hparen : ((after.map Lexeme.folded).head?.map (·.isSymbol ['('])).getD false =
      (after.head?.map (·.isSymbol ['('])).getD false := by
    rw [List.head?_map, Option.map_map]
    simp only [Function.comp_def, isSymbol_paren_folded]
  simp only [word, toUpper_small, hnext, hparen]
  generalize String.ofList (value.map Char.toUpper) = keyword
  split
  -- `NOT`, then `IS`, then what is no operator
  case h_6 =>
    split
    · rfl
    · split
      · rfl
      · rfl
  case h_7 =>
    split
    · rfl
    · split
      · rfl
      · rw [unknown_small]
  case h_8 =>
    have hname : String.ofList (small value) = smallText (String.ofList value) :=
      (smallText_ofList value).symm
    rw [hname]
    split
    · rfl
    · split
      · rfl
      · rfl
      · rfl
      · rfl
  all_goals rfl

theorem symbol?_of_isAlpha {value : List Char} {c : Char} (hc : c ∈ value)
    (hletter : c.isAlpha = true) (afterOperand : Bool) :
    symbol? value afterOperand = some (unknown value) := by
  have hne {symbol : String} (h : String.ofList value = symbol)
      (hsymbol : Letterless symbol.toList) : False := by
    rw [← h, String.toList_ofList] at hsymbol
    rw [hsymbol c hc] at hletter
    exact absurd hletter nofun
  unfold symbol?
  split
  case h_27 => rfl
  all_goals exact (hne ‹_› (by decide)).elim

theorem symbol?_small (value : List Char) (afterOperand : Bool) :
    symbol? (small value) afterOperand =
      (symbol? value afterOperand).map (TokenKind.rename smallText) := by
  by_cases h : Letterless value
  · have hvalue : small value = value := small_of_letterless h
    have hunknown : (unknown value).rename smallText = unknown value := by
      rw [← unknown_small, hvalue]
    rw [hvalue]
    unfold symbol?
    split
    case h_8 =>
      split
      · rfl
      · rfl
    case h_9 =>
      split
      · rfl
      · rfl
    case h_27 => rw [Option.map_some, hunknown]
    all_goals rfl
  · simp only [Letterless, not_forall] at h
    obtain ⟨c, hc, hletter⟩ := h
    have halpha : c.isAlpha = true := Bool.not_eq_false _ ▸ hletter
    have halpha' : c.toLower.isAlpha = true := by
      rw [apply_toLower (f := Char.isAlpha) (by decide), halpha]
    have hc' : c.toLower ∈ small value := List.mem_map_of_mem hc
    rw [symbol?_of_isAlpha hc halpha, symbol?_of_isAlpha hc' halpha', Option.map_some,
      unknown_small]

def HexDigits (l : Lexeme) : Prop :=
  l.kind = .hexadecimal → ∀ c ∈ l.value.drop 2, isHexDigit c = true

theorem read_folded {l : Lexeme} (h : HexDigits l) (after : List Lexeme) (afterOperand : Bool) :
    read l.folded (after.map Lexeme.folded) afterOperand =
      ((read l after afterOperand).1.map (TokenKind.rename smallText),
        (read l after afterOperand).2) := by
  obtain ⟨kind, value, position⟩ := l
  have hfolded (hkind : kind ≠ .quoted) :
      (⟨kind, value, position⟩ : Lexeme).folded = ⟨kind, small value, position⟩ := if_neg hkind
  cases kind with
  | quoted => rfl
  | word =>
    have hword (value : List Char) (after : List Lexeme) :
        read ⟨.word, value, position⟩ after afterOperand =
          (some (word value after).1, (word value after).2) := rfl
    rw [hfolded nofun, hword, hword, word_small]
    rfl
  | unknown =>
    rw [hfolded nofun]
    exact congrArg (some · , 0) (unknown_small value)
  | integer =>
    rw [hfolded nofun]
    exact congrArg (some · , 0) (wholeConstant_small value)
  | float =>
    rw [hfolded nofun]
    exact congrArg (some · , 0) (floatConstant_small value)
  | hexadecimal =>
    rw [hfolded nofun]
    exact congrArg (some · , 0) (hexConstant_small (h rfl))
  | symbol =>
    rw [hfolded nofun]
    exact congrArg (· , 0) (symbol?_small value afterOperand)
  | _ =>
    rw [hfolded nofun]
    rfl

theorem tokens_folded {ls : List Lexeme} (h : ∀ l ∈ ls, HexDigits l) (used : Nat)
    (afterOperand : Bool) :
    tokens used afterOperand (ls.map Lexeme.folded) =
      (tokens used afterOperand ls).map (Token.rename smallText) := by
  induction ls generalizing used afterOperand with
  | nil => cases used <;> rfl
  | cons l ls ih =>
    obtain ⟨hl, hls⟩ := List.forall_mem_cons.mp h
    cases used with
    | succ used => exact ih hls used afterOperand
    | zero =>
      rw [List.map_cons, tokens, tokens, read_folded hl]
      cases read l ls afterOperand with
      | mk kind? used =>
        cases kind? with
        | none => exact ih hls used afterOperand
        | some kind =>
          have hrest := ih hls used kind.endsOperand
          simp only [Option.map_some, List.map_cons, hrest, endsOperand_rename, l.position_folded]
          rfl

end TokenReading

/-! ### Hexadecimal digits -/

theorem hexPart_digits (s : List Char) : ∀ c ∈ (hexPart s).drop 1, isHexDigit c = true := by
  rcases s with _ | ⟨x, _ | ⟨d, rest⟩⟩
  · simp [hexPart]
  · simp [hexPart]
  · rw [hexPart]
    split
    · exact fun c hc => List.mem_takeWhile_imp hc
    · simp

namespace LexemeRules

variable {rules : LexemeRules}

theorem numberCut_hexDigits {first : Char} {ahead : List Char}
    (h : (rules.numberCut first ahead).kind = .hexadecimal) :
    ∀ c ∈ (rules.numberCut first ahead).value.drop 2, isHexDigit c = true := by
  rw [numberCut, numberRest] at h ⊢
  split
  · exact hexPart_digits ahead
  · rename_i hstarts
    rw [if_neg hstarts] at h
    exact absurd h (iteInduction (motive := (· ≠ LexemeKind.hexadecimal)) (fun _ => by simp)
      fun _ => by simp)

theorem cut_hexDigits {first : Char} {ahead : List Char}
    (h : (rules.cut first ahead).kind = .hexadecimal) :
    ∀ c ∈ (rules.cut first ahead).value.drop 2, isHexDigit c = true := by
  have hcut := (cut_of_isNumber (by rw [h]; rfl)).1
  rw [hcut] at h ⊢
  exact numberCut_hexDigits h

theorem hexDigits_of_mem {text : List Char} {l : Lexeme} (h : l ∈ rules.lexemes text) :
    TokenReading.HexDigits l := by
  intro hkind
  rcases @cut_of_mem rules (text.length + 1) [] text l h with hend | ⟨first, more, hcut, hvalue⟩
  · rw [hend] at hkind
    cases hkind
  · rw [hvalue]
    exact cut_hexDigits (hcut.symm.trans hkind)

theorem readable_folded {s t : List Char}
    (h : (rules.lexemes s).map Lexeme.folded = (rules.lexemes t).map Lexeme.folded) :
    (rules.readable s).map Lexeme.folded = (rules.readable t).map Lexeme.folded := by
  have hfilter (text : List Char) : (rules.readable text).map Lexeme.folded =
      ((rules.lexemes text).map Lexeme.folded).filter
        fun l => l.kind != .blank && l.kind != .comment := by
    rw [readable, List.filter_map]
    simp only [Function.comp_def, Lexeme.kind_folded]
  rw [hfilter, hfilter, h]

end LexemeRules

theorem SameButCase.map_rename_tokens {s t : List Char} (h : SameButCase s t) :
    (readTokens .formula s).map (Token.rename smallText) =
      (readTokens .formula t).map (Token.rename smallText) := by
  have htokens (text : List Char) : (readTokens .formula text).map (Token.rename smallText) =
      TokenReading.tokens 0 false ((LexemeRules.formula.readable text).map Lexeme.folded) := by
    have hhex : ∀ l ∈ LexemeRules.formula.readable text, TokenReading.HexDigits l := fun l hl =>
      LexemeRules.hexDigits_of_mem (List.mem_of_mem_filter hl)
    rw [(readTokens_eq rfl text).1, TokenReading.tokens_folded hhex]
  rw [htokens, htokens, LexemeRules.readable_folded h.map_folded_lexemes]

end Reckon
