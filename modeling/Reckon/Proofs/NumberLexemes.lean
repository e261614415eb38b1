import Reckon.Proofs.DecimalForms

/-!
# What numbers look like

A number of a formula is whole, hexadecimal or a decimal with a fraction or an exponent, whatever
follows it in the text. The scanner takes no character of a number that the text of a number cannot
have: so whole numbers are digits, and decimals can be read as floating point numbers.
-/

namespace Reckon

inductive Fraction : List Char → Prop where
  | intro (digits : List Char) : digits ≠ [] → (∀ c ∈ digits, isDigit c = true) →
      Fraction ('.' :: digits)

inductive IsNumber : LexemeKind → List Char → Prop where
  | integer {digits : List Char} (hne : digits ≠ []) (hdigits : ∀ c ∈ digits, isDigit c = true) :
      IsNumber .integer digits
  | hexadecimal {x : Char} {digits : List Char} (hx : x = 'x' ∨ x = 'X') (hne : digits ≠ [])
      (hdigits : ∀ c ∈ digits, isHexDigit c = true) : IsNumber .hexadecimal ('0' :: x :: digits)
  | float {s whole fraction exponent : List Char} (hs : s = whole ++ (fraction ++ exponent))
      (hwhole : ∀ c ∈ whole, isDigit c = true) (hfraction : fraction = [] ∨ Fraction fraction)
      (hexponent : exponent = [] ∨ Exponent exponent) (hne : whole ≠ [] ∨ fraction ≠ []) :
      IsNumber .float s

/-! ### Parts of a number -/

theorem fractionPart_shape (l : List Char) : fractionPart l = [] ∨ Fraction (fractionPart l) := by
  unfold fractionPart
  split
  · rename_i d rest
    by_cases hd : isDigit d = true
    · rw [if_pos hd]
      exact .inr (.intro _ (by simp [hd]) fun _ hc => List.mem_takeWhile_imp hc)
    · exact .inl (if_neg hd)
  · exact .inl rfl

theorem hexPart_shape (x : Char) (l : List Char) : hexPart (x :: l) = [] ∨
    ∃ digits, hexPart (x :: l) = x :: digits ∧ digits ≠ [] ∧
      ∀ c ∈ digits, isHexDigit c = true := by
  cases l with
  | nil => exact .inl rfl
  | cons d rest =>
    by_cases hd : isHexDigit d = true
    · exact .inr ⟨_, if_pos hd, by simp [hd], fun _ hc => List.mem_takeWhile_imp hc⟩
    · exact .inl (if_neg hd)

variable {first : Char} {ahead : List Char}

theorem decimalRest_isNumber {rules : LexemeRules}
    (h : isDigit first = true ∨ first = '.' ∧ ∃ d ∈ ahead.head?, isDigit d = true) :
    IsNumber (decimalRest rules first ahead).1 (first :: (decimalRest rules first ahead).2) := by
  have hwhole : ∀ c ∈ ahead.takeWhile isDigit, isDigit c = true :=
    fun _ hc => List.mem_takeWhile_imp hc
  have hexponent (l : List Char) : (if rules.allowExponent then exponentPart l else []) = [] ∨
      Exponent (if rules.allowExponent then exponentPart l else []) := by
    split
    · exact exponentPart_shape l
    · exact .inl rfl
  unfold decimalRest
  rcases h with hfirst | ⟨rfl, d, hd, hdigit⟩
  · have hpoint : first ≠ '.' := by
      rintro rfl
      cases hfirst
    have hfraction := fractionPart_shape (ahead.drop (ahead.takeWhile isDigit).length)
    simp only [hpoint, if_false, decide_false, Bool.false_or]
    generalize fractionPart (ahead.drop (ahead.takeWhile isDigit).length) = fraction at *
    have hexponent := hexponent ((ahead.drop (ahead.takeWhile isDigit).length).drop fraction.length)
    generalize (if rules.allowExponent then exponentPart _ else []) = exponent at *
    have hwhole : ∀ c ∈ first :: ahead.takeWhile isDigit, isDigit c = true :=
      List.forall_mem_cons.mpr ⟨hfirst, hwhole⟩
    by_cases hplain : fraction = [] ∧ exponent = []
    · obtain ⟨rfl, rfl⟩ := hplain
      simp only [List.append_nil]
      exact .integer (List.cons_ne_nil _ _) hwhole
    · have hkind : (!fraction.isEmpty || !exponent.isEmpty) = true := by
        cases fraction <;> cases exponent <;> simp_all
      rw [if_pos hkind]
      exact .float (by simp) hwhole hfraction hexponent (.inl (List.cons_ne_nil _ _))
  · obtain ⟨rest, rfl⟩ : ∃ rest, ahead = d :: rest := by
      cases ahead with
      | nil => cases hd
      | cons c rest => exact ⟨rest, by rw [Option.some.inj hd]⟩
    have hne : (d :: rest).takeWhile isDigit ≠ [] := by simp [hdigit]
    simp only [if_true, decide_true, Bool.true_or, List.append_nil]
    exact @IsNumber.float _ [] _ _ rfl nofun (.inr (.intro _ hne hwhole)) (hexponent _)
      (.inr (List.cons_ne_nil _ _))

theorem numberRest_isNumber {rules : LexemeRules}
    (h : isDigit first = true ∨ first = '.' ∧ ∃ d ∈ ahead.head?, isDigit d = true) :
    IsNumber (numberRest rules first ahead).1 (first :: (numberRest rules first ahead).2) := by
  by_cases hhex : startsHex rules first ahead = true
  · have hnumber : numberRest rules first ahead =
        (if (hexPart ahead).isEmpty then .integer else .hexadecimal, hexPart ahead) := if_pos hhex
    rw [hnumber]
    simp only [startsHex, Bool.and_eq_true, Bool.or_eq_true, beq_iff_eq] at hhex
    obtain ⟨⟨-, rfl⟩, hahead⟩ := hhex
    obtain ⟨x, rest, rfl, hx⟩ : ∃ x rest, ahead = x :: rest ∧ (x = 'x' ∨ x = 'X') := by
      cases ahead with
      | nil => simp at hahead
      | cons x rest => exact ⟨x, rest, rfl, by simpa using hahead⟩
    rcases hexPart_shape x rest with hnil | ⟨digits, hdigits, hne, hall⟩
    · rw [hnil]
      exact .integer (List.cons_ne_nil _ _) (by simp; rfl)
    · rw [hdigits]
      exact .hexadecimal hx hne hall
  · rw [numberRest_decimal hhex]
    exact decimalRest_isNumber h

/-! ### Numbers among lexemes -/

namespace LexemeRules

theorem isDigit_of_classOf {c : Char} (h : formula.classOf c = some .number) :
    isDigit c = true := by
  rw [classOf] at h
  split at h
  · rename_i first last cls hfind
    cases h
    have hrange := List.find?_some hfind
    have hmem := List.mem_of_find?_eq_some hfind
    simp only [formula, slashComments, asciiClasses, List.mem_cons, Prod.mk.injEq] at hmem
    simp_all [isDigit]
  · split at h
    · cases h
    · split at h <;> cases h

theorem cut_isNumber (h : (formula.cut first ahead).kind.isNumber = true) :
    IsNumber (formula.cut first ahead).kind (formula.cut first ahead).value := by
  obtain ⟨hcut, hclass | hstarts⟩ := cut_of_isNumber h
  · rw [hcut]
    exact numberRest_isNumber (.inl (isDigit_of_classOf hclass))
  · rw [hcut]
    refine numberRest_isNumber (.inr ?_)
    simpa [startsNumber, formula, slashComments, Option.getD_eq_iff] using hstarts

theorem isNumber_of_mem {text : List Char} {l : Lexeme} (h : l ∈ formula.lexemes text)
    (hkind : l.kind.isNumber = true) : IsNumber l.kind l.value := by
  rcases @cut_of_mem formula (text.length + 1) [] text l h with hend | ⟨first, more, hcut, hvalue⟩
  · rw [hend] at hkind
    cases hkind
  · rw [hcut] at hkind
    rw [hcut, hvalue]
    exact cut_isNumber hkind

end LexemeRules

/-! ### Reading decimals -/

/-- Such a number is a decimal number without a sign. -/
theorem exists_form_of_parts {whole fraction exponent : List Char}
    (hwhole : ∀ c ∈ whole, isDigit c = true) (hfraction : fraction = [] ∨ Fraction fraction)
    (hexponent : exponent = [] ∨ Exponent exponent) (hne : whole ≠ [] ∨ fraction ≠ []) :
    ∃ f : DecimalForm, whole ++ (fraction ++ exponent) = f.text := by
  obtain ⟨power, hpower⟩ : ∃ power, exponent = DecimalForm.powerText power := by
    rcases hexponent with rfl | ⟨e, sign, digits, he, rfl | rfl | rfl, hne, hdigits⟩
    · exact ⟨none, rfl⟩
    · exact ⟨some ⟨e, he, .absent, ⟨digits, hne, hdigits⟩⟩, rfl⟩
    · exact ⟨some ⟨e, he, .plus, ⟨digits, hne, hdigits⟩⟩, rfl⟩
    · exact ⟨some ⟨e, he, .minus, ⟨digits, hne, hdigits⟩⟩, rfl⟩
  obtain ⟨mantissa, hmantissa⟩ : ∃ mantissa : Mantissa, whole ++ fraction = mantissa.text := by
    rcases hfraction with rfl | ⟨digits, hdigits, hall⟩
    · have hsome := hne.resolve_right (absurd rfl)
      exact ⟨.whole ⟨whole, hsome, hwhole⟩, List.append_nil _⟩
    · by_cases hempty : whole = []
      · exact ⟨.fraction ⟨digits, hdigits, hall⟩, by rw [hempty]; rfl⟩
      · exact ⟨.pointed ⟨whole, hempty, hwhole⟩ digits hall, rfl⟩
  refine ⟨⟨.absent, mantissa, power⟩, ?_⟩
  rw [← List.append_assoc, hmantissa, hpower]
  rfl

theorem readFloat?_of_parts {whole fraction exponent : List Char}
    (hwhole : ∀ c ∈ whole, isDigit c = true) (hfraction : fraction = [] ∨ Fraction fraction)
    (hexponent : exponent = [] ∨ Exponent exponent) (hne : whole ≠ [] ∨ fraction ≠ []) :
    ∃ x, readFloat? (whole ++ (fraction ++ exponent)) = some x := by
  obtain ⟨f, hf⟩ := exists_form_of_parts hwhole hfraction hexponent hne
  rw [hf, readFloat?, f.read?_text]
  exact ⟨_, rfl⟩

end Reckon
