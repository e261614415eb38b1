import Reckon.Proofs.MinusForPlus
import Reckon.Proofs.WrittenLexemes

/-!
# Lexemes cut off again

What has been cut off a text is cut off again in the same way where a space follows it, or nothing.
No reader goes on at a space but that of a quoted text, which does so as long as the text is open;
one that is still open is the last of its text. What a reader saw behind the lexeme does not matter
either: it looked further only for characters to go on with.
-/

namespace Reckon

open Cursor

/-- Nothing follows, or a space does. -/
inductive Apart : List Char → Prop where
  | ending : Apart []
  | space (more : List Char) : Apart (' ' :: more)

theorem Apart.stops {rest : List Char} {p : Char → Prop} (h : Apart rest) (hp : p ' ') :
    ∀ c ∈ rest.head?, p c := by
  cases h with
  | ending => nofun
  | space more =>
    intro c hc
    obtain rfl : ' ' = c := Option.some.inj hc
    exact hp

theorem forall_mem_head?_append {α : Type} {p : α → Prop} {l m : List α}
    (hl : ∀ a ∈ l.head?, p a) (hm : ∀ a ∈ m.head?, p a) : ∀ a ∈ (l ++ m).head?, p a := by
  cases l with
  | nil => exact hm
  | cons b l => exact hl

variable {first : Char} {ahead rest : List Char}

/-- The next character tells as much of what is cut off a text as of the text, if a space tells
nothing, and neither does a text that nothing is cut off. -/
theorem Apart.lookAhead {q : Option Char → Bool} {tail : List Char} (h : Apart rest)
    (htail : tail <+: ahead) (hnone : q none = false) (hspace : q (some ' ') = false)
    (hkept : tail = [] → q ahead.head? = false) : q (tail ++ rest).head? = q ahead.head? := by
  cases tail with
  | nil =>
    rw [hkept rfl]
    cases h with
    | ending => exact hnone
    | space more => exact hspace
  | cons c tail =>
    obtain ⟨more, rfl⟩ := htail
    rfl

/-! ### Runs and openers -/

theorem takeWhile_append_of_stops {p : Char → Bool} {run : List Char} (hrun : ∀ c ∈ run, p c = true)
    (h : ∀ c ∈ rest.head?, p c = false) : (run ++ rest).takeWhile p = run := by
  have hstop : rest.takeWhile p = [] := by
    cases rest with
    | nil => rfl
    | cons c rest => exact List.takeWhile_cons_of_neg (by simp [h c rfl])
  rw [List.takeWhile_append_of_pos hrun, hstop, List.append_nil]

theorem span_of_stops {p : Char → Bool} {run : List Char} (hrun : ∀ c ∈ run, p c = true)
    (h : ∀ c ∈ rest.head?, p c = false) :
    (run ++ rest).takeWhile p = run ∧ (run ++ rest).dropWhile p = rest := by
  have htake := takeWhile_append_of_stops hrun h
  have happend := List.takeWhile_append_dropWhile (p := p) (l := run ++ rest)
  rw [htake] at happend
  exact ⟨htake, List.append_cancel_left happend⟩

theorem takeWhile_again {p : Char → Bool} (h : ∀ c ∈ rest.head?, p c = false) :
    (ahead.takeWhile p ++ rest).takeWhile p = ahead.takeWhile p :=
  takeWhile_append_of_stops (fun _ hc => List.mem_takeWhile_imp hc) h

/-- No opener with characters that are not spaces comes to be by cutting a text off. -/
theorem openerTail?_again {tail opener : List Char} (htail : tail <+: ahead) (hrest : Apart rest)
    (hspace : ' ' ∉ opener) (h : openerTail? first ahead opener = none) :
    openerTail? first (tail ++ rest) opener = none := by
  cases opener with
  | nil => rfl
  | cons d opener =>
    have hfront : opener <+: tail ++ rest → opener <+: ahead := by
      intro hopener
      refine List.IsPrefix.trans ?_ htail
      cases hrest with
      | ending => rwa [List.append_nil] at hopener
      | space more =>
        exact (isPrefix_append_cons_iff (List.not_mem_of_not_mem_cons hspace)).mp hopener
    rw [openerTail?] at h ⊢
    exact if_neg fun hd => by
      rw [if_pos ⟨hd.1, hfront hd.2⟩] at h
      cases h

theorem LexemeRules.commentTail?_eq_none_iff (rules : LexemeRules) :
    rules.commentTail? first ahead = none ↔
      (∀ opener ∈ rules.lineComments, openerTail? first ahead opener = none) ∧
        ∀ pair ∈ rules.blockComments, openerTail? first ahead pair.1 = none := by
  simp only [commentTail?, lineCommentTail?, blockCommentTail?, Option.or_eq_none_iff,
    List.findSome?_eq_none_iff, Option.map_eq_none_iff]

/-! ### Numbers -/

theorem fractionPart_again (h : ∀ c ∈ rest.head?, isDigit c = false ∧ c ≠ '.') :
    fractionPart (fractionPart ahead ++ rest) = fractionPart ahead := by
  have hnone : fractionPart rest = [] := by
    match rest with
    | [] => rfl
    | [c] => exact fractionPart_single c
    | c :: d :: rest => rw [fractionPart_cons_cons, if_neg fun hc => (h c rfl).2 hc.1]
  match ahead with
  | [] => exact hnone
  | [c] =>
    rw [fractionPart_single]
    exact hnone
  | c :: d :: ahead =>
    rw [fractionPart_cons_cons]
    split
    · rename_i hc
      have hrun : ((d :: ahead).takeWhile isDigit ++ rest).takeWhile isDigit =
          (d :: ahead).takeWhile isDigit := takeWhile_again fun c hc => (h c hc).1
      rw [List.takeWhile_cons_of_pos hc.2] at hrun ⊢
      rw [List.cons_append] at hrun
      rw [List.cons_append, List.cons_append, fractionPart_cons_cons, if_pos hc, hrun]
    · exact hnone

theorem fractionPart_head (l : List Char) : ∀ c ∈ (fractionPart l).head?, isDigit c = false := by
  unfold fractionPart
  split
  · split
    · rintro c ⟨⟩
      rfl
    · nofun
  · nofun

inductive Exponent : List Char → Prop where
  | intro (e : Char) (sign digits : List Char) : e = 'e' ∨ e = 'E' →
      sign = [] ∨ sign = ['+'] ∨ sign = ['-'] → digits ≠ [] → (∀ c ∈ digits, isDigit c = true) →
      Exponent (e :: (sign ++ digits))

theorem exponentPart_shape (l : List Char) : exponentPart l = [] ∨ Exponent (exponentPart l) := by
  have hletter {e : Char} (he : (decide (e = 'e') || decide (e = 'E')) = true) :
      e = 'e' ∨ e = 'E' := by simpa using he
  have hrun {d : Char} (hd : isDigit d = true) (more : List Char) :
      (d :: more).takeWhile isDigit ≠ [] ∧ ∀ c ∈ (d :: more).takeWhile isDigit, isDigit c = true :=
    ⟨by simp [hd], fun _ hc => List.mem_takeWhile_imp hc⟩
  unfold exponentPart
  split
  · rename_i e sign d rest
    split
    · rename_i he
      split
      · rename_i hsigned
        obtain ⟨hsign, hd⟩ : (sign = '+' ∨ sign = '-') ∧ isDigit d = true := by simpa using hsigned
        exact .inr (.intro e [sign] _ (hletter he) (by simpa using hsign) (hrun hd rest).1
          (hrun hd rest).2)
      · split
        · rename_i hd
          exact .inr (.intro e [] _ (hletter he) (.inl rfl) (hrun hd _).1 (hrun hd _).2)
        · exact .inl rfl
    · exact .inl rfl
  · rename_i e d
    split
    · rename_i he
      obtain ⟨he, hd⟩ := Bool.and_eq_true_iff.mp he
      exact .inr (.intro e [] [d] (hletter he) (.inl rfl) nofun (by simpa using hd))
    · exact .inl rfl
  · exact .inl rfl

theorem Exponent.head {exponent : List Char} (h : Exponent exponent) :
    ∀ c ∈ exponent.head?, isDigit c = false ∧ c ≠ '.' := by
  obtain ⟨e, sign, digits, he, -, -, -⟩ := h
  rintro c ⟨⟩
  rcases he with rfl | rfl
  · decide
  · decide

theorem exponentPart_head (l : List Char) :
    ∀ c ∈ (exponentPart l).head?, isDigit c = false ∧ c ≠ '.' := by
  rcases exponentPart_shape l with hl | hl
  · rw [hl]
    nofun
  · exact hl.head

theorem exponentPart_append {exponent : List Char} (h : Exponent exponent)
    (hrest : ∀ c ∈ rest.head?, isDigit c = false) :
    exponentPart (exponent ++ rest) = exponent := by
  obtain ⟨e, sign, digits, he, hsign, hne, hdigits⟩ := h
  have hrun := takeWhile_append_of_stops hdigits hrest
  obtain ⟨d, digits, rfl⟩ := List.exists_cons_of_ne_nil hne
  have hd : isDigit d = true := hdigits d List.mem_cons_self
  have hletter : (decide (e = 'e') || decide (e = 'E')) = true := by simpa using he
  have hsigned {c : Char} (hc : c = '+' ∨ c = '-') :
      exponentPart (e :: ([c] ++ d :: digits) ++ rest) = e :: ([c] ++ d :: digits) := by
    have hsign : ((decide (c = '+') || decide (c = '-')) && isDigit d) = true := by simp [hc, hd]
    simp only [List.cons_append, List.nil_append] at hrun ⊢
    rw [exponentPart, if_pos hletter, if_pos hsign, hrun]
  rcases hsign with rfl | rfl | rfl
  · have hplain : (decide (d = '+') || decide (d = '-')) = false := by
      rw [Bool.or_eq_false_iff, decide_eq_false_iff_not, decide_eq_false_iff_not]
      constructor
      · rintro rfl
        exact absurd hd (by decide)
      · rintro rfl
        exact absurd hd (by decide)
    rw [List.cons_append] at hrun
    rw [List.nil_append, List.cons_append, List.cons_append]
    cases hmore : digits ++ rest with
    | nil =>
      obtain ⟨rfl, rfl⟩ := List.append_eq_nil_iff.mp hmore
      simp only [exponentPart, hletter, hd, Bool.and_self, if_true]
    | cons c more =>
      rw [hmore] at hrun
      rw [exponentPart, if_pos hletter, hplain, Bool.false_and, if_neg Bool.false_ne_true,
        if_pos hd, hrun]
  · exact hsigned (.inl rfl)
  · exact hsigned (.inr rfl)

theorem exponentPart_again (h : Apart rest) :
    exponentPart (exponentPart ahead ++ rest) = exponentPart ahead := by
  have hnone : exponentPart rest = [] := by
    cases h with
    | ending => rfl
    | space more =>
      match more with
      | [] => rfl
      | [d] => rfl
      | d :: e :: more => rfl
  rcases exponentPart_shape ahead with hahead | hahead
  · rw [hahead]
    exact hnone
  · exact exponentPart_append hahead (h.stops rfl)

theorem hexPart_again (h : Apart rest) (hahead : hexPart ahead ≠ []) :
    hexPart (hexPart ahead ++ rest) = hexPart ahead := by
  match ahead with
  | [] => exact absurd rfl hahead
  | [x] => exact absurd rfl hahead
  | x :: d :: ahead =>
    rw [hexPart] at hahead ⊢
    split
    · rename_i hd
      have hrun : ((d :: ahead).takeWhile isHexDigit ++ rest).takeWhile isHexDigit =
          (d :: ahead).takeWhile isHexDigit := takeWhile_again (h.stops rfl)
      rw [List.takeWhile_cons_of_pos hd] at hrun ⊢
      rw [List.cons_append] at hrun
      rw [List.cons_append, List.cons_append, hexPart, if_pos hd, hrun]
    · rename_i hd
      exact absurd (if_neg hd) hahead

/-- No number goes on at a space. -/
theorem numberRest_apart {rules : LexemeRules} (h : Apart rest) (hfirst : first ≠ '.') :
    numberRest rules first rest = (.integer, []) := by
  have hexponent : exponentPart rest = [] := @exponentPart_again [] rest h
  have hfraction : fractionPart rest = [] :=
    @fractionPart_again [] rest (h.stops ⟨rfl, by decide⟩)
  cases h with
  | ending => simp [numberRest, startsHex, hfirst, hexponent, hfraction]
  | space more =>
    have hdigit : isDigit ' ' = false := rfl
    simp [numberRest, startsHex, hfirst, hexponent, hfraction, hdigit]

theorem startsHex_again {rules : LexemeRules} {tail : List Char} (h : Apart rest)
    (htail : tail <+: ahead) (hkept : tail = [] → startsHex rules first ahead = false) :
    startsHex rules first (tail ++ rest) = startsHex rules first ahead :=
  h.lookAhead (q := fun c => rules.allowHex && first == '0' && (c == some 'x' || c == some 'X'))
    htail (Bool.and_false _) (Bool.and_false _) hkept

def decimalRest (rules : LexemeRules) (first : Char) (ahead : List Char) :
    LexemeKind × List Char :=
  let whole := ahead.takeWhile isDigit
  let afterWhole := ahead.drop whole.length
  let fraction := if first = '.' then [] else fractionPart afterWhole
  let exponent :=
    if rules.allowExponent then exponentPart (afterWhole.drop fraction.length) else []
  (if first = '.' || !fraction.isEmpty || !exponent.isEmpty then .float else .integer,
    whole ++ fraction ++ exponent)

theorem numberRest_decimal {rules : LexemeRules} (h : ¬startsHex rules first ahead = true) :
    numberRest rules first ahead = decimalRest rules first ahead :=
  if_neg h

/-- Each of the three parts stops in front of the next one, and the last in front of the space. -/
theorem decimalRest_again {rules : LexemeRules} (h : Apart rest) :
    decimalRest rules first ((decimalRest rules first ahead).2 ++ rest) =
      decimalRest rules first ahead := by
  have hwhole : ∀ c ∈ ahead.takeWhile isDigit, isDigit c = true :=
    fun _ hc => List.mem_takeWhile_imp hc
  unfold decimalRest
  dsimp only
  generalize ahead.takeWhile isDigit = whole at hwhole ⊢
  generalize hf : (if first = '.' then [] else fractionPart (ahead.drop whole.length)) = fraction
  generalize he : (if rules.allowExponent = true then
    exponentPart ((ahead.drop whole.length).drop fraction.length) else []) = exponent
  have hexponent : (if rules.allowExponent = true then exponentPart (exponent ++ rest) else []) =
      exponent := by
    rw [← he]
    split
    · exact exponentPart_again h
    · rfl
  have hletter : ∀ c ∈ exponent.head?, isDigit c = false ∧ c ≠ '.' := by
    rw [← he]
    split
    · exact exponentPart_head _
    · simp
  have hbehind := forall_mem_head?_append hletter (h.stops (by decide))
  have hfraction : (if first = '.' then [] else fractionPart (fraction ++ (exponent ++ rest))) =
      fraction := by
    rw [← hf]
    split
    · rfl
    · exact fractionPart_again hbehind
  have hpoint : ∀ c ∈ fraction.head?, isDigit c = false := by
    rw [← hf]
    split
    · simp
    · exact fractionPart_head _
  have hstops := forall_mem_head?_append hpoint fun c hc => (hbehind c hc).1
  simp only [List.append_assoc, takeWhile_append_of_stops hwhole hstops, List.drop_left,
    hfraction, hexponent]

theorem numberRest_again {rules : LexemeRules} (h : Apart rest) :
    numberRest rules first ((numberRest rules first ahead).2 ++ rest) =
      numberRest rules first ahead := by
  have htail := numberRest_isPrefix rules first ahead
  by_cases hhex : startsHex rules first ahead = true
  · have hnumber : numberRest rules first ahead =
        (if (hexPart ahead).isEmpty then .integer else .hexadecimal, hexPart ahead) := if_pos hhex
    have hfirst : first ≠ '.' := by
      rintro rfl
      simp [startsHex] at hhex
    rw [hnumber] at htail ⊢
    by_cases hnil : hexPart ahead = []
    · rw [hnil]
      exact numberRest_apart h hfirst
    · rw [numberRest, startsHex_again h htail fun hempty => absurd hempty hnil, if_pos hhex,
        hexPart_again h hnil]
  · have hsame : ¬startsHex rules first ((numberRest rules first ahead).2 ++ rest) = true := by
      rwa [startsHex_again h htail fun _ => Bool.eq_false_iff.mpr hhex]
    rw [numberRest_decimal hsame, numberRest_decimal hhex, decimalRest_again h]

/-! ### Symbols -/

namespace SymbolTable

theorem walk_best (t : SymbolTable) (read best : Nat) (l : List Char) :
    (t.walk read best l).2 = best ∨ read < (t.walk read best l).2 := by
  induction l generalizing t read best with
  | nil => exact .inl rfl
  | cons c l ih =>
    rw [walk]
    cases t.branch? c with
    | none => exact .inl rfl
    | some u =>
      rcases ih u (read + 1) (if u.isSymbol then read + 1 else best) with hnext | hnext
      · dsimp only
        rw [hnext]
        split
        · exact .inr (Nat.lt_succ_self read)
        · exact .inl rfl
      · exact .inr (Nat.lt_of_succ_lt hnext)

/-- The characters behind the longest symbol do not matter. -/
theorem walk_take {t : SymbolTable} {read best n : Nat} {l : List Char}
    (h : (t.walk read best l).2 ≤ read + n) :
    (t.walk read best (l.take n)).2 = (t.walk read best l).2 := by
  induction l generalizing t read best n with
  | nil => rw [List.take_nil]
  | cons c l ih =>
    cases n with
    | zero =>
      have hbest := (t.walk_best read best (c :: l)).resolve_right (Nat.not_lt.mpr h)
      rw [List.take_zero, hbest]
      rfl
    | succ n =>
      rw [walk] at h
      rw [List.take_succ_cons, walk, walk]
      cases hc : t.branch? c with
      | none => rfl
      | some u =>
        rw [hc] at h
        exact ih (by rwa [Nat.add_right_comm])

theorem tail_again {t : SymbolTable} (hspace : ' ' ∉ t.labels) (h : Apart rest) :
    t.tail first (t.tail first ahead ++ rest) = t.tail first ahead := by
  have hread : t.tail first (t.tail first ahead) = t.tail first ahead := by
    unfold tail
    cases t.branch? first with
    | none => rfl
    | some u =>
      have hbest : (u.walk 0 0 (ahead.take (u.walk 0 0 ahead).2)).2 = (u.walk 0 0 ahead).2 :=
        walk_take (Nat.le_of_eq (Nat.zero_add _).symm)
      dsimp only
      rw [hbest, List.take_take, Nat.min_self]
  cases h with
  | ending => rw [List.append_nil, hread]
  | space more => rw [tail_append_cons hspace, hread]

end SymbolTable

/-! ### Lexemes -/

theorem startsNumber_again {rules : LexemeRules} {tail : List Char} (h : Apart rest)
    (htail : tail <+: ahead) (hkept : tail = [] → startsNumber rules first ahead = false) :
    startsNumber rules first (tail ++ rest) = startsNumber rules first ahead :=
  h.lookAhead (q := fun c =>
      (first == '.' || (rules.allowSign && (first == '+' || first == '-'))) &&
        (c.map isDigit).getD false)
    htail (Bool.and_false _) (Bool.and_false _) hkept

namespace LexemeRules

theorem numberCut_again {rules : LexemeRules} (h : Apart rest) :
    rules.numberCut first ((rules.numberCut first ahead).tail ++ rest) =
      rules.numberCut first ahead := by
  rw [numberCut, numberCut, numberRest_again h]

theorem quotedCut_again {rules : LexemeRules} (hfirst : ' ' ≠ first) (h : Apart rest)
    (hlast : ahead.drop (rules.quotedCut first ahead).tail.length = [] → rest = []) :
    rules.quotedCut first ((rules.quotedCut first ahead).tail ++ rest) =
      rules.quotedCut first ahead := by
  rw [quotedCut] at hlast
  rw [quotedCut, quotedCut, quotedRest_again (h.stops hfirst) hlast]

/-- A point goes on with the digit that makes it begin a number. -/
theorem numberCut_tail_ne_nil {rules : LexemeRules} (hsign : rules.allowSign = false)
    (h : startsNumber rules first ahead = true) : (rules.numberCut first ahead).tail ≠ [] := by
  cases ahead with
  | nil => simp [startsNumber] at h
  | cons d ahead =>
    obtain ⟨rfl, hd⟩ : first = '.' ∧ isDigit d = true := by
      simpa [startsNumber, hsign] using h
    simp [numberCut, numberRest, startsHex, hd]

theorem plainCut_again (h : Apart rest) (hblank : (formula.plainCut first ahead).kind ≠ .blank)
    (hlast : ahead.drop (formula.plainCut first ahead).tail.length = [] → rest = []) :
    formula.plainCut first ((formula.plainCut first ahead).tail ++ rest) =
      formula.plainCut first ahead := by
  have htail := formula.plainCut_isPrefix first ahead
  unfold plainCut at *
  cases hclass : formula.classOf first with
  | none => rfl
  | some cls =>
    simp only [hclass] at hblank hlast htail ⊢
    cases cls with
    | blank => exact absurd rfl hblank
    | number => exact numberCut_again h
    | word => simp only [takeWhile_again (h.stops (by decide : formula.isWordChar ' ' = false))]
    | quote =>
      have hquote : ' ' ≠ first := by
        rintro rfl
        exact absurd hclass (by decide)
      exact quotedCut_again hquote h hlast
    | symbol =>
      dsimp only at hlast htail ⊢
      by_cases hstarts : startsNumber formula first ahead = true
      · rw [if_pos hstarts] at htail ⊢
        rw [startsNumber_again h htail fun hnil => absurd hnil (numberCut_tail_ne_nil rfl hstarts),
          if_pos hstarts, numberCut_again h]
      · rw [if_neg hstarts] at htail ⊢
        dsimp only at htail ⊢
        rw [startsNumber_again h htail fun _ => Bool.not_eq_true _ ▸ hstarts, if_neg hstarts,
          SymbolTable.tail_again (by decide) h]

/-- Behind a lexeme that is not the last one, only a quoted text could go on, and it is closed. -/
theorem cut_again (h : Apart rest) (hblank : (formula.cut first ahead).kind ≠ .blank)
    (hcomment : (formula.cut first ahead).kind ≠ .comment)
    (hlast : ahead.drop (formula.cut first ahead).tail.length = [] → rest = []) :
    formula.cut first ((formula.cut first ahead).tail ++ rest) = formula.cut first ahead := by
  have htail := formula.cut_isPrefix first ahead
  cases hnone : formula.commentTail? first ahead with
  | some tail =>
    have hcut : formula.cut first ahead = ⟨.comment, first :: tail, tail⟩ := by rw [cut, hnone]
    exact absurd (congrArg Cut.kind hcut) hcomment
  | none =>
    have hcut : formula.cut first ahead = formula.plainCut first ahead := by rw [cut, hnone]
    obtain ⟨hline, hblock⟩ := formula.commentTail?_eq_none_iff.mp hnone
    have hagain : formula.commentTail? first ((formula.cut first ahead).tail ++ rest) = none := by
      have hspaces : (∀ opener ∈ formula.lineComments, ' ' ∉ opener) ∧
          ∀ pair ∈ formula.blockComments, ' ' ∉ pair.1 := by decide
      refine formula.commentTail?_eq_none_iff.mpr ⟨fun opener ho => ?_, fun pair hp => ?_⟩
      · exact openerTail?_again htail h (hspaces.1 opener ho) (hline opener ho)
      · exact openerTail?_again htail h (hspaces.2 pair hp) (hblock pair hp)
    rw [cut, hagain]
    rw [hcut] at hblank hlast ⊢
    exact plainCut_again h hblank hlast

end LexemeRules

end Reckon
