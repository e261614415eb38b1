import Reckon.Proofs.Cuts
import Reckon.Proofs.LexemePlaces

/-!
# A minus in place of a plus

In the text of a formula no lexeme but a number goes on with a plus where it would not go on with
any other symbol, and a number goes on with a minus just as well. So up to a plus that is a lexeme
of its own a text has the same lexemes with a minus in its place, and behind it too.
-/

namespace Reckon

open Cursor

def signLexeme (sign : Char) (position : Position) : Lexeme :=
  ⟨.symbol, [sign], position⟩

/-- Where a sign between two parts of a text stands, whichever it is. -/
def signPlace (before after : List Char) : Position :=
  place (before ++ '+' :: after) before.length

/-! ### Runs and openers in front of the sign -/

variable {ahead rest : List Char}

theorem isPrefix_append_cons_iff {l : List Char} {c : Char} (hc : c ∉ l) :
    l <+: ahead ++ c :: rest ↔ l <+: ahead := by
  refine ⟨fun h => ?_, fun h => h.trans (List.prefix_append _ _)⟩
  induction l generalizing ahead with
  | nil => exact List.nil_prefix
  | cons d l ih =>
    obtain ⟨hd, hl⟩ : c ≠ d ∧ c ∉ l := by simpa using hc
    cases ahead with
    | nil => exact absurd (List.cons_prefix_cons.mp h).1.symm hd
    | cons e ahead =>
      obtain ⟨rfl, hrest⟩ := List.cons_prefix_cons.mp h
      exact (List.prefix_cons_inj d).mpr (ih hl hrest)

/-- A run that the sign ends. -/
theorem takeWhile_append_cons {p : Char → Bool} {c : Char} (hc : p c = false) :
    (ahead ++ c :: rest).takeWhile p = ahead.takeWhile p := by
  induction ahead with
  | nil => rw [List.nil_append, List.takeWhile_cons_of_neg (by simp [hc]), List.takeWhile_nil]
  | cons d ahead ih => rw [List.cons_append, List.takeWhile_cons, List.takeWhile_cons, ih]

/-- A run that neither sign goes on with. -/
theorem takeWhile_of_neither {p : Char → Bool} (hplus : p '+' = false) (hminus : p '-' = false) :
    (ahead ++ '-' :: rest).takeWhile p = (ahead ++ '+' :: rest).takeWhile p :=
  (takeWhile_append_cons hminus).trans (takeWhile_append_cons hplus).symm

/-- A run that ends in front of the sign. -/
theorem takeWhile_minus {p : Char → Bool} (hp : p '-' = p '+')
    (h : ((ahead ++ '+' :: rest).takeWhile p).length ≤ ahead.length) :
    (ahead ++ '-' :: rest).takeWhile p = (ahead ++ '+' :: rest).takeWhile p := by
  induction ahead with
  | nil =>
    rw [List.nil_append, List.nil_append, List.takeWhile_cons, List.takeWhile_cons, hp] at *
    split
    · simp [*] at h
    · rfl
  | cons c ahead ih =>
    rw [List.cons_append, List.takeWhile_cons] at h
    rw [List.cons_append, List.cons_append, List.takeWhile_cons, List.takeWhile_cons]
    split
    · rw [if_pos ‹_›] at h
      rw [ih (Nat.le_of_succ_le_succ h)]
    · rfl

theorem untilClosed_minus {closer read : List Char}
    (h : (untilClosed closer read (ahead ++ '+' :: rest)).length ≤ ahead.length) :
    untilClosed closer read (ahead ++ '-' :: rest) =
      untilClosed closer read (ahead ++ '+' :: rest) := by
  induction ahead generalizing read with
  | nil =>
    rw [List.nil_append, untilClosed] at h
    split at h <;> simp at h
  | cons c ahead ih =>
    rw [List.cons_append, untilClosed] at h
    rw [List.cons_append, List.cons_append, untilClosed, untilClosed]
    split
    · rfl
    · rw [if_neg ‹_›] at h
      rw [ih (Nat.le_of_succ_le_succ h)]

theorem openerTail?_minus {first : Char} {opener : List Char} (hplus : '+' ∉ opener)
    (hminus : '-' ∉ opener) :
    openerTail? first (ahead ++ '-' :: rest) opener =
      openerTail? first (ahead ++ '+' :: rest) opener := by
  cases opener with
  | nil => rfl
  | cons d opener =>
    simp only [openerTail?, isPrefix_append_cons_iff (List.not_mem_of_not_mem_cons hplus),
      isPrefix_append_cons_iff (List.not_mem_of_not_mem_cons hminus)]

/-- Behind an opener in front of the sign, the characters up to the sign are still the same. -/
theorem exists_drop_of_opener {first : Char} {opener more : List Char} (hplus : '+' ∉ opener)
    (h : openerTail? first (ahead ++ '+' :: rest) opener = some more) :
    ∃ between, ahead = more ++ between ∧ ∀ c,
      (ahead ++ c :: rest).drop more.length = between ++ c :: rest := by
  obtain ⟨rfl, hp⟩ := openerTail?_eq_some h
  obtain ⟨between, rfl⟩ := (isPrefix_append_cons_iff (List.not_mem_of_not_mem_cons hplus)).mp hp
  exact ⟨between, rfl, fun c => by rw [List.append_assoc, List.drop_left]⟩

theorem lineCommentTail?_minus {first : Char} {opener : List Char} (hplus : '+' ∉ opener)
    (hminus : '-' ∉ opener)
    (h : ∀ tail, lineCommentTail? first (ahead ++ '+' :: rest) opener = some tail →
      tail.length ≤ ahead.length) :
    lineCommentTail? first (ahead ++ '-' :: rest) opener =
      lineCommentTail? first (ahead ++ '+' :: rest) opener := by
  rw [lineCommentTail?] at h
  rw [lineCommentTail?, lineCommentTail?, openerTail?_minus hplus hminus]
  cases hopener : openerTail? first (ahead ++ '+' :: rest) opener with
  | none => rfl
  | some more =>
    obtain ⟨between, rfl, hdrop⟩ := exists_drop_of_opener hplus hopener
    simp only [hopener, Option.map_some, hdrop, Option.some.injEq, forall_eq',
      List.length_append, Nat.add_le_add_iff_left] at h
    simp only [Option.map_some, hdrop]
    rw [takeWhile_minus rfl h]

theorem blockCommentTail?_minus {first : Char} {pair : List Char × List Char} (hplus : '+' ∉ pair.1)
    (hminus : '-' ∉ pair.1)
    (h : ∀ tail, blockCommentTail? first (ahead ++ '+' :: rest) pair = some tail →
      tail.length ≤ ahead.length) :
    blockCommentTail? first (ahead ++ '-' :: rest) pair =
      blockCommentTail? first (ahead ++ '+' :: rest) pair := by
  rw [blockCommentTail?] at h
  rw [blockCommentTail?, blockCommentTail?, openerTail?_minus hplus hminus]
  cases hopener : openerTail? first (ahead ++ '+' :: rest) pair.1 with
  | none => rfl
  | some more =>
    obtain ⟨between, rfl, hdrop⟩ := exists_drop_of_opener hplus hopener
    simp only [hopener, Option.map_some, hdrop, Option.some.injEq, forall_eq',
      List.length_append, Nat.add_le_add_iff_left] at h
    simp only [Option.map_some, hdrop]
    rw [untilClosed_minus h]

theorem commentTail?_minus {first : Char}
    (h : ∀ tail, LexemeRules.formula.commentTail? first (ahead ++ '+' :: rest) = some tail →
      tail.length ≤ ahead.length) :
    LexemeRules.formula.commentTail? first (ahead ++ '-' :: rest) =
      LexemeRules.formula.commentTail? first (ahead ++ '+' :: rest) := by
  have hformula (l : List Char) : LexemeRules.formula.commentTail? first l =
      (lineCommentTail? first l ['/', '/']).or
        (blockCommentTail? first l (['/', '*'], ['*', '/'])) := by
    simp [LexemeRules.commentTail?, LexemeRules.formula, LexemeRules.slashComments]
  rw [hformula] at h
  rw [hformula, hformula, lineCommentTail?_minus (by decide) (by decide)
    fun tail ht => h tail (by rw [ht, Option.some_or])]
  cases hline : lineCommentTail? first (ahead ++ '+' :: rest) ['/', '/'] with
  | some tail => rfl
  | none =>
    rw [hline, Option.none_or] at h
    rw [blockCommentTail?_minus (by decide) (by decide) h]

/-! ### Numbers in front of the sign -/

/-- The sign is neither a point nor a digit. -/
theorem fractionPart_append_cons {c : Char} (hpoint : c ≠ '.') (hdigit : isDigit c = false) :
    fractionPart (ahead ++ c :: rest) = fractionPart ahead := by
  match ahead with
  | [] => unfold fractionPart; split <;> simp_all
  | [d] => unfold fractionPart; split <;> simp_all
  | d :: e :: ahead =>
    have hrun : (e :: ahead ++ c :: rest).takeWhile isDigit = (e :: ahead).takeWhile isDigit :=
      takeWhile_append_cons hdigit
    rw [List.cons_append] at hrun
    by_cases hd : d = '.'
    · subst hd
      simp only [List.cons_append, fractionPart, hrun]
    · unfold fractionPart
      split <;> split <;> simp_all

theorem hexPart_append_cons {c : Char} (hdigit : isHexDigit c = false) (hahead : ahead ≠ []) :
    hexPart (ahead ++ c :: rest) = hexPart ahead := by
  match ahead with
  | [x] => simp [hexPart, hdigit]
  | x :: d :: ahead =>
    have hrun : (d :: ahead ++ c :: rest).takeWhile isHexDigit =
        (d :: ahead).takeWhile isHexDigit := takeWhile_append_cons hdigit
    rw [List.cons_append] at hrun
    simp only [List.cons_append, hexPart, hrun]

theorem isDigit_plus : isDigit '+' = false := rfl

theorem isDigit_minus : isDigit '-' = false := rfl

/-- An exponent that does not take the plus in is the same in front of a minus. -/
theorem exponentPart_minus
    (h : (exponentPart (ahead ++ '+' :: rest)).length ≤ ahead.length) :
    exponentPart (ahead ++ '-' :: rest) = exponentPart (ahead ++ '+' :: rest) := by
  match ahead with
  | [] =>
    match rest with
    | [] => rfl
    | [d] => simp [exponentPart]
    | d :: e :: rest => simp [exponentPart]
  | [e] =>
    match rest with
    | [] => simp [exponentPart, isDigit_plus, isDigit_minus]
    | d :: rest =>
      by_cases hd : isDigit d
      · by_cases he : e = 'e' ∨ e = 'E'
        · simp [exponentPart, hd, he] at h
        · simp [exponentPart, he]
      · simp [exponentPart, isDigit_plus, isDigit_minus, hd]
  | [e, sign] => simp [exponentPart, isDigit_plus, isDigit_minus, List.takeWhile_cons]
  | e :: sign :: d :: ahead =>
    have hrun (l : List Char) : (l ++ '-' :: rest).takeWhile isDigit =
        (l ++ '+' :: rest).takeWhile isDigit := takeWhile_of_neither isDigit_plus isDigit_minus
    have hsigned := hrun (d :: ahead)
    have hunsigned := hrun (sign :: d :: ahead)
    simp only [List.cons_append] at hsigned hunsigned
    simp only [List.cons_append, exponentPart, hsigned, hunsigned]

/-- The characters in front of a sign that a prefix of them leaves. -/
theorem drop_append_cons {part : List Char} (h : part <+: ahead) (c : Char) :
    (ahead ++ c :: rest).drop part.length = ahead.drop part.length ++ c :: rest :=
  List.drop_append_of_le_length h.length_le

theorem numberRest_minus {rules : LexemeRules} {first : Char}
    (h : (numberRest rules first (ahead ++ '+' :: rest)).2.length ≤ ahead.length) :
    numberRest rules first (ahead ++ '-' :: rest) =
      numberRest rules first (ahead ++ '+' :: rest) := by
  have hhex : startsHex rules first (ahead ++ '-' :: rest) =
      startsHex rules first (ahead ++ '+' :: rest) := by
    cases ahead <;> simp [startsHex]
  rw [numberRest] at h
  rw [numberRest, numberRest, hhex]
  split
  · have hahead : ahead ≠ [] := by
      rintro rfl
      simp [startsHex] at *
    rw [hexPart_append_cons (c := '-') rfl hahead, hexPart_append_cons (c := '+') rfl hahead]
  · rw [if_neg ‹_›] at h
    have hwhole := List.takeWhile_prefix isDigit (l := ahead)
    simp only [takeWhile_append_cons isDigit_plus, takeWhile_append_cons isDigit_minus,
      drop_append_cons hwhole] at h ⊢
    generalize ahead.takeWhile isDigit = whole at *
    rw [fractionPart_append_cons (c := '-') (by decide) isDigit_minus]
    rw [fractionPart_append_cons (c := '+') (by decide) isDigit_plus] at h ⊢
    have hfraction : (if first = '.' then [] else fractionPart (ahead.drop whole.length)) <+:
        ahead.drop whole.length := by
      split
      · exact List.nil_prefix
      · exact fractionPart_isPrefix _
    generalize (if first = '.' then [] else fractionPart (ahead.drop whole.length)) = fraction at *
    simp only [drop_append_cons hfraction] at h ⊢
    split
    · rw [if_pos ‹_›] at h
      rw [exponentPart_minus]
      simp only [List.length_append, List.length_drop] at h ⊢
      omega
    · rfl

/-! ### Quoted texts in front of the sign -/

section

variable {quote c : Char} {escapes : Bool}

theorem quotedRest_end (hc : c ≠ quote) (l : List Char) :
    quotedRest quote escapes (quote :: c :: l) = ([quote], []) := by
  simp [quotedRest, hc]

theorem quotedRest_double (l : List Char) :
    quotedRest quote escapes (quote :: quote :: l) =
      (quote :: quote :: (quotedRest quote escapes l).1,
        quote :: (quotedRest quote escapes l).2) := by
  simp [quotedRest]

theorem quotedRest_escaped (hc : c ≠ quote) (h : (c = '\\' && escapes) = true) (d : Char)
    (l : List Char) :
    quotedRest quote escapes (c :: d :: l) =
      (c :: d :: (quotedRest quote escapes l).1, unescape d :: (quotedRest quote escapes l).2) := by
  simp_all [quotedRest]

theorem quotedRest_plain (hc : c ≠ quote) (h : ¬(c = '\\' && escapes) = true) (l : List Char) :
    quotedRest quote escapes (c :: l) =
      (c :: (quotedRest quote escapes l).1, c :: (quotedRest quote escapes l).2) := by
  rw [quotedRest.eq_def]
  simp only [if_neg hc, if_neg h]

theorem quotedRest_length_pos (c : Char) (l : List Char) :
    0 < (quotedRest quote escapes (c :: l)).1.length := by
  unfold quotedRest
  grind

/-- The induction is on the characters in front of the sign, which the reading does not pass. -/
theorem quotedRest_minus (hplus : '+' ≠ quote) (hminus : '-' ≠ quote)
    (h : (quotedRest quote escapes (ahead ++ '+' :: rest)).1.length ≤ ahead.length) :
    quotedRest quote escapes (ahead ++ '-' :: rest) =
      quotedRest quote escapes (ahead ++ '+' :: rest) := by
  fun_induction quotedRest quote escapes ahead with
  | case1 => exact absurd h (Nat.not_le_of_lt (quotedRest_length_pos '+' rest))
  | case2 =>
    rw [List.singleton_append, List.singleton_append, quotedRest_end hplus, quotedRest_end hminus]
  | case3 ahead raw content _ ih =>
    simp only [List.cons_append, quotedRest_double, List.length_cons] at h ⊢
    rw [ih (by omega)]
  | case4 d ahead hd =>
    simp only [List.cons_append, quotedRest_end hd]
  | case5 c hc hescape =>
    rw [List.singleton_append, quotedRest_escaped hc hescape] at h
    simp at h
  | case6 c hc hescape d ahead raw content _ ih =>
    simp only [List.cons_append, quotedRest_escaped hc hescape, List.length_cons] at h ⊢
    rw [ih (by omega)]
  | case7 c ahead hc hescape raw content _ ih =>
    simp only [List.cons_append, quotedRest_plain hc hescape, List.length_cons] at h ⊢
    rw [ih (by omega)]

end

/-! ### Symbols in front of the sign -/

namespace SymbolTable

mutual

def labels : SymbolTable → List Char
  | node _ branches => branchLabels branches

def branchLabels : List (Char × SymbolTable) → List Char
  | [] => []
  | (c, t) :: rest => c :: labels t ++ branchLabels rest

end

theorem labels_of_branch? {t u : SymbolTable} {c : Char} (h : t.branch? c = some u) :
    c ∈ t.labels ∧ u.labels ⊆ t.labels := by
  obtain ⟨isSymbol, branches⟩ := t
  rw [branch?, SymbolTable.branches] at h
  rw [labels]
  induction branches with
  | nil => cases h
  | cons branch rest ih =>
    obtain ⟨d, t⟩ := branch
    rw [List.lookup_cons] at h
    rw [branchLabels]
    split at h
    · rename_i hd
      cases h
      exact ⟨by simp_all, fun _ hx => by simp [hx]⟩
    · exact ⟨by simp [(ih h).1], fun _ hx => by simp [(ih h).2 hx]⟩

theorem branch?_of_not_mem {t : SymbolTable} {c : Char} (h : c ∉ t.labels) :
    t.branch? c = none := by
  cases hc : t.branch? c with
  | none => rfl
  | some u => exact absurd (labels_of_branch? hc).1 h

/-- A table that has no branch at the sign stops in front of it. -/
theorem walk_append_cons {t : SymbolTable} {c : Char} (h : c ∉ t.labels) (read best : Nat) :
    t.walk read best (ahead ++ c :: rest) = t.walk read best ahead := by
  induction ahead generalizing t read best with
  | nil => rw [List.nil_append, walk, walk, branch?_of_not_mem h]
  | cons d ahead ih =>
    rw [List.cons_append, walk, walk]
    cases hd : t.branch? d with
    | none => rfl
    | some u => exact ih (fun hc => h ((labels_of_branch? hd).2 hc)) _ _

theorem tail_append_cons {t : SymbolTable} {c : Char} (h : c ∉ t.labels) (first : Char) :
    t.tail first (ahead ++ c :: rest) = t.tail first ahead := by
  rw [tail, tail]
  cases hfirst : t.branch? first with
  | none => rfl
  | some u =>
    have hu : c ∉ u.labels := fun hc => h ((labels_of_branch? hfirst).2 hc)
    simp only [walk_append_cons hu]
    exact List.take_append_of_le_length (by
      obtain ⟨hbest, hread⟩ := u.walk_bounds ahead (Nat.le_refl 0)
      omega)

end SymbolTable

/-! ### Lexemes in front of the sign -/

namespace LexemeRules

theorem numberCut_minus {rules : LexemeRules} {first : Char}
    (h : (rules.numberCut first (ahead ++ '+' :: rest)).tail.length ≤ ahead.length) :
    rules.numberCut first (ahead ++ '-' :: rest) =
      rules.numberCut first (ahead ++ '+' :: rest) := by
  rw [numberCut] at h
  rw [numberCut, numberCut, numberRest_minus h]

theorem quotedCut_minus {rules : LexemeRules} {first : Char} (hplus : '+' ≠ first)
    (hminus : '-' ≠ first)
    (h : (rules.quotedCut first (ahead ++ '+' :: rest)).tail.length ≤ ahead.length) :
    rules.quotedCut first (ahead ++ '-' :: rest) =
      rules.quotedCut first (ahead ++ '+' :: rest) := by
  rw [quotedCut] at h
  rw [quotedCut, quotedCut, quotedRest_minus hplus hminus h]

theorem plainCut_minus {first : Char}
    (h : (formula.plainCut first (ahead ++ '+' :: rest)).tail.length ≤ ahead.length) :
    formula.plainCut first (ahead ++ '-' :: rest) =
      formula.plainCut first (ahead ++ '+' :: rest) := by
  have hstarts : startsNumber formula first (ahead ++ '-' :: rest) =
      startsNumber formula first (ahead ++ '+' :: rest) := by
    cases ahead <;> simp [startsNumber, isDigit_plus, isDigit_minus]
  unfold plainCut at *
  rw [hstarts]
  cases hclass : formula.classOf first with
  | none => rfl
  | some cls =>
    rw [hclass] at h
    cases cls with
    | blank =>
      have hblank : (formula.classOf '+' == some .blank) = false ∧
          (formula.classOf '-' == some .blank) = false := by decide
      simp only [takeWhile_of_neither (p := fun d => formula.classOf d == some .blank)
        hblank.1 hblank.2]
    | word =>
      have hword : formula.isWordChar '+' = false ∧ formula.isWordChar '-' = false := by decide
      simp only [takeWhile_of_neither hword.1 hword.2]
    | number => exact numberCut_minus h
    | quote =>
      refine quotedCut_minus ?_ ?_ h
      · rintro rfl
        exact absurd hclass (by decide)
      · rintro rfl
        exact absurd hclass (by decide)
    | symbol =>
      simp only at h ⊢
      split
      · rw [if_pos ‹_›] at h
        exact numberCut_minus h
      · rw [SymbolTable.tail_append_cons (c := '+') (by decide),
          SymbolTable.tail_append_cons (c := '-') (by decide)]

theorem cut_minus {first : Char}
    (h : (formula.cut first (ahead ++ '+' :: rest)).tail.length ≤ ahead.length) :
    formula.cut first (ahead ++ '-' :: rest) = formula.cut first (ahead ++ '+' :: rest) := by
  rw [cut] at h
  rw [cut, cut, commentTail?_minus fun tail ht => by rw [ht] at h; exact h]
  split
  · rfl
  · rename_i hnone
    rw [hnone] at h
    exact plainCut_minus h

/-! ### Lexemes on both sides of the sign -/

theorem breaksAt_minus (before rest : List Char) (i : Nat) :
    breaksAt (before ++ '-' :: rest) i = breaksAt (before ++ '+' :: rest) i := by
  have hsame (c : Char) (hplus : c ≠ '+') (hminus : c ≠ '-') (j : Nat) :
      ((before ++ '-' :: rest)[j]? == some c) = ((before ++ '+' :: rest)[j]? == some c) := by
    simp only [List.getElem?_append, List.getElem?_cons]
    grind
  simp only [breaksAt, bne, hsame '\n' (by decide) (by decide), hsame '\r' (by decide) (by decide)]

theorem place_minus (before rest : List Char) :
    place (before ++ '-' :: rest) = place (before ++ '+' :: rest) := by
  funext n
  rw [place, place, funext (breaksAt_minus before rest)]

theorem mem_places {rules : LexemeRules} {bound : Nat} {before ahead : List Char} {l : Lexeme}
    (h : l ∈ rules.lexemesFrom bound (between before ahead)) :
    ∃ n, before.length ≤ n ∧ l.position = place (before ++ ahead) n := by
  obtain ⟨ns, -, hleast, hns⟩ := @places_lexemesFrom rules bound before ahead
  have hl := List.mem_map_of_mem (f := Lexeme.position) h
  rw [hns] at hl
  obtain ⟨n, hn, heq⟩ := List.mem_map.mp hl
  exact ⟨n, hleast n hn, heq.symm⟩

/-- No lexeme after the first one of a text stands so near. -/
theorem le_of_mem_lexemesFrom {rules : LexemeRules} {bound n : Nat} {before ahead : List Char}
    {l : Lexeme} (h : l ∈ rules.lexemesFrom bound (between before ahead))
    (hn : l.position = place (before ++ ahead) n) : before.length ≤ n := by
  obtain ⟨m, hm, hposition⟩ := mem_places h
  rwa [place_injective _ (hn.symm.trans hposition)]

/-- Either sign is a lexeme of its own, and behind it all is the same. -/
theorem lexemesFrom_sign (bound : Nat) (before rest : List Char) :
    formula.lexemesFrom (bound + 1) (between before ('+' :: rest)) =
        signLexeme '+' (signPlace before rest) ::
          formula.lexemesFrom bound (between (before ++ ['+']) rest) ∧
      formula.lexemesFrom (bound + 1) (between before ('-' :: rest)) =
        signLexeme '-' (signPlace before rest) ::
          formula.lexemesFrom bound (between (before ++ ['+']) rest) := by
  have hplace : place (before ++ ['-'] ++ rest) = place (before ++ ['+'] ++ rest) := by
    rw [List.append_assoc, List.append_assoc]
    exact place_minus before rest
  have hbehind : formula.lexemesFrom bound (between (before ++ ['-']) rest) =
      formula.lexemesFrom bound (between (before ++ ['+']) rest) :=
    lexemesFrom_congr_before (by simp) hplace
  rw [lexemesFrom_between, lexemesFrom_between, place_minus, ← hbehind]
  exact ⟨by rw [hbehind]; rfl, rfl⟩

/-- Where a plus is a lexeme of its own, it is cut off from the same lexemes as a minus would be. -/
theorem lexemesFrom_minus {bound : Nat} {before ahead rest : List Char}
    (h : signLexeme '+' (signPlace (before ++ ahead) rest) ∈
      formula.lexemesFrom bound (between before (ahead ++ '+' :: rest))) :
    ∃ earlier later,
      formula.lexemesFrom bound (between before (ahead ++ '+' :: rest)) =
        earlier ++ signLexeme '+' (signPlace (before ++ ahead) rest) :: later ∧
      formula.lexemesFrom bound (between before (ahead ++ '-' :: rest)) =
        earlier ++ signLexeme '-' (signPlace (before ++ ahead) rest) :: later := by
  induction bound generalizing before ahead with
  | zero => cases h
  | succ bound ih =>
    cases ahead with
    | nil =>
      obtain ⟨hplus, hminus⟩ := lexemesFrom_sign bound before rest
      rw [List.append_nil]
      exact ⟨[], _, hplus, hminus⟩
    | cons first ahead =>
      have htail := formula.cut_append_drop first (ahead ++ '+' :: rest)
      have hposition : signPlace (before ++ first :: ahead) rest =
          place (before ++ first :: (ahead ++ '+' :: rest)) (before ++ first :: ahead).length := by
        rw [signPlace, List.append_assoc, List.cons_append]
      rw [List.cons_append] at h ⊢
      rw [List.cons_append, lexemesFrom_between, lexemesFrom_between]
      rw [lexemesFrom_between, List.mem_append] at h
      -- the sign is not the first lexeme, so it is one of those behind that
      have hlater : signLexeme '+' _ ∈ _ := h.resolve_left fun hfirst => by
        split at hfirst
        · cases hfirst
        · have hsame := congrArg Lexeme.position (List.mem_singleton.mp hfirst)
          have := place_injective _ (hposition.symm.trans hsame)
          simp at this
      have hbehind := le_of_mem_lexemesFrom hlater (by
        rw [List.append_assoc, List.cons_append, htail]
        exact hposition)
      simp only [List.length_append, List.length_cons] at hbehind
      have hle : (formula.cut first (ahead ++ '+' :: rest)).tail.length ≤ ahead.length := by omega
      rw [cut_minus hle]
      generalize formula.cut first (ahead ++ '+' :: rest) = part at *
      obtain ⟨more, rfl⟩ : part.tail <+: ahead :=
        List.prefix_of_prefix_length_le ⟨_, htail⟩ (List.prefix_append ..) hle
      have hdrop (c : Char) : (part.tail ++ more ++ c :: rest).drop part.tail.length =
          more ++ c :: rest := by
        rw [List.append_assoc, List.drop_left]
      have hbefore : before ++ first :: (part.tail ++ more) =
          before ++ first :: part.tail ++ more := by simp
      rw [hdrop, hbefore] at hlater
      obtain ⟨earlier, later, hplus, hminus⟩ := ih hlater
      have hplace : place (before ++ first :: (part.tail ++ more ++ '-' :: rest)) =
          place (before ++ first :: (part.tail ++ more ++ '+' :: rest)) := by
        have := place_minus (before ++ first :: (part.tail ++ more)) rest
        simpa only [List.append_assoc, List.cons_append] using this
      rw [hdrop, hdrop, hplace, hbefore, hplus, hminus]
      exact ⟨_, later, (List.append_assoc ..).symm, (List.append_assoc ..).symm⟩

theorem lexemes_minus {before after : List Char}
    (h : signLexeme '+' (signPlace before after) ∈ formula.lexemes (before ++ '+' :: after)) :
    ∃ earlier later,
      formula.lexemes (before ++ '+' :: after) =
        earlier ++ signLexeme '+' (signPlace before after) :: later ∧
      formula.lexemes (before ++ '-' :: after) =
        earlier ++ signLexeme '-' (signPlace before after) :: later := by
  have hlength : (before ++ '-' :: after).length = (before ++ '+' :: after).length := by simp
  rw [lexemes, lexemes, hlength]
  exact @lexemesFrom_minus _ [] before after h

end LexemeRules

end Reckon
