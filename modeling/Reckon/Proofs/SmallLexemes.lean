import Reckon.Proofs.LetterCase
import Reckon.Proofs.MinusForPlus

/-!
# Lexemes in small letters

Where neither classes nor symbols nor openers of comments tell capital letters from small ones, the
lexemes of a text in small letters are those of the text, in small letters.
-/

namespace Reckon

open Cursor

/-! ### Numbers -/

theorem isDigit_toLower (c : Char) : isDigit c.toLower = isDigit c :=
  apply_toLower (by decide) c

theorem isHexDigit_toLower (c : Char) : isHexDigit c.toLower = isHexDigit c :=
  apply_toLower (by decide) c

theorem takeWhile_isDigit_small (s : List Char) :
    (small s).takeWhile isDigit = small (s.takeWhile isDigit) :=
  takeWhile_small isDigit_toLower s

theorem fractionPart_single (c : Char) : fractionPart [c] = [] := by
  rw [fractionPart]
  intro d rest h
  cases h

theorem fractionPart_cons_cons (c d : Char) (s : List Char) :
    fractionPart (c :: d :: s) =
      if c = '.' ∧ isDigit d = true then c :: (d :: s).takeWhile isDigit else [] := by
  by_cases hc : c = '.'
  · rw [hc, fractionPart, if_congr (and_iff_right rfl) rfl rfl]
  · rw [if_neg fun h => hc h.1, fractionPart]
    intro d rest h
    exact hc (List.cons.inj h).1

theorem fractionPart_small (s : List Char) : fractionPart (small s) = small (fractionPart s) := by
  match s with
  | [] => rfl
  | [c] => rw [small_cons, small_nil, fractionPart_single, fractionPart_single, small_nil]
  | c :: d :: rest =>
    rw [small_cons, small_cons, fractionPart_cons_cons, fractionPart_cons_cons, ← small_cons,
      takeWhile_isDigit_small, isDigit_toLower,
      if_congr (and_congr_left' (toLower_eq_iff rfl)) rfl rfl, apply_ite small, small_nil,
      small_cons]

theorem exponentPart_small (s : List Char) : exponentPart (small s) = small (exponentPart s) := by
  have hletter (e : Char) : (decide (e.toLower = 'e') || decide (e.toLower = 'E')) =
      (decide (e = 'e') || decide (e = 'E')) :=
    apply_toLower (f := fun e => decide (e = 'e') || decide (e = 'E')) (by decide) e
  have hsign (c : Char) : (decide (c.toLower = '+') || decide (c.toLower = '-')) =
      (decide (c = '+') || decide (c = '-')) :=
    apply_toLower (f := fun c => decide (c = '+') || decide (c = '-')) (by decide) c
  match s with
  | [] => rfl
  | [e] => rfl
  | [e, d] =>
    simp only [small_cons, small_nil, exponentPart, hletter, isDigit_toLower]
    split
    · rfl
    · rfl
  | e :: sign :: d :: rest =>
    have hrun : (d.toLower :: small rest).takeWhile isDigit =
        small ((d :: rest).takeWhile isDigit) := takeWhile_isDigit_small (d :: rest)
    have hrun' : (sign.toLower :: d.toLower :: small rest).takeWhile isDigit =
        small ((sign :: d :: rest).takeWhile isDigit) := takeWhile_isDigit_small (sign :: d :: rest)
    simp only [small_cons, exponentPart, hletter, hsign, isDigit_toLower, hrun, hrun']
    split
    · split
      · rfl
      · split
        · rfl
        · rfl
    · rfl

theorem hexPart_small (s : List Char) : hexPart (small s) = small (hexPart s) := by
  match s with
  | [] => rfl
  | [x] => rfl
  | x :: d :: rest =>
    rw [small_cons, small_cons, hexPart, hexPart, ← small_cons, takeWhile_small isHexDigit_toLower,
      isHexDigit_toLower, apply_ite small, small_nil, small_cons]

section

variable (rules : LexemeRules) (first : Char) (ahead : List Char)

theorem startsHex_small :
    startsHex rules first.toLower (small ahead) = startsHex rules first ahead := by
  have hzero : (first.toLower == '0') = (first == '0') :=
    apply_toLower (f := (· == '0')) (by decide) first
  have hletter (c : Char) : (some c.toLower == some 'x' || some c.toLower == some 'X') =
      (some c == some 'x' || some c == some 'X') :=
    apply_toLower (f := fun c => some c == some 'x' || some c == some 'X') (by decide) c
  rw [startsHex, startsHex, hzero]
  cases ahead with
  | nil => rfl
  | cons c ahead => rw [small_cons, List.head?_cons, List.head?_cons, hletter]

theorem numberRest_small :
    numberRest rules first.toLower (small ahead) =
      ((numberRest rules first ahead).1, small (numberRest rules first ahead).2) := by
  have hpoint : (first.toLower = '.') = (first = '.') := propext (toLower_eq_iff rfl)
  have hfraction (rest : List Char) :
      (if first = '.' then [] else fractionPart (small rest)) =
        small (if first = '.' then [] else fractionPart rest) := by
    rw [fractionPart_small, apply_ite small, small_nil]
  have hexponent (rest : List Char) :
      (if rules.allowExponent then exponentPart (small rest) else []) =
        small (if rules.allowExponent then exponentPart rest else []) := by
    rw [exponentPart_small, apply_ite small, small_nil]
  rw [numberRest, numberRest, startsHex_small, hexPart_small]
  simp only [takeWhile_isDigit_small, length_small, drop_small, hpoint, hfraction, hexponent,
    isEmpty_small, ← small_append]
  split
  · rfl
  · rfl

theorem startsNumber_small :
    startsNumber rules first.toLower (small ahead) = startsNumber rules first ahead := by
  have hpoint : (first.toLower == '.') = (first == '.') :=
    apply_toLower (f := (· == '.')) (by decide) first
  have hsign : (first.toLower == '+' || first.toLower == '-') = (first == '+' || first == '-') :=
    apply_toLower (f := fun c => c == '+' || c == '-') (by decide) first
  rw [startsNumber, startsNumber, hpoint, hsign]
  cases ahead with
  | nil => rfl
  | cons c ahead =>
    rw [small_cons, List.head?_cons, List.head?_cons, Option.map_some, Option.map_some,
      isDigit_toLower]

end

/-! ### Quoted texts -/

theorem quotedRest_lone (quote : Char) (escapes : Bool) :
    quotedRest quote escapes [quote] = ([quote], []) := by
  simp [quotedRest]

theorem quotedRest_small {quote : Char} (h : quote.isAlpha = false) (s : List Char) :
    quotedRest quote false (small s) =
      (small (quotedRest quote false s).1, small (quotedRest quote false s).2) := by
  have hquote : quote.toLower = quote := (toLower_eq_iff h).mpr rfl
  have hplain {c : Char} (hc : c ≠ quote) : c.toLower ≠ quote := mt (toLower_eq_iff h).mp hc
  generalize hescapes : false = escapes
  have hno (c : Char) : ¬(decide (c = '\\') && escapes) = true := by simp [← hescapes]
  fun_induction quotedRest quote escapes s with
  | case1 => rfl
  | case2 => rw [small_cons, hquote, small_nil, quotedRest_lone]
  | case3 rest raw content hrest ih =>
    rw [hrest] at ih
    rw [small_cons, small_cons, hquote, quotedRest_double, ih, small_cons, small_cons, small_cons,
      hquote]
  | case4 d rest hd =>
    rw [small_cons, small_cons, hquote, quotedRest_end (hplain hd), small_cons, hquote, small_nil]
  | case5 c hc hescape => exact absurd hescape (hno c)
  | case6 c hc hescape => exact absurd hescape (hno c)
  | case7 c rest hc hescape raw content hrest ih =>
    rw [hrest] at ih
    rw [small_cons, quotedRest_plain (hplain hc) (hno _), ih, small_cons, small_cons]

/-! ### Comments -/

section

variable {first : Char} {ahead : List Char}

theorem untilClosed_small {closer : List Char} (h : Letterless closer)
    (read s : List Char) :
    untilClosed closer (small read) (small s) = small (untilClosed closer read s) := by
  induction s generalizing read with
  | nil => rfl
  | cons c s ih =>
    have hclosed : closer.reverse.isPrefixOf (small (c :: read)) =
        closer.reverse.isPrefixOf (c :: read) := by
      rw [Bool.eq_iff_iff, List.isPrefixOf_iff_prefix, List.isPrefixOf_iff_prefix]
      exact isPrefix_small fun d hd => h d (List.mem_reverse.mp hd)
    rw [small_cons, untilClosed, untilClosed, ← small_cons, hclosed, ih, apply_ite small,
      small_cons, small_cons, small_nil]

theorem openerTail?_small {opener : List Char} (h : Letterless opener) :
    openerTail? first.toLower (small ahead) opener = openerTail? first ahead opener := by
  cases opener with
  | nil => rfl
  | cons d rest =>
    obtain ⟨hd, hrest⟩ := List.forall_mem_cons.mp h
    have hfirst : d = first.toLower ↔ d = first := by
      rw [eq_comm, toLower_eq_iff hd, eq_comm]
    rw [openerTail?, openerTail?, if_congr (and_congr hfirst (isPrefix_small hrest)) rfl rfl]

theorem lineCommentTail?_small {opener : List Char} (h : Letterless opener) :
    lineCommentTail? first.toLower (small ahead) opener =
      (lineCommentTail? first ahead opener).map small := by
  have hends (c : Char) : (!endsComment c.toLower) = !endsComment c :=
    apply_toLower (f := fun c => !endsComment c) (by decide) c
  rw [lineCommentTail?, lineCommentTail?, openerTail?_small h, Option.map_map]
  cases htail : openerTail? first ahead opener with
  | none => rfl
  | some rest =>
    obtain ⟨rfl, -⟩ := openerTail?_eq_some htail
    have hrest : small rest = rest :=
      small_of_letterless fun c hc => h c (List.mem_cons_of_mem _ hc)
    rw [Option.map_some, Option.map_some, Function.comp_apply, small_append, hrest, drop_small,
      takeWhile_small hends]

theorem blockCommentTail?_small {pair : List Char × List Char}
    (hopener : Letterless pair.1) (hcloser : Letterless pair.2) :
    blockCommentTail? first.toLower (small ahead) pair =
      (blockCommentTail? first ahead pair).map small := by
  rw [blockCommentTail?, blockCommentTail?, openerTail?_small hopener, Option.map_map]
  cases htail : openerTail? first ahead pair.1 with
  | none => rfl
  | some rest =>
    obtain ⟨hpair, -⟩ := openerTail?_eq_some htail
    have hrest : small rest = rest :=
      small_of_letterless fun c hc => hopener c (hpair ▸ List.mem_cons_of_mem _ hc)
    rw [Option.map_some, Option.map_some, Function.comp_apply, small_append, hrest, drop_small,
      ← untilClosed_small hcloser, small_nil]

/-- The first of some comments that begins here is the first in small letters. -/
theorem findSome?_small {α : Type} {f g : α → Option (List Char)} {l : List α}
    (h : ∀ a ∈ l, g a = (f a).map small) : l.findSome? g = (l.findSome? f).map small := by
  induction l with
  | nil => rfl
  | cons a l ih =>
    obtain ⟨ha, hl⟩ := List.forall_mem_cons.mp h
    rw [List.findSome?_cons, List.findSome?_cons, ha, ih hl]
    cases f a with
    | none => rfl
    | some tail => rfl

end

/-! ### Symbols -/

namespace SymbolTable

variable {t : SymbolTable}

theorem branch?_toLower (h : Letterless t.labels) (c : Char) :
    t.branch? c.toLower = t.branch? c := by
  rcases toLower_eq_self_or_not_mem h c with hc | ⟨hsmall, hc⟩
  · rw [hc]
  · rw [branch?_of_not_mem hsmall, branch?_of_not_mem hc]

theorem walk_small (h : Letterless t.labels) (read best : Nat) (s : List Char) :
    t.walk read best (small s) = t.walk read best s := by
  induction s generalizing t read best with
  | nil => rfl
  | cons c s ih =>
    rw [small_cons, walk, walk, branch?_toLower h]
    cases hbranch : t.branch? c with
    | none => rfl
    | some u => exact ih (fun d hd => h d ((labels_of_branch? hbranch).2 hd)) _ _

theorem tail_small (h : Letterless t.labels) (first : Char) (ahead : List Char) :
    t.tail first.toLower (small ahead) = small (t.tail first ahead) := by
  rw [tail, tail, branch?_toLower h]
  cases hbranch : t.branch? first with
  | none => rfl
  | some u =>
    have hlabels : Letterless u.labels := fun c hc => h c ((labels_of_branch? hbranch).2 hc)
    simp only [walk_small hlabels, take_small]

end SymbolTable

/-! ### Lexemes -/

def Cut.small (c : Cut) : Cut :=
  ⟨c.kind, Reckon.small c.value, Reckon.small c.tail⟩

def Lexeme.small (l : Lexeme) : Lexeme :=
  { l with value := Reckon.small l.value }

namespace LexemeRules

structure IgnoresCase (rules : LexemeRules) : Prop where
  classes : ∀ c, rules.classOf c.toLower = rules.classOf c
  inner : Letterless rules.wordInner
  quotes : ∀ c, rules.classOf c = some .quote → c.isAlpha = false
  escapes : rules.backslashEscapes = false
  symbols : Letterless rules.symbols.labels
  lineComments : ∀ opener ∈ rules.lineComments, Letterless opener
  blockComments : ∀ pair ∈ rules.blockComments, Letterless pair.1 ∧ Letterless pair.2

theorem numberCut_small (rules : LexemeRules) (first : Char) (ahead : List Char) :
    rules.numberCut first.toLower (small ahead) = (rules.numberCut first ahead).small := by
  rw [numberCut, numberRest_small]
  rfl

theorem classOf_of_isAlpha {c : Char} (h : c.isAlpha = true) : formula.classOf c = some .word := by
  have hascii : c.toNat < 128 := by
    have hcase : (c.isUpper || c.isLower) = true := h
    rcases Bool.or_eq_true_iff.mp hcase with hupper | hlower
    · have hlast : c.val ≤ 90 := (of_decide_eq_true hupper).2
      exact Nat.lt_of_le_of_lt (UInt32.le_iff_toNat_le.mp hlast) (by decide)
    · have hlast : c.val ≤ 122 := of_decide_eq_true (Bool.and_eq_true_iff.mp hlower).2
      exact Nat.lt_of_le_of_lt (UInt32.le_iff_toNat_le.mp hlast) (by decide)
  have hletters : ∀ n < 128, (Char.ofNat n).isAlpha = true →
      formula.classOf (Char.ofNat n) = some .word := by decide +kernel
  have hc := hletters c.toNat hascii
  rw [Char.ofNat_toNat] at hc
  exact hc h

theorem formula_ignoresCase : formula.IgnoresCase where
  classes := apply_toLower (by decide +kernel)
  inner := by decide
  quotes := by
    intro c hquote
    refine Bool.eq_false_iff.mpr fun hletter => ?_
    rw [classOf_of_isAlpha hletter] at hquote
    exact absurd hquote nofun
  escapes := rfl
  symbols := by decide
  lineComments := List.forall_mem_singleton.mpr (by decide)
  blockComments := List.forall_mem_singleton.mpr ⟨by decide, by decide⟩

namespace IgnoresCase

variable {rules : LexemeRules} (h : rules.IgnoresCase)
include h

theorem isWordChar_toLower (c : Char) : rules.isWordChar c.toLower = rules.isWordChar c := by
  have hinner : rules.wordInner.contains c.toLower = rules.wordInner.contains c := by
    rcases toLower_eq_self_or_not_mem h.inner c with hc | ⟨hsmall, hc⟩
    · rw [hc]
    · simp only [List.contains_eq_mem, hsmall, hc]
  rw [isWordChar, isWordChar, h.classes, hinner]

theorem commentTail?_small (first : Char) (ahead : List Char) :
    rules.commentTail? first.toLower (small ahead) =
      (rules.commentTail? first ahead).map small := by
  have hline := findSome?_small (f := lineCommentTail? first ahead)
    (g := lineCommentTail? first.toLower (small ahead)) (l := rules.lineComments)
    fun opener hopener => lineCommentTail?_small (h.lineComments opener hopener)
  have hblock := findSome?_small (f := blockCommentTail? first ahead)
    (g := blockCommentTail? first.toLower (small ahead)) (l := rules.blockComments)
    fun pair hpair =>
      blockCommentTail?_small (h.blockComments pair hpair).1 (h.blockComments pair hpair).2
  rw [commentTail?, commentTail?, hline, hblock]
  cases rules.lineComments.findSome? (lineCommentTail? first ahead) with
  | none => rfl
  | some tail => rfl

theorem quotedCut_small {first : Char} (hfirst : rules.classOf first = some .quote)
    (ahead : List Char) :
    rules.quotedCut first.toLower (small ahead) = (rules.quotedCut first ahead).small := by
  have hquote : first.isAlpha = false := h.quotes first hfirst
  rw [quotedCut, quotedCut, (toLower_eq_iff hquote).mpr rfl, h.escapes, quotedRest_small hquote]
  cases rules.decodeStrings with
  | false => simp [Cut.small, (toLower_eq_iff hquote).mpr rfl]
  | true => rfl

theorem plainCut_small (first : Char) (ahead : List Char) :
    rules.plainCut first.toLower (small ahead) = (rules.plainCut first ahead).small := by
  have hblank : (small ahead).takeWhile (fun d => rules.classOf d == some .blank) =
      small (ahead.takeWhile fun d => rules.classOf d == some .blank) :=
    takeWhile_small (fun c => by rw [h.classes]) ahead
  rw [plainCut, plainCut, h.classes]
  cases hclass : rules.classOf first with
  | none => rfl
  | some cls =>
    cases cls with
    | blank =>
      simp only [hblank]
      rfl
    | number => exact rules.numberCut_small first ahead
    | word =>
      simp only [takeWhile_small h.isWordChar_toLower]
      rfl
    | quote => exact h.quotedCut_small hclass ahead
    | symbol =>
      simp only [startsNumber_small, numberCut_small, rules.symbols.tail_small h.symbols]
      rw [apply_ite Cut.small]
      rfl

theorem cut_small (first : Char) (ahead : List Char) :
    rules.cut first.toLower (small ahead) = (rules.cut first ahead).small := by
  rw [cut, cut, h.commentTail?_small]
  cases rules.commentTail? first ahead with
  | none => exact h.plainCut_small first ahead
  | some tail => rfl

theorem lexemesFrom_small (bound : Nat) (before ahead : List Char) :
    rules.lexemesFrom bound (between (small before) (small ahead)) =
      (rules.lexemesFrom bound (between before ahead)).map Lexeme.small := by
  induction bound generalizing before ahead with
  | zero => rfl
  | succ bound ih =>
    cases ahead with
    | nil =>
      rw [small_nil, lexemesFrom_end, lexemesFrom_end, place_small, length_small,
        apply_ite (List.map Lexeme.small)]
      rfl
    | cons first ahead =>
      have htext :
          small before ++ first.toLower :: small ahead = small (before ++ first :: ahead) := by
        rw [small_append, small_cons]
      rw [small_cons, lexemesFrom_between, lexemesFrom_between, h.cut_small, List.map_append,
        apply_ite (List.map Lexeme.small), htext, place_small, length_small, ← ih]
      simp only [Cut.small, small_append, small_cons, length_small, drop_small]
      rfl

theorem lexemes_small (text : List Char) :
    rules.lexemes (small text) = (rules.lexemes text).map Lexeme.small := by
  have hlexemes := h.lexemesFrom_small (text.length + 1) [] text
  rw [lexemes, length_small]
  exact hlexemes

end IgnoresCase

end LexemeRules

end Reckon
