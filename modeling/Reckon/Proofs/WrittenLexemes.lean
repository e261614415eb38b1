import Reckon.Proofs.SmallLexemes
import Reckon.Proofs.Tiling

/-!
# Lexemes as they are written

Rules that decode quoted texts and leave some lexemes out give the lexemes of a text as they are
written, less those left out and with the quoted ones decoded. What a quoted text means does not
depend on what stands behind it.
-/

namespace Reckon

open Cursor

/-- What has been read of a quoted text is read again in the same way where no quote follows it, and
nothing at all if the text is still open. -/
theorem quotedRest_again {quote : Char} {escapes : Bool} {s rest : List Char}
    (hquote : ∀ c ∈ rest.head?, c ≠ quote)
    (hopen : s.drop (quotedRest quote escapes s).1.length = [] → rest = []) :
    quotedRest quote escapes ((quotedRest quote escapes s).1 ++ rest) =
      quotedRest quote escapes s := by
  fun_induction quotedRest quote escapes s with
  | case1 =>
    rw [hopen rfl]
    rfl
  | case2 =>
    rw [hopen rfl]
    exact quotedRest_lone quote escapes
  | case3 s raw content hread ih =>
    rw [hread] at ih
    rw [List.cons_append, List.cons_append, quotedRest_double, ih hopen]
  | case4 =>
    cases rest with
    | nil => exact quotedRest_lone quote escapes
    | cons c rest => exact quotedRest_end (hquote c rfl) rest
  | case5 c hc hescape =>
    rw [hopen rfl]
    simp only [List.append_nil, quotedRest, if_neg hc, if_pos hescape]
  | case6 c hc hescape d s raw content hread ih =>
    rw [hread] at ih
    rw [List.cons_append, List.cons_append, quotedRest_escaped hc hescape, ih hopen]
  | case7 c s hc hescape raw content hread ih =>
    rw [hread] at ih
    rw [List.cons_append, quotedRest_plain hc hescape, ih hopen]

theorem quotedRest_read (quote : Char) (escapes : Bool) (s : List Char) :
    quotedRest quote escapes (quotedRest quote escapes s).1 = quotedRest quote escapes s := by
  have hread := @quotedRest_again quote escapes s [] nofun fun _ => rfl
  rwa [List.append_nil] at hread

namespace LexemeRules

variable (rules : LexemeRules)

def asWritten : LexemeRules :=
  { rules with
    decodeStrings := false, skipBlanks := false, skipComments := false, skipEnd := false }

theorem asWritten_verbatim : rules.asWritten.Verbatim :=
  ⟨rfl, rfl, rfl, rfl⟩

def decoded : List Char → List Char
  | [] => []
  | quote :: raw => (quotedRest quote rules.backslashEscapes raw).2

def shown? (l : Lexeme) : Option Lexeme :=
  if rules.skips l.kind then none
  else if l.kind = .quoted ∧ rules.decodeStrings = true then
    some { l with value := rules.decoded l.value }
  else some l

theorem shown?_of_skips {l : Lexeme} (h : rules.skips l.kind = true) : rules.shown? l = none :=
  if_pos h

theorem shown?_of_not_skips {l : Lexeme} (h : rules.skips l.kind = false) :
    rules.shown? l = some { l with
      value := if l.kind = .quoted ∧ rules.decodeStrings = true then rules.decoded l.value
        else l.value } := by
  rw [shown?, h, if_neg Bool.false_ne_true]
  split
  · rfl
  · rfl

section

variable (first : Char) (ahead : List Char)

theorem plainCut_asWritten :
    rules.asWritten.plainCut first ahead =
      ⟨(rules.plainCut first ahead).kind, first :: (rules.plainCut first ahead).tail,
        (rules.plainCut first ahead).tail⟩ := by
  have hclass : rules.asWritten.classOf first = rules.classOf first := rfl
  rw [plainCut, plainCut, hclass]
  cases rules.classOf first with
  | none => rfl
  | some cls =>
    cases cls with
    | symbol =>
      have hstarts :
          startsNumber rules.asWritten first ahead = startsNumber rules first ahead := rfl
      simp only [hstarts]
      split
      · rfl
      · rfl
    | _ => rfl

theorem cut_asWritten :
    rules.asWritten.cut first ahead =
      ⟨(rules.cut first ahead).kind, first :: (rules.cut first ahead).tail,
        (rules.cut first ahead).tail⟩ := by
  have hcomment : rules.asWritten.commentTail? first ahead = rules.commentTail? first ahead := rfl
  rw [cut, cut, hcomment]
  cases rules.commentTail? first ahead with
  | none => exact rules.plainCut_asWritten first ahead
  | some tail => rfl

theorem plainCut_value :
    (rules.plainCut first ahead).value =
      if (rules.plainCut first ahead).kind = .quoted ∧ rules.decodeStrings = true then
        rules.decoded (first :: (rules.plainCut first ahead).tail)
      else first :: (rules.plainCut first ahead).tail := by
  have hnumber : (rules.numberCut first ahead).kind ≠ .quoted :=
    numberRest_ne rules first ahead rfl
  rw [plainCut]
  cases rules.classOf first with
  | none => rfl
  | some cls =>
    cases cls with
    | blank => rfl
    | number => exact (if_neg fun h => hnumber h.1).symm
    | word => rfl
    | quote => simp only [quotedCut, decoded, quotedRest_read, true_and]
    | symbol =>
      dsimp only
      split
      · exact (if_neg fun h => hnumber h.1).symm
      · rfl

theorem cut_value :
    (rules.cut first ahead).value =
      if (rules.cut first ahead).kind = .quoted ∧ rules.decodeStrings = true then
        rules.decoded (first :: (rules.cut first ahead).tail)
      else first :: (rules.cut first ahead).tail := by
  rw [cut]
  cases rules.commentTail? first ahead with
  | none => exact rules.plainCut_value first ahead
  | some tail => rfl

end

theorem lexemesFrom_eq_shown (bound : Nat) (before ahead : List Char) :
    rules.lexemesFrom bound (between before ahead) =
      (rules.asWritten.lexemesFrom bound (between before ahead)).filterMap rules.shown? := by
  induction bound generalizing before ahead with
  | zero => rfl
  | succ bound ih =>
    cases ahead with
    | nil =>
      rw [lexemesFrom_end, lexemesFrom_end, rules.asWritten_verbatim.skips]
      cases hskip : rules.skips .ending with
      | false =>
        rw [if_neg Bool.false_ne_true, List.filterMap_cons, rules.shown?_of_not_skips hskip]
        rfl
      | true =>
        rw [if_pos rfl, if_neg Bool.false_ne_true, List.filterMap_cons, rules.shown?_of_skips hskip]
        rfl
    | cons first ahead =>
      rw [lexemesFrom_between, lexemesFrom_between, rules.asWritten_verbatim.skips, cut_asWritten,
        List.filterMap_append, ← ih]
      congr 1
      rw [if_neg Bool.false_ne_true, List.filterMap_cons, List.filterMap_nil]
      cases hskip : rules.skips (rules.cut first ahead).kind with
      | false =>
        rw [rules.shown?_of_not_skips hskip, cut_value, if_neg Bool.false_ne_true]
      | true => rw [rules.shown?_of_skips hskip, if_pos rfl]

theorem lexemes_eq_shown (text : List Char) :
    rules.lexemes text = (rules.asWritten.lexemes text).filterMap rules.shown? :=
  rules.lexemesFrom_eq_shown (text.length + 1) [] text

end LexemeRules

end Reckon
