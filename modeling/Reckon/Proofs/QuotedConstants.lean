import Reckon.Proofs.Signs
import Reckon.Proofs.SmallLexemes

/-!
# Quoted texts are constants

In a formula a text between quotes of either kind, with those inside written twice, is one constant,
whatever else stands in the text: line ends, backslashes, openers of comments and quotes of the other
kind mean nothing there. A quote closes the text only where no other one follows, and a doubled one
is followed by one. So reading stops at the last quote and not before it.
-/

namespace Reckon

open Cursor

def doubled (quote : Char) (s : List Char) : List Char :=
  s.flatMap fun c => if c = quote then [c, c] else [c]

def quotedWith (quote : Char) (s : List Char) : List Char :=
  quote :: doubled quote s ++ [quote]

theorem doubled_cons (quote c : Char) (s : List Char) :
    doubled quote (c :: s) = (if c = quote then [c, c] else [c]) ++ doubled quote s :=
  List.flatMap_cons

/-- The induction is on the text. A quote of it comes with the one it was doubled to, so the reader
never meets a single one before the end. -/
theorem quotedRest_doubled (quote : Char) (s : List Char) :
    quotedRest quote false (doubled quote s ++ [quote]) = (doubled quote s ++ [quote], s) := by
  induction s with
  | nil => exact quotedRest_lone quote false
  | cons c s ih =>
    rw [doubled_cons]
    by_cases hc : c = quote
    · subst hc
      rw [if_pos rfl]
      simp only [List.cons_append, List.nil_append]
      rw [quotedRest_double, ih]
    · have hescape : ¬(c = '\\' && false) = true := by simp
      rw [if_neg hc]
      simp only [List.cons_append, List.nil_append]
      rw [quotedRest_plain hc hescape, ih]

/-! ### One lexeme and the end -/

namespace LexemeRules

variable {quote : Char} (hquote : quote = '"' ∨ quote = '\'')

include hquote

theorem classOf_quote : formula.classOf quote = some .quote := by
  rcases hquote with rfl | rfl
  · rfl
  · rfl

theorem cut_quotedWith (s : List Char) :
    formula.cut quote (doubled quote s ++ [quote]) = ⟨.quoted, s, doubled quote s ++ [quote]⟩ := by
  have hcomment : quote ≠ '/' := by
    rcases hquote with rfl | rfl
    · decide
    · decide
  have hescapes : formula.backslashEscapes = false := rfl
  have hdecode : formula.decodeStrings = true := rfl
  rw [cut, commentTail?_of_ne hcomment, plainCut, classOf_quote hquote]
  simp only [quotedCut, hescapes, quotedRest_doubled, hdecode, if_true]

theorem lexemes_quotedWith (s : List Char) :
    formula.lexemes (quotedWith quote s) =
      [⟨.quoted, s, .start⟩,
        ⟨.ending, [], place (quotedWith quote s) (quotedWith quote s).length⟩] := by
  have hkept : formula.skips .quoted = false := rfl
  have hended : formula.skips .ending = false := rfl
  have hlength : (quotedWith quote s).length + 1 = (doubled quote s ++ [quote]).length + 1 + 1 := rfl
  rw [lexemes, hlength, ← between_nil, quotedWith, List.cons_append, lexemesFrom_between,
    cut_quotedWith hquote]
  simp only [hkept, List.drop_length, List.nil_append, lexemesFrom_end, hended]
  rfl

end LexemeRules

/-! ### One token and the end -/

theorem readTokens_quotedWith {quote : Char} (hquote : quote = '"' ∨ quote = '\'') (s : List Char) :
    readTokens .formula (quotedWith quote s) =
      [⟨.action (.constant (.string (String.ofList s))), .start⟩,
        ⟨.ending, place (quotedWith quote s) (quotedWith quote s).length⟩] := by
  have hskip : LexemeRules.formula.skipEnd = false := rfl
  rw [(readTokens_eq hskip _).1, LexemeRules.readable, LexemeRules.lexemes_quotedWith hquote]
  rfl

theorem text_string_constant (s : String) :
    (TokenKind.action (.constant (.string s))).text.toList = quotedWith '"' s.toList :=
  String.toList_ofList

/-- A text between quotes of either kind, with those inside doubled, is its constant and the end.
The way a constant text is shown is such a text. -/
theorem tokens_of_quoted_text (s : String) {quote : Char} (hquote : quote = '"' ∨ quote = '\'') :
    readTokens .formula (quotedWith quote s.toList) =
        [⟨.action (.constant (.string s)), .start⟩,
          ⟨.ending, place (quotedWith quote s.toList) (quotedWith quote s.toList).length⟩] ∧
      ∃ ending, readTokens .formula (TokenKind.action (.constant (.string s))).text.toList =
        [⟨.action (.constant (.string s)), .start⟩, ⟨.ending, ending⟩] := by
  have hread {q : Char} (hq : q = '"' ∨ q = '\'') :
      readTokens .formula (quotedWith q s.toList) =
        [⟨.action (.constant (.string s)), .start⟩,
          ⟨.ending, place (quotedWith q s.toList) (quotedWith q s.toList).length⟩] := by
    rw [readTokens_quotedWith hq, String.ofList_toList]
  refine ⟨hread hquote, ?_⟩
  rw [text_string_constant]
  exact ⟨_, hread (.inl rfl)⟩

/-- Quotes at both ends, a line end, an opener of a comment and a backslash. -/
theorem tokens_of_quoted_quotes :
    readTokens .formula "'''''\n/*\"\\'''".toList =
        [⟨.action (.constant (.string "''\n/*\"\\'")), .start⟩, ⟨.ending, ⟨2, 8⟩⟩] ∧
      ∃ ending, readTokens .formula
          (TokenKind.action (.constant (.string "''\n/*\"\\'"))).text.toList =
        [⟨.action (.constant (.string "''\n/*\"\\'")), .start⟩, ⟨.ending, ending⟩] := by
  exact tokens_of_quoted_text "''\n/*\"\\'" (.inr rfl)

end Reckon
