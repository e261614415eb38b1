import Reckon.Proofs.Signs

/-!
# What is left out

The rules say which lexemes are left out: blanks, comments and the end. Blanks and comments are no
part of any token, so leaving them out changes nothing. The end is put back where it is left out,
but then it stands at the last lexeme there is and not behind the text.
-/

namespace Reckon

open Cursor

/-- The end of a text stands behind its last character. -/
def Lexeme.endOf (text : List Char) : Lexeme :=
  ⟨.ending, [], place text text.length⟩

namespace LexemeRules

def leavingOut (rules : LexemeRules) (blanks comments ending : Bool) : LexemeRules :=
  { rules with skipBlanks := blanks, skipComments := comments, skipEnd := ending }

variable (rules : LexemeRules) (blanks comments ending : Bool)

theorem readLexeme_leavingOut (c : Cursor) :
    (rules.leavingOut blanks comments ending).readLexeme c = rules.readLexeme c := rfl

theorem lexemesFrom_leavingOut (bound : Nat) (c : Cursor) :
    (rules.leavingOut blanks comments ending).lexemesFrom bound c =
      ((rules.leavingOut false false false).lexemesFrom bound c).filter fun l =>
        !(rules.leavingOut blanks comments ending).skips l.kind := by
  have hkept (kind : LexemeKind) : (rules.leavingOut false false false).skips kind = false := by
    cases kind <;> rfl
  induction bound generalizing c with
  | zero => rfl
  | succ bound ih =>
    rw [lexemesFrom, lexemesFrom, readLexeme_leavingOut, readLexeme_leavingOut]
    generalize rules.readLexeme c = read
    obtain ⟨l, d⟩ := read
    have hrest : (if l.kind = .ending then [] else
          (rules.leavingOut blanks comments ending).lexemesFrom bound d) =
        (if l.kind = .ending then [] else
          (rules.leavingOut false false false).lexemesFrom bound d).filter
            fun l => !(rules.leavingOut blanks comments ending).skips l.kind := by
      by_cases hend : l.kind = .ending
      · rw [if_pos hend, if_pos hend, List.filter_nil]
      · rw [if_neg hend, if_neg hend, ih]
    simp only [hkept, hrest, Bool.false_eq_true, if_false, List.filter_cons]
    cases (rules.leavingOut blanks comments ending).skips l.kind <;> rfl

/-- With nothing left out the end is the last lexeme, behind the text, and no other one. -/
theorem lexemesFrom_whole {bound : Nat} {before ahead : List Char} (hb : ahead.length < bound) :
    ∃ parts, (rules.leavingOut false false false).lexemesFrom bound (between before ahead) =
        parts ++ [.endOf (before ++ ahead)] ∧
      ∀ l ∈ parts, l.kind ≠ .ending := by
  induction bound generalizing before ahead with
  | zero => exact absurd hb (Nat.not_lt_zero _)
  | succ bound ih =>
    cases ahead with
    | nil =>
      refine ⟨[], ?_, nofun⟩
      rw [lexemesFrom, readLexeme_end, List.append_nil]
      rfl
    | cons first ahead =>
      obtain ⟨l, tail, rest, hr, rfl, hkind, -⟩ :=
        @readLexeme_moves (rules.leavingOut false false false) before first ahead
      have hlen : rest.length < bound := by
        rw [List.length_cons, List.length_append] at hb
        omega
      obtain ⟨parts, hparts, hne⟩ := @ih (before ++ first :: tail) rest hlen
      have htext : before ++ first :: tail ++ rest = before ++ first :: (tail ++ rest) := by simp
      have hkept : (rules.leavingOut false false false).skips l.kind = false := by
        cases l.kind <;> rfl
      rw [htext] at hparts
      refine ⟨l :: parts, ?_, List.forall_mem_cons.mpr ⟨hkind, hne⟩⟩
      simp only [lexemesFrom, hr, if_neg hkind, hparts, hkept, Bool.false_eq_true, if_false,
        List.cons_append]

theorem lexemes_leavingOut (text : List Char) :
    ∃ parts : List Lexeme, (∀ l ∈ parts, l.kind ≠ .ending) ∧ ∀ blanks comments ending,
      (rules.leavingOut blanks comments ending).lexemes text =
        parts.filter (fun l => !(rules.leavingOut blanks comments ending).skips l.kind) ++
          if ending then [] else [.endOf text] := by
  obtain ⟨parts, hparts, hne⟩ : ∃ parts,
      (rules.leavingOut false false false).lexemes text = parts ++ [.endOf text] ∧
        ∀ l ∈ parts, l.kind ≠ .ending :=
    @lexemesFrom_whole rules _ [] text (Nat.lt_succ_self text.length)
  refine ⟨parts, hne, fun blanks comments ending => ?_⟩
  have hfilter :=
    rules.lexemesFrom_leavingOut blanks comments ending (text.length + 1) (.ofText text)
  rw [← lexemes, ← lexemes, hparts, List.filter_append] at hfilter
  rw [hfilter]
  cases ending <;> rfl

/-- Tokens are read from the same lexemes, and from the end where it is not left out. -/
theorem readable_leavingOut (text : List Char) :
    (∀ l ∈ (rules.leavingOut true true true).lexemes text, l.kind ≠ .ending) ∧
    ∀ blanks comments ending, (rules.leavingOut blanks comments ending).readable text =
      (rules.leavingOut true true true).lexemes text ++ if ending then [] else [.endOf text] := by
  obtain ⟨parts, hne, hlexemes⟩ := rules.lexemes_leavingOut text
  refine ⟨fun l hl => ?_, fun blanks comments ending => ?_⟩
  · rw [hlexemes, if_pos rfl, List.append_nil] at hl
    exact hne l (List.mem_of_mem_filter hl)
  · have hparts : (parts.filter fun l =>
          !(rules.leavingOut blanks comments ending).skips l.kind).filter
            (fun l => l.kind != .blank && l.kind != .comment) =
        parts.filter fun l => !(rules.leavingOut true true true).skips l.kind := by
      rw [List.filter_filter]
      refine List.filter_congr fun l hl => ?_
      have hend := hne l hl
      cases hkind : l.kind <;> simp_all [skips, leavingOut]
    rw [readable, hlexemes, hlexemes, List.filter_append, hparts, if_pos rfl, List.append_nil]
    cases ending <;> rfl

end LexemeRules

/-! ### Tokens -/

namespace TokenReading

variable {l : Lexeme} {after : List Lexeme} {afterOperand : Bool}

theorem word_ne_ending (value : List Char) (after : List Lexeme) :
    (word value after).1 ≠ .ending := by
  unfold word
  dsimp only
  split
  case h_6 | h_7 =>
    split
    · nofun
    · split <;> nofun
  case h_8 =>
    split
    · nofun
    · split <;> nofun
  all_goals nofun

theorem symbol?_ne_ending (value : List Char) (afterOperand : Bool) :
    symbol? value afterOperand ≠ some .ending := by
  unfold symbol?
  split
  case h_8 => split <;> nofun
  all_goals nofun

theorem read_ne_ending (h : l.kind ≠ .ending) :
    (read l after afterOperand).1 ≠ some .ending := by
  unfold read
  cases hkind : l.kind with
  | ending => exact absurd hkind h
  | word => exact fun he => word_ne_ending _ _ (Option.some.inj he)
  | symbol => exact symbol?_ne_ending _ _
  | integer =>
    simp only [wholeConstant]
    split
    · nofun
    · split <;> nofun
  | float =>
    simp only [floatConstant]
    split <;> nofun
  | hexadecimal =>
    simp only [hexConstant]
    split <;> nofun
  | _ => nofun

/-- Only the end of a text becomes an end. -/
theorem isEnding_of_mem_tokens {used : Nat} {ls : List Lexeme} (h : ∀ l ∈ ls, l.kind ≠ .ending) :
    ∀ token ∈ tokens used afterOperand ls, token.kind.isEnding = false := by
  intro token htoken
  obtain ⟨before, more, hsplit⟩ := List.append_of_mem htoken
  obtain ⟨l, rest, n, hsuffix, -, hread, -⟩ := tokens_eq_append hsplit
  have hne := @read_ne_ending l rest (endsOperandFrom afterOperand before)
    (h l (hsuffix.mem List.mem_cons_self))
  rw [hread] at hne
  cases hkind : token.kind with
  | ending => exact absurd (congrArg some hkind) hne
  | _ => rfl

end TokenReading

theorem readTokens_keepingEnd (rules : LexemeRules) (text : List Char) (blanks comments : Bool) :
    readTokens (rules.leavingOut blanks comments false) text =
      TokenReading.tokens 0 false ((rules.leavingOut true true true).lexemes text) ++
        [⟨.ending, place text text.length⟩] := by
  have hskip : (rules.leavingOut blanks comments false).skipEnd = false := rfl
  have hend : (Lexeme.endOf text).kind = .ending := rfl
  rw [(readTokens_eq hskip text).1, (rules.readable_leavingOut text).2]
  exact TokenReading.tokens_concat hend (Nat.zero_le _)

/-- The tokens of a text are the same whether blanks and comments are left out or not. The end of
them stands behind the text unless the rules leave it out; then it stands at the last lexeme that is
no blank and no comment. -/
theorem readTokens_leavingOut (rules : LexemeRules) (text : List Char) :
    ∃ ts, (∀ token ∈ ts, token.kind.isEnding = false) ∧ ∀ blanks comments,
      readTokens (rules.leavingOut blanks comments false) text =
        ts ++ [⟨.ending, place text text.length⟩] ∧
      readTokens (rules.leavingOut blanks comments true) text =
        ts ++ [endAfter (((rules.leavingOut true true true).lexemes text).map
          Lexeme.position)] := by
  obtain ⟨hne, hreadable⟩ := rules.readable_leavingOut text
  have hts := @TokenReading.isEnding_of_mem_tokens false 0 _ hne
  refine ⟨_, hts, fun blanks comments => ⟨?_, ?_⟩⟩
  · exact readTokens_keepingEnd rules text blanks comments
  · have hlast : ((TokenReading.tokens 0 false
        ((rules.leavingOut true true true).lexemes text)).getLast?.map
          (·.kind.isEnding)).getD false = false := by
      cases h : (TokenReading.tokens 0 false
          ((rules.leavingOut true true true).lexemes text)).getLast? with
      | none => rfl
      | some token => exact hts token (List.mem_of_getLast? h)
    rw [readTokens, ← LexemeRules.readable, hreadable]
    simp only [if_true, List.append_nil, hlast, Bool.false_eq_true, if_false]

/-- Left out, the end of one letter stands at the letter. -/
theorem end_moves_when_left_out :
    ¬∀ (rules : LexemeRules) (text : List Char) (blanks comments ending : Bool),
      readTokens (rules.leavingOut blanks comments ending) text =
        readTokens (rules.leavingOut false false false) text := by
  intro h
  have hkept : ((readTokens (LexemeRules.formula.leavingOut true true false) ['a']).map
      Token.position) = [⟨1, 1⟩, ⟨1, 2⟩] := by decide
  have hleft : ((readTokens (LexemeRules.formula.leavingOut true true true) ['a']).map
      Token.position) = [⟨1, 1⟩, ⟨1, 1⟩] := by decide
  rw [h, ← h _ _ true true false, hkept] at hleft
  exact absurd hleft (by decide)

end Reckon
