import Reckon.Proofs.CutAgain
import Reckon.Proofs.Renaming
import Reckon.Proofs.Signs

/-!
# Texts written anew with single spaces

The lexemes of a text, blanks and comments left out, written one after the other with a space
between any two, are a text with the same lexemes. So it has the same tokens and is the same
program, or is refused with the same fault; only the places are others.
-/

namespace Reckon

open Cursor

namespace Lexeme

def unplaced (l : Lexeme) : Lexeme :=
  { l with position := .start }

def isPart (l : Lexeme) : Bool :=
  l.kind != .blank && l.kind != .comment && l.kind != .ending

def partTexts (ls : List Lexeme) : List (List Char) :=
  (ls.filter isPart).map value

theorem partTexts_cons (l : Lexeme) (ls : List Lexeme) :
    partTexts (l :: ls) = if l.isPart then l.value :: partTexts ls else partTexts ls := by
  rw [partTexts, List.filter_cons, apply_ite (List.map value)]
  rfl

/-- The parts of a formula are what is not left out of it, but for its end. -/
theorem isPart_eq {l : Lexeme} (h : l.kind ≠ .ending) :
    l.isPart = !LexemeRules.formula.skips l.kind := by
  obtain ⟨kind, value, position⟩ := l
  cases kind with
  | ending => exact absurd rfl h
  | _ => rfl

end Lexeme

/-- The lexemes of a formula as they are written, with one space between any two. -/
def respaced (text : String) : String :=
  " ".intercalate <|
    (Lexeme.partTexts (LexemeRules.formula.asWritten.lexemes text.toList)).map String.ofList

def spaced (parts : List (List Char)) : List Char :=
  [' '].intercalate parts

theorem toList_respaced (text : String) :
    (respaced text).toList =
      spaced (Lexeme.partTexts (LexemeRules.formula.asWritten.lexemes text.toList)) := by
  rw [respaced, String.toList_intercalate, List.map_map]
  simp only [Function.comp_def, String.toList_ofList, List.map_id']
  rfl

def behind : List (List Char) → List Char
  | [] => []
  | part :: parts => ' ' :: spaced (part :: parts)

theorem spaced_cons (part : List Char) (parts : List (List Char)) :
    spaced (part :: parts) = part ++ behind parts := by
  cases parts with
  | nil => rw [spaced, List.intercalate_singleton, behind, List.append_nil]
  | cons next parts =>
    rw [spaced, List.intercalate_cons_cons, List.append_assoc]
    rfl

theorem apart_behind (parts : List (List Char)) : Apart (behind parts) := by
  cases parts with
  | nil => exact .ending
  | cons part parts => exact .space _

namespace LexemeRules

def Begins (part : List Char) : Prop :=
  ∃ first more, part = first :: more ∧ formula.classOf first ≠ some .blank

theorem cut_of_blank {first : Char} (h : formula.classOf first = some .blank) (ahead : List Char) :
    (formula.cut first ahead).kind = .blank ∨ (formula.cut first ahead).kind = .comment := by
  rw [cut]
  cases formula.commentTail? first ahead with
  | some tail => exact .inr rfl
  | none =>
    rw [plainCut, h]
    exact .inl rfl

theorem begins_of_mem {bound : Nat} {before ahead part : List Char}
    (h : part ∈ Lexeme.partTexts (formula.asWritten.lexemesFrom bound (between before ahead))) :
    Begins part := by
  obtain ⟨l, hl, rfl⟩ := List.mem_map.mp h
  obtain ⟨hmem, hpart⟩ := List.mem_filter.mp hl
  obtain ⟨⟨hblank, hcomment⟩, hending⟩ :
      (l.kind ≠ .blank ∧ l.kind ≠ .comment) ∧ l.kind ≠ .ending := by
    simpa [Lexeme.isPart] using hpart
  obtain ⟨first, more, hkind, hvalue⟩ := (cut_of_mem hmem).resolve_left hending
  rw [cut_asWritten] at hkind hvalue
  refine ⟨first, _, hvalue, fun hclass => ?_⟩
  rcases cut_of_blank hclass more with hcut | hcut
  · exact hblank (hkind.trans hcut)
  · exact hcomment (hkind.trans hcut)

theorem cut_space {part : List Char} (h : Begins part) (more : List Char) :
    formula.cut ' ' (part ++ more) = ⟨.blank, [' '], []⟩ := by
  obtain ⟨first, tail, rfl, hfirst⟩ := h
  have hclass : formula.classOf ' ' = some .blank := by decide
  have hrun : (first :: tail ++ more).takeWhile (fun d => formula.classOf d == some .blank) = [] :=
    List.takeWhile_cons_of_neg (by simpa using hfirst)
  rw [cut, commentTail?_of_ne (by decide), plainCut, hclass]
  simp only [hrun]

theorem partTexts_end (bound : Nat) (before : List Char) :
    Lexeme.partTexts (formula.asWritten.lexemesFrom bound (between before [])) = [] := by
  cases bound with
  | zero => rfl
  | succ bound =>
    rw [lexemesFrom_end]
    rfl

/-- The space in front of the next part is passed. -/
theorem lexemesFrom_behind (bound : Nat) (before : List Char) {parts : List (List Char)}
    (hparts : ∀ part ∈ parts, Begins part) (hb : (behind parts).length < bound) :
    ∃ bound' before', (spaced parts).length < bound' ∧
      formula.lexemesFrom bound (between before (behind parts)) =
        formula.lexemesFrom bound' (between before' (spaced parts)) := by
  cases parts with
  | nil => exact ⟨bound, before, hb, rfl⟩
  | cons part parts =>
    obtain ⟨bound, rfl⟩ := Nat.exists_eq_add_one_of_ne_zero (Nat.ne_zero_of_lt hb)
    have hskip : formula.skips .blank = true := rfl
    refine ⟨bound, before ++ [' '], Nat.lt_of_succ_lt_succ hb, ?_⟩
    rw [behind, lexemesFrom_between, spaced_cons, cut_space (hparts part List.mem_cons_self), hskip,
      if_pos rfl]
    rfl

/-- The induction is on the lexemes of the text. Blanks and comments are passed, and any other one
is cut off the parts again and followed by the space that stands in front of the next. -/
theorem lexemesFrom_spaced {bound bound' : Nat} {before before' ahead : List Char}
    {parts : List (List Char)}
    (hparts : Lexeme.partTexts (formula.asWritten.lexemesFrom bound (between before ahead)) = parts)
    (hb : ahead.length < bound) (hb' : (spaced parts).length < bound') :
    (formula.lexemesFrom bound' (between before' (spaced parts))).map Lexeme.unplaced =
      (formula.lexemesFrom bound (between before ahead)).map Lexeme.unplaced := by
  induction bound generalizing bound' before before' ahead parts with
  | zero => exact absurd hb (Nat.not_lt_zero _)
  | succ bound ih =>
    obtain ⟨bound', rfl⟩ := Nat.exists_eq_add_one_of_ne_zero (Nat.ne_zero_of_lt hb')
    cases ahead with
    | nil =>
      obtain rfl : [] = parts := by
        rw [← hparts, partTexts_end]
      have hempty : spaced [] = [] := rfl
      rw [hempty, lexemesFrom_end, lexemesFrom_end]
      rfl
    | cons first ahead =>
      have hlength : (ahead.drop (formula.cut first ahead).tail.length).length < bound := by
        rw [List.length_drop]
        rw [List.length_cons] at hb
        omega
      have hending := formula.cut_kind first ahead
      rw [lexemesFrom_between, cut_asWritten, formula.asWritten_verbatim.skips,
        if_neg Bool.false_ne_true, List.singleton_append, Lexeme.partTexts_cons,
        Lexeme.isPart_eq hending] at hparts
      rw [lexemesFrom_between _ _ first ahead, List.map_append]
      cases hskip : formula.skips (formula.cut first ahead).kind with
      | true =>
        rw [hskip] at hparts
        exact ih hparts hlength hb'
      | false =>
        rw [hskip] at hparts
        obtain rfl : (first :: (formula.cut first ahead).tail) :: _ = parts := hparts
        generalize hlater : Lexeme.partTexts _ = later at hb' ⊢
        have hcut : formula.cut first ((formula.cut first ahead).tail ++ behind later) =
            formula.cut first ahead := by
          refine cut_again (apart_behind later) ?_ ?_ fun hend => ?_
          · intro hblank
            rw [hblank] at hskip
            cases hskip
          · intro hcomment
            rw [hcomment] at hskip
            cases hskip
          · rw [← hlater, hend, partTexts_end]
            rfl
        have hbegins : ∀ part ∈ later, Begins part := fun part hp => begins_of_mem (hlater ▸ hp)
        rw [spaced_cons, List.length_append, List.length_cons] at hb'
        obtain ⟨bound'', before'', hb'', hbehind⟩ := lexemesFrom_behind bound'
          (before' ++ first :: (formula.cut first ahead).tail) hbegins (by omega)
        rw [spaced_cons, List.cons_append, lexemesFrom_between, hcut, hskip, List.drop_left,
          List.map_append, hbehind, ih hlater hlength hb'']
        rfl

theorem lexemes_respaced (text : String) :
    (formula.lexemes (respaced text).toList).map Lexeme.unplaced =
      (formula.lexemes text.toList).map Lexeme.unplaced := by
  rw [toList_respaced]
  exact @lexemesFrom_spaced _ _ [] [] text.toList _ rfl (Nat.lt_succ_self _) (Nat.lt_succ_self _)

theorem readable_respaced (text : String) :
    (formula.readable (respaced text).toList).map Lexeme.unplaced =
      (formula.readable text.toList).map Lexeme.unplaced := by
  have hfilter (text : List Char) : (formula.readable text).map Lexeme.unplaced =
      ((formula.lexemes text).map Lexeme.unplaced).filter
        fun l => l.kind != .blank && l.kind != .comment := by
    rw [readable, List.filter_map]
    rfl
  rw [hfilter, hfilter, lexemes_respaced]

end LexemeRules

/-! ### Tokens and programs without their places -/

def nowhere (_ : Position) : Position :=
  .start

def Token.unplaced : Token → Token :=
  .relabel id nowhere

namespace TokenReading

theorem word_unplaced (value : List Char) (after : List Lexeme) :
    word value (after.map Lexeme.unplaced) = word value after := by
  have hword (i : Nat) (keyword : String) :
      ((after.map Lexeme.unplaced)[i]?.map (isWord · keyword)).getD false =
        (after[i]?.map (isWord · keyword)).getD false := by
    rw [List.getElem?_map, Option.map_map]
    rfl
  have hparen : ((after.map Lexeme.unplaced).head?.map (·.isSymbol ['('])).getD false =
      (after.head?.map (·.isSymbol ['('])).getD false := by
    rw [List.head?_map, Option.map_map]
    rfl
  simp only [word, hword, hparen]

theorem read_unplaced (l : Lexeme) (after : List Lexeme) (afterOperand : Bool) :
    read l.unplaced (after.map Lexeme.unplaced) afterOperand = read l after afterOperand := by
  obtain ⟨kind, value, position⟩ := l
  cases kind with
  | word => simp only [read, Lexeme.unplaced, word_unplaced]
  | _ => rfl

theorem tokens_unplaced (used : Nat) (afterOperand : Bool) (ls : List Lexeme) :
    tokens used afterOperand (ls.map Lexeme.unplaced) =
      (tokens used afterOperand ls).map Token.unplaced := by
  induction ls generalizing used afterOperand with
  | nil => cases used <;> rfl
  | cons l ls ih =>
    cases used with
    | succ used => exact ih used afterOperand
    | zero =>
      rw [List.map_cons, tokens, tokens, read_unplaced]
      cases read l ls afterOperand with
      | mk kind? used =>
        cases kind? with
        | none => exact ih used afterOperand
        | some kind =>
          dsimp only
          rw [List.map_cons, ih used kind.endsOperand, Token.unplaced, Token.relabel,
            kind.rename_id]
          rfl

end TokenReading

theorem unplaced_tokens_respaced (text : String) :
    (readTokens .formula (respaced text).toList).map Token.unplaced =
      (readTokens .formula text.toList).map Token.unplaced := by
  rw [(readTokens_eq rfl _).1, (readTokens_eq rfl _).1, ← TokenReading.tokens_unplaced,
    ← TokenReading.tokens_unplaced, LexemeRules.readable_respaced]

namespace Program

def actions (p : Program) : List Action :=
  p.instructions.map Instruction.action

/-- The actions of a program, or what is wrong with a text that is none, wherever they stand. -/
def unplaced (outcome : Except SyntaxError Program) : Except SyntaxFault (List Action) :=
  (outcome.mapError SyntaxError.fault).map actions

theorem actions_relabel (g : Position → Position) (p : Program) :
    (p.relabel id g).actions = p.actions := by
  rw [actions, actions, relabel, List.map_map]
  exact List.map_congr_left fun i _ => i.action.rename_id

/-- Tokens that differ in their places make programs that do. -/
theorem unplaced_assemble {ts us : List Token} (h : ts.map Token.unplaced = us.map Token.unplaced) :
    unplaced (assemble ts) = unplaced (assemble us) := by
  have hseen (ts : List Token) : unplaced (assemble ts) =
      ((seen id id (assemble (ts.map Token.unplaced))).mapError Prod.fst).map actions := by
    rw [Token.unplaced, assemble_relabel (blind_id id) rfl]
    cases assemble ts with
    | error e => rfl
    | ok p => exact congrArg Except.ok (p.actions_relabel nowhere).symm
  rw [hseen, hseen, h]

end Program

/-- The lexemes of a text as they are written, blanks and comments left out, with one space between
any two: the tokens are of the same kinds, and the program has the same actions, or it is refused
with the same fault. -/
theorem respaced_text_reads_same (text : String) :
    (readTokens .formula (respaced text).toList).map Token.kind =
        (readTokens .formula text.toList).map Token.kind ∧
      Program.unplaced (Program.parse (respaced text)) = Program.unplaced (Program.parse text) := by
  have htokens := unplaced_tokens_respaced text
  have hkind : Token.kind ∘ Token.unplaced = Token.kind := funext fun t => t.kind.rename_id
  constructor
  · rw [← hkind, ← List.map_map, ← List.map_map, htokens]
  · exact Program.unplaced_assemble htokens

/-- Neither the point nor the exponent is parted from its number, and the comment is gone. -/
example : respaced "-2.5e3^f( x)//y" = "- 2.5e3 ^ f ( x )" := by cbv

end Reckon
