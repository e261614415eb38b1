import Reckon.Proofs.Readers

/-!
# Lexemes tile a text

Where nothing is decoded or left out the lexemes of a text are the text, cut into parts. Each says
where its part begins, and only the last one is empty: it is the end of the text.
-/

namespace Reckon

open Cursor

inductive TilesFrom : List Char → List Char → List Lexeme → Prop where
  | ending (before : List Char) :
      TilesFrom before [] [⟨.ending, [], place before before.length⟩]
  | cons {before rest : List Char} {l : Lexeme} {ls : List Lexeme} :
      l.kind ≠ .ending → l.value ≠ [] →
      l.position = place (before ++ l.value ++ rest) before.length →
      TilesFrom (before ++ l.value) rest ls → TilesFrom before (l.value ++ rest) (l :: ls)

/-- The lexemes are the parts of the text in order, each at its place, and the end. -/
structure Tiles (text : List Char) (ls : List Lexeme) : Prop where
  joined : ls.flatMap Lexeme.value = text
  ended : ∃ parts, ls = parts ++ [⟨.ending, [], place text text.length⟩] ∧
    ∀ l ∈ parts, l.kind ≠ .ending ∧ l.value ≠ []
  placed : ∀ (earlier later : List Lexeme) (l : Lexeme), ls = earlier ++ l :: later →
    l.position = place text (earlier.flatMap Lexeme.value).length

namespace TilesFrom

variable {before ahead : List Char} {ls : List Lexeme}

theorem joined (h : TilesFrom before ahead ls) : ls.flatMap Lexeme.value = ahead := by
  induction h with
  | ending before => rfl
  | cons _ _ _ _ ih => rw [List.flatMap_cons, ih]

theorem ended (h : TilesFrom before ahead ls) :
    ∃ parts, ls = parts ++ [⟨.ending, [], place (before ++ ahead) (before ++ ahead).length⟩] ∧
      ∀ l ∈ parts, l.kind ≠ .ending ∧ l.value ≠ [] := by
  induction h with
  | ending before => exact ⟨[], by rw [List.append_nil, List.nil_append], nofun⟩
  | @cons before rest l ls hkind hvalue hposition hls ih =>
    obtain ⟨parts, rfl, hparts⟩ := ih
    rw [← List.append_assoc]
    exact ⟨l :: parts, rfl, List.forall_mem_cons.mpr ⟨⟨hkind, hvalue⟩, hparts⟩⟩

theorem placed (h : TilesFrom before ahead ls) :
    ∀ (earlier later : List Lexeme) (l : Lexeme), ls = earlier ++ l :: later →
      l.position = place (before ++ ahead) (before ++ earlier.flatMap Lexeme.value).length := by
  induction h with
  | ending before =>
    intro earlier later l hl
    cases earlier with
    | nil =>
      cases hl
      rw [List.append_nil, List.flatMap_nil, List.append_nil]
    | cons e earlier => cases earlier <;> cases hl
  | @cons before rest m ls hkind hvalue hposition hls ih =>
    intro earlier later l hl
    cases earlier with
    | nil =>
      cases hl
      rw [hposition, List.flatMap_nil, List.append_nil, List.append_assoc]
    | cons e earlier =>
      obtain ⟨rfl, hrest⟩ := List.cons.inj hl
      rw [ih earlier later l hrest, List.flatMap_cons, List.append_assoc, List.append_assoc]

end TilesFrom

namespace LexemeRules

structure Verbatim (rules : LexemeRules) : Prop where
  strings : rules.decodeStrings = false
  blanks : rules.skipBlanks = false
  comments : rules.skipComments = false
  ending : rules.skipEnd = false

variable {rules : LexemeRules}

theorem Verbatim.skips (h : rules.Verbatim) (kind : LexemeKind) : rules.skips kind = false := by
  cases kind with
  | blank => exact h.blanks
  | comment => exact h.comments
  | ending => exact h.ending
  | _ => rfl

theorem tilesFrom_lexemesFrom (h : rules.Verbatim) {bound : Nat} {before ahead : List Char}
    (hb : ahead.length < bound) :
    TilesFrom before ahead (rules.lexemesFrom bound (between before ahead)) := by
  induction bound generalizing before ahead with
  | zero => exact absurd hb (Nat.not_lt_zero _)
  | succ bound ih =>
    cases ahead with
    | nil =>
      simp only [lexemesFrom, readLexeme_end, h.skips, Bool.false_eq_true, if_true, if_false]
      exact .ending before
    | cons first ahead =>
      obtain ⟨l, d, hr, hkind, hposition, tail, rest, rfl, hvalue, rfl⟩ :=
        readLexeme_passes h.strings before first ahead
      simp only [lexemesFrom, hr, h.skips, Bool.false_eq_true, if_false, if_neg hkind]
      have ht : before ++ [first] ++ tail = before ++ l.value := by simp [hvalue]
      have ha : first :: (tail ++ rest) = l.value ++ rest := by rw [hvalue, List.cons_append]
      have hlen : rest.length < bound := by
        rw [List.length_cons, List.length_append] at hb
        omega
      rw [ha, ← List.append_assoc] at hposition
      rw [ha, ht]
      refine .cons hkind ?_ hposition (ih hlen)
      rw [hvalue]
      exact List.cons_ne_nil first tail

/-- The lexemes of a text tile it, whatever the rules say of characters, symbols, numbers, comments
and escapes. -/
theorem tiles_lexemes (h : rules.Verbatim) (text : List Char) :
    Tiles text (rules.lexemes text) := by
  have hf : TilesFrom [] text (rules.lexemes text) :=
    tilesFrom_lexemesFrom h (Nat.lt_succ_self text.length)
  exact ⟨hf.joined, hf.ended, hf.placed⟩

theorem tiles_two_lines :
    Tiles ['a', '\r', '\n', '+'] [⟨.word, ['a'], ⟨1, 1⟩⟩, ⟨.blank, ['\r', '\n'], ⟨1, 2⟩⟩,
      ⟨.symbol, ['+'], ⟨2, 1⟩⟩, ⟨.ending, [], ⟨2, 2⟩⟩] := by
  have h : generic.Verbatim := ⟨rfl, rfl, rfl, rfl⟩
  exact tiles_lexemes h ['a', '\r', '\n', '+']

end LexemeRules

end Reckon
