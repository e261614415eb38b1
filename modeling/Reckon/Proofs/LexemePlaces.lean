import Mathlib.Data.List.Nodup
import Reckon.Proofs.Readers

/-!
# No two lexemes stand at one place

Decoding quoted text changes the value of a lexeme and nothing else. So under all rules a lexeme
passes at least one character, and the lexemes of a text stand at places that come one after the
other, whichever of them are left out.
-/

namespace Reckon

open Cursor

namespace LexemeRules

def undecoded (rules : LexemeRules) : LexemeRules :=
  { rules with decodeStrings := false }

variable (rules : LexemeRules)

theorem readPlain_undecoded (first : Char) (c : Cursor) :
    (rules.undecoded.readPlain first c).1 = (rules.readPlain first c).1 ∧
      (rules.undecoded.readPlain first c).2.2 = (rules.readPlain first c).2.2 := by
  have hclass : rules.undecoded.classOf first = rules.classOf first := rfl
  simp only [readPlain, hclass]
  split <;> exact ⟨rfl, rfl⟩

theorem readLexeme_undecoded (c : Cursor) :
    (rules.undecoded.readLexeme c).1.kind = (rules.readLexeme c).1.kind ∧
      (rules.undecoded.readLexeme c).1.position = (rules.readLexeme c).1.position ∧
      (rules.undecoded.readLexeme c).2 = (rules.readLexeme c).2 := by
  have hcomment (first : Char) :
      readComment rules.undecoded first c.step = readComment rules first c.step := rfl
  simp only [readLexeme, hcomment]
  split
  · exact ⟨rfl, rfl, rfl⟩
  · split
    · exact ⟨rfl, rfl, rfl⟩
    · exact ⟨(rules.readPlain_undecoded _ _).1, rfl, (rules.readPlain_undecoded _ _).2⟩

variable {rules}

/-- A lexeme stands where its first character does, and the cursor passes that at least. -/
theorem readLexeme_moves (before : List Char) (first : Char) (ahead : List Char) :
    ∃ l tail rest, rules.readLexeme (between before (first :: ahead)) =
        (l, between (before ++ first :: tail) rest) ∧ ahead = tail ++ rest ∧ l.kind ≠ .ending ∧
      l.position = place (before ++ first :: ahead) before.length := by
  obtain ⟨hkind, hposition, hcursor⟩ :=
    rules.readLexeme_undecoded (between before (first :: ahead))
  obtain ⟨l, d, hr, hne, hp, tail, rest, hahead, -, rfl⟩ :=
    @readLexeme_passes rules.undecoded rfl before first ahead
  rw [hr] at hkind hposition hcursor
  refine ⟨_, tail, rest, Prod.ext rfl ?_, hahead, hkind ▸ hne, hposition ▸ hp⟩
  have ht : before ++ first :: tail = before ++ [first] ++ tail := List.append_cons ..
  rw [ht]
  exact hcursor.symm

/-- The places of lexemes come one after the other. -/
theorem places_lexemesFrom (bound : Nat) (before ahead : List Char) :
    ∃ ns : List Nat, ns.Pairwise (· < ·) ∧ (∀ n ∈ ns, before.length ≤ n) ∧
      (rules.lexemesFrom bound (between before ahead)).map Lexeme.position =
        ns.map (place (before ++ ahead)) := by
  induction bound generalizing before ahead with
  | zero => exact ⟨[], .nil, nofun, rfl⟩
  | succ bound ih =>
    cases ahead with
    | nil =>
      simp only [lexemesFrom, readLexeme_end, if_true]
      split
      · exact ⟨[], .nil, nofun, rfl⟩
      · exact ⟨[before.length], List.pairwise_singleton _ _, by simp, by simp⟩
    | cons first ahead =>
      obtain ⟨l, tail, rest, hr, rfl, hkind, hposition⟩ := @readLexeme_moves rules before first ahead
      obtain ⟨ns, hsorted, hleast, hns⟩ := ih (before ++ first :: tail) rest
      have htext : before ++ first :: tail ++ rest = before ++ first :: (tail ++ rest) := by simp
      have hlater : ∀ n ∈ ns, before.length < n := by
        intro n hn
        have := hleast n hn
        rw [List.length_append, List.length_cons] at this
        omega
      rw [htext] at hns
      simp only [lexemesFrom, hr, if_neg hkind]
      split
      · exact ⟨ns, hsorted, fun n hn => (hlater n hn).le, hns⟩
      · refine ⟨before.length :: ns, List.pairwise_cons.mpr ⟨hlater, hsorted⟩, ?_, ?_⟩
        · exact List.forall_mem_cons.mpr ⟨Nat.le_refl _, fun n hn => (hlater n hn).le⟩
        · rw [List.map_cons, List.map_cons, hposition, hns]

theorem nodup_position_lexemes (rules : LexemeRules) (text : List Char) :
    ((rules.lexemes text).map Lexeme.position).Nodup := by
  obtain ⟨ns, hsorted, -, hns⟩ := @places_lexemesFrom rules (text.length + 1) [] text
  have hplaces : (rules.lexemes text).map Lexeme.position = ns.map (place text) := hns
  rw [hplaces]
  exact List.Nodup.map (place_injective text) (hsorted.imp Nat.ne_of_lt)

theorem eq_of_position {text : List Char} {l m : Lexeme} (hl : l ∈ rules.lexemes text)
    (hm : m ∈ rules.lexemes text) (h : l.position = m.position) : l = m :=
  List.inj_on_of_nodup_map (nodup_position_lexemes rules text) hl hm h

/-- Where the end of a text is kept, it is the last lexeme. -/
theorem lexemesFrom_ended (h : rules.skipEnd = false) {bound : Nat} {before ahead : List Char}
    (hb : ahead.length < bound) :
    ∃ parts l, rules.lexemesFrom bound (between before ahead) = parts ++ [l] ∧
      l.kind = .ending := by
  induction bound generalizing before ahead with
  | zero => exact absurd hb (Nat.not_lt_zero _)
  | succ bound ih =>
    cases ahead with
    | nil =>
      have hskip : rules.skips .ending = false := h
      simp only [lexemesFrom, readLexeme_end, if_true, hskip]
      exact ⟨[], _, rfl, rfl⟩
    | cons first ahead =>
      obtain ⟨l, tail, rest, hr, rfl, hkind, -⟩ := @readLexeme_moves rules before first ahead
      have hlen : rest.length < bound := by
        rw [List.length_cons, List.length_append] at hb
        omega
      obtain ⟨parts, last, hparts, hlast⟩ := @ih (before ++ first :: tail) rest hlen
      simp only [lexemesFrom, hr, if_neg hkind, hparts]
      split
      · exact ⟨parts, last, rfl, hlast⟩
      · exact ⟨l :: parts, last, rfl, hlast⟩

theorem lexemes_ended (h : rules.skipEnd = false) (text : List Char) :
    ∃ parts l, rules.lexemes text = parts ++ [l] ∧ l.kind = .ending :=
  @lexemesFrom_ended rules h _ [] text (Nat.lt_succ_self text.length)

end LexemeRules

end Reckon
