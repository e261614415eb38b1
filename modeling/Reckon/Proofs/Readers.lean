import Reckon.Lexeme
import Reckon.Proofs.Places

/-!
# Readers pass what they return

Every reader is called after the first character of a lexeme. It passes the other characters of what
it returns and no more: those it looks at in vain are ahead again afterwards. Quoted text is
returned as it is written unless the rules ask for its meaning.
-/

namespace Reckon

open Cursor

/-- Between the two parts of a text the first character of the value has just been passed; the
cursor `d` has passed the rest of it too. -/
def Passes (first : Char) (before ahead value : List Char) (d : Cursor) : Prop :=
  ∃ tail rest, ahead = tail ++ rest ∧ value = first :: tail ∧ d = between (before ++ tail) rest

variable {first : Char} {before ahead : List Char}

theorem Passes.refl : Passes first before ahead [first] (between before ahead) :=
  ⟨[], ahead, rfl, rfl, by rw [List.append_nil]⟩

theorem Passes.extend {value more : List Char} {d : Cursor} (h : Passes first before ahead value d)
    (hm : more <+: d.ahead) : Passes first before ahead (value ++ more) (d.steps more.length) := by
  obtain ⟨tail, rest, rfl, rfl, rfl⟩ := h
  obtain ⟨rest, rfl⟩ := hm
  refine ⟨tail ++ more, rest, (List.append_assoc ..).symm, rfl, ?_⟩
  rw [steps_between, List.append_assoc]

theorem passes_of_isPrefix {tail : List Char} (h : tail <+: ahead) :
    Passes first before ahead (first :: tail) ((between before ahead).steps tail.length) :=
  Passes.refl.extend h

/-! ### Numbers -/

theorem cons_takeWhile_isPrefix {p : Char → Bool} (c : Char) (l : List Char) :
    c :: l.takeWhile p <+: c :: l :=
  (List.prefix_cons_inj c).mpr (List.takeWhile_prefix p)

theorem fractionPart_isPrefix (l : List Char) : fractionPart l <+: l := by
  unfold fractionPart
  split
  · split
    · exact cons_takeWhile_isPrefix _ _
    · exact List.nil_prefix
  · exact List.nil_prefix

theorem exponentPart_isPrefix (l : List Char) : exponentPart l <+: l := by
  unfold exponentPart
  split
  · rename_i e sign d rest
    split
    · split
      · exact (List.prefix_cons_inj e).mpr (cons_takeWhile_isPrefix sign (d :: rest))
      · split
        · exact cons_takeWhile_isPrefix e (sign :: d :: rest)
        · exact List.nil_prefix
    · exact List.nil_prefix
  · split
    · exact List.prefix_rfl
    · exact List.nil_prefix
  · exact List.nil_prefix

theorem hexPart_isPrefix (l : List Char) : hexPart l <+: l := by
  unfold hexPart
  split
  · split
    · exact cons_takeWhile_isPrefix _ _
    · exact List.nil_prefix
  · exact List.nil_prefix

theorem append_isPrefix_of_drop {part more l : List Char} (hp : part <+: l)
    (hm : more <+: l.drop part.length) : part ++ more <+: l := by
  obtain ⟨rest, rfl⟩ := hp
  rw [List.drop_left] at hm
  exact (List.prefix_append_right_inj part).mpr hm

theorem numberRest_isPrefix (rules : LexemeRules) (first : Char) (l : List Char) :
    (numberRest rules first l).2 <+: l := by
  unfold numberRest
  split
  · exact hexPart_isPrefix l
  · have hwhole : l.takeWhile isDigit <+: l := List.takeWhile_prefix isDigit
    refine append_isPrefix_of_drop (append_isPrefix_of_drop hwhole ?_) ?_
    · split
      · exact List.nil_prefix
      · exact fractionPart_isPrefix _
    · split
      · rw [List.length_append, ← List.drop_drop]
        exact exponentPart_isPrefix _
      · exact List.nil_prefix

/-! ### Quoted texts and comments -/

theorem quotedRest_isPrefix (quote : Char) (escapes : Bool) (l : List Char) :
    (quotedRest quote escapes l).1 <+: l := by
  fun_induction quotedRest quote escapes l with
  | case1 => exact List.nil_prefix
  | case2 => exact List.prefix_rfl
  | case3 rest raw content hrest ih =>
    rw [hrest] at ih
    exact (List.prefix_cons_inj quote).mpr ((List.prefix_cons_inj quote).mpr ih)
  | case4 d rest hd => exact (List.prefix_cons_inj quote).mpr List.nil_prefix
  | case5 c hc hescape => exact List.prefix_rfl
  | case6 c hc hescape d rest raw content hrest ih =>
    rw [hrest] at ih
    exact (List.prefix_cons_inj c).mpr ((List.prefix_cons_inj d).mpr ih)
  | case7 c rest hc hescape raw content hrest ih =>
    rw [hrest] at ih
    exact (List.prefix_cons_inj c).mpr ih

theorem untilClosed_isPrefix (closer read l : List Char) : untilClosed closer read l <+: l := by
  induction l generalizing read with
  | nil => exact List.nil_prefix
  | cons c l ih =>
    rw [untilClosed]
    split
    · exact (List.prefix_cons_inj c).mpr List.nil_prefix
    · exact (List.prefix_cons_inj c).mpr (ih (c :: read))

def PassesComment (first : Char) (before ahead : List Char) :
    Option (List Char) × Cursor → Prop
  | (some text, d) => Passes first before ahead text d
  | (none, d) => d = between before ahead

theorem passOpener_cases (first : Char) (before ahead opener : List Char) :
    (∃ d, passOpener first opener (between before ahead) = (true, d) ∧
      Passes first before ahead opener d) ∨
    passOpener first opener (between before ahead) = (false, between before ahead) := by
  cases opener with
  | nil => exact .inr rfl
  | cons c opener =>
    rw [passOpener]
    by_cases hc : c = first
    · subst hc
      rw [if_pos rfl]
      by_cases hp : opener <+: ahead
      · obtain ⟨rest, rfl⟩ := hp
        exact .inl ⟨_, follows_append before opener rest, opener, rest, rfl, rfl, rfl⟩
      · exact .inr (follows_of_not_isPrefix before hp)
    · exact .inr (if_neg hc)

theorem readLineComment_passes (openers : List (List Char)) :
    PassesComment first before ahead (readLineComment first openers (between before ahead)) := by
  induction openers with
  | nil => rfl
  | cons opener openers ih =>
    rcases passOpener_cases first before ahead opener with ⟨d, hd, hp⟩ | hd
    · rw [readLineComment, hd]
      exact hp.extend (List.takeWhile_prefix _)
    · rw [readLineComment, hd]
      exact ih

theorem readBlockComment_passes (pairs : List (List Char × List Char)) :
    PassesComment first before ahead (readBlockComment first pairs (between before ahead)) := by
  induction pairs with
  | nil => rfl
  | cons pair pairs ih =>
    obtain ⟨opener, closer⟩ := pair
    rcases passOpener_cases first before ahead opener with ⟨d, hd, hp⟩ | hd
    · rw [readBlockComment, hd]
      exact hp.extend (untilClosed_isPrefix closer [] d.ahead)
    · rw [readBlockComment, hd]
      exact ih

theorem readComment_passes (rules : LexemeRules) :
    PassesComment first before ahead (readComment rules first (between before ahead)) := by
  have hline := @readLineComment_passes first before ahead rules.lineComments
  rw [readComment]
  split
  · rename_i text d hd
    rwa [hd] at hline
  · rename_i d hd
    rw [hd] at hline
    rw [show d = between before ahead from hline]
    exact readBlockComment_passes rules.blockComments

/-! ### Symbols -/

theorem SymbolTable.walk_bounds (t : SymbolTable) {read best : Nat} (l : List Char)
    (h : best ≤ read) :
    (t.walk read best l).2 ≤ (t.walk read best l).1 ∧
      (t.walk read best l).1 ≤ read + l.length := by
  induction l generalizing t read best with
  | nil => exact ⟨h, Nat.le_refl _⟩
  | cons c l ih =>
    rw [walk]
    split
    · exact ⟨h, Nat.le_add_right _ _⟩
    · rename_i next _
      have hb : (if next.isSymbol then read + 1 else best) ≤ read + 1 := by
        split <;> omega
      obtain ⟨hbest, hread⟩ := ih next hb
      refine ⟨hbest, hread.trans ?_⟩
      rw [List.length_cons]
      omega

/-- What was passed beyond the longest symbol comes to be ahead again. -/
theorem SymbolTable.read_passes (t : SymbolTable) :
    Passes first before ahead (t.read first (between before ahead)).1
      (t.read first (between before ahead)).2 := by
  rw [read]
  split
  · exact .refl
  · rename_i t _
    obtain ⟨hbest, hread⟩ := t.walk_bounds ahead (Nat.le_refl 0)
    rw [Nat.zero_add] at hread
    have hl : (ahead.take (t.walk 0 0 ahead).2).length = (t.walk 0 0 ahead).2 :=
      List.length_take_of_le (hbest.trans hread)
    have hp : Passes first before ahead _ _ :=
      passes_of_isPrefix (List.take_prefix (t.walk 0 0 ahead).2 ahead)
    rw [hl, ← unread_steps hbest hread] at hp
    exact hp

/-! ### Lexemes -/

theorem numberRest_kind (rules : LexemeRules) (first : Char) (l : List Char) :
    (numberRest rules first l).1 ≠ .ending := by
  unfold numberRest
  split
  · exact iteInduction (motive := (· ≠ LexemeKind.ending)) (fun _ => nofun) (fun _ => nofun)
  · exact iteInduction (motive := (· ≠ LexemeKind.ending)) (fun _ => nofun) (fun _ => nofun)

namespace LexemeRules

variable {rules : LexemeRules}

theorem readNumber_passes (rules : LexemeRules) :
    Passes first before ahead (rules.readNumber first (between before ahead)).2.1
      (rules.readNumber first (between before ahead)).2.2 :=
  passes_of_isPrefix (numberRest_isPrefix rules first ahead)

theorem readQuoted_passes (h : rules.decodeStrings = false) :
    Passes first before ahead (rules.readQuoted first (between before ahead)).1
      (rules.readQuoted first (between before ahead)).2 := by
  have hp : Passes first before ahead _ _ :=
    passes_of_isPrefix (quotedRest_isPrefix first rules.backslashEscapes ahead)
  simpa only [readQuoted, ahead_between, h, Bool.false_eq_true, if_false] using hp

theorem readPlain_passes (h : rules.decodeStrings = false) :
    (rules.readPlain first (between before ahead)).1 ≠ .ending ∧
      Passes first before ahead (rules.readPlain first (between before ahead)).2.1
        (rules.readPlain first (between before ahead)).2.2 := by
  rw [readPlain]
  split
  · exact ⟨nofun, passes_of_isPrefix (List.takeWhile_prefix _)⟩
  · exact ⟨numberRest_kind rules first ahead, rules.readNumber_passes⟩
  · exact ⟨nofun, passes_of_isPrefix (List.takeWhile_prefix _)⟩
  · exact ⟨nofun, readQuoted_passes h⟩
  · split
    · exact ⟨numberRest_kind rules first ahead, rules.readNumber_passes⟩
    · exact ⟨nofun, rules.symbols.read_passes⟩
  · exact ⟨nofun, .refl⟩

theorem readLexeme_end (rules : LexemeRules) (before : List Char) :
    rules.readLexeme (between before []) =
      (⟨.ending, [], place before before.length⟩, between before []) := by
  have hn : (between before []).next = place before before.length := by
    rw [next_between, List.append_nil]
  rw [readLexeme, ← hn]
  rfl

/-- A lexeme begins with the next character and has what the cursor passes as its value. -/
theorem readLexeme_passes (h : rules.decodeStrings = false) (before : List Char) (first : Char)
    (ahead : List Char) :
    ∃ l d, rules.readLexeme (between before (first :: ahead)) = (l, d) ∧ l.kind ≠ .ending ∧
      l.position = place (before ++ first :: ahead) before.length ∧
      Passes first (before ++ [first]) ahead l.value d := by
  have hc := @readComment_passes first (before ++ [first]) ahead rules
  have hr : rules.readLexeme (between before (first :: ahead)) =
      match readComment rules first (between (before ++ [first]) ahead) with
      | (some text, d) => (⟨.comment, text, place (before ++ first :: ahead) before.length⟩, d)
      | (none, d) =>
        (⟨(rules.readPlain first d).1, (rules.readPlain first d).2.1,
          place (before ++ first :: ahead) before.length⟩, (rules.readPlain first d).2.2) := by
    rw [← step_between]
    rfl
  rw [hr]
  split
  · rename_i text d hd
    rw [hd] at hc
    exact ⟨_, _, rfl, nofun, rfl, hc⟩
  · rename_i d hd
    rw [hd] at hc
    obtain rfl : d = between (before ++ [first]) ahead := hc
    obtain ⟨hkind, hp⟩ := @readPlain_passes first (before ++ [first]) ahead rules h
    exact ⟨_, _, rfl, hkind, rfl, hp⟩

end LexemeRules

end Reckon
