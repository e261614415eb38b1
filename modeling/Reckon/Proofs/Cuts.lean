import Reckon.Proofs.LexemePlaces

/-!
# Lexemes are cut off what is ahead

What a lexeme is and how far it goes depends on the characters ahead alone, and only its place on
those before it. `cut` says so without a cursor: it gives the kind, the value and the characters
after the first one. Reading from a cursor cuts the same and stands behind the cut afterwards.
-/

namespace Reckon

open Cursor

/-- A lexeme without its place, and the characters it has after its first one. -/
structure Cut where
  kind : LexemeKind
  value : List Char
  tail : List Char

def LexemeKind.isNumber : LexemeKind → Bool
  | integer | float | hexadecimal => true
  | _ => false

theorem numberRest_ne (rules : LexemeRules) (first : Char) (s : List Char) {kind : LexemeKind}
    (h : kind.isNumber = false) : (numberRest rules first s).1 ≠ kind := by
  have hnumber : (numberRest rules first s).1.isNumber = true := by
    unfold numberRest
    split
    · exact iteInduction (motive := fun kind : LexemeKind => kind.isNumber = true)
        (fun _ => rfl) (fun _ => rfl)
    · exact iteInduction (motive := fun kind : LexemeKind => kind.isNumber = true)
        (fun _ => rfl) (fun _ => rfl)
  rintro rfl
  exact Bool.false_ne_true (h.symm.trans hnumber)

/-! ### Comments -/

def openerTail? (first : Char) (ahead : List Char) : List Char → Option (List Char)
  | [] => none
  | d :: rest => if d = first ∧ rest <+: ahead then some rest else none

def lineCommentTail? (first : Char) (ahead opener : List Char) : Option (List Char) :=
  (openerTail? first ahead opener).map fun rest =>
    rest ++ (ahead.drop rest.length).takeWhile fun c => !endsComment c

def blockCommentTail? (first : Char) (ahead : List Char) (pair : List Char × List Char) :
    Option (List Char) :=
  (openerTail? first ahead pair.1).map fun rest =>
    rest ++ untilClosed pair.2 [] (ahead.drop rest.length)

def LexemeRules.commentTail? (rules : LexemeRules) (first : Char) (ahead : List Char) :
    Option (List Char) :=
  (rules.lineComments.findSome? (lineCommentTail? first ahead)).or
    (rules.blockComments.findSome? (blockCommentTail? first ahead))

section

variable {first : Char} {before ahead : List Char}

theorem passOpener_between (opener : List Char) :
    passOpener first opener (between before ahead) =
      match openerTail? first ahead opener with
      | some rest => (true, between (before ++ rest) (ahead.drop rest.length))
      | none => (false, between before ahead) := by
  cases opener with
  | nil => rfl
  | cons d rest =>
    rw [passOpener, openerTail?]
    by_cases hd : d = first
    · by_cases hp : rest <+: ahead
      · obtain ⟨more, rfl⟩ := hp
        simp only [hd, if_true, follows_append, List.prefix_append, and_self, List.drop_left]
      · simp only [hd, if_true, follows_of_not_isPrefix before hp, hp, and_false, if_false]
    · simp only [hd, if_false, false_and]

theorem openerTail?_eq_some {opener rest : List Char}
    (h : openerTail? first ahead opener = some rest) : opener = first :: rest ∧ rest <+: ahead := by
  cases opener with
  | nil => cases h
  | cons d more =>
    rw [openerTail?] at h
    split at h
    · rename_i hd
      cases h
      exact ⟨by rw [hd.1], hd.2⟩
    · cases h

/-- A tail is passed, or there is none and nothing is. -/
def commentCut (first : Char) (before ahead : List Char) :
    Option (List Char) → Option (List Char) × Cursor
  | some tail => (some (first :: tail), between (before ++ tail) (ahead.drop tail.length))
  | none => (none, between before ahead)

theorem steps_isPrefix {tail : List Char} (h : tail <+: ahead) :
    (between before ahead).steps tail.length =
      between (before ++ tail) (ahead.drop tail.length) := by
  obtain ⟨rest, rfl⟩ := h
  rw [steps_between, List.drop_left]

theorem readLineComment_between (openers : List (List Char)) :
    readLineComment first openers (between before ahead) =
      commentCut first before ahead (openers.findSome? (lineCommentTail? first ahead)) := by
  induction openers with
  | nil => rfl
  | cons opener openers ih =>
    rw [readLineComment, passOpener_between, List.findSome?_cons, lineCommentTail?]
    cases hopener : openerTail? first ahead opener with
    | none => exact ih
    | some rest =>
      obtain ⟨rfl, -⟩ := openerTail?_eq_some hopener
      simp only [readWhile, ahead_between, Option.map_some, commentCut]
      rw [steps_isPrefix (List.takeWhile_prefix _), List.append_assoc, List.drop_drop,
        List.length_append]
      rfl

theorem readBlockComment_between (pairs : List (List Char × List Char)) :
    readBlockComment first pairs (between before ahead) =
      commentCut first before ahead (pairs.findSome? (blockCommentTail? first ahead)) := by
  induction pairs with
  | nil => rfl
  | cons pair pairs ih =>
    obtain ⟨opener, closer⟩ := pair
    rw [readBlockComment, passOpener_between, List.findSome?_cons, blockCommentTail?]
    cases hopener : openerTail? first ahead opener with
    | none => exact ih
    | some rest =>
      obtain ⟨rfl, -⟩ := openerTail?_eq_some hopener
      simp only [ahead_between, Option.map_some, commentCut]
      rw [steps_isPrefix (untilClosed_isPrefix _ _ _), List.append_assoc, List.drop_drop,
        List.length_append]
      rfl

theorem readComment_between (rules : LexemeRules) :
    readComment rules first (between before ahead) =
      commentCut first before ahead (rules.commentTail? first ahead) := by
  rw [readComment, readLineComment_between, LexemeRules.commentTail?]
  cases rules.lineComments.findSome? (lineCommentTail? first ahead) with
  | some tail => rfl
  | none => exact readBlockComment_between _

end

/-! ### Symbols and other lexemes -/

def SymbolTable.tail (t : SymbolTable) (first : Char) (ahead : List Char) : List Char :=
  match t.branch? first with
  | none => []
  | some t => ahead.take (t.walk 0 0 ahead).2

theorem SymbolTable.tail_isPrefix (t : SymbolTable) (first : Char) (ahead : List Char) :
    t.tail first ahead <+: ahead := by
  unfold tail
  split
  · exact List.nil_prefix
  · exact List.take_prefix _ _

namespace LexemeRules

def numberCut (rules : LexemeRules) (first : Char) (ahead : List Char) : Cut :=
  ⟨(numberRest rules first ahead).1, first :: (numberRest rules first ahead).2,
    (numberRest rules first ahead).2⟩

def quotedCut (rules : LexemeRules) (first : Char) (ahead : List Char) : Cut :=
  let (raw, content) := quotedRest first rules.backslashEscapes ahead
  ⟨.quoted, if rules.decodeStrings then content else first :: raw, raw⟩

def plainCut (rules : LexemeRules) (first : Char) (ahead : List Char) : Cut :=
  match rules.classOf first with
  | some .blank =>
    let tail := ahead.takeWhile fun d => rules.classOf d == some .blank
    ⟨.blank, first :: tail, tail⟩
  | some .number => rules.numberCut first ahead
  | some .word =>
    let tail := ahead.takeWhile rules.isWordChar
    ⟨.word, first :: tail, tail⟩
  | some .quote => rules.quotedCut first ahead
  | some .symbol =>
    if startsNumber rules first ahead then rules.numberCut first ahead
    else
      let tail := rules.symbols.tail first ahead
      ⟨.symbol, first :: tail, tail⟩
  | none => ⟨.unknown, [first], []⟩

def cut (rules : LexemeRules) (first : Char) (ahead : List Char) : Cut :=
  match rules.commentTail? first ahead with
  | some tail => ⟨.comment, first :: tail, tail⟩
  | none => rules.plainCut first ahead

variable (rules : LexemeRules) (before : List Char) (first : Char) (ahead : List Char)

/-! ### Reading cuts -/

theorem commentTail?_isPrefix {tail : List Char} (h : rules.commentTail? first ahead = some tail) :
    tail <+: ahead := by
  have happend {rest more : List Char} (hr : rest <+: ahead)
      (hm : more <+: ahead.drop rest.length) : rest ++ more <+: ahead :=
    append_isPrefix_of_drop hr hm
  rw [commentTail?, Option.or_eq_some_iff] at h
  rcases h with h | ⟨-, h⟩
  · obtain ⟨opener, -, ho⟩ := List.exists_of_findSome?_eq_some h
    obtain ⟨rest, hrest, rfl⟩ := Option.map_eq_some_iff.mp ho
    exact happend (openerTail?_eq_some hrest).2 (List.takeWhile_prefix _)
  · obtain ⟨pair, -, hp⟩ := List.exists_of_findSome?_eq_some h
    obtain ⟨rest, hrest, rfl⟩ := Option.map_eq_some_iff.mp hp
    exact happend (openerTail?_eq_some hrest).2 (untilClosed_isPrefix _ _ _)

/-- Only a slash opens a comment. -/
theorem commentTail?_of_ne {first : Char} (h : first ≠ '/') (ahead : List Char) :
    formula.commentTail? first ahead = none := by
  simp [commentTail?, formula, slashComments, lineCommentTail?, blockCommentTail?, openerTail?,
    h.symm]

theorem plainCut_isPrefix : (rules.plainCut first ahead).tail <+: ahead := by
  unfold plainCut
  split
  · exact List.takeWhile_prefix _
  · exact numberRest_isPrefix rules first ahead
  · exact List.takeWhile_prefix _
  · exact quotedRest_isPrefix first rules.backslashEscapes ahead
  · split
    · exact numberRest_isPrefix rules first ahead
    · exact rules.symbols.tail_isPrefix first ahead
  · exact List.nil_prefix

theorem cut_isPrefix : (rules.cut first ahead).tail <+: ahead := by
  unfold cut
  split
  · exact rules.commentTail?_isPrefix first ahead ‹_›
  · exact rules.plainCut_isPrefix first ahead

theorem cut_append_drop :
    (rules.cut first ahead).tail ++ ahead.drop (rules.cut first ahead).tail.length = ahead :=
  List.prefix_iff_eq_append.mp (rules.cut_isPrefix first ahead)

/-- A cut that is no comment is a number, a quoted text, or of one of four other kinds. -/
theorem plainCut_cases :
    (rules.plainCut first ahead = rules.numberCut first ahead ∧
      (rules.classOf first = some .number ∨ startsNumber rules first ahead = true)) ∨
    rules.plainCut first ahead = rules.quotedCut first ahead ∨
    (rules.plainCut first ahead).kind ∈
      [LexemeKind.blank, LexemeKind.word, LexemeKind.symbol, LexemeKind.unknown] := by
  rw [plainCut]
  cases hclass : rules.classOf first with
  | none => exact .inr (.inr (by simp))
  | some cls =>
    cases cls with
    | number => exact .inl ⟨rfl, .inl rfl⟩
    | quote => exact .inr (.inl rfl)
    | symbol =>
      dsimp only
      split
      · rename_i hstarts
        exact .inl ⟨rfl, .inr hstarts⟩
      · exact .inr (.inr (by simp))
    | blank => exact .inr (.inr (by simp))
    | word => exact .inr (.inr (by simp))

/-- No cut is of a kind that only a comment or the end of the text has. -/
theorem plainCut_ne {kind : LexemeKind} (h : kind = .ending ∨ kind = .comment) :
    (rules.plainCut first ahead).kind ≠ kind := by
  have hnumber : (rules.numberCut first ahead).kind ≠ kind :=
    numberRest_ne rules first ahead (by rcases h with rfl | rfl <;> rfl)
  rcases rules.plainCut_cases first ahead with ⟨hcut, -⟩ | hcut | hkind
  · rwa [hcut]
  · rw [hcut]
    rcases h with rfl | rfl <;> exact LexemeKind.noConfusion
  · rintro rfl
    rcases h with h | h <;> simp [h] at hkind

theorem cut_kind : (rules.cut first ahead).kind ≠ .ending := by
  rw [cut]
  split
  · exact LexemeKind.noConfusion
  · exact rules.plainCut_ne first ahead (.inl rfl)

/-- Numbers begin with a character of their class, or with a sign or a point in front of a digit. -/
theorem cut_of_isNumber {rules : LexemeRules} {first : Char} {ahead : List Char}
    (h : (rules.cut first ahead).kind.isNumber = true) :
    rules.cut first ahead = rules.numberCut first ahead ∧
      (rules.classOf first = some .number ∨ startsNumber rules first ahead = true) := by
  rw [cut] at h ⊢
  split at h
  · cases h
  · rcases rules.plainCut_cases first ahead with hcut | hcut | hkind
    · exact hcut
    · rw [hcut] at h
      cases h
    · simp only [List.mem_cons, List.not_mem_nil, or_false] at hkind
      rcases hkind with hkind | hkind | hkind | hkind
      all_goals
        rw [hkind] at h
        cases h

theorem readSymbol_between (t : SymbolTable) :
    t.read first (between before ahead) =
      (first :: t.tail first ahead,
        between (before ++ t.tail first ahead) (ahead.drop (t.tail first ahead).length)) := by
  rw [SymbolTable.read, SymbolTable.tail]
  cases hbranch : t.branch? first with
  | none => simp
  | some t =>
    obtain ⟨hbest, hread⟩ := t.walk_bounds ahead (Nat.le_refl 0)
    rw [Nat.zero_add] at hread
    have hl : (ahead.take (t.walk 0 0 ahead).2).length = (t.walk 0 0 ahead).2 :=
      List.length_take_of_le (hbest.trans hread)
    have hsteps := @steps_isPrefix before _ _ (List.take_prefix (t.walk 0 0 ahead).2 ahead)
    rw [hl] at hsteps
    simp only [ahead_between, unread_steps hbest hread, hsteps, hl]

theorem readPlain_between :
    rules.readPlain first (between before ahead) =
      ((rules.plainCut first ahead).kind, (rules.plainCut first ahead).value,
        between (before ++ (rules.plainCut first ahead).tail)
          (ahead.drop (rules.plainCut first ahead).tail.length)) := by
  rw [← steps_isPrefix (rules.plainCut_isPrefix first ahead), readPlain, plainCut]
  cases rules.classOf first with
  | none => rfl
  | some cls =>
    cases cls with
    | symbol =>
      simp only [ahead_between, readSymbol_between]
      split
      · rfl
      · rw [steps_isPrefix (rules.symbols.tail_isPrefix first ahead)]
    | _ => rfl

theorem readLexeme_between :
    rules.readLexeme (between before (first :: ahead)) =
      (⟨(rules.cut first ahead).kind, (rules.cut first ahead).value,
          place (before ++ first :: ahead) before.length⟩,
        between (before ++ first :: (rules.cut first ahead).tail)
          (ahead.drop (rules.cut first ahead).tail.length)) := by
  have hpeek : (between before (first :: ahead)).peek = some first := rfl
  rw [readLexeme, hpeek]
  simp only [step_between, readComment_between, cut]
  cases rules.commentTail? first ahead with
  | some tail => simp [commentCut]
  | none => simp [commentCut, readPlain_between]

variable (bound : Nat)

/-- What is left out apart, the lexemes from here on are the one cut off and those behind it. -/
theorem lexemesFrom_between :
    rules.lexemesFrom (bound + 1) (between before (first :: ahead)) =
      (if rules.skips (rules.cut first ahead).kind then [] else
        [⟨(rules.cut first ahead).kind, (rules.cut first ahead).value,
          place (before ++ first :: ahead) before.length⟩]) ++
      rules.lexemesFrom bound (between (before ++ first :: (rules.cut first ahead).tail)
        (ahead.drop (rules.cut first ahead).tail.length)) := by
  rw [lexemesFrom, readLexeme_between]
  simp only [rules.cut_kind first ahead, if_false]
  split <;> rfl

theorem lexemesFrom_end (before : List Char) :
    rules.lexemesFrom (bound + 1) (between before []) =
      if rules.skips .ending then [] else [⟨.ending, [], place before before.length⟩] := by
  rw [lexemesFrom, readLexeme_end]
  rfl

/-- A lexeme stands where it has been cut off what was still ahead, and the end where nothing was. -/
theorem cut_at_of_mem {rules : LexemeRules} {bound : Nat} {before ahead : List Char} {l : Lexeme}
    (h : l ∈ rules.lexemesFrom bound (between before ahead)) :
    ∃ passed rest, ahead = passed ++ rest ∧
      l.position = place (before ++ ahead) (before ++ passed).length ∧
      (rest = [] ∧ l.kind = .ending ∨ ∃ first more, rest = first :: more ∧
        l.kind = (rules.cut first more).kind ∧ l.value = (rules.cut first more).value) := by
  induction bound generalizing before ahead with
  | zero => exact absurd h List.not_mem_nil
  | succ bound ih =>
    cases ahead with
    | nil =>
      rw [lexemesFrom_end] at h
      split at h
      · exact absurd h List.not_mem_nil
      · rw [List.mem_singleton.mp h]
        exact ⟨[], [], rfl, by simp, .inl ⟨rfl, rfl⟩⟩
    | cons first ahead =>
      rw [lexemesFrom_between] at h
      rcases List.mem_append.mp h with h | h
      · split at h
        · exact absurd h List.not_mem_nil
        · rw [List.mem_singleton.mp h]
          exact ⟨[], first :: ahead, rfl, by simp, .inr ⟨first, ahead, rfl, rfl, rfl⟩⟩
      · obtain ⟨passed, rest, hahead, hposition, hcut⟩ := ih h
        have htext := rules.cut_append_drop first ahead
        rw [hahead] at htext hposition
        refine ⟨first :: (rules.cut first ahead).tail ++ passed, rest, ?_, ?_, hcut⟩
        · rw [List.append_assoc, List.cons_append, htext]
        · have hwhole : before ++ first :: (rules.cut first ahead).tail ++ (passed ++ rest) =
              before ++ first :: ahead := by
            rw [List.append_assoc, List.cons_append, htext]
          rw [hposition, hwhole, List.append_assoc]

/-- A lexeme is the end or has been cut off somewhere. -/
theorem cut_of_mem {rules : LexemeRules} {bound : Nat} {before ahead : List Char} {l : Lexeme}
    (h : l ∈ rules.lexemesFrom bound (between before ahead)) :
    l.kind = .ending ∨ ∃ first more,
      l.kind = (rules.cut first more).kind ∧ l.value = (rules.cut first more).value := by
  obtain ⟨-, -, -, -, ⟨-, hend⟩ | ⟨first, more, -, hcut⟩⟩ := cut_at_of_mem h
  · exact .inl hend
  · exact .inr ⟨first, more, hcut⟩

/-- Of what is before, only the places matter. -/
theorem lexemesFrom_congr_before {rules : LexemeRules} {bound : Nat}
    {before before' ahead : List Char} (hlength : before.length = before'.length)
    (hplace : place (before ++ ahead) = place (before' ++ ahead)) :
    rules.lexemesFrom bound (between before ahead) =
      rules.lexemesFrom bound (between before' ahead) := by
  induction bound generalizing before before' ahead with
  | zero => rfl
  | succ bound ih =>
    cases ahead with
    | nil =>
      rw [List.append_nil, List.append_nil] at hplace
      rw [lexemesFrom, lexemesFrom, readLexeme_end, readLexeme_end, hlength, hplace]
      rfl
    | cons first ahead =>
      have htext (earlier : List Char) :
          earlier ++ first :: (rules.cut first ahead).tail ++
            ahead.drop (rules.cut first ahead).tail.length = earlier ++ first :: ahead := by
        rw [List.append_assoc, List.cons_append, rules.cut_append_drop]
      rw [lexemesFrom_between, lexemesFrom_between, hlength, hplace]
      refine congrArg _ (ih ?_ ?_)
      · simp only [List.length_append, hlength]
      · rw [htext, htext, hplace]

end LexemeRules

end Reckon
