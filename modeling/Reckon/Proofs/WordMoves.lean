import Mathlib.Algebra.Group.Nat.Defs
import Reckon.Proofs.Replay

/-!
# Moving a cursor in words

A cursor counts without bound, but offsets, lines and columns are words of 64 bits. Here every sum
and difference of a move is checked: sums that no word holds and differences below zero are refused.
In a text that memory can hold no move is refused but a look ahead to an offset that no word holds,
and that look is the one that fails.
-/

namespace Reckon

/-! ### Moves that refuse what no word holds -/

def sumInWord? (m n : Nat) : Option Nat :=
  if m + n < 2 ^ 64 then some (m + n) else none

def differenceInWord? (m n : Nat) : Option Nat :=
  if n ≤ m then some (m - n) else none

theorem sumInWord?_eq {m n : Nat} (h : m + n < 2 ^ 64) : sumInWord? m n = some (m + n) :=
  if_pos h

theorem differenceInWord?_eq {m n : Nat} (h : n ≤ m) : differenceInWord? m n = some (m - n) :=
  if_pos h

def Position.pastInWords? (p : Position) (c : Char) (next : Option Char) : Option Position :=
  if endsLine c next then do some ⟨← sumInWord? p.line 1, 1⟩
  else do some ⟨p.line, ← sumInWord? p.column 1⟩

namespace Cursor

def stepInWords? (c : Cursor) : Option Cursor :=
  match c.ahead with
  | [] => some c
  | d :: rest => do
    let next ← c.next.pastInWords? d rest.head?
    let _ ← sumInWord? c.offset 1
    some ⟨d :: c.behind, rest, c.next, next⟩

def stepsInWords? : Nat → Cursor → Option Cursor
  | 0, c => some c
  | n + 1, c => do stepsInWords? n (← c.stepInWords?)

def peekNthInWords? (c : Cursor) (n : UInt64) : Option (Option Char) := do
  some c.text[← sumInWord? c.offset n.toNat]?

/-- The characters that may end lines stand at offsets no greater than that of the cursor. -/
def unreadInWords? (c : Cursor) (n : Nat) : Option Cursor :=
  let back := c.behind.take n
  if back.isEmpty then some c
  else do
    let target ← differenceInWord? c.offset back.length
    if anyEndsLine (c.behind.take (n + 1)) c.ahead.head? then c.reset.stepsInWords? target
    else
      let column ← differenceInWord? c.next.column back.length
      let lastColumn ← differenceInWord? column 1
      some ⟨c.behind.drop n, back.reverse ++ c.ahead, ⟨c.next.line, lastColumn⟩,
        ⟨c.next.line, column⟩⟩

end Cursor

namespace CursorMove

def performInWords? (c : Cursor) : CursorMove → Option (Option Char × Cursor)
  | read => do some (c.peek, ← c.stepInWords?)
  | peek => some (c.peek, c)
  | peekNth n => do some (← c.peekNthInWords? n, c)
  | unread => do some (none, ← c.unreadInWords? 1)
  | unreadMany n => do some (none, ← c.unreadInWords? n)
  | reset => some (none, c.reset)

def LooksInWords (offset : Nat) : CursorMove → Prop
  | peekNth n => offset + n.toNat < 2 ^ 64
  | _ => True

end CursorMove

/-- A move that is refused leaves the cursor where it is. -/
def Cursor.afterMovesInWords (c : Cursor) (moves : List CursorMove) : Cursor :=
  moves.foldl (fun c move => ((move.performInWords? c).map Prod.snd).getD c) c

open Cursor

variable {before ahead : List Char}

/-! ### Places fit in words -/

theorem place_bounds (text : List Char) (n : Nat) :
    (place text n).line ≤ n + 1 ∧ (place text n).column ≤ n + 1 ∧ 0 < (place text n).column := by
  induction n with
  | zero => exact ⟨Nat.le_refl _, Nat.le_refl _, Nat.one_pos⟩
  | succ n ih =>
    rw [place_succ]
    split
    all_goals
      dsimp only
      omega

theorem Position.pastInWords?_eq {p : Position} (hline : p.line + 1 < 2 ^ 64)
    (hcolumn : p.column + 1 < 2 ^ 64) (c : Char) (next : Option Char) :
    p.pastInWords? c next = some (p.past c next) := by
  rw [pastInWords?, past, sumInWord?_eq hline, sumInWord?_eq hcolumn]
  split
  · rfl
  · rfl

namespace Cursor

theorem stepInWords?_between (h : (before ++ ahead).length < 2 ^ 63) :
    (between before ahead).stepInWords? = some (between before ahead).step := by
  cases ahead with
  | nil => rfl
  | cons c ahead =>
    obtain ⟨hline, hcolumn, -⟩ := place_bounds (before ++ c :: ahead) before.length
    rw [List.length_append, List.length_cons] at h
    rw [stepInWords?]
    simp only [ahead_between, next_between, offset_between]
    rw [Position.pastInWords?_eq (by omega) (by omega), sumInWord?_eq (by omega)]
    rfl

theorem stepsInWords?_between (h : (before ++ ahead).length < 2 ^ 63) (n : Nat) :
    (between before ahead).stepsInWords? n = some ((between before ahead).steps n) := by
  induction n generalizing before ahead with
  | zero => rfl
  | succ n ih =>
    rw [stepsInWords?, steps, stepInWords?_between h]
    cases ahead with
    | nil => exact ih h
    | cons c ahead =>
      rw [step_between]
      rw [List.append_cons] at h
      exact ih h

/-- On a line that does not end among the characters behind, the column counts them all. -/
theorem length_lt_column (n : Nat) (h : anyEndsLine (before.reverse.take n) ahead.head? = false) :
    (before.reverse.take n).length < (place (before ++ ahead) before.length).column := by
  obtain ⟨kept, passed, rfl, hback⟩ : ∃ kept passed : List Char,
      before = kept ++ passed ∧ before.reverse.take n = passed.reverse :=
    ⟨_, _, (List.take_append_drop _ _).symm, List.take_reverse⟩
  rw [hback] at h ⊢
  have hplace := @place_of_anyEndsLine kept _ _ h
  obtain ⟨-, -, hpos⟩ := place_bounds (kept ++ passed ++ ahead) kept.length
  rw [List.reverse_reverse, List.length_reverse] at hplace
  rw [List.length_reverse, List.length_append, hplace]
  exact Nat.lt_add_of_pos_left hpos

theorem unreadInWords?_between (h : (before ++ ahead).length < 2 ^ 63) (n : Nat) :
    (between before ahead).unreadInWords? n = some ((between before ahead).unread n) := by
  have hbehind : (between before ahead).behind = before.reverse := rfl
  have hback : (before.reverse.take n).length ≤ before.length := by
    rw [List.length_take, List.length_reverse]
    exact Nat.min_le_right _ _
  rw [unreadInWords?, unread]
  simp only [hbehind, offset_between, ahead_between, next_between, List.length_reverse,
    differenceInWord?_eq hback, Option.bind_eq_bind, Option.bind_some]
  split
  · rfl
  split
  · rw [reset_between]
    exact @stepsInWords?_between [] _ h _
  · rename_i hends
    rw [Bool.not_eq_true, List.take_add] at hends
    -- no line ends among the characters moved over, so their column is greater than their number
    have hcolumn := length_lt_column n (anyEndsLine_of_append hends)
    have hlast := Nat.sub_pos_of_lt hcolumn
    simp only [differenceInWord?_eq hcolumn.le, differenceInWord?_eq hlast, Option.bind_some]

/-! ### Looking ahead -/

theorem peekNth_between (before ahead : List Char) {n : UInt64}
    (h : before.length + n.toNat < 2 ^ 64) :
    (between before ahead).peekNth n = some (before ++ ahead)[before.length + n.toNat]? := by
  rw [peekNth, offset_between, ahead_between, List.getElem?_append_right (Nat.le_add_right _ _),
    Nat.add_sub_cancel_left]
  exact if_pos h

theorem peekNth_eq_none_iff {c : Cursor} {n : UInt64} :
    c.peekNth n = none ↔ 2 ^ 64 ≤ c.offset + n.toNat := by
  have hsize : UInt64.size = 2 ^ 64 := rfl
  rw [peekNth, ite_eq_right_iff, ← not_lt, hsize]
  exact ⟨fun h hfits => Option.some_ne_none _ (h hfits), fun h hfits => absurd hfits h⟩

theorem peekNthInWords?_between (before ahead : List Char) (n : UInt64) :
    (between before ahead).peekNthInWords? n = (between before ahead).peekNth n := by
  rw [peekNthInWords?, offset_between, text_between]
  by_cases hlook : before.length + n.toNat < 2 ^ 64
  · rw [sumInWord?_eq hlook, peekNth_between before ahead hlook]
    rfl
  · rw [sumInWord?, if_neg hlook,
      peekNth_eq_none_iff.mpr (offset_between before ahead ▸ not_lt.mp hlook)]
    rfl

end Cursor

/-! ### Any move -/

namespace CursorMove

theorem perform_fst_isSome_iff {move : CursorMove} {c : Cursor} :
    (move.perform c).1.isSome ↔ move.LooksInWords c.offset := by
  cases move with
  | peekNth n =>
    rw [Option.isSome_iff_ne_none, ne_eq, perform, peekNth_eq_none_iff, not_le]
    rfl
  | _ => exact iff_of_true rfl trivial

/-- A move is refused in words where it fails, and is made as it is without words elsewhere. -/
theorem performInWords?_between (h : (before ++ ahead).length < 2 ^ 63) (move : CursorMove) :
    move.performInWords? (between before ahead) =
      (move.perform (between before ahead)).1.map (·, (move.perform (between before ahead)).2) := by
  cases move with
  | read =>
    rw [performInWords?, stepInWords?_between h]
    rfl
  | peek => rfl
  | peekNth n =>
    rw [performInWords?, peekNthInWords?_between, perform]
    cases (between before ahead).peekNth n with
    | none => rfl
    | some looked => rfl
  | unread =>
    rw [performInWords?, unreadInWords?_between h]
    rfl
  | unreadMany n =>
    rw [performInWords?, unreadInWords?_between h]
    rfl
  | reset => rfl

theorem perform_of_fails {move : CursorMove} {c : Cursor} (h : (move.perform c).1 = none) :
    (move.perform c).2 = c := by
  cases move with
  | peekNth n => rfl
  | _ => exact nomatch h

theorem moved_in_words (h : (before ++ ahead).length < 2 ^ 63) (move : CursorMove) :
    ((move.performInWords? (between before ahead)).map Prod.snd).getD (between before ahead) =
      (move.perform (between before ahead)).2 := by
  rw [performInWords?_between h]
  cases hanswer : (move.perform (between before ahead)).1 with
  | none => exact (perform_of_fails hanswer).symm
  | some answer => rfl

end CursorMove

namespace Cursor

theorem afterMovesInWords_between (h : (before ++ ahead).length < 2 ^ 63)
    (moves : List CursorMove) :
    (between before ahead).afterMovesInWords moves = (between before ahead).afterMoves moves := by
  induction moves generalizing before ahead with
  | nil => rfl
  | cons move moves ih =>
    obtain ⟨before', ahead', hmove, htext, -⟩ := perform_between before ahead move
    rw [← htext] at h
    have hmoves := ih h
    rw [afterMovesInWords, afterMoves, List.foldl_cons, List.foldl_cons,
      CursorMove.moved_in_words (htext ▸ h), hmove]
    exact hmoves

end Cursor

/-- No text in memory has as many as 2 ^ 63 characters. Moved in words, a cursor comes to where it
comes without them, and its next move is refused where it fails and only there: where it looks at an
offset that no word holds. Any other look finds the character so many places after the next one. -/
theorem moves_in_words {text : List Char} (h : text.length < 2 ^ 63) (moves : List CursorMove) :
    let c := (ofText text).afterMoves moves
    (ofText text).afterMovesInWords moves = c ∧
      (∀ move : CursorMove,
        move.performInWords? c = (move.perform c).1.map (·, (move.perform c).2) ∧
          ((move.perform c).1.isSome ↔ move.LooksInWords c.offset)) ∧
      ∀ n : UInt64,
        (c.offset + n.toNat < 2 ^ 64 → c.peekNth n = some text[c.offset + n.toNat]?) ∧
          (c.peekNth n = none ↔ 2 ^ 64 ≤ c.offset + n.toNat) := by
  obtain ⟨before, ahead, hc, rfl, -⟩ := afterMoves_between [] text moves
  have hwords := @afterMovesInWords_between [] (before ++ ahead) h moves
  rw [between_nil] at hc hwords
  dsimp only
  rw [hwords, hc]
  refine ⟨rfl, fun move => ⟨CursorMove.performInWords?_between h move,
    CursorMove.perform_fst_isSome_iff⟩, fun n => ⟨fun hfits => ?_, peekNth_eq_none_iff⟩⟩
  rw [offset_between] at hfits ⊢
  exact peekNth_between before ahead hfits

/-- Moving back over one character only counts columns, and moving back over two replays the text,
as there is the end of a line right in front of them. -/
theorem moves_in_words_behind_break :
    let text := ['a', '\r', '\n', 'b', 'c']
    let c := (ofText text).afterMoves [.read, .read, .read, .read, .read]
    text.length < 2 ^ 63 ∧
      (CursorMove.unreadMany 1).performInWords? c =
        some (none, ⟨['b', '\n', '\r', 'a'], ['c'], ⟨2, 1⟩, ⟨2, 2⟩⟩) ∧
      (CursorMove.unreadMany 2).performInWords? c =
        some (none, ⟨['\n', '\r', 'a'], ['b', 'c'], ⟨1, 3⟩, ⟨2, 1⟩⟩) := by
  have hlength : ['a', '\r', '\n', 'b', 'c'].length < 2 ^ 63 := by decide
  obtain ⟨-, hmoves, -⟩ := moves_in_words hlength [.read, .read, .read, .read, .read]
  exact ⟨hlength, (hmoves _).1, (hmoves _).1⟩

/-- Behind one character the greatest look ahead fails, where there is no character to find. -/
theorem greatest_look_fails :
    (¬∀ (text : List Char) (moves : List CursorMove) (move : CursorMove), text.length < 2 ^ 63 →
      (move.performInWords? ((ofText text).afterMoves moves)).isSome) ∧
    ¬∀ (text : List Char) (moves : List CursorMove) (n : UInt64), text.length < 2 ^ 63 →
      ((ofText text).afterMoves moves).peekNth n =
        some ((ofText text).afterMoves moves).ahead[n.toNat]? := by
  constructor
  · intro h
    have hlook := h ['a', 'b'] [.read] (.peekNth 18446744073709551615) (by decide)
    exact absurd hlook (by decide)
  · intro h
    have hlook := h ['a', 'b'] [.read] 18446744073709551615 (by decide)
    exact absurd hlook (by decide)

end Reckon
