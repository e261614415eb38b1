import Reckon.Proofs.Places

/-!
# Moving a cursor and replaying the text

A cursor may be moved forward, back and to the front in any order. All that matters of its history
is how many characters are behind it in the end: it is the cursor that has passed so many characters
of the text and made no other move. That holds of a single move back as well, whether or not it only
counts columns, and so a cursor that looks for a text in vain has not moved at all.
-/

namespace Reckon

open Cursor

inductive CursorMove where
  | read
  | peek
  | peekNth (n : UInt64)
  | unread
  | unreadMany (n : Nat)
  | reset

namespace CursorMove

/-- The character a cursor answers, if any, and where it stands afterwards. A move that fails has no
answer at all, and the cursor stands where it stood. -/
def perform (c : Cursor) : CursorMove → Option (Option Char) × Cursor
  | read => (some c.peek, c.step)
  | peek => (some c.peek, c)
  | peekNth n => (c.peekNth n, c)
  | unread => (some none, c.unread 1)
  | unreadMany n => (some none, c.unread n)
  | reset => (some none, c.reset)

def offsetAfter (length : Nat) (offset : Nat) : CursorMove → Nat
  | read => min (offset + 1) length
  | peek | peekNth _ => offset
  | unread => offset - 1
  | unreadMany n => offset - n
  | reset => 0

end CursorMove

namespace Cursor

def afterMoves (c : Cursor) (moves : List CursorMove) : Cursor :=
  moves.foldl (fun c move => (move.perform c).2) c

def afterReads (text : List Char) (n : Nat) : Cursor :=
  (ofText text).afterMoves (List.replicate n .read)

theorem afterMoves_replicate_read (c : Cursor) (n : Nat) :
    c.afterMoves (List.replicate n .read) = c.steps n := by
  induction n generalizing c with
  | zero => rfl
  | succ n ih => exact ih c.step

theorem afterReads_length (before ahead : List Char) :
    afterReads (before ++ ahead) before.length = between before ahead := by
  rw [afterReads, afterMoves_replicate_read]
  exact steps_between [] before ahead

theorem offset_between (before ahead : List Char) :
    (between before ahead).offset = before.length :=
  List.length_reverse

/-- However long the way back is asked to be, it ends at the front. -/
theorem unread_between_sub (before ahead : List Char) (n : Nat) :
    (between before ahead).unread n =
      between (before.take (before.length - n)) (before.drop (before.length - n) ++ ahead) := by
  have hn : (before.drop (before.length - n)).length = n ∨
      before.take (before.length - n) = [] ∧ (before.drop (before.length - n)).length ≤ n := by
    rcases Nat.le_total n before.length with hle | hle
    · left
      rw [List.length_drop, Nat.sub_sub_self hle]
    · right
      rw [Nat.sub_eq_zero_of_le hle, List.take_zero, List.drop_zero]
      exact ⟨rfl, hle⟩
  have hunread := unread_between (before.take (before.length - n))
    (before.drop (before.length - n)) ahead n hn
  rwa [List.take_append_drop] at hunread

/-- A move leaves the text as it is and the cursor between two parts of it. -/
theorem perform_between (before ahead : List Char) (move : CursorMove) :
    ∃ before' ahead', (move.perform (between before ahead)).2 = between before' ahead' ∧
      before' ++ ahead' = before ++ ahead ∧
      before'.length = move.offsetAfter (before ++ ahead).length before.length := by
  have hback (n : Nat) : ∃ before' ahead',
      (between before ahead).unread n = between before' ahead' ∧
      before' ++ ahead' = before ++ ahead ∧ before'.length = before.length - n := by
    refine ⟨_, _, unread_between_sub before ahead n, ?_, ?_⟩
    · rw [← List.append_assoc, List.take_append_drop]
    · rw [List.length_take_of_le (Nat.sub_le _ _)]
  cases move with
  | read =>
    cases ahead with
    | nil => exact ⟨before, [], rfl, rfl, by simp [CursorMove.offsetAfter]⟩
    | cons c ahead =>
      refine ⟨before ++ [c], ahead, step_between before c ahead, (List.append_cons ..).symm, ?_⟩
      simp only [CursorMove.offsetAfter, List.length_append, List.length_cons, List.length_nil]
      omega
  | peek | peekNth => exact ⟨before, ahead, rfl, rfl, rfl⟩
  | unread => exact hback 1
  | unreadMany n => exact hback n
  | reset => exact ⟨[], before ++ ahead, reset_between before ahead, rfl, rfl⟩

theorem afterMoves_between (before ahead : List Char) (moves : List CursorMove) :
    ∃ before' ahead', (between before ahead).afterMoves moves = between before' ahead' ∧
      before' ++ ahead' = before ++ ahead ∧
      before'.length =
        moves.foldl (CursorMove.offsetAfter (before ++ ahead).length) before.length := by
  induction moves generalizing before ahead with
  | nil => exact ⟨before, ahead, rfl, rfl, rfl⟩
  | cons move moves ih =>
    obtain ⟨before₁, ahead₁, hmove, htext, hlen⟩ := perform_between before ahead move
    obtain ⟨before₂, ahead₂, hmoves, htext₂, hlen₂⟩ := ih before₁ ahead₁
    rw [htext] at htext₂ hlen₂
    refine ⟨before₂, ahead₂, ?_, htext₂, ?_⟩
    · rw [← hmoves, ← hmove]
      rfl
    · rw [hlen₂, hlen, List.foldl_cons]

/-- After any moves a cursor is the one that has passed as many characters as are behind it, and so
it is after a further move back. -/
theorem afterMoves_eq_afterReads (text : List Char) (moves : List CursorMove) :
    let c := (ofText text).afterMoves moves
    c.offset = moves.foldl (CursorMove.offsetAfter text.length) 0 ∧
      c = afterReads text c.offset ∧
      ∀ n, c.unread n = afterReads text (c.offset - n) := by
  obtain ⟨before, ahead, hc, rfl, hlen⟩ := afterMoves_between [] text moves
  rw [between_nil] at hc
  dsimp only
  rw [hc, offset_between]
  refine ⟨hlen, (afterReads_length before ahead).symm, fun n => ?_⟩
  have hback := afterReads_length (before.take (before.length - n))
    (before.drop (before.length - n) ++ ahead)
  rw [← List.append_assoc, List.take_append_drop,
    List.length_take_of_le (Nat.sub_le _ _)] at hback
  rw [unread_between_sub, hback]

example :
    ((ofText ['a', '\r', '\n', 'b']).afterMoves [.read, .read, .read, .read, .unreadMany 3]).next =
      ⟨1, 2⟩ := by
  decide

/-- After any moves a text is found if and only if it comes next. Then the cursor is the one that has
passed just that text too, and otherwise it is the one it was, whether a character differed or the end
came too early. -/
theorem follows_after_moves (text : List Char) (moves : List CursorMove) (expected : List Char) :
    let c := (ofText text).afterMoves moves
    let (found, d) := c.follows expected
    (found = true ↔ expected <+: c.ahead) ∧
      (found = true → c.ahead = expected ++ d.ahead ∧
        d = afterReads text (c.offset + expected.length)) ∧
      (found = false → d = c) := by
  obtain ⟨before, ahead, hc, rfl, -⟩ := afterMoves_between [] text moves
  rw [between_nil] at hc
  dsimp only
  rw [hc]
  by_cases hnext : expected <+: ahead
  · obtain ⟨rest, rfl⟩ := hnext
    have hpassed := afterReads_length (before ++ expected) rest
    rw [List.append_assoc, List.length_append] at hpassed
    rw [follows_append, offset_between]
    exact ⟨iff_of_true rfl (List.prefix_append expected rest), fun _ => ⟨rfl, hpassed.symm⟩, nofun⟩
  · rw [follows_of_not_isPrefix before hnext]
    exact ⟨iff_of_false nofun hnext, nofun, fun _ => rfl⟩

end Cursor

end Reckon
