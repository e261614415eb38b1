import Mathlib.Data.List.Basic
import Mathlib.Data.List.TakeWhile
import Reckon.Cursor

/-!
# Places in a text

The line of a character is one more than the line ends before it, and its column one more than the
characters since the last of them. A cursor between two parts of a text knows the places on both its
sides, whether it came there by passing characters, by moving back or by looking for a text in vain.
-/

namespace Reckon

def breaksAt (text : List Char) (i : Nat) : Bool :=
  text[i]? == some '\n' || (text[i]? == some '\r' && text[i + 1]? != some '\n')

/-- The place of the character with so many before it, or of the end. -/
def place (text : List Char) (n : Nat) : Position :=
  ⟨1 + (List.range n).countP (breaksAt text),
    1 + ((List.range n).reverse.takeWhile fun i => !breaksAt text i).length⟩

theorem place_succ (text : List Char) (n : Nat) :
    place text (n + 1) =
      if breaksAt text n then ⟨(place text n).line + 1, 1⟩
      else ⟨(place text n).line, (place text n).column + 1⟩ := by
  by_cases hb : breaksAt text n
  · simp [place, List.range_succ, hb, Nat.add_assoc]
  · simp [place, List.range_succ, hb, Nat.add_assoc]

theorem breaksAt_length (before : List Char) (c : Char) (rest : List Char) :
    breaksAt (before ++ c :: rest) before.length = endsLine c rest.head? := by
  have hc : (before ++ c :: rest)[before.length]? = some c := by simp
  have hn : (before ++ c :: rest)[before.length + 1]? = rest.head? := by
    rw [List.getElem?_append_right (Nat.le_add_right _ 1), Nat.add_sub_cancel_left,
      List.getElem?_cons_succ, List.head?_eq_getElem?]
  simp only [breaksAt, endsLine, hc, hn, Option.some_beq_some]

theorem place_past (before : List Char) (c : Char) (rest : List Char) :
    place (before ++ c :: rest) (before.length + 1) =
      (place (before ++ c :: rest) before.length).past c rest.head? := by
  rw [place_succ, breaksAt_length, Position.past]

/-- Later characters stand on a later line, or in a later column of the same one. -/
theorem place_lt (text : List Char) {m n : Nat} (h : m < n) :
    (place text m).line < (place text n).line ∨
      (place text m).line = (place text n).line ∧
        (place text m).column < (place text n).column := by
  induction n, h using Nat.le_induction with
  | base =>
    rw [place_succ]
    split
    · exact .inl (Nat.lt_succ_self _)
    · exact .inr ⟨rfl, Nat.lt_succ_self _⟩
  | succ n _ ih =>
    rw [place_succ]
    split
    · refine .inl (Nat.lt_succ_of_le ?_)
      rcases ih with hline | ⟨hline, _⟩
      · exact hline.le
      · exact hline.le
    · exact ih.imp_right fun ⟨hline, hcolumn⟩ => ⟨hline, Nat.lt_succ_of_lt hcolumn⟩

theorem place_injective (text : List Char) : Function.Injective (place text) := by
  intro m n h
  by_contra hne
  rcases Nat.lt_or_gt_of_ne hne with hlt | hlt
  all_goals
    have := place_lt text hlt
    rw [h] at this
    omega

/-! ### Lines without an end -/

theorem anyEndsLine_of_append {nearest further : List Char} {next : Option Char}
    (h : anyEndsLine (nearest ++ further) next = false) : anyEndsLine nearest next = false := by
  induction nearest generalizing next with
  | nil => rfl
  | cons c nearest ih =>
    rw [List.cons_append, anyEndsLine, Bool.or_eq_false_iff] at h
    rw [anyEndsLine, h.1, ih h.2, Bool.or_self]

/-- Where no line ends only columns are counted. -/
theorem place_of_anyEndsLine {before nearest ahead : List Char}
    (h : anyEndsLine nearest ahead.head? = false) :
    place (before ++ nearest.reverse ++ ahead) (before.length + nearest.length) =
      ⟨(place (before ++ nearest.reverse ++ ahead) before.length).line,
        (place (before ++ nearest.reverse ++ ahead) before.length).column + nearest.length⟩ := by
  induction nearest generalizing ahead with
  | nil => rfl
  | cons c nearest ih =>
    rw [anyEndsLine, Bool.or_eq_false_iff] at h
    have hp := place_past (before ++ nearest.reverse) c ahead
    have hl : (before ++ nearest.reverse).length = before.length + nearest.length := by
      rw [List.length_append, List.length_reverse]
    have ht : before ++ (c :: nearest).reverse ++ ahead =
        before ++ nearest.reverse ++ c :: ahead := by simp
    rw [hl, Position.past, h.1, @ih (c :: ahead) h.2] at hp
    rw [ht, List.length_cons, ← Nat.add_assoc, hp]
    rfl

/-! ### Cursors between two parts of a text -/

namespace Cursor

def lastPlace (text : List Char) : Nat → Position
  | 0 => .beforeStart
  | n + 1 => place text n

def between (before ahead : List Char) : Cursor :=
  ⟨before.reverse, ahead, lastPlace (before ++ ahead) before.length,
    place (before ++ ahead) before.length⟩

@[simp] theorem ahead_between (before ahead : List Char) :
    (between before ahead).ahead = ahead := rfl

@[simp] theorem next_between (before ahead : List Char) :
    (between before ahead).next = place (before ++ ahead) before.length := rfl

theorem between_nil (text : List Char) : between [] text = ofText text := rfl

theorem text_between (before ahead : List Char) :
    (between before ahead).text = before ++ ahead := by
  rw [text, between, List.reverse_reverse]

theorem step_between (before : List Char) (c : Char) (ahead : List Char) :
    (between before (c :: ahead)).step = between (before ++ [c]) ahead := by
  have ht : before ++ [c] ++ ahead = before ++ c :: ahead := List.append_cons ..  |>.symm
  simp only [step, between, List.reverse_append, List.reverse_singleton, List.singleton_append, ht,
    List.length_append, List.length_singleton, lastPlace, place_past]

theorem steps_between (before passed ahead : List Char) :
    (between before (passed ++ ahead)).steps passed.length = between (before ++ passed) ahead := by
  induction passed generalizing before with
  | nil => rw [List.append_nil]; rfl
  | cons c passed ih =>
    rw [List.cons_append, List.length_cons, steps, step_between, ih, ← List.append_cons]

theorem reset_between (before ahead : List Char) :
    (between before ahead).reset = between [] (before ++ ahead) := by
  rw [reset, text_between, between_nil]

theorem lastPlace_of_anyEndsLine {before passed ahead : List Char}
    (h : anyEndsLine (passed.reverse ++ before.reverse.take 1) ahead.head? = false) :
    lastPlace (before ++ passed ++ ahead) before.length =
      ⟨(place (before ++ passed ++ ahead) before.length).line,
        (place (before ++ passed ++ ahead) before.length).column - 1⟩ := by
  rcases List.eq_nil_or_concat' before with rfl | ⟨earlier, c, rfl⟩
  · rfl
  · rw [List.reverse_append, List.reverse_singleton, List.singleton_append, List.take_succ_cons,
      List.take_zero] at h
    have hnear := @place_of_anyEndsLine (earlier ++ [c]) _ _ (anyEndsLine_of_append h)
    have hfar := @place_of_anyEndsLine earlier _ _ h
    have ht : earlier ++ (passed.reverse ++ [c]).reverse ++ ahead =
        earlier ++ [c] ++ passed ++ ahead := by simp
    have hl : earlier.length + (passed.reverse ++ [c]).length =
        (earlier ++ [c]).length + passed.reverse.length := by
      simp only [List.length_append, List.length_reverse, List.length_singleton]
      omega
    rw [ht, hl] at hfar
    rw [List.reverse_reverse, hfar] at hnear
    obtain ⟨hline, hcolumn⟩ := Position.mk.inj hnear
    have hlast : (place (earlier ++ [c] ++ passed ++ ahead) earlier.length).column =
        (place (earlier ++ [c] ++ passed ++ ahead) (earlier ++ [c]).length).column - 1 := by
      simp only [List.length_append, List.length_reverse, List.length_singleton] at hcolumn ⊢
      omega
    rw [← hline, ← hlast, List.length_append, List.length_singleton, lastPlace]

/-- Moving back comes to where the characters were still ahead; not even a longer way back goes
farther than to the front. -/
theorem unread_between (before passed ahead : List Char) (n : Nat)
    (hn : passed.length = n ∨ before = [] ∧ passed.length ≤ n) :
    (between (before ++ passed) ahead).unread n = between before (passed ++ ahead) := by
  have hbehind : (between (before ++ passed) ahead).behind = passed.reverse ++ before.reverse :=
    List.reverse_append
  have hback : (passed.reverse ++ before.reverse).take n = passed.reverse := by
    rcases hn with rfl | ⟨rfl, hn⟩
    · exact List.take_left' List.length_reverse
    · rw [List.reverse_nil, List.append_nil, List.take_of_length_le]
      rwa [List.length_reverse]
  have hfront : (passed.reverse ++ before.reverse).drop n = before.reverse := by
    rcases hn with rfl | ⟨rfl, hn⟩
    · exact List.drop_left' List.length_reverse
    · rw [List.reverse_nil, List.append_nil, List.drop_of_length_le]
      rwa [List.length_reverse]
  by_cases hp : passed = []
  · subst hp
    rw [unread, hbehind, hback]
    simp
  · have hne : ¬passed.reverse.isEmpty := by simpa using hp
    rw [unread, hbehind, List.take_add, hback, hfront, if_neg hne]
    split
    · have hl : (passed.reverse ++ before.reverse).length - passed.reverse.length =
          before.length := by
        simp
      rw [hl, reset_between, List.append_assoc]
      exact steps_between [] before (passed ++ ahead)
    · rename_i hends
      rw [Bool.not_eq_true, ahead_between] at hends
      have hnext := @place_of_anyEndsLine before _ _ (anyEndsLine_of_append hends)
      have hl : (before ++ passed).length = before.length + passed.reverse.length := by
        rw [List.length_append, List.length_reverse]
      rw [List.reverse_reverse] at hnext
      simp only [next_between, ahead_between]
      rw [hl, hnext, Nat.add_sub_cancel, List.reverse_reverse, between, ← List.append_assoc,
        lastPlace_of_anyEndsLine hends]

theorem unread_steps {before ahead : List Char} {m n : Nat} (hm : m ≤ n) (hn : n ≤ ahead.length) :
    ((between before ahead).steps n).unread (n - m) = (between before ahead).steps m := by
  obtain ⟨kept, back, rest, rfl, rfl, rfl⟩ : ∃ kept back rest : List Char,
      ahead = kept ++ (back ++ rest) ∧ m = kept.length ∧ n = (kept ++ back).length := by
    refine ⟨ahead.take m, (ahead.drop m).take (n - m), ahead.drop n, ?_, ?_, ?_⟩
    · have hd : (ahead.drop m).drop (n - m) = ahead.drop n := by
        rw [List.drop_drop, Nat.add_sub_cancel' hm]
      rw [← hd, List.take_append_drop, List.take_append_drop]
    · rw [List.length_take_of_le (hm.trans hn)]
    · simp only [List.length_append, List.length_take, List.length_drop]
      omega
  have hl : (kept ++ back).length - kept.length = back.length := by simp
  have hsteps := steps_between before (kept ++ back) rest
  rw [List.append_assoc] at hsteps
  rw [hsteps, hl, ← List.append_assoc, unread_between _ back rest _ (.inl rfl), steps_between]

/-! ### Looking for a text -/

theorem followsAfter_append (passed : Nat) (before expected rest : List Char) :
    followsAfter passed expected (between before (expected ++ rest)) =
      (true, between (before ++ expected) rest) := by
  induction expected generalizing passed before with
  | nil => rw [List.append_nil]; rfl
  | cons c expected ih =>
    rw [List.cons_append, followsAfter]
    simp only [peek, ahead_between, List.head?_cons, if_true]
    rw [step_between, ih, ← List.append_cons]

theorem followsAfter_of_not_isPrefix {expected ahead : List Char} (before passed : List Char)
    (h : ¬expected <+: ahead) :
    followsAfter passed.length expected (between (before ++ passed) ahead) =
      (false, between before (passed ++ ahead)) := by
  induction expected generalizing passed ahead with
  | nil => exact absurd List.nil_prefix h
  | cons c expected ih =>
    cases ahead with
    | nil =>
      rw [followsAfter]
      simp only [peek, ahead_between, List.head?_nil]
      rw [unread_between before passed [] passed.length (.inl rfl)]
    | cons d ahead =>
      have hl : (passed ++ [d]).length = passed.length + 1 := List.length_append
      have ht : passed ++ d :: ahead = passed ++ [d] ++ ahead := List.append_cons ..
      rw [followsAfter]
      simp only [peek, ahead_between, List.head?_cons]
      rw [step_between, List.append_assoc, ← hl, ht]
      split
      · rename_i hd
        subst hd
        have hrest : ¬expected <+: ahead := by simpa using h
        exact ih (passed ++ [d]) hrest
      · rw [unread_between before (passed ++ [d]) ahead _ (.inl rfl)]

theorem follows_append (before expected rest : List Char) :
    (between before (expected ++ rest)).follows expected =
      (true, between (before ++ expected) rest) :=
  followsAfter_append 0 before expected rest

/-- Whatever was passed before the first difference, the cursor comes back to where it stood. -/
theorem follows_of_not_isPrefix {expected ahead : List Char} (before : List Char)
    (h : ¬expected <+: ahead) :
    (between before ahead).follows expected = (false, between before ahead) := by
  have hf := followsAfter_of_not_isPrefix before [] h
  rwa [List.append_nil] at hf

end Cursor

end Reckon
