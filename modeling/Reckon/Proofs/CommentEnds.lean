import Mathlib.Data.Nat.Find
import Reckon.Proofs.Cuts

/-!
# Where comments end

A comment begins where an opener comes next, the first of them in the order of the rules, and those
of line comments before those of block comments. A line comment goes on to the end of its line. A
block comment goes on to the end of the first closer behind its opener, of which no character may
belong to the opener, and to the end of the text if there is none.
-/

namespace Reckon

open Cursor

/-- The first place where a text comes next, with so many characters before it. -/
structure FirstAt (part text : List Char) (i : Nat) : Prop where
  occurs : part <+: text.drop i
  earliest : ∀ j < i, ¬part <+: text.drop j

def opens (ahead opener : List Char) : Bool :=
  !opener.isEmpty && opener.isPrefixOf ahead

inductive BeginsWithComment (rules : LexemeRules) : (ahead comment : List Char) → Prop where
  | line {opener body rest : List Char} :
      rules.lineComments.find? (opens (opener ++ (body ++ rest))) = some opener →
      (∀ c ∈ body, c ≠ '\n' ∧ c ≠ '\r') → (∀ c ∈ rest.head?, c = '\n' ∨ c = '\r') →
      BeginsWithComment rules (opener ++ (body ++ rest)) (opener ++ body)
  | closed {opener closer rest : List Char} {i : Nat} :
      rules.lineComments.find? (opens (opener ++ rest)) = none →
      rules.blockComments.find? (fun pair => opens (opener ++ rest) pair.1) =
        some (opener, closer) →
      FirstAt closer rest i →
      BeginsWithComment rules (opener ++ rest) (opener ++ rest.take (i + closer.length))
  | unclosed {opener closer rest : List Char} :
      rules.lineComments.find? (opens (opener ++ rest)) = none →
      rules.blockComments.find? (fun pair => opens (opener ++ rest) pair.1) =
        some (opener, closer) →
      (∀ i, ¬closer <+: rest.drop i) →
      BeginsWithComment rules (opener ++ rest) (opener ++ rest)

/-! ### Closers -/

section

variable {closer read ahead : List Char}

/-- The characters read end with the closer where it came next as many characters before. -/
theorem closes_iff (c : Char) (rest : List Char) :
    closer.reverse.isPrefixOf (c :: read) = true ↔
      ∃ i, i + closer.length = read.length + 1 ∧
        closer <+: (read.reverse ++ c :: rest).drop i := by
  have hread : (c :: read).reverse = read.reverse ++ [c] := List.reverse_cons
  have hwhole : read.reverse ++ c :: rest = (read.reverse ++ [c]) ++ rest := List.append_cons ..
  rw [List.isPrefixOf_iff_prefix, ← List.reverse_suffix, List.reverse_reverse, hread, hwhole]
  constructor
  · rintro ⟨earlier, hearlier⟩
    have hlength := congrArg List.length hearlier
    simp only [List.length_append, List.length_reverse, List.length_singleton] at hlength
    refine ⟨earlier.length, hlength, ?_⟩
    rw [← hearlier, List.append_assoc, List.drop_left]
    exact List.prefix_append _ _
  · rintro ⟨i, hi, more, hmore⟩
    have hle : i ≤ (read.reverse ++ [c]).length := by
      simp only [List.length_append, List.length_reverse, List.length_singleton]
      omega
    rw [List.drop_append_of_le_length hle] at hmore
    have hparts := List.append_inj_left hmore
      (by simp only [List.length_drop, List.length_append, List.length_reverse,
        List.length_singleton]; omega)
    rw [hparts]
    exact List.drop_suffix i _

/-- The induction is on the text ahead: a closer that ends behind what has been read is found where
it ends, as no other one ends before. -/
theorem untilClosed_of_firstAt {i : Nat} (h : FirstAt closer (read.reverse ++ ahead) i)
    (hend : read.length < i + closer.length) :
    untilClosed closer read ahead = ahead.take (i + closer.length - read.length) := by
  induction ahead generalizing read with
  | nil => rw [untilClosed, List.take_nil]
  | cons c rest ih =>
    have hclose := @closes_iff closer read c rest
    rw [untilClosed]
    split
    · rename_i hclosed
      obtain ⟨j, hj, hoccurs⟩ := hclose.mp hclosed
      have hle : i ≤ j := by
        by_contra hlt
        exact h.earliest j (by omega) hoccurs
      have hlast : i + closer.length - read.length = 1 := by omega
      rw [hlast]
      rfl
    · rename_i hclosed
      have hne : i + closer.length ≠ read.length + 1 := by
        intro hi
        exact hclosed (hclose.mpr ⟨i, hi, h.occurs⟩)
      have hnext : FirstAt closer ((c :: read).reverse ++ rest) i := by
        rwa [List.reverse_cons, ← List.append_cons]
      have hmore : i + closer.length - read.length =
          (i + closer.length - (c :: read).length) + 1 := by
        rw [List.length_cons]
        omega
      rw [ih hnext (by rw [List.length_cons]; omega), hmore, List.take_succ_cons]

theorem untilClosed_of_not_occurs (h : ∀ i, ¬closer <+: (read.reverse ++ ahead).drop i) :
    untilClosed closer read ahead = ahead := by
  induction ahead generalizing read with
  | nil => rw [untilClosed]
  | cons c rest ih =>
    have hclosed : ¬closer.reverse.isPrefixOf (c :: read) = true := by
      intro hclosed
      obtain ⟨i, -, hoccurs⟩ := (closes_iff c rest).mp hclosed
      exact h i hoccurs
    have hnext : ∀ i, ¬closer <+: ((c :: read).reverse ++ rest).drop i := by
      rwa [List.reverse_cons, ← List.append_cons]
    rw [untilClosed, if_neg hclosed, ih hnext]

end

/-! ### Openers -/

theorem findSome?_ite {α β : Type} (p : α → Bool) (g : α → β) (l : List α) :
    l.findSome? (fun a => if p a then some (g a) else none) = (l.find? p).map g := by
  induction l with
  | nil => rfl
  | cons a l ih =>
    rw [List.findSome?_cons, List.find?_cons]
    cases hp : p a with
    | true => rfl
    | false => exact ih

section

variable {first : Char} {ahead : List Char}

theorem openerTail?_eq (opener : List Char) :
    openerTail? first ahead opener =
      if opens (first :: ahead) opener then some opener.tail else none := by
  cases opener with
  | nil => rfl
  | cons d rest =>
    simp only [openerTail?, opens, List.isEmpty_cons, Bool.not_false, Bool.true_and,
      List.isPrefixOf_iff_prefix, List.cons_prefix_cons, List.tail_cons]

/-- What an opener takes of the characters behind the first one, and what comes behind it. -/
theorem tail_append_drop {opener : List Char} (h : opens (first :: ahead) opener = true) :
    first :: opener.tail = opener ∧ opener ++ ahead.drop opener.tail.length = first :: ahead := by
  cases opener with
  | nil => cases h
  | cons d rest =>
    simp only [opens, List.isEmpty_cons, Bool.not_false, Bool.true_and,
      List.isPrefixOf_iff_prefix, List.cons_prefix_cons] at h
    obtain ⟨rfl, more, rfl⟩ := h
    exact ⟨rfl, by rw [List.tail_cons, List.drop_left, List.cons_append]⟩

theorem ne_nil_of_opens {whole opener : List Char} (h : opens whole opener = true) :
    whole ≠ [] := by
  rintro rfl
  cases opener with
  | nil => cases h
  | cons d rest => cases h

theorem opens_of_find? {whole opener closer : List Char} {pairs : List (List Char × List Char)}
    (h : pairs.find? (fun pair => opens whole pair.1) = some (opener, closer)) :
    opens whole opener = true :=
  List.find?_some (p := fun pair : List Char × List Char => opens whole pair.1) h

theorem commentTail?_eq (rules : LexemeRules) :
    rules.commentTail? first ahead =
      ((rules.lineComments.find? (opens (first :: ahead))).map fun opener =>
        opener.tail ++ (ahead.drop opener.tail.length).takeWhile fun c => !endsComment c).or
      ((rules.blockComments.find? fun pair => opens (first :: ahead) pair.1).map fun pair =>
        pair.1.tail ++ untilClosed pair.2 [] (ahead.drop pair.1.tail.length)) := by
  have hline : lineCommentTail? first ahead = fun opener =>
      if opens (first :: ahead) opener then
        some (opener.tail ++ (ahead.drop opener.tail.length).takeWhile fun c => !endsComment c)
      else none := by
    funext opener
    rw [lineCommentTail?, openerTail?_eq]
    split <;> rfl
  have hblock : blockCommentTail? first ahead = fun pair =>
      if opens (first :: ahead) pair.1 then
        some (pair.1.tail ++ untilClosed pair.2 [] (ahead.drop pair.1.tail.length))
      else none := by
    funext pair
    rw [blockCommentTail?, openerTail?_eq]
    split <;> rfl
  rw [LexemeRules.commentTail?, hline, hblock, findSome?_ite, findSome?_ite]

end

/-! ### Comments -/

section

variable {rules : LexemeRules} {first : Char} {ahead comment : List Char}

theorem endsComment_eq_false {c : Char} : endsComment c = false ↔ c ≠ '\n' ∧ c ≠ '\r' := by
  simp [endsComment]

/-- Up to the end of a line, and what comes then. -/
theorem takeWhile_line {body rest : List Char} (hbody : ∀ c ∈ body, c ≠ '\n' ∧ c ≠ '\r')
    (hrest : ∀ c ∈ rest.head?, c = '\n' ∨ c = '\r') :
    ((body ++ rest).takeWhile fun c => !endsComment c) = body := by
  have hin : ∀ c ∈ body, (!endsComment c) = true := by
    intro c hc
    rw [endsComment_eq_false.mpr (hbody c hc), Bool.not_false]
  rw [List.takeWhile_append_of_pos hin]
  cases rest with
  | nil => rw [List.takeWhile_nil, List.append_nil]
  | cons c rest =>
    have hc : ¬(!endsComment c) = true := by
      rcases hrest c rfl with rfl | rfl <;> decide
    rw [List.takeWhile_cons, if_neg hc, List.append_nil]

theorem BeginsWithComment.commentTail? {whole : List Char}
    (h : BeginsWithComment rules whole comment) (hwhole : whole = first :: ahead)
    (hclosers : ∀ pair ∈ rules.blockComments, pair.2 ≠ []) :
    (rules.commentTail? first ahead).map (first :: ·) = some comment := by
  cases h with
  | @line opener body rest hfind hbody hrest =>
    rw [hwhole] at hfind
    obtain ⟨hopener, hahead⟩ := tail_append_drop (List.find?_some hfind)
    have hdrop := List.append_cancel_left (hahead.trans hwhole.symm)
    rw [commentTail?_eq, hfind, Option.map_some, hdrop, takeWhile_line hbody hrest, Option.some_or,
      Option.map_some, ← List.cons_append, hopener]
  | @closed opener closer rest i hnone hfind hfirst =>
    rw [hwhole] at hnone hfind
    obtain ⟨hopener, hahead⟩ := tail_append_drop (opens_of_find? hfind)
    have hdrop := List.append_cancel_left (hahead.trans hwhole.symm)
    have hcloser : closer ≠ [] := hclosers _ (List.mem_of_find?_eq_some hfind)
    have hend : ([] : List Char).length < i + closer.length := by
      have := List.length_pos_iff.mpr hcloser
      rw [List.length_nil]
      omega
    have huntil := @untilClosed_of_firstAt closer [] rest i hfirst hend
    rw [List.length_nil, Nat.sub_zero] at huntil
    rw [commentTail?_eq, hnone, hfind, Option.map_none, Option.map_some, hdrop, huntil,
      Option.none_or, Option.map_some, ← List.cons_append, hopener]
  | @unclosed opener closer rest hnone hfind hnever =>
    rw [hwhole] at hnone hfind
    obtain ⟨hopener, hahead⟩ := tail_append_drop (opens_of_find? hfind)
    have hdrop := List.append_cancel_left (hahead.trans hwhole.symm)
    have huntil := @untilClosed_of_not_occurs closer [] rest hnever
    rw [commentTail?_eq, hnone, hfind, Option.map_none, Option.map_some, hdrop, huntil,
      Option.none_or, Option.map_some, ← List.cons_append, hopener]

/-- Each comment has an end, so the openers alone say whether there is a comment. -/
theorem exists_beginsWithComment {tail : List Char}
    (h : rules.commentTail? first ahead = some tail) :
    ∃ comment, BeginsWithComment rules (first :: ahead) comment := by
  rw [commentTail?_eq, Option.or_eq_some_iff, Option.map_eq_some_iff, Option.map_eq_none_iff,
    Option.map_eq_some_iff] at h
  rcases h with ⟨opener, hfind, -⟩ | ⟨hnone, ⟨opener, closer⟩, hfind, -⟩
  · obtain ⟨-, hahead⟩ := tail_append_drop (List.find?_some hfind)
    have hline := List.takeWhile_append_dropWhile (p := fun c => !endsComment c)
      (l := ahead.drop opener.tail.length)
    rw [← hahead, ← hline] at hfind ⊢
    refine ⟨_, .line hfind (fun c hc => ?_) fun c hc => ?_⟩
    · have hin := List.mem_takeWhile_imp hc
      rwa [Bool.not_eq_true', endsComment_eq_false] at hin
    · have hstop := List.head?_dropWhile_not (fun c => !endsComment c)
        (ahead.drop opener.tail.length)
      rw [Option.mem_def.mp hc] at hstop
      simpa [endsComment, or_iff_not_imp_left] using hstop
  · obtain ⟨-, hahead⟩ := tail_append_drop (opens_of_find? hfind)
    rw [← hahead] at hnone hfind ⊢
    by_cases hoccurs : ∃ i, closer <+: (ahead.drop opener.tail.length).drop i
    · exact ⟨_, .closed hnone hfind ⟨Nat.find_spec hoccurs, fun j hj => Nat.find_min hoccurs hj⟩⟩
    · exact ⟨_, .unclosed hnone hfind (not_exists.mp hoccurs)⟩

theorem beginsWithComment_iff (hclosers : ∀ pair ∈ rules.blockComments, pair.2 ≠ []) :
    BeginsWithComment rules (first :: ahead) comment ↔
      (rules.commentTail? first ahead).map (first :: ·) = some comment := by
  constructor
  · intro h
    exact h.commentTail? rfl hclosers
  · intro h
    obtain ⟨tail, htail, -⟩ := Option.map_eq_some_iff.mp h
    obtain ⟨other, hother⟩ := exists_beginsWithComment htail
    rwa [Option.some.inj (h.symm.trans (hother.commentTail? rfl hclosers))]

theorem BeginsWithComment.ne_nil {whole : List Char} (h : BeginsWithComment rules whole comment) :
    whole ≠ [] := by
  cases h with
  | line hfind => exact ne_nil_of_opens (List.find?_some hfind)
  | closed hnone hfind => exact ne_nil_of_opens (opens_of_find? hfind)
  | unclosed hnone hfind => exact ne_nil_of_opens (opens_of_find? hfind)

end

namespace LexemeRules

variable {rules : LexemeRules}

theorem cut_comment_iff {first : Char} {ahead comment : List Char} :
    ((rules.cut first ahead).kind = .comment ∧ (rules.cut first ahead).value = comment) ↔
      (rules.commentTail? first ahead).map (first :: ·) = some comment := by
  rw [cut]
  cases rules.commentTail? first ahead with
  | none =>
    rw [Option.map_none]
    exact iff_of_false (fun h => rules.plainCut_ne first ahead (.inr rfl) h.1)
      (Option.some_ne_none _).symm
  | some tail =>
    rw [Option.map_some, Option.some_inj]
    exact and_iff_right rfl

end LexemeRules

/-- A lexeme is a comment just where one begins, and then goes as far as the comment does. -/
theorem comment_extent {rules : LexemeRules} {text : List Char} {l : Lexeme}
    (hclosers : ∀ pair ∈ rules.blockComments, pair.2 ≠ []) (hl : l ∈ rules.lexemes text) :
    ∃ before ahead, text = before ++ ahead ∧ l.position = place text before.length ∧
      ∀ comment, (l.kind = .comment ∧ l.value = comment) ↔
        BeginsWithComment rules ahead comment := by
  obtain ⟨before, ahead, htext, hposition, hcut⟩ := @LexemeRules.cut_at_of_mem rules _ [] text l hl
  refine ⟨before, ahead, htext, hposition, fun comment => ?_⟩
  rcases hcut with ⟨rfl, hkind⟩ | ⟨first, more, rfl, hkind, hvalue⟩
  · rw [hkind]
    exact iff_of_false (fun h => nomatch h.1) fun h => h.ne_nil rfl
  · rw [hkind, hvalue, LexemeRules.cut_comment_iff, beginsWithComment_iff hclosers]

/-- The star of the opener is no part of the closer, and the second closer comes too late. -/
theorem comment_past_star_of_opener :
    ∃ before ahead, "/*/x**/y*/".toList = before ++ ahead ∧
      (⟨1, 1⟩ : Position) = place "/*/x**/y*/".toList before.length ∧
      ∀ comment, (LexemeKind.comment = .comment ∧ "/*/x**/".toList = comment) ↔
        BeginsWithComment LexemeRules.empty.slashComments ahead comment :=
  comment_extent (l := ⟨.comment, "/*/x**/".toList, ⟨1, 1⟩⟩)
    (List.forall_mem_singleton.mpr (List.cons_ne_nil _ _)) (by decide)

end Reckon
