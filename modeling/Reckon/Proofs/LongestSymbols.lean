import Reckon.Proofs.CutAgain
import Reckon.Proofs.Replay

/-!
# Tables hold the symbols inserted and find the longest

A table stands for the set of the symbols inserted into it, in whatever order they came and however
much of them they share. Reading follows the table beyond a symbol where a longer one may come, and
gives the longest prefix of the text that is in the table; the cursor then stands as if it had passed
that prefix and nothing more.
-/

namespace Reckon

namespace SymbolTable

/-! ### What a table holds -/

theorem lookup_setBranch (c d : Char) (u : SymbolTable) (branches : List (Char × SymbolTable)) :
    (setBranch c u branches).lookup d = if d = c then some u else branches.lookup d := by
  have hcons (e : Char) (v : SymbolTable) (rest : List (Char × SymbolTable)) :
      ((e, v) :: rest).lookup d = if d = e then some v else rest.lookup d := by
    by_cases hd : d = e
    · rw [if_pos hd, hd, List.lookup_cons_self]
    · rw [if_neg hd, List.lookup_cons, beq_false_of_ne hd]
  induction branches with
  | nil => exact hcons c u []
  | cons branch rest ih =>
    obtain ⟨e, old⟩ := branch
    rw [setBranch]
    by_cases hc : c = e
    · rw [if_pos hc, hcons, hcons, hc]
      split
      · rfl
      · rfl
    · rw [if_neg hc, hcons, hcons, ih]
      by_cases hd : d = e
      · rw [if_pos hd, if_pos hd, if_neg (hd.trans_ne (Ne.symm hc))]
      · rw [if_neg hd, if_neg hd]

theorem contains_empty (s : List Char) : empty.contains s = false := by
  cases s <;> rfl

theorem contains_cons (t : SymbolTable) (c : Char) (s : List Char) :
    t.contains (c :: s) = ((t.branch? c).getD empty).contains s := by
  rw [contains]
  cases t.branch? c with
  | none => exact (contains_empty s).symm
  | some u => rfl

/-- Inserting a symbol adds that symbol and leaves all others as they were. -/
theorem contains_insertPath (path s : List Char) (t : SymbolTable) :
    (insertPath path t).contains s = (decide (s = path) || t.contains s) := by
  induction path generalizing s t with
  | nil =>
    cases s with
    | nil => rfl
    | cons c s => rfl
  | cons c path ih =>
    cases s with
    | nil => rfl
    | cons d s =>
      have hbranch : (insertPath (c :: path) t).branch? d =
          if d = c then some (insertPath path ((t.branch? c).getD empty)) else t.branch? d :=
        lookup_setBranch c d _ t.branches
      rw [contains_cons, hbranch, contains_cons t]
      by_cases hd : d = c
      · subst hd
        simp [ih]
      · simp [hd]

theorem contains_insert {t : SymbolTable} {symbol s : List Char} :
    (t.insert symbol).contains s ↔ s = symbol ∧ s ≠ [] ∨ t.contains s := by
  rw [insert]
  cases symbol with
  | nil => simp
  | cons c rest =>
    rw [if_neg (by simp), contains_insertPath, Bool.or_eq_true, decide_eq_true_iff]
    refine or_congr_left (iff_self_and.mpr ?_)
    rintro rfl
    exact List.cons_ne_nil c rest

theorem contains_foldl_insert {t : SymbolTable} {symbols : List (List Char)} {s : List Char} :
    (symbols.foldl insert t).contains s ↔ s ∈ symbols ∧ s ≠ [] ∨ t.contains s := by
  induction symbols generalizing t with
  | nil => simp
  | cons symbol symbols ih =>
    rw [List.foldl_cons, ih, contains_insert, List.mem_cons]
    tauto

theorem contains_ofList {symbols : List (List Char)} {s : List Char} :
    (ofList symbols).contains s ↔ s ∈ symbols ∧ s ≠ [] := by
  rw [ofList, contains_foldl_insert, contains_empty, or_iff_left Bool.false_ne_true]

/-! ### The longest symbol -/

/-- The best end of a walk is where it started out, or that of a symbol. -/
theorem walk_contains (t : SymbolTable) (read best : Nat) (l : List Char) :
    (t.walk read best l).2 = best ∨
      ∃ s, s <+: l ∧ t.contains s ∧ (t.walk read best l).2 = read + s.length := by
  induction l generalizing t read best with
  | nil => exact .inl rfl
  | cons c l ih =>
    rw [walk]
    cases hc : t.branch? c with
    | none => exact .inl rfl
    | some u =>
      have hcontains (s : List Char) : t.contains (c :: s) = u.contains s := by
        rw [contains_cons, hc, Option.getD_some]
      rcases ih u (read + 1) (if u.isSymbol then read + 1 else best) with hbest | ⟨s, hs, hu, hbest⟩
      · by_cases hu : u.isSymbol
        · rw [if_pos hu] at hbest
          refine .inr ⟨[c], by simp, (hcontains []).trans hu, ?_⟩
          simpa only [if_pos hu, List.length_singleton] using hbest
        · rw [if_neg hu] at hbest
          exact .inl (by simpa only [if_neg hu] using hbest)
      · refine .inr ⟨c :: s, (List.prefix_cons_inj c).mpr hs, (hcontains s).trans hu, ?_⟩
        dsimp only
        rw [hbest, List.length_cons]
        omega

/-- No symbol in front goes beyond the best end of a walk. -/
theorem length_le_walk {t : SymbolTable} {s l : List Char} (read best : Nat) (hne : s ≠ [])
    (hs : s <+: l) (ht : t.contains s) : read + s.length ≤ (t.walk read best l).2 := by
  induction l generalizing t s read best with
  | nil => exact absurd (List.prefix_nil.mp hs) hne
  | cons c l ih =>
    obtain ⟨rest, rfl, hrest⟩ := (List.prefix_cons_iff.mp hs).resolve_left hne
    rw [walk]
    rw [contains] at ht
    cases hc : t.branch? c with
    | none => rw [hc] at ht; cases ht
    | some u =>
      rw [hc] at ht
      dsimp only at ht ⊢
      cases rest with
      | nil =>
        rw [contains] at ht
        rw [if_pos ht]
        rcases u.walk_best (read + 1) (read + 1) l with hbest | hbest
        · exact hbest.ge
        · exact hbest.le
      | cons d rest =>
        have hle := ih (read + 1) (if u.isSymbol then read + 1 else best) (List.cons_ne_nil d rest)
          hrest ht
        rw [List.length_cons]
        omega

theorem tail_contains (t : SymbolTable) (first : Char) (ahead : List Char) :
    t.tail first ahead = [] ∨ t.contains (first :: t.tail first ahead) := by
  rw [tail]
  cases hfirst : t.branch? first with
  | none => exact .inl rfl
  | some u =>
    dsimp only
    rcases u.walk_contains 0 0 ahead with hbest | ⟨s, hs, hu, hbest⟩
    · exact .inl (by rw [hbest, List.take_zero])
    · rw [Nat.zero_add] at hbest
      rw [hbest, ← List.prefix_iff_eq_take.mp hs, contains_cons, hfirst]
      exact .inr hu

theorem length_le_tail {t : SymbolTable} {first : Char} {s ahead : List Char}
    (hs : s <+: first :: ahead) (ht : t.contains s) : s.length ≤ (t.tail first ahead).length + 1 := by
  rcases List.prefix_cons_iff.mp hs with rfl | ⟨rest, rfl, hrest⟩
  · exact Nat.zero_le _
  · rw [tail]
    rw [contains] at ht
    cases hfirst : t.branch? first with
    | none => rw [hfirst] at ht; cases ht
    | some u =>
      rw [hfirst] at ht
      dsimp only at ht ⊢
      cases rest with
      | nil => simp
      | cons c rest =>
        have hbest := length_le_walk 0 0 (List.cons_ne_nil c rest) hrest ht
        have hlength := hrest.length_le
        rw [Nat.zero_add] at hbest
        rw [List.length_take, List.length_cons (a := first)]
        exact Nat.succ_le_succ (Nat.le_min.mpr ⟨hbest, hlength⟩)

/-- A table of symbols contains those that have characters. It reads the longest that the text
starts with, or one character, and moves the cursor no further. -/
theorem read_longest (symbols : List (List Char)) :
    (∀ s, (ofList symbols).contains s ↔ s ∈ symbols ∧ s ≠ []) ∧
      ∀ (first : Char) (ahead : List Char),
        let text := first :: ahead
        let (symbol, c) := (ofList symbols).read first (Cursor.ofText text).step
        symbol <+: text ∧ (symbol = [first] ∨ symbol ∈ symbols) ∧
          (∀ s ∈ symbols, s <+: text → s.length ≤ symbol.length) ∧
          c = Cursor.afterReads text symbol.length := by
  refine ⟨fun s => contains_ofList, fun first ahead => ?_⟩
  have hstart : (Cursor.ofText (first :: ahead)).step = Cursor.between [first] ahead := by
    rw [← Cursor.between_nil, Cursor.step_between, List.nil_append]
  have hprefix := (ofList symbols).tail_isPrefix first ahead
  dsimp only
  rw [hstart, LexemeRules.readSymbol_between]
  refine ⟨(List.prefix_cons_inj first).mpr hprefix, ?_, fun s hs htext => ?_, ?_⟩
  · exact ((ofList symbols).tail_contains first ahead).imp (congrArg (first :: ·))
      fun h => (contains_ofList.mp h).1
  · by_cases hne : s = []
    · rw [hne]
      exact Nat.zero_le _
    · exact length_le_tail htext (contains_ofList.mpr ⟨hs, hne⟩)
  · have htext := List.prefix_iff_eq_append.mp hprefix
    rw [← Cursor.afterReads_length, List.append_assoc, htext]
    rfl

end SymbolTable

end Reckon
