import Reckon.Operation
import Reckon.Proofs.ExpressionSearch

/-!
# What a text is like

A text is like a pattern when consecutive pieces make it up, one for each character of the pattern.
Folding the characters of both before the pieces are looked for changes nothing, so the row of
places built from the folded pattern finds exactly these cuts, and so does the pattern's expression
in what it means.
-/

namespace Reckon

/-- The piece that a character of a pattern stands for. Only `%` and `_` are special: any other
character stands for one that folds to the same as itself. -/
inductive StandsFor : Char → List Char → Prop
  | anyText (piece : List Char) : StandsFor '%' piece
  | anyChar (d : Char) : StandsFor '_' [d]
  | agreeing {c d f : Char} (not_anyText : c ≠ '%') (not_anyChar : c ≠ '_')
    (folded : FoldsTo c f) (alike : FoldsTo d f) : StandsFor c [d]

theorem standsFor_iff_takes (c : Char) (piece : List Char) :
    StandsFor c piece ↔ (Wildcard.ofChar c).Takes (piece.map foldCase) := by
  constructor
  · rintro (_ | d | ⟨not_anyText, not_anyChar, folded, alike⟩)
    · exact .inl rfl
    · exact .inr ⟨foldCase d, rfl, rfl⟩
    · rw [Wildcard.ofChar, if_neg not_anyText, if_neg not_anyChar]
      exact .inr ⟨_, rfl, beq_iff_eq.mpr (exists_foldsTo_iff.mp ⟨_, folded, alike⟩)⟩
  · by_cases anyText : c = '%'
    · subst anyText
      intro _
      exact .anyText piece
    · intro takes
      have single : Wildcard.ofChar c ≠ .anyText := by
        rw [Wildcard.ofChar, if_neg anyText]
        split <;> simp
      obtain ⟨_, one, suits⟩ := (Wildcard.takes_of_ne single _).mp takes
      obtain ⟨d, rfl, rfl⟩ := List.map_eq_singleton_iff.mp one
      by_cases anyChar : c = '_'
      · subst anyChar
        exact .anyChar d
      · rw [Wildcard.ofChar, if_neg anyText, if_neg anyChar] at suits
        obtain ⟨f, folded, alike⟩ := exists_foldsTo_iff.mpr (beq_iff_eq.mp suits)
        exact .agreeing anyText anyChar folded alike

/-- Where the pattern is not too large, its expression is found in a text that can be cut. -/
theorem search?_of_fits {pattern : List Char}
    (fits : PatternRoom.fits (pattern.map Wildcard.ofChar) = true) (text : List Char) :
    ∃ found, (likeExpression pattern).search? text = some found ∧
      (found = true ↔ IsCutInto StandsFor pattern text) := by
  refine ⟨matchesFolded (pattern.map Wildcard.ofChar) (text.map foldCase), ?_, ?_⟩
  · rw [SearchExpression.search?, wildcards?_likeExpression]
    exact if_pos fits
  · have pieces : StandsFor = fun c piece => (Wildcard.ofChar c).Takes (piece.map foldCase) := by
      funext c piece
      exact propext (standsFor_iff_takes c piece)
    rw [matchesFolded_iff, IsCutByParts, isCutInto_map, pieces]

/-- Neither value structured, the first is like the second exactly when its text can be cut into a
piece for each character of the pattern. That is where the expression for the pattern is found in
the text, in the meaning of expressions. The negated operator answers the opposite. -/
theorem like_cuts_text (rule : TextRule) {text pattern : Value}
    (plainText : text.isStructured = false) (plainPattern : pattern.isStructured = false)
    (fits : PatternRoom.fits (pattern.chars.map Wildcard.ofChar) = true) :
    ∃ found, text.isLike pattern = .ok found ∧
      (found = true ↔ IsCutInto StandsFor pattern.chars text.chars) ∧
      (found = true ↔ (likeExpression pattern.chars).Finds text.chars) ∧
      Operator.like.apply rule [text, pattern] = .ok (.boolean found) ∧
      Operator.notLike.apply rule [text, pattern] = .ok (.boolean !found) := by
  obtain ⟨found, searched, cut⟩ := search?_of_fits fits text.chars
  have like : text.isLike pattern = .ok found := by
    rw [Value.isLike, plainText, plainPattern, searched]
    rfl
  refine ⟨found, like, cut, SearchExpression.search?_iff_finds searched, ?_, ?_⟩
  · rw [Operator.apply, Operator.applyBinary, like]
    rfl
  · rw [Operator.apply, Operator.applyBinary, like]
    rfl

/-- A `%` takes nothing, a `_` a line break and the Kelvin sign a letter, but a stop only a stop. -/
theorem line_break_like_pattern :
    IsCutInto StandsFor ['A', '%', '_', '.', '\u212a'] ['a', '\n', '.', 'k'] ∧
      Operator.like.apply .exact [.string "a\n.k", .string "A%_.\u212a"] = .ok (.boolean true) ∧
      Operator.notLike.apply .exact [.string "a\n.k", .string "A%_.\u212a"] =
        .ok (.boolean false) ∧
      ¬IsCutInto StandsFor ['_', '.'] ['\n', ','] ∧
      Operator.like.apply .exact [.string "\n,", .string "_."] = .ok (.boolean false) := by
  have capital : FoldsTo 'A' 'a' := .capital (by decide) rfl
  have kelvin : FoldsTo '\u212a' 'k' := .mapped (by decide) <|
    @CodeMap.Moves.listed _ _ 0x212a 0x212a 1 0x6b (by decide +kernel) (by decide) (by decide) rfl
  have itself {c : Char} (h : c.toNat < 128 ∧ ¬('A' ≤ c ∧ c ≤ 'Z')) : FoldsTo c c :=
    .ascii h.1 h.2 rfl
  have pieces : IsCutInto StandsFor ['A', '%', '_', '.', '\u212a'] ['a', '\n', '.', 'k'] :=
    ⟨[['a'], [], ['\n'], ['.'], ['k']], rfl,
      .cons (.agreeing (by decide) (by decide) capital (itself (by decide))) <|
        .cons (.anyText []) <| .cons (.anyChar '\n') <|
        .cons (.agreeing (by decide) (by decide) (itself (by decide)) (itself (by decide))) <|
        .cons (.agreeing (by decide) (by decide) kelvin (itself (by decide))) .nil⟩
  have apart : ¬IsCutInto StandsFor ['_', '.'] ['\n', ','] := by
    intro cut
    obtain ⟨_, _, whole, first, cut⟩ := (isCutInto_cons _ _ _).mp cut
    obtain ⟨_, _, behind, second, _⟩ := (isCutInto_cons _ _ _).mp cut
    cases first with
    | agreeing _ not_anyChar => exact not_anyChar rfl
    | anyChar =>
      obtain ⟨-, rfl⟩ := List.cons_eq_cons.mp whole
      cases second with
      | agreeing _ _ folded alike =>
        obtain ⟨rfl, -⟩ := List.cons_eq_cons.mp behind
        exact absurd (exists_foldsTo_iff.mp ⟨_, folded, alike⟩) (by decide)
  obtain ⟨found, _, cut, _, like, notLike⟩ :=
    @like_cuts_text .exact (.string "a\n.k") (.string "A%_.\u212a") rfl rfl (by decide +kernel)
  obtain rfl : found = true := cut.mpr pieces
  obtain ⟨other, _, otherCut, _, otherLike, _⟩ :=
    @like_cuts_text .exact (.string "\n,") (.string "_.") rfl rfl (by decide +kernel)
  obtain rfl : other = false := Bool.eq_false_iff.mpr (mt otherCut.mp apart)
  exact ⟨pieces, like, notLike, apart, otherLike⟩

end Reckon
