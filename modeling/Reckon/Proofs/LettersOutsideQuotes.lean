import Reckon.Proofs.WrittenLexemes

/-!
# Letters outside quoted texts

Two texts may differ in the case of letters that do not stand in quoted texts. They have the same
quoted texts then, and all their other lexemes agree in small letters, kind and place.
-/

namespace Reckon

def QuotedAt : List Lexeme → Nat → Prop
  | [], _ => False
  | l :: ls, i => if i < l.value.length then l.kind = .quoted else QuotedAt ls (i - l.value.length)

instance decidableQuotedAt : (ls : List Lexeme) → (i : Nat) → Decidable (QuotedAt ls i)
  | [], _ => inferInstanceAs (Decidable False)
  | l :: ls, i =>
    have := decidableQuotedAt ls (i - l.value.length)
    inferInstanceAs (Decidable (if i < l.value.length then l.kind = .quoted
      else QuotedAt ls (i - l.value.length)))

theorem quotedAt_first {l : Lexeme} {i : Nat} (hi : i < l.value.length) (hl : l.kind = .quoted)
    (ls : List Lexeme) : QuotedAt (l :: ls) i := by
  rw [QuotedAt, if_pos hi]
  exact hl

theorem quotedAt_later {ls : List Lexeme} {i : Nat} (h : QuotedAt ls i) (l : Lexeme) :
    QuotedAt (l :: ls) (l.value.length + i) := by
  rw [QuotedAt, if_neg (Nat.not_lt.mpr (Nat.le_add_right _ _)), Nat.add_sub_cancel_left]
  exact h

/-- The texts differ in nothing but the case of ASCII letters outside quoted texts. -/
structure SameButCase (s t : List Char) : Prop where
  letters : List.Forall₂ (fun c d => c.toLower = d.toLower) s t
  quoted : ∀ i, QuotedAt (LexemeRules.formula.asWritten.lexemes s) i → s[i]? = t[i]?

theorem SameButCase.small_eq {s t : List Char} (h : SameButCase s t) : small s = small t := by
  have hletters := h.letters
  clear h
  induction hletters with
  | nil => rfl
  | cons hc _ ih => rw [small_cons, small_cons, hc, ih]

namespace Lexeme

def folded (l : Lexeme) : Lexeme :=
  if l.kind = .quoted then l else l.small

theorem kind_folded (l : Lexeme) : l.folded.kind = l.kind := by
  rw [folded, apply_ite kind]
  exact ite_self _

theorem position_folded (l : Lexeme) : l.folded.position = l.position := by
  rw [folded, apply_ite position]
  exact ite_self _

end Lexeme

theorem folded_eq {l m : Lexeme} (hsmall : l.small = m.small)
    (hquoted : l.kind = .quoted → l.value = m.value) : l.folded = m.folded := by
  obtain ⟨kind, value, position⟩ := l
  obtain ⟨kind', value', position'⟩ := m
  obtain ⟨rfl, hvalue, rfl⟩ : kind = kind' ∧ small value = small value' ∧ position = position' :=
    Lexeme.mk.inj hsmall
  by_cases hkind : kind = .quoted
  · obtain rfl : value = value' := hquoted hkind
    rfl
  · rw [Lexeme.folded, if_neg hkind, Lexeme.folded, if_neg hkind, hsmall]

/-- Lexemes that agree in small letters agree as folded if their texts agree where the quoted ones
of them stand. -/
theorem map_folded_eq {vs ws : List Lexeme} (hsmall : vs.map Lexeme.small = ws.map Lexeme.small)
    (hquoted : ∀ i, QuotedAt vs i →
      (vs.flatMap Lexeme.value)[i]? = (ws.flatMap Lexeme.value)[i]?) :
    vs.map Lexeme.folded = ws.map Lexeme.folded := by
  induction vs generalizing ws with
  | nil => rw [List.map_eq_nil_iff.mp hsmall.symm]
  | cons l vs ih =>
    obtain ⟨m, ws, rfl, hl, hrest⟩ := List.map_eq_cons_iff.mp hsmall.symm
    have hlength : l.value.length = m.value.length := by
      rw [← length_small l.value, ← length_small m.value]
      exact congrArg (fun l => l.value.length) hl.symm
    have hfirst : l.folded = m.folded := by
      refine folded_eq hl.symm fun hkind => List.ext_getElem? fun i => ?_
      by_cases hi : i < l.value.length
      · have hplace := hquoted i (quotedAt_first hi hkind vs)
        rwa [List.flatMap_cons, List.flatMap_cons, List.getElem?_append_left hi,
          List.getElem?_append_left (hlength ▸ hi)] at hplace
      · rw [List.getElem?_eq_none (Nat.not_lt.mp hi),
          List.getElem?_eq_none (hlength ▸ Nat.not_lt.mp hi)]
    have hlater : vs.map Lexeme.folded = ws.map Lexeme.folded := by
      refine ih hrest.symm fun i hi => ?_
      have hplace := hquoted (l.value.length + i) (quotedAt_later hi l)
      rwa [List.flatMap_cons, List.flatMap_cons, List.getElem?_append_right (Nat.le_add_right _ _),
        Nat.add_sub_cancel_left, hlength, List.getElem?_append_right (Nat.le_add_right _ _),
        Nat.add_sub_cancel_left] at hplace
    rw [List.map_cons, List.map_cons, hfirst, hlater]

namespace LexemeRules

theorem shown?_folded (rules : LexemeRules) (l : Lexeme) :
    rules.shown? l.folded = (rules.shown? l).map Lexeme.folded := by
  cases hskip : rules.skips l.kind with
  | true =>
    rw [rules.shown?_of_skips hskip, rules.shown?_of_skips (l.kind_folded ▸ hskip)]
    rfl
  | false =>
    rw [rules.shown?_of_not_skips hskip, rules.shown?_of_not_skips (l.kind_folded ▸ hskip),
      Option.map_some, l.kind_folded]
    by_cases hkind : l.kind = .quoted
    · simp [Lexeme.folded, hkind]
    · simp [Lexeme.folded, hkind, Lexeme.small]

theorem map_folded_shown (rules : LexemeRules) (vs : List Lexeme) :
    (vs.filterMap rules.shown?).map Lexeme.folded =
      (vs.map Lexeme.folded).filterMap rules.shown? := by
  rw [List.map_filterMap, List.filterMap_map]
  exact List.filterMap_congr fun l _ => (rules.shown?_folded l).symm

theorem IgnoresCase.asWritten {rules : LexemeRules} (h : rules.IgnoresCase) :
    rules.asWritten.IgnoresCase :=
  ⟨h.classes, h.inner, h.quotes, h.escapes, h.symbols, h.lineComments, h.blockComments⟩

end LexemeRules

theorem SameButCase.map_folded_lexemes {s t : List Char} (h : SameButCase s t) :
    (LexemeRules.formula.lexemes s).map Lexeme.folded =
      (LexemeRules.formula.lexemes t).map Lexeme.folded := by
  let written := LexemeRules.formula.asWritten
  have hcase : written.IgnoresCase := LexemeRules.formula_ignoresCase.asWritten
  have hjoined (text : List Char) : (written.lexemes text).flatMap Lexeme.value = text :=
    (LexemeRules.tiles_lexemes LexemeRules.formula.asWritten_verbatim text).joined
  have hsmall : (written.lexemes s).map Lexeme.small = (written.lexemes t).map Lexeme.small := by
    rw [← hcase.lexemes_small, ← hcase.lexemes_small, h.small_eq]
  have hfolded : (written.lexemes s).map Lexeme.folded = (written.lexemes t).map Lexeme.folded := by
    refine map_folded_eq hsmall fun i hi => ?_
    rw [hjoined, hjoined]
    exact h.quoted i hi
  rw [LexemeRules.formula.lexemes_eq_shown s, LexemeRules.formula.lexemes_eq_shown t,
    LexemeRules.map_folded_shown, LexemeRules.map_folded_shown, hfolded]

end Reckon
