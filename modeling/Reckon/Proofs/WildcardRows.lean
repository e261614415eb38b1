import Mathlib.Data.List.Forall2
import Reckon.Wildcard

/-!
# What a row of places accepts

A text matches the parts of a pattern when it can be cut into consecutive pieces, one for each part,
that the parts take. The matcher does not look for the pieces. It reads the text once and keeps the
places in the row that it can have come to, so the reading here starts at a place too: a text is cut
from a place when the parts behind the place take it.
-/

namespace Reckon

/-! ### Texts cut into pieces -/

section Pieces

variable {α β γ δ : Type}

/-- A text is cut when consecutive pieces make it up, one for each part and taken by it. -/
def IsCutInto (takes : α → List β → Prop) (parts : List α) (text : List β) : Prop :=
  ∃ pieces : List (List β), pieces.flatten = text ∧ List.Forall₂ takes parts pieces

variable {takes : α → List β → Prop}

@[simp] theorem isCutInto_nil (text : List β) : IsCutInto takes [] text ↔ text = [] := by
  constructor
  · rintro ⟨pieces, rfl, taken⟩
    cases taken
    rfl
  · rintro rfl
    exact ⟨[], rfl, .nil⟩

theorem isCutInto_cons (part : α) (parts : List α) (text : List β) :
    IsCutInto takes (part :: parts) text ↔
      ∃ piece rest, text = piece ++ rest ∧ takes part piece ∧ IsCutInto takes parts rest := by
  constructor
  · rintro ⟨pieces, rfl, taken⟩
    cases taken with
    | @cons _ piece _ others first remaining =>
      exact ⟨piece, others.flatten, rfl, first, others, rfl, remaining⟩
  · rintro ⟨piece, _, rfl, first, others, rfl, remaining⟩
    exact ⟨piece :: others, rfl, .cons first remaining⟩

/-- Parts and text may be translated before the text is cut or afterwards. -/
theorem isCutInto_map {takes : γ → List δ → Prop} (f : α → γ) (g : β → δ) (parts : List α)
    (text : List β) :
    IsCutInto takes (parts.map f) (text.map g) ↔
      IsCutInto (fun part piece => takes (f part) (piece.map g)) parts text := by
  induction parts generalizing text with
  | nil => simp
  | cons part parts ih =>
    rw [List.map_cons, isCutInto_cons, isCutInto_cons]
    constructor
    · rintro ⟨_, _, cut, first, remaining⟩
      obtain ⟨piece, rest, rfl, rfl, rfl⟩ := List.map_eq_append_iff.mp cut
      exact ⟨piece, rest, rfl, first, (ih rest).mp remaining⟩
    · rintro ⟨piece, rest, rfl, first, remaining⟩
      exact ⟨piece.map g, rest.map g, List.map_append, first, (ih rest).mpr remaining⟩

end Pieces

/-! ### The pieces of a pattern -/

namespace Wildcard

def suits : Wildcard → Char → Bool
  | anyText, _ => false
  | anyChar, _ => true
  | char c, d => c == d

/-- The pieces of a folded text that a part takes: any at all, or one character that suits it. -/
def Takes (part : Wildcard) (piece : List Char) : Prop :=
  part = anyText ∨ ∃ c, piece = [c] ∧ part.suits c = true

theorem takes_of_ne {part : Wildcard} (single : part ≠ anyText) (piece : List Char) :
    part.Takes piece ↔ ∃ c, piece = [c] ∧ part.suits c = true := by
  simp [Takes, single]

end Wildcard

def IsCutByParts (parts : List Wildcard) (text : List Char) : Prop :=
  IsCutInto Wildcard.Takes parts text

@[simp] theorem isCutByParts_nil (text : List Char) : IsCutByParts [] text ↔ text = [] :=
  isCutInto_nil text

theorem isCutByParts_anyText_of {parts : List Wildcard} {text : List Char}
    (cut : IsCutByParts parts text) : IsCutByParts (.anyText :: parts) text :=
  (isCutInto_cons _ _ _).mpr ⟨[], text, rfl, .inl rfl, cut⟩

@[simp] theorem isCutByParts_anyText_nil (parts : List Wildcard) :
    IsCutByParts (.anyText :: parts) [] ↔ IsCutByParts parts [] := by
  constructor
  · intro cut
    obtain ⟨piece, rest, nothing, _, remaining⟩ := (isCutInto_cons _ _ _).mp cut
    obtain ⟨rfl, rfl⟩ := List.append_eq_nil_iff.mp nothing.symm
    exact remaining
  · exact isCutByParts_anyText_of

/-- The first character either is behind the piece of a part that takes any text, or is in it. -/
theorem isCutByParts_anyText_cons (parts : List Wildcard) (c : Char) (text : List Char) :
    IsCutByParts (.anyText :: parts) (c :: text) ↔
      IsCutByParts parts (c :: text) ∨ IsCutByParts (.anyText :: parts) text := by
  constructor
  · intro cut
    obtain ⟨piece, rest, whole, _, remaining⟩ := (isCutInto_cons _ _ _).mp cut
    cases piece with
    | nil =>
      rw [whole]
      exact .inl remaining
    | cons d piece =>
      obtain ⟨rfl, rfl⟩ := List.cons_eq_cons.mp whole
      exact .inr ((isCutInto_cons _ _ _).mpr ⟨piece, rest, rfl, .inl rfl, remaining⟩)
  · rintro (cut | cut)
    · exact isCutByParts_anyText_of cut
    · obtain ⟨piece, rest, rfl, _, remaining⟩ := (isCutInto_cons _ _ _).mp cut
      exact (isCutInto_cons _ _ _).mpr ⟨c :: piece, rest, rfl, .inl rfl, remaining⟩

theorem not_isCutByParts_nil {part : Wildcard} (single : part ≠ .anyText)
    (parts : List Wildcard) : ¬ IsCutByParts (part :: parts) [] := by
  intro cut
  obtain ⟨piece, rest, nothing, first, _⟩ := (isCutInto_cons _ _ _).mp cut
  obtain ⟨c, rfl, _⟩ := (Wildcard.takes_of_ne single piece).mp first
  cases nothing

theorem isCutByParts_cons_cons {part : Wildcard} (single : part ≠ .anyText)
    (parts : List Wildcard) (c : Char) (text : List Char) :
    IsCutByParts (part :: parts) (c :: text) ↔
      part.suits c = true ∧ IsCutByParts parts text := by
  constructor
  · intro cut
    obtain ⟨piece, rest, whole, first, remaining⟩ := (isCutInto_cons _ _ _).mp cut
    obtain ⟨d, rfl, suits⟩ := (Wildcard.takes_of_ne single piece).mp first
    obtain ⟨rfl, rfl⟩ := List.cons_eq_cons.mp whole
    exact ⟨suits, remaining⟩
  · rintro ⟨suits, remaining⟩
    exact (isCutInto_cons _ _ _).mpr ⟨[c], text, rfl, .inr ⟨c, rfl, suits⟩, remaining⟩

/-! ### Places -/

def singleParts (parts : List Wildcard) : Nat :=
  parts.countP (· ≠ .anyText)

@[simp] theorem singleParts_anyText (parts : List Wildcard) :
    singleParts (.anyText :: parts) = singleParts parts := by
  simp [singleParts]

theorem singleParts_cons {part : Wildcard} (single : part ≠ .anyText) (parts : List Wildcard) :
    singleParts (part :: parts) = singleParts parts + 1 := by
  simp [singleParts, single]

inductive IsGap : List Wildcard → Nat → Prop
  | here (parts : List Wildcard) : IsGap (.anyText :: parts) 0
  | pastGap {parts : List Wildcard} {i : Nat} (gap : IsGap parts i) : IsGap (.anyText :: parts) i
  | pastSingle {part : Wildcard} {parts : List Wildcard} {i : Nat} (single : part ≠ .anyText)
    (gap : IsGap parts i) : IsGap (part :: parts) (i + 1)

inductive SuitsAt (c : Char) : List Wildcard → Nat → Prop
  | here {part : Wildcard} (parts : List Wildcard) (suits : part.suits c = true) :
    SuitsAt c (part :: parts) 0
  | pastGap {parts : List Wildcard} {i : Nat} (suits : SuitsAt c parts i) :
    SuitsAt c (.anyText :: parts) i
  | pastSingle {part : Wildcard} {parts : List Wildcard} {i : Nat} (single : part ≠ .anyText)
    (suits : SuitsAt c parts i) : SuitsAt c (part :: parts) (i + 1)

/-- The parts behind the place with this number cut the text; there is none past the last. -/
inductive IsCutFrom (text : List Char) : List Wildcard → Nat → Prop
  | here {parts : List Wildcard} (cut : IsCutByParts parts text) : IsCutFrom text parts 0
  | pastGap {parts : List Wildcard} {i : Nat} (cut : IsCutFrom text parts (i + 1)) :
    IsCutFrom text (.anyText :: parts) (i + 1)
  | pastSingle {part : Wildcard} {parts : List Wildcard} {i : Nat} (single : part ≠ .anyText)
    (cut : IsCutFrom text parts i) : IsCutFrom text (part :: parts) (i + 1)

section Places

variable {part : Wildcard} (parts : List Wildcard) (c : Char) (text : List Char) (i : Nat)

@[simp] theorem not_isGap_nil : ¬ IsGap [] i := by
  rintro ⟨⟩

@[simp] theorem isGap_anyText : IsGap (.anyText :: parts) i ↔ i = 0 ∨ IsGap parts i := by
  constructor
  · rintro (_ | gap | ⟨single, _⟩)
    · exact .inl rfl
    · exact .inr gap
    · exact absurd rfl single
  · rintro (rfl | gap)
    · exact .here parts
    · exact .pastGap gap

theorem isGap_single (single : part ≠ .anyText) :
    IsGap (part :: parts) i ↔ ∃ j, i = j + 1 ∧ IsGap parts j := by
  constructor
  · rintro (_ | _ | ⟨_, gap⟩)
    · exact absurd rfl single
    · exact absurd rfl single
    · exact ⟨_, rfl, gap⟩
  · rintro ⟨j, rfl, gap⟩
    exact .pastSingle single gap

@[simp] theorem not_suitsAt_nil : ¬ SuitsAt c [] i := by
  rintro ⟨⟩

@[simp] theorem suitsAt_anyText : SuitsAt c (.anyText :: parts) i ↔ SuitsAt c parts i := by
  constructor
  · rintro (⟨_, suits⟩ | suits | ⟨single, _⟩)
    · cases suits
    · exact suits
    · exact absurd rfl single
  · exact .pastGap

theorem suitsAt_single (single : part ≠ .anyText) :
    SuitsAt c (part :: parts) i ↔
      i = 0 ∧ part.suits c = true ∨ ∃ j, i = j + 1 ∧ SuitsAt c parts j := by
  constructor
  · rintro (⟨_, suits⟩ | _ | ⟨_, suits⟩)
    · exact .inl ⟨rfl, suits⟩
    · exact absurd rfl single
    · exact .inr ⟨_, rfl, suits⟩
  · rintro (⟨rfl, suits⟩ | ⟨j, rfl, suits⟩)
    · exact .here parts suits
    · exact .pastSingle single suits

@[simp] theorem isCutFrom_zero : IsCutFrom text parts 0 ↔ IsCutByParts parts text := by
  constructor
  · rintro ⟨cut⟩
    exact cut
  · exact .here

@[simp] theorem not_isCutFrom_nil_succ : ¬ IsCutFrom text [] (i + 1) := by
  rintro ⟨⟩

@[simp] theorem isCutFrom_anyText_succ :
    IsCutFrom text (.anyText :: parts) (i + 1) ↔ IsCutFrom text parts (i + 1) := by
  constructor
  · rintro (_ | cut | ⟨single, _⟩)
    · exact cut
    · exact absurd rfl single
  · exact .pastGap

theorem isCutFrom_single_succ (single : part ≠ .anyText) :
    IsCutFrom text (part :: parts) (i + 1) ↔ IsCutFrom text parts i := by
  constructor
  · rintro (_ | _ | ⟨_, cut⟩)
    · exact absurd rfl single
    · exact cut
  · exact .pastSingle single

/-- Only from the last place is there nothing left to take. -/
theorem isCutFrom_nil : IsCutFrom [] parts i ↔ i = singleParts parts := by
  induction parts generalizing i with
  | nil => cases i <;> simp [singleParts]
  | cons part parts ih =>
    by_cases single : part = .anyText
    · subst single
      cases i with
      | zero => simpa using ih 0
      | succ i => simpa using ih (i + 1)
    · rw [singleParts_cons single]
      cases i with
      | zero => simpa using not_isCutByParts_nil single parts
      | succ i => rw [isCutFrom_single_succ parts [] i single, ih, Nat.add_right_cancel_iff]

/-- The next character is in a piece of any text at the place, or alone the next piece. The
induction passes the parts in front of the place; at the place itself, it passes those that take
any text. -/
theorem isCutFrom_cons :
    IsCutFrom (c :: text) parts i ↔
      IsGap parts i ∧ IsCutFrom text parts i ∨
        SuitsAt c parts i ∧ IsCutFrom text parts (i + 1) := by
  induction parts generalizing i with
  | nil => cases i <;> simp
  | cons part parts ih =>
    by_cases single : part = .anyText
    · subst single
      cases i with
      | zero =>
        have behind := ih 0
        rw [isCutFrom_zero] at behind
        rw [isCutFrom_zero, isCutByParts_anyText_cons]
        simp only [isGap_anyText, true_or, true_and, suitsAt_anyText, isCutFrom_anyText_succ,
          isCutFrom_zero]
        constructor
        · rintro (cut | cut)
          · obtain ⟨_, cut⟩ | later := behind.mp cut
            · exact .inl (isCutByParts_anyText_of ((isCutFrom_zero _ _).mp cut))
            · exact .inr later
          · exact .inl cut
        · rintro (cut | later)
          · exact .inr cut
          · exact .inl (behind.mpr (.inr later))
      | succ i => simpa using ih (i + 1)
    · cases i with
      | zero =>
        simp [isCutByParts_cons_cons single, isGap_single parts 0 single,
          suitsAt_single parts c 0 single, isCutFrom_single_succ parts text 0 single]
      | succ i =>
        simpa [isGap_single parts (i + 1) single, suitsAt_single parts c (i + 1) single,
          isCutFrom_single_succ parts _ _ single] using ih i

end Places

/-! ### The row of a pattern -/

namespace WildcardRow

def placesTaking (row : WildcardRow) (c : Char) : Nat :=
  row.blanks ||| row.takers.getD c 0

theorem testBit_one_shiftLeft (width i : Nat) :
    (1 <<< width).testBit i = decide (i = width) := by
  rw [Nat.one_shiftLeft, Nat.testBit_two_pow, decide_eq_decide.mpr eq_comm]

/-! What one more part adds to a row. -/

section Add

variable (row : WildcardRow) {part : Wildcard} (single : part ≠ .anyText) (c : Char) (i : Nat)

@[simp] theorem width_add_anyText : (row.add .anyText).width = row.width := rfl

include single in
theorem width_add : (row.add part).width = row.width + 1 := by
  cases part with
  | anyText => exact absurd rfl single
  | anyChar => rfl
  | char d => rfl

@[simp] theorem testBit_gaps_add_anyText :
    (row.add .anyText).gaps.testBit i = (row.gaps.testBit i || decide (i = row.width)) := by
  rw [add, Nat.testBit_or, testBit_one_shiftLeft]

include single in
theorem gaps_add : (row.add part).gaps = row.gaps := by
  cases part with
  | anyText => exact absurd rfl single
  | anyChar => rfl
  | char d => rfl

@[simp] theorem placesTaking_add_anyText :
    (row.add .anyText).placesTaking c = row.placesTaking c := rfl

theorem testBit_placesTaking_add :
    ((row.add part).placesTaking c).testBit i =
      ((row.placesTaking c).testBit i || part.suits c && decide (i = row.width)) := by
  cases part with
  | anyText => simp [Wildcard.suits]
  | anyChar =>
    simp only [placesTaking, add, Nat.testBit_or, testBit_one_shiftLeft, Wildcard.suits,
      Bool.true_and]
    rw [Bool.or_right_comm]
  | char d =>
    simp only [placesTaking, add, Nat.testBit_or, Std.HashMap.getD_insert, Wildcard.suits]
    by_cases same : (d == c) = true
    · rw [if_pos same, same, eq_of_beq same, Nat.testBit_or, testBit_one_shiftLeft, Bool.true_and,
        Bool.or_assoc]
    · rw [if_neg same, eq_false_of_ne_true same, Bool.false_and, Bool.or_false]

end Add

/-! What a row holds once all its parts are added. -/

section AddAll

variable (parts : List Wildcard) (row : WildcardRow) (c : Char) (i : Nat)

theorem width_foldl_add : (parts.foldl add row).width = row.width + singleParts parts := by
  induction parts generalizing row with
  | nil => rfl
  | cons part parts ih =>
    rw [List.foldl_cons, ih]
    by_cases single : part = .anyText
    · subst single
      rw [width_add_anyText, singleParts_anyText]
    · rw [width_add row single, singleParts_cons single]
      omega

theorem testBit_gaps_foldl_add :
    (parts.foldl add row).gaps.testBit i = true ↔
      row.gaps.testBit i = true ∨ ∃ j, i = row.width + j ∧ IsGap parts j := by
  induction parts generalizing row with
  | nil => simp
  | cons part parts ih =>
    rw [List.foldl_cons, ih]
    by_cases single : part = .anyText
    · subst single
      simp [and_or_left, exists_or, or_assoc]
    · simp only [width_add row single, gaps_add row single, isGap_single parts _ single]
      grind

theorem testBit_placesTaking_foldl_add :
    ((parts.foldl add row).placesTaking c).testBit i = true ↔
      (row.placesTaking c).testBit i = true ∨ ∃ j, i = row.width + j ∧ SuitsAt c parts j := by
  induction parts generalizing row with
  | nil => simp
  | cons part parts ih =>
    rw [List.foldl_cons, ih]
    by_cases single : part = .anyText
    · subst single
      simp
    · simp only [width_add row single, testBit_placesTaking_add, suitsAt_single parts c _ single]
      grind

@[simp] theorem width_ofParts : (ofParts parts).width = singleParts parts := by
  simp [ofParts, width_foldl_add, empty]

@[simp] theorem testBit_gaps_ofParts :
    (ofParts parts).gaps.testBit i = true ↔ IsGap parts i := by
  simp [ofParts, testBit_gaps_foldl_add, empty]

@[simp] theorem testBit_placesTaking_ofParts :
    ((ofParts parts).placesTaking c).testBit i = true ↔ SuitsAt c parts i := by
  have nothing : empty.placesTaking c = 0 := by simp [placesTaking, empty]
  rw [ofParts, testBit_placesTaking_foldl_add, nothing]
  simp [empty]

end AddAll

/-! ### Reading a text along the row -/

section Reading

variable (parts : List Wildcard) (reached : Nat) (c : Char) (i : Nat)

theorem testBit_next (row : WildcardRow) :
    (row.next reached c).testBit i = true ↔
      (∃ j, i = j + 1 ∧ reached.testBit j = true ∧ (row.placesTaking c).testBit j = true) ∨
        reached.testBit i = true ∧ row.gaps.testBit i = true := by
  have moved : row.next reached c =
      (reached &&& row.placesTaking c) <<< 1 ||| reached &&& row.gaps := rfl
  rw [moved, Nat.testBit_or, Nat.testBit_shiftLeft, Nat.testBit_and, Nat.testBit_and]
  cases i with
  | zero => simp
  | succ i => simp

/-- The induction is on the text: each character leads past the parts that take it, and stays in the
gaps, which is how the first piece of a cut goes on or ends. -/
theorem testBit_foldl_next (text : List Char) :
    (text.foldl (ofParts parts).next reached).testBit (ofParts parts).width = true ↔
      ∃ i, reached.testBit i = true ∧ IsCutFrom text parts i := by
  induction text generalizing reached with
  | nil => simp [isCutFrom_nil]
  | cons c text ih =>
    rw [List.foldl_cons, ih]
    simp only [testBit_next, testBit_placesTaking_ofParts, testBit_gaps_ofParts, isCutFrom_cons]
    constructor
    · rintro ⟨i, ⟨j, rfl, here, suits⟩ | ⟨here, gap⟩, cut⟩
      · exact ⟨j, here, .inr ⟨suits, cut⟩⟩
      · exact ⟨i, here, .inl ⟨gap, cut⟩⟩
    · rintro ⟨i, here, ⟨gap, cut⟩ | ⟨suits, cut⟩⟩
      · exact ⟨i, .inr ⟨here, gap⟩, cut⟩
      · exact ⟨i + 1, .inl ⟨i, rfl, here, suits⟩, cut⟩

theorem accepts_ofParts (text : List Char) :
    (ofParts parts).accepts text = true ↔ IsCutByParts parts text := by
  rw [accepts, testBit_foldl_next, ← isCutFrom_zero parts text]
  constructor
  · rintro ⟨i, here, cut⟩
    obtain rfl := Nat.testBit_one_eq_true_iff_self_eq_zero.mp here
    exact cut
  · intro cut
    exact ⟨0, rfl, cut⟩

end Reading

end WildcardRow

/-- A text matches when it can be cut into pieces for the parts. -/
theorem matchesFolded_iff (parts : List Wildcard) (text : List Char) :
    matchesFolded parts text = true ↔ IsCutByParts parts text := by
  induction parts generalizing text with
  | nil => simp [matchesFolded]
  | cons part parts ih =>
    by_cases single : part = .anyText
    · subst single
      rw [matchesFolded, WildcardRow.accepts_ofParts]
    · cases text with
      | nil => simpa [matchesFolded, single] using not_isCutByParts_nil single parts
      | cons c text =>
        rw [isCutByParts_cons_cons single, ← ih]
        cases part with
        | anyText => exact absurd rfl single
        | anyChar => simp [matchesFolded, Wildcard.suits]
        | char d => simp [matchesFolded, Wildcard.suits]

end Reckon
