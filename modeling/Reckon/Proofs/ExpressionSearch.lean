import Reckon.SearchExpression
import Reckon.Proofs.FoldedCharacters
import Reckon.Proofs.WildcardRows

/-!
# What an expression finds

An expression is found in a text when its parts, one after the other, take a piece of it. What a part
may take depends on what stands in front of it and behind it, as ends of the text take nothing and
stand nowhere else. An expression that is built is found by the search exactly where it is found in
this sense, and a pattern's expression is built from its characters one by one.
-/

namespace Reckon

/-! ### The meaning of expressions -/

/-- A piece of a text with these characters in front of it and behind it. -/
inductive ExpressionAtom.Takes (e : SearchExpression) :
    ExpressionAtom → (before piece after : List Char) → Prop where
  | front (after : List Char) : Takes e front [] [] after
  | back (before : List Char) : Takes e back before [] []
  | dot {d : Char} (before after : List Char) (hd : e.dotTakesBreak = true ∨ d ≠ '\n') :
      Takes e dot before [d] after
  | literal (c : Char) (before after : List Char) : Takes e (literal c) before [c] after
  | folded {c d f : Char} (before after : List Char) (hcase : e.ignoresCase = true)
      (hc : FoldsTo c f) (hd : FoldsTo d f) : Takes e (literal c) before [d] after

inductive PartsTake (e : SearchExpression) :
    List ExpressionPart → (before piece after : List Char) → Prop where
  | nil (before after : List Char) : PartsTake e [] before [] after
  | once {atom : ExpressionAtom} {parts : List ExpressionPart} {before piece rest after : List Char}
      (hpiece : atom.Takes e before piece (rest ++ after))
      (hrest : PartsTake e parts (before ++ piece) rest after) :
      PartsTake e (.once atom :: parts) before (piece ++ rest) after
  | enough {atom : ExpressionAtom} {parts : List ExpressionPart} {before rest after : List Char}
      (hrest : PartsTake e parts before rest after) :
      PartsTake e (.many atom :: parts) before rest after
  | more {atom : ExpressionAtom} {parts : List ExpressionPart} {before piece rest after : List Char}
      (hpiece : atom.Takes e before piece (rest ++ after))
      (hrest : PartsTake e (.many atom :: parts) (before ++ piece) rest after) :
      PartsTake e (.many atom :: parts) before (piece ++ rest) after

def SearchExpression.Finds (e : SearchExpression) (text : List Char) : Prop :=
  ∃ parts before piece after, readParts [] e.source = some parts ∧
    text = before ++ (piece ++ after) ∧ PartsTake e parts before piece after

/-! ### Parts -/

variable {e : SearchExpression} {parts : List ExpressionPart} {before piece after : List Char}

theorem partsTake_nil : PartsTake e [] before piece after ↔ piece = [] := by
  constructor
  · intro h
    cases h
    rfl
  · rintro rfl
    exact .nil before after

theorem partsTake_once {atom : ExpressionAtom} :
    PartsTake e (.once atom :: parts) before piece after ↔
      ∃ taken rest, piece = taken ++ rest ∧ atom.Takes e before taken (rest ++ after) ∧
        PartsTake e parts (before ++ taken) rest after := by
  constructor
  · intro h
    cases h with
    | once hpiece hrest => exact ⟨_, _, rfl, hpiece, hrest⟩
  · rintro ⟨taken, rest, rfl, hpiece, hrest⟩
    exact .once hpiece hrest

theorem partsTake_many {atom : ExpressionAtom} :
    PartsTake e (.many atom :: parts) before piece after ↔
      PartsTake e parts before piece after ∨
        ∃ taken rest, piece = taken ++ rest ∧ atom.Takes e before taken (rest ++ after) ∧
          PartsTake e (.many atom :: parts) (before ++ taken) rest after := by
  constructor
  · intro h
    cases h with
    | enough hrest => exact .inl hrest
    | more hpiece hrest => exact .inr ⟨_, _, rfl, hpiece, hrest⟩
  · rintro (hrest | ⟨taken, rest, rfl, hpiece, hrest⟩)
    · exact .enough hrest
    · exact .more hpiece hrest

theorem takes_front : ExpressionAtom.front.Takes e before piece after ↔
    before = [] ∧ piece = [] := by
  constructor
  · intro h
    cases h
    exact ⟨rfl, rfl⟩
  · rintro ⟨rfl, rfl⟩
    exact .front after

theorem takes_back : ExpressionAtom.back.Takes e before piece after ↔ piece = [] ∧ after = [] := by
  constructor
  · intro h
    cases h
    exact ⟨rfl, rfl⟩
  · rintro ⟨rfl, rfl⟩
    exact .back before

/-- A part that takes one character takes what suits its wildcard once it is folded. -/
theorem takes_iff_suits (hcase : e.ignoresCase = true) (hdot : e.dotTakesBreak = true)
    {atom : ExpressionAtom} {w : Wildcard} (hw : Wildcard.ofPart? (.once atom) = some w) :
    atom.Takes e before piece after ↔ ∃ d, piece = [d] ∧ w.suits (foldCase d) = true := by
  cases atom with
  | front | back => cases hw
  | dot =>
    cases hw
    constructor
    · intro h
      cases h
      exact ⟨_, rfl, rfl⟩
    · rintro ⟨d, rfl, -⟩
      exact .dot before after (.inl hdot)
  | literal c =>
    cases hw
    constructor
    · intro h
      cases h with
      | literal => exact ⟨c, rfl, beq_self_eq_true _⟩
      | folded _ _ _ hc hd =>
        exact ⟨_, rfl, beq_iff_eq.mpr (exists_foldsTo_iff.mp ⟨_, hc, hd⟩)⟩
    · rintro ⟨d, rfl, hd⟩
      obtain ⟨f, hc, hd⟩ := exists_foldsTo_iff.mpr (beq_iff_eq.mp hd)
      exact .folded before after hcase hc hd

/-- A repeated stop takes any piece, as a wildcard for any text does. The induction is on what is left
of the text: the first character is in the piece or behind it. -/
theorem partsTake_many_dot (hdot : e.dotTakesBreak = true) {wildcards : List Wildcard}
    (h : ∀ before piece, PartsTake e parts before piece after ↔
      after = [] ∧ IsCutByParts wildcards (piece.map foldCase)) :
    PartsTake e (.many .dot :: parts) before piece after ↔
      after = [] ∧ IsCutByParts (.anyText :: wildcards) (piece.map foldCase) := by
  induction piece generalizing before with
  | nil =>
    rw [partsTake_many, h, List.map_nil, isCutByParts_anyText_nil]
    refine or_iff_left ?_
    rintro ⟨taken, rest, hnone, hpiece, -⟩
    obtain ⟨rfl, -⟩ := List.append_eq_nil_iff.mp hnone.symm
    cases hpiece
  | cons d piece ih =>
    rw [partsTake_many, h, List.map_cons, isCutByParts_anyText_cons, and_or_left, ← ih]
    refine or_congr_right ⟨?_, fun hrest => ?_⟩
    · rintro ⟨taken, rest, hcut, hpiece, hrest⟩
      cases hpiece
      obtain ⟨rfl, rfl⟩ := List.cons_eq_cons.mp hcut
      exact hrest
    · exact ⟨[d], piece, rfl, .dot _ _ (.inl hdot), hrest⟩

/-- A single character is in the piece of the part in front, or there is none. -/
theorem partsTake_once_single (hcase : e.ignoresCase = true) (hdot : e.dotTakesBreak = true)
    {atom : ExpressionAtom} {w : Wildcard} (hw : Wildcard.ofPart? (.once atom) = some w)
    {wildcards : List Wildcard}
    (h : ∀ before piece, PartsTake e parts before piece after ↔
      after = [] ∧ IsCutByParts wildcards (piece.map foldCase)) :
    PartsTake e (.once atom :: parts) before piece after ↔
      after = [] ∧ IsCutByParts (w :: wildcards) (piece.map foldCase) := by
  have hsingle : w ≠ .anyText := by
    rintro rfl
    cases atom <;> cases hw
  rw [partsTake_once]
  simp only [takes_iff_suits hcase hdot hw, h]
  cases piece with
  | nil =>
    refine iff_of_false ?_ fun ⟨_, hcut⟩ => not_isCutByParts_nil hsingle _ hcut
    rintro ⟨_, rest, hnone, ⟨d, rfl, -⟩, -⟩
    cases hnone
  | cons d piece =>
    rw [List.map_cons, isCutByParts_cons_cons hsingle]
    constructor
    · rintro ⟨_, rest, hcut, ⟨d', rfl, hsuits⟩, hafter, hrest⟩
      obtain ⟨rfl, rfl⟩ := List.cons_eq_cons.mp hcut
      exact ⟨hafter, hsuits, hrest⟩
    · rintro ⟨hafter, hsuits, hrest⟩
      exact ⟨[d], piece, rfl, ⟨d, rfl, hsuits⟩, hafter, hrest⟩

theorem partsTake_iff (hcase : e.ignoresCase = true) (hdot : e.dotTakesBreak = true)
    {wildcards : List Wildcard} (hw : parts.mapM Wildcard.ofPart? = some wildcards) :
    PartsTake e (parts ++ [.once .back]) before piece after ↔
      after = [] ∧ IsCutByParts wildcards (piece.map foldCase) := by
  induction parts generalizing wildcards before piece with
  | nil =>
    obtain rfl : wildcards = [] := (Option.some.inj hw).symm
    rw [List.nil_append, partsTake_once, isCutByParts_nil, List.map_eq_nil_iff]
    simp only [takes_back, partsTake_nil]
    constructor
    · rintro ⟨_, _, rfl, ⟨rfl, hafter⟩, rfl⟩
      exact ⟨hafter, rfl⟩
    · rintro ⟨rfl, rfl⟩
      exact ⟨[], [], rfl, ⟨rfl, rfl⟩, rfl⟩
  | cons part parts ih =>
    rw [List.mapM_cons, Option.bind_eq_bind, Option.bind_eq_some_iff] at hw
    obtain ⟨w, hpart, hw⟩ := hw
    obtain ⟨ws, hparts, hws⟩ := Option.bind_eq_some_iff.mp hw
    cases hws
    have hrest (before piece : List Char) := @ih before piece ws hparts
    cases part with
    | once atom => exact partsTake_once_single hcase hdot hpart hrest
    | many atom =>
      cases atom with
      | dot =>
        cases hpart
        exact partsTake_many_dot hdot hrest
      | front | back | literal => cases hpart

/-! ### Searches -/

namespace SearchExpression

theorem wildcards?_eq_some {wildcards : List Wildcard} (h : e.wildcards? = some wildcards) :
    e.ignoresCase = true ∧ e.dotTakesBreak = true ∧ ∃ parts,
      readParts [] e.source = some (.once .front :: (parts ++ [.once .back])) ∧
        parts.mapM Wildcard.ofPart? = some wildcards := by
  unfold wildcards? at h
  split at h
  · rename_i parts hread
    rw [Option.ite_none_right_eq_some] at h
    obtain ⟨hflags, hparts⟩ := h
    simp only [Bool.and_eq_true, beq_iff_eq] at hflags
    obtain ⟨⟨hcase, hdot⟩, hlast⟩ := hflags
    refine ⟨hcase, hdot, parts.dropLast, ?_, hparts⟩
    rw [hread, List.dropLast_append_getLast? _ hlast]
  · cases h

/-- The search finds an expression that is built where the expression is. -/
theorem search?_iff_finds {text : List Char} {found : Bool} (h : e.search? text = some found) :
    found = true ↔ e.Finds text := by
  obtain ⟨wildcards, hwildcards, hfound⟩ := Option.bind_eq_some_iff.mp h
  rw [Option.ite_none_right_eq_some, Option.some.injEq] at hfound
  obtain ⟨hcase, hdot, parts, hread, hw⟩ := wildcards?_eq_some hwildcards
  have htake (before piece after : List Char) :=
    @partsTake_iff e parts before piece after hcase hdot
    wildcards hw
  rw [← hfound.2, matchesFolded_iff]
  constructor
  · intro hcut
    refine ⟨_, [], text, [], hread, (List.append_nil _).symm, ?_⟩
    exact .once (.front _) ((htake _ _ _).mpr ⟨rfl, hcut⟩)
  · rintro ⟨_, before, piece, after, hread', rfl, hparts⟩
    obtain rfl := Option.some.inj (hread.symm.trans hread')
    obtain ⟨_, rest, rfl, hfront, hrest⟩ := partsTake_once.mp hparts
    obtain ⟨rfl, rfl⟩ := takes_front.mp hfront
    obtain ⟨rfl, hcut⟩ := (htake _ _ _).mp hrest
    rwa [List.append_nil]

end SearchExpression

/-! ### The expression of a pattern -/

def ExpressionPart.ofPatternChar (c : Char) : ExpressionPart :=
  if c = '%' then .many .dot else if c = '_' then .once .dot else .once (.literal c)

theorem readParts_once {c : Char} {atom : ExpressionAtom}
    (hatom : ExpressionAtom.ofChar? c = some atom) (hmark : c ≠ '\\' ∧ c ≠ '*')
    (read : List ExpressionPart) (rest : List Char) :
    readParts read (c :: rest) = readParts (.once atom :: read) rest := by
  rw [readParts.eq_def]
  simp only [if_neg hmark.1, if_neg hmark.2, hatom, Option.bind_eq_bind, Option.bind_some]

theorem readParts_star (atom : ExpressionAtom) (read : List ExpressionPart) (rest : List Char) :
    readParts (.once atom :: read) ('*' :: rest) = readParts (.many atom :: read) rest := by
  rw [readParts.eq_def]
  rfl

/-- An escaped character is read as itself, whatever it means elsewhere. -/
theorem readParts_escaped (c : Char) (read : List ExpressionPart) (rest : List Char) :
    readParts read (escaped c ++ rest) = readParts (.once (.literal c) :: read) rest := by
  unfold escaped
  split
  · rename_i hmeta
    rw [readParts.eq_def]
    exact if_pos hmeta
  · rename_i hplain
    have hne : ∀ m ∈ metaCharacters, c ≠ m := by
      rintro m hm rfl
      exact hplain (List.contains_iff_mem.mpr hm)
    refine readParts_once ?_ ⟨hne _ (by decide), hne _ (by decide)⟩ read rest
    simp only [metaCharacters, List.forall_mem_cons] at hne
    simp [ExpressionAtom.ofChar?, hne]

theorem readParts_patternPart (c : Char) (read : List ExpressionPart) (rest : List Char) :
    readParts read (patternPart c ++ rest) = readParts (.ofPatternChar c :: read) rest := by
  have hdot := @readParts_once '.' .dot rfl (by decide) read
  unfold patternPart ExpressionPart.ofPatternChar
  split
  · exact (hdot _).trans (readParts_star _ _ _)
  split
  · exact hdot _
  · exact readParts_escaped c read rest

theorem readParts_flatMap (pattern : List Char) (read : List ExpressionPart) (rest : List Char) :
    readParts read (pattern.flatMap patternPart ++ rest) =
      readParts ((pattern.map ExpressionPart.ofPatternChar).reverse ++ read) rest := by
  induction pattern generalizing read with
  | nil => rfl
  | cons c pattern ih =>
    rw [List.flatMap_cons, List.append_assoc, readParts_patternPart, ih, List.map_cons,
      List.reverse_cons, List.append_assoc, List.singleton_append]

theorem readParts_likeExpression (pattern : List Char) :
    readParts [] (likeExpression pattern).source =
      some (.once .front :: (pattern.map ExpressionPart.ofPatternChar ++ [.once .back])) := by
  have hsource : (likeExpression pattern).source = '^' :: (pattern.flatMap patternPart ++ ['$']) :=
    rfl
  rw [hsource, @readParts_once '^' .front rfl (by decide), readParts_flatMap,
    @readParts_once '$' .back rfl (by decide), readParts, List.reverse_cons, List.reverse_append,
    List.reverse_reverse]
  rfl

theorem ofPart?_ofPatternChar (c : Char) :
    Wildcard.ofPart? (.ofPatternChar c) = some (.ofChar c) := by
  unfold ExpressionPart.ofPatternChar Wildcard.ofChar
  split
  · rfl
  split
  · rfl
  · rfl

theorem mapM_ofPatternChar (pattern : List Char) :
    (pattern.map ExpressionPart.ofPatternChar).mapM Wildcard.ofPart? =
      some (pattern.map Wildcard.ofChar) := by
  induction pattern with
  | nil => rfl
  | cons c pattern ih =>
    rw [List.map_cons, List.mapM_cons, ofPart?_ofPatternChar, ih]
    rfl

theorem wildcards?_likeExpression (pattern : List Char) :
    (likeExpression pattern).wildcards? = some (pattern.map Wildcard.ofChar) := by
  rw [SearchExpression.wildcards?, readParts_likeExpression]
  dsimp only
  rw [List.getLast?_concat, List.dropLast_concat, mapM_ofPatternChar]
  rfl

end Reckon
