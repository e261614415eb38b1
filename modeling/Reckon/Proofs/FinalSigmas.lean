import Mathlib.Data.List.Infix
import Reckon.Proofs.StandardCalls

/-!
# Final sigmas and looking for texts

Where case is ignored a text is looked for in lowercase, and so is what it stands in. The lowercase
of a part of a text is that of the part alone, except for capital sigmas: whether one ends a word
may be decided by characters before or behind the part. So a part is found again in lowercase if
each capital sigma of it ends a word in the text exactly if it does in the part.
-/

namespace Reckon

/-- Whether a word ends between the two parts of a text, so that a sigma there is a final one. -/
def endsWord (before after : List Char) : Bool :=
  reachesCased before.reverse && !reachesCased after

def lowercaseBetween (before : List Char) (c : Char) (after : List Char) : List Char :=
  if c = '\u03a3' then if endsWord before after then ['\u03c2'] else ['\u03c3'] else lowercaseOf c

def lowercaseWithin : (before part after : List Char) → List Char
  | _, [], _ => []
  | before, c :: rest, after =>
    lowercaseBetween before c (rest ++ after) ++ lowercaseWithin (before ++ [c]) rest after

/-- Each capital sigma of a part of a text ends a word in the text exactly if it does in it. -/
def SigmasKept (before part after : List Char) : Prop :=
  ∀ i < part.length, part[i]? = some '\u03a3' →
    endsWord (part.take i) (part.drop (i + 1)) =
      endsWord (before ++ part.take i) (part.drop (i + 1) ++ after)

instance (before part after : List Char) : Decidable (SigmasKept before part after) :=
  inferInstanceAs (Decidable (∀ i < part.length, part[i]? = some '\u03a3' → _ = _))

theorem sigmasKept_of_not_mem {part : List Char} (h : '\u03a3' ∉ part) (before after : List Char) :
    SigmasKept before part after :=
  fun _ _ hi => absurd (List.mem_of_getElem? hi) h

/-! ### Parts of a text in lowercase -/

theorem lowercaseAfter_append (before s t : List Char) :
    lowercaseAfter before.reverse (s ++ t) =
      lowercaseWithin before s t ++ lowercaseAfter (before ++ s).reverse t := by
  induction s generalizing before with
  | nil => rw [List.append_nil, lowercaseWithin, List.nil_append, List.nil_append]
  | cons c s ih =>
    have hfirst : lowercaseAfter before.reverse (c :: s ++ t) =
        lowercaseBetween before c (s ++ t) ++ lowercaseAfter (c :: before.reverse) (s ++ t) := rfl
    rw [hfirst, ← List.reverse_concat, ih, lowercaseWithin, List.append_assoc, List.append_assoc]
    rfl

theorem lowercase_eq_within (s : List Char) : lowercase s = lowercaseWithin [] s [] := by
  have h := lowercaseAfter_append [] s []
  rw [List.append_nil] at h
  exact h.trans (List.append_nil _)

theorem lowercase_three_parts (before part after : List Char) :
    ∃ earlier later, lowercase (before ++ part ++ after) =
      earlier ++ lowercaseWithin before part after ++ later := by
  rw [List.append_assoc, lowercase, ← List.reverse_nil, lowercaseAfter_append, List.nil_append,
    lowercaseAfter_append, ← List.append_assoc]
  exact ⟨_, _, rfl⟩

theorem length_lowercaseBetween (before before' after after' : List Char) (c : Char) :
    (lowercaseBetween before c after).length = (lowercaseBetween before' c after').length := by
  unfold lowercaseBetween
  split
  · rw [apply_ite List.length, apply_ite List.length]
    simp
  · rfl

theorem lowercaseBetween_eq_iff {before before' after after' : List Char} {c : Char} :
    lowercaseBetween before c after = lowercaseBetween before' c after' ↔
      (c = '\u03a3' → endsWord before' after' = endsWord before after) := by
  unfold lowercaseBetween
  by_cases hc : c = '\u03a3'
  · simp only [hc, if_true, true_imp_iff]
    cases endsWord before after <;> cases endsWord before' after' <;> decide
  · simp [hc]

/-- The induction is on the part, of which `front` has been passed already. -/
theorem lowercaseWithin_eq_iff (before front part after : List Char) :
    lowercaseWithin (before ++ front) part after = lowercaseWithin front part [] ↔
      ∀ i < part.length, part[i]? = some '\u03a3' →
        endsWord (front ++ part.take i) (part.drop (i + 1)) =
          endsWord (before ++ (front ++ part.take i)) (part.drop (i + 1) ++ after) := by
  induction part generalizing front with
  | nil => simp [lowercaseWithin]
  | cons c part ih =>
    have hlength := length_lowercaseBetween (before ++ front) front (part ++ after) (part ++ []) c
    have hsplit {s t s' t' : List Char} (h : s.length = s'.length) :
        s ++ t = s' ++ t' ↔ s = s' ∧ t = t' :=
      ⟨fun happend => List.append_inj happend h, fun ⟨hs, ht⟩ => hs ▸ ht ▸ rfl⟩
    rw [lowercaseWithin, lowercaseWithin, List.append_assoc, hsplit hlength,
      lowercaseBetween_eq_iff, ih (front ++ [c]), List.length_cons, Nat.forall_lt_succ_left]
    simp

theorem lowercaseWithin_of_sigmasKept {before part after : List Char}
    (h : SigmasKept before part after) : lowercaseWithin before part after = lowercase part := by
  have hkept := (lowercaseWithin_eq_iff before [] part after).mpr h
  rw [lowercase_eq_within, ← hkept, List.append_nil]

/-! ### Looking for a part -/

structure Finds (rule : TextRule) (text part : String) : Prop where
  member : Operator.member.apply rule [.string part, .string text] = .ok (.boolean true)
  contains : ∃ f, Library.standard.get? "CONTAINS" = some f ∧
    ∀ moment, f.body rule moment [.string text, .string part] = .ok (.boolean true)

namespace ChoiceLibrary

def containsFunction : Function :=
  .fixed "CONTAINS" 2 fun rule _ arguments =>
    (evaluated ((argument arguments 1).isIn rule (argument arguments 0))).map .boolean

theorem containsFunction_mem : containsFunction ∈ Library.standardFunctions := by
  have hmem : containsFunction ∈ functions := by simp [functions, containsFunction]
  exact Library.mem_standard_of_choice hmem

theorem get?_contains :
    ∃ f, Library.standard.get? "CONTAINS" = some f ∧ ∀ rule moment container value,
      f.body rule moment [container, value] = (evaluated (value.isIn rule container)).map .boolean :=
  ⟨containsFunction, Library.get?_standard containsFunction containsFunction_mem,
    fun _ _ _ _ => rfl⟩

end ChoiceLibrary

theorem finds_iff {rule : TextRule} {text part : String} :
    Finds rule text part ↔ rule.occurs part.toList text.toList = true := by
  have hisIn : (Value.string part).isIn rule (.string text) =
      .ok (rule.occurs part.toList text.toList) := rfl
  constructor
  · intro h
    have hmember : ((Value.string part).isIn rule (.string text)).map Value.boolean =
        .ok (.boolean true) := h.member
    rw [hisIn] at hmember
    exact Value.boolean.inj (Except.ok.inj hmember)
  · intro h
    rw [h] at hisIn
    refine ⟨congrArg (Except.map Value.boolean) hisIn, ?_⟩
    obtain ⟨f, hf, hbody⟩ := ChoiceLibrary.get?_contains
    refine ⟨f, hf, fun moment => ?_⟩
    rw [hbody, hisIn]
    rfl

/-- A part of a text is found in it; where case is ignored, provided that lowercase keeps its
sigmas, which it does if the part has no capital ones. -/
theorem finds_part_of_text {text part : String} {before after : List Char}
    (h : text.toList = before ++ part.toList ++ after) :
    Finds .exact text part ∧
    (SigmasKept before part.toList after → Finds .ignoringCase text part) ∧
    ('\u03a3' ∉ part.toList → SigmasKept before part.toList after) := by
  refine ⟨finds_iff.mpr ?_, fun hkept => finds_iff.mpr ?_, fun hno => ?_⟩
  · rw [TextRule.occurs, occursIn_iff]
    exact ⟨before, after, h.symm⟩
  · obtain ⟨earlier, later, hlowercase⟩ := lowercase_three_parts before part.toList after
    rw [lowercaseWithin_of_sigmasKept hkept, ← h] at hlowercase
    rw [TextRule.occurs, occursIn_iff]
    exact ⟨earlier, later, hlowercase.symm⟩
  · exact sigmasKept_of_not_mem hno before after

/-- A word with a final sigma is found where it stands as a word. -/
theorem finds_word_with_final_sigma :
    let text := "Η ΟΔΟΣ."
    let part := "ΟΔΟΣ"
    SigmasKept ['Η', ' '] part.toList ['.'] ∧ Finds .exact text part ∧
      Finds .ignoringCase text part := by
  intro text part
  have hkept : SigmasKept ['Η', ' '] part.toList ['.'] := by decide +kernel
  have hparts : text.toList = ['Η', ' '] ++ part.toList ++ ['.'] := by decide
  have hfound := finds_part_of_text hparts
  exact ⟨hkept, hfound.1, hfound.2.1 hkept⟩

/-- The sigma of the part ends a word in it and does not in the text. -/
theorem misses_sigma_inside_word :
    ¬∀ text part : String, part.toList <:+: text.toList →
      Finds .exact text part ∧ Finds .ignoringCase text part := by
  intro h
  obtain ⟨-, hfinds⟩ := h "ΑΣΑ" "ΑΣ" (by decide)
  rw [finds_iff, TextRule.occurs, occursIn_iff] at hfinds
  exact absurd hfinds (by decide +kernel)

end Reckon
