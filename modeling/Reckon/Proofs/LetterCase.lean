import Reckon.Names
import Reckon.Proofs.Places

/-!
# Small letters

`small` makes the ASCII letters of a text small and leaves all else as it is. What does not tell a
capital letter from its small one cannot tell a text from its small one either; this goes for the
runs of a class of characters, for what a text without letters is a prefix of, and for the lines and
columns of a text.
-/

namespace Reckon

/-! ### Characters -/

theorem toLower_eq_self_or (c : Char) :
    c.toLower = c ∨ ∃ i < 26, c = Char.ofNat (65 + i) ∧ c.toLower = Char.ofNat (97 + i) := by
  have hsmall : ∀ i < 26, (Char.ofNat (65 + i)).toLower = Char.ofNat (97 + i) := by decide
  by_cases h : 65 ≤ c.toNat ∧ c.toNat ≤ 90
  · have hc : c = Char.ofNat (65 + (c.toNat - 65)) := by
      rw [Nat.add_sub_cancel' h.1, Char.ofNat_toNat]
    have hi : c.toNat - 65 < 26 := Nat.sub_lt_left_of_lt_add h.1 (Nat.lt_succ_of_le h.2)
    exact .inr ⟨c.toNat - 65, hi, hc, (congrArg Char.toLower hc).trans (hsmall _ hi)⟩
  · exact .inl (dif_neg h)

/-- What makes no difference between a capital letter and its small one. -/
theorem apply_toLower {α : Type} {f : Char → α}
    (h : ∀ i < 26, f (Char.ofNat (97 + i)) = f (Char.ofNat (65 + i))) (c : Char) :
    f c.toLower = f c := by
  rcases toLower_eq_self_or c with hc | ⟨i, hi, hc, hlower⟩
  · rw [hc]
  · rw [hlower, h i hi, ← hc]

theorem toLower_eq_iff {c d : Char} (h : d.isAlpha = false) : c.toLower = d ↔ c = d := by
  rcases toLower_eq_self_or c with hc | ⟨i, hi, hc, hlower⟩
  · rw [hc]
  · have hcapital : ∀ i < 26, (Char.ofNat (65 + i)).isAlpha = true := by decide
    have hsmall : ∀ i < 26, (Char.ofNat (97 + i)).isAlpha = true := by decide
    have hne {e : Char} (he : e.isAlpha = true) : e ≠ d := by
      rintro rfl
      rw [he] at h
      exact absurd h nofun
    rw [hlower]
    exact iff_of_false (hne (hsmall i hi)) (hc ▸ hne (hcapital i hi))

/-! ### Texts -/

def small (s : List Char) : List Char :=
  s.map Char.toLower

def Letterless (s : List Char) : Prop :=
  ∀ c ∈ s, c.isAlpha = false

instance (s : List Char) : Decidable (Letterless s) :=
  decidable_of_iff (s.all (fun c => !c.isAlpha) = true) (by simp [Letterless])

section

variable {s l : List Char}

@[simp] theorem small_nil : small [] = [] := rfl

@[simp] theorem small_cons (c : Char) (s : List Char) : small (c :: s) = c.toLower :: small s := rfl

@[simp] theorem small_append (s t : List Char) : small (s ++ t) = small s ++ small t :=
  List.map_append

@[simp] theorem length_small (s : List Char) : (small s).length = s.length :=
  List.length_map _

@[simp] theorem isEmpty_small (s : List Char) : (small s).isEmpty = s.isEmpty :=
  List.isEmpty_map

theorem drop_small (s : List Char) (n : Nat) : (small s).drop n = small (s.drop n) :=
  List.map_drop.symm

theorem take_small (s : List Char) (n : Nat) : (small s).take n = small (s.take n) :=
  List.map_take.symm

theorem getElem?_small (s : List Char) (i : Nat) : (small s)[i]? = s[i]?.map Char.toLower :=
  List.getElem?_map

/-- The run of a class that takes in letters in both cases. -/
theorem takeWhile_small {p : Char → Bool} (h : ∀ c, p c.toLower = p c) (s : List Char) :
    (small s).takeWhile p = small (s.takeWhile p) := by
  rw [small, List.takeWhile_map, small]
  congr 2
  exact funext h

theorem dropWhile_small {p : Char → Bool} (h : ∀ c, p c.toLower = p c) (s : List Char) :
    (small s).dropWhile p = small (s.dropWhile p) := by
  rw [small, List.dropWhile_map, small]
  congr 2
  exact funext h

/-- A letter that a text without letters cannot hold, in either case. -/
theorem toLower_eq_self_or_not_mem (h : Letterless l) (c : Char) :
    c.toLower = c ∨ c.toLower ∉ l ∧ c ∉ l := by
  by_cases hc : c.toLower = c
  · exact .inl hc
  · exact .inr ⟨fun hmem => hc ((toLower_eq_iff (h _ hmem)).mp rfl).symm,
      fun hmem => hc ((toLower_eq_iff (h c hmem)).mpr rfl)⟩

theorem small_eq_iff (h : Letterless l) : small s = l ↔ s = l := by
  induction l generalizing s with
  | nil => exact List.map_eq_nil_iff
  | cons d l ih =>
    obtain ⟨hd, hl⟩ := List.forall_mem_cons.mp h
    cases s with
    | nil => exact iff_of_false nofun nofun
    | cons c s => rw [small_cons, List.cons.injEq, List.cons.injEq, toLower_eq_iff hd, ih hl]

theorem small_of_letterless (h : Letterless l) : small l = l :=
  (small_eq_iff h).mpr rfl

theorem isPrefix_small (h : Letterless l) : l <+: small s ↔ l <+: s := by
  rw [List.prefix_iff_eq_take, List.prefix_iff_eq_take, take_small, eq_comm, small_eq_iff h,
    eq_comm]

/-! ### Lines and columns -/

theorem breaksAt_small (s : List Char) (i : Nat) : breaksAt (small s) i = breaksAt s i := by
  have hbreak {c : Char} (hc : c.isAlpha = false) (j : Nat) :
      ((small s)[j]? == some c) = (s[j]? == some c) := by
    rw [getElem?_small]
    cases s[j]? with
    | none => rfl
    | some d =>
      rw [Option.map_some, Option.some_beq_some, Option.some_beq_some]
      exact decide_eq_decide.mpr (toLower_eq_iff hc)
  simp only [breaksAt, bne, hbreak (c := '\n') rfl, hbreak (c := '\r') rfl]

theorem place_small (s : List Char) : place (small s) = place s := by
  funext n
  rw [place, place, funext (breaksAt_small s)]

end

/-! ### Names -/

theorem isCased_toLower (c : Char) : isCased c.toLower = isCased c :=
  apply_toLower (by decide +kernel) c

theorem isCaseIgnorable_toLower (c : Char) : isCaseIgnorable c.toLower = isCaseIgnorable c :=
  apply_toLower (by decide +kernel) c

theorem lowercaseOf_toLower (c : Char) : lowercaseOf c.toLower = lowercaseOf c :=
  apply_toLower (by decide +kernel) c

theorem reachesCased_small (s : List Char) : reachesCased (small s) = reachesCased s := by
  rw [reachesCased, reachesCased, dropWhile_small isCaseIgnorable_toLower]
  cases s.dropWhile isCaseIgnorable with
  | nil => rfl
  | cons c rest => exact isCased_toLower c

/-- Whether a sigma ends a word depends on letters but not on their case. -/
theorem lowercaseAfter_small (behind s : List Char) :
    lowercaseAfter (small behind) (small s) = lowercaseAfter behind s := by
  induction s generalizing behind with
  | nil => rfl
  | cons c s ih =>
    rw [small_cons, lowercaseAfter, lowercaseAfter, reachesCased_small, reachesCased_small,
      lowercaseOf_toLower, if_congr (toLower_eq_iff rfl) rfl rfl, ← small_cons, ih]

def smallText (s : String) : String :=
  String.ofList (small s.toList)

theorem smallText_ofList (s : List Char) :
    smallText (String.ofList s) = String.ofList (small s) := by
  rw [smallText, String.toList_ofList]

theorem nameKey_smallText (name : String) : nameKey (smallText name) = nameKey name := by
  rw [nameKey, nameKey, smallText, String.toList_ofList]
  exact congrArg String.ofList (lowercaseAfter_small [] name.toList)

end Reckon
