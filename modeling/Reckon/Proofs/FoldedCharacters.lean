import Reckon.CaseFolding

/-!
# What characters fold to

A map of code points is read off its entries: the entry that takes a code point says where it goes,
and without one it stays. Halving finds that entry where the entries are in order. Those of the
folding map are, and lead to characters only, so that a character folds to exactly one.
-/

namespace Reckon

/-! ### Where a map moves code points -/

namespace CodeMap

inductive Moves (map : CodeMap) (code : Nat) : Nat → Prop where
  | listed {first last step target : Nat} (hentry : (first, last, step, target) ∈ map)
      (hfirst : first ≤ code) (hlast : code ≤ last) (hstep : (code - first) % step = 0) :
      Moves map code (target + (code - first))
  | unlisted (hnone : ∀ first last step target, (first, last, step, target) ∈ map →
      first ≤ code → code ≤ last → ¬(code - first) % step = 0) : Moves map code code

structure Increasing (map : CodeMap) : Prop where
  first_le : ∀ entry ∈ map.toList, entry.1 ≤ entry.2.1
  last_lt : map.toList.Pairwise fun before after => before.2.1 < after.1

variable {map : CodeMap} {code : Nat}

theorem stays_between_entries {lo : Nat}
    (hbelow : ∀ i, i < lo → (hi : i < map.size) → map[i].2.1 < code)
    (habove : ∀ i, lo ≤ i → (hi : i < map.size) → code < map[i].1) : map.Moves code code := by
  refine .unlisted fun first last step target hentry hfirst hlast _ => ?_
  obtain ⟨i, hi, hentry⟩ := Array.getElem_of_mem hentry
  rcases Nat.lt_or_ge i lo with hi' | hi'
  · have hend := hbelow i hi' hi
    rw [hentry] at hend
    exact Nat.not_lt_of_le hlast hend
  · have hbegin := habove i hi' hi
    rw [hentry] at hbegin
    exact Nat.not_lt_of_le hfirst hbegin

namespace Increasing

variable (h : map.Increasing)
include h

theorem first_le_last {i : Nat} (hi : i < map.size) : map[i].1 ≤ map[i].2.1 :=
  h.first_le _ (Array.getElem_mem_toList hi)

theorem last_lt_first {i j : Nat} (hj : j < map.size) (hij : i < j) : map[i].2.1 < map[j].1 :=
  List.pairwise_iff_getElem.mp h.last_lt i j (Nat.lt_trans hij hj) hj hij

theorem index_unique {i j : Nat} (hi : i < map.size) (hj : j < map.size)
    (hcode : map[i].1 ≤ code ∧ code ≤ map[i].2.1) (hcode' : map[j].1 ≤ code ∧ code ≤ map[j].2.1) :
    i = j := by
  rcases Nat.lt_trichotomy i j with hlt | heq | hgt
  · have hnext := h.last_lt_first hj hlt
    omega
  · exact heq
  · have hnext := h.last_lt_first hi hgt
    omega

theorem entry_unique {entry entry' : Nat × Nat × Nat × Nat} (hentry : entry ∈ map)
    (hentry' : entry' ∈ map) (hcode : entry.1 ≤ code ∧ code ≤ entry.2.1)
    (hcode' : entry'.1 ≤ code ∧ code ≤ entry'.2.1) : entry = entry' := by
  obtain ⟨i, hi, rfl⟩ := Array.getElem_of_mem hentry
  obtain ⟨j, hj, rfl⟩ := Array.getElem_of_mem hentry'
  obtain rfl := h.index_unique hi hj hcode hcode'
  rfl

theorem lt_first_of_le {i j : Nat} (hj : j < map.size) (hij : i ≤ j) (hcode : code < map[i].1) :
    code < map[j].1 := by
  rcases Nat.eq_or_lt_of_le hij with rfl | hlt
  · exact hcode
  · have hfirst := h.first_le_last (Nat.lt_trans hlt hj)
    have hnext := h.last_lt_first hj hlt
    omega

theorem last_lt_of_le {i j : Nat} (hj : j < map.size) (hij : i ≤ j) (hcode : map[j].2.1 < code) :
    map[i].2.1 < code := by
  rcases Nat.eq_or_lt_of_le hij with rfl | hlt
  · exact hcode
  · have hfirst := h.first_le_last hj
    have hnext := h.last_lt_first hj hlt
    omega

/-- A code point between two steps of an entry is in no other entry either. -/
theorem stays_between_steps {first last step target : Nat}
    (hentry : (first, last, step, target) ∈ map) (hfirst : first ≤ code) (hlast : code ≤ last)
    (hstep : ¬(code - first) % step = 0) : map.Moves code code := by
  refine .unlisted fun first' last' step' target' hentry' hfirst' hlast' hstep' => ?_
  have heq := h.entry_unique hentry' hentry ⟨hfirst', hlast'⟩ ⟨hfirst, hlast⟩
  simp only [Prod.mk.injEq] at heq
  obtain ⟨rfl, rfl, rfl, rfl⟩ := heq
  exact hstep hstep'

/-- Entries below `lo` end in front of the code point, and those from `hi` on begin behind it. -/
theorem moves_targetBetween {lo hi : Nat} (hhi : hi ≤ map.size)
    (hbelow : ∀ i, i < lo → (hi : i < map.size) → map[i].2.1 < code)
    (habove : ∀ i, hi ≤ i → (hi : i < map.size) → code < map[i].1) :
    map.Moves code (map.targetBetween code lo hi) := by
  fun_induction targetBetween map code lo hi with
  | case1 lo hi hlt mid hnone =>
    have hsize := Array.getElem?_eq_none_iff.mp hnone
    omega
  | case2 lo hi hlt mid first last step target hmid hcode ih =>
    obtain ⟨hsize, hentry⟩ := Array.getElem?_eq_some_iff.mp hmid
    have hfirst : map[mid].1 = first := congrArg Prod.fst hentry
    exact ih (Nat.le_of_lt hsize) hbelow fun i hi hi' =>
      h.lt_first_of_le hi' hi (hfirst ▸ hcode)
  | case3 lo hi hlt mid first last step target hmid hcode hcode' ih =>
    obtain ⟨hsize, hentry⟩ := Array.getElem?_eq_some_iff.mp hmid
    have hlast : map[mid].2.1 = last := congrArg (·.2.1) hentry
    exact ih hhi (fun i hi _ => h.last_lt_of_le hsize (Nat.le_of_lt_succ hi) (hlast ▸ hcode'))
      habove
  | case4 lo hi hlt mid first last step target hmid hcode hcode' hstep =>
    exact .listed (Array.mem_of_getElem? hmid) (Nat.le_of_not_lt hcode) (Nat.le_of_not_lt hcode')
      hstep
  | case5 lo hi hlt mid first last step target hmid hcode hcode' hstep =>
    exact h.stays_between_steps (Array.mem_of_getElem? hmid) (Nat.le_of_not_lt hcode)
      (Nat.le_of_not_lt hcode') hstep
  | case6 lo hi hlt =>
    exact stays_between_entries hbelow fun i hi hi' =>
      habove i (Nat.le_trans (Nat.le_of_not_lt hlt) hi) hi'

theorem moves_target (code : Nat) : map.Moves code (map.target code) :=
  h.moves_targetBetween (Nat.le_refl _) (fun _ hi => absurd hi (Nat.not_lt_zero _))
    fun _ hi hi' => absurd hi' (Nat.not_lt_of_le hi)

theorem moves_unique {a b : Nat} (ha : map.Moves code a) (hb : map.Moves code b) : a = b := by
  cases ha with
  | listed hentry hfirst hlast hstep =>
    cases hb with
    | listed hentry' hfirst' hlast' =>
      have heq := h.entry_unique hentry hentry' ⟨hfirst, hlast⟩ ⟨hfirst', hlast'⟩
      simp only [Prod.mk.injEq] at heq
      obtain ⟨rfl, rfl, rfl, rfl⟩ := heq
      rfl
    | unlisted hnone => exact absurd hstep (hnone _ _ _ _ hentry hfirst hlast)
  | unlisted hnone =>
    cases hb with
    | listed hentry hfirst hlast hstep => exact absurd hstep (hnone _ _ _ _ hentry hfirst hlast)
    | unlisted => rfl

end Increasing

end CodeMap

/-! ### Folding -/

/-- Of ASCII only capitals fold, to the letters 32 behind them. -/
inductive FoldsTo (c d : Char) : Prop where
  | capital (hc : 'A' ≤ c ∧ c ≤ 'Z') (hd : d.toNat = c.toNat + 32)
  | ascii (hascii : c.toNat < 128) (hc : ¬('A' ≤ c ∧ c ≤ 'Z')) (hd : d = c)
  | mapped (hc : 128 ≤ c.toNat) (hd : foldingMap.Moves c.toNat d.toNat)

theorem foldingMap_increasing : foldingMap.Increasing where
  first_le := by decide +kernel
  last_lt := by decide +kernel

/-- No entry moves code points across those that are no characters. -/
theorem foldingMap_targets : ∀ entry ∈ foldingMap.toList,
    let (first, last, _, target) := entry
    target + (last - first) < 0xd800 ∨ 0xdfff < target ∧ target + (last - first) < 0x110000 := by
  decide +kernel

theorem isValidChar_of_moves {c : Char} {code : Nat} (h : foldingMap.Moves c.toNat code) :
    code.isValidChar := by
  cases h with
  | @listed first last step target hentry hfirst hlast hstep =>
    have htargets := foldingMap_targets _ (Array.mem_toList_iff.mpr hentry)
    dsimp only at htargets
    unfold Nat.isValidChar
    omega
  | unlisted => exact c.valid

theorem toNat_ofNat {code : Nat} (h : code.isValidChar) : (Char.ofNat code).toNat = code := by
  rw [Char.ofNat, dif_pos h]
  rfl

theorem foldCase_ascii : ∀ i < 128,
    if 65 ≤ i ∧ i ≤ 90 then (foldCase (Char.ofNat i)).toNat = i + 32
    else foldCase (Char.ofNat i) = Char.ofNat i := by
  decide +kernel

theorem foldsTo_iff {c d : Char} : FoldsTo c d ↔ foldCase c = d := by
  have hcapital : ('A' ≤ c ∧ c ≤ 'Z') ↔ 65 ≤ c.toNat ∧ c.toNat ≤ 90 := Iff.rfl
  have hascii (hc : c.toNat < 128) := foldCase_ascii c.toNat hc
  rw [Char.ofNat_toNat] at hascii
  have hmoves := foldingMap_increasing.moves_target c.toNat
  constructor
  · rintro (⟨hc, hd⟩ | ⟨hc, hc', rfl⟩ | ⟨hc, hd⟩)
    · have hfold := hascii (Nat.lt_of_le_of_lt (hcapital.mp hc).2 (by decide))
      rw [if_pos (hcapital.mp hc), ← hd] at hfold
      exact Char.toNat_inj.mp hfold
    · have hfold := hascii hc
      rwa [if_neg (mt hcapital.mpr hc')] at hfold
    · rw [foldCase, if_neg (Nat.not_lt_of_le hc), foldingMap_increasing.moves_unique hmoves hd,
        Char.ofNat_toNat]
  · rintro rfl
    by_cases hc : c.toNat < 128
    · have hfold := hascii hc
      split at hfold
      · rename_i hletter
        exact .capital (hcapital.mpr hletter) hfold
      · rename_i hletter
        exact .ascii hc (mt hcapital.mp hletter) hfold
    · refine .mapped (Nat.le_of_not_lt hc) ?_
      rw [foldCase, if_neg hc, toNat_ofNat (isValidChar_of_moves hmoves)]
      exact hmoves

/-- Characters that fold to one agree. -/
theorem exists_foldsTo_iff {c d : Char} :
    (∃ e, FoldsTo c e ∧ FoldsTo d e) ↔ foldCase c = foldCase d := by
  simp only [foldsTo_iff, exists_eq_left']
  exact eq_comm

end Reckon
