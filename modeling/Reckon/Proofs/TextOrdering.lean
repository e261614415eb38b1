import Mathlib.Data.List.Basic
import Reckon.Names

/-!
# The order of texts

Texts are in the order of the first of their code points that differ. That order is total and ties
no two different texts, so names that are all different come out of sorting in increasing order.
-/

namespace Reckon

open Std

/-- Texts are compared as lists of code points. -/
theorem compareText_eq (s t : List Char) :
    compareText s t = List.compareLex (compareOn Char.toNat) s t := by
  induction s generalizing t with
  | nil => cases t <;> rfl
  | cons c s ih =>
    cases t with
    | nil => rfl
    | cons d t =>
      rw [compareText, List.compareLex_cons_cons, ← ih, compareOn]
      rcases Nat.lt_trichotomy c.toNat d.toNat with h | h | h
      · rw [if_pos h, Nat.compare_eq_lt.mpr h]
        rfl
      · rw [h, if_neg (Nat.lt_irrefl _), if_neg (Nat.lt_irrefl _), Nat.compare_eq_eq.mpr rfl]
        rfl
      · rw [if_neg (Nat.lt_asymm h), if_pos h, Nat.compare_eq_gt.mpr h]
        rfl

theorem compareText_eq_eq_iff {s t : List Char} : compareText s t = .eq ↔ s = t := by
  induction s generalizing t with
  | nil => cases t <;> simp [compareText]
  | cons c s ih =>
    cases t with
    | nil => simp [compareText]
    | cons d t =>
      rw [compareText, List.cons.injEq, ← ih]
      rcases Nat.lt_trichotomy c.toNat d.toNat with h | h | h
      · have hne : c ≠ d := fun he => Nat.lt_irrefl _ (he ▸ h)
        simp [h, hne]
      · have heq : c = d := Char.toNat_inj.mp h
        simp [heq]
      · have hne : c ≠ d := fun he => Nat.lt_irrefl _ (he ▸ h)
        simp [h, Nat.lt_asymm h, hne]

/-! ### Sorted names -/

def namesInOrder (a b : String) : Bool :=
  compareText a.toList b.toList != .gt

theorem namesInOrder_iff {a b : String} :
    namesInOrder a b = true ↔
      (List.compareLex (compareOn Char.toNat) a.toList b.toList).isLE = true := by
  rw [namesInOrder, compareText_eq]
  cases List.compareLex (compareOn Char.toNat) a.toList b.toList <;> decide

theorem sortNames_perm (names : List String) : (sortNames names).Perm names :=
  List.mergeSort_perm names _

theorem pairwise_sortNames {names : List String} (h : names.Nodup) :
    (sortNames names).Pairwise fun a b => compareText a.toList b.toList = .lt := by
  have htrans (a b c : String) (hab : namesInOrder a b = true) (hbc : namesInOrder b c = true) :
      namesInOrder a c = true := by
    rw [namesInOrder_iff] at *
    exact TransCmp.isLE_trans hab hbc
  have htotal (a b : String) : (namesInOrder a b || namesInOrder b a) = true := by
    rw [Bool.or_eq_true, namesInOrder_iff, namesInOrder_iff]
    exact or_iff_not_imp_left.mpr fun h => Ordering.isLE_of_eq_lt (OrientedCmp.lt_of_not_isLE h)
  have hsorted : (sortNames names).Pairwise fun a b => namesInOrder a b = true :=
    List.pairwise_mergeSort htrans htotal names
  have hnodup : (sortNames names).Nodup := (sortNames_perm names).nodup_iff.mpr h
  refine (hsorted.and hnodup).imp fun {a b} hab => ?_
  obtain ⟨hle, hne⟩ := hab
  have htie : compareText a.toList b.toList ≠ .eq := fun heq =>
    hne (String.toList_inj.mp (compareText_eq_eq_iff.mp heq))
  cases hcompare : compareText a.toList b.toList with
  | lt => rfl
  | eq => exact absurd hcompare htie
  | gt => simp [namesInOrder, hcompare] at hle

end Reckon
