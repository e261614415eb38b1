import Reckon.Operation
import Reckon.Proofs.SpanTexts
import Reckon.Proofs.TextOrdering

/-!
# The order of values

Swapping two values swaps their order: both ways fail, or leave the two unordered, or give
opposite answers. That is so for texts in either rule, for whole numbers and for floating point
numbers, which only a value that is no number leaves unordered. Instants and spans count as their
whole milliseconds, all of which have 64 bits.
-/

namespace Reckon

open Std Float.Model

/-! ### Texts -/

theorem swap_compareText (s t : List Char) : (compareText s t).swap = compareText t s := by
  rw [compareText_eq, compareText_eq, ← OrientedCmp.eq_swap]

instance : TransCmp compareText where
  eq_swap := (swap_compareText _ _).symm
  isLE_trans := by
    intro s t u
    rw [compareText_eq, compareText_eq, compareText_eq]
    exact TransCmp.isLE_trans

theorem compareText_self (s : List Char) : compareText s s = .eq :=
  compareText_eq_eq_iff.mpr rfl

theorem TextRule.swap_compare (rule : TextRule) (s t : List Char) :
    (rule.compare s t).swap = rule.compare t s :=
  swap_compareText _ _

/-! ### Floating point numbers -/

theorem swap_compare_magnitudes (m n : Nat) (e f : Int) :
    ((compare e f).then (compare m n)).swap = (compare f e).then (compare n m) := by
  rw [Ordering.swap_then, Int.compare_swap, Nat.compare_swap]

theorem map_swap_compare (x y : UnpackedFloat) :
    (x.compare y).map Ordering.swap = y.compare x := by
  cases x with
  | notANumber => cases y <;> rfl
  | infinity s =>
    cases s <;> cases y with
    | infinity t => cases t <;> rfl
    | _ => rfl
  | zero s =>
    cases y with
    | infinity t => cases t <;> rfl
    | finite t => cases t <;> rfl
    | _ => rfl
  | finite s m e hm =>
    cases y with
    | infinity t => cases t <;> rfl
    | notANumber => rfl
    | zero t => cases s <;> rfl
    | finite t n f hn =>
      cases s <;> cases t
      · exact congrArg some (congrArg Ordering.swap (swap_compare_magnitudes m n e f))
      · rfl
      · rfl
      · exact congrArg some (swap_compare_magnitudes m n e f)

theorem compareFloat?_eq (x y : Float) :
    compareFloat? x y = x.toModel.unpack.compare y.toModel.unpack := by
  have hlt (x y : Float) : x < y ↔ x.toModel.unpack.compare y.toModel.unpack = some .lt :=
    decide_eq_true_iff.trans beq_iff_eq
  have hgt : y < x ↔ x.toModel.unpack.compare y.toModel.unpack = some .gt := by
    rw [hlt, ← map_swap_compare]
    cases x.toModel.unpack.compare y.toModel.unpack with
    | none => simp
    | some ordering => cases ordering <;> simp
  have heq : (x == y) = (x.toModel.unpack.compare y.toModel.unpack == some .eq) := rfl
  simp only [compareFloat?, hlt x y, hgt, heq]
  cases x.toModel.unpack.compare y.toModel.unpack with
  | none => rfl
  | some ordering => cases ordering <;> rfl

theorem map_swap_compareFloat? (x y : Float) :
    (compareFloat? x y).map Ordering.swap = compareFloat? y x := by
  rw [compareFloat?_eq, compareFloat?_eq, map_swap_compare]

theorem compareFloat?_self {x : Float} (h : x.isNaN = false) : compareFloat? x x = some .eq := by
  have hnumber : x.toModel.unpack.isNaN = false := h
  rw [compareFloat?_eq]
  cases hx : x.toModel.unpack with
  | notANumber =>
    rw [hx] at hnumber
    cases hnumber
  | infinity s => cases s <;> rfl
  | zero s => rfl
  | finite s m e hm =>
    have hsame : (compare e e).then (compare m m) = .eq := by
      rw [Int.compare_eq_eq.mpr rfl, Nat.compare_eq_eq.mpr rfl, Ordering.then_eq]
    cases s
    · exact congrArg (fun ordering => some ordering.swap) hsame
    · exact congrArg some hsame

/-! ### Values -/

theorem toInt_clampInt64 {n : Int} (hlo : -9223372036854775808 ≤ n)
    (hhi : n ≤ 9223372036854775807) : (clampInt64 n).toInt = n := by
  rw [clampInt64, Int.min_eq_left hhi, Int.max_eq_right hlo]
  exact Int64.toInt_ofInt_of_le (by omega) (by omega)

namespace Value

variable (rule : TextRule) (operator : Operator)

theorem toInt_asLong_instant (t : Instant) : (instant t).asLong.toInt = t.millis := by
  have hfirst := t.first_le
  have hlast := t.le_last
  have hnano := t.nano_lt
  apply toInt_clampInt64 <;> unfold Instant.millis <;> omega

theorem toInt_asLong_span (d : Span) : (span d).asLong.toInt = d.millis := by
  obtain ⟨hlo, hhi⟩ := d.millis_bounds
  apply toInt_clampInt64 <;> omega

theorem order_of_wholes {left right : Value} (hleft : left.isWhole = true)
    (hright : right.isWhole = true) :
    order rule operator left right = .ok (some (compare left.asLong.toInt right.asLong.toInt)) := by
  cases left <;> cases hleft <;> cases right <;> cases hright <;> rfl

/-- Outside arrays and objects, equal values are those that are ordered as equal. -/
theorem equal_of_not_structured {left : Value} (hleft : left.isStructured = false) (right : Value) :
    equal rule left right = (order rule .equal left right).map (· == some .eq) := by
  cases left with
  | object document => cases hleft
  | array items => cases hleft
  | _ => rfl

theorem less_of_wholes {left right : Value} (hleft : left.isWhole = true)
    (hright : right.isWhole = true) :
    Operator.less.apply rule [left, right] =
      .ok (.boolean (decide (left.asLong.toInt < right.asLong.toInt))) := by
  have hless (x y : Int) : (compare x y).isLT = decide (x < y) := by
    rw [Bool.eq_iff_iff, Ordering.isLT_iff_eq_lt, Int.compare_eq_lt, decide_eq_true_iff]
  have happly : Operator.less.apply rule [left, right] =
      left.relate rule .less Ordering.isLT right := rfl
  rw [happly, relate, order_of_wholes rule .less hleft hright, ← hless]
  rfl

theorem equal_of_wholes {left right : Value} (hleft : left.isWhole = true)
    (hright : right.isWhole = true) :
    Operator.equal.apply rule [left, right] =
      .ok (.boolean (decide (left.asLong.toInt = right.asLong.toInt))) := by
  have hequal (x y : Int) : (some (compare x y) == some .eq) = decide (x = y) := by
    rw [Bool.eq_iff_iff, beq_iff_eq, Option.some_inj, Int.compare_eq_eq, decide_eq_true_iff]
  have happly : Operator.equal.apply rule [left, right] =
      (left.equal rule right).map .boolean := rfl
  have hstructured : left.isStructured = false := by
    cases left <;> cases hleft <;> rfl
  rw [happly, equal_of_not_structured rule hstructured, order_of_wholes rule .equal hleft hright,
    ← hequal]
  rfl

theorem order_swap (left right : Value) :
    (order rule operator right left).toOption =
      (order rule operator left right).toOption.map (Option.map Ordering.swap) := by
  -- Refusals name the two sides in their order, so only what is no refusal can be the same.
  unfold order
  rw [Bool.or_comm right.isStructured, Bool.or_comm right.isString, Bool.and_comm right.isWhole]
  split_ifs with hstructured hstring hwhole
  · rfl
  · rw [← rule.swap_compare]
    rfl
  · rw [← Int.compare_swap]
    rfl
  · cases left.toDouble? with
    | none => cases right.toDouble? <;> rfl
    | some x =>
      cases right.toDouble? with
      | none => rfl
      | some y => exact congrArg some (map_swap_compareFloat? x y).symm

end Value

end Reckon
