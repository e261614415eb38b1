import Reckon.Proofs.NotANumber
import Reckon.Proofs.ValueOrder

/-!
# Equality

Two values are equal whichever of them comes first, or cannot be compared whichever comes first.
Items of arrays are compared one by one until two of them differ or cannot be compared, which
happens at the same items on both ways. A value is equal to itself unless it holds something that is
no number, so an array has each of its items.
-/

namespace Reckon

/-- What is equal from one side is equal from the other. -/
theorem map_swap_beq_eq (ordering : Option Ordering) :
    (ordering.map Ordering.swap == some .eq) = (ordering == some .eq) := by
  cases ordering with
  | none => rfl
  | some ordering => cases ordering <;> rfl

theorem float_beq_eq (x y : Float) : (x == y) = (compareFloat? x y == some .eq) := by
  rw [compareFloat?_eq]
  rfl

theorem float_beq_comm (x y : Float) : (x == y) = (y == x) := by
  rw [float_beq_eq, float_beq_eq, ← map_swap_compareFloat? y x, map_swap_beq_eq]

theorem float_beq_self {x : Float} (h : x.isNaN = false) : (x == x) = true := by
  rw [float_beq_eq, compareFloat?_self h]
  rfl

/-! ### Documents -/

namespace Json

mutual

def hasNaN : Json → Bool
  | .float x => x.isNaN
  | .array items => hasNaNItems items
  | .object fields => hasNaNFields fields
  | _ => false

def hasNaNItems : List Json → Bool
  | [] => false
  | item :: rest => hasNaN item || hasNaNItems rest

def hasNaNFields : List (String × Json) → Bool
  | [] => false
  | (_, item) :: rest => hasNaN item || hasNaNFields rest

end

mutual

theorem same_comm (a b : Json) : same a b = same b a := by
  cases a with
  | null => cases b <;> rfl
  | boolean x =>
    cases b with
    | boolean y => exact BEq.comm
    | _ => rfl
  | integer m =>
    cases b with
    | integer n => exact BEq.comm
    | _ => rfl
  | float x =>
    cases b with
    | float y => exact float_beq_comm x y
    | _ => rfl
  | string s =>
    cases b with
    | string t => exact BEq.comm
    | _ => rfl
  | array as =>
    cases b with
    | array bs => exact sameItems_comm as bs
    | _ => rfl
  | object as =>
    cases b with
    | object bs => exact sameFields_comm as bs
    | _ => rfl

theorem sameItems_comm : ∀ as bs : List Json, sameItems as bs = sameItems bs as
  | [], [] => rfl
  | [], _ :: _ => rfl
  | _ :: _, [] => rfl
  | a :: as, b :: bs => by rw [sameItems, sameItems, same_comm a b, sameItems_comm as bs]

theorem sameFields_comm : ∀ as bs : List (String × Json), sameFields as bs = sameFields bs as
  | [], [] => rfl
  | [], _ :: _ => rfl
  | _ :: _, [] => rfl
  | (k, a) :: as, (l, b) :: bs => by
    rw [sameFields, sameFields, same_comm a b, sameFields_comm as bs, BEq.comm (a := k)]

end

mutual

theorem same_self : ∀ a : Json, a.hasNaN = false → same a a = true
  | .null, _ => rfl
  | .boolean x, _ => beq_self_eq_true x
  | .integer n, _ => beq_self_eq_true n
  | .float _, h => float_beq_self h
  | .string s, _ => beq_self_eq_true s
  | .array items, h => sameItems_self items h
  | .object fields, h => sameFields_self fields h

theorem sameItems_self : ∀ items : List Json, hasNaNItems items = false →
    sameItems items items = true
  | [], _ => rfl
  | item :: rest, h => by
    obtain ⟨hitem, hrest⟩ := Bool.or_eq_false_iff.mp h
    rw [sameItems, same_self item hitem, sameItems_self rest hrest, Bool.and_self]

theorem sameFields_self : ∀ fields : List (String × Json), hasNaNFields fields = false →
    sameFields fields fields = true
  | [], _ => rfl
  | (key, item) :: rest, h => by
    obtain ⟨hitem, hrest⟩ := Bool.or_eq_false_iff.mp h
    rw [sameFields, beq_self_eq_true key, same_self item hitem, sameFields_self rest hrest,
      Bool.and_self, Bool.and_self]

end

end Json

/-! ### Values -/

namespace Value

mutual

def hasNaN : Value → Bool
  | float x => x.isNaN
  | double x => x.isNaN
  | object document => document.hasNaN
  | array items => hasNaNItems items
  | _ => false

def hasNaNItems : List Value → Bool
  | [] => false
  | item :: rest => hasNaN item || hasNaNItems rest

end

variable (rule : TextRule)

theorem equal_of_right_not_structured (left : Value) {right : Value}
    (hright : right.isStructured = false) :
    equal rule left right = (order rule .equal left right).map (· == some .eq) := by
  cases left with
  | object document =>
    cases right with
    | object other => cases hright
    | _ => rfl
  | array items =>
    cases right with
    | array others => cases hright
    | _ => rfl
  | _ => rfl

/-- The order of equal values, seen from the other side, is that of equal values. -/
theorem equal_swap_of_not_structured {left : Value} (hleft : left.isStructured = false)
    (right : Value) : (equal rule right left).toOption = (equal rule left right).toOption := by
  have hmap (x : Outcome (Option Ordering)) :
      (x.map (· == some .eq)).toOption = x.toOption.map (· == some .eq) := by
    cases x <;> rfl
  rw [equal_of_right_not_structured rule right hleft, equal_of_not_structured rule hleft, hmap,
    hmap, order_swap, Option.map_map]
  exact Option.map_congr fun ordering _ => map_swap_beq_eq ordering

theorem toOption_equalItems_cons (a b : Value) (as bs : List Value) :
    (equalItems rule (a :: as) (b :: bs)).toOption =
      (equal rule a b).toOption.bind fun found =>
        if found then (equalItems rule as bs).toOption else some false := by
  rw [equalItems]
  cases equal rule a b with
  | error e => rfl
  | ok found => cases found <;> rfl

mutual

theorem equal_swap (left right : Value) :
    (equal rule right left).toOption = (equal rule left right).toOption := by
  cases left with
  | array as =>
    cases right with
    | array bs =>
      rw [equal, equal]
      by_cases hlength : as.length = bs.length
      · rw [if_pos hlength, if_pos hlength.symm, equalItems_swap as bs]
      · rw [if_neg hlength, if_neg (Ne.symm hlength)]
    -- Both sides are structured, and the order of such values is refused from either.
    | object document => rfl
    | _ => exact (equal_swap_of_not_structured rule rfl _).symm
  | object a =>
    cases right with
    | object b => exact congrArg some (b.same_comm a)
    | array items => rfl
    | _ => exact (equal_swap_of_not_structured rule rfl _).symm
  | _ => exact equal_swap_of_not_structured rule rfl right

/-- Both ways stop at the same items. -/
theorem equalItems_swap : ∀ as bs : List Value,
    (equalItems rule bs as).toOption = (equalItems rule as bs).toOption
  | [], [] => rfl
  | [], _ :: _ => rfl
  | _ :: _, [] => rfl
  | a :: as, b :: bs => by
    rw [toOption_equalItems_cons, toOption_equalItems_cons, equal_swap a b, equalItems_swap as bs]

end

theorem order_self (operator : Operator) {v : Value} (hstructured : v.isStructured = false)
    (hnan : v.hasNaN = false) : order rule operator v v = .ok (some .eq) := by
  have hwhole (v : Value) (h : v.isWhole = true) : order rule operator v v = .ok (some .eq) := by
    rw [order_of_wholes rule operator h h, Int.compare_eq_eq.mpr rfl]
  have hfloat {x : Float} (h : x.isNaN = false) :
      (.ok (compareFloat? x x) : Outcome (Option Ordering)) = .ok (some .eq) := by
    rw [compareFloat?_self h]
  cases v with
  | float x => exact hfloat ((isNaN_widen x).trans hnan)
  | double x => exact hfloat hnan
  | string s => exact congrArg (fun ordering => Except.ok (some ordering)) (compareText_self _)
  | object document => cases hstructured
  | array items => cases hstructured
  | _ => exact hwhole _ rfl

theorem equal_self_of_not_structured {v : Value} (hstructured : v.isStructured = false)
    (hnan : v.hasNaN = false) : equal rule v v = .ok true := by
  rw [equal_of_not_structured rule hstructured, order_self rule .equal hstructured hnan]
  rfl

mutual

theorem equal_self (v : Value) (h : v.hasNaN = false) : equal rule v v = .ok true := by
  cases v with
  | array items => rw [equal, if_pos rfl, equalItems_self items h]
  | object document => exact congrArg Except.ok (document.same_self h)
  | _ => exact equal_self_of_not_structured rule rfl h

theorem equalItems_self : ∀ items : List Value, hasNaNItems items = false →
    equalItems rule items items = .ok true
  | [], _ => rfl
  | item :: rest, h => by
    obtain ⟨hitem, hrest⟩ := Bool.or_eq_false_iff.mp h
    rw [equalItems, equal_self item hitem]
    exact equalItems_self rest hrest

end

theorem isIn_of_mem {value : Value} {items : List Value} (hmem : value ∈ items)
    (hnan : value.hasNaN = false) : isIn rule value (array items) = .ok true := by
  rw [isIn]
  refine congrArg Except.ok (List.any_eq_true.mpr ⟨value, hmem, ?_⟩)
  rw [equal_self rule value hnan]

end Value

/-- Comparing two values for equality fails from both sides or gives both the same answer, and a
value without anything that is no number is equal to itself. So an array has each such item of its
own. -/
theorem equal_from_both_sides (rule : TextRule) :
    (∀ a b : Value, (a.equal rule b).toOption = (b.equal rule a).toOption) ∧
      (∀ v : Value, v.hasNaN = false → v.equal rule v = .ok true) ∧
      ∀ items : List Value, ∀ item ∈ items, item.hasNaN = false →
        Operator.member.apply rule [item, .array items] = .ok (.boolean true) ∧
          Operator.notMember.apply rule [item, .array items] = .ok (.boolean false) := by
  refine ⟨fun a b => Value.equal_swap rule b a, Value.equal_self rule, ?_⟩
  intro items item hmem hnan
  have hin := Value.isIn_of_mem rule hmem hnan
  exact ⟨congrArg (Except.map Value.boolean) hin,
    congrArg (Except.map fun found => Value.boolean !found) hin⟩

def nestedValue : Value :=
  .array [.null, .string "Σ", .array [.double 0.5, .object (.object [("k", .float 0.5)])]]

theorem nested_value_in_its_array :
    nestedValue.hasNaN = false ∧ nestedValue ∈ [.integer 1, nestedValue] ∧
      nestedValue.equal .ignoringCase nestedValue = .ok true ∧
      Operator.member.apply .ignoringCase [nestedValue, .array [.integer 1, nestedValue]] =
        .ok (.boolean true) ∧
      Operator.notMember.apply .ignoringCase [nestedValue, .array [.integer 1, nestedValue]] =
        .ok (.boolean false) := by
  have hnan : nestedValue.hasNaN = false := by decide
  have hmem : nestedValue ∈ [.integer 1, nestedValue] := .tail _ (.head _)
  obtain ⟨-, hself, hitem⟩ := equal_from_both_sides .ignoringCase
  exact ⟨hnan, hmem, hself _ hnan, hitem _ _ hmem hnan⟩

end Reckon
