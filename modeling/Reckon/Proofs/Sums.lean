import Reckon.Proofs.RemaindersPowers
import Reckon.Proofs.StandardCalls

/-!
# Sums

A sum of whole numbers is exact as long as 64 bits hold the sums on the way to it. It starts as the
first value and becomes long with the first long value or the first sum of more than 32 bits, and
then it stays long. Nulls count for nothing, and arrays only hold what is summed.
-/

namespace Reckon

def summands (arguments : List Value) : List Value :=
  (flattenOnce arguments).filter fun v => !v.isNull

def wholeNumbers (values : List Value) : List Int :=
  values.filterMap Value.wholeNumber?

/-- The values are integers, and so are all sums of the first few of them. -/
def StaysShort (values : List Value) : Prop :=
  (∀ v ∈ values, v.kind = .integer) ∧ ∀ s ∈ (wholeNumbers values).scanl (· + ·) 0, FitsIn32 s

namespace Value

def IsIntegerOrLong (v : Value) : Prop :=
  v.kind = .integer ∨ v.kind = .long

theorem IsIntegerOrLong.exists_number {v : Value} (h : v.IsIntegerOrLong) :
    ∃ x, v.wholeNumber? = some x := by
  cases v with
  | integer n => exact ⟨n.toInt, rfl⟩
  | long n => exact ⟨n.toInt, rfl⟩
  | _ => rcases h with h | h <;> cases h

theorem IsIntegerOrLong.isLong_eq_false_iff {v : Value} (h : v.IsIntegerOrLong) :
    v.isLong = false ↔ v.kind = .integer := by
  cases v with
  | integer n => exact iff_of_true rfl rfl
  | long n => exact iff_of_false Bool.noConfusion Kind.noConfusion
  | _ => rcases h with h | h <;> cases h

theorem IsIntegerOrLong.fitsIn32 {v : Value} {x : Int} (h : v.IsIntegerOrLong)
    (hx : v.wholeNumber? = some x) (hkind : v.kind = .integer) : FitsIn32 x :=
  fitsIn32_of_wholeNumber? hx (h.isLong_eq_false_iff.mpr hkind)

theorem add_eq_apply {a b : Value} (ha : a.IsIntegerOrLong) (hb : b.IsIntegerOrLong) :
    a.add b = Arithmetic.add.apply a b := by
  obtain ⟨x, hx⟩ := ha.exists_number
  obtain ⟨y, hy⟩ := hb.exists_number
  exact Operator.apply_of_wholeNumber? .exact .add hx hy

/-- One step of a sum: it stays an integer only between integers and with 32 bits. -/
theorem add_wholes {a b : Value} {x y : Int} (ha : a.IsIntegerOrLong) (hb : b.IsIntegerOrLong)
    (hx : a.wholeNumber? = some x) (hy : b.wholeNumber? = some y) (hfits : FitsIn64 (x + y)) :
    ∃ c, a.add b = .ok c ∧ c.IsIntegerOrLong ∧ c.wholeNumber? = some (x + y) ∧
      (c.kind = .integer ↔ a.kind = .integer ∧ b.kind = .integer ∧ FitsIn32 (x + y)) := by
  obtain ⟨c, hc, hwidened⟩ := @Arithmetic.apply_widened .add _ _ _ _ _ hx hy rfl
  rw [← add_eq_apply ha hb] at hc
  rw [← ha.isLong_eq_false_iff, ← hb.isLong_eq_false_iff]
  refine ⟨c, hc, ?_⟩
  cases hwidened with
  | integer n hshort hn =>
    have hboth := Bool.or_eq_false_iff.mp hshort
    have hfits32 : FitsIn32 (x + y) :=
      fitsIn32_of_wholeNumber? (v := .integer n) (congrArg some hn) rfl
    exact ⟨.inl rfl, congrArg some hn, iff_of_true rfl ⟨hboth.1, hboth.2, hfits32⟩⟩
  | long n hlong hn =>
    refine ⟨.inr rfl, congrArg some hn, iff_of_false Kind.noConfusion ?_⟩
    rintro ⟨hashort, hbshort, hfits32⟩
    rw [hashort, hbshort] at hlong
    exact hlong.elim Bool.noConfusion (· hfits32)
  | double z hnot => exact absurd hfits hnot

end Value

/-! ### All steps -/

namespace NumberLibrary

theorem sumFrom_null (total : Option Value) (rest : List Value) :
    sumFrom total (.null :: rest) = sumFrom total rest := by
  cases total <;> rfl

/-- Nulls may be left out or put in anywhere. -/
theorem sumFrom_filter (total : Option Value) (values : List Value) :
    sumFrom total (values.filter fun v => !v.isNull) = sumFrom total values := by
  induction values generalizing total with
  | nil => rfl
  | cons v rest ih =>
    cases v with
    | null => rw [List.filter_cons_of_neg Bool.noConfusion, sumFrom_null, ih]
    | _ =>
      rw [List.filter_cons_of_pos rfl]
      simp only [sumFrom, ih]

theorem summand_eq {v : Value} (h : v.IsIntegerOrLong) : summand v = .ok (some v) := by
  cases v with
  | integer n => rfl
  | long n => rfl
  | _ => rcases h with h | h <;> cases h

theorem sumFrom_wholes {total : Value} {t : Int} (htotal : total.IsIntegerOrLong)
    (ht : total.wholeNumber? = some t) {values : List Value}
    (hvalues : ∀ v ∈ values, v.IsIntegerOrLong)
    (hfits : ∀ s ∈ (wholeNumbers values).scanl (· + ·) t, FitsIn64 s) :
    ∃ v, sumFrom (some total) values = .ok (some v) ∧ v.IsIntegerOrLong ∧
      v.wholeNumber? = some (t + (wholeNumbers values).sum) ∧
      (v.kind = .integer ↔ total.kind = .integer ∧ (∀ w ∈ values, w.kind = .integer) ∧
        ∀ s ∈ (wholeNumbers values).scanl (· + ·) t, FitsIn32 s) := by
  induction values generalizing total t with
  | nil =>
    have hshort : total.kind = .integer → FitsIn32 t := htotal.fitsIn32 ht
    refine ⟨total, rfl, htotal, ?_, ?_⟩
    · simpa [wholeNumbers] using ht
    · simpa [wholeNumbers] using hshort
  | cons v rest ih =>
    obtain ⟨hv, hrest⟩ := List.forall_mem_cons.mp hvalues
    obtain ⟨x, hx⟩ := hv.exists_number
    have hnumbers : wholeNumbers (v :: rest) = x :: wholeNumbers rest :=
      List.filterMap_cons_some hx
    rw [hnumbers, List.scanl_cons] at hfits ⊢
    obtain ⟨-, hfits⟩ := List.forall_mem_cons.mp hfits
    -- The next running sum is the first one of the rest.
    have hnext : t + x ∈ (wholeNumbers rest).scanl (· + ·) (t + x) := by
      cases wholeNumbers rest <;> simp
    obtain ⟨c, hadd, hc, hcnumber, hckind⟩ := Value.add_wholes htotal hv ht hx (hfits _ hnext)
    obtain ⟨w, hw, hwhole, hwnumber, hwkind⟩ := ih hc hcnumber hrest hfits
    refine ⟨w, ?_, hwhole, ?_, ?_⟩
    · simp only [sumFrom, summand_eq hv, hadd, ok_bind]
      exact hw
    · rw [hwnumber, List.sum_cons, Int.add_assoc]
    · have hshort : total.kind = .integer → FitsIn32 t := htotal.fitsIn32 ht
      rw [hwkind, hckind, List.forall_mem_cons, List.forall_mem_cons]
      constructor
      · rintro ⟨⟨htotal, hv, -⟩, hrest, hsums⟩
        exact ⟨htotal, ⟨hv, hrest⟩, hshort htotal, hsums⟩
      · rintro ⟨htotal, ⟨hv, hrest⟩, -, hsums⟩
        exact ⟨⟨htotal, hv, hsums _ hnext⟩, hrest, hsums⟩

theorem sumFrom_none_wholes {values : List Value} (hvalues : ∀ v ∈ values, v.IsIntegerOrLong)
    (hfits : ∀ s ∈ (wholeNumbers values).scanl (· + ·) 0, FitsIn64 s) :
    ∃ total, sumFrom none values = .ok total ∧ (total.getD (.integer 0)).IsIntegerOrLong ∧
      (total.getD (.integer 0)).wholeNumber? = some (wholeNumbers values).sum ∧
      ((total.getD (.integer 0)).kind = .integer ↔ StaysShort values) := by
  cases values with
  | nil =>
    have hstays : StaysShort [] :=
      ⟨List.forall_mem_nil _, List.forall_mem_singleton.mpr (by decide)⟩
    exact ⟨none, rfl, .inl rfl, rfl, iff_of_true rfl hstays⟩
  | cons v rest =>
    obtain ⟨hv, hrest⟩ := List.forall_mem_cons.mp hvalues
    obtain ⟨x, hx⟩ := hv.exists_number
    have hnumbers : wholeNumbers (v :: rest) = x :: wholeNumbers rest :=
      List.filterMap_cons_some hx
    have hzero : FitsIn32 0 := by decide
    rw [hnumbers, List.scanl_cons, Int.zero_add, List.forall_mem_cons] at hfits
    obtain ⟨w, hw, hwhole, hwnumber, hwkind⟩ := sumFrom_wholes hv hx hrest hfits.2
    refine ⟨some w, ?_, hwhole, ?_, ?_⟩
    · simp only [sumFrom, summand_eq hv, ok_bind]
      exact hw
    · rw [hnumbers, List.sum_cons]
      exact hwnumber
    · rw [StaysShort, hnumbers, List.scanl_cons, Int.zero_add, List.forall_mem_cons,
        List.forall_mem_cons, and_iff_right hzero, and_assoc]
      exact hwkind

theorem sum_body (rule : TextRule) (moment : Moment) (arguments : List Value) :
    sum.body rule moment arguments = (do
      .ok ((← sumFrom none (summands arguments)).getD (.integer 0))) := by
  rw [summands, sumFrom_filter]
  rfl

theorem sum_mem : sum ∈ Library.standardFunctions := by
  have hmem : sum ∈ functions := by simp [functions]
  exact Library.mem_standard_of_number hmem

theorem call_sum (moment : Moment) (rule : TextRule) {arguments : List Value}
    (hne : arguments ≠ []) :
    Library.call moment rule "SUM" arguments = sum.body rule moment arguments := by
  have hpos : 1 ≤ arguments.length := List.length_pos_iff.mpr hne
  exact Library.call_eq_body rule sum sum_mem (Function.accepts_variadic "SUM" _ hpos)

end NumberLibrary

/-- As long as 64 bits hold all running sums, the sum of integers and long values is exact. It is an
integer if all of them and all running sums are, and long otherwise. Nulls and arrays make no
difference to it. -/
theorem sums_of_wholes (moment : Moment) (rule : TextRule) {arguments : List Value}
    (hkinds : ∀ v ∈ flattenOnce arguments, v.kind = .null ∨ v.IsIntegerOrLong)
    (hfits : ∀ s ∈ (wholeNumbers (summands arguments)).scanl (· + ·) 0, FitsIn64 s) :
    ∃ v, NumberLibrary.sum.body rule moment arguments = .ok v ∧
      v.wholeNumber? = some (wholeNumbers (summands arguments)).sum ∧
      (StaysShort (summands arguments) → v.kind = .integer) ∧
      (¬StaysShort (summands arguments) → v.kind = .long) ∧
      ∀ others, summands others = summands arguments →
        NumberLibrary.sum.body rule moment others = .ok v ∧
        (others ≠ [] → Library.call moment rule "SUM" others = .ok v) := by
  have hvalues : ∀ v ∈ summands arguments, v.IsIntegerOrLong := by
    intro v hv
    obtain ⟨hmem, hnull⟩ := List.mem_filter.mp hv
    refine (hkinds v hmem).resolve_left fun hkind => ?_
    cases v with
    | null => cases hnull
    | _ => cases hkind
  obtain ⟨total, htotal, hwhole, hnumber, hkind⟩ :=
    NumberLibrary.sumFrom_none_wholes hvalues hfits
  have hbody (others : List Value) (hsame : summands others = summands arguments) :
      NumberLibrary.sum.body rule moment others = .ok (total.getD (.integer 0)) := by
    rw [NumberLibrary.sum_body, hsame, htotal, ok_bind]
  refine ⟨_, hbody arguments rfl, hnumber, hkind.mpr, fun hlong => ?_, fun others hsame => ?_⟩
  · exact hwhole.resolve_left (mt hkind.mp hlong)
  · exact ⟨hbody others hsame,
      fun hne => (NumberLibrary.call_sum moment rule hne).trans (hbody others hsame)⟩

/-- The second running sum needs more than 32 bits, so the sum stays long although it is zero. -/
theorem sums_of_wholes_there_and_back :
    let moment : Moment := ⟨.epoch, 0⟩
    let greatest : Value := .integer 2147483647
    let values : List Value := [greatest, .array [greatest, .null], .integer (-2147483647),
      .integer (-2147483647)]
    (∀ v ∈ flattenOnce values, v.kind = .null ∨ v.IsIntegerOrLong) ∧
      (∀ s ∈ (wholeNumbers (summands values)).scanl (· + ·) 0, FitsIn64 s) ∧
      ¬StaysShort (summands values) ∧
      ∃ v, Library.call moment .exact "SUM" values = .ok v ∧ v.wholeNumber? = some 0 ∧
        v.kind = .long := by
  intro moment greatest values
  have hkinds : ∀ v ∈ flattenOnce values, v.kind = .null ∨ v.IsIntegerOrLong := by
    simp [values, greatest, flattenOnce, Value.IsIntegerOrLong, Value.kind]
  have hfits : ∀ s ∈ (wholeNumbers (summands values)).scanl (· + ·) 0, FitsIn64 s := by decide
  have hlong : ¬StaysShort (summands values) := fun h =>
    absurd (h.2 4294967294 (by decide)) (by decide)
  obtain ⟨v, -, hnumber, -, hkind, hsame⟩ := sums_of_wholes moment .exact hkinds hfits
  exact ⟨hkinds, hfits, hlong, v, (hsame values rfl).2 (List.cons_ne_nil _ _), hnumber, hkind hlong⟩

end Reckon
