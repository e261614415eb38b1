import Reckon.Proofs.StandardCalls
import Reckon.Proofs.ValueOrder

/-!
# Extremes

Values that are all compared as whole numbers, and texts, are in a total order in which different
values may be tied. The greatest and the least of them are found whatever the order in which they
are given, and among tied ones it is the first that is found.
-/

namespace Reckon

open Std

/-! ### Orders -/

theorem transCmp_on {α β : Type} (cmp : β → β → Ordering) [TransCmp cmp] (f : α → β) :
    TransCmp fun a b => cmp (f a) (f b) where
  eq_swap := OrientedCmp.eq_swap
  isLE_trans := TransCmp.isLE_trans

section Beyond

variable {α : Type} {cmp : α → α → Ordering} [TransCmp cmp] {beyond : Ordering}

theorem not_beyond_of_beyond (hbeyond : beyond ≠ .eq) {a b : α} (h : cmp a b = beyond) :
    cmp b a ≠ beyond := by
  have hswap : cmp b a = (cmp a b).swap := OrientedCmp.eq_swap
  rw [hswap, h]
  cases beyond with
  | eq => exact absurd rfl hbeyond
  | _ => decide

/-- What lies between two values, one of which is beyond the other, is beyond the one or not as far
as the other. -/
theorem beyond_or_beyond (hbeyond : beyond ≠ .eq) {a c : α} (h : cmp a c = beyond) (b : α) :
    cmp a b = beyond ∨ cmp b c = beyond := by
  by_contra hneither
  obtain ⟨hab, hbc⟩ := not_or.mp hneither
  cases beyond with
  | eq => exact hbeyond rfl
  | lt =>
    have hge : (cmp a c).isGE = true := TransCmp.isGE_trans (Ordering.isGE_iff_ne_lt.mpr hab)
      (Ordering.isGE_iff_ne_lt.mpr hbc)
    exact Ordering.isGE_iff_ne_lt.mp hge h
  | gt =>
    have hle : (cmp a c).isLE = true := TransCmp.isLE_trans (Ordering.isLE_iff_ne_gt.mpr hab)
      (Ordering.isLE_iff_ne_gt.mpr hbc)
    exact Ordering.isLE_iff_ne_gt.mp hle h

theorem eq_of_not_beyond (hbeyond : beyond ≠ .eq) {a b : α} (hab : cmp a b ≠ beyond)
    (hba : cmp b a ≠ beyond) : cmp a b = .eq := by
  have hswap : cmp b a = (cmp a b).swap := OrientedCmp.eq_swap
  rw [hswap] at hba
  cases hcmp : cmp a b with
  | eq => rfl
  | _ => cases beyond <;> simp_all

end Beyond

/-! ### The first of the extremes -/

/-- The earliest of the values that none of them is beyond. -/
def FirstExtreme (beyond : Value → Value → Prop) (values : List Value) (best : Value) : Prop :=
  ∃ earlier later, values = earlier ++ best :: later ∧ (∀ v ∈ earlier, beyond best v) ∧
    ∀ v ∈ values, ¬beyond v best

namespace FirstExtreme

variable {order : Value → Value → Ordering} [TransCmp order] {beyond : Ordering}
  {first second best : Value} {rest : List Value}

theorem mem {beyond : Value → Value → Prop} {values : List Value}
    (h : FirstExtreme beyond values best) : best ∈ values := by
  obtain ⟨earlier, later, rfl, -⟩ := h
  exact List.mem_append_right _ List.mem_cons_self

theorem none_beyond {beyond : Value → Value → Prop} {values : List Value}
    (h : FirstExtreme beyond values best) {v : Value} (hv : v ∈ values) : ¬beyond v best := by
  obtain ⟨earlier, later, -, -, hnone⟩ := h
  exact hnone v hv

theorem singleton (hbeyond : beyond ≠ .eq) (v : Value) :
    FirstExtreme (fun v w => order v w = beyond) [v] v := by
  refine ⟨[], [], rfl, List.forall_mem_nil _, List.forall_mem_singleton.mpr fun h => ?_⟩
  exact not_beyond_of_beyond hbeyond h h

/-- Behind a value that the next one is beyond, the extremes are those from the next one on. -/
theorem replaced (hbeyond : beyond ≠ .eq) (hsecond : order second first = beyond)
    (h : FirstExtreme (fun v w => order v w = beyond) (second :: rest) best) :
    FirstExtreme (fun v w => order v w = beyond) (first :: second :: rest) best := by
  obtain ⟨earlier, later, hsplit, hearlier, hnone⟩ := h
  have hfirst : order best first = beyond :=
    (beyond_or_beyond hbeyond hsecond best).resolve_left (hnone second List.mem_cons_self)
  refine ⟨first :: earlier, later, congrArg (first :: ·) hsplit, ?_, ?_⟩
  · exact List.forall_mem_cons.mpr ⟨hfirst, hearlier⟩
  · exact List.forall_mem_cons.mpr ⟨not_beyond_of_beyond hbeyond hfirst, hnone⟩

/-- A value that is not beyond the one before it makes no difference. -/
theorem passed (hbeyond : beyond ≠ .eq) (hsecond : order second first ≠ beyond)
    (h : FirstExtreme (fun v w => order v w = beyond) (first :: rest) best) :
    FirstExtreme (fun v w => order v w = beyond) (first :: second :: rest) best := by
  obtain ⟨earlier, later, hsplit, hearlier, hnone⟩ := h
  obtain ⟨hfirst, hrest⟩ := List.forall_mem_cons.mp hnone
  cases earlier with
  | nil =>
    obtain ⟨rfl, rfl⟩ := List.cons.inj hsplit
    refine ⟨[], second :: rest, rfl, List.forall_mem_nil _, ?_⟩
    exact List.forall_mem_cons.mpr ⟨hfirst, List.forall_mem_cons.mpr ⟨hsecond, hrest⟩⟩
  | cons u earlier =>
    obtain ⟨rfl, rfl⟩ := List.cons.inj hsplit
    obtain ⟨hbest, hearlier⟩ := List.forall_mem_cons.mp hearlier
    have hpassed : order best second = beyond :=
      (beyond_or_beyond hbeyond hbest second).resolve_right hsecond
    refine ⟨first :: second :: earlier, later, rfl, ?_, ?_⟩
    · exact List.forall_mem_cons.mpr ⟨hbest, List.forall_mem_cons.mpr ⟨hpassed, hearlier⟩⟩
    · exact List.forall_mem_cons.mpr ⟨hfirst,
        List.forall_mem_cons.mpr ⟨not_beyond_of_beyond hbeyond hpassed, hrest⟩⟩

end FirstExtreme

/-! ### Values that can be compared -/

/-- All of the values are compared as whole numbers, or all of them are texts. -/
def Comparable (values : List Value) : Prop :=
  (∀ v ∈ values, v.isWhole = true) ∨ ∀ v ∈ values, v.isString = true

def OrderedBy (rule : TextRule) (order : Value → Value → Ordering) (values : List Value) : Prop :=
  ∀ v ∈ values, ∀ w ∈ values, v.compare? rule w = .ok (some (order v w))

theorem OrderedBy.subset {rule : TextRule} {order : Value → Value → Ordering}
    {values others : List Value} (h : OrderedBy rule order values) (hsubset : others ⊆ values) :
    OrderedBy rule order others :=
  fun v hv w hw => h v (hsubset hv) w (hsubset hw)

theorem Value.compare?_of_strings (rule : TextRule) {v w : Value} (hv : v.isString = true)
    (hw : w.isString = true) : v.compare? rule w = .ok (some (rule.compare v.chars w.chars)) := by
  cases v with
  | string s =>
    cases w with
    | string t => rfl
    | _ => cases hw
  | _ => cases hv

theorem Comparable.exists_order (rule : TextRule) {values : List Value} (h : Comparable values) :
    ∃ order : Value → Value → Ordering, TransCmp order ∧ OrderedBy rule order values := by
  rcases h with hwhole | hstring
  · refine ⟨fun v w => compare v.asLong.toInt w.asLong.toInt,
      transCmp_on compare fun v : Value => v.asLong.toInt, fun v hv w hw => ?_⟩
    exact Value.order_of_wholes rule .less (hwhole v hv) (hwhole w hw)
  · refine ⟨fun v w => rule.compare v.chars w.chars,
      transCmp_on compareText fun v : Value => rule.form v.chars, fun v hv w hw => ?_⟩
    exact Value.compare?_of_strings rule (hstring v hv) (hstring w hw)

theorem FirstExtreme.of_order {rule : TextRule} {order : Value → Value → Ordering}
    {beyond : Ordering} {values : List Value} {best : Value}
    (h : FirstExtreme (fun v w => order v w = beyond) values best)
    (horder : OrderedBy rule order values) :
    FirstExtreme (fun v w => v.compare? rule w = .ok (some beyond)) values best := by
  have hmem := h.mem
  have hiff {v w : Value} (hv : v ∈ values) (hw : w ∈ values) :
      v.compare? rule w = .ok (some beyond) ↔ order v w = beyond := by
    rw [horder v hv w hw, Except.ok.injEq, Option.some.injEq]
  obtain ⟨earlier, later, rfl, hearlier, hnone⟩ := h
  refine ⟨earlier, later, rfl, fun v hv => ?_, fun v hv hbeyond => ?_⟩
  · exact (hiff hmem (List.mem_append_left _ hv)).mpr (hearlier v hv)
  · exact hnone v hv ((hiff hv hmem).mp hbeyond)

/-! ### Finding them -/

namespace NumberLibrary

variable {name : String} {rule : TextRule} {beyond : Ordering}

theorem extremeFrom_cons {v current : Value} {ordering : Ordering}
    (h : v.compare? rule current = .ok (some ordering)) (rest : List Value) :
    extremeFrom name beyond rule (some current) (v :: rest) =
      extremeFrom name beyond rule (some (if ordering = beyond then v else current)) rest := by
  have hfound : evaluated (v.compare? rule current) = .ok (some ordering) := by
    rw [h]
    rfl
  cases v with
  | object document => cases h
  | _ => simp only [extremeFrom, hfound, ok_bind, Option.some.injEq]

theorem extremeFrom_first {v : Value} {ordering : Option Ordering}
    (h : v.compare? rule v = .ok ordering) (rest : List Value) :
    extremeFrom name beyond rule none (v :: rest) =
      extremeFrom name beyond rule (some v) rest := by
  cases v with
  | object document => cases h
  | _ => rfl

theorem extremeFrom_eq (name : String) {order : Value → Value → Ordering} [TransCmp order]
    (hbeyond : beyond ≠ .eq) {current : Value} {values : List Value}
    (horder : OrderedBy rule order (current :: values)) :
    ∃ best, extremeFrom name beyond rule (some current) values = .ok (some best) ∧
      FirstExtreme (fun v w => order v w = beyond) (current :: values) best := by
  induction values generalizing current with
  | nil => exact ⟨current, rfl, .singleton hbeyond current⟩
  | cons v rest ih =>
    have hcompare := horder v (List.mem_cons_of_mem _ List.mem_cons_self) current List.mem_cons_self
    rw [extremeFrom_cons hcompare]
    split
    · next hreplaced =>
      obtain ⟨best, hbest, hfirst⟩ := ih (horder.subset (List.subset_cons_self current _))
      exact ⟨best, hbest, hfirst.replaced hbeyond hreplaced⟩
    · next hpassed =>
      obtain ⟨best, hbest, hfirst⟩ :=
        ih (horder.subset (List.cons_subset_cons current (List.subset_cons_self v rest)))
      exact ⟨best, hbest, hfirst.passed hbeyond hpassed⟩

theorem extreme_body (moment : Moment) (name : String) {order : Value → Value → Ordering} [TransCmp order]
    (hbeyond : beyond ≠ .eq) {arguments : List Value} (hne : flattenOnce arguments ≠ [])
    (horder : OrderedBy rule order (flattenOnce arguments)) :
    ∃ best, (extreme name beyond).body rule moment arguments = .ok best ∧
      FirstExtreme (fun v w => order v w = beyond) (flattenOnce arguments) best := by
  have hbody : (extreme name beyond).body rule moment arguments = (do
      .ok ((← extremeFrom name beyond rule none (flattenOnce arguments)).getD .null)) := rfl
  rw [hbody]
  cases hvalues : flattenOnce arguments with
  | nil => exact absurd hvalues hne
  | cons v rest =>
    rw [hvalues] at horder
    obtain ⟨best, hbest, hfirst⟩ := extremeFrom_eq name hbeyond horder
    have hself := horder v List.mem_cons_self v List.mem_cons_self
    exact ⟨best, by rw [extremeFrom_first hself, hbest, ok_bind, Option.getD_some], hfirst⟩

def extremes : List (String × Ordering) :=
  [("MAX", .gt), ("MIN", .lt)]

theorem ne_eq_of_mem_extremes (h : (name, beyond) ∈ extremes) : beyond ≠ .eq := by
  rcases List.mem_pair.mp h with h | h <;> cases h <;> decide

theorem extreme_mem (h : (name, beyond) ∈ extremes) :
    extreme name beyond ∈ Library.standardFunctions := by
  have hmem : extreme name beyond ∈ functions := by
    rcases List.mem_pair.mp h with h | h <;> cases h <;> simp [functions]
  exact Library.mem_standard_of_number hmem

theorem call_extreme (moment : Moment) (h : (name, beyond) ∈ extremes) {arguments : List Value}
    (hne : flattenOnce arguments ≠ []) :
    Library.call moment rule name arguments =
      (extreme name beyond).body rule moment arguments := by
  have hpos : 1 ≤ arguments.length := by
    rw [Nat.one_le_iff_ne_zero, ne_eq, List.length_eq_zero_iff]
    rintro rfl
    exact hne rfl
  exact Library.call_eq_body rule (extreme name beyond) (extreme_mem h)
    (Function.accepts_variadic name _ hpos)

end NumberLibrary

open NumberLibrary in
/-- Of values that can all be compared, which may stand in arrays, the first one that no other is
beyond is found, and in whatever order and arrays they are given, what is found compares equal. -/
theorem extremes_found (moment : Moment) (rule : TextRule) {arguments : List Value}
    (hne : flattenOnce arguments ≠ []) (hcomparable : Comparable (flattenOnce arguments)) :
    ∀ name beyond, (name, beyond) ∈ extremes →
      ∃ best, Library.call moment rule name arguments = .ok best ∧
        FirstExtreme (fun v w => v.compare? rule w = .ok (some beyond)) (flattenOnce arguments)
          best ∧
        ∀ others, (flattenOnce others).Perm (flattenOnce arguments) →
          ∃ found, Library.call moment rule name others = .ok found ∧
            found.compare? rule best = .ok (some .eq) := by
  intro name beyond hname
  have hbeyond := ne_eq_of_mem_extremes hname
  obtain ⟨order, htrans, horder⟩ := hcomparable.exists_order rule
  obtain ⟨best, hbody, hbest⟩ := extreme_body moment name hbeyond hne horder
  refine ⟨best, (call_extreme moment hname hne).trans hbody, hbest.of_order horder, ?_⟩
  intro others hperm
  have hsubset : flattenOnce others ⊆ flattenOnce arguments := hperm.subset
  have hne' : flattenOnce others ≠ [] := fun hnil => hne (List.nil_perm.mp (hnil ▸ hperm))
  obtain ⟨found, hbody', hfound⟩ := extreme_body moment name hbeyond hne' (horder.subset hsubset)
  have htied : order found best = .eq := eq_of_not_beyond hbeyond
    (hbest.none_beyond (hsubset hfound.mem)) (hfound.none_beyond (hperm.mem_iff.mpr hbest.mem))
  exact ⟨found, (call_extreme moment hname hne').trans hbody',
    by rw [horder found (hsubset hfound.mem) best hbest.mem, htied]⟩

/-- The greatest of these is the truth value, and the integer in the other direction. -/
theorem extremes_found_among_ties :
    let moment : Moment := ⟨.epoch, 0⟩
    let values : List Value := [.boolean true, .array [.integer 1, .null], .instant .epoch]
    let others : List Value := [.instant .epoch, .array [.null, .integer 1], .boolean true]
    flattenOnce values ≠ [] ∧ Comparable (flattenOnce values) ∧
      ("MAX", .gt) ∈ NumberLibrary.extremes ∧ (flattenOnce others).Perm (flattenOnce values) ∧
      ∃ best, Library.call moment .exact "MAX" values = .ok best ∧
        FirstExtreme (fun v w => v.compare? .exact w = .ok (some .gt)) (flattenOnce values) best ∧
        ∃ found, Library.call moment .exact "MAX" others = .ok found ∧
          found.compare? .exact best = .ok (some .eq) := by
  intro moment values others
  have hne : flattenOnce values ≠ [] := List.cons_ne_nil _ _
  have hcomparable : Comparable (flattenOnce values) :=
    .inl (by simp [values, flattenOnce, Value.isWhole])
  have hmax : ("MAX", .gt) ∈ NumberLibrary.extremes := List.mem_cons_self
  have hperm : (flattenOnce others).Perm (flattenOnce values) :=
    List.reverse_perm (flattenOnce values)
  obtain ⟨best, hbest, hfirst, hothers⟩ :=
    extremes_found moment .exact hne hcomparable "MAX" .gt hmax
  exact ⟨hne, hcomparable, hmax, hperm, best, hbest, hfirst, hothers others hperm⟩

end Reckon
