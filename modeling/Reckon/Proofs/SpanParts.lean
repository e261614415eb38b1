import Reckon.Proofs.StandardCalls
import Reckon.Proofs.Widening

/-!
# Spans from their parts

A span is made from its days, hours, minutes, seconds and milliseconds, of any signs, by adding up
their milliseconds from the left. If 64 bits hold each of them and each sum on the way the span is
exact, but for the least number of 64 bits, which no span has; otherwise there is none. Parts of one
sign never exceed 64 bits before their sum does.
-/

namespace Reckon

/-- The milliseconds of each part. Spans of three parts have neither days nor milliseconds, and
those of four have no milliseconds. -/
def partMillis? : List Int → Option (List Int)
  | [hours, minutes, seconds] => some [hours * 3600000, minutes * 60000, seconds * 1000]
  | [days, hours, minutes, seconds] =>
    some [days * 86400000, hours * 3600000, minutes * 60000, seconds * 1000]
  | [days, hours, minutes, seconds, millis] =>
    some [days * 86400000, hours * 3600000, minutes * 60000, seconds * 1000, millis]
  | _ => none

def SumsFit (total : Int) (numbers : List Int) : Prop :=
  (∀ n ∈ numbers, FitsIn64 n) ∧ ∀ s ∈ numbers.scanl (· + ·) total, FitsIn64 s

instance (total : Int) (numbers : List Int) : Decidable (SumsFit total numbers) :=
  inferInstanceAs (Decidable (_ ∧ _))

/-! ### Sums -/

theorem sumsFit_nil {total : Int} : SumsFit total [] ↔ FitsIn64 total := by
  simp [SumsFit]

theorem sumsFit_cons {total n : Int} {numbers : List Int} :
    SumsFit total (n :: numbers) ↔ FitsIn64 total ∧ FitsIn64 n ∧ SumsFit (total + n) numbers := by
  simp only [SumsFit, List.scanl_cons, List.forall_mem_cons]
  tauto

theorem SumsFit.total {total : Int} {numbers : List Int} (h : SumsFit total numbers) :
    FitsIn64 total := by
  cases numbers with
  | nil => exact sumsFit_nil.mp h
  | cons n numbers => exact (sumsFit_cons.mp h).1

theorem SumsFit.sum {total : Int} {numbers : List Int} (h : SumsFit total numbers) :
    FitsIn64 (total + numbers.sum) := by
  induction numbers generalizing total with
  | nil => rwa [List.sum_nil, Int.add_zero, ← sumsFit_nil]
  | cons n numbers ih =>
    rw [List.sum_cons, ← Int.add_assoc]
    exact ih (sumsFit_cons.mp h).2.2

/-- On the way to a sum of numbers of one sign nothing is farther from zero than the sum. -/
theorem sumsFit_of_one_sign {total : Int} {numbers : List Int}
    (h : (0 ≤ total ∧ ∀ n ∈ numbers, 0 ≤ n) ∨ (total ≤ 0 ∧ ∀ n ∈ numbers, n ≤ 0))
    (hsum : FitsIn64 (total + numbers.sum)) : SumsFit total numbers := by
  induction numbers generalizing total with
  | nil => rwa [sumsFit_nil, ← Int.add_zero total]
  | cons n numbers ih =>
    rw [List.sum_cons, ← Int.add_assoc] at hsum
    simp only [List.forall_mem_cons] at h
    have hrest : SumsFit (total + n) numbers :=
      ih (h.imp (fun h => ⟨by omega, h.2.2⟩) fun h => ⟨by omega, h.2.2⟩) hsum
    -- Both the total and the number lie between zero and their sum.
    have hnext := hrest.total
    unfold FitsIn64 at hnext
    exact sumsFit_cons.mpr ⟨by unfold FitsIn64; omega, by unfold FitsIn64; omega, hrest⟩

/-! ### Parts -/

theorem partMillis?_eq_zipWith {parts millis : List Int} (h : partMillis? parts = some millis) :
    ∃ units, TimeLibrary.units? parts.length = some units ∧ parts.length = units.length ∧
      parts.zipWith (· * ·) units = millis ∧ 3 ≤ parts.length ∧ parts.length ≤ 5 := by
  unfold partMillis? at h
  split at h
  · cases h
    exact ⟨_, rfl, rfl, rfl, by simp, by simp⟩
  · cases h
    exact ⟨_, rfl, rfl, rfl, by simp, by simp⟩
  · cases h
    exact ⟨_, rfl, rfl, by simp, by simp, by simp⟩
  · cases h

theorem partMillis?_sign {parts millis : List Int} (h : partMillis? parts = some millis) :
    ((∀ n ∈ parts, 0 ≤ n) → ∀ n ∈ millis, 0 ≤ n) ∧
      ((∀ n ∈ parts, n ≤ 0) → ∀ n ∈ millis, n ≤ 0) := by
  unfold partMillis? at h
  split at h
  all_goals cases h
  -- All units are positive.
  all_goals
    simp only [List.forall_mem_cons]
    constructor
    · intro hparts
      simp only [List.not_mem_nil, false_imp_iff, implies_true, and_true]
      omega
    · intro hparts
      simp only [List.not_mem_nil, false_imp_iff, implies_true, and_true]
      omega

namespace TimeLibrary

theorem spanSum_cons {arguments : List Value} {i : Nat} {v : Value} {n : Int}
    (hv : arguments[i]? = some v) (hn : v.wholeNumber? = some n) (total : Int64) (unit : Int)
    (units : List Int) :
    spanSum arguments i total (unit :: units) =
      if FitsIn64 (n * unit) ∧ FitsIn64 (total.toInt + n * unit) then
        spanSum arguments (i + 1) (.ofInt (total.toInt + n * unit)) units
      else refuseArgument (.outOfRange "TIMESPAN") := by
  simp only [spanSum, integerArgument_eq hv hn, ok_bind, toInt64?_eq]
  by_cases hproduct : FitsIn64 (n * unit)
  · have hword : (Int64.ofInt (n * unit)).toInt = n * unit :=
      Int64.toInt_ofInt_of_le hproduct.1 hproduct.2
    by_cases hsum : FitsIn64 (total.toInt + n * unit)
    · simp only [if_pos hproduct, hword, if_pos hsum, if_pos (And.intro hproduct hsum)]
    · simp only [if_pos hproduct, hword, if_neg hsum, if_neg fun h => hsum (And.right h)]
  · simp only [if_neg hproduct, if_neg fun h => hproduct (And.left h)]

/-- The sum is there if all sums on the way fit, and refused otherwise. -/
theorem spanSum_eq {arguments : List Value} {i : Nat} {parts units : List Int}
    (hparts : List.Forall₂ (fun v n => v.wholeNumber? = some n) (arguments.drop i) parts)
    (hlength : parts.length = units.length) (total : Int64) :
    spanSum arguments i total units =
      if SumsFit total.toInt (parts.zipWith (· * ·) units) then
        .ok (.ofInt (total.toInt + (parts.zipWith (· * ·) units).sum))
      else refuseArgument (.outOfRange "TIMESPAN") := by
  induction units generalizing i parts total with
  | nil =>
    have hfits : SumsFit total.toInt [] := sumsFit_nil.mpr (fitsIn64_toInt total)
    rw [List.zipWith_nil_right, if_pos hfits, List.sum_nil, Int.add_zero, Int64.ofInt_toInt]
    rfl
  | cons unit units ih =>
    cases parts with
    | nil => cases hlength
    | cons n parts =>
      obtain ⟨v, rest, hn, hparts, hrest⟩ := List.forall₂_cons_right_iff.mp hparts
      have hv : arguments[i]? = some v := by
        rw [← Nat.add_zero i, ← List.getElem?_drop, hrest, List.getElem?_cons_zero]
      have htail : arguments.drop (i + 1) = rest := by
        rw [← List.drop_drop, hrest, List.drop_one, List.tail_cons]
      rw [spanSum_cons hv hn, List.zipWith_cons_cons, List.sum_cons, ← Int.add_assoc]
      by_cases hstep : FitsIn64 (n * unit) ∧ FitsIn64 (total.toInt + n * unit)
      · have hnext : (Int64.ofInt (total.toInt + n * unit)).toInt = total.toInt + n * unit :=
          Int64.toInt_ofInt_of_le hstep.2.1 hstep.2.2
        rw [if_pos hstep, ih (htail ▸ hparts) (Nat.succ.inj hlength), hnext]
        exact if_congr (by simp [sumsFit_cons, fitsIn64_toInt, hstep.1]) rfl rfl
      · have hnot : ¬SumsFit total.toInt (n * unit :: parts.zipWith (· * ·) units) := by
          intro h
          obtain ⟨-, hproduct, hrest⟩ := sumsFit_cons.mp h
          exact hstep ⟨hproduct, hrest.total⟩
        rw [if_neg hstep, if_neg hnot]

theorem timeSpan_eq {arguments : List Value} {parts millis : List Int}
    (hparts : List.Forall₂ (fun v n => v.wholeNumber? = some n) arguments parts)
    (hmillis : partMillis? parts = some millis) :
    timeSpan arguments =
      if SumsFit 0 millis then .ok (.span (.ofMillis (.ofInt millis.sum)))
      else refuseArgument (.outOfRange "TIMESPAN") := by
  obtain ⟨units, hunits, hlength, rfl, hleast, -⟩ := partMillis?_eq_zipWith hmillis
  have hsum := spanSum_eq (i := 0) hparts hlength 0
  rw [Int64.toInt_zero, Int.zero_add] at hsum
  rw [timeSpan, hparts.length_eq, if_neg (by omega)]
  simp only [hunits, hsum]
  split <;> rfl

def timeSpanFunction : Function :=
  ⟨"TIMESPAN", 1, some 5, fun _ _ arguments => timeSpan arguments⟩

theorem timeSpanFunction_mem : timeSpanFunction ∈ Library.standardFunctions := by
  have hmem : timeSpanFunction ∈ functions := by simp [functions, timeSpanFunction]
  exact Library.mem_standard_of_time hmem

theorem call_timeSpan (moment : Moment) (rule : TextRule) {arguments : List Value}
    {parts millis : List Int}
    (hparts : List.Forall₂ (fun v n => v.wholeNumber? = some n) arguments parts)
    (hmillis : partMillis? parts = some millis) :
    Library.call moment rule "TIMESPAN" arguments =
      if SumsFit 0 millis then .ok (.span (.ofMillis (.ofInt millis.sum)))
      else refuseArgument (.outOfRange "TIMESPAN") := by
  obtain ⟨-, -, -, -, hleast, hmost⟩ := partMillis?_eq_zipWith hmillis
  have haccepts : timeSpanFunction.accepts arguments.length = true := by
    rw [hparts.length_eq]
    exact Bool.and_eq_true_iff.mpr
      ⟨decide_eq_true (Nat.le_trans (by decide) hleast), decide_eq_true hmost⟩
  rw [← timeSpan_eq hparts hmillis]
  exact Library.call_eq_body rule timeSpanFunction timeSpanFunction_mem haccepts

end TimeLibrary

theorem Span.nanos_ofMillis_ofInt {n : Int} (h : FitsIn64 n) :
    (Span.ofMillis (.ofInt n)).nanos = max n (-(2 ^ 63 - 1)) * 1000000 := by
  have hnanos (ms : Int64) :
      (Span.ofMillis ms).nanos = max ms.toInt (-9223372036854775807) * 1000000 := rfl
  rw [hnanos, Int64.toInt_ofInt_of_le h.1 h.2]
  rfl

/-- As long as 64 bits hold the milliseconds of all parts and all sums of them from the left, the
parts give the span of the sum, which is then within 64 bits, or the span next to it for the least
number of 64 bits. Otherwise they are refused. Parts of one sign give a span whenever 64 bits hold
the sum itself. -/
theorem spans_of_parts (moment : Moment) (rule : TextRule) {arguments : List Value}
    {parts millis : List Int}
    (hparts : List.Forall₂ (fun v n => v.wholeNumber? = some n) arguments parts)
    (hmillis : partMillis? parts = some millis) :
    (SumsFit 0 millis → ∃ d, Library.call moment rule "TIMESPAN" arguments = .ok (.span d) ∧
      d.nanos = max millis.sum (-(2 ^ 63 - 1)) * 1000000) ∧
    (¬SumsFit 0 millis → ∃ e, Library.call moment rule "TIMESPAN" arguments = .error e ∧
      e.code = "BAD_ARGUMENT" ∧ e.message = "Invalid argument: TIMESPAN: value is out of range") ∧
    (SumsFit 0 millis → FitsIn64 millis.sum) ∧
    ((∀ n ∈ parts, 0 ≤ n) ∨ (∀ n ∈ parts, n ≤ 0) → FitsIn64 millis.sum → SumsFit 0 millis) := by
  have hcall := TimeLibrary.call_timeSpan moment rule hparts hmillis
  have hsum (hfits : SumsFit 0 millis) : FitsIn64 millis.sum := by
    simpa using hfits.sum
  refine ⟨fun hfits => ?_, fun hnot => ?_, hsum, fun hsign hsum => ?_⟩
  · rw [if_pos hfits] at hcall
    exact ⟨_, hcall, Span.nanos_ofMillis_ofInt (hsum hfits)⟩
  · rw [if_neg hnot] at hcall
    exact ⟨_, hcall, rfl, rfl⟩
  · obtain ⟨hnonneg, hnonpos⟩ := partMillis?_sign hmillis
    refine sumsFit_of_one_sign ?_ (by rwa [Int.zero_add])
    exact hsign.imp (fun h => ⟨Int.le_refl 0, hnonneg h⟩) fun h => ⟨Int.le_refl 0, hnonpos h⟩

/-- The hours alone are within 64 bits, and the milliseconds bring the sum to the least number. -/
theorem span_of_least_sum :
    let arguments : List Value := [.integer 0, .long (-2562047788015), .integer (-12),
      .integer (-55), .integer (-808)]
    let parts : List Int := [0, -2562047788015, -12, -55, -808]
    let millis : List Int := [0, -9223372036854000000, -720000, -55000, -808]
    List.Forall₂ (fun v n => Value.wholeNumber? v = some n) arguments parts ∧
      partMillis? parts = some millis ∧ (∀ n ∈ parts, n ≤ 0) ∧ FitsIn64 millis.sum ∧
      SumsFit 0 millis ∧
      ∃ d, Library.call ⟨.epoch, 0⟩ .exact "TIMESPAN" arguments = .ok (.span d) ∧
        d.nanos = -(2 ^ 63 - 1) * 1000000 := by
  intro arguments parts millis
  have hparts : List.Forall₂ (fun v n => Value.wholeNumber? v = some n) arguments parts := by
    simp only [arguments, parts, List.forall₂_cons, List.forall₂_nil_left_iff]
    decide
  have hmillis : partMillis? parts = some millis := by decide
  have hsign : ∀ n ∈ parts, n ≤ 0 := by decide
  have hsum : FitsIn64 millis.sum := by decide
  obtain ⟨hspan, -, -, hone⟩ := spans_of_parts ⟨.epoch, 0⟩ .exact hparts hmillis
  have hfits : SumsFit 0 millis := hone (.inr hsign) hsum
  obtain ⟨d, hd, hnanos⟩ := hspan hfits
  exact ⟨hparts, hmillis, hsign, hsum, hfits, d, hd, hnanos⟩

/-- Hours that do not fit are refused although the minutes would bring the sum back, and the least
sum is not refused. -/
theorem span_departs_from_sum :
    (¬∀ (moment : Moment) (rule : TextRule) (arguments : List Value) (parts millis : List Int),
      List.Forall₂ (fun v n => v.wholeNumber? = some n) arguments parts →
      partMillis? parts = some millis →
      -(2 ^ 63 - 1) ≤ millis.sum → millis.sum ≤ 2 ^ 63 - 1 →
      ∃ d, Library.call moment rule "TIMESPAN" arguments = .ok (.span d) ∧
        d.nanos = millis.sum * 1000000) ∧
    ¬∀ (moment : Moment) (rule : TextRule) (arguments : List Value) (parts millis : List Int),
      List.Forall₂ (fun v n => v.wholeNumber? = some n) arguments parts →
      partMillis? parts = some millis →
      ¬(-(2 ^ 63 - 1) ≤ millis.sum ∧ millis.sum ≤ 2 ^ 63 - 1) →
      ∃ e, Library.call moment rule "TIMESPAN" arguments = .error e ∧ e.code = "BAD_ARGUMENT" := by
  constructor
  · intro h
    let parts : List Int := [2562047788016, -60, 0]
    let millis : List Int := [9223372036857600000, -3600000, 0]
    have hparts : List.Forall₂ (fun v n => Value.wholeNumber? v = some n)
        [.long 2562047788016, .integer (-60), .integer 0] parts := by
      simp only [parts, List.forall₂_cons, List.forall₂_nil_left_iff]
      decide
    have hmillis : partMillis? parts = some millis := by decide
    have hnot : ¬SumsFit 0 millis := by decide
    obtain ⟨d, hd, -⟩ := h ⟨.epoch, 0⟩ .exact _ _ _ hparts hmillis (by decide) (by decide)
    rw [TimeLibrary.call_timeSpan _ _ hparts hmillis, if_neg hnot] at hd
    cases hd
  · intro h
    let parts : List Int := [0, 0, 0, 0, -9223372036854775808]
    let millis : List Int := [0, 0, 0, 0, -9223372036854775808]
    have hparts : List.Forall₂ (fun v n => Value.wholeNumber? v = some n)
        [.integer 0, .integer 0, .integer 0, .integer 0, .long (-9223372036854775808)] parts := by
      simp only [parts, List.forall₂_cons, List.forall₂_nil_left_iff]
      decide
    have hmillis : partMillis? parts = some millis := by decide
    have hfits : SumsFit 0 millis := by decide
    obtain ⟨e, he, -⟩ := h ⟨.epoch, 0⟩ .exact _ _ _ hparts hmillis (by decide)
    rw [TimeLibrary.call_timeSpan _ _ hparts hmillis, if_pos hfits] at he
    cases he

end Reckon
