import Reckon.Proofs.ValueOrder

/-!
# Instants and their differences

Two instants are compared by the millisecond each lies in, and their difference, which is exact to
the nanosecond, by the whole milliseconds it has toward zero. The two comparisons agree but for
instants less than a millisecond apart in different ones: their difference counts as nothing, and
still they are not equal.
-/

namespace Reckon

namespace Instant

def nanosSinceEpoch (t : Instant) : Int :=
  t.second * 1000000000 + t.nano

/-- The instants lie in different milliseconds, and yet less than a millisecond apart. -/
def AcrossBorder (a b : Instant) : Prop :=
  a.millis ≠ b.millis ∧ (a.nanosSinceEpoch - b.nanosSinceEpoch).natAbs < 1000000

instance (a b : Instant) : Decidable (AcrossBorder a b) :=
  inferInstanceAs (Decidable (_ ∧ _))

variable {a b : Instant}

theorem millis_eq_div (t : Instant) : t.millis = t.nanosSinceEpoch / 1000000 := by
  unfold millis nanosSinceEpoch
  omega

theorem nanos_since (ha : a.isLeap = false) (hb : b.isLeap = false) :
    (a.since b).nanos = a.nanosSinceEpoch - b.nanosSinceEpoch := by
  have hleaps : leapsBetween a b = 0 := by simp [leapsBetween, ha, hb]
  simp only [since, hleaps, nanosSinceEpoch]
  omega

/-- The difference is less than no time by at least a millisecond. -/
theorem millis_since_lt_zero (ha : a.isLeap = false) (hb : b.isLeap = false) :
    (a.since b).millis < 0 ↔ a.millis < b.millis ∧ ¬a.AcrossBorder b := by
  rw [Span.millis_eq, nanos_since ha hb, AcrossBorder, millis_eq_div, millis_eq_div]
  generalize a.nanosSinceEpoch = m
  generalize b.nanosSinceEpoch = n
  -- A span is cut toward zero, an instant toward the past, so the sign of the span decides.
  split <;> omega

theorem millis_since_eq_zero (ha : a.isLeap = false) (hb : b.isLeap = false) :
    (a.since b).millis = 0 ↔ a.millis = b.millis ∨ a.AcrossBorder b := by
  rw [Span.millis_eq, nanos_since ha hb, AcrossBorder, millis_eq_div, millis_eq_div]
  generalize a.nanosSinceEpoch = m
  generalize b.nanosSinceEpoch = n
  split <;> omega

theorem AcrossBorder.lt_iff (h : a.AcrossBorder b) :
    a.millis < b.millis ↔ a.nanosSinceEpoch < b.nanosSinceEpoch := by
  obtain ⟨hne, -⟩ := h
  rw [millis_eq_div, millis_eq_div] at *
  omega

end Instant

/-! ### Comparing them -/

namespace Value

variable (rule : TextRule)

theorem less_instants (a b : Instant) :
    Operator.less.apply rule [.instant a, .instant b] =
      .ok (.boolean (decide (a.millis < b.millis))) := by
  rw [less_of_wholes rule rfl rfl, toInt_asLong_instant, toInt_asLong_instant]

theorem equal_instants (a b : Instant) :
    Operator.equal.apply rule [.instant a, .instant b] =
      .ok (.boolean (decide (a.millis = b.millis))) := by
  rw [equal_of_wholes rule rfl rfl, toInt_asLong_instant, toInt_asLong_instant]

theorem less_zero (d : Span) :
    Operator.less.apply rule [.span d, .span .zero] = .ok (.boolean (decide (d.millis < 0))) := by
  rw [less_of_wholes rule rfl rfl, toInt_asLong_span, toInt_asLong_span]
  rfl

theorem equal_zero (d : Span) :
    Operator.equal.apply rule [.span d, .span .zero] = .ok (.boolean (decide (d.millis = 0))) := by
  rw [equal_of_wholes rule rfl rfl, toInt_asLong_span, toInt_asLong_span]
  rfl

end Value

def SameTruth (x y : Outcome Value) : Prop :=
  ∃ answer, x = .ok (.boolean answer) ∧ y = .ok (.boolean answer)

/-- Without leap seconds, two instants are less or equal exactly as their difference is less than or
equal to no time, unless they are less than a millisecond apart and in different ones. In that case
the difference is equal to no time, the instants are not equal, and the earlier one is less. -/
theorem instants_against_difference (rule : TextRule) {a b : Instant} (ha : a.isLeap = false)
    (hb : b.isLeap = false) :
    ∃ d, Operator.subtract.apply rule [.instant a, .instant b] = .ok (.span d) ∧
      (¬a.AcrossBorder b →
        SameTruth (Operator.less.apply rule [.instant a, .instant b])
          (Operator.less.apply rule [.span d, .span .zero]) ∧
        SameTruth (Operator.equal.apply rule [.instant a, .instant b])
          (Operator.equal.apply rule [.span d, .span .zero])) ∧
      (a.AcrossBorder b →
        Operator.less.apply rule [.span d, .span .zero] = .ok (.boolean false) ∧
        Operator.equal.apply rule [.span d, .span .zero] = .ok (.boolean true) ∧
        Operator.equal.apply rule [.instant a, .instant b] = .ok (.boolean false) ∧
        Operator.less.apply rule [.instant a, .instant b] =
          .ok (.boolean (a.nanosSinceEpoch < b.nanosSinceEpoch))) := by
  have hless := Instant.millis_since_lt_zero ha hb
  have hequal := Instant.millis_since_eq_zero ha hb
  refine ⟨a.since b, rfl, ?_⟩
  rw [Value.less_instants, Value.equal_instants, Value.less_zero, Value.equal_zero]
  constructor
  · intro hborder
    have hbefore : decide ((a.since b).millis < 0) = decide (a.millis < b.millis) :=
      decide_eq_decide.mpr (hless.trans (and_iff_left hborder))
    have hsame : decide ((a.since b).millis = 0) = decide (a.millis = b.millis) :=
      decide_eq_decide.mpr (hequal.trans (or_iff_left hborder))
    exact ⟨⟨_, rfl, by rw [hbefore]⟩, ⟨_, rfl, by rw [hsame]⟩⟩
  · intro hborder
    have hnever : decide ((a.since b).millis < 0) = false :=
      decide_eq_false fun h => (hless.mp h).2 hborder
    have hnothing : decide ((a.since b).millis = 0) = true :=
      decide_eq_true (hequal.mpr (.inr hborder))
    have hdifferent : decide (a.millis = b.millis) = false := decide_eq_false hborder.1
    have hearlier : decide (a.millis < b.millis) = decide (a.nanosSinceEpoch < b.nanosSinceEpoch) :=
      decide_eq_decide.mpr hborder.lt_iff
    rw [hnever, hnothing, hdifferent, hearlier]
    exact ⟨rfl, rfl, rfl, rfl⟩

def lastNanoBefore1970 : Instant :=
  ⟨-1, 999999999, by decide, by decide, by decide, by decide⟩

theorem difference_at_epoch :
    lastNanoBefore1970.isLeap = false ∧ Instant.epoch.isLeap = false ∧
      lastNanoBefore1970.AcrossBorder .epoch ∧
      ∃ d, Operator.subtract.apply .exact [.instant lastNanoBefore1970, .instant .epoch] =
          .ok (.span d) ∧
        Operator.less.apply .exact [.span d, .span .zero] = .ok (.boolean false) ∧
        Operator.equal.apply .exact [.span d, .span .zero] = .ok (.boolean true) ∧
        Operator.equal.apply .exact [.instant lastNanoBefore1970, .instant .epoch] =
          .ok (.boolean false) ∧
        Operator.less.apply .exact [.instant lastNanoBefore1970, .instant .epoch] =
          .ok (.boolean true) := by
  have hborder : lastNanoBefore1970.AcrossBorder .epoch := by decide
  obtain ⟨d, hd, -, hacross⟩ :=
    instants_against_difference .exact (a := lastNanoBefore1970) (b := .epoch) rfl rfl
  exact ⟨rfl, rfl, hborder, d, hd, hacross hborder⟩

/-- A nanosecond before the end of a millisecond is less than that end, but not by enough. -/
theorem difference_too_small_to_tell :
    ¬∀ (rule : TextRule) (a b : Instant), a.isLeap = false → b.isLeap = false →
      ∃ d, Operator.subtract.apply rule [.instant a, .instant b] = .ok (.span d) ∧
        (Operator.less.apply rule [.instant a, .instant b] = .ok (.boolean true) ↔
          Operator.less.apply rule [.span d, .span .zero] = .ok (.boolean true)) ∧
        (Operator.equal.apply rule [.instant a, .instant b] = .ok (.boolean true) ↔
          Operator.equal.apply rule [.span d, .span .zero] = .ok (.boolean true)) := by
  intro h
  let a : Instant := ⟨0, 999999, by decide, by decide, by decide, by decide⟩
  let b : Instant := ⟨0, 1000000, by decide, by decide, by decide, by decide⟩
  obtain ⟨d, hd, hless, -⟩ := h .exact a b rfl rfl
  obtain rfl : a.since b = d := Value.span.inj (Except.ok.inj hd)
  have hearlier : a.millis < b.millis := by decide
  have hlater : ¬(a.since b).millis < 0 := by decide
  rw [Value.less_instants, Value.less_zero, decide_eq_true hearlier,
    decide_eq_false hlater] at hless
  cases hless.mp rfl

end Reckon
