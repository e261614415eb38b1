import Reckon.Proofs.DayCounts
import Reckon.Proofs.StandardCalls
import Reckon.Proofs.ValueOrder

/-!
# Dates from their parts

A date is made from parts that are all in their own range, and refused otherwise: nothing is carried
over from one part to the next. Only the last second of a minute may have a second more, which is
that of a leap second. The milliseconds since 1970 are those of the days counted to the date and of
the time of day.
-/

namespace Reckon

structure DateParts where
  year : Int
  month : Int
  day : Int
  hour : Int
  minute : Int
  second : Int
  millisecond : Int

namespace DateParts

/-- Where parts are not given, midnight of the first of a month is meant. -/
def ofList (parts : List Int) : DateParts where
  year := parts[0]?.getD 0
  month := parts[1]?.getD 1
  day := parts[2]?.getD 1
  hour := parts[3]?.getD 0
  minute := parts[4]?.getD 0
  second := parts[5]?.getD 0
  millisecond := parts[6]?.getD 0

variable (p : DateParts)

def date : Date :=
  ⟨p.year, p.month.toNat, p.day.toNat⟩

/-- Each part is in its range, and milliseconds beyond a second are those of a leap second. -/
structure Valid : Prop where
  year : Date.firstYear ≤ p.year ∧ p.year ≤ Date.lastYear
  month : 1 ≤ p.month ∧ p.month ≤ 12
  day : 1 ≤ p.day ∧ p.day ≤ monthLength p.year p.month.toNat
  hour : 0 ≤ p.hour ∧ p.hour ≤ 23
  minute : 0 ≤ p.minute ∧ p.minute ≤ 59
  second : 0 ≤ p.second ∧ p.second ≤ 59
  millisecond : 0 ≤ p.millisecond ∧
    (p.millisecond ≤ 999 ∨ p.second = 59 ∧ p.millisecond ≤ 1999)

def millis : Int :=
  86400000 * p.date.daysSince1970 +
    (3600000 * p.hour + 60000 * p.minute + 1000 * p.second + p.millisecond)

def instant? : Option Instant :=
  TimeLibrary.dateOfParts p.year p.month p.day p.hour p.minute p.second p.millisecond

variable {p}

theorem Valid.date (h : p.Valid) : p.date.Valid := by
  obtain ⟨hfirst, hlast⟩ := h.year
  obtain ⟨hjanuary, hdecember⟩ := h.month
  obtain ⟨hday, hlength⟩ := h.day
  refine ⟨hfirst, hlast, ?_, ?_, ?_, ?_⟩ <;> simp only [DateParts.date] <;> omega

theorem Valid.exists_instant? (h : p.Valid) : ∃ t, p.instant? = some t ∧ t.millis = p.millis := by
  have hdate := h.date
  obtain ⟨hfirst, hlast⟩ := Date.dayNumber_bounds hdate
  obtain ⟨-, -, hjanuary, hdecember, -⟩ := h.date
  have hcount := Date.dayNumber_eq_daysSince1970 hjanuary hdecember
  obtain ⟨-, -, -, hhour, hminute, hsecond, hmillisecond⟩ := h
  have hranges : 0 ≤ p.hour ∧ p.hour < 24 ∧ 0 ≤ p.minute ∧ p.minute < 60 ∧ 0 ≤ p.second ∧
      p.second < 60 ∧ 0 ≤ p.millisecond := by omega
  let second : Int := p.date.dayNumber * secondsPerDay +
    (p.hour * 3600 + p.minute * 60 + p.second).toNat
  let nano : Nat := p.millisecond.toNat * 1000000
  have hmake : -8334601228800 ≤ second ∧ second ≤ 8210266876799 ∧ nano < 2000000000 ∧
      (1000000000 ≤ nano → second % 60 = 59) := by
    simp only [second, nano, secondsPerDay]
    omega
  have hinstant : p.instant? = Instant.make? second nano := by
    rw [instant?, TimeLibrary.dateOfParts, if_pos hranges, Instant.ofDate?]
    exact if_pos hdate
  refine ⟨⟨second, nano, hmake.1, hmake.2.1, hmake.2.2.1, hmake.2.2.2⟩, ?_, ?_⟩
  · rw [hinstant, Instant.make?, dif_pos hmake]
  · simp only [Instant.millis, millis, ← hcount, second, nano, secondsPerDay]
    omega

theorem valid_of_instant? {t : Instant} (h : p.instant? = some t) : p.Valid := by
  rw [instant?, TimeLibrary.dateOfParts, Instant.ofDate?, Instant.make?] at h
  split at h
  · rename_i hranges
    split at h
    · rename_i hdate
      split at h
      · rename_i hmake
        obtain ⟨hfirst, hlast, hjanuary, hdecember, hday, hlength⟩ := hdate
        obtain ⟨-, -, hnano, hleap⟩ := hmake
        simp only [secondsPerDay] at *
        constructor <;> omega
      · cases h
    · cases h
  · cases h

end DateParts

namespace TimeLibrary

theorem part_eq {arguments : List Value} {parts : List Int}
    (hparts : List.Forall₂ (fun v n => v.wholeNumber? = some n) arguments parts) (i : Nat)
    (default : Int) : part arguments i default = .ok (parts[i]?.getD default) := by
  unfold part
  by_cases hi : i < arguments.length
  · have hi' : i < parts.length := hparts.length_eq ▸ hi
    have hnumber : arguments[i].wholeNumber? = some parts[i] := hparts.get hi hi'
    rw [if_pos hi, integerArgument_eq (List.getElem?_eq_getElem hi) hnumber,
      List.getElem?_eq_getElem hi', Option.getD_some]
  · have hnone : parts[i]? = none :=
      List.getElem?_eq_none (hparts.length_eq ▸ Nat.le_of_not_lt hi)
    rw [if_neg hi, hnone, Option.getD_none]

theorem date_eq {arguments : List Value} {parts : List Int}
    (hparts : List.Forall₂ (fun v n => v.wholeNumber? = some n) arguments parts)
    (hlength : 2 ≤ parts.length) :
    date arguments =
      let p := DateParts.ofList parts
      match p.instant? with
      | some t => .ok (.instant t)
      | none => refuseArgument
          (.invalidDate "DATE" p.year p.month p.day p.hour p.minute p.second p.millisecond) := by
  have hmany : ¬arguments.length = 1 := by
    rw [hparts.length_eq]
    omega
  simp only [date, if_neg hmany, part_eq hparts, ok_bind]
  rfl

def dateFunction : Function :=
  ⟨"DATE", 1, some 7, fun _ _ arguments => date arguments⟩

def ticksFunction : Function :=
  ⟨"TICKS", 0, some 1, fun _ moment arguments => ticks moment arguments⟩

theorem call_date (moment : Moment) (rule : TextRule) {arguments : List Value}
    (hleast : 1 ≤ arguments.length) (hmost : arguments.length ≤ 7) :
    Library.call moment rule "DATE" arguments = date arguments := by
  have hmem : dateFunction ∈ functions := by simp [functions, dateFunction]
  have haccepts : dateFunction.accepts arguments.length = true :=
    Bool.and_eq_true_iff.mpr ⟨decide_eq_true hleast, decide_eq_true hmost⟩
  exact Library.call_eq_body rule dateFunction (Library.mem_standard_of_time hmem) haccepts

theorem call_ticks (moment : Moment) (rule : TextRule) (t : Instant) :
    ∃ k, Library.call moment rule "TICKS" [.instant t] = .ok (.long k) ∧ k.toInt = t.millis := by
  have hmem : ticksFunction ∈ functions := by simp [functions, ticksFunction]
  have hcall : Library.call moment rule "TICKS" [.instant t] = ticks moment [.instant t] :=
    Library.call_eq_body rule ticksFunction (Library.mem_standard_of_time hmem) rfl
  exact ⟨_, hcall, Value.toInt_asLong_instant t⟩

end TimeLibrary

/-- Parts that are all in their ranges give the instant whose milliseconds are those of the days
counted to the date and of the time of day; all others are refused. -/
theorem dates_of_parts (moment : Moment) (rule : TextRule) {arguments : List Value}
    {parts : List Int}
    (hparts : List.Forall₂ (fun v n => v.wholeNumber? = some n) arguments parts)
    (hleast : 2 ≤ parts.length) (hmost : parts.length ≤ 7) :
    ((DateParts.ofList parts).Valid →
      ∃ t k, Library.call moment rule "DATE" arguments = .ok (.instant t) ∧
        Library.call moment rule "TICKS" [.instant t] = .ok (.long k) ∧
        k.toInt = (DateParts.ofList parts).millis) ∧
    (¬(DateParts.ofList parts).Valid →
      ∃ e, Library.call moment rule "DATE" arguments = .error e ∧ e.code = "BAD_ARGUMENT") := by
  have hlength := hparts.length_eq
  have hcall := @TimeLibrary.call_date moment rule arguments (by omega) (by omega)
  rw [TimeLibrary.date_eq hparts hleast] at hcall
  refine ⟨fun hvalid => ?_, fun hnot => ?_⟩
  · obtain ⟨t, ht, hmillis⟩ := hvalid.exists_instant?
    obtain ⟨k, hticks, hk⟩ := TimeLibrary.call_ticks moment rule t
    simp only [ht] at hcall
    exact ⟨t, k, hcall, hticks, hk.trans hmillis⟩
  · have hnone : (DateParts.ofList parts).instant? = none := by
      rw [Option.eq_none_iff_forall_ne_some]
      exact fun t ht => hnot (DateParts.valid_of_instant? ht)
    simp only [hnone] at hcall
    exact ⟨_, hcall, rfl⟩

/-- The last millisecond of a leap second, at the end of a leap day before the year one. -/
theorem date_of_early_leap_day :
    let arguments : List Value := [.integer (-4), .long 2, .integer 29, .integer 23, .integer 59,
      .integer 59, .long 1999]
    let parts : List Int := [-4, 2, 29, 23, 59, 59, 1999]
    List.Forall₂ (fun v n => Value.wholeNumber? v = some n) arguments parts ∧
      (DateParts.ofList parts).Valid ∧
      ∃ t k, Library.call ⟨.epoch, 0⟩ .exact "DATE" arguments = .ok (.instant t) ∧
        Library.call ⟨.epoch, 0⟩ .exact "TICKS" [.instant t] = .ok (.long k) ∧
        k.toInt = -62288265599001 := by
  intro arguments parts
  have hparts : List.Forall₂ (fun v n => Value.wholeNumber? v = some n) arguments parts := by
    simp only [arguments, parts, List.forall₂_cons, List.forall₂_nil_left_iff]
    decide
  have hvalid : (DateParts.ofList parts).Valid :=
    ⟨by decide, by decide, by decide, by decide, by decide, by decide, by decide⟩
  have hmillis : (DateParts.ofList parts).millis = -62288265599001 := by
    rw [DateParts.millis, ← Date.dayNumber_eq_daysSince1970 (by decide) (by decide)]
    decide
  obtain ⟨t, k, hdate, hticks, hk⟩ :=
    (dates_of_parts ⟨.epoch, 0⟩ .exact hparts (by decide) (by decide)).1 hvalid
  exact ⟨hparts, hvalid, t, k, hdate, hticks, hk.trans hmillis⟩

/-- A second and a half in the last second of a minute is not refused. -/
theorem date_with_leap_milliseconds :
    ¬∀ (moment : Moment) (rule : TextRule) (arguments : List Value) (parts : List Int),
      List.Forall₂ (fun v n => v.wholeNumber? = some n) arguments parts →
      2 ≤ parts.length → parts.length ≤ 7 →
      ¬(0 ≤ (DateParts.ofList parts).millisecond ∧ (DateParts.ofList parts).millisecond ≤ 999) →
      ∃ e, Library.call moment rule "DATE" arguments = .error e ∧ e.code = "BAD_ARGUMENT" := by
  intro h
  let parts : List Int := [2020, 1, 1, 0, 0, 59, 1500]
  have hparts : List.Forall₂ (fun v n => Value.wholeNumber? v = some n)
      [.integer 2020, .integer 1, .integer 1, .integer 0, .integer 0, .integer 59, .integer 1500]
      parts := by
    simp only [parts, List.forall₂_cons, List.forall₂_nil_left_iff]
    decide
  have hvalid : (DateParts.ofList parts).Valid :=
    ⟨by decide, by decide, by decide, by decide, by decide, by decide, by decide⟩
  obtain ⟨t, ht, -⟩ := hvalid.exists_instant?
  obtain ⟨e, he, -⟩ := h ⟨.epoch, 0⟩ .exact _ parts hparts (by decide) (by decide) (by decide)
  rw [TimeLibrary.call_date _ _ (by decide) (by decide),
    TimeLibrary.date_eq hparts (by decide)] at he
  simp only [ht] at he
  cases he

end Reckon
