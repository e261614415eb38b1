import Reckon.Proofs.InstantTexts
import Reckon.Proofs.ValueOrder
import Reckon.Proofs.WrittenOrder

/-!
# Instants in the order of their texts

The dates of the calendar are in the order of their days. In years of four digits every numeral in
the text of an instant has a width of its own, and they stand in the order of their weight: year,
month, day, hour, minute, second, millisecond. So such texts are in the order of the milliseconds of
their instants, and comparing an instant with a text comes to the same as comparing it with the
instant that was written.
-/

namespace Reckon

/-! ### Dates -/

namespace Date

def order (d e : Date) : Ordering :=
  (compare d.year e.year).then ((compare d.month e.month).then (compare d.day e.day))

theorem swap_order (d e : Date) : (d.order e).swap = e.order d := by
  rw [order, Ordering.swap_then, Ordering.swap_then, Int.compare_swap, Nat.compare_swap,
    Nat.compare_swap, order]

theorem order_eq_lt_iff {d e : Date} :
    d.order e = .lt ↔ d.year < e.year ∨ d.year = e.year ∧
      (d.month < e.month ∨ d.month = e.month ∧ d.day < e.day) := by
  simp only [order, Ordering.then_eq_lt, Int.compare_eq_lt, Int.compare_eq_eq, Nat.compare_eq_lt,
    Nat.compare_eq_eq]

theorem order_ofMarchDay_eq_lt {year year' : Int} {day day' : Nat} (h : day < 366)
    (h' : day' < 366) :
    (ofMarchDay year day).order (ofMarchDay year' day') = .lt ↔
      year < year' ∨ year = year' ∧ day < day' := by
  rw [order_eq_lt_iff]
  simp only [ofMarchDay]
  split <;> split <;> simp only <;> omega

/-- Days before a year that begins in March. -/
def marchStart (year : Int) : Int :=
  365 * year + year / 4 - year / 100 + year / 400

theorem marchStart_le {year year' : Int} (h : year ≤ year') :
    marchStart year ≤ marchStart year' := by
  unfold marchStart
  omega

/-- The day of a year by its place in it, which is a later one only in a leap year. -/
theorem lt_marchStart_succ {year : Int} {day : Nat} (h : day < 366)
    (hleap : day = 365 → isLeapYear (year + 1) = true) :
    marchStart year + day < marchStart (year + 1) := by
  rw [isLeapYear_iff] at hleap
  unfold marchStart
  omega

/-- A day by its year from March to February and its place in it. -/
theorem exists_marchDay (n : Int) :
    ∃ (year : Int) (day : Nat), ofDayNumber n = ofMarchDay year day ∧ day < 366 ∧
      marchStart year + day < marchStart (year + 1) ∧ n = marchStart year + day - 719468 := by
  obtain ⟨d, cycle, -, hdate⟩ := exists_ofMarchDay n
  have hnumber := dayNumber_ofDayNumber n
  rw [hdate, dayNumber_ofMarchDay d.day_lt] at hnumber
  exact ⟨_, _, hdate, d.day_lt,
    lt_marchStart_succ d.day_lt fun h => d.isLeapYear_of_day h cycle, hnumber.symm⟩

theorem order_ofDayNumber_eq_lt (m n : Int) :
    (ofDayNumber m).order (ofDayNumber n) = .lt ↔ m < n := by
  -- Days of different years are apart by the start of a year between them.
  obtain ⟨year, day, hm, hday, hnext, rfl⟩ := exists_marchDay m
  obtain ⟨year', day', hn, hday', hnext', rfl⟩ := exists_marchDay n
  rw [hm, hn, order_ofMarchDay_eq_lt hday hday']
  rcases Int.lt_trichotomy year year' with h | rfl | h
  · have hle := marchStart_le (Int.add_one_le_of_lt h)
    omega
  · omega
  · have hle := marchStart_le (Int.add_one_le_of_lt h)
    omega

theorem order_ofDayNumber (m n : Int) : (ofDayNumber m).order (ofDayNumber n) = compare m n := by
  rcases Int.lt_trichotomy m n with h | rfl | h
  · rw [(order_ofDayNumber_eq_lt m n).mpr h, Int.compare_eq_lt.mpr h]
  · simp [order]
  · rw [← swap_order, (order_ofDayNumber_eq_lt n m).mpr h, Int.compare_eq_gt.mpr h]
    rfl

end Date

namespace Instant

/-! ### Texts -/

namespace Fields

theorem compareText_text (f g : Fields) :
    compareText f.text g.text =
      (compare f.year g.year).then ((compare f.month g.month).then ((compare f.day g.day).then
        ((compare f.hour g.hour).then ((compare f.minute g.minute).then
          ((compare f.second g.second).then (compare f.millis g.millis)))))) := by
  rw [text, text, compareText_numeral f.year_isNumeral g.year_isNumeral, compareText_cons_self,
    compareText_numeral (two_isNumeral f.month_lt) (two_isNumeral g.month_lt),
    compareText_cons_self, compareText_numeral (two_isNumeral f.day_lt) (two_isNumeral g.day_lt),
    compareText_cons_self, compareText_numeral (two_isNumeral f.hour_lt) (two_isNumeral g.hour_lt),
    compareText_cons_self,
    compareText_numeral (two_isNumeral f.minute_lt) (two_isNumeral g.minute_lt),
    compareText_cons_self,
    compareText_numeral (two_isNumeral f.second_lt) (two_isNumeral g.second_lt),
    compareText_cons_self, compareText_numeral f.millis_isNumeral g.millis_isNumeral,
    compareText_self, Ordering.then_eq]

theorem toNat_le_of_mem_text {f : Fields} {c : Char} (h : c ∈ f.text) : c.toNat ≤ 90 := by
  rcases f.mem_text h with hdigit | rfl | rfl | rfl | rfl | rfl
  · have := isDigit_iff.mp hdigit
    omega
  all_goals decide

def clock (f : Fields) : Int :=
  ((f.hour * 60 + f.minute) * 60 + f.second) * 1000 + f.millis

theorem compare_clock {f g : Fields} (hf : f.minute < 60 ∧ f.second < 60)
    (hg : g.minute < 60 ∧ g.second < 60) :
    compare f.clock g.clock =
      (compare f.hour g.hour).then ((compare f.minute g.minute).then
        ((compare f.second g.second).then (compare f.millis g.millis))) := by
  have hf' := f.millis_lt
  have hg' := g.millis_lt
  rw [clock, clock, compare_places (by omega) (by omega), compare_places (by omega) (by omega),
    compare_places (by omega) (by omega), Ordering.then_assoc, Ordering.then_assoc, compare_cast,
    compare_cast, compare_cast, compare_cast]

end Fields

/-! ### Milliseconds -/

def HasPlainYear (t : Instant) : Prop :=
  0 ≤ t.date.year ∧ t.date.year ≤ 9999

instance (t : Instant) : Decidable t.HasPlainYear :=
  inferInstanceAs (Decidable (_ ∧ _))

/-- Outside leap seconds, the text shows a day and a time within it. -/
theorem exists_fields {t : Instant} (hleap : t.isLeap = false) (hyear : t.HasPlainYear) :
    ∃ f : Fields, t.text = f.text ∧ t.date = ⟨f.year, f.month, f.day⟩ ∧
      (f.minute < 60 ∧ f.second < 60) ∧ (0 ≤ f.clock ∧ f.clock < 86400000) ∧
      t.millis = t.second / secondsPerDay * 86400000 + f.clock := by
  have hbounds := t.secondOfDay_bounds
  have hnano : t.nano < 1000000000 := by simpa [isLeap] using hleap
  have hnumber : (t.date.year.toNat : Int) = t.date.year := Int.toNat_of_nonneg hyear.1
  have hclock : (t.fields hyear.1 hyear.2).clock = t.secondOfDay * 1000 + t.nano / 1000000 := by
    simp only [Fields.clock, fields]
    omega
  have hminute : (t.fields hyear.1 hyear.2).minute < 60 := by
    simp only [fields]
    omega
  have hsecond : (t.fields hyear.1 hyear.2).second < 60 := by
    simp only [fields]
    omega
  refine ⟨t.fields hyear.1 hyear.2, text_eq hyear.1 hyear.2, ?_, ⟨hminute, hsecond⟩, ?_, ?_⟩
  · simp only [fields, hnumber]
  · rw [hclock]
    omega
  · rw [hclock, millis, secondOfDay, secondsPerDay]
    omega

/-- Texts of instants are in the order of their milliseconds. -/
theorem compare_text (rule : TextRule) {a b : Instant} (ha : a.isLeap = false)
    (hb : b.isLeap = false) (hyear : a.HasPlainYear) (hyear' : b.HasPlainYear) :
    rule.compare a.text b.text = compare a.millis b.millis := by
  obtain ⟨f, hf, hdate, hminute, hclock, hmillis⟩ := exists_fields ha hyear
  obtain ⟨g, hg, hdate', hminute', hclock', hmillis'⟩ := exists_fields hb hyear'
  have hdays : a.date.order b.date =
      compare (a.second / secondsPerDay) (b.second / secondsPerDay) := Date.order_ofDayNumber _ _
  have horder : a.date.order b.date =
      (compare f.year g.year).then ((compare f.month g.month).then (compare f.day g.day)) := by
    rw [hdate, hdate', Date.order, compare_cast]
  -- Days are places of 86400000 in the milliseconds, and three numerals in the texts.
  rw [hf, hg, rule.compare_of_no_small_letters (fun _ => Fields.toNat_le_of_mem_text)
    (fun _ => Fields.toNat_le_of_mem_text), Fields.compareText_text,
    ← Fields.compare_clock hminute hminute', hmillis, hmillis', compare_places hclock hclock',
    ← hdays, horder, Ordering.then_assoc, Ordering.then_assoc]

end Instant

/-! ### Comparing with a text -/

namespace Value

variable (rule : TextRule) {a b : Instant}

/-- The two instants, either of which may be given by its text. -/
inductive Given : Value → Value → Instant → Instant → Prop where
  | instants (a b : Instant) : Given (.instant a) (.instant b) a b
  | textRight (a b : Instant) : Given (.instant a) (.string (Value.instant b).text) a b
  | textLeft (a b : Instant) : Given (.string (Value.instant a).text) (.instant b) a b

theorem toList_text (v : Value) : v.text.toList = v.chars :=
  String.toList_ofList

theorem Given.order {left right : Value} (h : Given left right a b) (ha : a.isLeap = false)
    (hb : b.isLeap = false) (hyear : a.HasPlainYear) (hyear' : b.HasPlainYear)
    (operator : Operator) :
    Value.order rule operator left right = .ok (some (compare a.millis b.millis)) := by
  have htext := Instant.compare_text rule ha hb hyear hyear'
  cases h with
  | instants =>
    rw [order_of_wholes rule operator rfl rfl, toInt_asLong_instant, toInt_asLong_instant]
  | textRight =>
    have horder : Value.order rule operator (.instant a) (.string (Value.instant b).text) =
        .ok (some (rule.compare a.text (Value.instant b).text.toList)) := rfl
    rw [horder, toList_text]
    exact congrArg (fun ordering => Except.ok (some ordering)) htext
  | textLeft =>
    have horder : Value.order rule operator (.string (Value.instant a).text) (.instant b) =
        .ok (some (rule.compare (Value.instant a).text.toList b.text)) := rfl
    rw [horder, toList_text]
    exact congrArg (fun ordering => Except.ok (some ordering)) htext

end Value

def comparisons : List Operator :=
  [.equal, .notEqual, .less, .lessEqual, .greater, .greaterEqual]

theorem apply_comparison_congr (rule : TextRule) {left right left' right' : Value}
    (hleft : left.isStructured = false) (hleft' : left'.isStructured = false)
    (h : ∀ operator, Value.order rule operator left right = Value.order rule operator left' right')
    {operator : Operator} (hmem : operator ∈ comparisons) :
    operator.apply rule [left, right] = operator.apply rule [left', right'] := by
  have hequal : left.equal rule right = left'.equal rule right' := by
    rw [Value.equal_of_not_structured rule hleft, Value.equal_of_not_structured rule hleft', h]
  have hrelate (operator : Operator) (accept : Ordering → Bool) :
      left.relate rule operator accept right = left'.relate rule operator accept right' := by
    rw [Value.relate, Value.relate, h]
  simp only [comparisons, List.mem_cons, List.not_mem_nil, or_false] at hmem
  rcases hmem with rfl | rfl | rfl | rfl | rfl | rfl
  · exact congrArg (Except.map Value.boolean) hequal
  · exact congrArg (Except.map fun found => Value.boolean !found) hequal
  · exact hrelate _ _
  · exact hrelate _ _
  · exact hrelate _ _
  · exact hrelate _ _

/-- Without leap seconds and in years of four digits, comparing an instant with the text of another
one, on either side, gives the order of their milliseconds, as comparing the instants does. -/
theorem instant_compared_with_text (rule : TextRule) {a b : Instant} (ha : a.isLeap = false)
    (hb : b.isLeap = false) (hyear : a.HasPlainYear) (hyear' : b.HasPlainYear) :
    ∀ left right, Value.Given left right a b →
      left.compare? rule right = .ok (some (compare a.millis b.millis)) ∧
      ∀ operator ∈ comparisons,
        operator.apply rule [left, right] = operator.apply rule [.instant a, .instant b] := by
  intro left right hgiven
  have horder := hgiven.order rule ha hb hyear hyear'
  have hinstants := (Value.Given.instants a b).order rule ha hb hyear hyear'
  refine ⟨horder .less, fun operator hmem => ?_⟩
  refine apply_comparison_congr rule ?_ rfl (fun op => (horder op).trans (hinstants op).symm) hmem
  cases hgiven <;> rfl

def earlyPlainInstant : Instant :=
  ⟨-62167219200, 500000, by decide, by decide, by decide, by decide⟩

def latePlainInstant : Instant :=
  ⟨253402300799, 999500000, by decide, by decide, by decide, by decide⟩

theorem early_compared_with_late_text :
    earlyPlainInstant.isLeap = false ∧ latePlainInstant.isLeap = false ∧
      earlyPlainInstant.HasPlainYear ∧ latePlainInstant.HasPlainYear ∧
      (Value.instant earlyPlainInstant).compare? .ignoringCase
        (.string (Value.instant latePlainInstant).text) = .ok (some .lt) ∧
      Operator.less.apply .ignoringCase
        [.instant earlyPlainInstant, .string (Value.instant latePlainInstant).text] =
          .ok (.boolean true) := by
  have hearly : earlyPlainInstant.HasPlainYear := by decide
  have hlate : latePlainInstant.HasPlainYear := by decide
  obtain ⟨hcompare, hoperator⟩ :=
    instant_compared_with_text .ignoringCase (a := earlyPlainInstant) (b := latePlainInstant) rfl
      rfl hearly hlate _ _ (.textRight _ _)
  exact ⟨rfl, rfl, hearly, hlate, hcompare, hoperator .less (by decide)⟩

end Reckon
