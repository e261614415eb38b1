import Reckon.Conversion
import Reckon.Proofs.CalendarDays
import Reckon.Proofs.Numerals

/-!
# Instants come back from their texts

The text of an instant in a year of four digits is read by its numerals, each of a width of its own,
to the fields it was written from. The date among them is a date of the calendar whose number is the
day's, and second sixty is told from the others as a leap second. So reading gives the instant back,
cut to the milliseconds that the text shows.
-/

namespace Reckon

namespace Instant

/-! ### Reading numerals -/

/-- A numeral ends where its width does, or where no digit follows. -/
theorem number_append {least most width n : Nat} {s rest : List Char} (h : IsNumeral width s n)
    (hleast : least ≤ width) (hmost : width ≤ most)
    (hrest : (rest.take (most - width)).takeWhile isDigit = []) :
    number least most (s ++ rest) = some (n, rest) := by
  have htake : (s ++ rest).take most = s ++ rest.take (most - width) := by
    rw [List.take_append, h.length, List.take_of_length_le (h.length ▸ hmost)]
  have hdigits : ((s ++ rest).take most).takeWhile isDigit = s := by
    rw [htake, List.takeWhile_append_of_pos h.digits, hrest, List.append_nil]
  have hlong : ¬s.length < least := by
    rw [h.length]
    omega
  simp only [number, hdigits, if_neg hlong, h.value, List.drop_left]

theorem number_whole {least width n : Nat} {s rest : List Char} (h : IsNumeral width s n)
    (hleast : least ≤ width) : number least width (s ++ rest) = some (n, rest) := by
  apply number_append h hleast le_rfl
  rw [Nat.sub_self, List.take_zero, List.takeWhile_nil]

theorem mark_cons (c : Char) (s : List Char) : mark c (c :: s) = some ((), s) :=
  if_pos rfl

theorem fraction_millis {n : Nat} {s : List Char} (h : IsNumeral 3 s n) :
    fraction ('.' :: (s ++ ['Z'])) = some (n * 1000000, ['Z']) := by
  have hnumber : number 1 9 (s ++ ['Z']) = some (n, ['Z']) :=
    number_append h (by omega) (by omega) rfl
  have hwidth : 9 - ((s ++ ['Z']).length - ['Z'].length) = 6 := by
    rw [List.length_append, h.length]
    rfl
  simp only [fraction, hnumber, Option.bind_eq_bind, Option.bind_some, hwidth]
  rfl

/-! ### Fields as they are written -/

structure Fields where
  year : Nat
  month : Nat
  day : Nat
  hour : Nat
  minute : Nat
  second : Nat
  millis : Nat
  year_lt : year < 10000
  month_lt : month < 100
  day_lt : day < 100
  hour_lt : hour < 100
  minute_lt : minute < 100
  second_lt : second < 100
  millis_lt : millis < 1000

namespace Fields

variable (f : Fields)

def text : List Char :=
  paddedText 4 f.year ++ '-' :: (paddedText 2 f.month ++ '-' :: (paddedText 2 f.day ++
    'T' :: (paddedText 2 f.hour ++ ':' :: (paddedText 2 f.minute ++ ':' :: (paddedText 2 f.second ++
      '.' :: (paddedText 3 f.millis ++ ['Z']))))))

def reading : Reading :=
  ⟨⟨f.year, f.month, f.day⟩, f.hour, f.minute, f.second, f.millis * 1000000⟩

theorem two_isNumeral {n : Nat} (h : n < 100) : IsNumeral 2 (paddedText 2 n) n :=
  isNumeral_paddedText (by omega) h

theorem year_isNumeral : IsNumeral 4 (paddedText 4 f.year) f.year :=
  isNumeral_paddedText (by omega) f.year_lt

theorem millis_isNumeral : IsNumeral 3 (paddedText 3 f.millis) f.millis :=
  isNumeral_paddedText (by omega) f.millis_lt

theorem readWithOffset?_text : readWithOffset? f.text = f.reading.instant? 0 := by
  have hyear := f.year_isNumeral
  have hmonth := two_isNumeral f.month_lt
  have hday := two_isNumeral f.day_lt
  have hhour := two_isNumeral f.hour_lt
  have hminute := two_isNumeral f.minute_lt
  have hsecond := two_isNumeral f.second_lt
  have hmillis := f.millis_isNumeral
  simp only [readWithOffset?, text, number_whole hyear le_rfl, number_whole hmonth le_rfl,
    number_whole hday le_rfl, number_whole hhour le_rfl, number_whole hminute le_rfl,
    number_whole hsecond le_rfl, fraction_millis hmillis, mark_cons, time, id, offset,
    Option.bind_eq_bind, Option.bind_some]
  rfl

theorem mem_text {c : Char} (h : c ∈ f.text) :
    isDigit c = true ∨ c = '-' ∨ c = 'T' ∨ c = ':' ∨ c = '.' ∨ c = 'Z' := by
  simp only [text, List.mem_append, List.mem_cons, List.not_mem_nil, or_false] at h
  rcases h with h | rfl | h | rfl | h | rfl | h | rfl | h | rfl | h | rfl | h | rfl
  · exact .inl (f.year_isNumeral.digits c h)
  · exact .inr (by decide)
  · exact .inl ((two_isNumeral f.month_lt).digits c h)
  · exact .inr (by decide)
  · exact .inl ((two_isNumeral f.day_lt).digits c h)
  · exact .inr (by decide)
  · exact .inl ((two_isNumeral f.hour_lt).digits c h)
  · exact .inr (by decide)
  · exact .inl ((two_isNumeral f.minute_lt).digits c h)
  · exact .inr (by decide)
  · exact .inl ((two_isNumeral f.second_lt).digits c h)
  · exact .inr (by decide)
  · exact .inl (f.millis_isNumeral.digits c h)
  · exact .inr (by decide)

theorem trim_text : trim f.text = f.text := by
  apply trim_eq_self
  intro c hc
  rcases f.mem_text hc with hdigit | rfl | rfl | rfl | rfl | rfl
  · exact isBlank_of_isDigit hdigit
  all_goals rfl

theorem read?_text {t : Instant} (h : f.reading.instant? 0 = some t) : read? f.text = some t := by
  rw [read?, f.trim_text, f.readWithOffset?_text, h]
  rfl

end Fields

/-! ### The fields of an instant -/

variable (t : Instant)

def wholeMillis : Instant where
  second := t.second
  nano := t.nano / 1000000 * 1000000
  first_le := t.first_le
  le_last := t.le_last
  nano_lt := by have := t.nano_lt; omega
  leap := by
    intro h
    exact t.leap (by omega)

theorem wholeMillis_eq_self_iff {t : Instant} : t.wholeMillis = t ↔ 1000000 ∣ t.nano := by
  constructor
  · intro h
    have hnano : t.nano / 1000000 * 1000000 = t.nano := congrArg nano h
    omega
  · intro h
    have hnano : t.nano / 1000000 * 1000000 = t.nano := by omega
    cases t
    simpa [wholeMillis] using hnano

theorem make?_wholeMillis :
    make? t.second (t.nano / 1000000 * 1000000) = some t.wholeMillis :=
  dif_pos ⟨t.first_le, t.le_last, t.wholeMillis.nano_lt, t.wholeMillis.leap⟩

theorem secondOfDay_bounds : 0 ≤ t.secondOfDay ∧ t.secondOfDay < 86400 := by
  unfold secondOfDay secondsPerDay
  omega

variable {t}

theorem valid_date (hfirst : 0 ≤ t.date.year) (hlast : t.date.year ≤ 9999) : t.date.Valid := by
  apply Date.valid_ofDayNumber
  · exact le_trans (by decide) hfirst
  · exact le_trans hlast (by decide)

def fields (t : Instant) (hfirst : 0 ≤ t.date.year) (hlast : t.date.year ≤ 9999) : Fields where
  year := t.date.year.toNat
  month := t.date.month
  day := t.date.day
  hour := t.secondOfDay.toNat / 3600
  minute := t.secondOfDay.toNat / 60 % 60
  second := t.secondOfDay.toNat % 60 + t.nano / 1000000000
  millis := t.nano % 1000000000 / 1000000
  year_lt := by omega
  month_lt := by
    obtain ⟨-, -, -, hmonth, -⟩ := valid_date hfirst hlast
    omega
  day_lt := by
    obtain ⟨-, -, -, -, -, hday⟩ := valid_date hfirst hlast
    have hlength := monthLength_le t.date.year t.date.month
    omega
  hour_lt := by have := t.secondOfDay_bounds; omega
  minute_lt := by omega
  second_lt := by have := t.nano_lt; omega
  millis_lt := by omega

theorem text_eq (hfirst : 0 ≤ t.date.year) (hlast : t.date.year ≤ 9999) :
    t.text = (t.fields hfirst hlast).text := by
  have hsame : t.date.year.natAbs = t.date.year.toNat := by omega
  have hyear : yearText t.date.year = paddedText 4 t.date.year.toNat := by
    rw [yearText, if_neg (by omega), if_neg (by omega), hsame]
  simp only [text, dateText, hyear, Fields.text, fields, List.append_assoc, List.cons_append]

/-- The day's number and the time of day make the second again, and second sixty the leap second. -/
theorem instant?_reading (hfirst : 0 ≤ t.date.year) (hlast : t.date.year ≤ 9999) :
    (t.fields hfirst hlast).reading.instant? 0 = some t.wholeMillis := by
  have hvalid := valid_date hfirst hlast
  have hyear : (t.date.year.toNat : Int) = t.date.year := Int.toNat_of_nonneg hfirst
  have hbounds := t.secondOfDay_bounds
  have hnano := t.nano_lt
  have hleap : 1000000000 ≤ t.nano → t.secondOfDay.toNat % 60 = 59 := by
    intro h
    have hminute := t.leap h
    unfold secondOfDay secondsPerDay at *
    omega
  have hnumber : t.date.dayNumber = t.second / secondsPerDay := Date.dayNumber_ofDayNumber _
  have hsecond : t.second / secondsPerDay * secondsPerDay + t.secondOfDay = t.second := by
    unfold secondOfDay secondsPerDay
    omega
  have hordinary : min (t.secondOfDay.toNat % 60 + t.nano / 1000000000) 59 =
      t.secondOfDay.toNat % 60 := by omega
  have htime : ((t.secondOfDay.toNat / 3600 * 3600 + t.secondOfDay.toNat / 60 % 60 * 60 +
      t.secondOfDay.toNat % 60 : Nat) : Int) = t.secondOfDay := by omega
  have hmillis : t.nano % 1000000000 / 1000000 * 1000000 +
      (t.secondOfDay.toNat % 60 + t.nano / 1000000000 - t.secondOfDay.toNat % 60) * 1000000000 =
        t.nano / 1000000 * 1000000 := by omega
  have hranges : t.date.Valid ∧ t.secondOfDay.toNat / 3600 < 24 ∧
      t.secondOfDay.toNat / 60 % 60 < 60 ∧
      t.secondOfDay.toNat % 60 + t.nano / 1000000000 ≤ 60 := by
    refine ⟨hvalid, ?_, ?_, ?_⟩ <;> omega
  simp only [Reading.instant?, Fields.reading, fields, hyear]
  rw [if_pos hranges, hordinary, hmillis, htime, hnumber, hsecond, Int.sub_zero,
    t.make?_wholeMillis]

theorem read?_text (hfirst : 0 ≤ t.date.year) (hlast : t.date.year ≤ 9999) :
    read? t.text = some t.wholeMillis := by
  rw [text_eq hfirst hlast]
  exact Fields.read?_text _ (instant?_reading hfirst hlast)

end Instant

/-- Leap seconds included, the text of an instant whose year has four digits is read as the instant
in whole milliseconds. So an instant of whole milliseconds that becomes a text and an instant again
is the same. -/
theorem instant_from_text {t : Instant} (hfirst : 0 ≤ t.date.year) (hlast : t.date.year ≤ 9999) :
    Instant.read? t.text = some t.wholeMillis ∧
      ((Value.instant t).convert .string).convert .instant = .instant t.wholeMillis ∧
      (t.wholeMillis = t ↔ 1000000 ∣ t.nano) := by
  refine ⟨Instant.read?_text hfirst hlast, ?_, Instant.wholeMillis_eq_self_iff⟩
  have htext : (Value.instant t).convert .string = .string (String.ofList t.text) := rfl
  have hread : (Value.string (String.ofList t.text)).toInstant? = some t.wholeMillis := by
    rw [Value.toInstant?, String.toList_ofList, Instant.read?_text hfirst hlast]
  rw [htext]
  simp [Value.convert, Value.kind, Value.convert?, hread]

def endOf2016 : Instant :=
  ⟨1483228799, 1234567890, by decide, by decide, by decide, by decide⟩

theorem leap_second_from_text :
    endOf2016.date = ⟨2016, 12, 31⟩ ∧
      Instant.read? endOf2016.text = some endOf2016.wholeMillis ∧
      ((Value.instant endOf2016).convert .string).convert .instant =
        .instant endOf2016.wholeMillis ∧
      (endOf2016.wholeMillis = endOf2016 ↔ 1000000 ∣ endOf2016.nano) :=
  ⟨by decide, instant_from_text (by decide) (by decide)⟩

end Reckon
