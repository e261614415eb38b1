import Mathlib.Algebra.Order.BigOperators.Group.List
import Reckon.Proofs.SpanTexts
import Reckon.Proofs.Widening

/-!
# Which texts are spans

A span is read from a sign, days, hours, minutes, seconds and a fraction of a second. The order and
the marks between them are fixed, and all parts are numerals of any length. Such a text is a span if
there are less than sixty minutes and seconds and sixty-four bits hold the milliseconds.

The milliseconds can be added up in words of sixty-four bits. Nothing has to be asked of a word where
milliseconds of minutes or seconds, or the opposite of a sum, become one: those numbers always fit.
-/

namespace Reckon

/-- The parts of the text of a span. Days and a fraction of a second may be missing. -/
structure SpanForm where
  negative : Bool
  days : Option Numeral
  hours : Numeral
  minutes : Numeral
  seconds : Numeral
  fraction : Option Numeral

namespace SpanForm

def hoursText (days : Option Numeral) (hours : Numeral) : List Char :=
  match days with
  | some days => days.text ++ '.' :: hours.text
  | none => hours.text

def secondsText (seconds : Numeral) (fraction : Option Numeral) : List Char :=
  match fraction with
  | some fraction => seconds.text ++ '.' :: fraction.text
  | none => seconds.text

def dayCount (days : Option Numeral) : Nat :=
  (days.map Numeral.value).getD 0

/-- The first three digits, as if there were zeros behind them. -/
def fractionMillis (fraction : Option Numeral) : Nat :=
  (fraction.map fun f => Nat.ofDigitChars 10 ((f.text ++ ['0', '0', '0']).take 3) 0).getD 0

variable (f : SpanForm)

def body : List Char :=
  hoursText f.days f.hours ++ ':' :: (f.minutes.text ++ ':' :: secondsText f.seconds f.fraction)

def text : List Char :=
  Span.signText f.negative ++ f.body

def total : Nat :=
  dayCount f.days * 86400000 + f.hours.value * 3600000 + f.minutes.value * 60000 +
    f.seconds.value * 1000 + fractionMillis f.fraction

def millis : Int :=
  if f.negative then -(f.total : Int) else f.total

theorem natAbs_millis : f.millis.natAbs = f.total := by
  rw [millis]
  split
  · rw [Int.natAbs_neg, Int.natAbs_natCast]
  · exact Int.natAbs_natCast _

end SpanForm

/-! ### From a text to its parts -/

namespace Span

theorem exists_of_readHours? {s : List Char} {parts : Nat × Nat} (h : readHours? s = some parts) :
    ∃ days hours, s = SpanForm.hoursText days hours := by
  rw [readHours?] at h
  split at h
  · rename_i first second hsplit
    simp only [Option.bind_eq_bind, Option.bind_eq_some_iff] at h
    obtain ⟨d, hd, k, hk, -⟩ := h
    obtain ⟨days, rfl, -⟩ := exists_numeral_of_readNat? hd
    obtain ⟨hours, rfl, -⟩ := exists_numeral_of_readNat? hk
    exact ⟨some days, hours, eq_append_of_splitAtFirst? hsplit⟩
  · simp only [Option.bind_eq_bind, Option.bind_eq_some_iff] at h
    obtain ⟨k, hk, -⟩ := h
    obtain ⟨hours, rfl, -⟩ := exists_numeral_of_readNat? hk
    exact ⟨none, hours, rfl⟩

theorem exists_of_readSeconds? {s : List Char} {parts : Nat × Nat}
    (h : readSeconds? s = some parts) :
    ∃ seconds fraction, s = SpanForm.secondsText seconds fraction := by
  rw [readSeconds?] at h
  split at h
  · rename_i first second hsplit
    simp only [Option.bind_eq_bind, Option.bind_eq_some_iff, readFraction?,
      Option.map_eq_some_iff] at h
    obtain ⟨k, hk, ms, ⟨d, hd, -⟩, -⟩ := h
    obtain ⟨seconds, rfl, -⟩ := exists_numeral_of_readNat? hk
    obtain ⟨fraction, rfl, -⟩ := exists_numeral_of_readNat? hd
    exact ⟨seconds, some fraction, eq_append_of_splitAtFirst? hsplit⟩
  · simp only [Option.bind_eq_bind, Option.bind_eq_some_iff] at h
    obtain ⟨k, hk, -⟩ := h
    obtain ⟨seconds, rfl, -⟩ := exists_numeral_of_readNat? hk
    exact ⟨seconds, none, rfl⟩

/-- A minus in front of the rest of a text. -/
theorem signText_append_body (s : List Char) :
    signText (s.head? == some '-') ++ (if s.head? == some '-' then s.drop 1 else s) = s := by
  cases s with
  | nil => rfl
  | cons c s =>
    by_cases hc : c = '-'
    · subst hc
      rfl
    · have hhead : ((c :: s).head? == some '-') = false := by simpa using hc
      rw [hhead]
      rfl

theorem exists_form_of_read? {s : List Char} {d : Span} (h : read? s = some d) :
    ∃ f : SpanForm, trim s = f.text := by
  rw [read?] at h
  generalize trim s = t at h ⊢
  dsimp only at h
  split at h
  · rename_i first second third hparts
    simp only [Option.bind_eq_bind, Option.bind_eq_some_iff] at h
    obtain ⟨hoursParts, hhours, m, hm, secondsParts, hseconds, -⟩ := h
    obtain ⟨days, hours, rfl⟩ := exists_of_readHours? hhours
    obtain ⟨minutes, rfl, -⟩ := exists_numeral_of_readNat? hm
    obtain ⟨seconds, fraction, rfl⟩ := exists_of_readSeconds? hseconds
    have hbody := intercalate_splitAtEach ':' (if t.head? == some '-' then t.drop 1 else t)
    rw [hparts] at hbody
    refine ⟨⟨t.head? == some '-', days, hours, minutes, seconds, fraction⟩, ?_⟩
    conv_lhs => rw [← signText_append_body t, ← hbody]
    simp [SpanForm.text, SpanForm.body]
  · cases h

end Span

/-! ### From the parts to a span -/

namespace SpanForm

variable {c : Char}

theorem mem_hoursText {days : Option Numeral} {hours : Numeral} (h : c ∈ hoursText days hours) :
    isDigit c = true ∨ c = '.' := by
  cases days with
  | none => exact .inl (hours.digits c h)
  | some days =>
    rcases List.mem_append.mp h with h | h
    · exact .inl (days.digits c h)
    · rcases List.mem_cons.mp h with h | h
      · exact .inr h
      · exact .inl (hours.digits c h)

theorem mem_secondsText {seconds : Numeral} {fraction : Option Numeral}
    (h : c ∈ secondsText seconds fraction) : isDigit c = true ∨ c = '.' := by
  cases fraction with
  | none => exact .inl (seconds.digits c h)
  | some fraction =>
    rcases List.mem_append.mp h with h | h
    · exact .inl (seconds.digits c h)
    · rcases List.mem_cons.mp h with h | h
      · exact .inr h
      · exact .inl (fraction.digits c h)

theorem readHours?_hoursText (days : Option Numeral) (hours : Numeral) :
    Span.readHours? (hoursText days hours) = some (dayCount days, hours.value) := by
  cases days with
  | none =>
    have hpoint : '.' ∉ hours.text := not_mem_of_digits rfl hours.digits
    rw [hoursText, Span.readHours?, splitAtFirst?_of_not_mem hpoint]
    simp [hours.readNat?_text, dayCount]
  | some days =>
    have hpoint : '.' ∉ days.text := not_mem_of_digits rfl days.digits
    rw [hoursText, Span.readHours?, splitAtFirst?_append hpoint]
    simp [hours.readNat?_text, days.readNat?_text, dayCount]

theorem readSeconds?_secondsText (seconds : Numeral) (fraction : Option Numeral) :
    Span.readSeconds? (secondsText seconds fraction) =
      some (seconds.value, fractionMillis fraction) := by
  have hpoint : '.' ∉ seconds.text := not_mem_of_digits rfl seconds.digits
  cases fraction with
  | none =>
    rw [secondsText, Span.readSeconds?, splitAtFirst?_of_not_mem hpoint]
    simp [seconds.readNat?_text, fractionMillis]
  | some fraction =>
    rw [secondsText, Span.readSeconds?, splitAtFirst?_append hpoint]
    simp [seconds.readNat?_text, Span.readFraction?, fraction.readNat?_text, fractionMillis,
      digitsValue_eq]

variable (f : SpanForm)

theorem minus_not_mem_body : '-' ∉ f.body := by
  intro h
  simp only [body, List.mem_append, List.mem_cons] at h
  rcases h with h | h | h | h | h
  · rcases mem_hoursText h with h | h <;> cases h
  · cases h
  · cases f.minutes.digits _ h
  · cases h
  · rcases mem_secondsText h with h | h <;> cases h

theorem splitAtEach_body :
    splitAtEach ':' f.body =
      [hoursText f.days f.hours, f.minutes.text, secondsText f.seconds f.fraction] := by
  have hminutes : ':' ∉ f.minutes.text := not_mem_of_digits rfl f.minutes.digits
  rw [body, splitAtEach_append (ClockTime.colon_not_mem fun _ => mem_hoursText),
    splitAtEach_append hminutes,
    splitAtEach_of_not_mem (ClockTime.colon_not_mem fun _ => mem_secondsText)]

theorem sign_text : (f.text.head? == some '-') = f.negative := by
  rw [text]
  cases f.negative with
  | true => rfl
  | false =>
    rw [Span.signText, if_neg Bool.false_ne_true, List.nil_append, beq_eq_false_iff_ne]
    intro h
    exact f.minus_not_mem_body (List.mem_of_mem_head? h)

/-- The form leaves two things to be asked: whether there are too many minutes or seconds, and
whether there are too many milliseconds. -/
theorem read?_of_trim {s : List Char} (h : trim s = f.text) :
    Span.read? s =
      if 60 ≤ f.minutes.value ∨ 60 ≤ f.seconds.value then none
      else Span.ofNanos? (f.millis * 1000000) := by
  have hbody : (if f.negative then f.text.drop 1 else f.text) = f.body := by
    rw [text]
    cases f.negative <;> rfl
  rw [Span.read?, h]
  simp only [f.sign_text, hbody, f.splitAtEach_body, readHours?_hoursText, f.minutes.readNat?_text,
    readSeconds?_secondsText, Option.bind_eq_bind, Option.bind_some, Bool.or_eq_true,
    decide_eq_true_eq]
  rfl

end SpanForm

/-! ### Sums of words -/

/-- A way to make a word of every number, of which only the words of numbers that fit are known. -/
structure Narrowing where
  word : Int → Int64
  exact : ∀ n, FitsIn64 n → (word n).toInt = n

theorem exists_of_fitsIn64 {n : Int} (h : FitsIn64 n) : ∃ w, toInt64? n = some w ∧ w.toInt = n := by
  have hw : toInt64? n = some (.ofInt n) := by rw [toInt64?_eq, if_pos h]
  exact ⟨_, hw, toInt_of_toInt64? hw⟩

def addWords? (sum : Int64) : List Int64 → Option Int64
  | [] => some sum
  | w :: rest => do addWords? (← toInt64? (sum.toInt + w.toInt)) rest

/-- Sums of words that are not negative grow, so nothing is refused on the way to one that fits. -/
theorem addWords?_eq {sum : Int64} {words : List Int64} (hsum : 0 ≤ sum.toInt)
    (hwords : ∀ w ∈ words, 0 ≤ w.toInt) :
    addWords? sum words = toInt64? (sum.toInt + (words.map Int64.toInt).sum) := by
  induction words generalizing sum with
  | nil => rw [addWords?, List.map_nil, List.sum_nil, Int.add_zero, toInt64?_eq,
      if_pos (fitsIn64_toInt sum), Int64.ofInt_toInt]
  | cons w rest ih =>
    obtain ⟨hw, hrest⟩ := List.forall_mem_cons.mp hwords
    have hnonneg : 0 ≤ (rest.map Int64.toInt).sum := by
      refine List.sum_nonneg fun n hn => ?_
      obtain ⟨v, hv, rfl⟩ := List.mem_map.mp hn
      exact hrest v hv
    rw [addWords?, List.map_cons, List.sum_cons, ← Int.add_assoc]
    by_cases hfits : FitsIn64 (sum.toInt + w.toInt)
    · obtain ⟨next, hnext, hvalue⟩ := exists_of_fitsIn64 hfits
      simp only [hnext, Option.bind_eq_bind, Option.bind_some]
      rw [ih (by omega) hrest, hvalue]
    · have hlate : ¬FitsIn64 (sum.toInt + w.toInt + (rest.map Int64.toInt).sum) := by
        unfold FitsIn64 at hfits ⊢
        omega
      rw [toInt64?_eq, toInt64?_eq, if_neg hfits, if_neg hlate]
      rfl

namespace SpanForm

/-- The milliseconds in words. A word is refused if it does not hold its number; milliseconds of
minutes and seconds, and the opposite of the sum, are not looked at. -/
def inWords? (narrowing : Narrowing) (f : SpanForm) : Option Int64 := do
  let days ← toInt64? (dayCount f.days)
  let hours ← toInt64? f.hours.value
  let minutes ← toInt64? f.minutes.value
  let seconds ← toInt64? f.seconds.value
  let fraction ← toInt64? (fractionMillis f.fraction)
  if 60 ≤ minutes.toInt ∨ 60 ≤ seconds.toInt then none
  else
    let ofDays ← toInt64? (days.toInt * 86400000)
    let ofHours ← toInt64? (hours.toInt * 3600000)
    let sum ← addWords? ofDays [ofHours, narrowing.word (minutes.toInt * 60000),
      narrowing.word (seconds.toInt * 1000), fraction]
    some (if f.negative then narrowing.word (-sum.toInt) else sum)

variable {f : SpanForm} (narrowing : Narrowing)

/-- The addends of a sum whose minutes and seconds are below sixty. -/
theorem addWords?_parts {days hours minutes seconds fraction ofDays ofHours : Int64}
    (hdays : days.toInt = dayCount f.days) (hhours : hours.toInt = f.hours.value)
    (hminutes : minutes.toInt = f.minutes.value) (hseconds : seconds.toInt = f.seconds.value)
    (hfraction : fraction.toInt = fractionMillis f.fraction)
    (hsixty : ¬(60 ≤ minutes.toInt ∨ 60 ≤ seconds.toInt))
    (hofDays : ofDays.toInt = days.toInt * 86400000)
    (hofHours : ofHours.toInt = hours.toInt * 3600000) :
    addWords? ofDays [ofHours, narrowing.word (minutes.toInt * 60000),
      narrowing.word (seconds.toInt * 1000), fraction] = toInt64? f.total := by
  have hofMinutes := narrowing.exact (minutes.toInt * 60000) ⟨by omega, by omega⟩
  have hofSeconds := narrowing.exact (seconds.toInt * 1000) ⟨by omega, by omega⟩
  have hsum : ofDays.toInt + ([ofHours, narrowing.word (minutes.toInt * 60000),
      narrowing.word (seconds.toInt * 1000), fraction].map Int64.toInt).sum = f.total := by
    simp only [List.map_cons, List.map_nil, List.sum_cons, List.sum_nil, hofMinutes, hofSeconds,
      total]
    omega
  rw [addWords?_eq (by omega), hsum]
  simp only [List.forall_mem_cons, hofMinutes, hofSeconds]
  exact ⟨by omega, by omega, by omega, by omega, nofun⟩

/-- Words are refused where the minutes, the seconds or the sum are too many, and the last word is
the sum with its sign. -/
theorem toInt_of_inWords? {k : Int64} (h : f.inWords? narrowing = some k) :
    f.minutes.value < 60 ∧ f.seconds.value < 60 ∧ f.total < 2 ^ 63 ∧ k.toInt = f.millis := by
  rw [inWords?] at h
  simp only [Option.bind_eq_bind, Option.bind_eq_some_iff] at h
  obtain ⟨days, hdays, hours, hhours, minutes, hminutes, seconds, hseconds, fraction, hfraction,
    h⟩ := h
  have hminutes := toInt_of_toInt64? hminutes
  have hseconds := toInt_of_toInt64? hseconds
  split at h
  · cases h
  rename_i hsixty
  simp only [Option.bind_eq_some_iff] at h
  obtain ⟨ofDays, hofDays, ofHours, hofHours, sum, hsum, hk⟩ := h
  rw [addWords?_parts narrowing (toInt_of_toInt64? hdays) (toInt_of_toInt64? hhours) hminutes
    hseconds (toInt_of_toInt64? hfraction) hsixty (toInt_of_toInt64? hofDays)
    (toInt_of_toInt64? hofHours)] at hsum
  have hsum := toInt_of_toInt64? hsum
  have hfits := fitsIn64_toInt sum
  rw [hsum] at hfits
  have htotal : f.total < 2 ^ 63 := by exact_mod_cast hfits.2
  refine ⟨by omega, by omega, htotal, ?_⟩
  rw [millis, ← Option.some.inj hk]
  split
  · rw [hsum]
    exact narrowing.exact _ ⟨by omega, by omega⟩
  · exact hsum

/-- Nothing on the way to a sum that fits is refused. -/
theorem exists_inWords? (hm : f.minutes.value < 60) (hs : f.seconds.value < 60)
    (ht : f.total < 2 ^ 63) : ∃ k, f.inWords? narrowing = some k := by
  obtain ⟨sum, hsum, -⟩ := @exists_of_fitsIn64 f.total ⟨by omega, by omega⟩
  rw [total] at ht
  obtain ⟨days, hdays, rdays⟩ := @exists_of_fitsIn64 (dayCount f.days) ⟨by omega, by omega⟩
  obtain ⟨hours, hhours, rhours⟩ := @exists_of_fitsIn64 f.hours.value ⟨by omega, by omega⟩
  obtain ⟨minutes, hminutes, rminutes⟩ := @exists_of_fitsIn64 f.minutes.value ⟨by omega, by omega⟩
  obtain ⟨seconds, hseconds, rseconds⟩ := @exists_of_fitsIn64 f.seconds.value ⟨by omega, by omega⟩
  obtain ⟨fraction, hfraction, rfraction⟩ :=
    @exists_of_fitsIn64 (fractionMillis f.fraction) ⟨by omega, by omega⟩
  obtain ⟨ofDays, hofDays, rofDays⟩ := @exists_of_fitsIn64 (days.toInt * 86400000)
    ⟨by omega, by omega⟩
  obtain ⟨ofHours, hofHours, rofHours⟩ := @exists_of_fitsIn64 (hours.toInt * 3600000)
    ⟨by omega, by omega⟩
  have hsixty : ¬(60 ≤ minutes.toInt ∨ 60 ≤ seconds.toInt) := by omega
  have hadd := addWords?_parts narrowing rdays rhours rminutes rseconds rfraction hsixty rofDays
    rofHours
  simp only [inWords?, hdays, hhours, hminutes, hseconds, hfraction, if_neg hsixty, hofDays,
    hofHours, hadd, hsum, Option.bind_eq_bind, Option.bind_some]
  exact ⟨_, rfl⟩

end SpanForm

/-! ### Spans and their forms -/

theorem Span.ofNanos?_eq_some_iff {n : Int} {d : Span} : ofNanos? n = some d ↔ d.nanos = n := by
  rw [ofNanos?]
  constructor
  · intro h
    split at h
    · rw [← Option.some.inj h]
    · cases h
  · rintro rfl
    exact dif_pos ⟨d.lower, d.upper⟩

theorem SpanForm.read?_eq_some_iff {f : SpanForm} {s : List Char} {d : Span}
    (h : trim s = f.text) :
    Span.read? s = some d ↔ f.minutes.value < 60 ∧ f.seconds.value < 60 ∧ f.total < 2 ^ 63 ∧
      d.nanos = f.millis * 1000000 := by
  have hbounds (hnanos : d.nanos = f.millis * 1000000) : f.total < 2 ^ 63 := by
    have hlower := d.lower
    have hupper := d.upper
    have htotal := f.natAbs_millis
    omega
  rw [f.read?_of_trim h]
  split
  · rename_i hsixty
    exact ⟨nofun, fun hf => by omega⟩
  · rename_i hsixty
    rw [Span.ofNanos?_eq_some_iff]
    exact ⟨fun hnanos => ⟨by omega, by omega, hbounds hnanos, hnanos⟩, fun hf => hf.2.2.2⟩

/-- A text is a span if it has the form of one, with less than sixty minutes and seconds and no more
milliseconds than sixty-four bits hold, and then it is the span of those milliseconds. Adding them up
in words gives the same, whatever becomes of numbers that no word holds. -/
theorem spans_of_forms (s : List Char) :
    (∀ d, Span.read? s = some d ↔
      ∃ f : SpanForm, trim s = f.text ∧ f.minutes.value < 60 ∧ f.seconds.value < 60 ∧
        f.total < 2 ^ 63 ∧ d.nanos = f.millis * 1000000) ∧
    ∀ (narrowing : Narrowing) (f : SpanForm), trim s = f.text →
      (f.inWords? narrowing).map Span.ofMillis = Span.read? s := by
  refine ⟨fun d => ⟨fun h => ?_, ?_⟩, fun narrowing f hf => ?_⟩
  · obtain ⟨f, hf⟩ := Span.exists_form_of_read? h
    exact ⟨f, hf, (SpanForm.read?_eq_some_iff hf).mp h⟩
  · rintro ⟨f, hf, h⟩
    exact (SpanForm.read?_eq_some_iff hf).mpr h
  · cases hk : f.inWords? narrowing with
    | none =>
      cases hd : Span.read? s with
      | none => rfl
      | some d =>
        obtain ⟨hm, hs, ht, -⟩ := (SpanForm.read?_eq_some_iff hf).mp hd
        obtain ⟨k, hsome⟩ := f.exists_inWords? narrowing hm hs ht
        rw [hk] at hsome
        cases hsome
    | some k =>
      obtain ⟨hm, hs, ht, hmillis⟩ := SpanForm.toInt_of_inWords? narrowing hk
      have hnanos : (Span.ofMillis k).nanos = max k.toInt (-9223372036854775807) * 1000000 := rfl
      have htotal := f.natAbs_millis
      have hleast : -9223372036854775807 ≤ f.millis := by omega
      rw [hmillis, max_eq_left hleast] at hnanos
      exact ((SpanForm.read?_eq_some_iff hf).mpr ⟨hm, hs, ht, hnanos⟩).symm

end Reckon
