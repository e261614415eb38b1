import Reckon.Conversion
import Reckon.Proofs.Numerals

/-!
# Spans come back from their texts

The text of a span is a sign and a time on a clock that also counts days: hours below twenty-four,
minutes and seconds below sixty, and days and a fraction only where they are not zero. Reading takes
the numerals between the marks and adds them up again. So a text gives its span back, cut to the
milliseconds that the text shows, also for the longest spans in both directions.
-/

namespace Reckon

structure ClockTime where
  days : Nat
  hours : Nat
  minutes : Nat
  seconds : Nat
  millis : Nat
  hours_lt : hours < 24
  minutes_lt : minutes < 60
  seconds_lt : seconds < 60
  millis_lt : millis < 1000

namespace ClockTime

variable (c : ClockTime)

def total : Nat :=
  c.days * 86400000 + c.hours * 3600000 + c.minutes * 60000 + c.seconds * 1000 + c.millis

def ofTotal (n : Nat) : ClockTime where
  days := n / 86400000
  hours := n % 86400000 / 3600000
  minutes := n % 3600000 / 60000
  seconds := n % 60000 / 1000
  millis := n % 1000
  hours_lt := by omega
  minutes_lt := by omega
  seconds_lt := by omega
  millis_lt := by omega

theorem total_ofTotal (n : Nat) : (ofTotal n).total = n := by
  simp only [total, ofTotal]
  omega

def hoursText : List Char :=
  (if c.days = 0 then [] else natText c.days ++ ['.']) ++ paddedText 2 c.hours

def secondsText : List Char :=
  paddedText 2 c.seconds ++ if c.millis = 0 then [] else '.' :: paddedText 3 c.millis

def text : List Char :=
  c.hoursText ++ ':' :: (paddedText 2 c.minutes ++ ':' :: c.secondsText)

/-! ### Numerals and marks -/

theorem hours_isNumeral : IsNumeral 2 (paddedText 2 c.hours) c.hours :=
  isNumeral_paddedText (by omega) (Nat.lt_of_lt_of_le c.hours_lt (by decide))

theorem minutes_isNumeral : IsNumeral 2 (paddedText 2 c.minutes) c.minutes :=
  isNumeral_paddedText (by omega) (Nat.lt_of_lt_of_le c.minutes_lt (by decide))

theorem seconds_isNumeral : IsNumeral 2 (paddedText 2 c.seconds) c.seconds :=
  isNumeral_paddedText (by omega) (Nat.lt_of_lt_of_le c.seconds_lt (by decide))

theorem millis_isNumeral : IsNumeral 3 (paddedText 3 c.millis) c.millis :=
  isNumeral_paddedText (by omega) c.millis_lt

variable {c} {d : Char}

theorem mem_hoursText (h : d ∈ c.hoursText) : isDigit d = true ∨ d = '.' := by
  rcases List.mem_append.mp h with h | h
  · by_cases hdays : c.days = 0
    · rw [if_pos hdays] at h
      cases h
    · rw [if_neg hdays] at h
      rcases List.mem_append.mp h with h | h
      · exact .inl (all_isDigit_natText _ _ h)
      · exact .inr (List.mem_singleton.mp h)
  · exact .inl (c.hours_isNumeral.digits _ h)

theorem mem_secondsText (h : d ∈ c.secondsText) : isDigit d = true ∨ d = '.' := by
  rcases List.mem_append.mp h with h | h
  · exact .inl (c.seconds_isNumeral.digits _ h)
  · by_cases hmillis : c.millis = 0
    · rw [if_pos hmillis] at h
      cases h
    · rw [if_neg hmillis] at h
      rcases List.mem_cons.mp h with h | h
      · exact .inr h
      · exact .inl (c.millis_isNumeral.digits _ h)

theorem mem_text (h : d ∈ c.text) : isDigit d = true ∨ d = '.' ∨ d = ':' := by
  simp only [text, List.mem_append, List.mem_cons] at h
  rcases h with h | h | h | h | h
  · exact (mem_hoursText h).imp_right .inl
  · exact .inr (.inr h)
  · exact .inl (c.minutes_isNumeral.digits _ h)
  · exact .inr (.inr h)
  · exact (mem_secondsText h).imp_right .inl

theorem isBlank_of_mem_text (h : d ∈ c.text) : isBlank d = false := by
  rcases mem_text h with h | rfl | rfl
  · exact isBlank_of_isDigit h
  · rfl
  · rfl

theorem minus_not_mem_text : '-' ∉ c.text := by
  intro h
  rcases mem_text h with h | h | h <;> cases h

theorem colon_not_mem {s : List Char} (h : ∀ d ∈ s, isDigit d = true ∨ d = '.') : ':' ∉ s := by
  intro hmem
  rcases h ':' hmem with h | h <;> cases h

/-! ### Reading -/

variable (c)

theorem splitAtEach_text :
    splitAtEach ':' c.text = [c.hoursText, paddedText 2 c.minutes, c.secondsText] := by
  have hminutes : ':' ∉ paddedText 2 c.minutes := not_mem_of_digits rfl c.minutes_isNumeral.digits
  rw [text, splitAtEach_append (colon_not_mem fun _ => mem_hoursText), splitAtEach_append hminutes,
    splitAtEach_of_not_mem (colon_not_mem fun _ => mem_secondsText)]

theorem readHours?_hoursText : Span.readHours? c.hoursText = some (c.days, c.hours) := by
  have hhours := c.hours_isNumeral
  by_cases hdays : c.days = 0
  · have hpoint : '.' ∉ paddedText 2 c.hours := not_mem_of_digits rfl hhours.digits
    rw [hoursText, if_pos hdays, List.nil_append, Span.readHours?, splitAtFirst?_of_not_mem hpoint]
    simp [hhours.readNat?, hdays]
  · have hpoint : '.' ∉ natText c.days := not_mem_of_digits rfl (all_isDigit_natText c.days)
    rw [hoursText, if_neg hdays, List.append_assoc, List.singleton_append, Span.readHours?,
      splitAtFirst?_append hpoint]
    simp [hhours.readNat?, readNat?_natText]

theorem readFraction?_millis : Span.readFraction? (paddedText 3 c.millis) = some c.millis := by
  have hmillis := c.millis_isNumeral
  have htake : (paddedText 3 c.millis ++ ['0', '0', '0']).take 3 = paddedText 3 c.millis :=
    List.take_left' hmillis.length
  rw [Span.readFraction?, hmillis.readNat?, htake, hmillis.value]
  rfl

theorem readSeconds?_secondsText : Span.readSeconds? c.secondsText = some (c.seconds, c.millis) := by
  have hseconds := c.seconds_isNumeral
  have hpoint : '.' ∉ paddedText 2 c.seconds := not_mem_of_digits rfl hseconds.digits
  by_cases hmillis : c.millis = 0
  · rw [secondsText, if_pos hmillis, List.append_nil, Span.readSeconds?,
      splitAtFirst?_of_not_mem hpoint]
    simp [hseconds.readNat?, hmillis]
  · rw [secondsText, if_neg hmillis, Span.readSeconds?, splitAtFirst?_append hpoint]
    simp [hseconds.readNat?, readFraction?_millis]

end ClockTime

namespace Span

def signText (negative : Bool) : List Char :=
  if negative then ['-'] else []

theorem text_eq (d : Span) :
    d.text = signText (d.millis < 0) ++ (ClockTime.ofTotal d.millis.natAbs).text := by
  simp only [text, signText, ClockTime.text, ClockTime.hoursText, ClockTime.secondsText,
    ClockTime.ofTotal, List.append_assoc, List.cons_append, decide_eq_true_eq]
  rfl

theorem read?_signed (negative : Bool) (c : ClockTime) :
    read? (signText negative ++ c.text) =
      ofNanos? ((if negative then -(c.total : Int) else c.total) * 1000000) := by
  have htrim : trim (signText negative ++ c.text) = signText negative ++ c.text := by
    apply trim_eq_self
    intro d hd
    rcases List.mem_append.mp hd with hd | hd
    · cases negative with
      | true => rw [List.mem_singleton.mp hd]; rfl
      | false => cases hd
    · exact ClockTime.isBlank_of_mem_text hd
  have hsign : ((signText negative ++ c.text).head? == some '-') = negative := by
    cases negative with
    | true => rfl
    | false =>
      rw [signText, if_neg Bool.false_ne_true, List.nil_append, beq_eq_false_iff_ne]
      intro h
      exact c.minus_not_mem_text (List.mem_of_mem_head? h)
  have hbody : (if negative then (signText negative ++ c.text).drop 1
      else signText negative ++ c.text) = c.text := by
    cases negative <;> rfl
  have hparts : ¬(60 ≤ c.minutes || 60 ≤ c.seconds) = true := by
    have hminutes := c.minutes_lt
    have hseconds := c.seconds_lt
    simp only [Bool.or_eq_true, decide_eq_true_eq]
    omega
  rw [read?, htrim]
  simp only [hsign, hbody, c.splitAtEach_text, c.readHours?_hoursText, c.minutes_isNumeral.readNat?,
    c.readSeconds?_secondsText, Option.bind_eq_bind, Option.bind_some, if_neg hparts]
  rfl

/-! ### Whole milliseconds -/

theorem millis_eq (d : Span) :
    d.millis = if 0 ≤ d.nanos then d.nanos / 1000000 else -(-d.nanos / 1000000) := by
  by_cases h : 0 ≤ d.nanos
  · rw [if_pos h, millis, Int.tdiv_eq_ediv_of_nonneg h]
  · rw [if_neg h, millis, ← Int.tdiv_eq_ediv_of_nonneg (by omega), Int.neg_tdiv, Int.neg_neg]

theorem millis_bounds (d : Span) :
    -9223372036854775807000000 ≤ d.millis * 1000000 ∧
      d.millis * 1000000 ≤ 9223372036854775807000000 := by
  have hlower := d.lower
  have hupper := d.upper
  rw [millis_eq]
  split <;> omega

def wholeMillis (d : Span) : Span where
  nanos := d.millis * 1000000
  lower := d.millis_bounds.1
  upper := d.millis_bounds.2

theorem wholeMillis_eq_self_iff {d : Span} : d.wholeMillis = d ↔ 1000000 ∣ d.nanos := by
  rw [wholeMillis, Span.mk.injEq, millis_eq]
  split <;> omega

theorem read?_text (d : Span) : read? d.text = some d.wholeMillis := by
  have htotal : (if d.millis < 0 then -((ClockTime.ofTotal d.millis.natAbs).total : Int)
      else (ClockTime.ofTotal d.millis.natAbs).total) = d.millis := by
    rw [ClockTime.total_ofTotal]
    split <;> omega
  rw [text_eq, read?_signed]
  simp only [decide_eq_true_eq, htotal]
  exact dif_pos d.millis_bounds

end Span

/-- The text of a span is a sign and a clock time, and reading it gives the span back in whole
milliseconds. So a span of whole milliseconds that becomes a text and a span again is the same. -/
theorem span_from_text (d : Span) :
    Span.read? d.text = some d.wholeMillis ∧
      ((Value.span d).convert .string).convert .span = .span d.wholeMillis ∧
      (d.wholeMillis = d ↔ 1000000 ∣ d.nanos) ∧
      ∃ c : ClockTime, c.total = d.millis.natAbs ∧
        d.text = (if d.millis < 0 then ['-'] else []) ++ c.text := by
  refine ⟨d.read?_text, ?_, Span.wholeMillis_eq_self_iff, ?_⟩
  · have htext : (Value.span d).convert .string = .string (String.ofList d.text) := rfl
    have hread : (Value.string (String.ofList d.text)).toSpan? = some d.wholeMillis := by
      rw [Value.toSpan?, String.toList_ofList, d.read?_text]
      rfl
    rw [htext]
    simp [Value.convert, Value.kind, Value.convert?, hread]
  · refine ⟨.ofTotal d.millis.natAbs, ClockTime.total_ofTotal _, ?_⟩
    simpa [Span.signText] using d.text_eq

end Reckon
