import Reckon.Proofs.WrittenLexemes

/-!
# What the rules show of a text

Rules may leave blanks, comments and the end of a text out and may decode quoted texts. None of this
moves a lexeme: those of the text as it is written are there, in the same order, less those left
out, and of the others only a quoted text has another value, namely what it means. Read one by one
they are the same, as often as the text is started again.
-/

namespace Reckon

open Cursor

/-! ### Quoted texts -/

inductive Escapes : Char → Char → Prop where
  | lineFeed : Escapes 'n' '\n'
  | carriageReturn : Escapes 'r' '\r'
  | tab : Escapes 't' '\t'
  | null : Escapes '0' '\x00'
  | itself {c : Char} : c ≠ 'n' → c ≠ 'r' → c ≠ 't' → c ≠ '0' → Escapes c c

/-- What the characters behind an opening quote mean. A quote that is not doubled ends the text, and
a backslash at the end of an open text means nothing. -/
inductive Unquotes (quote : Char) (escapes : Bool) : (raw content : List Char) → Prop where
  | unclosed : Unquotes quote escapes [] []
  | closed : Unquotes quote escapes [quote] []
  | lone : '\\' ≠ quote → escapes = true → Unquotes quote escapes ['\\'] []
  | doubled {raw content : List Char} : Unquotes quote escapes raw content →
      Unquotes quote escapes (quote :: quote :: raw) (quote :: content)
  | escaped {d meant : Char} {raw content : List Char} : '\\' ≠ quote → escapes = true →
      Escapes d meant → Unquotes quote escapes raw content →
      Unquotes quote escapes ('\\' :: d :: raw) (meant :: content)
  | plain {c : Char} {raw content : List Char} : c ≠ quote → ¬(c = '\\' ∧ escapes = true) →
      Unquotes quote escapes raw content → Unquotes quote escapes (c :: raw) (c :: content)

section

variable {quote : Char} {escapes : Bool}

theorem escapes_unescape (c : Char) : Escapes c (unescape c) := by
  unfold unescape
  split
  · exact .lineFeed
  · exact .carriageReturn
  · exact .tab
  · exact .null
  · rename_i hn hr ht hzero
    exact .itself hn hr ht hzero

theorem Escapes.unescape {c meant : Char} (h : Escapes c meant) : unescape c = meant := by
  cases h with
  | lineFeed | carriageReturn | tab | null => rfl
  | itself hn hr ht hzero => exact unescape.eq_5 c hn hr ht hzero

theorem isEscape_iff {c : Char} : (c = '\\' && escapes) = true ↔ c = '\\' ∧ escapes = true := by
  rw [Bool.and_eq_true, decide_eq_true_iff]

theorem unquotes_quotedRest (quote : Char) (escapes : Bool) (s : List Char) :
    Unquotes quote escapes (quotedRest quote escapes s).1 (quotedRest quote escapes s).2 := by
  fun_induction quotedRest quote escapes s with
  | case1 => exact .unclosed
  | case2 => exact .closed
  | case3 rest raw content hrest ih =>
    rw [hrest] at ih
    exact .doubled ih
  | case4 => exact .closed
  | case5 c hc hescape =>
    obtain ⟨rfl, hescapes⟩ := isEscape_iff.mp hescape
    exact .lone hc hescapes
  | case6 c hc hescape d rest raw content hrest ih =>
    obtain ⟨rfl, hescapes⟩ := isEscape_iff.mp hescape
    rw [hrest] at ih
    exact .escaped hc hescapes (escapes_unescape d) ih
  | case7 c rest hc hescape raw content hrest ih =>
    rw [hrest] at ih
    exact .plain hc (mt isEscape_iff.mpr hescape) ih

theorem Unquotes.quotedRest {raw content : List Char} (h : Unquotes quote escapes raw content) :
    quotedRest quote escapes raw = (raw, content) := by
  induction h with
  | unclosed => rfl
  | closed => exact quotedRest_lone quote escapes
  | lone hquote hescapes => simp only [Reckon.quotedRest, if_neg hquote, hescapes]; rfl
  | doubled _ ih => rw [quotedRest_double, ih]
  | escaped hquote hescapes hmeant _ ih =>
    rw [quotedRest_escaped hquote (isEscape_iff.mpr ⟨rfl, hescapes⟩), ih, hmeant.unescape]
  | plain hquote hplain _ ih => rw [quotedRest_plain hquote (mt isEscape_iff.mp hplain), ih]

/-- Quoted text that has been read means one thing. -/
theorem unquotes_iff {raw content : List Char} (h : (quotedRest quote escapes raw).1 = raw) :
    Unquotes quote escapes raw content ↔ content = (quotedRest quote escapes raw).2 := by
  constructor
  · intro hmeans
    rw [hmeans.quotedRest]
  · rintro rfl
    have hread := unquotes_quotedRest quote escapes raw
    rwa [h] at hread

end

/-! ### Lexemes -/

namespace LexemeRules

variable {rules : LexemeRules}

structure Shows (rules : LexemeRules) (written shown : Lexeme) : Prop where
  kind : shown.kind = written.kind
  position : shown.position = written.position
  verbatim : ¬(written.kind = .quoted ∧ rules.decodeStrings = true) → shown.value = written.value
  meant : written.kind = .quoted → rules.decodeStrings = true →
    ∃ quote raw, written.value = quote :: raw ∧
      ∀ content, Unquotes quote rules.backslashEscapes raw content ↔ content = shown.value

def QuotedWhole (rules : LexemeRules) (l : Lexeme) : Prop :=
  ∃ quote raw, l.value = quote :: raw ∧ (quotedRest quote rules.backslashEscapes raw).1 = raw

theorem cut_of_quoted {first : Char} {ahead : List Char}
    (h : (rules.cut first ahead).kind = .quoted) :
    rules.cut first ahead = rules.quotedCut first ahead := by
  rw [cut] at h ⊢
  split at h
  · cases h
  · rcases rules.plainCut_cases first ahead with ⟨hcut, -⟩ | hcut | hkind
    · rw [hcut] at h
      exact absurd h (numberRest_ne rules first ahead rfl)
    · exact hcut
    · simp [h] at hkind

theorem quotedWhole_of_mem {text : List Char} {l : Lexeme} (hl : l ∈ rules.asWritten.lexemes text)
    (hkind : l.kind = .quoted) : rules.QuotedWhole l := by
  rcases @cut_of_mem rules.asWritten _ [] text l hl with hend | ⟨first, more, hcut, hvalue⟩
  · rw [hkind] at hend
    cases hend
  · rw [cut_asWritten] at hcut hvalue
    have hquoted : rules.cut first more = rules.quotedCut first more :=
      cut_of_quoted (hcut.symm.trans hkind)
    refine ⟨first, _, hvalue, ?_⟩
    rw [hquoted, quotedCut, quotedRest_read]

theorem shows_decoded {l : Lexeme} (hwhole : l.kind = .quoted → rules.QuotedWhole l) :
    rules.Shows l { l with
      value := if l.kind = .quoted ∧ rules.decodeStrings = true then rules.decoded l.value
        else l.value } where
  kind := rfl
  position := rfl
  verbatim := fun h => if_neg h
  meant := by
    intro hkind hdecode
    obtain ⟨quote, raw, hvalue, hread⟩ := hwhole hkind
    refine ⟨quote, raw, hvalue, fun content => ?_⟩
    rw [unquotes_iff hread, if_pos ⟨hkind, hdecode⟩, hvalue, decoded]

theorem forall₂_shows {ls : List Lexeme}
    (h : ∀ l ∈ ls, l.kind = .quoted → rules.QuotedWhole l) :
    List.Forall₂ rules.Shows (ls.filter fun l => !rules.skips l.kind)
      (ls.filterMap rules.shown?) := by
  induction ls with
  | nil => exact .nil
  | cons l ls ih =>
    obtain ⟨hl, hls⟩ := List.forall_mem_cons.mp h
    cases hskip : rules.skips l.kind with
    | true =>
      rw [List.filter_cons_of_neg (by rw [hskip]; exact Bool.false_ne_true),
        List.filterMap_cons_none (rules.shown?_of_skips hskip)]
      exact ih hls
    | false =>
      have hshown := rules.shown?_of_not_skips hskip
      rw [List.filter_cons_of_pos (by rw [hskip]; rfl), List.filterMap_cons_some hshown]
      exact .cons (shows_decoded hl) (ih hls)

end LexemeRules

/-! ### One by one -/

namespace LexemeRules

variable {rules : LexemeRules}

/-- Any bound beyond the text ahead will do. -/
theorem lexemesFrom_congr_bound {bound bound' : Nat} {before ahead : List Char}
    (h : ahead.length < bound) (h' : ahead.length < bound') :
    rules.lexemesFrom bound (between before ahead) =
      rules.lexemesFrom bound' (between before ahead) := by
  induction bound generalizing bound' before ahead with
  | zero => exact absurd h (Nat.not_lt_zero _)
  | succ bound ih =>
    obtain ⟨bound', rfl⟩ : ∃ n, bound' = n + 1 := ⟨bound' - 1, by omega⟩
    cases ahead with
    | nil => rw [lexemesFrom_end, lexemesFrom_end]
    | cons first ahead =>
      rw [List.length_cons] at h h'
      have hdrop : (ahead.drop (rules.cut first ahead).tail.length).length ≤ ahead.length := by
        rw [List.length_drop]
        omega
      have hb : (ahead.drop (rules.cut first ahead).tail.length).length < bound := by omega
      have hb' : (ahead.drop (rules.cut first ahead).tail.length).length < bound' := by omega
      rw [lexemesFrom_between, lexemesFrom_between, ih hb hb']

end LexemeRules

namespace LexemeStream

variable {rules : LexemeRules} {text : List Char}

def after : Nat → LexemeStream → LexemeStream
  | 0, s => s
  | n + 1, s => after n s.next.2

structure Over (rules : LexemeRules) (text : List Char) (s : LexemeStream) : Prop where
  rules_eq : s.rules = rules
  between : ∃ before ahead, before ++ ahead = text ∧ s.cursor = Cursor.between before ahead

theorem over_ofText (rules : LexemeRules) (text : List Char) : Over rules text (ofText rules text) :=
  ⟨rfl, [], text, rfl, rfl⟩

theorem Over.reset {s : LexemeStream} (h : Over rules text s) : s.reset = ofText rules text := by
  obtain ⟨rfl, before, ahead, rfl, hcursor⟩ := h
  rw [LexemeStream.reset, hcursor, reset_between, between_nil, ofText]

theorem rest_of_finished {s : LexemeStream} (h : s.finished = true) : s.rest = [] := by
  rw [rest, h, if_pos rfl]

/-- Behind a lexeme the stream is at its end or has passed a character at least. -/
theorem Over.read {s : LexemeStream} {l : Lexeme} {d : Cursor} (h : Over rules text s)
    (hs : ¬s.finished = true) (hread : s.rules.readLexeme s.cursor = (l, d)) :
    Over rules text ⟨s.rules, d, l.kind = .ending⟩ ∧
      s.rest = (if s.rules.skips l.kind then [] else [l]) ++
        LexemeStream.rest ⟨s.rules, d, l.kind = .ending⟩ ∧
      (l.kind = .ending ∨ d.ahead.length < s.cursor.ahead.length) := by
  obtain ⟨own, cursor, finished⟩ := s
  obtain ⟨rfl, before, ahead, rfl, hcursor⟩ := h
  dsimp only at hs hread hcursor ⊢
  obtain rfl := Bool.eq_false_iff.mpr hs
  subst hcursor
  cases ahead with
  | nil =>
    rw [LexemeRules.readLexeme_end, Prod.mk.injEq] at hread
    obtain ⟨rfl, rfl⟩ := hread
    have hrest : rest ⟨own, Cursor.between before [], false⟩ =
        own.lexemesFrom 1 (Cursor.between before []) := rfl
    rw [hrest, LexemeRules.lexemesFrom_end]
    exact ⟨⟨rfl, before, [], rfl, rfl⟩, (List.append_nil _).symm, .inl rfl⟩
  | cons first ahead =>
    rw [LexemeRules.readLexeme_between, Prod.mk.injEq] at hread
    obtain ⟨rfl, rfl⟩ := hread
    have hrest : rest ⟨own, Cursor.between before (first :: ahead), false⟩ =
        own.lexemesFrom (ahead.length + 2) (Cursor.between before (first :: ahead)) := rfl
    have hdrop : (ahead.drop (own.cut first ahead).tail.length).length < ahead.length + 1 := by
      rw [List.length_drop]
      omega
    have hmore : ¬decide ((own.cut first ahead).kind = .ending) = true := by
      rw [decide_eq_true_iff]
      exact own.cut_kind first ahead
    rw [hrest, LexemeRules.lexemesFrom_between]
    refine ⟨⟨rfl, _, _, ?_, rfl⟩, congrArg _ ?_, .inr hdrop⟩
    · rw [List.append_assoc, List.cons_append, own.cut_append_drop]
    · rw [rest, if_neg hmore]
      exact LexemeRules.lexemesFrom_congr_bound hdrop (Nat.lt_succ_self _)

/-- What comes next is the first lexeme of those still to come, and leaves the others. The lexemes
left out in front of it have to be passed within the bound. -/
theorem Over.nextWithin {s : LexemeStream} (h : Over rules text s) {bound : List Char}
    (hb : s.finished = true ∨ s.cursor.ahead.length ≤ bound.length) :
    Over rules text (nextWithin bound s).2 ∧ (nextWithin bound s).1 = s.rest.head? ∧
      (nextWithin bound s).2.rest = s.rest.tail := by
  fun_induction LexemeStream.nextWithin bound s with
  | case1 _ s hs =>
    rw [rest_of_finished hs]
    exact ⟨h, rfl, rfl⟩
  | case2 s hs l d hread after hskip =>
    obtain ⟨hover, hrest, hpast⟩ := h.read hs hread
    have hlength : s.cursor.ahead.length ≤ 0 := hb.resolve_left hs
    have hend : after.finished = true := decide_eq_true (hpast.resolve_right (by omega))
    rw [hrest, if_pos hskip, rest_of_finished hend]
    exact ⟨hover, rfl, rfl⟩
  | case3 s hs l d hread after hskip c bound ih =>
    obtain ⟨hover, hrest, hpast⟩ := h.read hs hread
    have hlength : s.cursor.ahead.length ≤ bound.length + 1 := hb.resolve_left hs
    have hleft : after.finished = true ∨ after.cursor.ahead.length ≤ bound.length :=
      hpast.imp decide_eq_true fun hpast => Nat.le_of_lt_succ (hpast.trans_le hlength)
    rw [hrest, if_pos hskip]
    exact ih hover hleft
  | case4 bound s hs l d hread after hskip =>
    obtain ⟨hover, hrest, -⟩ := h.read hs hread
    rw [hrest, if_neg hskip]
    exact ⟨hover, rfl, rfl⟩

theorem Over.next {s : LexemeStream} (h : Over rules text s) :
    Over rules text s.next.2 ∧ s.next.1 = s.rest.head? ∧ s.next.2.rest = s.rest.tail :=
  h.nextWithin (.inr (Nat.le_refl _))

theorem Over.after {s : LexemeStream} (h : Over rules text s) (calls : Nat) :
    Over rules text (s.after calls) ∧ (s.after calls).next.1 = s.rest[calls]? := by
  induction calls generalizing s with
  | zero =>
    refine ⟨h, ?_⟩
    rw [LexemeStream.after, h.next.2.1, List.head?_eq_getElem?]
  | succ calls ih =>
    obtain ⟨hover, -, htail⟩ := h.next
    rw [LexemeStream.after, ← List.getElem?_tail, ← htail]
    exact ih hover

theorem rest_ofText (rules : LexemeRules) (text : List Char) :
    (ofText rules text).rest = rules.lexemes text := rfl

end LexemeStream

/-- The rules alone say what is cut off a text; their flags say what is shown of it. A stream gives
the same, from the first lexeme on after each reset. -/
theorem flags_show_lexemes (rules : LexemeRules) (text : List Char) :
    List.Forall₂ rules.Shows
        ((rules.asWritten.lexemes text).filter fun l => !rules.skips l.kind)
        (rules.lexemes text) ∧
      ∀ calls i, (((LexemeStream.ofText rules text).after calls).reset.after i).next.1 =
        (rules.lexemes text)[i]? := by
  constructor
  · rw [rules.lexemes_eq_shown]
    exact LexemeRules.forall₂_shows fun l hl => LexemeRules.quotedWhole_of_mem hl
  · intro calls i
    have hover := LexemeStream.over_ofText rules text
    rw [(hover.after calls).1.reset, (hover.after i).2, LexemeStream.rest_ofText]

/-- A line feed and a quote are meant by what a backslash stands in front of, and a quote by two. -/
theorem flags_show_meant :
    let rules := { LexemeRules.formula with backslashEscapes := true }
    let text := ['=', '"', '\\', 'n', '"', '"', '\\', '"', '"']
    ∃ l ∈ rules.lexemes text, l.kind = .quoted ∧ l.value = ['\n', '"', '"'] := by
  intro rules text
  obtain ⟨hshown, -⟩ := flags_show_lexemes rules text
  have hwritten : (rules.asWritten.lexemes text).filter (fun l => !rules.skips l.kind) =
      [⟨.symbol, ['='], ⟨1, 1⟩⟩, ⟨.quoted, text.drop 1, ⟨1, 2⟩⟩, ⟨.ending, [], ⟨1, 10⟩⟩] := by
    decide
  rw [hwritten] at hshown
  obtain ⟨_, _, -, hshown, htext⟩ := List.forall₂_cons_left_iff.mp hshown
  obtain ⟨l, _, hl, -, rfl⟩ := List.forall₂_cons_left_iff.mp hshown
  obtain ⟨quote, raw, hvalue, hmeans⟩ := hl.meant rfl rfl
  obtain ⟨rfl, rfl⟩ := List.cons_eq_cons.mp hvalue
  have hcontent := (hmeans _).mp <| .escaped (by decide) rfl .lineFeed <| .doubled <|
    .escaped (by decide) rfl (.itself (by decide) (by decide) (by decide) (by decide)) .closed
  refine ⟨l, ?_, hl.kind, hcontent.symm⟩
  rw [htext]
  exact List.mem_cons_of_mem _ List.mem_cons_self

end Reckon
