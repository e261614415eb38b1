import Reckon.Proofs.LexemePlaces
import Reckon.Proofs.Rejection

/-!
# Signs are read as they are taken

A plus or a minus is read by the token before it alone, before anything is assembled. Where an
operand ends with that token, assembling awaits an operator and takes the sign as one; elsewhere it
awaits an operand. So no sign is ever refused, and no function lacks its parenthesis.
-/

namespace Reckon

/-! ### What lexemes are read as -/

def Lexeme.isSign (l : Lexeme) : Bool :=
  l.isSymbol ['+'] || l.isSymbol ['-']

theorem Lexeme.isSymbol_iff {l : Lexeme} {symbol : List Char} :
    l.isSymbol symbol = true ↔ l.kind = .symbol ∧ l.value = symbol := by
  simp [isSymbol]

theorem Lexeme.isSign_iff {l : Lexeme} :
    l.isSign = true ↔ l.kind = .symbol ∧ (l.value = ['+'] ∨ l.value = ['-']) := by
  rw [isSign, Bool.or_eq_true, isSymbol_iff, isSymbol_iff, and_or_left]

theorem Lexeme.isSign_of_kind_ne {l : Lexeme} (h : l.kind ≠ .symbol) : l.isSign = false := by
  rw [Bool.eq_false_iff, Ne, isSign_iff]
  exact fun hl => h hl.1

theorem Lexeme.isSign_of_value_ne {l : Lexeme} (hplus : String.ofList l.value ≠ "+")
    (hminus : String.ofList l.value ≠ "-") : l.isSign = false := by
  rw [Bool.eq_false_iff, Ne, isSign_iff]
  rintro ⟨-, hv | hv⟩
  · exact hplus (by rw [hv])
  · exact hminus (by rw [hv])

def Lexeme.isLookedFor (l : Lexeme) : Bool :=
  l.kind == .word || l.isSymbol ['(']

def signOperators : List Operator := [.add, .subtract, .negate]

def signReadings (afterOperand : Bool) : List Operator :=
  if afterOperand then [.add, .subtract] else [.negate]

namespace TokenReading

/-- The outcomes of reading a lexeme. Only a sign becomes the operator of one, and only what a
parenthesis follows becomes a call; all that goes into the token besides the lexeme is words. -/
inductive Reads (l : Lexeme) (after : List Lexeme) (afterOperand : Bool) :
    Option TokenKind × Nat → Prop where
  | nothing : Reads l after afterOperand (none, 0)
  | sign (op : Operator) : l.isSign = true → op ∈ signReadings afterOperand →
      Reads l after afterOperand (some (operator op), 0)
  | operator (op : Operator) (used : Nat) : l.isSign = false → op ∉ signOperators →
      (∀ i < used, ∃ m, after[i]? = some m ∧ m.kind = .word) →
      Reads l after afterOperand (some (operator op), used)
  | call (f : String) (m : Lexeme) (rest : List Lexeme) : l.isSign = false →
      after = m :: rest → m.isSymbol ['('] = true →
      Reads l after afterOperand (some (.action (.call f 0)), 0)
  | other (kind : TokenKind) : l.isSign = false → (∀ op, kind ≠ TokenReading.operator op) →
      (∀ f n, kind ≠ .action (.call f n)) → Reads l after afterOperand (some kind, 0)

variable {l : Lexeme} {after : List Lexeme} {afterOperand : Bool}

theorem Reads.constant (h : l.isSign = false) (v : Value) :
    Reads l after afterOperand (some (TokenReading.constant v), 0) :=
  .other _ h nofun nofun

theorem Reads.unknown (h : l.isSign = false) (s : List Char) :
    Reads l after afterOperand (some (TokenReading.unknown s), 0) :=
  .other _ h nofun nofun

theorem exists_word {i : Nat} {keyword : String}
    (h : (after[i]?.map (isWord · keyword)).getD false = true) :
    ∃ m, after[i]? = some m ∧ m.kind = .word := by
  obtain ⟨m, hm, hword⟩ : ∃ m, after[i]? = some m ∧ isWord m keyword = true := by
    simpa [Option.getD_eq_iff] using h
  exact ⟨m, hm, by simpa [isWord] using (Bool.and_eq_true_iff.mp hword).1⟩

theorem Reads.word (h : l.isSign = false) (value : List Char) :
    Reads l after afterOperand
      (some (TokenReading.word value after).1, (TokenReading.word value after).2) := by
  have hfirst {keyword : String} (h : (after[0]?.map (isWord · keyword)).getD false = true) :
      ∀ i < 1, ∃ m, after[i]? = some m ∧ m.kind = .word := by
    intro i hi
    obtain rfl : i = 0 := Nat.lt_one_iff.mp hi
    exact exists_word h
  unfold TokenReading.word
  dsimp only
  split
  -- `NOT`, then `IS`, then what is no operator
  case h_6 =>
    split
    · exact .operator .notLike 1 h (by decide) (hfirst ‹_›)
    · split
      · exact .operator .notMember 1 h (by decide) (hfirst ‹_›)
      · exact .operator .not 0 h (by decide) nofun
  case h_7 =>
    split
    · exact .operator .isNull 1 h (by decide) (hfirst ‹_›)
    · split
      · rename_i hboth
        obtain ⟨hnot, hnull⟩ := Bool.and_eq_true_iff.mp hboth
        refine .operator .isNotNull 2 h (by decide) fun i hi => ?_
        obtain rfl | rfl : i = 0 ∨ i = 1 := by omega
        · exact exists_word hnot
        · exact exists_word hnull
      · exact .unknown h value
  case h_8 =>
    split
    · rename_i hparen
      cases after with
      | nil => cases hparen
      | cons m rest => exact .call _ m rest h rfl hparen
    · split
      case h_4 => exact .other _ h nofun nofun
      all_goals exact .constant h _
  all_goals exact .operator _ 0 h (by decide) nofun

theorem Reads.symbol (h : l.kind = .symbol) :
    Reads l after afterOperand (symbol? l.value afterOperand, 0) := by
  have hother {text : String} (ht : String.ofList l.value = text) (hplus : text ≠ "+")
      (hminus : text ≠ "-") : l.isSign = false :=
    Lexeme.isSign_of_value_ne (ht ▸ hplus) (ht ▸ hminus)
  have hvalue {text : String} (ht : String.ofList l.value = text) : l.value = text.toList := by
    rw [← ht, String.toList_ofList]
  unfold symbol?
  split
  case h_8 hplus =>
    have hsign : l.isSign = true := Lexeme.isSign_iff.mpr ⟨h, .inl (hvalue hplus)⟩
    split
    · exact .sign .add hsign (by simp [signReadings, *])
    · exact .nothing
  case h_9 hminus =>
    have hsign : l.isSign = true := Lexeme.isSign_iff.mpr ⟨h, .inr (hvalue hminus)⟩
    refine .sign _ hsign ?_
    cases afterOperand <;> decide
  case h_27 => exact .unknown (Lexeme.isSign_of_value_ne ‹_› ‹_›) l.value
  all_goals
    rename_i htext
    have hsign : l.isSign = false := hother htext (by decide) (by decide)
    first
    | exact .operator _ 0 hsign (by decide) nofun
    | exact .other _ hsign nofun nofun

theorem Reads.wholeConstant (h : l.isSign = false) (s : List Char) :
    Reads l after afterOperand (some (TokenReading.wholeConstant s), 0) := by
  unfold TokenReading.wholeConstant
  split
  · exact .constant h _
  · split
    · exact .constant h _
    · exact .unknown h s

theorem Reads.floatConstant (h : l.isSign = false) (s : List Char) :
    Reads l after afterOperand (some (TokenReading.floatConstant s), 0) := by
  unfold TokenReading.floatConstant
  split
  · exact .constant h _
  · exact .unknown h s

theorem Reads.hexConstant (h : l.isSign = false) (s : List Char) :
    Reads l after afterOperand (some (TokenReading.hexConstant s), 0) := by
  unfold TokenReading.hexConstant
  dsimp only
  split <;> exact .constant h _

theorem reads (l : Lexeme) (after : List Lexeme) (afterOperand : Bool) :
    Reads l after afterOperand (read l after afterOperand) := by
  unfold read
  by_cases hsymbol : l.kind = .symbol
  · rw [hsymbol]
    exact .symbol hsymbol
  · have hsign : l.isSign = false := Lexeme.isSign_of_kind_ne hsymbol
    cases hkind : l.kind with
    | symbol => exact absurd hkind hsymbol
    | ending => exact .other _ hsign nofun nofun
    | integer => exact .wholeConstant hsign l.value
    | float => exact .floatConstant hsign l.value
    | hexadecimal => exact .hexConstant hsign l.value
    | quoted => exact .constant hsign _
    | word => exact .word hsign l.value
    | unknown => exact .unknown hsign l.value
    | blank | comment => exact .nothing

/-! ### All tokens -/

def endsOperandFrom (afterOperand : Bool) (before : List Token) : Bool :=
  (before.getLast?.map fun token => token.kind.endsOperand).getD afterOperand

theorem endsOperandFrom_cons (afterOperand : Bool) (token : Token) (before : List Token) :
    endsOperandFrom afterOperand (token :: before) =
      endsOperandFrom token.kind.endsOperand before := by
  rw [endsOperandFrom, endsOperandFrom, List.getLast?_cons]
  cases before.getLast? <;> rfl

/-- A token is read off its lexeme by the token before it, and the lexemes after that one and those
that went into it give the tokens after it. -/
theorem tokens_eq_append {used : Nat} {ls : List Lexeme} {before after : List Token} {token : Token}
    (h : tokens used afterOperand ls = before ++ token :: after) :
    ∃ l rest n, l :: rest <:+ ls ∧ l.position = token.position ∧
      read l rest (endsOperandFrom afterOperand before) = (some token.kind, n) ∧
      after = tokens n token.kind.endsOperand rest := by
  fun_induction tokens used afterOperand ls generalizing before with
  | case1 => simp at h
  | case2 used afterOperand l rest ih =>
    obtain ⟨m, more, n, hs, hm⟩ := ih h
    exact ⟨m, more, n, hs.trans (List.suffix_cons l rest), hm⟩
  | case3 afterOperand l rest kind used hread ih =>
    cases before with
    | nil =>
      obtain ⟨rfl, rfl⟩ := List.cons.inj h
      exact ⟨l, rest, used, List.suffix_rfl, rfl, hread, rfl⟩
    | cons first before =>
      obtain ⟨rfl, hrest⟩ := List.cons.inj h
      obtain ⟨m, more, n, hs, hm⟩ := ih hrest
      rw [endsOperandFrom_cons]
      exact ⟨m, more, n, hs.trans (List.suffix_cons l rest), hm⟩
  | case4 afterOperand l rest used hread ih =>
    obtain ⟨m, more, n, hs, hm⟩ := ih h
    exact ⟨m, more, n, hs.trans (List.suffix_cons l rest), hm⟩

theorem Reads.used_le {parts more : List Lexeme} {last : Lexeme}
    {outcome : Option TokenKind × Nat}
    (h : Reads l (parts ++ last :: more) afterOperand outcome) (hlast : last.kind ≠ .word) :
    outcome.2 ≤ parts.length := by
  cases h with
  | operator op used _ _ hwords =>
    by_contra hmore
    obtain ⟨m, hm, hword⟩ := hwords parts.length (Nat.lt_of_not_le hmore)
    rw [List.getElem?_append_right (Nat.le_refl _), Nat.sub_self, List.getElem?_cons_zero] at hm
    exact hlast (Option.some.inj hm ▸ hword)
  | _ => exact Nat.zero_le _

/-- A lexeme that is not looked for hides the ones behind it. -/
theorem read_append (parts more : List Lexeme) {last : Lexeme} (hlast : last.isLookedFor = false) :
    read l (parts ++ last :: more) afterOperand = read l parts afterOperand := by
  obtain ⟨hword, hparen⟩ := Bool.or_eq_false_iff.mp hlast
  have hvalue : word l.value (parts ++ last :: more) = word l.value parts := by
    match parts with
    | [] => simp [word, isWord, hword, hparen]
    | [m] =>
      simp [word, isWord, hword]
      rfl
    | m :: m' :: parts => rfl
  simp only [read, hvalue]

theorem tokens_append {used : Nat} {parts more : List Lexeme} {last : Lexeme}
    (hlast : last.isLookedFor = false) (hused : used ≤ parts.length) :
    tokens used afterOperand (parts ++ last :: more) =
      tokens used afterOperand parts ++
        tokens 0 (endsOperandFrom afterOperand (tokens used afterOperand parts))
          (last :: more) := by
  induction parts generalizing used afterOperand with
  | nil =>
    obtain rfl : used = 0 := Nat.le_zero.mp hused
    rfl
  | cons l parts ih =>
    cases used with
    | succ used => exact ih (Nat.le_of_succ_le_succ hused)
    | zero =>
      have hkind : last.kind ≠ .word := by simpa using (Bool.or_eq_false_iff.mp hlast).1
      have hle := (reads l (parts ++ last :: more) afterOperand).used_le hkind
      rw [read_append parts more hlast] at hle
      rw [List.cons_append, tokens, tokens, read_append parts more hlast]
      split
      · rename_i kind used hread
        rw [hread] at hle
        rw [ih hle, List.cons_append, endsOperandFrom_cons]
      · rename_i used hread
        rw [hread] at hle
        exact ih hle

/-- The end goes into no other token. -/
theorem tokens_concat {used : Nat} {parts : List Lexeme} {last : Lexeme}
    (hlast : last.kind = .ending) (hused : used ≤ parts.length) :
    tokens used afterOperand (parts ++ [last]) =
      tokens used afterOperand parts ++ [⟨.ending, last.position⟩] := by
  have hread (b : Bool) : read last [] b = (some .ending, 0) := by rw [read, hlast]
  rw [tokens_append (by simp [Lexeme.isLookedFor, Lexeme.isSymbol, hlast]) hused]
  simp only [tokens, hread]

end TokenReading

def LexemeRules.readable (rules : LexemeRules) (text : List Char) : List Lexeme :=
  (rules.lexemes text).filter fun l => l.kind != .blank && l.kind != .comment

/-- Where the end of a text is a lexeme it is the last token, and none is added. -/
theorem readTokens_eq {rules : LexemeRules} (h : rules.skipEnd = false) (text : List Char) :
    readTokens rules text = TokenReading.tokens 0 false (rules.readable text) ∧
      ∃ ts p, readTokens rules text = ts ++ [⟨.ending, p⟩] := by
  obtain ⟨parts, last, hparts, hlast⟩ := LexemeRules.lexemes_ended h text
  have hreadable : rules.readable text =
      parts.filter (fun l => l.kind != .blank && l.kind != .comment) ++ [last] := by
    rw [LexemeRules.readable, hparts, List.filter_append]
    simp [hlast]
  obtain ⟨ts, hts⟩ : ∃ ts, TokenReading.tokens 0 false (rules.readable text) =
      ts ++ [⟨.ending, last.position⟩] := by
    rw [hreadable]
    exact ⟨_, TokenReading.tokens_concat hlast (Nat.zero_le _)⟩
  have heq : readTokens rules text = TokenReading.tokens 0 false (rules.readable text) := by
    unfold readTokens
    rw [← LexemeRules.readable]
    simp [hts, TokenKind.isEnding]
  exact ⟨heq, ts, last.position, by rw [heq, hts]⟩

/-! ### Taking them -/

theorem Assembly.take_of_mem_signReadings {a : Assembly} {op : Operator}
    (hparen : ∀ f q, a.awaiting ≠ .parenOf f q) (h : op ∈ signReadings a.awaiting.isOperator)
    (p : Position) : ∃ b, a.take ⟨.action (.operator op), p⟩ = .ok b := by
  obtain ⟨output, frames, awaiting⟩ := a
  cases awaiting with
  | parenOf f q => exact absurd rfl (hparen f q)
  | operand | firstArgument =>
    obtain rfl : op = .negate := List.mem_singleton.mp h
    exact ⟨_, rfl⟩
  | operator indexable =>
    obtain rfl | rfl : op = .add ∨ op = .subtract := List.mem_pair.mp h
    · exact ⟨_, rfl⟩
    · exact ⟨_, rfl⟩

theorem Assembly.refusal_ne_expectedParen {a : Assembly}
    (hparen : ∀ f q, a.awaiting ≠ .parenOf f q) (kind : TokenKind) (f : String) :
    a.refusal kind ≠ .expectedParen f := by
  have hunexpected : unexpected kind ≠ .expectedParen f := by
    intro h
    cases kind <;> cases h
  obtain ⟨output, frames, awaiting⟩ := a
  cases awaiting with
  | parenOf g q => exact absurd rfl (hparen g q)
  | operand | firstArgument => exact hunexpected
  | operator indexable =>
    simp only [refusal, unclosed]
    split
    case h_5 => exact hunexpected
    all_goals
      intro h
      cases h

/-- A parenthesis is awaited after the name of a function only. -/
theorem Reached.ends_of_parenOf {ts : List Token} {a : Assembly} {f : String} {p : Position}
    (h : Reached ts a) (hparen : a.awaiting = .parenOf f p) :
    ∃ earlier n, ts = earlier ++ [⟨.action (.call f n), p⟩] := by
  cases h with
  | parenOf g n q hb =>
    cases hparen
    exact ⟨_, n, rfl⟩
  | _ => cases hparen

section

variable {rules : LexemeRules} {text : List Char} {before after : List Token} {token : Token}
  {a : Assembly} {e : SyntaxError}

theorem exists_reads (hskip : rules.skipEnd = false)
    (hsplit : readTokens rules text = before ++ token :: after) :
    ∃ l ∈ rules.lexemes text, ∃ rest used, l.position = token.position ∧
      TokenReading.Reads l rest (endsOperand before) (some token.kind, used) ∧
      after = TokenReading.tokens used token.kind.endsOperand rest := by
  rw [(readTokens_eq hskip text).1] at hsplit
  obtain ⟨l, rest, used, hsuffix, hl, hread, hafter⟩ := TokenReading.tokens_eq_append hsplit
  have hmem : l ∈ rules.lexemes text := List.mem_of_mem_filter (hsuffix.mem List.mem_cons_self)
  have hreads := TokenReading.reads l rest (TokenReading.endsOperandFrom false before)
  rw [hread] at hreads
  exact ⟨l, hmem, rest, used, hl, hreads, hafter⟩

theorem kind_of_parenOf (hskip : rules.skipEnd = false)
    (hsplit : readTokens rules text = before ++ token :: after)
    (ha : Assembly.start.takeAll before = .ok a) {f : String} {p : Position}
    (hparen : a.awaiting = .parenOf f p) : token.kind = .mark .leftParen := by
  obtain ⟨earlier, n, rfl⟩ := (reached_of_takeAll ha).ends_of_parenOf hparen
  rw [List.append_assoc] at hsplit
  obtain ⟨l, -, rest, used, -, hreads, hafter⟩ := exists_reads hskip hsplit
  cases hreads with
  | other _ _ _ hcall => exact absurd rfl (hcall f n)
  | call _ m more _ hrest hm =>
    -- nothing of the parenthesis went into the name, so it is read next
    obtain ⟨hkind, hvalue⟩ := Lexeme.isSymbol_iff.mp hm
    have hreadm (b : Bool) : TokenReading.read m more b = (some (.mark .leftParen), 0) := by
      rw [TokenReading.read, hkind, hvalue]
      rfl
    rw [hrest] at hafter
    simp only [TokenReading.tokens, hreadm] at hafter
    rw [(List.cons.inj hafter).1]

theorem awaiting_of_stopsAt (hskip : rules.skipEnd = false)
    (hsplit : readTokens rules text = before ++ token :: after)
    (ha : Assembly.start.takeAll before = .ok a) (h : a.StopsAt token e) (f : String)
    (p : Position) : a.awaiting ≠ .parenOf f p := by
  intro hparen
  have hkind := kind_of_parenOf hskip hsplit ha hparen
  obtain ⟨kind, q⟩ := token
  obtain ⟨output, frames, awaiting⟩ := a
  obtain rfl : kind = .mark .leftParen := hkind
  obtain rfl : awaiting = .parenOf f p := hparen
  cases h

/-- The token that assembling stops at was not read from a sign. -/
theorem position_ne_of_isSign (hskip : rules.skipEnd = false)
    (hsplit : readTokens rules text = before ++ token :: after)
    (ha : Assembly.start.takeAll before = .ok a) (h : a.StopsAt token e) {l : Lexeme}
    (hl : l ∈ rules.lexemes text) (hsign : l.isSign = true) : l.position ≠ token.position := by
  intro hposition
  obtain ⟨m, hm, rest, used, hmp, hreads, -⟩ := exists_reads hskip hsplit
  -- places tell lexemes apart, so it is this one that the token was read from
  obtain rfl : l = m := LexemeRules.eq_of_position hl hm (hposition.trans hmp.symm)
  rw [(reached_of_takeAll ha).endsOperand] at hreads
  have hparen := awaiting_of_stopsAt hskip hsplit ha h
  obtain ⟨kind, p⟩ := token
  cases hreads with
  | sign op _ hop =>
    obtain ⟨b, hb⟩ := Assembly.take_of_mem_signReadings hparen hop p
    have herror : a.take ⟨.action (.operator op), p⟩ = .error e := h
    rw [hb] at herror
    cases herror
  | operator _ _ hnot | call _ _ _ hnot | other _ hnot =>
    rw [hsign] at hnot
    cases hnot

/-- Nor does it apply a sign. -/
theorem kind_ne_of_mem_signOperators (hskip : rules.skipEnd = false)
    (hsplit : readTokens rules text = before ++ token :: after)
    (ha : Assembly.start.takeAll before = .ok a) (h : a.StopsAt token e) {op : Operator}
    (hop : op ∈ signOperators) : token.kind ≠ .action (.operator op) := by
  intro hkind
  obtain ⟨l, hmem, rest, used, hl, hreads, -⟩ := exists_reads hskip hsplit
  rw [hkind] at hreads
  cases hreads with
  | sign _ hsign => exact position_ne_of_isSign hskip hsplit ha h hmem hsign hl
  | operator _ _ _ hnot => exact hnot hop
  | other _ _ hnot => exact hnot op rfl

end

def StopsParsing (text : String) (token : Token) (e : SyntaxError) : Prop :=
  ∃ before after a, readTokens .formula text.toList = before ++ token :: after ∧
    Assembly.start.takeAll before = .ok a ∧ a.StopsAt token e

theorem exists_stopsParsing {text : String} {e : SyntaxError} (h : Program.parse text = .error e) :
    ∃ token, StopsParsing text token e := by
  have hskip : LexemeRules.formula.skipEnd = false := rfl
  obtain ⟨before, token, after, a, hsplit, ha, hstops⟩ := Assembly.stopsAt_of_run rfl h
  have hended : (readTokens .formula text.toList).any fun token => token.kind.isEnding := by
    obtain ⟨ts, p, hts⟩ := (readTokens_eq hskip text.toList).2
    simp [hts, TokenKind.isEnding]
  rw [withEnding, if_pos hended] at hsplit
  exact ⟨token, before, after, a, hsplit, ha, hstops⟩

/-- Whatever has been taken of the tokens of a text, an operand ends with it exactly where an
operator is awaited. So parsing never stops at a plus or a minus, nor for want of the parenthesis
after the name of a function. -/
theorem reading_fits_assembly (text : String) :
    (∀ ts a, ts <+: readTokens .formula text.toList → Assembly.start.takeAll ts = .ok a →
      endsOperand ts = a.awaiting.isOperator) ∧
    ∀ e, Program.parse text = .error e →
      (∃ token, StopsParsing text token e) ∧
      (∀ token, StopsParsing text token e → token.position = e.position ∧
        (∀ op ∈ signOperators, token.kind ≠ .action (.operator op)) ∧
        ∀ l ∈ LexemeRules.formula.lexemes text.toList, l.isSign = true →
          l.position ≠ token.position) ∧
      ∀ f, e.fault ≠ .expectedParen f := by
  have hskip : LexemeRules.formula.skipEnd = false := rfl
  refine ⟨fun ts a _ ha => (reached_of_takeAll ha).endsOperand, fun e he => ?_⟩
  have hstop := exists_stopsParsing he
  refine ⟨hstop, ?_, ?_⟩
  · rintro token ⟨before, after, a, hsplit, ha, hs⟩
    refine ⟨by rw [hs.eq], fun op => kind_ne_of_mem_signOperators hskip hsplit ha hs, ?_⟩
    exact fun l => position_ne_of_isSign hskip hsplit ha hs
  · obtain ⟨token, before, after, a, hsplit, ha, hs⟩ := hstop
    intro f
    rw [hs.eq]
    exact Assembly.refusal_ne_expectedParen (awaiting_of_stopsAt hskip hsplit ha hs) token.kind f

example : Program.parse "ABS /* of */ (+ x) + - )" = .error ⟨.unexpected ")", ⟨1, 24⟩⟩ := by
  cbv

end Reckon
