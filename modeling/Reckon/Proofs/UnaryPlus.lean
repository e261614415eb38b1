import Reckon.Proofs.ExtraNegation
import Reckon.Proofs.LeftOut
import Reckon.Proofs.MinusForPlus

/-!
# A plus that joins nothing

A plus after no operand becomes no token. With a minus in its place the text has the same tokens and
one negation more, and is parsed into the same program with that negation in it. Only between the
parentheses of a call, where no operand has to come, a minus is refused and a plus is not.
-/

namespace Reckon

/-! ### Tokens on both sides of a place -/

def Position.isBefore (p q : Position) : Bool :=
  p.line < q.line || (p.line == q.line && p.column < q.column)

def tokensBefore (p : Position) (tokens : List Token) : List Token :=
  tokens.takeWhile fun token => token.position.isBefore p

def tokensFrom (p : Position) (tokens : List Token) : List Token :=
  tokens.dropWhile fun token => token.position.isBefore p

theorem Position.isBefore_iff {p q : Position} :
    p.isBefore q = true ↔ p.line < q.line ∨ p.line = q.line ∧ p.column < q.column := by
  simp [isBefore]

theorem Position.not_isBefore_self (p : Position) : p.isBefore p = false := by
  simp [isBefore]

theorem Position.not_isBefore_of_isBefore {p q : Position} (h : p.isBefore q = true) :
    q.isBefore p = false := by
  rw [isBefore_iff] at h
  rw [Bool.eq_false_iff, Ne, isBefore_iff]
  omega

theorem LexemeRules.pairwise_lexemes (rules : LexemeRules) (text : List Char) :
    (rules.lexemes text).Pairwise fun l m => l.position.isBefore m.position = true := by
  obtain ⟨ns, hsorted, -, hns⟩ := @places_lexemesFrom rules (text.length + 1) [] text
  have hplaces : (rules.lexemes text).map Lexeme.position = ns.map (place text) := hns
  have hmap : ((rules.lexemes text).map Lexeme.position).Pairwise
      fun p q => p.isBefore q = true := by
    rw [hplaces, List.pairwise_map]
    exact hsorted.imp fun h => Position.isBefore_iff.mpr (place_lt text h)
  exact List.pairwise_map.mp hmap

theorem TokenReading.exists_lexeme {used : Nat} {afterOperand : Bool} {ls : List Lexeme}
    {token : Token} (h : token ∈ tokens used afterOperand ls) :
    ∃ l ∈ ls, l.position = token.position := by
  obtain ⟨before, more, hsplit⟩ := List.append_of_mem h
  obtain ⟨l, rest, n, hsuffix, hl, -⟩ := tokens_eq_append hsplit
  exact ⟨l, hsuffix.mem List.mem_cons_self, hl⟩

theorem split_at_place {p : Position} {front back : List Token}
    (hfront : ∀ token ∈ front, token.position.isBefore p = true)
    (hback : ∀ token ∈ back, token.position.isBefore p = false) :
    tokensBefore p (front ++ back) = front ∧ tokensFrom p (front ++ back) = back := by
  rw [tokensBefore, tokensFrom, List.takeWhile_append_of_pos hfront,
    List.dropWhile_append_of_pos hfront]
  cases back with
  | nil => exact ⟨List.append_nil front, rfl⟩
  | cons token back =>
    have htoken := hback token List.mem_cons_self
    rw [List.takeWhile_cons_of_neg (by simp [htoken]),
      List.dropWhile_cons_of_neg (by simp [htoken])]
    exact ⟨List.append_nil front, rfl⟩

/-! ### The sign -/

def tokensBeforeSign (before after : List Char) : List Token :=
  tokensBefore (signPlace before after) (readTokens .formula (before ++ '+' :: after))

def tokensFromSign (before after : List Char) : List Token :=
  tokensFrom (signPlace before after) (readTokens .formula (before ++ '+' :: after))

theorem tokensBeforeSign_append (before after : List Char) :
    tokensBeforeSign before after ++ tokensFromSign before after =
      readTokens .formula (before ++ '+' :: after) :=
  List.takeWhile_append_dropWhile

/-- Between these two parts of a text a plus is read and joins nothing. -/
structure UnaryPlus (before after : List Char) : Prop where
  isLexeme : signLexeme '+' (signPlace before after) ∈
    LexemeRules.formula.lexemes (before ++ '+' :: after)
  joinsNothing : endsOperand (tokensBeforeSign before after) = false

/-- The plus stands between the parentheses of a call, and nothing that becomes a token does. -/
def FillsCall (before after : List Char) : Prop :=
  (∃ earlier f n q r, tokensBeforeSign before after =
    earlier ++ [⟨.action (.call f n), q⟩, ⟨.mark .leftParen, r⟩]) ∧
  ∃ q later, tokensFromSign before after = ⟨.mark .rightParen, q⟩ :: later

variable {before after : List Char}

def Lexeme.isReadable (l : Lexeme) : Bool :=
  l.kind != .blank && l.kind != .comment

/-- A sign among the lexemes of a formula is read after the ones before it, and hides from them
those behind it. -/
theorem readTokens_at_sign {text : List Char} {earlier later : List Lexeme} {sign : Char}
    {p : Position} (h : LexemeRules.formula.lexemes text = earlier ++ signLexeme sign p :: later)
    (hsign : sign ≠ '(') :
    readTokens .formula text =
      TokenReading.tokens 0 false (earlier.filter Lexeme.isReadable) ++
        TokenReading.tokens 0
          (endsOperand (TokenReading.tokens 0 false (earlier.filter Lexeme.isReadable)))
          (signLexeme sign p :: later.filter Lexeme.isReadable) := by
  have hskip : LexemeRules.formula.skipEnd = false := rfl
  have hlook : (signLexeme sign p).isLookedFor = false := by
    simp [Lexeme.isLookedFor, Lexeme.isSymbol, signLexeme, hsign]
  rw [(readTokens_eq hskip text).1, LexemeRules.readable, h, List.filter_append,
    List.filter_cons_of_pos rfl, TokenReading.tokens_append hlook (Nat.zero_le _)]
  rfl

theorem readTokens_unary_minus (h : UnaryPlus before after) :
    readTokens .formula (before ++ '-' :: after) =
      tokensBeforeSign before after ++
        ⟨.action (.operator .negate), signPlace before after⟩ :: tokensFromSign before after := by
  obtain ⟨earlier, later, hplus, hminus⟩ := LexemeRules.lexemes_minus h.isLexeme
  have hjoins := h.joinsNothing
  have hsorted := LexemeRules.formula.pairwise_lexemes (before ++ '+' :: after)
  rw [hplus, List.pairwise_append, List.pairwise_cons] at hsorted
  obtain ⟨-, ⟨hlater, -⟩, hearlier⟩ := hsorted
  rw [tokensBeforeSign, readTokens_at_sign hplus (by decide)] at hjoins
  rw [tokensBeforeSign, tokensFromSign, readTokens_at_sign hplus (by decide),
    readTokens_at_sign hminus (by decide)]
  -- the tokens in front of the sign are read from lexemes there, and the others from it on
  have hfront : ∀ token ∈ TokenReading.tokens 0 false (earlier.filter Lexeme.isReadable),
      token.position.isBefore (signPlace before after) = true := by
    intro token htoken
    obtain ⟨l, hl, hposition⟩ := TokenReading.exists_lexeme htoken
    rw [← hposition]
    exact hearlier l (List.mem_of_mem_filter hl) _ List.mem_cons_self
  generalize TokenReading.tokens 0 false (earlier.filter Lexeme.isReadable) = front at *
  have hback : ∀ token ∈ TokenReading.tokens 0 (endsOperand front)
        (signLexeme '+' (signPlace before after) :: later.filter Lexeme.isReadable),
      token.position.isBefore (signPlace before after) = false := by
    intro token htoken
    obtain ⟨l, hl, hposition⟩ := TokenReading.exists_lexeme htoken
    rw [← hposition]
    rcases List.mem_cons.mp hl with rfl | hl
    · exact Position.not_isBefore_self _
    · exact Position.not_isBefore_of_isBefore (hlater l (List.mem_of_mem_filter hl))
  obtain ⟨hbefore, hfrom⟩ := split_at_place hfront hback
  rw [hbefore] at hjoins ⊢
  rw [hfrom, hjoins]
  rfl

/-! ### Parsing both -/

namespace Assembly

theorem run_append_of_no_ending {front : List Token}
    (h : ∀ token ∈ front, token.kind.isEnding = false) (position : Position) (a : Assembly)
    (more : List Token) :
    a.run position (front ++ more) = a.takeAll front >>= fun b => b.run position more := by
  induction front generalizing a with
  | nil => rfl
  | cons token front ih =>
    obtain ⟨htoken, hfront⟩ := List.forall_mem_cons.mp h
    rw [List.cons_append, run_cons, if_neg (by simp [htoken]), takeAll_cons]
    cases a.take token with
    | error e => rfl
    | ok b => exact ih hfront b

/-- Only a parenthesis tells a first argument from any other operand. -/
theorem run_firstArgument (position : Position) (output : List Instruction) (frames : List Frame)
    {tokens : List Token} (h : ∀ q later, tokens ≠ ⟨.mark .rightParen, q⟩ :: later) :
    run position ⟨output, frames, .firstArgument⟩ tokens =
      run position ⟨output, frames, .operand⟩ tokens := by
  cases tokens with
  | nil => rfl
  | cons token later =>
    obtain ⟨kind, q⟩ := token
    have htake : take ⟨output, frames, .firstArgument⟩ ⟨kind, q⟩ =
        take ⟨output, frames, .operand⟩ ⟨kind, q⟩ := by
      cases kind with
      | mark m =>
        cases m with
        | rightParen => exact absurd rfl (h q later)
        | _ => rfl
      | _ => rfl
    rw [run_cons, run_cons, htake]
    rfl

end Assembly

theorem readTokens_ended (text : List Char) :
    ∃ ts, readTokens .formula text = ts ++ [⟨.ending, place text text.length⟩] ∧
      ∀ token ∈ ts, token.kind.isEnding = false := by
  refine ⟨_, readTokens_keepingEnd .formula text true true, ?_⟩
  exact TokenReading.isEnding_of_mem_tokens (LexemeRules.formula.readable_leavingOut text).1

/-- One token more in front of the end does not change where the tokens end. -/
theorem assemble_around {front back ts : List Token} {extra : Token} {p : Position}
    (h : front ++ extra :: back = ts ++ [⟨.ending, p⟩])
    (hts : ∀ token ∈ ts, token.kind.isEnding = false) (hextra : extra.kind.isEnding = false) :
    Program.assemble (front ++ back) =
        (Assembly.start.takeAll front >>= fun a => a.run p back) ∧
      Program.assemble (front ++ extra :: back) =
        (Assembly.start.takeAll front >>= fun a => a.run p (extra :: back)) := by
  obtain rfl | ⟨more, last, rfl⟩ := List.eq_nil_or_concat back
  · have hlast := (List.append_inj' h rfl).2
    rw [(List.cons.inj hlast).1] at hextra
    cases hextra
  · simp only [List.concat_eq_append] at h ⊢
    rw [← List.cons_append, ← List.append_assoc] at h
    obtain ⟨rfl, hlast⟩ := List.append_inj' h rfl
    obtain rfl := (List.cons.inj hlast).1
    have hfront : ∀ token ∈ front, token.kind.isEnding = false :=
      fun token htoken => hts token (List.mem_append_left _ htoken)
    have hend (earlier : List Token) : (endAfter ((earlier ++ (more ++
        [(⟨.ending, p⟩ : Token)])).map Token.position)).position = p := by
      simp [endAfter]
    constructor
    · rw [Program.assemble, hend, Assembly.run_append_of_no_ending hfront]
    · rw [Program.assemble, List.append_cons, hend, ← List.append_cons,
        Assembly.run_append_of_no_ending hfront]

/-- Where a sign joins nothing, an operand comes next, and only the first one of a call may be
missing. -/
theorem awaiting_at_sign (h : UnaryPlus before after) {a : Assembly}
    (ha : Assembly.start.takeAll (tokensBeforeSign before after) = .ok a) :
    a.awaiting = .operand ∨ a.awaiting = .firstArgument ∧
      ∃ earlier f n q r, tokensBeforeSign before after =
        earlier ++ [⟨.action (.call f n), q⟩, ⟨.mark .leftParen, r⟩] := by
  have hskip : LexemeRules.formula.skipEnd = false := rfl
  have hminus := readTokens_unary_minus h
  have hjoins := h.joinsNothing
  generalize tokensBeforeSign before after = front at *
  have hreached := reached_of_takeAll ha
  rw [hreached.endsOperand] at hjoins
  cases hreached with
  | operand => exact .inl rfl
  | parenOf f n p hbegun =>
    have hkind := kind_of_parenOf hskip hminus ha rfl
    cases hkind
  | firstArgument f n p q hbegun => exact .inr ⟨rfl, _, f, n, p, q, rfl⟩
  | operator => cases hjoins

/-- A sign that negates waits on the frames for its operand. -/
theorem Assembly.run_negate {a : Assembly}
    (h : a.awaiting = .operand ∨ a.awaiting = .firstArgument) (position p : Position)
    (later : List Token) :
    a.run position (⟨.action (.operator .negate), p⟩ :: later) =
      run position ⟨a.output, negationFrame p :: a.frames, .operand⟩ later := by
  obtain ⟨output, frames, awaiting⟩ := a
  obtain rfl | rfl : awaiting = .operand ∨ awaiting = .firstArgument := h
  · rfl
  · rfl

/-- A plus that joins nothing is parsed as a minus in its place is, but for the negation, and where
one is refused so is the other, with the same error. Only where it is all there is between the
parentheses of a call a minus is refused. -/
theorem unary_plus_as_minus (h : UnaryPlus before after) :
    (¬FillsCall before after →
      Gains (negation (signPlace before after))
        (Program.parse (String.ofList (before ++ '+' :: after)))
        (Program.parse (String.ofList (before ++ '-' :: after)))) ∧
    (FillsCall before after →
      ∃ e, Program.parse (String.ofList (before ++ '-' :: after)) = .error e) := by
  have hminus := readTokens_unary_minus h
  obtain ⟨ts, hended, hts⟩ := readTokens_ended (before ++ '-' :: after)
  obtain ⟨hparsePlus, hparseMinus⟩ := assemble_around (hminus.symm.trans hended) hts rfl
  have hawaiting := fun a => @awaiting_at_sign before after h a
  rw [← hminus] at hparseMinus
  rw [tokensBeforeSign_append] at hparsePlus
  simp only [Program.parse, String.toList_ofList, FillsCall]
  rw [hparsePlus, hparseMinus]
  generalize tokensBeforeSign before after = front at *
  generalize tokensFromSign before after = back at *
  cases ha : Assembly.start.takeAll front with
  | error e => exact ⟨fun _ => .refused e, fun _ => ⟨e, rfl⟩⟩
  | ok a =>
    have hsign := hawaiting a ha
    rw [ok_bind, ok_bind, Assembly.run_negate (hsign.imp_right And.left)]
    obtain ⟨output, frames, awaiting⟩ := a
    -- the negation waits alone, with nothing above it yet
    have hlags : Lags (signPlace before after) ⟨output, frames, .operand⟩
        ⟨output, negationFrame (signPlace before after) :: frames, .operand⟩ :=
      .waiting [] frames output .operand fun h => absurd h Awaiting.operand_ne_firstArgument
    constructor
    · intro hfills
      obtain rfl | ⟨rfl, hcall⟩ := hsign
      · exact hlags.run _ back
      · have hparen : ∀ q later, back ≠ ⟨.mark .rightParen, q⟩ :: later := by
          rintro q later rfl
          exact hfills ⟨hcall, q, later, rfl⟩
        rw [Assembly.run_firstArgument _ output frames hparen]
        exact hlags.run _ back
    · rintro ⟨-, q, later, rfl⟩
      exact ⟨_, rfl⟩

theorem unary_plus_in_power_and_call :
    (UnaryPlus ['2', '^'] ['x'] ∧ ¬FillsCall ['2', '^'] ['x'] ∧
      Gains (negation ⟨1, 3⟩) (Program.parse "2^+x") (Program.parse "2^-x")) ∧
    (UnaryPlus ['P', 'I', '('] [')'] ∧ FillsCall ['P', 'I', '('] [')'] ∧
      ∃ e, Program.parse "PI(-)" = .error e) := by
  have hpower : UnaryPlus ['2', '^'] ['x'] := ⟨by decide, by decide⟩
  have hcall : UnaryPlus ['P', 'I', '('] [')'] := ⟨by decide, by decide⟩
  have hnot : ¬FillsCall ['2', '^'] ['x'] := by
    rintro ⟨-, q, later, h⟩
    cases h
  have hfills : FillsCall ['P', 'I', '('] [')'] := ⟨⟨[], "PI", 0, _, _, rfl⟩, _, _, rfl⟩
  exact ⟨⟨hpower, hnot, (unary_plus_as_minus hpower).1 hnot⟩,
    hcall, hfills, (unary_plus_as_minus hcall).2 hfills⟩

/-- A plus may fill the parentheses of a call, and a minus may not. -/
theorem plus_fills_call :
    ¬∀ before after, UnaryPlus before after →
      ((∃ program, Program.parse (String.ofList (before ++ '+' :: after)) = .ok program) ↔
        ∃ program, Program.parse (String.ofList (before ++ '-' :: after)) = .ok program) := by
  intro h
  have hplus : UnaryPlus ['P', 'I', '('] [')'] := ⟨by decide, by decide⟩
  obtain ⟨program, hminus⟩ := (h _ _ hplus).mp ⟨_, rfl⟩
  cases hminus

end Reckon
