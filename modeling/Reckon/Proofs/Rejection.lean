import Mathlib.Data.List.TakeWhile
import Reckon.Proofs.Acceptance
import Reckon.Proofs.OpenGroups

/-!
# Where and why assembling stops

Whatever tokens have been taken can go on to a whole expression: what is open can be closed. So the
token that assembling stops at is the first one that no expression goes on with, and what is wrong
with it depends on what is awaited there and on the innermost open group.
-/

namespace Reckon

/-! ### Going on to an expression -/

theorem Closable.of_indexed {frames : List Frame} {us : List Token} {t : Term}
    (h : Parses .indexed us t) : Closable frames us t :=
  .inl (.signed _ _ (.indexed h))

/-- With an operand behind it, what has begun can be ended by closers, and by a constant for each
choice that lacks its last part. -/
theorem Begun.completes {ts us : List Token} {frames : List Frame} {output : List Instruction}
    {t : Term} (hb : Begun ts frames output) (ht : Closable frames us t) :
    ∃ rest u, Parses .expression (ts ++ us ++ rest) u := by
  induction hb generalizing us t with
  | start => exact ⟨[], t, by simpa using ht.expression rfl⟩
  | sign p ho hb ih =>
    have hne : operandLevel signBinding ≠ 0 := by decide
    have hsigned : Parses .signed us t := (ht.chain hne).signed_of_chain (Nat.le_refl _)
    obtain ⟨rest, u, h⟩ := ih (.inl (.signed _ _ (.sign p (arity_of_sign ho) ho hsigned)))
    exact ⟨rest, u, by simpa using h⟩
  | @join _ _ _ _ _ _ binding p hbind hleast hb ha ih =>
    have hne : operandLevel binding ≠ 0 := by
      unfold operandLevel
      split <;> omega
    obtain ⟨rest, u, h⟩ := ih (.inl
      (Parses.join p (arity_of_binding? hbind) hbind hleast (Nat.zero_le _) ha (ht.chain hne)))
    exact ⟨rest, u, by simpa using h⟩
  | paren p hb ih =>
    obtain ⟨rest, u, h⟩ := ih (.of_indexed (.primary (.group p .start (ht.expression rfl))))
    exact ⟨⟨.mark .rightParen, .start⟩ :: rest, u, by simpa using h⟩
  | call f n p q hb ih =>
    obtain ⟨rest, u, h⟩ :=
      ih (.of_indexed (.primary (.call .start (.firstArgument f n p q (ht.expression rfl)))))
    exact ⟨⟨.mark .rightParen, .start⟩ :: rest, u, by simpa using h⟩
  | comma q hb hcall ih =>
    obtain ⟨rest, u, h⟩ :=
      ih (.of_indexed (.primary (.call .start (.nextArgument q hcall (ht.expression rfl)))))
    exact ⟨⟨.mark .rightParen, .start⟩ :: rest, u, by simpa using h⟩
  | bracket p hb ha ih =>
    obtain ⟨rest, u, h⟩ := ih (.of_indexed (.element p .start ha (ht.expression rfl)))
    exact ⟨⟨.mark .rightBracket, .start⟩ :: rest, u, by simpa using h⟩
  | question p hf hb hc ih =>
    have hnull : Parses .expression [⟨.action (.constant .null), .start⟩] (.constant .null .start) :=
      .chain (.signed _ _ (.indexed (.primary (.constant .null .start))))
    obtain ⟨rest, u, h⟩ := ih (.inr ⟨hf, .choice p .start hc (ht.expression rfl) hnull⟩)
    exact ⟨⟨.mark .colon, .start⟩ :: ⟨.action (.constant .null), .start⟩ :: rest, u,
      by simpa using h⟩
  | colon p q hf hb hc ha ih =>
    obtain ⟨rest, u, h⟩ := ih (.inr ⟨hf, .choice p q hc ha (ht.expression rfl)⟩)
    exact ⟨rest, u, by simpa using h⟩

theorem Reached.completes {ts : List Token} {a : Assembly} (h : Reached ts a) :
    ∃ rest u, Parses .expression (ts ++ rest) u := by
  cases h with
  | operand hb =>
    obtain ⟨rest, u, h⟩ := hb.completes (.of_indexed (.primary (.constant .null .start)))
    exact ⟨⟨.action (.constant .null), .start⟩ :: rest, u, by simpa using h⟩
  | parenOf f n p hb =>
    obtain ⟨rest, u, h⟩ :=
      hb.completes (.of_indexed (.primary (.emptyCall f n p .start .start)))
    exact ⟨⟨.mark .leftParen, .start⟩ :: ⟨.mark .rightParen, .start⟩ :: rest, u, by simpa using h⟩
  | firstArgument f n p q hb =>
    obtain ⟨rest, u, h⟩ := hb.completes (.of_indexed (.primary (.emptyCall f n p q .start)))
    exact ⟨⟨.mark .rightParen, .start⟩ :: rest, u, by simpa using h⟩
  | operator hchain =>
    obtain ⟨hb, hp⟩ := hchain 0
    obtain ⟨rest, u, h⟩ := hb.completes (.inl hp)
    exact ⟨rest, u, h⟩

/-- There is no end within a phrase. -/
theorem Parses.beforeEnding_eq {phrase : Phrase} {ts : List Token} {t : Term}
    (h : Parses phrase ts t) : beforeEnding ts = ts := by
  have hall : ∀ token ∈ ts, token.kind.isEnding = false := by
    induction h <;> simp_all [TokenKind.isEnding, or_imp]
  exact List.takeWhile_eq_self_iff.mpr fun token ht => by rw [hall token ht]; rfl

/-- Some list of tokens that begins with these is assembled. -/
def Viable (tokens : List Token) : Prop :=
  ∃ rest program, Program.assemble (tokens ++ rest) = .ok program

theorem Viable.of_isPrefix {ts us : List Token} (h : Viable us) (hp : ts <+: us) : Viable ts := by
  obtain ⟨more, rfl⟩ := hp
  obtain ⟨rest, program, ha⟩ := h
  exact ⟨more ++ rest, program, by rwa [← List.append_assoc]⟩

theorem viable_of_takeAll {ts : List Token} {a : Assembly}
    (h : Assembly.start.takeAll ts = .ok a) : Viable ts := by
  obtain ⟨rest, u, hu⟩ := (reached_of_takeAll h).completes
  have hbefore := hu.beforeEnding_eq
  rw [← hbefore] at hu
  exact ⟨rest, ⟨u.postorder⟩, assemble_of_parses hu⟩

/-! ### The token that stops an assembly -/

/-- The tokens, ended by `ending` if they have no end of their own. -/
def withEnding (ending : Token) (tokens : List Token) : List Token :=
  if tokens.any fun token => token.kind.isEnding then tokens else tokens ++ [ending]

theorem withEnding_cons (ending : Token) {token : Token} (rest : List Token)
    (h : token.kind.isEnding = false) :
    withEnding ending (token :: rest) = token :: withEnding ending rest := by
  simp only [withEnding, List.any_cons, h, Bool.false_or]
  split <;> rfl

namespace Assembly

def StopsAt (a : Assembly) (token : Token) (e : SyntaxError) : Prop :=
  if token.kind.isEnding then a.finish token.position = .error e else a.take token = .error e

theorem stopsAt_of_run {ending : Token} (hend : ending.kind.isEnding = true) {a : Assembly}
    {tokens : List Token} {e : SyntaxError} (h : a.run ending.position tokens = .error e) :
    ∃ before token after b, withEnding ending tokens = before ++ token :: after ∧
      a.takeAll before = .ok b ∧ b.StopsAt token e := by
  induction tokens generalizing a with
  | nil => exact ⟨[], ending, [], a, rfl, rfl, by rwa [StopsAt, if_pos hend]⟩
  | cons token rest ih =>
    rw [run_cons] at h
    by_cases hk : token.kind.isEnding
    · rw [if_pos hk] at h
      refine ⟨[], token, rest, a, ?_, rfl, by rwa [StopsAt, if_pos hk]⟩
      simp [withEnding, hk]
    · rw [if_neg hk] at h
      rw [Bool.not_eq_true] at hk
      rw [withEnding_cons ending rest hk]
      rcases bind_eq_error.mp h with ht | ⟨b, hb, h⟩
      · exact ⟨[], token, _, a, rfl, rfl, by simpa [StopsAt, hk] using ht⟩
      · obtain ⟨before, stop, after, c, hsplit, hc, hs⟩ := ih h
        refine ⟨token :: before, stop, after, c, by rw [hsplit]; rfl, ?_, hs⟩
        rw [takeAll_cons, hb, ok_bind, hc]

theorem isEnding_of_take {a b : Assembly} {token : Token} (h : a.take token = .ok b) :
    token.kind.isEnding = false := by
  obtain ⟨kind, p⟩ := token
  cases kind with
  | ending =>
    obtain ⟨output, frames, awaiting⟩ := a
    cases awaiting <;> cases h
  | _ => rfl

theorem run_append {position : Position} {a b : Assembly} {before : List Token}
    (more : List Token) (h : a.takeAll before = .ok b) :
    a.run position (before ++ more) = b.run position more := by
  induction before generalizing a with
  | nil =>
    cases h
    rfl
  | cons token before ih =>
    rw [takeAll_cons] at h
    obtain ⟨c, hc, hb⟩ := bind_eq_ok.mp h
    rw [List.cons_append, run_cons, isEnding_of_take hc, hc, ok_bind]
    exact ih hb

theorem StopsAt.run {position : Position} {a : Assembly} {token : Token} {e : SyntaxError}
    (h : a.StopsAt token e) (rest : List Token) : a.run position (token :: rest) = .error e := by
  rw [run_cons]
  unfold StopsAt at h
  split at h
  · rwa [if_pos ‹_›]
  · rw [if_neg ‹_›, h, error_bind]

end Assembly

theorem not_viable_of_stopsAt {before : List Token} {token : Token} {a : Assembly} {e : SyntaxError}
    (ha : Assembly.start.takeAll before = .ok a) (h : a.StopsAt token e) :
    ¬Viable (before ++ [token]) := by
  rintro ⟨rest, program, hp⟩
  rw [Program.assemble, List.append_assoc, Assembly.run_append _ ha, List.singleton_append,
    h.run] at hp
  cases hp

/-! ### What is wrong with it -/

namespace Assembly

def refusal (a : Assembly) (kind : TokenKind) : SyntaxFault :=
  match a.awaiting with
  | .operand | .firstArgument => unexpected kind
  | .parenOf function _ => .expectedParen function
  | .operator _ => unclosed (closeLevel a.frames a.output).1 kind

theorem takeOperand_eq_error {a : Assembly} {token : Token} {e : SyntaxError}
    (h : a.takeOperand token = .error e) : e = ⟨unexpected token.kind, token.position⟩ := by
  unfold takeOperand at h
  split at h
  case h_3 op hkind =>
    split at h
    · cases h
    · exact (Except.error.inj h).symm
  case h_6 hkind => exact (Except.error.inj h).symm
  all_goals cases h

theorem closing_eq_error {a : Assembly} {token : Token} {e : SyntaxError}
    {close : List Frame → List Instruction → Option Assembly}
    (h : a.closing token close = .error e) :
    e = ⟨unclosed (closeLevel a.frames a.output).1 token.kind, token.position⟩ := by
  simp only [closing] at h
  split at h
  · cases h
  · exact (Except.error.inj h).symm

theorem takeOperator_eq_error {a : Assembly} {indexable : Bool} {token : Token} {e : SyntaxError}
    (h : a.takeOperator indexable token = .error e) :
    e = ⟨unclosed (closeLevel a.frames a.output).1 token.kind, token.position⟩ := by
  unfold takeOperator at h
  split at h
  case h_1 op hkind =>
    split at h
    · cases h
    · split at h
      · cases h
      · exact closing_eq_error h
  case h_2 hkind =>
    split at h
    · cases h
    · exact closing_eq_error h
  case h_3 hkind => cases h
  all_goals exact closing_eq_error h

theorem take_eq_error {a : Assembly} {token : Token} {e : SyntaxError}
    (h : a.take token = .error e) : e = ⟨a.refusal token.kind, token.position⟩ := by
  obtain ⟨output, frames, awaiting⟩ := a
  cases awaiting with
  | operand => exact takeOperand_eq_error h
  | parenOf f p =>
    simp only [take, takeParen] at h
    split at h
    · cases h
    · exact (Except.error.inj h).symm
  | firstArgument =>
    simp only [take, takeFirstArgument] at h
    split at h
    · cases h
    · exact takeOperand_eq_error h
  | operator indexable => exact takeOperator_eq_error h

theorem finish_eq_error {a : Assembly} {p : Position} {e : SyntaxError}
    (h : a.finish p = .error e) : e = ⟨a.refusal .ending, p⟩ := by
  obtain ⟨output, frames, awaiting⟩ := a
  cases awaiting with
  | operator indexable =>
    simp only [finish] at h
    split at h
    · cases h
    · exact (Except.error.inj h).symm
  | _ => exact (Except.error.inj h).symm

theorem StopsAt.eq {a : Assembly} {token : Token} {e : SyntaxError} (h : a.StopsAt token e) :
    e = ⟨a.refusal token.kind, token.position⟩ := by
  obtain ⟨kind, p⟩ := token
  cases kind with
  | ending => exact finish_eq_error h
  | _ => exact take_eq_error h

end Assembly

/-- The code of a fault by what is awaited, the open groups and the token found there. -/
def refusalCode (awaiting : Awaiting) (groups : List OpenGroup) (kind : TokenKind) : String :=
  match awaiting with
  | .operand | .firstArgument => if kind.isEnding then "UNEXPECTED_END" else "ERROR_NEAR"
  | .parenOf _ _ => "ERROR_AT"
  | .operator _ =>
    match groups with
    | .paren :: _ => "MISSED_CLOSE_PARENTHESIS"
    | .bracket :: _ => "MISSED_CLOSE_SQUARE_BRACKET"
    | .choice :: _ => "ERROR_AT"
    | [] => "ERROR_NEAR"

theorem unexpected_code {kind : TokenKind} (h : ∀ text, kind ≠ .unknown text) :
    (unexpected kind).code = if kind.isEnding then "UNEXPECTED_END" else "ERROR_NEAR" := by
  cases kind with
  | unknown text => exact absurd rfl (h text)
  | _ => rfl

/-- What closing a level stops at is the innermost open group. -/
theorem unclosed_closeLevel (frames : List Frame) (output : List Instruction) (kind : TokenKind) :
    (frames.filterMap Frame.group? = [] ∧ (closeLevel frames output).1 = []) ∨
    ∃ group groups, frames.filterMap Frame.group? = group :: groups ∧
      (unclosed (closeLevel frames output).1 kind).code =
        refusalCode (.operator true) (group :: groups) kind := by
  fun_induction closeLevel frames output with
  | case1 op p binding rest output ih => exact ih
  | case2 p rest output ih => exact ih
  | case3 frames output hop hcolon =>
    cases frames with
    | nil => exact .inl ⟨rfl, rfl⟩
    | cons frame rest =>
      cases frame with
      | operator op p binding => exact absurd rfl (hop op p binding rest)
      | colon p => exact absurd rfl (hcolon p rest)
      | _ => exact .inr ⟨_, _, rfl, rfl⟩

theorem Assembly.StopsAt.code {a : Assembly} {token : Token} {e : SyntaxError}
    (h : a.StopsAt token e) (hkind : ∀ text, token.kind ≠ .unknown text) :
    (a.refusal token.kind).code =
      refusalCode a.awaiting (a.frames.filterMap Frame.group?) token.kind := by
  obtain ⟨output, frames, awaiting⟩ := a
  cases awaiting with
  | operand | firstArgument => exact unexpected_code hkind
  | parenOf f p => rfl
  | operator indexable =>
    rcases unclosed_closeLevel frames output token.kind with
      ⟨hgroups, hframes⟩ | ⟨group, groups, hgroups, hcode⟩
    · have hend : token.kind.isEnding = false := by
        -- with nothing open the tokens may end
        by_contra hend
        rw [Bool.not_eq_false] at hend
        rw [StopsAt, if_pos hend] at h
        simp only [finish, hframes, List.isEmpty_nil, if_true] at h
        cases h
      simp only [refusal, hframes, hgroups, unclosed, refusalCode, unexpected_code hkind, hend]
      rfl
    · simp only [refusal, hgroups, hcode, refusalCode]

structure FirstRefused (tokens before : List Token) (token : Token) : Prop where
  among : before ++ [token] <+: tokens
  viable : ∀ ts, ts <+: before → Viable ts
  refused : ¬Viable (before ++ [token])

/-- An error stands at the first token that no expression goes on with. Its code tells what is
awaited there and, where that is an operator, which group is the innermost open one. -/
theorem error_at_first_refused {tokens : List Token} {e : SyntaxError}
    (h : Program.assemble tokens = .error e) :
    ∃ before token a,
      FirstRefused (withEnding (endAfter (tokens.map Token.position)) tokens) before token ∧
      Assembly.start.takeAll before = .ok a ∧ e.position = token.position ∧
      ((∀ text, token.kind ≠ .unknown text) →
        e.fault.code = refusalCode a.awaiting (openGroups before) token.kind) := by
  obtain ⟨before, token, after, a, hsplit, ha, hstops⟩ := Assembly.stopsAt_of_run rfl h
  have hgroups : openGroups before = a.frames.filterMap Frame.group? :=
    (reached_of_takeAll ha).openGroups
  refine ⟨before, token, a, ⟨?_, fun ts => (viable_of_takeAll ha).of_isPrefix, ?_⟩, ha, ?_, ?_⟩
  · exact ⟨after, by rw [hsplit, List.append_assoc, List.singleton_append]⟩
  · exact not_viable_of_stopsAt ha hstops
  · rw [hstops.eq]
  · intro hkind
    rw [hstops.eq, hgroups]
    exact hstops.code hkind

theorem first_refused_of_wrong_closer :
    ∃ before token a,
      FirstRefused [⟨.mark .leftParen, ⟨1, 1⟩⟩, ⟨.action (.constant .null), ⟨1, 2⟩⟩,
        ⟨.mark .rightBracket, ⟨1, 3⟩⟩, ⟨.ending, ⟨1, 3⟩⟩] before token ∧
      Assembly.start.takeAll before = .ok a ∧ ⟨1, 3⟩ = token.position ∧
      ((∀ text, token.kind ≠ .unknown text) →
        "MISSED_CLOSE_PARENTHESIS" =
          refusalCode a.awaiting (openGroups before) token.kind) := by
  have h : Program.assemble [⟨.mark .leftParen, ⟨1, 1⟩⟩, ⟨.action (.constant .null), ⟨1, 2⟩⟩,
      ⟨.mark .rightBracket, ⟨1, 3⟩⟩] = .error ⟨.unclosedParen, ⟨1, 3⟩⟩ := rfl
  exact error_at_first_refused h

end Reckon
