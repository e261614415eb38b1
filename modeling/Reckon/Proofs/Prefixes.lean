import Reckon.Proofs.Frames

/-!
# What a prefix of a formula has begun

Whatever tokens assembling has taken, the frames and the output say of which phrases they are the
beginning: below every frame stands a prefix that awaits an operand, and between it and the frame
the complete phrases the frame keeps. Applying what waits on the frames joins phrases to longer
ones.
-/

namespace Reckon

inductive Begun : List Token → List Frame → List Instruction → Prop where
  | start : Begun [] [] []
  | sign {ts : List Token} {frames : List Frame} {output : List Instruction} {op : Operator}
      (p : Position) :
      op = .negate ∨ op = .not → Begun ts frames output →
      Begun (ts ++ [⟨.action (.operator op), p⟩]) (.operator op p signBinding :: frames) output
  | join {ts us : List Token} {frames : List Frame} {output : List Instruction} {a : Term}
      {op : Operator} {binding : Nat} (p : Position) :
      binding? op = some binding → leastFor frames ≤ binding → Begun ts frames output →
      Parses (.chain (leastFor frames) (yieldsTo op binding)) us a →
      Begun (ts ++ us ++ [⟨.action (.operator op), p⟩]) (.operator op p binding :: frames)
        (a.postorder.reverse ++ output)
  | paren {ts : List Token} {frames : List Frame} {output : List Instruction} (p : Position) :
      Begun ts frames output → Begun (ts ++ [⟨.mark .leftParen, p⟩]) (.paren :: frames) output
  | call {ts : List Token} {frames : List Frame} {output : List Instruction} (f : String) (n : Nat)
      (p q : Position) :
      Begun ts frames output →
      Begun (ts ++ [⟨.action (.call f n), p⟩, ⟨.mark .leftParen, q⟩]) (.call f p 0 :: frames) output
  | comma {ts us : List Token} {frames : List Frame} {output : List Instruction} {f : String}
      {p : Position} {args : List Term} (q : Position) :
      Begun ts frames output → Parses .openCall us (.call f p args) →
      Begun (ts ++ us ++ [⟨.mark .comma, q⟩]) (.call f p args.length :: frames)
        ((Term.postorderAll args).reverse ++ output)
  | bracket {ts us : List Token} {frames : List Frame} {output : List Instruction} {a : Term}
      (p : Position) :
      Begun ts frames output → Parses .indexed us a →
      Begun (ts ++ us ++ [⟨.mark .leftBracket, p⟩]) (.bracket p :: frames)
        (a.postorder.reverse ++ output)
  | question {ts us : List Token} {frames : List Frame} {output : List Instruction} {c : Term}
      (p : Position) :
      leastFor frames = 0 → Begun ts frames output → Parses (.chain 0 0) us c →
      Begun (ts ++ us ++ [⟨.mark .question, p⟩]) (.question p :: frames)
        (c.postorder.reverse ++ output)
  | colon {ts us vs : List Token} {frames : List Frame} {output : List Instruction} {c a : Term}
      (p q : Position) :
      leastFor frames = 0 → Begun ts frames output → Parses (.chain 0 0) us c →
      Parses .expression vs a →
      Begun (ts ++ us ++ ⟨.mark .question, p⟩ :: vs ++ [⟨.mark .colon, q⟩]) (.colon p :: frames)
        (a.postorder.reverse ++ (c.postorder.reverse ++ output))

inductive Ended (phrase : Phrase) : List Token → List Frame → List Instruction → Prop where
  | intro {ts us : List Token} {frames : List Frame} {output : List Instruction} {t : Term} :
      Begun ts frames output → Parses phrase us t →
      Ended phrase (ts ++ us) frames (t.postorder.reverse ++ output)

inductive Reached : List Token → Assembly → Prop where
  | operand {ts : List Token} {frames : List Frame} {output : List Instruction} :
      Begun ts frames output → Reached ts ⟨output, frames, .operand⟩
  | parenOf {ts : List Token} {frames : List Frame} {output : List Instruction} (f : String)
      (n : Nat) (p : Position) :
      Begun ts frames output →
      Reached (ts ++ [⟨.action (.call f n), p⟩]) ⟨output, frames, .parenOf f p⟩
  | firstArgument {ts : List Token} {frames : List Frame} {output : List Instruction} (f : String)
      (n : Nat) (p q : Position) :
      Begun ts frames output →
      Reached (ts ++ [⟨.action (.call f n), p⟩, ⟨.mark .leftParen, q⟩])
        ⟨output, .call f p 0 :: frames, .firstArgument⟩
  | operator {ts : List Token} {frames : List Frame} {output : List Instruction}
      {indexable : Bool} :
      (∀ level, Ended (.chain (leastFor frames) level) ts frames output) →
      (indexable = true → Ended .indexed ts frames output) →
      Reached ts ⟨output, frames, .operator indexable⟩

/-! ### Applying what waits -/

/-- The latest frame does not wait with an operator that binds so tightly. -/
def Stops (least : Nat) (frames : List Frame) : Prop :=
  ∀ op p binding rest, frames = .operator op p binding :: rest → binding < least

theorem leastFor_le_of_stops {op : Operator} {binding : Nat} {frames : List Frame}
    (hb : binding? op = some binding) (h : Stops (yieldsTo op binding) frames) :
    leastFor frames ≤ binding := by
  unfold leastFor
  split
  · exact (operandLevel_le_iff hb _).mpr (h _ _ _ _ rfl)
  · exact Nat.zero_le _

theorem leastFor_le_of_stops_equality {frames : List Frame} (h : Stops equalityBinding frames) :
    leastFor frames ≤ 4 := by
  unfold leastFor
  split
  · have hlt := h _ _ _ _ rfl
    simp only [operandLevel, equalityBinding] at hlt ⊢
    split <;> omega
  · exact Nat.zero_le _

theorem leastFor_eq_of_stops_zero {frames : List Frame} (h : Stops 0 frames) :
    leastFor frames = 0 := by
  unfold leastFor
  split
  · exact absurd (h _ _ _ _ rfl) (Nat.not_lt_zero _)
  · rfl

theorem Ended.applyOperators {ts : List Token} {frames frames' : List Frame}
    {output output' : List Instruction} {least : Nat} (hl : least ≤ signBinding)
    (h : Ended (.chain (leastFor frames) least) ts frames output)
    (happ : applyOperators least frames output = (frames', output')) :
    Ended (.chain (leastFor frames') least) ts frames' output' ∧ Stops least frames' := by
  obtain @⟨ts, us, _, output, t, hb, ht⟩ := h
  induction hb generalizing us t with
  | @sign ts frames output op p ho hb ih =>
    have hn : ¬ signBinding < least := by omega
    have hsigned : Parses .signed us t := ht.signed_of_chain (Nat.le_refl _)
    rw [Reckon.applyOperators, if_neg hn] at happ
    have hnext := ih (.signed _ _ (.sign p (arity_of_sign ho) ho hsigned))
      (by simpa [Term.postorder] using happ)
    simpa using hnext
  | @join ts vs frames output a op binding p hbind hleast hb ha ih =>
    by_cases hn : binding < least
    · rw [Reckon.applyOperators, if_pos hn] at happ
      cases happ
      refine ⟨.intro (.join p hbind hleast hb ha) ht, ?_⟩
      intro op' p' binding' rest heq
      cases heq
      exact hn
    · rw [Reckon.applyOperators, if_neg hn] at happ
      have hchain := Parses.join p (arity_of_binding? hbind) hbind hleast (Nat.not_lt.mp hn) ha
        (ht.chain_mono (Nat.zero_le _))
      have hnext := ih hchain (by simpa [Term.postorder] using happ)
      simpa using hnext
  | start | paren | call | comma | bracket | question | colon =>
    cases happ
    refine ⟨.intro (by constructor <;> assumption) ht, ?_⟩
    intro op' p' binding' rest heq
    cases heq

theorem Ended.exists_applied {ts : List Token} {frames : List Frame} {output : List Instruction}
    {least : Nat} (hl : least ≤ signBinding)
    (h : Ended (.chain (leastFor frames) least) ts frames output) :
    ∃ frames' output', Reckon.applyOperators least frames output = (frames', output') ∧
      Ended (.chain (leastFor frames') least) ts frames' output' ∧ Stops least frames' :=
  ⟨_, _, rfl, h.applyOperators hl rfl⟩

/-- Where nothing waits with an operator, an operand that is complete is an expression. -/
def Closable (frames : List Frame) (us : List Token) (t : Term) : Prop :=
  Parses (.chain (leastFor frames) 0) us t ∨ leastFor frames = 0 ∧ Parses .expression us t

theorem Closable.expression {frames : List Frame} {us : List Token} {t : Term}
    (h : Closable frames us t) (hf : leastFor frames = 0) : Parses .expression us t := by
  rcases h with h | ⟨-, h⟩
  · rw [hf] at h
    exact .chain h
  · exact h

theorem Closable.chain {frames : List Frame} {us : List Token} {t : Term}
    (h : Closable frames us t) (hf : leastFor frames ≠ 0) :
    Parses (.chain (leastFor frames) 0) us t := by
  rcases h with h | ⟨h, -⟩
  · exact h
  · exact absurd h hf

theorem Begun.closeLevel {ts us : List Token} {frames frames' : List Frame}
    {output output' : List Instruction} {t : Term} (hb : Begun ts frames output)
    (ht : Closable frames us t)
    (hc : closeLevel frames (t.postorder.reverse ++ output) = (frames', output')) :
    Ended .expression (ts ++ us) frames' output' := by
  induction hb generalizing us t with
  | @sign ts frames output op p ho hb ih =>
    have hne : operandLevel signBinding ≠ 0 := by decide
    have hsigned : Parses .signed us t := (ht.chain hne).signed_of_chain (Nat.le_refl _)
    have hnext := ih (.inl (.signed _ _ (.sign p (arity_of_sign ho) ho hsigned)))
      (by simpa [Reckon.closeLevel, Term.postorder] using hc)
    simpa using hnext
  | @join ts vs frames output a op binding p hbind hleast hb ha ih =>
    have hne : operandLevel binding ≠ 0 := by
      unfold operandLevel
      split <;> omega
    have hchain := Parses.join p (arity_of_binding? hbind) hbind hleast (Nat.zero_le _) ha
      (ht.chain hne)
    have hnext := ih (.inl hchain) (by simpa [Reckon.closeLevel, Term.postorder] using hc)
    simpa using hnext
  | @colon ts vs ws frames output c a p q hf hb hcond ha ih =>
    have hchoice := Parses.choice p q hcond ha (ht.expression rfl)
    have hnext := ih (.inr ⟨hf, hchoice⟩)
      (by simpa [Reckon.closeLevel, Term.postorder] using hc)
    simpa using hnext
  | start | paren | call | comma | bracket | question =>
    cases hc
    exact .intro (by constructor <;> assumption) (ht.expression rfl)

theorem Ended.closeLevel {ts : List Token} {frames frames' : List Frame}
    {output output' : List Instruction}
    (h : Ended (.chain (leastFor frames) 0) ts frames output)
    (hc : closeLevel frames output = (frames', output')) :
    Ended .expression ts frames' output' := by
  obtain ⟨hb, ht⟩ := h
  exact hb.closeLevel (.inl ht) hc

/-! ### Taking one token -/

/-- An expression in an open call is its latest argument. -/
theorem Ended.argument {ts : List Token} {f : String} {p : Position} {n : Nat}
    {frames : List Frame} {output : List Instruction}
    (h : Ended .expression ts (.call f p n :: frames) output) :
    ∃ us vs args settled, ts = us ++ vs ∧ output = (Term.postorderAll args).reverse ++ settled ∧
      args.length = n + 1 ∧ Begun us frames settled ∧ Parses .openCall vs (.call f p args) := by
  obtain @⟨ts, us, _, output, t, hb, ht⟩ := h
  cases hb with
  | @call ts _ _ f n p q hb =>
    refine ⟨ts, _, [t], output, List.append_assoc .., ?_, rfl, hb, .firstArgument f n p q ht⟩
    simp [Term.postorderAll]
  | @comma ts vs _ output f p args q hb hcall =>
    refine ⟨ts, vs ++ ⟨.mark .comma, q⟩ :: us, args ++ [t], output, by simp, ?_, by simp, hb,
      .nextArgument q hcall ht⟩
    simp [Term.postorderAll_concat]

theorem Reached.indexed {ts : List Token} {frames : List Frame} {output : List Instruction}
    (h : Ended .indexed ts frames output) : Reached ts ⟨output, frames, .operator true⟩ := by
  refine .operator (fun level => ?_) (fun _ => h)
  obtain ⟨hb, ht⟩ := h
  exact .intro hb (.signed _ _ (.indexed ht))

theorem Begun.takeOperand {ts : List Token} {frames : List Frame} {output : List Instruction}
    {awaiting : Awaiting} {token : Token} {b : Assembly} (h : Begun ts frames output)
    (ht : Assembly.takeOperand ⟨output, frames, awaiting⟩ token = .ok b) :
    Reached (ts ++ [token]) b := by
  obtain ⟨kind, p⟩ := token
  cases kind with
  | action action =>
    cases action with
    | constant v =>
      cases ht
      exact .indexed (.intro h (.primary (.constant v p)))
    | name n =>
      cases ht
      exact .indexed (.intro h (.primary (.name n p)))
    | call f n =>
      cases ht
      exact .parenOf f n p h
    | operator op =>
      by_cases ho : op = .negate ∨ op = .not
      · simp only [Assembly.takeOperand, if_pos ho, Except.ok.injEq] at ht
        subst ht
        exact .operand (.sign p ho h)
      · simp only [Assembly.takeOperand, if_neg ho] at ht
        cases ht
  | mark m =>
    cases m with
    | leftParen =>
      cases ht
      exact .operand (.paren p h)
    | _ => cases ht
  | _ => cases ht

/-- A closer leads on only if it closes the innermost group. -/
theorem Ended.close {ts : List Token} {m : Mark} {frames : List Frame}
    {output : List Instruction} {b : Assembly} (p : Position)
    (h : Ended .expression ts frames output) (hb : Assembly.closer m frames output = some b) :
    Reached (ts ++ [⟨.mark m, p⟩]) b := by
  rcases Assembly.closer_eq_some hb with ⟨q, rest, rfl, rfl, rfl⟩ | ⟨f, q, n, rest, rfl, rfl, rfl⟩ |
    ⟨rest, rfl, rfl, rfl⟩ | ⟨f, q, n, rest, rfl, rfl, rfl⟩ | ⟨q, rest, rfl, rfl, rfl⟩
  · obtain ⟨hbegun, ht⟩ := h
    cases hbegun with
    | question _ hf hbegun hc =>
      have hnext := Begun.colon q p hf hbegun hc ht
      exact .operand (by simpa using hnext)
  · obtain ⟨us, vs, args, settled, rfl, rfl, hl, hbegun, hcall⟩ := h.argument
    rw [← hl]
    exact .operand (.comma p hbegun hcall)
  · obtain @⟨_, us, _, _, t, hbegun, ht⟩ := h
    cases hbegun with
    | paren q hbegun =>
      have hnext := Ended.intro hbegun (.primary (.group q p ht))
      exact .indexed (by simpa using hnext)
  · obtain ⟨us, vs, args, settled, rfl, rfl, hl, hbegun, hcall⟩ := h.argument
    have hnext := Ended.intro hbegun (.primary (.call p hcall))
    exact .indexed (by simpa [Term.postorder, hl] using hnext)
  · obtain @⟨_, us, _, _, t, hbegun, ht⟩ := h
    cases hbegun with
    | bracket _ hbegun ha =>
      have hnext := Ended.intro hbegun (.element q p ha ht)
      exact .indexed (by simpa [Term.postorder] using hnext)

section

variable {ts : List Token} {frames : List Frame} {output : List Instruction} {awaiting : Awaiting}
  {indexable : Bool} {b : Assembly}

theorem Reached.nullTest {op : Operator} (p : Position) (ho : op = .isNull ∨ op = .isNotNull)
    (h : ∀ level, Ended (.chain (leastFor frames) level) ts frames output)
    (ht : Assembly.takeOperator ⟨output, frames, awaiting⟩ indexable
      ⟨.action (.operator op), p⟩ = .ok b) :
    Reached (ts ++ [⟨.action (.operator op), p⟩]) b := by
  obtain ⟨frames', output', happ, ⟨hbegun, hp⟩, hstops⟩ :=
    (h equalityBinding).exists_applied (by decide)
  have hle := leastFor_le_of_stops_equality hstops
  simp only [Assembly.takeOperator, if_pos ho, happ, Except.ok.injEq] at ht
  subst ht
  refine .operator (fun level => ?_) nofun
  have hnext := Ended.intro hbegun (.nullTest level p (arity_of_nullTest ho) ho hle hp)
  simpa [Term.postorder] using hnext

/-- An operator between two operands stands where what binds less tightly waits. -/
theorem Reached.join {op : Operator} {binding : Nat} (p : Position)
    (hb : binding? op = some binding)
    (h : ∀ level, Ended (.chain (leastFor frames) level) ts frames output)
    (ht : Assembly.takeOperator ⟨output, frames, awaiting⟩ indexable
      ⟨.action (.operator op), p⟩ = .ok b) :
    Reached (ts ++ [⟨.action (.operator op), p⟩]) b := by
  have hn : ¬ (op = .isNull ∨ op = .isNotNull) := by
    rintro (rfl | rfl) <;> cases hb
  have hy : yieldsTo op binding ≤ signBinding := (binding?_bounds hb).2.1
  obtain ⟨frames', output', happ, ⟨hbegun, hp⟩, hstops⟩ :=
    (h (yieldsTo op binding)).exists_applied hy
  have hle := leastFor_le_of_stops hb hstops
  simp only [Assembly.takeOperator, if_neg hn, hb, happ, Except.ok.injEq] at ht
  subst ht
  exact .operand (.join p hb hle hbegun hp)

theorem Reached.question (p : Position)
    (h : Ended (.chain (leastFor frames) 0) ts frames output)
    (ht : Assembly.takeOperator ⟨output, frames, awaiting⟩ indexable ⟨.mark .question, p⟩ =
      .ok b) : Reached (ts ++ [⟨.mark .question, p⟩]) b := by
  obtain ⟨frames', output', happ, hended, hstops⟩ := h.exists_applied (by decide)
  have hf := leastFor_eq_of_stops_zero hstops
  simp only [Assembly.takeOperator, happ, Except.ok.injEq] at ht
  subst ht
  rw [hf] at hended
  obtain ⟨hbegun, hc⟩ := hended
  exact .operand (.question p hf hbegun hc)

theorem Reached.bracket (p : Position) (hindexed : Ended .indexed ts frames output)
    (ht : Assembly.takeOperator ⟨output, frames, awaiting⟩ true ⟨.mark .leftBracket, p⟩ =
      .ok b) : Reached (ts ++ [⟨.mark .leftBracket, p⟩]) b := by
  simp only [Assembly.takeOperator, if_true, Except.ok.injEq] at ht
  subst ht
  obtain ⟨hbegun, ha⟩ := hindexed
  exact .operand (.bracket p hbegun ha)

theorem Reached.takeOperator {token : Token}
    (hchain : ∀ level, Ended (.chain (leastFor frames) level) ts frames output)
    (hindexed : indexable = true → Ended .indexed ts frames output)
    (ht : Assembly.takeOperator ⟨output, frames, awaiting⟩ indexable token = .ok b) :
    Reached (ts ++ [token]) b := by
  obtain ⟨kind, p⟩ := token
  -- what cannot stand behind an operand closes nothing
  have hnone (h : Assembly.closing ⟨output, frames, awaiting⟩ ⟨kind, p⟩
      (fun _ _ => none) = .ok b) : False := by
    obtain ⟨frames, output, -, hb⟩ := Assembly.closing_eq_ok h
    cases hb
  cases kind with
  | action action =>
    cases action with
    | operator op =>
      by_cases ho : op = .isNull ∨ op = .isNotNull
      · exact .nullTest p ho hchain ht
      cases hb : binding? op with
      | some binding => exact .join p hb hchain ht
      | none =>
        simp only [Assembly.takeOperator, if_neg ho, hb] at ht
        exact (hnone ht).elim
    | _ => exact (hnone ht).elim
  | mark m =>
    by_cases hq : m = .question
    · subst hq
      exact .question p (hchain 0) ht
    by_cases hl : m = .leftBracket
    · subst hl
      cases indexable with
      | true => exact .bracket p (hindexed rfl) ht
      | false => exact (hnone ht).elim
    rw [Assembly.takeOperator_mark hq hl] at ht
    obtain ⟨frames', output', hc, hb⟩ := Assembly.closing_eq_ok ht
    exact ((hchain 0).closeLevel hc).close p hb
  | unknown text => exact (hnone ht).elim
  | ending => exact (hnone ht).elim

end

/-! ### Taking all tokens -/

theorem Reached.take {ts : List Token} {token : Token} {a b : Assembly} (h : Reached ts a)
    (ht : a.take token = .ok b) : Reached (ts ++ [token]) b := by
  cases h with
  | operand hb => exact hb.takeOperand ht
  | @parenOf ts frames output f n p hb =>
    obtain ⟨kind, q⟩ := token
    simp only [Assembly.take, Assembly.takeParen] at ht
    split at ht
    · cases ht
      have hnext := Reached.firstArgument f n p q hb
      simpa using hnext
    · cases ht
  | @firstArgument ts frames output f n p q hb =>
    obtain ⟨kind, r⟩ := token
    simp only [Assembly.take, Assembly.takeFirstArgument] at ht
    split at ht
    · rename_i heq
      cases heq
      cases ht
      have hnext := Ended.intro hb (.primary (.emptyCall f n p q r))
      exact .indexed (by simpa [Term.postorder, Term.postorderAll] using hnext)
    · exact (Begun.call f n p q hb).takeOperand ht
  | operator hchain hindexed => exact Reached.takeOperator hchain hindexed ht

theorem Reached.takeAll {ts us : List Token} {a b : Assembly} (h : Reached ts a)
    (ht : a.takeAll us = .ok b) : Reached (ts ++ us) b := by
  induction us generalizing ts a with
  | nil =>
    cases ht
    rwa [List.append_nil]
  | cons token us ih =>
    rw [Assembly.takeAll_cons] at ht
    obtain ⟨c, hc, hb⟩ := bind_eq_ok.mp ht
    have hnext := ih (h.take hc) hb
    rwa [List.append_assoc] at hnext

theorem reached_of_takeAll {ts : List Token} {a : Assembly}
    (h : Assembly.start.takeAll ts = .ok a) : Reached ts a :=
  Reached.takeAll (.operand .start) h

end Reckon
