import Reckon.Proofs.Frames

/-!
# Assembling accepts every expression

Taking the tokens of a phrase puts the program of its term in front of the output, except that some
operators and choices still wait on the frames. Applying them, as any operator or closer that may
come next does, gives the whole program.
-/

namespace Reckon

/-- Applying what waits on the frames turns the output into `settled`: all of it where a level is
closed, and what binds at least so tightly, up to `level`, where an operator comes. -/
structure Pending (level : Nat) (frames : List Frame) (output settled : List Instruction) :
    Prop where
  applied : ∀ least ≤ level, ∀ rest,
    applyOperators least (frames ++ rest) output = applyOperators least rest settled
  closed : ∀ rest, closeLevel (frames ++ rest) output = closeLevel rest settled

namespace Pending

variable {level : Nat} {frames : List Frame} {output settled : List Instruction}

theorem nil (level : Nat) (output : List Instruction) : Pending level [] output output :=
  ⟨fun _ _ _ => rfl, fun _ => rfl⟩

theorem mono {level' : Nat} (h : Pending level frames output settled) (hl : level' ≤ level) :
    Pending level' frames output settled :=
  ⟨fun least hleast => h.applied least (Nat.le_trans hleast hl), h.closed⟩

theorem operator {op : Operator} {p : Position} {binding : Nat}
    (h : Pending level frames output settled) (hl : level ≤ binding) :
    Pending level (frames ++ [.operator op p binding]) output (⟨.operator op, p⟩ :: settled) := by
  refine ⟨fun least hleast rest => ?_, fun rest => ?_⟩
  · have hn : ¬ binding < least := by omega
    rw [List.append_assoc, h.applied least hleast]
    simp [applyOperators, hn]
  · rw [List.append_assoc, h.closed]
    rfl

end Pending

namespace Assembly

/-! ### Single tokens -/

theorem take_join {op : Operator} {binding : Nat} (hb : binding? op = some binding)
    {frames frames' : List Frame} {output output' : List Instruction} (indexable : Bool)
    (p : Position)
    (happ : applyOperators (yieldsTo op binding) frames output = (frames', output')) :
    take ⟨output, frames, .operator indexable⟩ ⟨.action (.operator op), p⟩ =
      .ok ⟨output', .operator op p binding :: frames', .operand⟩ := by
  have hn : ¬ (op = .isNull ∨ op = .isNotNull) := by
    rintro (rfl | rfl) <;> cases hb
  simp only [take, takeOperator, if_neg hn, hb, happ]

theorem take_nullTest {op : Operator} (ho : op = .isNull ∨ op = .isNotNull)
    {frames frames' : List Frame} {output output' : List Instruction} (indexable : Bool)
    (p : Position)
    (happ : applyOperators equalityBinding frames output = (frames', output')) :
    take ⟨output, frames, .operator indexable⟩ ⟨.action (.operator op), p⟩ =
      .ok ⟨⟨.operator op, p⟩ :: output', frames', .operator false⟩ := by
  simp only [take, takeOperator, if_pos ho, happ]

theorem take_question {frames frames' : List Frame} {output output' : List Instruction}
    (indexable : Bool) (p : Position)
    (happ : applyOperators 0 frames output = (frames', output')) :
    take ⟨output, frames, .operator indexable⟩ ⟨.mark .question, p⟩ =
      .ok ⟨output', .question p :: frames', .operand⟩ := by
  simp only [take, takeOperator, happ]

theorem take_closer {m : Mark} {frames frames' : List Frame} {output output' : List Instruction}
    {b : Assembly} (indexable : Bool) (p : Position)
    (hclose : closeLevel frames output = (frames', output'))
    (hb : closer m frames' output' = some b) :
    take ⟨output, frames, .operator indexable⟩ ⟨.mark m, p⟩ = .ok b := by
  have hq : m ≠ .question := by
    rintro rfl
    cases hb
  have hl : m ≠ .leftBracket := by
    rintro rfl
    cases hb
  simp only [take, takeOperator_mark hq hl, closing, hclose, hb]

/-- In a group that a mark closes nothing waits. -/
theorem stops_of_closer {m : Mark} {frames : List Frame} {output : List Instruction}
    {b : Assembly} (h : closer m frames output = some b) :
    leastFor frames = 0 ∧ closeLevel frames output = (frames, output) := by
  rcases closer_eq_some h with ⟨p, rest, -, rfl, -⟩ | ⟨f, p, n, rest, -, rfl, -⟩ |
    ⟨rest, -, rfl, -⟩ | ⟨f, p, n, rest, -, rfl, -⟩ | ⟨p, rest, -, rfl, -⟩ <;> exact ⟨rfl, rfl⟩

theorem take_sign {op : Operator} (ho : op = .negate ∨ op = .not) (frames : List Frame)
    (output : List Instruction) (p : Position) :
    take ⟨output, frames, .operand⟩ ⟨.action (.operator op), p⟩ =
      .ok ⟨output, .operator op p signBinding :: frames, .operand⟩ := by
  simp only [take, takeOperand, if_pos ho]

/-- A first argument is taken like any other expression. -/
theorem takeAll_firstArgument {ts : List Token} {t : Term} (h : Parses .expression ts t)
    (frames : List Frame) (output : List Instruction) :
    takeAll ⟨output, frames, .firstArgument⟩ ts = takeAll ⟨output, frames, .operand⟩ ts := by
  obtain ⟨token, rest, rfl, hk⟩ := h.starts
  have ht : take ⟨output, frames, .firstArgument⟩ token =
      take ⟨output, frames, .operand⟩ token := by
    obtain ⟨kind, p⟩ := token
    simp only [take, takeFirstArgument]
    split
    · exact absurd rfl hk
    · rfl
  rw [takeAll_cons, takeAll_cons, ht]

/-! ### Phrases -/

def Accepts : Phrase → List Token → Term → Prop
  | .primary, ts, t | .indexed, ts, t => ∀ frames output,
    takeAll ⟨output, frames, .operand⟩ ts =
      .ok ⟨t.postorder.reverse ++ output, frames, .operator true⟩
  | .signed, ts, t => ∀ frames output, ∃ waiting left,
    takeAll ⟨output, frames, .operand⟩ ts = .ok ⟨left, waiting ++ frames, .operator true⟩ ∧
      Pending signBinding waiting left (t.postorder.reverse ++ output)
  | .chain least level, ts, t => ∀ frames output, leastFor frames ≤ least →
    ∃ waiting left indexable,
      takeAll ⟨output, frames, .operand⟩ ts = .ok ⟨left, waiting ++ frames, .operator indexable⟩ ∧
        Pending (min (max least level) signBinding) waiting left (t.postorder.reverse ++ output)
  | .expression, ts, t => ∀ frames output, leastFor frames = 0 → ∃ waiting left indexable,
    takeAll ⟨output, frames, .operand⟩ ts = .ok ⟨left, waiting ++ frames, .operator indexable⟩ ∧
      ∀ rest, closeLevel (waiting ++ rest) left =
        closeLevel rest (t.postorder.reverse ++ output)
  | .openCall, ts, t => ∃ f p args count, t = .call f p args ∧ args.length = count + 1 ∧
    ∀ frames output, ∃ waiting left indexable,
      takeAll ⟨output, frames, .operand⟩ ts =
          .ok ⟨left, waiting ++ .call f p count :: frames, .operator indexable⟩ ∧
        ∀ rest, closeLevel (waiting ++ rest) left =
          closeLevel rest ((Term.postorderAll args).reverse ++ output)

/-! ### Groups and calls -/

section

variable {ts us vs : List Token} {a b c t : Term}

/-- An expression in a group, and the mark that closes the group. -/
theorem takeAll_closed {m : Mark} {frames : List Frame} {output : List Instruction}
    {closed : Assembly} (h : Accepts .expression ts t) (p : Position)
    (hb : closer m frames (t.postorder.reverse ++ output) = some closed) :
    takeAll ⟨output, frames, .operand⟩ (ts ++ [⟨.mark m, p⟩]) = .ok closed := by
  obtain ⟨hf, hstop⟩ := stops_of_closer hb
  obtain ⟨waiting, left, indexable, ht, hc⟩ := h frames output hf
  have hclose : closeLevel (waiting ++ frames) left =
      (frames, t.postorder.reverse ++ output) := (hc frames).trans hstop
  simp [ht, take_closer indexable p hclose hb]

/-- An open call, and the mark behind its latest argument. -/
theorem takeAll_openCall (h : Accepts .openCall ts t) :
    ∃ f q args count, t = .call f q args ∧ args.length = count + 1 ∧
      ∀ (m : Mark) (p : Position) (frames : List Frame) (output : List Instruction)
        (closed : Assembly),
        closer m (.call f q count :: frames) ((Term.postorderAll args).reverse ++ output) =
            some closed →
          takeAll ⟨output, frames, .operand⟩ (ts ++ [⟨.mark m, p⟩]) = .ok closed := by
  obtain ⟨f, q, args, count, rfl, hl, h⟩ := h
  refine ⟨f, q, args, count, rfl, hl, fun m p frames output closed hb => ?_⟩
  obtain ⟨waiting, left, indexable, ht, hc⟩ := h frames output
  have hclose : closeLevel (waiting ++ .call f q count :: frames) left =
      (.call f q count :: frames, (Term.postorderAll args).reverse ++ output) := hc _
  simp [ht, take_closer indexable p hclose hb]

theorem accepts_group (p q : Position) (h : Accepts .expression ts t) :
    Accepts .primary (⟨.mark .leftParen, p⟩ :: ts ++ [⟨.mark .rightParen, q⟩]) t := by
  intro frames output
  have hopen : take ⟨output, frames, .operand⟩ ⟨.mark .leftParen, p⟩ =
      .ok ⟨output, .paren :: frames, .operand⟩ := rfl
  rw [List.cons_append, takeAll_cons, hopen, ok_bind]
  exact takeAll_closed h q rfl

theorem accepts_firstArgument (f : String) (n : Nat) (p q : Position)
    (hparses : Parses .expression ts t) (h : Accepts .expression ts t) :
    Accepts .openCall (⟨.action (.call f n), p⟩ :: ⟨.mark .leftParen, q⟩ :: ts)
      (.call f p [t]) := by
  refine ⟨f, p, [t], 0, rfl, rfl, fun frames output => ?_⟩
  obtain ⟨waiting, left, indexable, ht, hc⟩ := h (.call f p 0 :: frames) output rfl
  have hopen : take ⟨output, frames, .operand⟩ ⟨.action (.call f n), p⟩ =
      .ok ⟨output, frames, .parenOf f p⟩ := rfl
  have hparen : take ⟨output, frames, .parenOf f p⟩ ⟨.mark .leftParen, q⟩ =
      .ok ⟨output, .call f p 0 :: frames, .firstArgument⟩ := rfl
  refine ⟨waiting, left, indexable, ?_, by simpa [Term.postorderAll] using hc⟩
  simp only [takeAll_cons, hopen, hparen, takeAll_firstArgument hparses, ht, ok_bind]

theorem accepts_nextArgument {f : String} {p : Position} {args : List Term} (q : Position)
    (hcall : Accepts .openCall ts (.call f p args)) (h : Accepts .expression us t) :
    Accepts .openCall (ts ++ ⟨.mark .comma, q⟩ :: us) (.call f p (args ++ [t])) := by
  obtain ⟨f, p, args, count, heq, hl, hcomma⟩ := takeAll_openCall hcall
  cases heq
  refine ⟨f, p, args ++ [t], count + 1, rfl, by simp [hl], fun frames output => ?_⟩
  obtain ⟨waiting, left, indexable, ht, hc⟩ :=
    h (.call f p (count + 1) :: frames) ((Term.postorderAll args).reverse ++ output) rfl
  refine ⟨waiting, left, indexable, ?_, by simpa [Term.postorderAll_concat] using hc⟩
  rw [List.append_cons, takeAll_append, hcomma .comma q frames output _ rfl, ok_bind, ht]

theorem accepts_call (q : Position) (h : Accepts .openCall ts t) :
    Accepts .primary (ts ++ [⟨.mark .rightParen, q⟩]) t := by
  obtain ⟨f, p, args, count, rfl, hl, hclose⟩ := takeAll_openCall h
  intro frames output
  simp [hclose .rightParen q frames output _ rfl, Term.postorder, hl]

theorem accepts_element (p q : Position) (ha : Accepts .indexed ts a)
    (hb : Accepts .expression us b) :
    Accepts .indexed (ts ++ ⟨.mark .leftBracket, p⟩ :: us ++ [⟨.mark .rightBracket, q⟩])
      (.binary .element p rfl a b) := by
  intro frames output
  have hopen : take ⟨a.postorder.reverse ++ output, frames, .operator true⟩
      ⟨.mark .leftBracket, p⟩ =
        .ok ⟨a.postorder.reverse ++ output, .bracket p :: frames, .operand⟩ := rfl
  have hindex : takeAll ⟨a.postorder.reverse ++ output, .bracket p :: frames, .operand⟩
      (us ++ [⟨.mark .rightBracket, q⟩]) = .ok ⟨⟨.operator .element, p⟩ ::
        (b.postorder.reverse ++ (a.postorder.reverse ++ output)), frames, .operator true⟩ :=
    takeAll_closed hb q rfl
  rw [List.append_assoc, takeAll_append, ha frames output, ok_bind, List.cons_append,
    takeAll_cons, hopen, ok_bind, hindex]
  simp [Term.postorder]

/-! ### Signs, chains and choices -/

theorem accepts_sign {op : Operator} (p : Position) (single : op.arity = 1)
    (ho : op = .negate ∨ op = .not) (h : Accepts .signed ts t) :
    Accepts .signed (⟨.action (.operator op), p⟩ :: ts) (.unary op p single t) := by
  intro frames output
  obtain ⟨waiting, left, ht, hp⟩ := h (.operator op p signBinding :: frames) output
  refine ⟨waiting ++ [.operator op p signBinding], left, ?_, ?_⟩
  · simp [take_sign ho, ht]
  · simpa [Term.postorder] using hp.operator (Nat.le_refl _)

theorem accepts_join {op : Operator} {binding least level : Nat}
    (p : Position) (double : op.arity = 2) (hb : binding? op = some binding)
    (hleast : least ≤ binding) (hlevel : level ≤ binding)
    (ha : Accepts (.chain least (yieldsTo op binding)) ts a)
    (hr : Accepts (.chain (operandLevel binding) 0) us b) :
    Accepts (.chain least level) (ts ++ ⟨.action (.operator op), p⟩ :: us)
      (.binary op p double a b) := by
  intro frames output hf
  have hle : binding ≤ 9 ∧ yieldsTo op binding ≤ signBinding ∧ binding ≤ operandLevel binding :=
    binding?_bounds hb
  have hs : signBinding = 10 := rfl
  obtain ⟨waiting, left, indexable, ht, hp⟩ := ha frames output hf
  have happ : applyOperators (yieldsTo op binding) (waiting ++ frames) left =
      (frames, a.postorder.reverse ++ output) := by
    rw [hp.applied _ (by omega)]
    exact applyOperators_of_leastFor_le hb (Nat.le_trans hf hleast) _
  obtain ⟨waiting', left', indexable', ht', hp'⟩ :=
    hr (.operator op p binding :: frames) (a.postorder.reverse ++ output) (Nat.le_refl _)
  refine ⟨waiting' ++ [.operator op p binding], left', indexable', ?_, ?_⟩
  · simp [ht, take_join hb indexable p happ, ht']
  · have hmono : Pending (min (max least level) signBinding) waiting' left'
        (b.postorder.reverse ++ (a.postorder.reverse ++ output)) := hp'.mono (by omega)
    simpa [Term.postorder] using hmono.operator (by omega)

theorem accepts_nullTest {op : Operator} {least : Nat} (level : Nat) (p : Position)
    (single : op.arity = 1) (ho : op = .isNull ∨ op = .isNotNull) (hleast : least ≤ 4)
    (h : Accepts (.chain least 4) ts t) :
    Accepts (.chain least level) (ts ++ [⟨.action (.operator op), p⟩]) (.unary op p single t) := by
  intro frames output hf
  obtain ⟨waiting, left, indexable, ht, hp⟩ := h frames output hf
  have happ : applyOperators equalityBinding (waiting ++ frames) left =
      (frames, t.postorder.reverse ++ output) := by
    have he : equalityBinding = 4 ∧ signBinding = 10 := ⟨rfl, rfl⟩
    rw [hp.applied _ (by omega)]
    exact applyOperators_equality (Nat.le_trans hf hleast) _
  refine ⟨[], ⟨.operator op, p⟩ :: (t.postorder.reverse ++ output), false, ?_, ?_⟩
  · simp [ht, take_nullTest ho indexable p happ]
  · simpa [Term.postorder] using Pending.nil _ _

theorem accepts_choice (p q : Position) (hc : Accepts (.chain 0 0) ts c)
    (ha : Accepts .expression us a) (hb : Accepts .expression vs b) :
    Accepts .expression (ts ++ ⟨.mark .question, p⟩ :: us ++ ⟨.mark .colon, q⟩ :: vs)
      (.choice p c a b) := by
  intro frames output hf
  obtain ⟨waiting, left, indexable, htc, hp⟩ := hc frames output (Nat.le_of_eq hf)
  have happ : applyOperators 0 (waiting ++ frames) left =
      (frames, c.postorder.reverse ++ output) := by
    rw [hp.applied 0 (Nat.zero_le _)]
    exact applyOperators_zero hf _
  have hbranch : takeAll ⟨c.postorder.reverse ++ output, .question p :: frames, .operand⟩
      (us ++ [⟨.mark .colon, q⟩]) = .ok ⟨a.postorder.reverse ++ (c.postorder.reverse ++ output),
        .colon p :: frames, .operand⟩ := takeAll_closed ha q rfl
  obtain ⟨waitingB, leftB, indexableB, htb, hcb⟩ :=
    hb (.colon p :: frames) (a.postorder.reverse ++ (c.postorder.reverse ++ output)) rfl
  refine ⟨waitingB ++ [.colon p], leftB, indexableB, ?_, fun rest => ?_⟩
  · have hparts : ts ++ ⟨.mark .question, p⟩ :: us ++ ⟨.mark .colon, q⟩ :: vs =
        ts ++ ⟨.mark .question, p⟩ :: ((us ++ [⟨.mark .colon, q⟩]) ++ vs) := by simp
    rw [hparts, takeAll_append, htc, ok_bind, takeAll_cons, take_question indexable p happ,
      ok_bind, takeAll_append, hbranch, ok_bind, htb, List.append_assoc]
    rfl
  · rw [List.append_assoc, hcb]
    simp [closeLevel, Term.postorder]

end

theorem accepts {phrase : Phrase} {ts : List Token} {t : Term} (h : Parses phrase ts t) :
    Accepts phrase ts t := by
  induction h with
  | constant v p => exact fun _ _ => rfl
  | name n p => exact fun _ _ => rfl
  | emptyCall f n p q r => exact fun _ _ => rfl
  | primary _ ih => exact ih
  | group p q _ ih => exact accepts_group p q ih
  | firstArgument f n p q h ih => exact accepts_firstArgument f n p q h ih
  | nextArgument q _ _ ihcall iharg => exact accepts_nextArgument q ihcall iharg
  | call q _ ih => exact accepts_call q ih
  | element p q _ _ iha ihb => exact accepts_element p q iha ihb
  | indexed _ ih => exact fun frames output => ⟨[], _, ih frames output, .nil _ _⟩
  | sign p single ho _ ih => exact accepts_sign p single ho ih
  | signed least level _ ih =>
    intro frames output _
    obtain ⟨waiting, left, ht, hp⟩ := ih frames output
    exact ⟨waiting, left, true, ht, hp.mono (Nat.min_le_right _ _)⟩
  | left p double hop hleast hlevel _ _ iha ihb =>
    obtain ⟨hb, hp⟩ := binding?_of_mem_leftJoiners hop
    have hlt : _ < 9 := (binding?_lt_iff hb).mpr hp
    refine accepts_join p double hb hleast hlevel ?_ ?_
    · simpa only [yieldsTo, if_neg hp] using iha
    · simpa only [operandLevel, if_pos hlt] using ihb
  | power p hleast hlevel _ _ iha ihb =>
    have hb : binding? .power = some 9 := rfl
    exact accepts_join p rfl hb hleast hlevel iha ihb
  | nullTest level p single ho hleast _ ih => exact accepts_nullTest level p single ho hleast ih
  | chain _ ih =>
    intro frames output hf
    obtain ⟨waiting, left, indexable, ht, hp⟩ := ih frames output (Nat.le_of_eq hf)
    exact ⟨waiting, left, indexable, ht, hp.closed⟩
  | choice p q _ _ _ ihc iha ihb => exact accepts_choice p q ihc iha ihb

end Assembly

theorem assemble_of_parses {tokens : List Token} {t : Term}
    (h : Parses .expression (beforeEnding tokens) t) :
    Program.assemble tokens = .ok ⟨t.postorder⟩ := by
  obtain ⟨waiting, left, indexable, ht, hc⟩ := Assembly.accepts h [] [] rfl
  have hclose : closeLevel waiting left = ([], t.postorder.reverse) := by
    simpa [closeLevel] using hc []
  rw [List.append_nil] at ht
  rw [Program.assemble, Assembly.run_eq_takeAll, Assembly.start, ht]
  simp [Assembly.finish, hclose]

end Reckon
