import Reckon.Proofs.Rejection

/-!
# One negation more

Two assemblies that differ in one negation take the same tokens from there on. While the negation
waits on the frames of the second, below those both have pushed since, nothing else can tell it from
a frame that is not there; it is applied the first time a frame below it is looked at, and stands in
the output from then on.
-/

namespace Reckon

def negation (p : Position) : Instruction := ⟨.operator .negate, p⟩

def negationFrame (p : Position) : Frame := .operator .negate p signBinding

/-- Both fail with one error, or the second program has one instruction more. -/
inductive Gains (i : Instruction) :
    Except SyntaxError Program → Except SyntaxError Program → Prop where
  | refused (e : SyntaxError) : Gains i (.error e) (.error e)
  | accepted (front back : List Instruction) :
      Gains i (.ok ⟨front ++ back⟩) (.ok ⟨front ++ i :: back⟩)

theorem Awaiting.operand_ne_firstArgument : Awaiting.operand ≠ .firstArgument := by
  intro h
  cases h

theorem Awaiting.parenOf_ne_firstArgument {f : String} {p : Position} :
    Awaiting.parenOf f p ≠ .firstArgument := by
  intro h
  cases h

theorem Awaiting.operator_ne_firstArgument {indexable : Bool} :
    Awaiting.operator indexable ≠ .firstArgument := by
  intro h
  cases h

/-- The negation waits below some frames, or has been applied after some of the output. -/
inductive Lags (p : Position) : Assembly → Assembly → Prop where
  | waiting (above frames : List Frame) (output : List Instruction) (awaiting : Awaiting) :
      (awaiting = .firstArgument → above ≠ []) →
      Lags p ⟨output, above ++ frames, awaiting⟩
        ⟨output, above ++ negationFrame p :: frames, awaiting⟩
  | applied (frames : List Frame) (later output : List Instruction) (awaiting : Awaiting) :
      Lags p ⟨later ++ output, frames, awaiting⟩ ⟨later ++ negation p :: output, frames, awaiting⟩

inductive Settled (p : Position) :
    List Frame × List Instruction → List Frame × List Instruction → Prop where
  | waiting (top : Frame) (above frames : List Frame) (output : List Instruction) :
      Settled p (top :: above ++ frames, output)
        (top :: above ++ negationFrame p :: frames, output)
  | applied (frames : List Frame) (later output : List Instruction) :
      Settled p (frames, later ++ output) (frames, later ++ negation p :: output)

section

variable {p : Position} {a b : Assembly} {frames frames' : List Frame}
  {output output' : List Instruction}

theorem applyOperators_append (least : Nat) (frames : List Frame)
    (later output : List Instruction) :
    applyOperators least frames (later ++ output) =
      ((applyOperators least frames later).1, (applyOperators least frames later).2 ++ output) := by
  fun_induction applyOperators least frames later with
  | case1 op q binding rest later h => rw [applyOperators, if_pos h]
  | case2 op q binding rest later h ih => rw [applyOperators, if_neg h, ← ih, List.cons_append]
  | case3 later frames h =>
    rw [applyOperators]
    exact h

theorem closeLevel_append (frames : List Frame) (later output : List Instruction) :
    closeLevel frames (later ++ output) =
      ((closeLevel frames later).1, (closeLevel frames later).2 ++ output) := by
  fun_induction closeLevel frames later with
  | case1 op q binding rest later ih => rw [closeLevel, ← ih, List.cons_append]
  | case2 q rest later ih => rw [closeLevel, ← ih, List.cons_append]
  | case3 later frames hoperator hcolon =>
    rw [closeLevel]
    · exact hoperator
    · exact hcolon

/-! ### Applying what waits -/

/-- No operator binds tighter than a sign. -/
theorem settled_applyOperators {least : Nat} (hleast : least ≤ signBinding)
    (above frames : List Frame) (output : List Instruction) :
    Settled p (applyOperators least (above ++ frames) output)
      (applyOperators least (above ++ negationFrame p :: frames) output) := by
  induction above generalizing output with
  | nil =>
    have happlied := applyOperators_append least frames [] (negation p :: output)
    rw [List.nil_append] at happlied
    rw [List.nil_append, List.nil_append, negationFrame, applyOperators,
      if_neg (Nat.not_lt.mpr hleast), ← negation, happlied,
      ← List.nil_append output, applyOperators_append]
    exact .applied _ _ _
  | cons frame above ih =>
    cases frame with
    | operator op q binding =>
      rw [List.cons_append, List.cons_append, applyOperators, applyOperators]
      split
      · exact .waiting _ above frames output
      · exact ih _
    | _ => exact .waiting _ above frames output

theorem settled_closeLevel (above frames : List Frame) (output : List Instruction) :
    Settled p (closeLevel (above ++ frames) output)
      (closeLevel (above ++ negationFrame p :: frames) output) := by
  induction above generalizing output with
  | nil =>
    have happlied := closeLevel_append frames [] (negation p :: output)
    rw [List.nil_append] at happlied
    rw [List.nil_append, List.nil_append, negationFrame, closeLevel, ← negation, happlied,
      ← List.nil_append output, closeLevel_append]
    exact .applied _ _ _
  | cons frame above ih =>
    cases frame with
    | operator op q binding | colon q => exact ih _
    | _ => exact .waiting _ above frames output

theorem Lags.applyOperators (h : Lags p a b) {least : Nat} (hleast : least ≤ signBinding) :
    Settled p (applyOperators least a.frames a.output)
      (Reckon.applyOperators least b.frames b.output) := by
  cases h with
  | waiting above frames output => exact settled_applyOperators hleast above frames output
  | applied frames later output =>
    rw [applyOperators_append, applyOperators_append]
    exact .applied _ _ _

theorem Lags.closeLevel (h : Lags p a b) :
    Settled p (closeLevel a.frames a.output) (Reckon.closeLevel b.frames b.output) := by
  cases h with
  | waiting above frames output => exact settled_closeLevel above frames output
  | applied frames later output =>
    rw [closeLevel_append, closeLevel_append]
    exact .applied _ _ _

/-! ### Going on from there -/

theorem Lags.awaiting_eq (h : Lags p a b) : b.awaiting = a.awaiting := by
  cases h <;> rfl

theorem Settled.lags (h : Settled p (frames, output) (frames', output')) (awaiting : Awaiting) :
    Lags p ⟨output, frames, awaiting⟩ ⟨output', frames', awaiting⟩ := by
  cases h with
  | waiting top above frames output =>
    exact .waiting (top :: above) frames output awaiting fun _ => List.cons_ne_nil top above
  | applied frames later output => exact .applied frames later output awaiting

/-- A first argument is awaited on the frame of its call. -/
theorem Lags.settled (h : Lags p a b) (hfirst : a.awaiting = .firstArgument) :
    Settled p (a.frames, a.output) (b.frames, b.output) := by
  cases h with
  | waiting above frames output awaiting habove =>
    cases above with
    | nil => exact absurd rfl (habove hfirst)
    | cons top above => exact .waiting top above frames output
  | applied frames later output => exact .applied frames later output

section

variable {awaiting : Awaiting} (h : Lags p ⟨output, frames, awaiting⟩ ⟨output', frames', awaiting⟩)
include h

theorem Lags.await {next : Awaiting} (hnext : next ≠ .firstArgument) :
    Lags p ⟨output, frames, next⟩ ⟨output', frames', next⟩ := by
  cases h with
  | waiting above frames output => exact .waiting above frames output next (absurd · hnext)
  | applied frames later output => exact .applied frames later output next

theorem Lags.push (frame : Frame) (next : Awaiting) :
    Lags p ⟨output, frame :: frames, next⟩ ⟨output', frame :: frames', next⟩ := by
  cases h with
  | waiting above frames output =>
    exact .waiting (frame :: above) frames output next fun _ => List.cons_ne_nil frame above
  | applied frames later output => exact .applied (frame :: frames) later output next

theorem Lags.put (i : Instruction) {next : Awaiting} (hnext : next ≠ .firstArgument) :
    Lags p ⟨i :: output, frames, next⟩ ⟨i :: output', frames', next⟩ := by
  cases h with
  | waiting above frames output => exact .waiting above frames (i :: output) next (absurd · hnext)
  | applied frames later output => exact .applied frames (i :: later) output next

end

/-- The frame that stops the applying is the same, and so is what it stands on but for the
negation. -/
theorem Settled.top (h : Settled p (frames, output) (frames', output')) :
    (frames = [] ∧ frames' = []) ∨ ∃ top rest rest', frames = top :: rest ∧
      frames' = top :: rest' ∧ Lags p ⟨output, rest, .operand⟩ ⟨output', rest', .operand⟩ := by
  cases h with
  | waiting top above frames output =>
    exact .inr ⟨top, _, _, rfl, rfl,
      .waiting above frames output .operand fun h => absurd h Awaiting.operand_ne_firstArgument⟩
  | applied frames later output =>
    cases frames with
    | nil => exact .inl ⟨rfl, rfl⟩
    | cons top rest => exact .inr ⟨top, rest, rest, rfl, rfl, .applied rest later output .operand⟩

/-! ### Taking a token -/

inductive BothTake (p : Position) :
    Except SyntaxError Assembly → Except SyntaxError Assembly → Prop where
  | refused (e : SyntaxError) : BothTake p (.error e) (.error e)
  | taken {a b : Assembly} : Lags p a b → BothTake p (.ok a) (.ok b)

theorem Lags.takeOperand (h : Lags p a b) (token : Token) :
    BothTake p (a.takeOperand token) (b.takeOperand token) := by
  obtain ⟨output, frames, awaiting⟩ := a
  obtain ⟨output', frames', awaiting'⟩ := b
  obtain rfl : awaiting' = awaiting := h.awaiting_eq
  obtain ⟨kind, q⟩ := token
  cases kind with
  | action act =>
    cases act with
    | constant v => exact .taken (h.put _ Awaiting.operator_ne_firstArgument)
    | name n => exact .taken (h.put _ Awaiting.operator_ne_firstArgument)
    | call f n => exact .taken (h.await Awaiting.parenOf_ne_firstArgument)
    | operator op =>
      simp only [Assembly.takeOperand]
      split
      · exact .taken (h.push _ _)
      · exact .refused _
  | mark m =>
    cases m with
    | leftParen => exact .taken (h.push _ _)
    | _ => exact .refused _
  | unknown | ending => exact .refused _

theorem Lags.closing (h : Lags p a b) (token : Token) (m : Mark) :
    BothTake p (a.closing token (Assembly.closer m)) (b.closing token (Assembly.closer m)) := by
  have hsettled := h.closeLevel
  simp only [Assembly.closing]
  generalize Reckon.closeLevel a.frames a.output = x at *
  generalize Reckon.closeLevel b.frames b.output = y at *
  obtain ⟨frames, output⟩ := x
  obtain ⟨frames', output'⟩ := y
  obtain ⟨rfl, rfl⟩ | ⟨top, rest, rest', rfl, rfl, hrest⟩ := hsettled.top
  · cases m <;> exact .refused _
  · cases top with
    | operator op q binding => cases m <;> exact .refused _
    | paren =>
      cases m with
      | rightParen => exact .taken (hrest.await Awaiting.operator_ne_firstArgument)
      | _ => exact .refused _
    | call f q n =>
      cases m with
      | rightParen => exact .taken (hrest.put _ Awaiting.operator_ne_firstArgument)
      | comma => exact .taken (hrest.push _ _)
      | _ => exact .refused _
    | bracket q =>
      cases m with
      | rightBracket => exact .taken (hrest.put _ Awaiting.operator_ne_firstArgument)
      | _ => exact .refused _
    | question q =>
      cases m with
      | colon => exact .taken (hrest.push _ _)
      | _ => exact .refused _
    | colon q => cases m <;> exact .refused _

theorem yieldsTo_le_signBinding {op : Operator} {binding : Nat} (h : binding? op = some binding) :
    yieldsTo op binding ≤ signBinding := by
  cases op <;> cases h <;> decide

theorem Lags.takeOperator (h : Lags p a b) (indexable : Bool) (token : Token) :
    BothTake p (a.takeOperator indexable token) (b.takeOperator indexable token) := by
  obtain ⟨output, frames, awaiting⟩ := a
  obtain ⟨output', frames', awaiting'⟩ := b
  obtain rfl : awaiting' = awaiting := h.awaiting_eq
  obtain ⟨kind, q⟩ := token
  -- no mark closes a group where a left parenthesis stands
  have hnone := fun token => h.closing token .leftParen
  cases kind with
  | action act =>
    cases act with
    | operator op =>
      simp only [Assembly.takeOperator]
      split
      · exact .taken (((h.applyOperators (by decide)).lags .operand).put _ Awaiting.operator_ne_firstArgument)
      · split
        · have hle := yieldsTo_le_signBinding ‹_›
          exact .taken (((h.applyOperators hle).lags .operand).push _ _)
        · exact hnone _
    | _ => exact hnone _
  | mark m =>
    by_cases hbracket : m = .leftBracket
    · subst hbracket
      cases indexable with
      | true => exact .taken (h.push _ _)
      | false => exact hnone _
    · by_cases hquestion : m = .question
      · subst hquestion
        exact .taken (((h.applyOperators (Nat.zero_le _)).lags .operand).push _ _)
      · rw [Assembly.takeOperator_mark hquestion hbracket,
          Assembly.takeOperator_mark hquestion hbracket]
        exact h.closing _ m
  | unknown | ending => exact hnone _

theorem Lags.takeFirstArgument (h : Lags p a b) (hfirst : a.awaiting = .firstArgument)
    (token : Token) : BothTake p (a.takeFirstArgument token) (b.takeFirstArgument token) := by
  have hsettled := h.settled hfirst
  have hoperand := h.takeOperand token
  obtain ⟨output, frames, awaiting⟩ := a
  obtain ⟨output', frames', awaiting'⟩ := b
  obtain ⟨kind, q⟩ := token
  obtain ⟨rfl, rfl⟩ | ⟨top, rest, rest', rfl, rfl, hrest⟩ := hsettled.top
  · cases kind with
    | mark m => cases m <;> exact hoperand
    | _ => exact hoperand
  · cases kind with
    | mark m =>
      cases m with
      | rightParen =>
        cases top with
        | call f q n => exact .taken (hrest.put _ Awaiting.operator_ne_firstArgument)
        | _ => exact hoperand
      | _ => exact hoperand
    | _ => exact hoperand

theorem Lags.takeParen (h : Lags p a b) (f : String) (q : Position) (token : Token) :
    BothTake p (a.takeParen f q token) (b.takeParen f q token) := by
  obtain ⟨output, frames, awaiting⟩ := a
  obtain ⟨output', frames', awaiting'⟩ := b
  obtain rfl : awaiting' = awaiting := h.awaiting_eq
  unfold Assembly.takeParen
  split
  · exact .taken (h.push _ _)
  · exact .refused _

theorem Lags.take (h : Lags p a b) (token : Token) : BothTake p (a.take token) (b.take token) := by
  have hawaiting := h.awaiting_eq
  unfold Assembly.take
  rw [hawaiting]
  cases hcase : a.awaiting with
  | operand => exact h.takeOperand token
  | parenOf f q => exact h.takeParen f q token
  | firstArgument => exact h.takeFirstArgument hcase token
  | operator indexable => exact h.takeOperator indexable token

/-! ### Taking all -/

theorem Lags.finish (h : Lags p a b) (q : Position) :
    Gains (negation p) (a.finish q) (b.finish q) := by
  have hsettled := h.closeLevel
  unfold Assembly.finish
  rw [h.awaiting_eq]
  cases a.awaiting with
  | operator indexable =>
    dsimp only
    generalize Reckon.closeLevel a.frames a.output = x at *
    generalize Reckon.closeLevel b.frames b.output = y at *
    cases hsettled with
    | waiting top above frames output => cases top <;> exact .refused _
    | applied frames later output =>
      cases frames with
      | nil =>
        have hreverse : (later ++ negation p :: output).reverse =
            output.reverse ++ negation p :: later.reverse := by simp
        simp only [List.isEmpty_nil, if_true, hreverse]
        rw [List.reverse_append]
        exact .accepted _ _
      | cons top rest => exact .refused _
  | _ => exact .refused _

theorem Lags.run (h : Lags p a b) (position : Position) (tokens : List Token) :
    Gains (negation p) (a.run position tokens) (b.run position tokens) := by
  induction tokens generalizing a b with
  | nil => exact h.finish position
  | cons token rest ih =>
    rw [Assembly.run_cons, Assembly.run_cons]
    split
    · exact h.finish token.position
    · have htake := h.take token
      generalize a.take token = x at *
      generalize b.take token = y at *
      cases htake with
      | refused e => exact .refused e
      | taken h => exact ih h

end

end Reckon
