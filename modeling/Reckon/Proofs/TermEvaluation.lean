import Reckon.Evaluation
import Reckon.Proofs.Sequencing
import Reckon.Proofs.Term

/-!
# Programs of terms evaluate like the terms

A term is evaluated by evaluating its operands from the left and then applying its instruction; the
first failure ends it. A function is called at the moment of its instruction, which comes after those
of its arguments. Running the program of a term inside any other program does the same and pushes the
value, with all values below it as they were.
-/

namespace Reckon

variable (rule : TextRule) (known : Variables) (functions : Functions) (moments : Moments)

namespace Term

mutual

/-- The value of a term after as many instructions as `done` have been run. -/
def evaluate (done : Nat) : Term → Evaluated Value
  | constant v _ => .ok v
  | name n _ =>
    match known n with
    | some v => .ok v
    | none => .error (.unknownVariable n)
  | call function _ ts => do
    let arguments ← evaluateAll done ts
    match functions function with
    | none => .error (.unknownFunction function)
    | some f => do
      f.checkArity ts.length
      f.body rule (moments (done + (postorderAll ts).length)) arguments
  | unary op _ _ t => do
    let v ← evaluate done t
    evaluated (op.apply rule [v])
  | binary op _ _ a b => do
    let v ← evaluate done a
    let w ← evaluate (done + a.postorder.length) b
    evaluated (op.apply rule [v, w])
  | choice _ c a b => do
    let u ← evaluate done c
    let v ← evaluate (done + c.postorder.length) a
    let w ← evaluate (done + c.postorder.length + a.postorder.length) b
    evaluated (Operator.ternary.apply rule [u, v, w])

def evaluateAll (done : Nat) : List Term → Evaluated (List Value)
  | [] => .ok []
  | t :: ts => do
    let v ← evaluate done t
    let vs ← evaluateAll (done + t.postorder.length) ts
    .ok (v :: vs)

end

theorem evaluateAll_length {done : Nat} {ts : List Term} {vs : List Value}
    (h : evaluateAll rule known functions moments done ts = .ok vs) : vs.length = ts.length := by
  induction ts generalizing done vs with
  | nil =>
    cases h
    rfl
  | cons t ts ih =>
    obtain ⟨v, -, hr⟩ := bind_eq_ok.mp h
    obtain ⟨ws, hws, hv⟩ := bind_eq_ok.mp hr
    cases hv
    rw [List.length_cons, List.length_cons, ih hws]

end Term

def Instruction.outcome (moment : Moment) (i : Instruction) (operands : List Value) :
    Evaluated Value :=
  match i.action with
  | .constant v => .ok v
  | .name n =>
    match known n with
    | some v => .ok v
    | none => .error (.unknownVariable n)
  | .call function count =>
    match functions function with
    | none => .error (.unknownFunction function)
    | some f => do
      f.checkArity count
      f.body rule moment operands
  | .operator op => evaluated (op.apply rule operands)

theorem Term.evaluate_eq (done : Nat) (t : Term) :
    t.evaluate rule known functions moments done = (do
      let vs ← evaluateAll rule known functions moments done t.operands
      t.instruction.outcome rule known functions
        (moments (done + (postorderAll t.operands).length)) vs) := by
  cases t with
  | constant v p => rfl
  | name n p => rfl
  | call f p ts => rfl
  | unary op p single t =>
    simp only [evaluate, evaluateAll, operands, instruction, Instruction.outcome, bind_assoc,
      ok_bind]
  | binary op p double a b =>
    simp only [evaluate, evaluateAll, operands, instruction, Instruction.outcome, bind_assoc,
      ok_bind]
  | choice p c a b =>
    simp only [evaluate, evaluateAll, operands, instruction, Instruction.outcome, bind_assoc,
      ok_bind]

/-! ### Operands on the stack -/

namespace ValueStack

/-- The last of the values comes to stand on top. -/
def pushAll (s : ValueStack) (vs : List Value) : ValueStack :=
  ⟨vs.reverse ++ s.values⟩

@[simp] theorem pushAll_nil (s : ValueStack) : s.pushAll [] = s := rfl

theorem pushAll_cons (s : ValueStack) (v : Value) (vs : List Value) :
    s.pushAll (v :: vs) = (s.push v).pushAll vs := by
  simp [pushAll, push]

theorem popMany_pushAll (s : ValueStack) (vs : List Value) :
    (s.pushAll vs).popMany vs.length = .ok (vs, s) := by
  have ht : (vs.reverse ++ s.values).take vs.length = vs.reverse :=
    List.take_left' List.length_reverse
  have hd : (vs.reverse ++ s.values).drop vs.length = s.values :=
    List.drop_left' List.length_reverse
  simp only [popMany, pushAll, ht, hd, List.length_reverse, List.reverse_reverse, if_true]

end ValueStack

/-- An instruction puts what it makes of its operands in their place. -/
theorem Instruction.run_pushAll (moment : Moment) (i : Instruction) (stack : ValueStack)
    (vs : List Value) (hl : vs.length = i.action.operandCount) :
    i.run rule known functions moment (stack.pushAll vs) = (do
      let v ← i.outcome rule known functions moment vs
      .ok (stack.push v)) := by
  obtain ⟨action, position⟩ := i
  cases action with
  | constant v =>
    obtain rfl := List.length_eq_zero_iff.mp hl
    rfl
  | name n =>
    obtain rfl := List.length_eq_zero_iff.mp hl
    cases hk : known n <;> simp [run, outcome, hk]
  | call function count =>
    have hp := stack.popMany_pushAll vs
    rw [show vs.length = count from hl] at hp
    cases hf : functions function with
    | none => simp [run, outcome, hf]
    | some f => cases ha : f.checkArity count <;> simp [run, outcome, hf, ha, hp]
  | operator op =>
    have hp := stack.popMany_pushAll vs
    rw [show vs.length = op.arity from hl] at hp
    simp [run, outcome, hp]

/-! ### Running the program of a term -/

namespace Program

theorem runFrom_append (done : Nat) (before after : List Instruction) (stack : ValueStack) :
    runFrom rule known functions moments done (before ++ after) stack = (do
      let s ← runFrom rule known functions moments done before stack
      runFrom rule known functions moments (done + before.length) after s) := by
  induction before generalizing done stack with
  | nil => rfl
  | cons i before ih =>
    simp only [List.cons_append, runFrom, ih, bind_assoc, List.length_cons, Nat.add_assoc,
      Nat.add_comm 1]

end Program

namespace Term

open Program

def RunsAsEvaluated (t : Term) : Prop :=
  ∀ (done : Nat) (rest : List Instruction) (stack : ValueStack),
    runFrom rule known functions moments done (t.postorder ++ rest) stack = (do
      let v ← t.evaluate rule known functions moments done
      runFrom rule known functions moments (done + t.postorder.length) rest (stack.push v))

theorem runFrom_postorderAll {ts : List Term}
    (hts : ∀ t ∈ ts, t.RunsAsEvaluated rule known functions moments) (done : Nat)
    (rest : List Instruction) (stack : ValueStack) :
    runFrom rule known functions moments done (postorderAll ts ++ rest) stack = (do
      let vs ← evaluateAll rule known functions moments done ts
      runFrom rule known functions moments (done + (postorderAll ts).length) rest
        (stack.pushAll vs)) := by
  induction ts generalizing done stack with
  | nil => rfl
  | cons t ts ih =>
    obtain ⟨ht, hts⟩ := List.forall_mem_cons.mp hts
    rw [postorderAll, List.append_assoc, ht]
    simp only [ih hts, evaluateAll, bind_assoc, ok_bind, ValueStack.pushAll_cons,
      List.length_append, Nat.add_assoc]

theorem runsAsEvaluated (t : Term) : t.RunsAsEvaluated rule known functions moments := by
  refine of_operands (fun t ih => ?_) t
  intro done rest stack
  rw [postorder_eq, List.append_assoc, runFrom_postorderAll rule known functions moments ih,
    evaluate_eq, bind_assoc]
  cases hvs : evaluateAll rule known functions moments done t.operands with
  | error e => rfl
  | ok vs =>
    have hl : vs.length = t.instruction.action.operandCount :=
      (evaluateAll_length rule known functions moments hvs).trans t.length_operands
    simp only [ok_bind, List.singleton_append, runFrom, bind_assoc, List.length_append,
      List.length_singleton, Nat.add_assoc,
      Instruction.run_pushAll rule known functions _ t.instruction stack vs hl]

theorem evaluate_program (t : Term) :
    (Program.mk t.postorder).evaluate rule known functions moments =
      t.evaluate rule known functions moments 0 := by
  have h := t.runsAsEvaluated rule known functions moments 0 [] .empty
  rw [List.append_nil] at h
  rw [Program.evaluate, h, bind_assoc]
  cases t.evaluate rule known functions moments 0 <;> rfl

/-- Evaluating the program of a term is evaluating the term. Inside any program the instructions
of a term push its value, or fail as the term does. -/
theorem evaluate_postorder (t : Term) :
    (Program.mk t.postorder).evaluate rule known functions moments =
        t.evaluate rule known functions moments 0 ∧
      ∀ (done : Nat) (before after : List Instruction) (stack : ValueStack),
        runFrom rule known functions moments done (before ++ t.postorder ++ after) stack = (do
          let s ← runFrom rule known functions moments done before stack
          let v ← t.evaluate rule known functions moments (done + before.length)
          runFrom rule known functions moments (done + before.length + t.postorder.length) after
            (s.push v)) := by
  refine ⟨t.evaluate_program rule known functions moments, fun done before after stack => ?_⟩
  rw [List.append_assoc, runFrom_append]
  congr 1
  funext s
  exact t.runsAsEvaluated rule known functions moments _ after s

end Term

end Reckon
