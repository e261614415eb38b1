import Reckon.Proofs.Recognition
import Reckon.Proofs.TermEvaluation

/-!
# Assembled programs fit together

Each instruction takes its operands from the stack and puts one value there, so the number of values
is known before a program is run. The program of a term always has enough of them and leaves one.
Assembled programs are those of terms: only a called function can report that values are missing.
-/

namespace Reckon

variable (rule : TextRule) (known : Variables) (functions : Functions) (moments : Moments)

/-! ### Running one instruction -/

theorem ValueStack.popMany_eq_ok {s rest : ValueStack} {n : Nat} {vs : List Value}
    (h : s.popMany n = .ok (vs, rest)) : s = rest.pushAll vs ∧ vs.length = n := by
  rw [popMany] at h
  split at h
  · rename_i hl
    cases h
    refine ⟨?_, List.length_reverse.trans hl⟩
    simp only [pushAll, List.reverse_reverse, List.take_append_drop]
  · cases h

theorem ValueStack.exists_pushAll {s : ValueStack} {n : Nat} (h : n ≤ s.length) :
    ∃ (rest : ValueStack) (vs : List Value), s = rest.pushAll vs ∧ vs.length = n := by
  have hl : (s.values.take n).length = n := List.length_take_of_le h
  refine ⟨⟨s.values.drop n⟩, (s.values.take n).reverse, ?_, List.length_reverse.trans hl⟩
  simp only [pushAll, List.reverse_reverse, List.take_append_drop]

theorem ValueStack.length_push (s : ValueStack) (v : Value) :
    (s.push v).length = s.length + 1 := rfl

theorem ValueStack.length_pushAll (s : ValueStack) (vs : List Value) :
    (s.pushAll vs).length = s.length + vs.length := by
  simp only [length, pushAll, List.length_append, List.length_reverse, Nat.add_comm]

/-- An instruction that does not fail puts one value in the place of its operands. -/
theorem Instruction.run_eq_ok {moment : Moment} {i : Instruction} {s s' : ValueStack}
    (h : i.run rule known functions moment s = .ok s') :
    ∃ (rest : ValueStack) (vs : List Value) (v : Value),
      s = rest.pushAll vs ∧ vs.length = i.action.operandCount ∧ s' = rest.push v := by
  obtain ⟨action, position⟩ := i
  cases action with
  | constant v =>
    cases h
    exact ⟨s, [], v, rfl, rfl, rfl⟩
  | name n =>
    simp only [run] at h
    split at h
    · rename_i v hv
      cases h
      exact ⟨s, [], v, rfl, rfl, rfl⟩
    · cases h
  | call function count =>
    simp only [run] at h
    split at h
    · cases h
    · obtain ⟨-, -, h⟩ := bind_eq_ok.mp h
      obtain ⟨⟨vs, rest⟩, hpop, h⟩ := bind_eq_ok.mp h
      obtain ⟨v, -, h⟩ := bind_eq_ok.mp h
      obtain ⟨hs, hl⟩ := ValueStack.popMany_eq_ok hpop
      cases h
      exact ⟨rest, vs, v, hs, hl, rfl⟩
  | operator op =>
    obtain ⟨⟨vs, rest⟩, hpop, h⟩ := bind_eq_ok.mp h
    obtain ⟨v, -, h⟩ := bind_eq_ok.mp h
    obtain ⟨hs, hl⟩ := ValueStack.popMany_eq_ok hpop
    cases h
    exact ⟨rest, vs, v, hs, hl, rfl⟩

theorem Instruction.run_length {moment : Moment} {i : Instruction} {s s' : ValueStack}
    (h : i.run rule known functions moment s = .ok s') :
    s'.length + i.action.operandCount = s.length + 1 := by
  obtain ⟨rest, vs, v, rfl, hl, rfl⟩ := run_eq_ok rule known functions h
  rw [ValueStack.length_push, ValueStack.length_pushAll, ← hl]
  omega

/-! ### How many values instructions leave -/

/-- The values pushed by instructions, less those they take. -/
def depth : List Instruction → Int
  | [] => 0
  | i :: rest => 1 - i.action.operandCount + depth rest

/-- Each instruction finds its operands among so many values and those pushed before it. -/
def Supplied (available : Int) : List Instruction → Prop
  | [] => True
  | i :: rest =>
    i.action.operandCount ≤ available ∧ Supplied (available + 1 - i.action.operandCount) rest

theorem depth_append (before after : List Instruction) :
    depth (before ++ after) = depth before + depth after := by
  induction before with
  | nil => simp [depth]
  | cons i before ih =>
    rw [List.cons_append, depth, depth, ih]
    omega

theorem supplied_append {available : Int} {before after : List Instruction} :
    Supplied available (before ++ after) ↔
      Supplied available before ∧ Supplied (available + depth before) after := by
  induction before generalizing available with
  | nil => simp [Supplied, depth]
  | cons i before ih =>
    have ha : available + 1 - i.action.operandCount + depth before =
        available + (1 - i.action.operandCount + depth before) := by omega
    simp only [List.cons_append, Supplied, depth, ih, ha, and_assoc]

theorem Supplied.mono {available more : Int} {l : List Instruction} (h : Supplied available l)
    (hm : available ≤ more) : Supplied more l := by
  induction l generalizing available more with
  | nil => trivial
  | cons i l ih =>
    obtain ⟨hi, hl⟩ := h
    exact ⟨Int.le_trans hi hm, ih hl (by omega)⟩

theorem runFrom_depth {done : Nat} {l : List Instruction} {s s' : ValueStack}
    (h : Program.runFrom rule known functions moments done l s = .ok s') :
    (s'.length : Int) = s.length + depth l := by
  induction l generalizing done s with
  | nil =>
    cases h
    simp [depth]
  | cons i l ih =>
    obtain ⟨t, ht, h⟩ := bind_eq_ok.mp h
    have hlen := Instruction.run_length rule known functions ht
    have hrest := ih h
    rw [depth]
    omega

namespace Term

def LeavesOne (t : Term) : Prop :=
  Supplied 0 t.postorder ∧ depth t.postorder = 1

theorem postorderAll_leaves {ts : List Term} (hts : ∀ t ∈ ts, t.LeavesOne) :
    Supplied 0 (postorderAll ts) ∧ depth (postorderAll ts) = ts.length := by
  induction ts with
  | nil => exact ⟨trivial, rfl⟩
  | cons t ts ih =>
    obtain ⟨⟨hs, hd⟩, hts⟩ := List.forall_mem_cons.mp hts
    obtain ⟨hsup, hdep⟩ := ih hts
    rw [postorderAll, supplied_append, depth_append, hd, hdep, List.length_cons]
    refine ⟨⟨hs, hsup.mono ?_⟩, ?_⟩ <;> omega

theorem leavesOne (t : Term) : t.LeavesOne := by
  refine of_operands (fun t ih => ?_) t
  obtain ⟨hs, hd⟩ := postorderAll_leaves ih
  have hl := t.length_operands
  rw [LeavesOne, postorder_eq, supplied_append, depth_append, hd]
  refine ⟨⟨hs, ?_, trivial⟩, ?_⟩
  · omega
  · simp only [depth]
    omega

end Term

/-! ### Which instruction fails -/

theorem Program.runFrom_eq_error {done : Nat} {l : List Instruction} {s : ValueStack}
    {e : EvaluationError} (h : runFrom rule known functions moments done l s = .error e) :
    ∃ before i after t, l = before ++ i :: after ∧
      runFrom rule known functions moments done before s = .ok t ∧
      i.run rule known functions (moments (done + before.length)) t = .error e := by
  induction l generalizing done s with
  | nil => cases h
  | cons i l ih =>
    rcases bind_eq_error.mp h with hi | ⟨t, ht, h⟩
    · exact ⟨[], i, l, s, rfl, rfl, hi⟩
    · obtain ⟨before, j, after, u, rfl, hb, hj⟩ := ih h
      refine ⟨i :: before, j, after, u, rfl, ?_, ?_⟩
      · rw [runFrom, ht, ok_bind, hb]
      · rwa [List.length_cons, ← Nat.add_assoc, Nat.add_right_comm]

def EvaluationError.isMisfit : EvaluationError → Bool
  | .stackUnderflow | .stackImbalance _ | .internal _ => true
  | _ => false

theorem Function.checkArity_eq_ok {f : Function} {count : Nat} (h : f.checkArity count = .ok ()) :
    f.accepts count := by
  by_contra hn
  rw [checkArity, if_neg hn] at h
  cases h

theorem Function.checkArity_eq_error {f : Function} {count : Nat} {e : EvaluationError}
    (h : f.checkArity count = .error e) : e = .argumentCount f.name f.arity count := by
  rw [checkArity] at h
  split at h
  · cases h
  · exact (Except.error.inj h).symm

theorem evaluated_eq_error {o : Outcome Value} {e : EvaluationError}
    (h : evaluated o = .error e) : ∃ error, e = .operation error := by
  cases o with
  | error error => exact ⟨error, (Except.error.inj h).symm⟩
  | ok v => cases h

/-- The function that an instruction calls with the arguments at the moment fails with the error. -/
def Instruction.FailsInCall (moment : Moment) (i : Instruction) (arguments : List Value)
    (e : EvaluationError) : Prop :=
  ∃ (function : String) (f : Function), i.action = .call function arguments.length ∧
    functions function = some f ∧ f.accepts arguments.length ∧
    f.body rule moment arguments = .error e

/-- With all its operands an instruction misfits only in a function that it calls. -/
theorem Instruction.failsInCall_of_misfit {moment : Moment} {i : Instruction} {vs : List Value}
    {e : EvaluationError} (hl : vs.length = i.action.operandCount)
    (h : i.outcome rule known functions moment vs = .error e) (he : e.isMisfit) :
    i.FailsInCall rule functions moment vs e := by
  obtain ⟨action, position⟩ := i
  cases action with
  | constant v => cases h
  | name n =>
    simp only [outcome] at h
    split at h
    · cases h
    · cases h
      cases he
  | call function count =>
    obtain rfl : vs.length = count := hl
    simp only [outcome] at h
    split at h
    · cases h
      cases he
    · rename_i f hf
      rcases bind_eq_error.mp h with ha | ⟨⟨⟩, ha, hb⟩
      · obtain rfl := Function.checkArity_eq_error ha
        cases he
      · exact ⟨function, f, rfl, hf, Function.checkArity_eq_ok ha, hb⟩
  | operator op =>
    obtain ⟨error, rfl⟩ := evaluated_eq_error h
    cases he

theorem Instruction.run_misfit {moment : Moment} {i : Instruction} {s : ValueStack}
    {e : EvaluationError} (hs : i.action.operandCount ≤ s.length)
    (h : i.run rule known functions moment s = .error e) (he : e.isMisfit) :
    ∃ (rest : ValueStack) (vs : List Value), s = rest.pushAll vs ∧
      i.FailsInCall rule functions moment vs e := by
  obtain ⟨rest, vs, rfl, hl⟩ := ValueStack.exists_pushAll hs
  rw [run_pushAll rule known functions moment i rest vs hl] at h
  rcases bind_eq_error.mp h with ho | ⟨v, -, h⟩
  · exact ⟨rest, vs, rfl, failsInCall_of_misfit rule known functions hl ho he⟩
  · cases h

/-! ### Programs that fit together -/

namespace Program

structure Fits (p : Program) : Prop where
  actions : ofTokens (p.instructions.map fun i => ⟨.action i.action, i.position⟩) = .ok p
  supplied : ∀ (before after : List Instruction) (i : Instruction) (stack : ValueStack),
    p.instructions = before ++ i :: after →
    runFrom rule known functions moments 0 before .empty = .ok stack →
    i.action.operandCount ≤ stack.length
  single : ∀ stack : ValueStack,
    runFrom rule known functions moments 0 p.instructions .empty = .ok stack → stack.length = 1
  misfit : ∀ e : EvaluationError, p.evaluate rule known functions moments = .error e → e.isMisfit →
    ∃ (before after : List Instruction) (i : Instruction) (stack : ValueStack)
      (arguments : List Value),
      p.instructions = before ++ i :: after ∧
      runFrom rule known functions moments 0 before .empty = .ok (stack.pushAll arguments) ∧
      i.FailsInCall rule functions (moments before.length) arguments e

theorem ofTokens_actions (l : List Instruction) :
    ofTokens (l.map fun i => ⟨.action i.action, i.position⟩) = .ok ⟨l⟩ := by
  induction l with
  | nil => rfl
  | cons i l ih => simp only [List.map_cons, ofTokens, ih, ok_bind]

theorem result_of_length {stack : ValueStack} (h : stack.length = 1) :
    ∃ v, result stack = .ok v := by
  obtain ⟨v, hv⟩ := List.length_eq_one_iff.mp h
  exact ⟨v, by rw [result, hv]⟩

theorem fits_postorder (t : Term) : Fits rule known functions moments ⟨t.postorder⟩ := by
  obtain ⟨hs, hd⟩ := t.leavesOne
  have supplied : ∀ (before after : List Instruction) (i : Instruction) (stack : ValueStack),
      t.postorder = before ++ i :: after →
      runFrom rule known functions moments 0 before .empty = .ok stack →
      i.action.operandCount ≤ stack.length := by
    intro before after i stack hp hb
    rw [hp, supplied_append] at hs
    have hlen := runFrom_depth rule known functions moments hb
    have hi := hs.2.1
    have hempty : ValueStack.empty.length = 0 := rfl
    omega
  have single : ∀ stack : ValueStack,
      runFrom rule known functions moments 0 t.postorder .empty = .ok stack → stack.length = 1 := by
    intro stack h
    have hlen := runFrom_depth rule known functions moments h
    have hempty : ValueStack.empty.length = 0 := rfl
    omega
  refine ⟨ofTokens_actions t.postorder, supplied, single, fun e h he => ?_⟩
  rcases bind_eq_error.mp h with hrun | ⟨stack, hrun, hres⟩
  · obtain ⟨before, i, after, s, hp, hb, hi⟩ := runFrom_eq_error rule known functions moments hrun
    rw [Nat.zero_add] at hi
    obtain ⟨stack, arguments, rfl, hf⟩ :=
      Instruction.run_misfit rule known functions (supplied before after i s hp hb) hi he
    exact ⟨before, after, i, stack, arguments, hp, hb, hf⟩
  · obtain ⟨v, hv⟩ := result_of_length (single stack hrun)
    rw [hv] at hres
    cases hres

/-- Programs assembled from tokens fit together, with any names and functions. -/
theorem fits_of_assemble {tokens : List Token} {p : Program} (h : assemble tokens = .ok p) :
    p.Fits rule known functions moments := by
  obtain ⟨t, -, rfl⟩ := parses_of_assemble h
  exact fits_postorder rule known functions moments t

theorem fits_of_failing_call :
    Fits .exact (fun _ => none)
      (fun _ => some ⟨"f", 1, some 1, fun _ _ _ => .error .stackUnderflow⟩) (fun _ => ⟨.epoch, 0⟩)
      ⟨[⟨.constant .null, ⟨1, 4⟩⟩, ⟨.call "f" 1, ⟨1, 2⟩⟩, ⟨.operator .negate, ⟨1, 1⟩⟩]⟩ := by
  have h : assemble
      [⟨.action (.operator .negate), ⟨1, 1⟩⟩, ⟨.action (.call "f" 0), ⟨1, 2⟩⟩,
        ⟨.mark .leftParen, ⟨1, 3⟩⟩, ⟨.action (.constant .null), ⟨1, 4⟩⟩,
        ⟨.mark .rightParen, ⟨1, 8⟩⟩, ⟨.ending, ⟨1, 9⟩⟩] =
      .ok ⟨[⟨.constant .null, ⟨1, 4⟩⟩, ⟨.call "f" 1, ⟨1, 2⟩⟩, ⟨.operator .negate, ⟨1, 1⟩⟩]⟩ := rfl
  exact fits_of_assemble _ _ _ _ h

end Program

end Reckon
