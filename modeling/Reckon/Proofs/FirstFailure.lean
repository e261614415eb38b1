import Mathlib.Data.List.Induction
import Reckon.Proofs.Balance

/-!
# The first instruction that fails

Instructions that need not fit together are run from the first one on. How many values the stack
holds in front of an instruction is known from the instructions before it: if the instruction needs
more, it fails for want of them, but only after a function was found and accepts its number of
arguments. The first failure is that of the program. If there is none, the values left are counted.
-/

namespace Reckon

variable (rule : TextRule) (known : Variables) (functions : Functions) (moment : Moment)

/-! ### What one instruction does -/

namespace Instruction

inductive Gives (i : Instruction) : List Value → Value → Prop where
  | constant {v : Value} (hi : i.action = .constant v) : Gives i [] v
  | name {n : String} {v : Value} (hi : i.action = .name n) (hn : known n = some v) : Gives i [] v
  | call {function : String} {f : Function} {arguments : List Value} {v : Value}
      (hi : i.action = .call function arguments.length) (hf : functions function = some f)
      (ha : f.accepts arguments.length) (hv : f.body rule moment arguments = .ok v) :
      Gives i arguments v
  | operator {op : Operator} {operands : List Value} {v : Value} (hi : i.action = .operator op)
      (hl : operands.length = op.arity) (hv : op.apply rule operands = .ok v) :
      Gives i operands v

/-- Why the instruction fails where so many values are available. They are listed from the one
pushed first, so that the operands are the last of them. -/
inductive Fails (i : Instruction) (available : Int) (values : List Value) :
    EvaluationError → Prop where
  | unknownName {n : String} (hi : i.action = .name n) (hn : known n = none) :
      Fails i available values (.unknownVariable n)
  | unknownFunction {function : String} {count : Nat} (hi : i.action = .call function count)
      (hf : functions function = none) : Fails i available values (.unknownFunction function)
  | argumentCount {function : String} {count : Nat} {f : Function}
      (hi : i.action = .call function count) (hf : functions function = some f)
      (ha : ¬f.accepts count) :
      Fails i available values (.argumentCount f.name f.arity count)
  | missingArguments {function : String} {count : Nat} {f : Function}
      (hi : i.action = .call function count) (hf : functions function = some f)
      (ha : f.accepts count) (hmissing : available < count) :
      Fails i available values .stackUnderflow
  | missingOperands {op : Operator} (hi : i.action = .operator op)
      (hmissing : available < op.arity) : Fails i available values .stackUnderflow
  | body {below arguments : List Value} {e : EvaluationError} (hv : values = below ++ arguments)
      (he : i.FailsInCall rule functions moment arguments e) : Fails i available values e
  | operation {op : Operator} {below operands : List Value} {error : OperationError}
      (hi : i.action = .operator op) (hv : values = below ++ operands)
      (hl : operands.length = op.arity) (he : op.apply rule operands = .error error) :
      Fails i available values (.operation error)

end Instruction

/-! ### Instructions on the stack -/

theorem Function.checkArity_of_accepts {f : Function} {count : Nat} (h : f.accepts count) :
    f.checkArity count = .ok () :=
  if_pos h

theorem Function.checkArity_of_not_accepts {f : Function} {count : Nat} (h : ¬f.accepts count) :
    f.checkArity count = .error (.argumentCount f.name f.arity count) :=
  if_neg h

namespace ValueStack

theorem pushAll_append (s : ValueStack) (vs ws : List Value) :
    s.pushAll (vs ++ ws) = (s.pushAll vs).pushAll ws := by
  simp [pushAll]

theorem pushAll_push (s : ValueStack) (vs : List Value) (v : Value) :
    s.pushAll (vs ++ [v]) = (s.pushAll vs).push v := by
  simp [pushAll, push]

theorem exists_pushAll_empty (s : ValueStack) : ∃ vs, s = empty.pushAll vs :=
  ⟨s.values.reverse, by simp [pushAll, empty]⟩

theorem pushAll_empty_inj {vs ws : List Value} (h : empty.pushAll vs = empty.pushAll ws) :
    vs = ws := by
  simpa [pushAll, empty] using h

theorem length_pushAll_empty (vs : List Value) : (empty.pushAll vs).length = vs.length := by
  simp [length, pushAll, empty]

theorem popMany_of_lt {s : ValueStack} {n : Nat} (h : s.length < n) :
    s.popMany n = .error .stackUnderflow := by
  replace h : s.values.length < n := h
  refine if_neg fun hl => ?_
  rw [List.length_take] at hl
  omega

end ValueStack

namespace Instruction

variable {rule known functions moment}

theorem gives_iff {i : Instruction} {operands : List Value} {v : Value} :
    i.Gives rule known functions moment operands v ↔
      operands.length = i.action.operandCount ∧
        i.outcome rule known functions moment operands = .ok v := by
  obtain ⟨action, position⟩ := i
  constructor
  · rintro (hi | ⟨hi, hn⟩ | ⟨hi, hf, ha, hv⟩ | ⟨hi, hl, hv⟩) <;> obtain rfl : action = _ := hi
    · exact ⟨rfl, rfl⟩
    · exact ⟨rfl, by simp only [outcome, hn]⟩
    · exact ⟨rfl, by simp only [outcome, hf, Function.checkArity_of_accepts ha, ok_bind, hv]⟩
    · exact ⟨hl, by simp only [outcome, hv]; rfl⟩
  · rintro ⟨hl, ho⟩
    cases action with
    | constant w =>
      obtain rfl := List.length_eq_zero_iff.mp hl
      cases ho
      exact .constant rfl
    | name n =>
      obtain rfl := List.length_eq_zero_iff.mp hl
      simp only [outcome] at ho
      split at ho
      · cases ho
        exact .name rfl ‹_›
      · cases ho
    | call function count =>
      obtain rfl : operands.length = count := hl
      simp only [outcome] at ho
      split at ho
      · cases ho
      · obtain ⟨⟨⟩, ha, hv⟩ := bind_eq_ok.mp ho
        exact .call rfl ‹_› (Function.checkArity_eq_ok ha) hv
    | operator op =>
      simp only [outcome] at ho
      cases happly : op.apply rule operands with
      | error error => rw [happly] at ho; cases ho
      | ok w =>
        rw [happly] at ho
        cases ho
        exact .operator rfl hl happly

theorem Gives.run_eq {i : Instruction} {operands : List Value} {v : Value}
    (h : i.Gives rule known functions moment operands v) (s : ValueStack) :
    i.run rule known functions moment (s.pushAll operands) = .ok (s.push v) := by
  obtain ⟨hl, ho⟩ := gives_iff.mp h
  rw [run_pushAll rule known functions moment i s operands hl, ho, ok_bind]

theorem exists_gives {i : Instruction} {s s' : ValueStack}
    (h : i.run rule known functions moment s = .ok s') :
    ∃ (rest : ValueStack) (operands : List Value) (v : Value), s = rest.pushAll operands ∧
      i.Gives rule known functions moment operands v ∧ s' = rest.push v := by
  obtain ⟨rest, operands, v, rfl, hl, rfl⟩ := run_eq_ok rule known functions h
  rw [run_pushAll rule known functions moment i rest operands hl] at h
  obtain ⟨w, ho, hw⟩ := bind_eq_ok.mp h
  cases hw
  exact ⟨rest, operands, v, rfl, gives_iff.mpr ⟨hl, ho⟩, rfl⟩

/-- With all its operands there, an instruction fails as its outcome does. -/
theorem fails_of_outcome {i : Instruction} {available : Int} {below operands : List Value}
    {e : EvaluationError} (hl : operands.length = i.action.operandCount)
    (h : i.outcome rule known functions moment operands = .error e) :
    i.Fails rule known functions moment available (below ++ operands) e := by
  obtain ⟨action, position⟩ := i
  cases action with
  | constant v => cases h
  | name n =>
    simp only [outcome] at h
    split at h
    · cases h
    · cases h
      exact .unknownName rfl ‹_›
  | call function count =>
    obtain rfl : operands.length = count := hl
    simp only [outcome] at h
    split at h
    · cases h
      exact .unknownFunction rfl ‹_›
    · rename_i f hf
      by_cases ha : f.accepts operands.length
      · rw [Function.checkArity_of_accepts ha, ok_bind] at h
        exact .body rfl ⟨function, f, rfl, hf, ha, h⟩
      · rw [Function.checkArity_of_not_accepts ha] at h
        cases h
        exact .argumentCount rfl hf ha
  | operator op =>
    simp only [outcome] at h
    cases happly : op.apply rule operands with
    | error error =>
      rw [happly] at h
      cases h
      exact .operation rfl rfl hl happly
    | ok v => rw [happly] at h; cases h

/-- Operands are missing only where they are taken: a function is found and asked first. -/
theorem fails_of_missing {i : Instruction} {s : ValueStack} {values : List Value}
    {e : EvaluationError} (hs : s.length < i.action.operandCount)
    (h : i.run rule known functions moment s = .error e) :
    i.Fails rule known functions moment s.length values e := by
  obtain ⟨action, position⟩ := i
  cases action with
  | constant v => cases h
  | name n => exact absurd hs (Nat.not_lt_zero _)
  | call function count =>
    replace hs : s.length < count := hs
    simp only [run] at h
    split at h
    · cases h
      exact .unknownFunction rfl ‹_›
    · rename_i f hf
      by_cases ha : f.accepts count
      · rw [Function.checkArity_of_accepts ha, ok_bind, ValueStack.popMany_of_lt hs] at h
        cases h
        exact .missingArguments rfl hf ha (Int.ofNat_lt.mpr hs)
      · rw [Function.checkArity_of_not_accepts ha] at h
        cases h
        exact .argumentCount rfl hf ha
  | operator op =>
    replace hs : s.length < op.arity := hs
    simp only [run] at h
    rw [ValueStack.popMany_of_lt hs] at h
    cases h
    exact .missingOperands rfl (Int.ofNat_lt.mpr hs)

theorem Fails.run_eq {i : Instruction} {values : List Value} {e : EvaluationError}
    (h : i.Fails rule known functions moment values.length values e) :
    i.run rule known functions moment (ValueStack.empty.pushAll values) = .error e := by
  have hlength := ValueStack.length_pushAll_empty values
  cases h with
  | unknownName hi hn => simp only [run, hi, hn]
  | unknownFunction hi hf => simp only [run, hi, hf]
  | argumentCount hi hf ha =>
    simp only [run, hi, hf, Function.checkArity_of_not_accepts ha, error_bind]
  | missingArguments hi hf ha hmissing =>
    have hlt := hlength ▸ Int.ofNat_lt.mp hmissing
    simp only [run, hi, hf, Function.checkArity_of_accepts ha, ok_bind,
      ValueStack.popMany_of_lt hlt, error_bind]
  | missingOperands hi hmissing =>
    have hlt := hlength ▸ Int.ofNat_lt.mp hmissing
    simp only [run, hi, ValueStack.popMany_of_lt hlt, error_bind]
  | body hv he =>
    obtain ⟨function, f, hi, hf, ha, he⟩ := he
    simp only [run, hi, hf, Function.checkArity_of_accepts ha, ok_bind, hv,
      ValueStack.pushAll_append, ValueStack.popMany_pushAll, he, error_bind]
  | operation hi hv hl he =>
    simp only [run, hi, hv, ← hl, ValueStack.pushAll_append, ValueStack.popMany_pushAll, ok_bind,
      he]
    rfl

theorem run_eq_error_iff {i : Instruction} {values : List Value} {e : EvaluationError} :
    i.run rule known functions moment (ValueStack.empty.pushAll values) = .error e ↔
      i.Fails rule known functions moment values.length values e := by
  refine ⟨fun h => ?_, Fails.run_eq⟩
  have hlength := ValueStack.length_pushAll_empty values
  rcases Nat.lt_or_ge (ValueStack.empty.pushAll values).length i.action.operandCount with hs | hs
  · rw [← hlength]
    exact fails_of_missing hs h
  · obtain ⟨rest, operands, hrest, hl⟩ := ValueStack.exists_pushAll hs
    obtain ⟨below, rfl⟩ := rest.exists_pushAll_empty
    obtain rfl := ValueStack.pushAll_empty_inj (hrest.trans (ValueStack.pushAll_append ..).symm)
    rw [hrest, run_pushAll rule known functions moment i _ operands hl] at h
    rcases bind_eq_error.mp h with ho | ⟨v, -, hv⟩
    · exact fails_of_outcome hl ho
    · cases hv

end Instruction

/-! ### Instructions one after another -/

variable (moments : Moments)

namespace Program

inductive Leaves : List Instruction → List Value → Prop where
  | nil : Leaves [] []
  | concat {before : List Instruction} {i : Instruction} {below operands : List Value} {v : Value}
      (hb : Leaves before (below ++ operands))
      (hi : i.Gives rule known functions (moments before.length) operands v) :
      Leaves (before ++ [i]) (below ++ [v])

def FailsFirst (p : Program) (e : EvaluationError) : Prop :=
  ∃ (before after : List Instruction) (i : Instruction) (values : List Value),
    p.instructions = before ++ i :: after ∧ Leaves rule known functions moments before values ∧
      i.Fails rule known functions (moments before.length) (depth before) values e

variable {rule known functions moments}

theorem leaves_iff {l : List Instruction} {values : List Value} :
    Leaves rule known functions moments l values ↔
      runFrom rule known functions moments 0 l .empty = .ok (ValueStack.empty.pushAll values) := by
  constructor
  · intro h
    induction h with
    | nil => rfl
    | concat hb hi ih =>
      rw [runFrom_append, ih, ok_bind, ValueStack.pushAll_append, Nat.zero_add, runFrom, hi.run_eq,
        ok_bind, runFrom, ValueStack.pushAll_push]
  · intro h
    induction l using List.reverseRecOn generalizing values with
    | nil =>
      obtain rfl : [] = values := ValueStack.pushAll_empty_inj (Except.ok.inj h)
      exact .nil
    | append_singleton before i ih =>
      rw [runFrom_append, Nat.zero_add] at h
      obtain ⟨s, hb, h⟩ := bind_eq_ok.mp h
      obtain ⟨s', hi, h⟩ := bind_eq_ok.mp h
      obtain ⟨rest, operands, v, rfl, hg, rfl⟩ := Instruction.exists_gives hi
      obtain ⟨below, rfl⟩ := rest.exists_pushAll_empty
      rw [← ValueStack.pushAll_push] at h
      obtain rfl := ValueStack.pushAll_empty_inj (Except.ok.inj h)
      rw [← ValueStack.pushAll_append] at hb
      exact .concat (ih hb) hg

theorem Leaves.length_eq {l : List Instruction} {values : List Value}
    (h : Leaves rule known functions moments l values) : (values.length : Int) = depth l := by
  have hdepth := runFrom_depth rule known functions moments (leaves_iff.mp h)
  rw [ValueStack.length_pushAll_empty] at hdepth
  exact hdepth.trans (Int.zero_add _)

theorem runFrom_eq_error_iff {p : Program} {e : EvaluationError} :
    runFrom rule known functions moments 0 p.instructions .empty = .error e ↔
      p.FailsFirst rule known functions moments e := by
  constructor
  · intro h
    obtain ⟨before, i, after, s, hp, hb, hi⟩ := runFrom_eq_error rule known functions moments h
    obtain ⟨values, rfl⟩ := s.exists_pushAll_empty
    have hleaves := leaves_iff.mpr hb
    refine ⟨before, after, i, values, hp, hleaves, ?_⟩
    rw [← hleaves.length_eq]
    rw [Nat.zero_add] at hi
    exact Instruction.run_eq_error_iff.mp hi
  · rintro ⟨before, after, i, values, hp, hb, hi⟩
    rw [← hb.length_eq] at hi
    rw [hp, runFrom_append, leaves_iff.mp hb, ok_bind, Nat.zero_add, runFrom, hi.run_eq, error_bind]

theorem evaluate_of_leaves {p : Program} {values : List Value}
    (h : Leaves rule known functions moments p.instructions values) :
    p.evaluate rule known functions moments = result (ValueStack.empty.pushAll values) := by
  rw [evaluate, leaves_iff.mp h, ok_bind]

theorem result_of_length_ne {values : List Value} (h : values.length ≠ 1) :
    result (ValueStack.empty.pushAll values) = .error (.stackImbalance values.length) := by
  rw [← ValueStack.length_pushAll_empty] at h ⊢
  rw [result]
  split
  · rename_i v hv
    exact absurd (congrArg List.length hv) h
  · rfl

theorem ofTokens_eq_ok {tokens : List Token} {p : Program} (h : ofTokens tokens = .ok p) :
    tokens = p.instructions.map fun i => ⟨.action i.action, i.position⟩ := by
  induction tokens generalizing p with
  | nil =>
    cases h
    rfl
  | cons token tokens ih =>
    obtain ⟨kind, position⟩ := token
    cases kind with
    | action a =>
      obtain ⟨rest, hrest, hp⟩ := bind_eq_ok.mp h
      cases hp
      rw [List.map_cons, ← ih hrest]
    | mark m => cases h
    | unknown text => cases h
    | ending => cases h

/-- A program of any instructions fails with the first failure among them, and with the number of
values left if there is none and it is not one. -/
theorem evaluate_first_failure {tokens : List Token} {p : Program} (h : ofTokens tokens = .ok p) :
    tokens = p.instructions.map (fun i => ⟨.action i.action, i.position⟩) ∧
      (∀ before after values, p.instructions = before ++ after →
        Leaves rule known functions moments before values → (values.length : Int) = depth before) ∧
      (∀ e, p.FailsFirst rule known functions moments e →
        p.evaluate rule known functions moments = .error e) ∧
      ((∀ e, ¬p.FailsFirst rule known functions moments e) →
        ∃ values, Leaves rule known functions moments p.instructions values ∧
          (values.length : Int) = depth p.instructions ∧
          (depth p.instructions = 1 →
            ∃ v, values = [v] ∧ p.evaluate rule known functions moments = .ok v) ∧
          (depth p.instructions ≠ 1 →
            p.evaluate rule known functions moments = .error (.stackImbalance values.length))) ∧
      (∀ text, p.evaluate rule known functions moments = .error (.internal text) →
        ∃ before i after arguments, p.instructions = before ++ i :: after ∧
          i.FailsInCall rule functions (moments before.length) arguments (.internal text)) := by
  refine ⟨ofTokens_eq_ok h, fun before after values _ hleaves => hleaves.length_eq,
    fun e he => ?_, fun hnone => ?_, fun text ht => ?_⟩
  · rw [evaluate, runFrom_eq_error_iff.mpr he, error_bind]
  · cases hrun : runFrom rule known functions moments 0 p.instructions .empty with
    | error e => exact absurd (runFrom_eq_error_iff.mp hrun) (hnone e)
    | ok s =>
      obtain ⟨values, rfl⟩ := s.exists_pushAll_empty
      have hleaves := leaves_iff.mpr hrun
      have hlength := hleaves.length_eq
      refine ⟨values, hleaves, hlength, fun hone => ?_, fun hne => ?_⟩
      · obtain ⟨v, rfl⟩ : ∃ v, values = [v] := List.length_eq_one_iff.mp (by omega)
        exact ⟨v, rfl, evaluate_of_leaves hleaves⟩
      · rw [evaluate_of_leaves hleaves, result_of_length_ne (by omega)]
  · rcases bind_eq_error.mp ht with hrun | ⟨s, -, hresult⟩
    · obtain ⟨before, after, i, values, hp, -, hi⟩ := runFrom_eq_error_iff.mp hrun
      cases hi with
      | body hv he => exact ⟨before, i, after, _, hp, he⟩
    · rw [result] at hresult
      split at hresult <;> cases hresult

/-- Of the two arguments one is missing, and what comes later is not looked at. -/
theorem evaluate_call_missing_argument :
    let f : Function := ⟨"F", 1, some 2, fun _ _ _ => .error (.internal "no value")⟩
    let instructions : List Instruction :=
      [⟨.constant .null, ⟨1, 3⟩⟩, ⟨.call "F" 2, ⟨1, 1⟩⟩, ⟨.name "x", ⟨1, 7⟩⟩]
    let tokens : List Token := instructions.map fun i => ⟨.action i.action, i.position⟩
    ofTokens tokens = .ok ⟨instructions⟩ ∧
      (Program.mk instructions).evaluate .exact (fun _ => none) (fun _ => some f)
        (fun _ => ⟨.epoch, 0⟩) = .error .stackUnderflow := by
  intro f instructions tokens
  have htokens : ofTokens tokens = .ok ⟨instructions⟩ := ofTokens_actions instructions
  refine ⟨htokens, (evaluate_first_failure htokens).2.2.1 _ ?_⟩
  have hleaves : Leaves .exact (fun _ => none) (fun _ => some f) (fun _ => ⟨.epoch, 0⟩)
      [⟨.constant .null, ⟨1, 3⟩⟩] [.null] :=
    @Leaves.concat _ _ _ _ [] _ [] [] .null .nil (.constant rfl)
  exact ⟨_, _, _, _, rfl, hleaves, .missingArguments rfl rfl (by decide) (by decide)⟩

end Program

end Reckon
