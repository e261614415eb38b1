import Mathlib.Data.List.Basic
import Reckon.Program

/-!
# Terms and their programs

A term is what a formula means before it is cut into instructions: an instruction and the terms it
is applied to. Writing all operands from left to right and each before what uses it gives the
program of the term. Different terms have different programs.
-/

namespace Reckon

inductive Term where
  | constant (value : Value) (position : Position)
  | name (name : String) (position : Position)
  | call (function : String) (position : Position) (arguments : List Term)
  | unary (op : Operator) (position : Position) (single : op.arity = 1) (operand : Term)
  | binary (op : Operator) (position : Position) (double : op.arity = 2) (left right : Term)
  | choice (position : Position) (condition ifTrue ifFalse : Term)

def Action.operandCount : Action → Nat
  | .constant _ | .name _ => 0
  | .call _ count => count
  | .operator op => op.arity

namespace Term

mutual

def postorder : Term → List Instruction
  | constant v p => [⟨.constant v, p⟩]
  | name n p => [⟨.name n, p⟩]
  | call f p ts => postorderAll ts ++ [⟨.call f ts.length, p⟩]
  | unary op p _ t => postorder t ++ [⟨.operator op, p⟩]
  | binary op p _ a b => postorder a ++ postorder b ++ [⟨.operator op, p⟩]
  | choice p c a b => postorder c ++ postorder a ++ postorder b ++ [⟨.operator .ternary, p⟩]

def postorderAll : List Term → List Instruction
  | [] => []
  | t :: ts => postorder t ++ postorderAll ts

end

/-! ### Every term is an instruction with operands -/

def instruction : Term → Instruction
  | constant v p => ⟨.constant v, p⟩
  | name n p => ⟨.name n, p⟩
  | call f p ts => ⟨.call f ts.length, p⟩
  | unary op p _ _ => ⟨.operator op, p⟩
  | binary op p _ _ _ => ⟨.operator op, p⟩
  | choice p _ _ _ => ⟨.operator .ternary, p⟩

def operands : Term → List Term
  | constant _ _ | name _ _ => []
  | call _ _ ts => ts
  | unary _ _ _ t => [t]
  | binary _ _ _ a b => [a, b]
  | choice _ c a b => [c, a, b]

theorem length_operands (t : Term) : t.operands.length = t.instruction.action.operandCount := by
  cases t with
  | unary op p single t => exact single.symm
  | binary op p double a b => exact double.symm
  | _ => rfl

theorem postorder_eq (t : Term) : t.postorder = postorderAll t.operands ++ [t.instruction] := by
  cases t <;> simp [postorder, postorderAll, operands, instruction]

theorem eq_of_instruction_eq {t u : Term} (hi : t.instruction = u.instruction)
    (ho : t.operands = u.operands) : t = u := by
  have hl := congrArg List.length ho
  cases t <;> cases u <;> simp_all [instruction, operands]

mutual

/-- What passes from its operands to a term holds of all terms. -/
theorem of_operands {P : Term → Prop} (step : ∀ t : Term, (∀ u ∈ t.operands, P u) → P t)
    (t : Term) : P t := by
  cases t with
  | constant v p => exact step _ (by simp [operands])
  | name n p => exact step _ (by simp [operands])
  | call f p ts => exact step _ (all_of_operands step ts)
  | unary op p single t => exact step _ (by simpa [operands] using of_operands step t)
  | binary op p double a b =>
    exact step _ (by simpa [operands] using ⟨of_operands step a, of_operands step b⟩)
  | choice p c a b =>
    exact step _ (by
      simpa [operands] using ⟨of_operands step c, of_operands step a, of_operands step b⟩)

theorem all_of_operands {P : Term → Prop} (step : ∀ t : Term, (∀ u ∈ t.operands, P u) → P t)
    (ts : List Term) : ∀ u ∈ ts, P u := by
  cases ts with
  | nil => exact List.forall_mem_nil P
  | cons t ts => exact List.forall_mem_cons.mpr ⟨of_operands step t, all_of_operands step ts⟩

end

/-! ### The program determines the term -/

theorem postorderAll_append (ts us : List Term) :
    postorderAll (ts ++ us) = postorderAll ts ++ postorderAll us := by
  induction ts with
  | nil => rfl
  | cons t ts ih => simp only [List.cons_append, postorderAll, ih, List.append_assoc]

theorem postorderAll_concat (ts : List Term) (t : Term) :
    postorderAll (ts ++ [t]) = postorderAll ts ++ postorder t := by
  rw [postorderAll_append]
  simp only [postorderAll, List.append_nil]

/-- Programs that read the same from their ends end with the same term. -/
def EndsWithOne (t : Term) : Prop :=
  ∀ (u : Term) (xs ys : List Instruction),
    t.postorder.reverse ++ xs = u.postorder.reverse ++ ys → t = u ∧ xs = ys

theorem postorderAll_reverse_inj {ts us : List Term} {xs ys : List Instruction}
    (hts : ∀ t ∈ ts, t.EndsWithOne) (hl : ts.length = us.length)
    (h : (postorderAll ts).reverse ++ xs = (postorderAll us).reverse ++ ys) :
    ts = us ∧ xs = ys := by
  induction ts generalizing us xs ys with
  | nil =>
    obtain rfl := List.length_eq_zero_iff.mp hl.symm
    exact ⟨rfl, h⟩
  | cons t ts ih =>
    cases us with
    | nil => cases hl
    | cons u us =>
      obtain ⟨ht, hts⟩ := List.forall_mem_cons.mp hts
      simp only [postorderAll, List.reverse_append, List.append_assoc] at h
      obtain ⟨rfl, hrest⟩ := ih hts (Nat.succ.inj hl) h
      obtain ⟨rfl, hr⟩ := ht u xs ys hrest
      exact ⟨rfl, hr⟩

theorem endsWithOne (t : Term) : t.EndsWithOne := by
  refine of_operands (fun t ih => ?_) t
  intro u xs ys h
  rw [postorder_eq t, postorder_eq u] at h
  simp only [List.reverse_append, List.reverse_singleton, List.cons_append,
    List.cons.injEq] at h
  obtain ⟨hi, ho⟩ := h
  have hl : t.operands.length = u.operands.length := by
    rw [length_operands, length_operands, hi]
  obtain ⟨hts, hr⟩ := postorderAll_reverse_inj ih hl ho
  exact ⟨eq_of_instruction_eq hi hts, hr⟩

theorem postorder_injective : Function.Injective postorder := by
  intro t u h
  exact (endsWithOne t u [] [] (by rw [h])).1

end Term

end Reckon
