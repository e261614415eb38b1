import Reckon.Proofs.Grammar
import Reckon.Proofs.Sequencing

/-!
# Frames while tokens are taken

Assembling takes the tokens before the first end one by one and then finishes. The latest frame
tells how tightly the operators of the operand that comes next must bind; an operator leaves exactly
those frames alone under which it may stand.
-/

namespace Reckon

def beforeEnding (tokens : List Token) : List Token :=
  tokens.takeWhile fun token => !token.kind.isEnding

/-- Where the tokens end: at the first end, or else at `position`. -/
def endPosition (position : Position) (tokens : List Token) : Position :=
  ((tokens.find? fun token => token.kind.isEnding).map Token.position).getD position

namespace Assembly

/-! ### Taking tokens -/

def takeAll (a : Assembly) (tokens : List Token) : Except SyntaxError Assembly :=
  tokens.foldlM take a

@[simp] theorem takeAll_nil (a : Assembly) : a.takeAll [] = .ok a := rfl

@[simp] theorem takeAll_cons (a : Assembly) (token : Token) (rest : List Token) :
    a.takeAll (token :: rest) = (a.take token >>= fun b => b.takeAll rest) :=
  List.foldlM_cons

@[simp] theorem takeAll_append (a : Assembly) (before after : List Token) :
    a.takeAll (before ++ after) = (a.takeAll before >>= fun b => b.takeAll after) :=
  List.foldlM_append

theorem run_cons (position : Position) (a : Assembly) (token : Token) (rest : List Token) :
    a.run position (token :: rest) =
      if token.kind.isEnding then a.finish token.position
      else a.take token >>= fun b => b.run position rest := by
  obtain ⟨kind, p⟩ := token
  cases kind <;> rfl

theorem run_eq_takeAll (position : Position) (a : Assembly) (tokens : List Token) :
    a.run position tokens = (do
      let b ← a.takeAll (beforeEnding tokens)
      b.finish (endPosition position tokens)) := by
  induction tokens generalizing a with
  | nil => rfl
  | cons token rest ih =>
    rw [run_cons]
    by_cases he : token.kind.isEnding
    · simp [he, beforeEnding, endPosition]
    · simp only [beforeEnding, endPosition] at ih
      simp [he, beforeEnding, endPosition, ih]

/-! ### Closing a level -/

def closer : Mark → List Frame → List Instruction → Option Assembly
  | .colon => closeColon
  | .comma => closeComma
  | .rightParen => closeParen
  | .rightBracket => closeBracket
  | _ => fun _ _ => none

theorem takeOperator_mark {m : Mark} (hq : m ≠ .question) (hl : m ≠ .leftBracket) (a : Assembly)
    (indexable : Bool) (p : Position) :
    a.takeOperator indexable ⟨.mark m, p⟩ = a.closing ⟨.mark m, p⟩ (closer m) := by
  cases m with
  | question => exact absurd rfl hq
  | leftBracket => exact absurd rfl hl
  | _ => rfl

theorem closing_eq_ok {a b : Assembly} {token : Token}
    {close : List Frame → List Instruction → Option Assembly}
    (h : a.closing token close = .ok b) :
    ∃ frames output, closeLevel a.frames a.output = (frames, output) ∧
      close frames output = some b := by
  unfold closing at h
  split at h
  rename_i frames output hc
  refine ⟨frames, output, hc, ?_⟩
  split at h
  · cases h
    assumption
  · cases h

/-- The groups that marks close, and what becomes of them. -/
theorem closer_eq_some {m : Mark} {frames : List Frame} {output : List Instruction} {b : Assembly}
    (h : closer m frames output = some b) :
    (∃ p rest, m = .colon ∧ frames = .question p :: rest ∧
      b = ⟨output, .colon p :: rest, .operand⟩) ∨
    (∃ f p n rest, m = .comma ∧ frames = .call f p n :: rest ∧
      b = ⟨output, .call f p (n + 1) :: rest, .operand⟩) ∨
    (∃ rest, m = .rightParen ∧ frames = .paren :: rest ∧ b = ⟨output, rest, .operator true⟩) ∨
    (∃ f p n rest, m = .rightParen ∧ frames = .call f p n :: rest ∧
      b = ⟨⟨.call f (n + 1), p⟩ :: output, rest, .operator true⟩) ∨
    ∃ p rest, m = .rightBracket ∧ frames = .bracket p :: rest ∧
      b = ⟨⟨.operator .element, p⟩ :: output, rest, .operator true⟩ := by
  cases frames with
  | nil => cases m <;> cases h
  | cons frame rest => cases frame <;> cases m <;> cases h <;> simp

end Assembly

/-! ### Frames that wait for an operand -/

/-- How tightly the operators of the operand that comes next bind at least. -/
def leastFor : List Frame → Nat
  | .operator _ _ binding :: _ => operandLevel binding
  | _ => 0

theorem operandLevel_le_iff {op : Operator} {binding : Nat} (h : binding? op = some binding)
    (waiting : Nat) : operandLevel waiting ≤ binding ↔ waiting < yieldsTo op binding := by
  cases op <;> simp [binding?, equalityBinding] at h <;> subst h <;>
    simp only [operandLevel, yieldsTo] <;> split <;> simp <;> omega

/-- An operator that may stand in an operand applies nothing that waits for the operand. -/
theorem applyOperators_of_leastFor_le {op : Operator} {binding : Nat} {frames : List Frame}
    (hb : binding? op = some binding) (h : leastFor frames ≤ binding) (output : List Instruction) :
    applyOperators (yieldsTo op binding) frames output = (frames, output) := by
  unfold applyOperators
  split
  · exact if_pos ((operandLevel_le_iff hb _).mp h)
  · rfl

theorem applyOperators_equality {frames : List Frame} (h : leastFor frames ≤ equalityBinding)
    (output : List Instruction) :
    applyOperators equalityBinding frames output = (frames, output) := by
  have he : equalityBinding = 4 := rfl
  unfold applyOperators
  split
  · rename_i op p waiting rest
    refine if_pos ?_
    simp only [leastFor, operandLevel] at h
    split at h <;> omega
  · rfl

theorem applyOperators_zero {frames : List Frame} (h : leastFor frames = 0)
    (output : List Instruction) : applyOperators 0 frames output = (frames, output) := by
  unfold applyOperators
  split
  · simp only [leastFor, operandLevel] at h
    split at h <;> omega
  · rfl

end Reckon
