import Reckon.Program
import Reckon.ValueStack

/-!
# Evaluating programs

Instructions run in order on a stack that starts empty. Names and functions are looked up when they
are needed, so the same program can be evaluated with any of them. A function is looked up and its
number of arguments checked before its arguments are taken, and it sees the moment at which it is
called. At the end one value must be left.
-/

namespace Reckon

/-- What functions can see of the world: the time, and a number picked at random below one. -/
structure Moment where
  now : Instant
  chance : Float

structure Function where
  name : String
  least : Nat
  most : Option Nat
  body : TextRule → Moment → List Value → Evaluated Value

namespace Function

def arity (f : Function) : Arity :=
  match f.most with
  | some most => if most = f.least then .exactly most else .between f.least most
  | none => .atLeast f.least

def accepts (f : Function) (count : Nat) : Bool :=
  f.least ≤ count && (f.most.map fun most => decide (count ≤ most)).getD true

def checkArity (f : Function) (count : Nat) : Evaluated Unit :=
  if f.accepts count then .ok () else .error (.argumentCount f.name f.arity count)

end Function

abbrev Variables := String → Option Value

abbrev Functions := String → Option Function

/-- The moment of each instruction of a run, counted from the first. -/
abbrev Moments := Nat → Moment

def Instruction.run (rule : TextRule) (known : Variables) (functions : Functions) (moment : Moment)
    (i : Instruction) (stack : ValueStack) : Evaluated ValueStack :=
  match i.action with
  | .constant v => .ok (stack.push v)
  | .name n =>
    match known n with
    | some v => .ok (stack.push v)
    | none => .error (.unknownVariable n)
  | .call function count =>
    match functions function with
    | none => .error (.unknownFunction function)
    | some f => do
      f.checkArity count
      let (arguments, stack) ← stack.popMany count
      .ok (stack.push (← f.body rule moment arguments))
  | .operator op => do
    let (operands, stack) ← stack.popMany op.arity
    .ok (stack.push (← evaluated (op.apply rule operands)))

namespace Program

/-- Runs instructions after as many as `done` have been run. -/
def runFrom (rule : TextRule) (known : Variables) (functions : Functions) (moments : Moments) :
    (done : Nat) → List Instruction → ValueStack → Evaluated ValueStack
  | _, [], stack => .ok stack
  | done, i :: rest, stack => do
    let stack ← i.run rule known functions (moments done) stack
    runFrom rule known functions moments (done + 1) rest stack

def result (stack : ValueStack) : Evaluated Value :=
  match stack.values with
  | [v] => .ok v
  | values => .error (.stackImbalance values.length)

def evaluate (p : Program) (rule : TextRule) (known : Variables) (functions : Functions)
    (moments : Moments) : Evaluated Value := do
  result (← runFrom rule known functions moments 0 p.instructions .empty)

end Program

end Reckon
