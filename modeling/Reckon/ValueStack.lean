import Reckon.EvaluationError

/-!
# The stack of an evaluation

Values are pushed one at a time and taken off one at a time or several at once; several come off in
the order in which they were pushed, and only if all of them are there.
-/

namespace Reckon

/-- The latest value stands first. -/
structure ValueStack where
  values : List Value

namespace ValueStack

def empty : ValueStack := ⟨[]⟩

def length (s : ValueStack) : Nat :=
  s.values.length

def isEmpty (s : ValueStack) : Bool :=
  s.values.isEmpty

def push (s : ValueStack) (v : Value) : ValueStack :=
  ⟨v :: s.values⟩

def pop (s : ValueStack) : Evaluated (Value × ValueStack) :=
  match s.values with
  | [] => .error .stackUnderflow
  | v :: rest => .ok (v, ⟨rest⟩)

def popMany (s : ValueStack) (n : Nat) : Evaluated (List Value × ValueStack) :=
  let taken := s.values.take n
  if taken.length = n then .ok (taken.reverse, ⟨s.values.drop n⟩) else .error .stackUnderflow

def peek (s : ValueStack) : Evaluated Value :=
  match s.values.head? with
  | some v => .ok v
  | none => .error .stackUnderflow

/-- The value so many places below the latest one. -/
def peekAt (s : ValueStack) (depth : Nat) : Evaluated Value :=
  match s.values[depth]? with
  | some v => .ok v
  | none => .error .stackUnderflow

end ValueStack

end Reckon
