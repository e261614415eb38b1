import Reckon.Evaluation

/-!
# Libraries of functions

A library files functions under their names. Functions get at their arguments as numbers, whole
numbers or dates; an argument that is not there is null, and structured values are no numbers.
-/

namespace Reckon

abbrev Library := Filed Function

namespace Library

def register (library : Library) (f : Function) : Library :=
  library.put f.name f

def ofList (functions : List Function) : Library :=
  functions.foldl register []

def names (library : Library) : List String :=
  sortNames (library.items.map Function.name)

end Library

namespace Function

def fixed (name : String) (count : Nat)
    (body : TextRule → Moment → List Value → Evaluated Value) : Function :=
  ⟨name, count, some count, body⟩

def variadic (name : String) (least : Nat)
    (body : TextRule → Moment → List Value → Evaluated Value) : Function :=
  ⟨name, least, none, body⟩

end Function

/-! ### Arguments -/

def argument (arguments : List Value) (i : Nat) : Value :=
  arguments[i]?.getD .null

def refuseArgument {α : Type} (fault : ArgumentFault) : Evaluated α :=
  .error (.argument fault)

def numberArgument (function : String) (arguments : List Value) (i : Nat) : Evaluated Float :=
  let v := argument arguments i
  match if v.isStructured then none else v.toDouble? with
  | some x => .ok x
  | none => refuseArgument (.notNumber function i v.kind)

def integerArgument (function : String) (arguments : List Value) (i : Nat) : Evaluated Int :=
  let v := argument arguments i
  match if v.isStructured then none else v.toLong? with
  | some n => .ok n.toInt
  | none => refuseArgument (.notInteger function i v.kind)

def instantArgument (function : String) (arguments : List Value) (i : Nat) : Evaluated Instant :=
  let v := argument arguments i
  match v.toInstant? with
  | some t => .ok t
  | none => refuseArgument (.notDate function i v.kind)

/-- Items of arrays stand in for the arrays, one level deep. -/
def flattenOnce (arguments : List Value) : List Value :=
  arguments.flatMap fun v =>
    match v with
    | .array items => items
    | v => [v]

end Reckon
