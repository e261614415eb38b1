import Reckon.Arithmetic
import Reckon.Comparison

/-!
# Operations

`Operator.apply` gives every operator its meaning on operands in the order they are written. All
operands are values by then, so nothing is left out of a conjunction or a choice. Amounts of a shift
count modulo the width of what is shifted.
-/

namespace Reckon

namespace Value

/-- The truth value that logical operators see. -/
def truth? : Value → Option Bool
  | instant _ | span _ | object _ | array _ => none
  | v => v.toBoolean?

def logical (operator : Operator) (f : Bool → Bool → Bool) (left right : Value) : Outcome Value :=
  match left.truth?, right.truth? with
  | some a, some b => .ok (boolean (f a b))
  | _, _ => refuse operator left right

def negation (operand : Value) : Outcome Value :=
  match operand.truth? with
  | some b => .ok (boolean !b)
  | none => refuseUnary .not operand

def choose (condition ifTrue ifFalse : Value) : Outcome Value :=
  match condition.truth? with
  | some true => .ok ifTrue
  | some false => .ok ifFalse
  | none => refuseUnary .ternary condition

def isShiftable : Value → Bool
  | null | integer _ | long _ | boolean _ => true
  | _ => false

def shift (operator : Operator) (left right : Value) : Outcome Value :=
  if left.isShiftable && right.isShiftable then
    let amount := right.asLong.toInt
    let leftward := operator = .shiftLeft
    match left with
    | long n =>
      let places := Int64.ofInt (amount % 64)
      .ok (long (if leftward then n <<< places else n >>> places))
    | v =>
      let places := Int32.ofInt (amount % 32)
      .ok (integer (if leftward then v.asInteger <<< places else v.asInteger >>> places))
  else refuse operator left right

/-- A place in a sequence of so many items, counted from zero. -/
def place (container index : Value) (length : Nat) : Outcome Nat :=
  if index.isStructured then refuse .element container index
  else
    match index.toLong? with
    | none => refuse .element container index
    | some n =>
      if 0 ≤ n.toInt ∧ n.toInt < length then .ok n.toInt.toNat
      else .error (.indexOutOfRange n.toInt length)

/-- An item of an array, a character of a text, or a field or item of an object. A field that is not
there is null. -/
def element (container index : Value) : Outcome Value :=
  match container, index with
  | object document, string key => .ok (((document.field? key).map ofJson).getD null)
  | array items, _ => do
    let i ← place container index items.length
    .ok (items[i]?.getD null)
  | string s, _ => do
    let chars := s.toList
    let i ← place container index chars.length
    .ok (((chars[i]?).map fun c => string (String.singleton c)).getD null)
  | object (.array items), _ => do
    let i ← place container index items.length
    .ok (((items[i]?).map ofJson).getD null)
  | _, _ => refuse .element container index

end Value

namespace Operator

def applyUnary (operator : Operator) (operand : Value) : Outcome Value :=
  match operator with
  | negate => operand.negate
  | not => operand.negation
  | isNull => .ok (.boolean operand.isNull)
  | isNotNull => .ok (.boolean !operand.isNull)
  | _ => refuseUnary operator operand

def applyBinary (rule : TextRule) (operator : Operator) (left right : Value) : Outcome Value :=
  match operator with
  | add => left.add right
  | subtract => left.subtract right
  | multiply => left.multiply right
  | divide => left.divide right
  | modulo => Arithmetic.modulo.apply left right
  | power => Arithmetic.power.apply left right
  | equal => (left.equal rule right).map .boolean
  | notEqual => (left.equal rule right).map fun found => .boolean !found
  | less => left.relate rule operator Ordering.isLT right
  | lessEqual => left.relate rule operator Ordering.isLE right
  | greater => left.relate rule operator Ordering.isGT right
  | greaterEqual => left.relate rule operator Ordering.isGE right
  | both => left.logical operator (· && ·) right
  | either => left.logical operator (· || ·) right
  | exclusive => left.logical operator (· != ·) right
  | shiftLeft | shiftRight => left.shift operator right
  | like => (left.isLike right).map .boolean
  | notLike => (left.isLike right).map fun found => .boolean !found
  | member => (left.isIn rule right).map .boolean
  | notMember => (left.isIn rule right).map fun found => .boolean !found
  | element => left.element right
  | negate | not | isNull | isNotNull | ternary => refuse operator left right

/-- A wrong number of operands is refused by the first of them, or by null where there is none. -/
def apply (rule : TextRule) (operator : Operator) : List Value → Outcome Value
  | [operand] => operator.applyUnary operand
  | [left, right] => operator.applyBinary rule left right
  | [condition, ifTrue, ifFalse] =>
    if operator = ternary then condition.choose ifTrue ifFalse else refuseUnary operator condition
  | first :: _ => refuseUnary operator first
  | [] => refuseUnary operator .null

end Operator

end Reckon
