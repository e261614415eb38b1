import Reckon.Value

/-!
# Operators

An operator takes one, two or three operands and is written with a symbol. It fails on operands of
kinds it has no meaning for, on division by zero, on a place outside a sequence, and on a pattern too
large to search for.
-/

namespace Reckon

inductive Operator where
  | add
  | subtract
  | multiply
  | divide
  | modulo
  | power
  | negate
  | equal
  | notEqual
  | less
  | lessEqual
  | greater
  | greaterEqual
  | both
  | either
  | exclusive
  | not
  | shiftLeft
  | shiftRight
  | like
  | notLike
  | member
  | notMember
  | isNull
  | isNotNull
  | element
  | ternary
deriving DecidableEq

namespace Operator

def symbol : Operator → String
  | add => "+"
  | subtract => "-"
  | multiply => "*"
  | divide => "/"
  | modulo => "%"
  | power => "^"
  | negate => "-"
  | equal => "="
  | notEqual => "<>"
  | less => "<"
  | lessEqual => "<="
  | greater => ">"
  | greaterEqual => ">="
  | both => "AND"
  | either => "OR"
  | exclusive => "XOR"
  | not => "NOT"
  | shiftLeft => "<<"
  | shiftRight => ">>"
  | like => "LIKE"
  | notLike => "NOT LIKE"
  | member => "IN"
  | notMember => "NOT IN"
  | isNull => "IS NULL"
  | isNotNull => "IS NOT NULL"
  | element => "[]"
  | ternary => "?:"

def arity : Operator → Nat
  | negate | not | isNull | isNotNull => 1
  | ternary => 3
  | _ => 2

end Operator

inductive OperationError where
  | unsupported (operator : Operator) (left right : Kind)
  | unsupportedUnary (operator : Operator) (operand : Kind)
  | divisionByZero
  | indexOutOfRange (index : Int) (length : Nat)
  | invalidPattern (pattern : String)
deriving DecidableEq

namespace OperationError

def message : OperationError → String
  | unsupported operator left right =>
    s!"Operation '{operator.symbol}' is not supported for {left.name} and {right.name}"
  | unsupportedUnary operator operand =>
    s!"Operation '{operator.symbol}' is not supported for {operand.name}"
  | divisionByZero => "Division by zero"
  | indexOutOfRange index length => s!"Index {index} is out of range (length: {length})"
  | invalidPattern pattern => s!"Invalid pattern '{pattern}'"

def code : OperationError → String
  | unsupported .. | unsupportedUnary .. => "UNSUPPORTED_OPERATION"
  | divisionByZero => "DIVISION_BY_ZERO"
  | indexOutOfRange .. => "INDEX_OUT_OF_RANGE"
  | invalidPattern _ => "BAD_ARGUMENT"

end OperationError

abbrev Outcome (α : Type) := Except OperationError α

def refuse {α : Type} (operator : Operator) (left right : Value) : Outcome α :=
  .error (.unsupported operator left.kind right.kind)

def refuseUnary {α : Type} (operator : Operator) (operand : Value) : Outcome α :=
  .error (.unsupportedUnary operator operand.kind)

end Reckon
