import Reckon.Operation

/-!
# Why an evaluation fails

A name may be unknown, a function may be given the wrong number of arguments or arguments it cannot
use, an operator may refuse its operands, and a list of instructions may not fit together.
-/

namespace Reckon

/-- How many arguments a function takes. -/
inductive Arity where
  | exactly (count : Nat)
  | between (least most : Nat)
  | atLeast (least : Nat)
  | oneOrThreeToFive
deriving DecidableEq

namespace Arity

def text : Arity → String
  | exactly count => s!"exactly {count}"
  | between least most => s!"between {least} and {most}"
  | atLeast least => s!"at least {least}"
  | oneOrThreeToFive => "1, 3, 4 or 5"

end Arity

/-- Why a function cannot use its arguments. Arguments are counted from zero here and from one in
messages. -/
inductive ArgumentFault where
  | notNumber (function : String) (argument : Nat) (kind : Kind)
  | notInteger (function : String) (argument : Nat) (kind : Kind)
  | notDate (function : String) (argument : Nat) (kind : Kind)
  | notSpan (function : String) (text : String)
  | notComparable (function : String) (kind : Kind)
  | notSummable (function : String) (kind : Kind)
  | notNumberText (function : String) (text : String)
  | choiceOutOfRange (function : String) (index : Int) (count : Nat)
  | invalidDate (function : String) (year month day hour minute second millisecond : Int)
  | outOfRange (function : String)
  | other (text : String)
deriving DecidableEq

namespace ArgumentFault

def message : ArgumentFault → String
  | notNumber function argument kind =>
    s!"{function}: argument {argument + 1} ({kind.name}) is not a number"
  | notInteger function argument kind =>
    s!"{function}: argument {argument + 1} ({kind.name}) is not an integer"
  | notDate function argument kind =>
    s!"{function}: argument {argument + 1} ({kind.name}) is not a date"
  | notSpan function text => s!"{function}: '{text}' is not a time span"
  | notComparable function kind => s!"{function}: cannot compare {kind.name} values"
  | notSummable function kind => s!"{function}: cannot add {kind.name} values"
  | notNumberText function text => s!"{function}: '{text}' is not a number"
  | choiceOutOfRange function index count =>
    s!"{function}: index {index} is out of range 1..{count}"
  | invalidDate function year month day hour minute second millisecond =>
    s!"{function}: {year}-{month}-{day} {hour}:{minute}:{second}.{millisecond} is not a valid date"
  | outOfRange function => s!"{function}: value is out of range"
  | other text => text

end ArgumentFault

inductive EvaluationError where
  | unknownVariable (name : String)
  | unknownFunction (name : String)
  | argumentCount (function : String) (expected : Arity) (actual : Nat)
  | argument (fault : ArgumentFault)
  | operation (error : OperationError)
  | stackUnderflow
  | stackImbalance (count : Nat)
  | internal (text : String)
deriving DecidableEq

namespace EvaluationError

def message : EvaluationError → String
  | unknownVariable name => s!"Unknown variable: {name}"
  | unknownFunction name => s!"Unknown function: {name}"
  | argumentCount function expected actual =>
    s!"Wrong number of arguments for {function}: expected {expected.text}, got {actual}"
  | argument fault => s!"Invalid argument: {fault.message}"
  | operation error => error.message
  | stackUnderflow => "Stack underflow"
  | stackImbalance count => s!"Expected exactly one result, found {count} values on the stack"
  | internal text => s!"Internal error: {text}"

def code : EvaluationError → String
  | unknownVariable _ => "UNKNOWN_VARIABLE"
  | unknownFunction _ => "UNKNOWN_FUNCTION"
  | argumentCount .. => "WRONG_ARGUMENT_COUNT"
  | argument _ => "BAD_ARGUMENT"
  | operation error => error.code
  | stackUnderflow | stackImbalance _ | internal _ => "INTERNAL"

end EvaluationError

abbrev Evaluated (α : Type) := Except EvaluationError α

/-- An operation inside an evaluation. -/
def evaluated {α : Type} (outcome : Outcome α) : Evaluated α :=
  outcome.mapError .operation

end Reckon
