import Reckon.Assembly
import Reckon.ChoiceLibrary
import Reckon.NumberLibrary
import Reckon.TimeLibrary

/-!
# A calculator

A calculator keeps one formula with its program, named values and functions. A formula that cannot
be read changes nothing, and evaluating changes nothing either.
-/

namespace Reckon

namespace Library

/-- The functions every calculator can start with. -/
def standard : Library :=
  ofList (NumberLibrary.functions ++ ChoiceLibrary.functions ++ TimeLibrary.functions)

end Library

/-- Values filed under names, each with the name it was first given. -/
abbrev Scope := Filed (String × Value)

namespace Scope

def set (scope : Scope) (name : String) (value : Value) : Scope :=
  match scope.get? name with
  | some (first, _) => scope.put name (first, value)
  | none => scope.put name (name, value)

def setAll (scope : Scope) (values : List (String × Value)) : Scope :=
  values.foldl (fun scope entry => scope.set entry.1 entry.2) scope

def value? (scope : Scope) (name : String) : Option Value :=
  (scope.get? name).map Prod.snd

end Scope

inductive CalculatorError where
  | syntaxError (error : SyntaxError)
  | evaluation (error : EvaluationError)

namespace CalculatorError

def message : CalculatorError → String
  | syntaxError error => "Syntax error: " ++ error.text
  | evaluation error => "Evaluation error: " ++ error.message

def code : CalculatorError → String
  | syntaxError error => error.fault.code
  | evaluation error => error.code

end CalculatorError

structure Calculator where
  formula : String
  program : Program
  scope : Scope
  library : Library
  rule : TextRule

namespace Calculator

def new (rule : TextRule) (library : Library) : Calculator :=
  ⟨"", .empty, [], library, rule⟩

def setFormula (c : Calculator) (formula : String) : Except CalculatorError Calculator :=
  match Program.parse formula with
  | .ok program => .ok { c with formula, program }
  | .error e => .error (.syntaxError e)

def evaluateWith (c : Calculator) (known : Variables) (moments : Moments) :
    Except CalculatorError Value :=
  (c.program.evaluate c.rule known c.library.get? moments).mapError .evaluation

def evaluate (c : Calculator) (moments : Moments) : Except CalculatorError Value :=
  c.evaluateWith c.scope.value? moments

end Calculator

end Reckon
