import Reckon.Names
import Reckon.Token

/-!
# Programs

A program is a list of instructions, operands before what uses them. Its text has one word for each
instruction, with the number of arguments after a function's name.
-/

namespace Reckon

/-! ### Syntax errors -/

inductive SyntaxFault where
  | unexpectedEnd
  | unknownSymbol (text : String)
  | unexpected (text : String)
  | unclosedParen
  | unclosedCall (function : String)
  | unclosedBracket
  | expectedColon
  | expectedParen (function : String)
  | notInstruction (text : String)
deriving DecidableEq

namespace SyntaxFault

def message : SyntaxFault → String
  | unexpectedEnd => "Unexpected end of expression"
  | unknownSymbol text => s!"Unknown symbol '{text}'"
  | unexpected text => s!"Syntax error near '{text}'"
  | unclosedParen => "Missing closing ')'"
  | unclosedCall function => s!"Missing closing ')' for function '{function}'"
  | unclosedBracket => "Missing closing ']'"
  | expectedColon => "Expected ':'"
  | expectedParen function => s!"Expected '(' after function name '{function}'"
  | notInstruction text => s!"'{text}' is not a valid instruction"

def code : SyntaxFault → String
  | unexpectedEnd => "UNEXPECTED_END"
  | unknownSymbol _ => "UNKNOWN_SYMBOL"
  | unexpected _ => "ERROR_NEAR"
  | unclosedParen | unclosedCall _ => "MISSED_CLOSE_PARENTHESIS"
  | unclosedBracket => "MISSED_CLOSE_SQUARE_BRACKET"
  | expectedColon | expectedParen _ => "ERROR_AT"
  | notInstruction _ => "INTERNAL"

end SyntaxFault

/-- A fault and the place of the token it was found at. -/
structure SyntaxError where
  fault : SyntaxFault
  position : Position
deriving DecidableEq

namespace SyntaxError

def text (e : SyntaxError) : String :=
  s!"{e.fault.message} at line {e.position.line}, column {e.position.column}"

end SyntaxError

/-! ### Programs -/

structure Program where
  instructions : List Instruction

namespace Program

def empty : Program := ⟨[]⟩

def length (p : Program) : Nat :=
  p.instructions.length

/-- A list of tokens that are all actions. -/
def ofTokens : List Token → Except SyntaxError Program
  | [] => .ok empty
  | token :: rest =>
    match token.kind with
    | .action a => do
      let program ← ofTokens rest
      .ok ⟨⟨a, token.position⟩ :: program.instructions⟩
    | kind => .error ⟨.notInstruction kind.text, token.position⟩

def variableNames (p : Program) : List String :=
  distinctNames (p.instructions.filterMap fun i =>
    match i.action with
    | .name n => some n
    | _ => none)

def functionNames (p : Program) : List String :=
  distinctNames (p.instructions.filterMap fun i =>
    match i.action with
    | .call function _ => some function
    | _ => none)

def instructionText (a : Action) : String :=
  match a with
  | .call function count => s!"{function}/{count}"
  | .operator .negate => "NEG"
  | a => a.text

def text (p : Program) : String :=
  " ".intercalate (p.instructions.map fun i => instructionText i.action)

end Program

end Reckon
