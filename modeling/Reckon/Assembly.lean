import Reckon.Program
import Reckon.TokenReading

/-!
# Assembling programs

Tokens are taken one by one. Operands go straight to the output; operators, open groups and parts of
a choice wait on a stack of frames until what they apply to is there. Operators bind, from the
loosest to the tightest: `OR` and `XOR`, `AND`, equality, order, shifts, sums, products, powers, and
signs; powers and choices group to the right and all else to the left. A test for null applies to all
before it that binds at least as tightly as an equality.
-/

namespace Reckon

inductive Frame where
  | operator (op : Operator) (position : Position) (binding : Nat)
  | paren
  /-- `count` arguments have been ended by a comma. -/
  | call (function : String) (position : Position) (count : Nat)
  | bracket (position : Position)
  | question (position : Position)
  | colon (position : Position)

inductive Awaiting where
  | operand
  | parenOf (function : String) (position : Position)
  | firstArgument
  | operator (indexable : Bool)
deriving DecidableEq

/-- The output and the frames stand latest first. -/
structure Assembly where
  output : List Instruction
  frames : List Frame
  awaiting : Awaiting

def equalityBinding : Nat := 4

def signBinding : Nat := 10

/-- How tightly an operator between two operands binds. -/
def binding? : Operator → Option Nat
  | .either | .exclusive => some 2
  | .both => some 3
  | .equal | .notEqual | .like | .notLike | .member | .notMember => some equalityBinding
  | .less | .lessEqual | .greater | .greaterEqual => some 5
  | .shiftLeft | .shiftRight => some 6
  | .add | .subtract => some 7
  | .multiply | .divide | .modulo => some 8
  | .power => some 9
  | _ => none

/-- The binding from which an operator to the left is applied first. -/
def yieldsTo (op : Operator) (binding : Nat) : Nat :=
  if op = .power then binding + 1 else binding

/-- Applies the latest operators as long as they bind at least so tightly. -/
def applyOperators (least : Nat) : List Frame → List Instruction → List Frame × List Instruction
  | .operator op position binding :: rest, output =>
    if binding < least then (.operator op position binding :: rest, output)
    else applyOperators least rest (⟨.operator op, position⟩ :: output)
  | frames, output => (frames, output)

/-- Applies all operators and complete choices since the last open group. -/
def closeLevel : List Frame → List Instruction → List Frame × List Instruction
  | .operator op position _ :: rest, output =>
    closeLevel rest (⟨.operator op, position⟩ :: output)
  | .colon position :: rest, output => closeLevel rest (⟨.operator .ternary, position⟩ :: output)
  | frames, output => (frames, output)

def unexpected : TokenKind → SyntaxFault
  | .ending => .unexpectedEnd
  | .unknown text => .unknownSymbol text
  | kind => .unexpected kind.text

/-- What is wrong with a token that should have closed the innermost group. -/
def unclosed (frames : List Frame) (kind : TokenKind) : SyntaxFault :=
  match frames with
  | .paren :: _ => .unclosedParen
  | .call function _ _ :: _ => .unclosedCall function
  | .bracket _ :: _ => .unclosedBracket
  | .question _ :: _ => .expectedColon
  | _ => unexpected kind

namespace Assembly

def start : Assembly := ⟨[], [], .operand⟩

def takeOperand (a : Assembly) (token : Token) : Except SyntaxError Assembly :=
  match token.kind with
  | .action (.constant v) =>
    .ok { a with output := ⟨.constant v, token.position⟩ :: a.output, awaiting := .operator true }
  | .action (.name n) =>
    .ok { a with output := ⟨.name n, token.position⟩ :: a.output, awaiting := .operator true }
  | .action (.operator op) =>
    if op = .negate ∨ op = .not then
      .ok { a with
        frames := .operator op token.position signBinding :: a.frames, awaiting := .operand }
    else .error ⟨unexpected token.kind, token.position⟩
  | .mark .leftParen => .ok { a with frames := .paren :: a.frames, awaiting := .operand }
  | .action (.call function _) => .ok { a with awaiting := .parenOf function token.position }
  | kind => .error ⟨unexpected kind, token.position⟩

/-- The token closes a level; `close` takes the innermost group away, or nothing does. -/
def closing (a : Assembly) (token : Token)
    (close : List Frame → List Instruction → Option Assembly) : Except SyntaxError Assembly :=
  let (frames, output) := closeLevel a.frames a.output
  match close frames output with
  | some a => .ok a
  | none => .error ⟨unclosed frames token.kind, token.position⟩

def closeColon : List Frame → List Instruction → Option Assembly
  | .question position :: rest, output => some ⟨output, .colon position :: rest, .operand⟩
  | _, _ => none

def closeComma : List Frame → List Instruction → Option Assembly
  | .call function position count :: rest, output =>
    some ⟨output, .call function position (count + 1) :: rest, .operand⟩
  | _, _ => none

def closeParen : List Frame → List Instruction → Option Assembly
  | .paren :: rest, output => some ⟨output, rest, .operator true⟩
  | .call function position count :: rest, output =>
    some ⟨⟨.call function (count + 1), position⟩ :: output, rest, .operator true⟩
  | _, _ => none

def closeBracket : List Frame → List Instruction → Option Assembly
  | .bracket position :: rest, output =>
    some ⟨⟨.operator .element, position⟩ :: output, rest, .operator true⟩
  | _, _ => none

def takeOperator (a : Assembly) (indexable : Bool) (token : Token) : Except SyntaxError Assembly :=
  match token.kind with
  | .action (.operator op) =>
    if op = .isNull ∨ op = .isNotNull then
      let (frames, output) := applyOperators equalityBinding a.frames a.output
      .ok ⟨⟨.operator op, token.position⟩ :: output, frames, .operator false⟩
    else
      match binding? op with
      | some binding =>
        let (frames, output) := applyOperators (yieldsTo op binding) a.frames a.output
        .ok ⟨output, .operator op token.position binding :: frames, .operand⟩
      | none => a.closing token fun _ _ => none
  | .mark .leftBracket =>
    if indexable then
      .ok { a with frames := .bracket token.position :: a.frames, awaiting := .operand }
    else a.closing token fun _ _ => none
  | .mark .question =>
    let (frames, output) := applyOperators 0 a.frames a.output
    .ok ⟨output, .question token.position :: frames, .operand⟩
  | .mark .colon => a.closing token closeColon
  | .mark .comma => a.closing token closeComma
  | .mark .rightParen => a.closing token closeParen
  | .mark .rightBracket => a.closing token closeBracket
  | _ => a.closing token fun _ _ => none

def takeFirstArgument (a : Assembly) (token : Token) : Except SyntaxError Assembly :=
  match token.kind, a.frames with
  | .mark .rightParen, .call function position _ :: rest =>
    .ok ⟨⟨.call function 0, position⟩ :: a.output, rest, .operator true⟩
  | _, _ => a.takeOperand token

def takeParen (a : Assembly) (function : String) (position : Position) (token : Token) :
    Except SyntaxError Assembly :=
  match token.kind with
  | .mark .leftParen =>
    .ok { a with frames := .call function position 0 :: a.frames, awaiting := .firstArgument }
  | _ => .error ⟨.expectedParen function, token.position⟩

/-- Takes one token that is not the end. -/
def take (a : Assembly) (token : Token) : Except SyntaxError Assembly :=
  match a.awaiting with
  | .operand => a.takeOperand token
  | .parenOf function position => a.takeParen function position token
  | .firstArgument => a.takeFirstArgument token
  | .operator indexable => a.takeOperator indexable token

/-- The program, at the end of the tokens. -/
def finish (a : Assembly) (position : Position) : Except SyntaxError Program :=
  match a.awaiting with
  | .parenOf function _ => .error ⟨.expectedParen function, position⟩
  | .operand | .firstArgument => .error ⟨.unexpectedEnd, position⟩
  | .operator _ =>
    let (frames, output) := closeLevel a.frames a.output
    if frames.isEmpty then .ok ⟨output.reverse⟩
    else .error ⟨unclosed frames .ending, position⟩

/-- The first end stops the reading; `position` is where the tokens end without one. -/
def run (position : Position) : Assembly → List Token → Except SyntaxError Program
  | a, [] => a.finish position
  | a, token :: rest =>
    match token.kind with
    | .ending => a.finish token.position
    | _ => do run position (← a.take token) rest

end Assembly

namespace Program

def assemble (tokens : List Token) : Except SyntaxError Program :=
  Assembly.start.run (endAfter (tokens.map Token.position)).position tokens

def parse (text : String) : Except SyntaxError Program :=
  assemble (readTokens .formula text.toList)

end Program

end Reckon
