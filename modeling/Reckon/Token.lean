import Reckon.Cursor
import Reckon.Operator

/-!
# Tokens of a formula

A token is an action of a program, a punctuation mark, a text that means nothing in a formula, or the
end. Actions are what programs consist of: pushing a constant, looking up a name, calling a function
and applying an operator.
-/

namespace Reckon

inductive Action where
  | constant (value : Value)
  | name (name : String)
  | call (function : String) (count : Nat)
  | operator (op : Operator)

inductive Mark where
  | leftParen
  | rightParen
  | leftBracket
  | rightBracket
  | comma
  | question
  | colon
deriving DecidableEq

inductive TokenKind where
  | action (a : Action)
  | mark (m : Mark)
  | unknown (text : String)
  | ending

structure Token where
  kind : TokenKind
  position : Position

structure Instruction where
  action : Action
  position : Position

/-- A text between double quotes, with those inside written twice. -/
def doubleQuoted (s : List Char) : List Char :=
  '"' :: s.flatMap (fun c => if c = '"' then [c, c] else [c]) ++ ['"']

namespace Action

def constantText : Value → String
  | .string s => String.ofList (doubleQuoted s.toList)
  | .null => "NULL"
  | .boolean true => "TRUE"
  | .boolean false => "FALSE"
  | v => v.text

def text : Action → String
  | constant value => constantText value
  | name n => n
  | call function _ => function
  | operator op => op.symbol

end Action

namespace Mark

def text : Mark → String
  | leftParen => "("
  | rightParen => ")"
  | leftBracket => "["
  | rightBracket => "]"
  | comma => ","
  | question => "?"
  | colon => ":"

end Mark

namespace TokenKind

def text : TokenKind → String
  | action a => a.text
  | mark m => m.text
  | unknown text => text
  | ending => "end of expression"

def isEnding : TokenKind → Bool
  | ending => true
  | _ => false

/-- Whether an operand may end here, so that a sign that follows joins two operands. -/
def endsOperand : TokenKind → Bool
  | action (.constant _) => true
  | action (.name _) => true
  | action (.operator .isNull) => true
  | action (.operator .isNotNull) => true
  | mark .rightParen => true
  | mark .rightBracket => true
  | _ => false

end TokenKind

end Reckon
