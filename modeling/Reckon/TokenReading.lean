import Reckon.Lexeme
import Reckon.Token

/-!
# Tokens from lexemes

Literals become constants, keywords become operators in any case, and other words name functions
before a parenthesis and variables elsewhere. `NOT LIKE`, `NOT IN`, `IS NULL` and `IS NOT NULL` are
single tokens. A minus after an operand subtracts and negates elsewhere; a plus that joins nothing is
dropped.
-/

namespace Reckon

namespace TokenReading

def unknown (s : List Char) : TokenKind :=
  .unknown (String.ofList s)

def constant (v : Value) : TokenKind :=
  .action (.constant v)

def operator (op : Operator) : TokenKind :=
  .action (.operator op)

/-- The narrowest kind that holds the number. -/
def wholeConstant (s : List Char) : TokenKind :=
  match (readInt? s).bind toInt64? with
  | some n => constant (.ofInt n.toInt)
  | none =>
    match readFloat? s with
    | some x => constant (.double x)
    | none => unknown s

def floatConstant (s : List Char) : TokenKind :=
  match readFloat? s with
  | some x => constant (.double x)
  | none => unknown s

def hexValue (c : Char) : Nat :=
  if isDigit c then c.toNat - '0'.toNat
  else if 'a' ≤ c && c ≤ 'f' then c.toNat - 'a'.toNat + 10
  else c.toNat - 'A'.toNat + 10

/-- Beyond 64 bits the digits are gathered in floating point. -/
def hexConstant (s : List Char) : TokenKind :=
  let digits := (s.drop 2).map hexValue
  match toInt64? (joinDigits 16 digits.reverse : Nat) with
  | some n => constant (.ofInt n.toInt)
  | none => constant (.double (digits.foldl (fun x d => x * 16 + Float.ofNat d) 0))

def isWord (l : Lexeme) (keyword : String) : Bool :=
  l.kind == .word && l.value.map Char.toUpper == keyword.toList

/-- The token a word becomes, and how many of the lexemes after it go into it. -/
def word (value : List Char) (after : List Lexeme) : TokenKind × Nat :=
  let nextIs (i : Nat) (keyword : String) : Bool := (after[i]?.map (isWord · keyword)).getD false
  match String.ofList (value.map Char.toUpper) with
  | "AND" => (operator .both, 0)
  | "OR" => (operator .either, 0)
  | "XOR" => (operator .exclusive, 0)
  | "LIKE" => (operator .like, 0)
  | "IN" => (operator .member, 0)
  | "NOT" =>
    if nextIs 0 "LIKE" then (operator .notLike, 1)
    else if nextIs 0 "IN" then (operator .notMember, 1)
    else (operator .not, 0)
  | "IS" =>
    if nextIs 0 "NULL" then (operator .isNull, 1)
    else if nextIs 0 "NOT" && nextIs 1 "NULL" then (operator .isNotNull, 2)
    else (unknown value, 0)
  | keyword =>
    if (after.head?.map (·.isSymbol ['('])).getD false then
      (.action (.call (String.ofList value) 0), 0)
    else
      match keyword with
      | "TRUE" => (constant (.boolean true), 0)
      | "FALSE" => (constant (.boolean false), 0)
      | "NULL" => (constant .null, 0)
      | _ => (.action (.name (String.ofList value)), 0)

/-- Nothing for a plus that does not follow an operand. -/
def symbol? (value : List Char) (afterOperand : Bool) : Option TokenKind :=
  match String.ofList value with
  | "(" => some (.mark .leftParen)
  | ")" => some (.mark .rightParen)
  | "[" => some (.mark .leftBracket)
  | "]" => some (.mark .rightBracket)
  | "," => some (.mark .comma)
  | "?" => some (.mark .question)
  | ":" => some (.mark .colon)
  | "+" => if afterOperand then some (operator .add) else none
  | "-" => some (operator (if afterOperand then .subtract else .negate))
  | "*" => some (operator .multiply)
  | "/" => some (operator .divide)
  | "%" => some (operator .modulo)
  | "^" => some (operator .power)
  | "=" => some (operator .equal)
  | "==" => some (operator .equal)
  | "<>" => some (operator .notEqual)
  | "!=" => some (operator .notEqual)
  | "<" => some (operator .less)
  | "<=" => some (operator .lessEqual)
  | ">" => some (operator .greater)
  | ">=" => some (operator .greaterEqual)
  | "<<" => some (operator .shiftLeft)
  | ">>" => some (operator .shiftRight)
  | "&&" => some (operator .both)
  | "||" => some (operator .either)
  | "!" => some (operator .not)
  | _ => some (unknown value)

/-- The token a lexeme becomes, if any, and how many lexemes after it go into it. -/
def read (l : Lexeme) (after : List Lexeme) (afterOperand : Bool) : Option TokenKind × Nat :=
  match l.kind with
  | .ending => (some .ending, 0)
  | .integer => (some (wholeConstant l.value), 0)
  | .float => (some (floatConstant l.value), 0)
  | .hexadecimal => (some (hexConstant l.value), 0)
  | .quoted => (some (constant (.string (String.ofList l.value))), 0)
  | .word =>
    let (kind, used) := word l.value after
    (some kind, used)
  | .symbol => (symbol? l.value afterOperand, 0)
  | .unknown => (some (unknown l.value), 0)
  | .blank | .comment => (none, 0)

/-- `used` lexemes at the front are part of the token before. -/
def tokens : (used : Nat) → (afterOperand : Bool) → List Lexeme → List Token
  | _, _, [] => []
  | used + 1, afterOperand, _ :: rest => tokens used afterOperand rest
  | 0, afterOperand, l :: rest =>
    match read l rest afterOperand with
    | (some kind, used) => ⟨kind, l.position⟩ :: tokens used kind.endsOperand rest
    | (none, used) => tokens used afterOperand rest

end TokenReading

/-- The end of the tokens where they do not have one stands at the last of them. -/
def endAfter (positions : List Position) : Token :=
  ⟨.ending, positions.getLast?.getD .start⟩

/-- The tokens of a text end with the one end. -/
def readTokens (rules : LexemeRules) (text : List Char) : List Token :=
  let lexemes := (rules.lexemes text).filter fun l => l.kind != .blank && l.kind != .comment
  let tokens := TokenReading.tokens 0 false lexemes
  if (tokens.getLast?.map (·.kind.isEnding)).getD false then tokens
  else tokens ++ [endAfter (lexemes.map Lexeme.position)]

end Reckon
