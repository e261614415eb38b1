import Reckon.DecimalText
import Reckon.LexemeRules
import Reckon.QuotedText

/-!
# Lexemes

A text is cut into lexemes from left to right: words, numbers, symbols, quoted texts, blanks and
comments, and single characters that begin nothing. Every character belongs to one of them, and the
end of the text is the last one. Nothing in a text is an error here.
-/

namespace Reckon

inductive LexemeKind where
  | unknown
  | ending
  | integer
  | float
  | hexadecimal
  | symbol
  | quoted
  | word
  | blank
  | comment
deriving DecidableEq

namespace LexemeKind

def name : LexemeKind → String
  | unknown => "Unknown"
  | ending => "Eof"
  | integer => "Integer"
  | float => "Float"
  | hexadecimal => "HexDecimal"
  | symbol => "Symbol"
  | quoted => "Quoted"
  | word => "Word"
  | blank => "Whitespace"
  | comment => "Comment"

end LexemeKind

structure Lexeme where
  kind : LexemeKind
  value : List Char
  position : Position
deriving DecidableEq

namespace Lexeme

def isSymbol (l : Lexeme) (symbol : List Char) : Bool :=
  l.kind == .symbol && l.value == symbol

def text (l : Lexeme) : String :=
  s!"{l.kind.name}({String.ofList (quoted l.value)}) at {l.position.line}:{l.position.column}"

end Lexeme

/-! ### Numbers -/

def isHexDigit (c : Char) : Bool :=
  isDigit c || ('a' ≤ c && c ≤ 'f') || ('A' ≤ c && c ≤ 'F')

/-- A point and digits, if a digit comes right after the point. -/
def fractionPart : List Char → List Char
  | '.' :: d :: rest => if isDigit d then '.' :: (d :: rest).takeWhile isDigit else []
  | _ => []

/-- A letter, a sign if there is one, and digits, if there are any. -/
def exponentPart : List Char → List Char
  | e :: sign :: d :: rest =>
    if e = 'e' || e = 'E' then
      if (sign = '+' || sign = '-') && isDigit d then e :: sign :: (d :: rest).takeWhile isDigit
      else if isDigit sign then e :: (sign :: d :: rest).takeWhile isDigit
      else []
    else []
  | [e, d] => if (e = 'e' || e = 'E') && isDigit d then [e, d] else []
  | _ => []

/-- What follows `0` in a hexadecimal number; nothing where the letter has no digit after it. -/
def hexPart : List Char → List Char
  | x :: d :: rest => if isHexDigit d then x :: (d :: rest).takeWhile isHexDigit else []
  | _ => []

def startsHex (rules : LexemeRules) (first : Char) (ahead : List Char) : Bool :=
  rules.allowHex && first == '0' && (ahead.head? == some 'x' || ahead.head? == some 'X')

/-- The kind of a number that begins with `first`, and its other characters. -/
def numberRest (rules : LexemeRules) (first : Char) (ahead : List Char) :
    LexemeKind × List Char :=
  if startsHex rules first ahead then
    let rest := hexPart ahead
    (if rest.isEmpty then .integer else .hexadecimal, rest)
  else
    let whole := ahead.takeWhile isDigit
    let afterWhole := ahead.drop whole.length
    let fraction := if first = '.' then [] else fractionPart afterWhole
    let exponent :=
      if rules.allowExponent then exponentPart (afterWhole.drop fraction.length) else []
    (if first = '.' || !fraction.isEmpty || !exponent.isEmpty then .float else .integer,
      whole ++ fraction ++ exponent)

/-- A point or an allowed sign begins a number only with a digit right after it. -/
def startsNumber (rules : LexemeRules) (first : Char) (ahead : List Char) : Bool :=
  (first == '.' || (rules.allowSign && (first == '+' || first == '-'))) &&
    (ahead.head?.map isDigit).getD false

/-! ### Quoted texts -/

def unescape (c : Char) : Char :=
  match c with
  | 'n' => '\n'
  | 'r' => '\r'
  | 't' => '\t'
  | '0' => '\u0000'
  | c => c

/-- The characters after an opening quote as they are written and as they are meant. The text ends
with a quote that no other one follows, or with the characters. -/
def quotedRest (quote : Char) (escapes : Bool) : List Char → List Char × List Char
  | [] => ([], [])
  | c :: rest =>
    if c = quote then
      match rest with
      | [] => ([c], [])
      | d :: rest =>
        if d = quote then
          let (raw, content) := quotedRest quote escapes rest
          (c :: d :: raw, c :: content)
        else ([c], [])
    else if c = '\\' && escapes then
      match rest with
      | [] => ([c], [])
      | d :: rest =>
        let (raw, content) := quotedRest quote escapes rest
        (c :: d :: raw, unescape d :: content)
    else
      let (raw, content) := quotedRest quote escapes rest
      (c :: raw, c :: content)

/-! ### Comments -/

/-- Characters up to the first place where those read so far end with the closer. -/
def untilClosed (closer : List Char) : (read : List Char) → List Char → List Char
  | _, [] => []
  | read, c :: rest =>
    if closer.reverse.isPrefixOf (c :: read) then [c] else c :: untilClosed closer (c :: read) rest

def endsComment (c : Char) : Bool :=
  c == '\n' || c == '\r'

/-- Passes the rest of an opener whose first character has been passed. -/
def passOpener (first : Char) (opener : List Char) (c : Cursor) : Bool × Cursor :=
  match opener with
  | [] => (false, c)
  | d :: rest => if d = first then c.follows rest else (false, c)

def readLineComment (first : Char) : List (List Char) → Cursor → Option (List Char) × Cursor
  | [], c => (none, c)
  | opener :: openers, c =>
    match passOpener first opener c with
    | (true, c) =>
      let (rest, c) := c.readWhile fun d => !endsComment d
      (some (opener ++ rest), c)
    | (false, c) => readLineComment first openers c

def readBlockComment (first : Char) :
    List (List Char × List Char) → Cursor → Option (List Char) × Cursor
  | [], c => (none, c)
  | (opener, closer) :: pairs, c =>
    match passOpener first opener c with
    | (true, c) =>
      let rest := untilClosed closer [] c.ahead
      (some (opener ++ rest), c.steps rest.length)
    | (false, c) => readBlockComment first pairs c

/-- Line comments are looked for before block comments. -/
def readComment (rules : LexemeRules) (first : Char) (c : Cursor) :
    Option (List Char) × Cursor :=
  match readLineComment first rules.lineComments c with
  | (some text, c) => (some text, c)
  | (none, c) => readBlockComment first rules.blockComments c

/-! ### Reading -/

namespace LexemeRules

def readNumber (rules : LexemeRules) (first : Char) (c : Cursor) :
    LexemeKind × List Char × Cursor :=
  let (kind, rest) := numberRest rules first c.ahead
  (kind, first :: rest, c.steps rest.length)

def readQuoted (rules : LexemeRules) (first : Char) (c : Cursor) : List Char × Cursor :=
  let (raw, content) := quotedRest first rules.backslashEscapes c.ahead
  (if rules.decodeStrings then content else first :: raw, c.steps raw.length)

/-- A lexeme other than a comment, whose first character has been passed. -/
def readPlain (rules : LexemeRules) (first : Char) (c : Cursor) : LexemeKind × List Char × Cursor :=
  match rules.classOf first with
  | some .blank =>
    let (rest, c) := c.readWhile fun d => rules.classOf d == some .blank
    (.blank, first :: rest, c)
  | some .number => rules.readNumber first c
  | some .word =>
    let (rest, c) := c.readWhile rules.isWordChar
    (.word, first :: rest, c)
  | some .quote =>
    let (value, c) := rules.readQuoted first c
    (.quoted, value, c)
  | some .symbol =>
    if startsNumber rules first c.ahead then rules.readNumber first c
    else
      let (value, c) := rules.symbols.read first c
      (.symbol, value, c)
  | none => (.unknown, [first], c)

def readLexeme (rules : LexemeRules) (c : Cursor) : Lexeme × Cursor :=
  match c.peek with
  | none => (⟨.ending, [], c.next⟩, c)
  | some first =>
    match readComment rules first c.step with
    | (some text, d) => (⟨.comment, text, c.next⟩, d)
    | (none, d) =>
      let (kind, value, d) := rules.readPlain first d
      (⟨kind, value, c.next⟩, d)

def skips (rules : LexemeRules) (kind : LexemeKind) : Bool :=
  match kind with
  | .blank => rules.skipBlanks
  | .comment => rules.skipComments
  | .ending => rules.skipEnd
  | _ => false

/-- The lexemes from a cursor on; one needs at least one character, so the length of the text and
one more bounds them. -/
def lexemesFrom (rules : LexemeRules) : (bound : Nat) → Cursor → List Lexeme
  | 0, _ => []
  | bound + 1, c =>
    let (lexeme, d) := rules.readLexeme c
    let rest := if lexeme.kind = .ending then [] else lexemesFrom rules bound d
    if rules.skips lexeme.kind then rest else lexeme :: rest

def lexemes (rules : LexemeRules) (text : List Char) : List Lexeme :=
  rules.lexemesFrom (text.length + 1) (.ofText text)

end LexemeRules

/-! ### One at a time -/

/-- Lexemes of a text, given out one by one until the end of the text has been. -/
structure LexemeStream where
  rules : LexemeRules
  cursor : Cursor
  finished : Bool

namespace LexemeStream

def ofText (rules : LexemeRules) (text : List Char) : LexemeStream :=
  ⟨rules, .ofText text, false⟩

def reset (s : LexemeStream) : LexemeStream :=
  ⟨s.rules, s.cursor.reset, false⟩

/-- `bound` is no shorter than the text ahead. -/
def nextWithin : (bound : List Char) → LexemeStream → Option Lexeme × LexemeStream
  | bound, s =>
    if s.finished then (none, s)
    else
      let (lexeme, cursor) := s.rules.readLexeme s.cursor
      let after : LexemeStream := ⟨s.rules, cursor, lexeme.kind = .ending⟩
      if s.rules.skips lexeme.kind then
        match bound with
        | [] => (none, after)
        | _ :: bound => nextWithin bound after
      else (some lexeme, after)

def next (s : LexemeStream) : Option Lexeme × LexemeStream :=
  nextWithin s.cursor.ahead s

/-- All lexemes still to come. -/
def rest (s : LexemeStream) : List Lexeme :=
  if s.finished then [] else s.rules.lexemesFrom (s.cursor.ahead.length + 1) s.cursor

end LexemeStream

end Reckon
