/-!
# A cursor in a text

A cursor stands between two characters of a text. It knows the place of the last character it passed
and the place of the next one, and keeps both as it moves. Moving back over characters of one line
only counts columns; moving back over the end of a line starts again from the front.
-/

namespace Reckon

structure Position where
  line : Nat
  column : Nat
deriving DecidableEq

namespace Position

def start : Position := ⟨1, 1⟩

/-- Nothing has been passed yet. -/
def beforeStart : Position := ⟨1, 0⟩

end Position

/-- A line ends at a line feed, and at a carriage return that no line feed follows. -/
def endsLine (c : Char) (next : Option Char) : Bool :=
  c == '\n' || (c == '\r' && next != some '\n')

def Position.past (p : Position) (c : Char) (next : Option Char) : Position :=
  if endsLine c next then ⟨p.line + 1, 1⟩ else ⟨p.line, p.column + 1⟩

/-- Whether a line ends among characters given nearest first, `next` being the one after them. -/
def anyEndsLine : (nearest : List Char) → (next : Option Char) → Bool
  | [], _ => false
  | c :: rest, next => endsLine c next || anyEndsLine rest (some c)

/-- The characters behind stand nearest first. -/
structure Cursor where
  behind : List Char
  ahead : List Char
  last : Position
  next : Position

namespace Cursor

def ofText (text : List Char) : Cursor :=
  ⟨[], text, .beforeStart, .start⟩

def text (c : Cursor) : List Char :=
  c.behind.reverse ++ c.ahead

def offset (c : Cursor) : Nat :=
  c.behind.length

def atEnd (c : Cursor) : Bool :=
  c.ahead.isEmpty

def peek (c : Cursor) : Option Char :=
  c.ahead.head?

/-- The character so many places after the next one. Offsets are words of 64 bits, and the look fails
where none holds the offset it asks for. -/
def peekNth (c : Cursor) (n : UInt64) : Option (Option Char) :=
  if c.offset + n.toNat < UInt64.size then some c.ahead[n.toNat]? else none

/-- Passes one character; at the end there is none to pass. -/
def step (c : Cursor) : Cursor :=
  match c.ahead with
  | [] => c
  | d :: rest => ⟨d :: c.behind, rest, c.next, c.next.past d rest.head?⟩

def steps : Nat → Cursor → Cursor
  | 0, c => c
  | n + 1, c => steps n c.step

def reset (c : Cursor) : Cursor :=
  ofText c.text

/-- Moves back over so many characters, or over all there are. -/
def unread (c : Cursor) (n : Nat) : Cursor :=
  let back := c.behind.take n
  if back.isEmpty then c
  else if anyEndsLine (c.behind.take (n + 1)) c.ahead.head? then
    c.reset.steps (c.behind.length - back.length)
  else
    let column := c.next.column - back.length
    ⟨c.behind.drop n, back.reverse ++ c.ahead, ⟨c.next.line, column - 1⟩, ⟨c.next.line, column⟩⟩

/-- Passes all characters from here on that are of a class. -/
def readWhile (p : Char → Bool) (c : Cursor) : List Char × Cursor :=
  let run := c.ahead.takeWhile p
  (run, c.steps run.length)

/-- Passes a text if it comes next; `passed` characters of it have been passed already. -/
def followsAfter : (passed : Nat) → List Char → Cursor → Bool × Cursor
  | _, [], c => (true, c)
  | passed, expected :: rest, c =>
    match c.peek with
    | none => (false, c.unread passed)
    | some d =>
      if d = expected then followsAfter (passed + 1) rest c.step
      else (false, c.step.unread (passed + 1))

/-- Passes a text if it comes next, and stays where it is otherwise. -/
def follows (c : Cursor) (expected : List Char) : Bool × Cursor :=
  followsAfter 0 expected c

end Cursor

end Reckon
