import Reckon.CaseFolding

/-!
# Patterns and the room they take

In a pattern `%` stands for any text, `_` for any one character, and every other character for one
that agrees with it without regard to case.

The size of a pattern is that of the two automata over UTF-8 bytes that accept it, one reading
forwards and one reading backwards. A state takes 32 bytes; an edge takes 8 where a state has a
table of them, and 4 where it only goes on to several others. A pattern fits while neither
automaton takes more than ten mebibytes. Forwards, states that go on alike are counted apart; that
does not matter, as where there are such states the backward automaton is the larger one.
-/

namespace Reckon

inductive Wildcard where
  | anyText
  | anyChar
  | char (c : Char)
deriving DecidableEq

def Wildcard.ofChar (c : Char) : Wildcard :=
  if c = '%' then anyText else if c = '_' then anyChar else char (foldCase c)

structure PatternRoom where
  forwards : Nat
  backwards : Nat

namespace PatternRoom

def plus (a b : PatternRoom) : PatternRoom :=
  ⟨a.forwards + b.forwards, a.backwards + b.backwards⟩

/-- Room for one of several characters that are `runs` ranges of bytes, each after bytes of its own,
and `beginnings` different beginnings of those bytes before the last. Without any, the characters
are ASCII, and one table serves both directions. -/
def choice (runs beginnings : Nat) : PatternRoom :=
  ⟨64 + 8 * runs + 40 * beginnings,
    if beginnings = 0 then 64 + 8 * runs else 64 + 36 * runs + 32 * beginnings⟩

/-- The bytes of a character that stand before its last one, and their beginnings. -/
def beginningsOf (code : Nat) : List (List UInt8) :=
  let bytes := String.utf8EncodeChar (Char.ofNat code)
  (List.range bytes.length).tail.map bytes.take

/-- Room for one of the characters with these code points. Neighbours share a run if only their last
bytes differ. -/
def ofCodes (codes : List Nat) : PatternRoom :=
  let startsRun (code : Nat) : Bool :=
    !codes.any fun before => before + 1 = code && beginningsOf before == beginningsOf code
  choice (codes.filter startsRun).length (codes.flatMap beginningsOf).eraseDups.length

/-- All characters are nine runs, and any text goes round them. -/
def ofPart : Wildcard → PatternRoom
  | .anyText => (choice 9 18).plus ⟨40, 40⟩
  | .anyChar => choice 9 18
  | .char c =>
    match otherForms c with
    | [] => ⟨32 * c.utf8Size, 32 * c.utf8Size⟩
    | others => ofCodes (c.toNat :: others)

/-- Both automata check the ends of the text, and the forward one marks where a match lies. -/
def ofParts (parts : List Wildcard) : PatternRoom :=
  parts.foldl (fun room part => room.plus (ofPart part)) ⟨192, 128⟩

def fits (parts : List Wildcard) : Bool :=
  let room := ofParts parts
  max room.forwards room.backwards ≤ 10 * Nat.pow 2 20

end PatternRoom

end Reckon
