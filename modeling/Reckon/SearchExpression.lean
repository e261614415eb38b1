import Reckon.Wildcard

/-!
# Search expressions

An expression is looked for in a text. In it `^` is the front of the text and `$` its back, a stop is
any one character, a star behind a part repeats the part, and a character with a meaning of its own
loses it behind a backslash. What is built here of expressions is what patterns need: the whole text
made up of single characters and of stops that may be repeated.
-/

namespace Reckon

/-- Without `dotTakesBreak` a stop is any character but a line feed. -/
structure SearchExpression where
  source : List Char
  ignoresCase : Bool
  dotTakesBreak : Bool

inductive ExpressionAtom where
  | front
  | back
  | dot
  | literal (c : Char)
deriving DecidableEq

inductive ExpressionPart where
  | once (atom : ExpressionAtom)
  | many (atom : ExpressionAtom)
deriving DecidableEq

/-! ### Reading -/

/-- The characters that mean something in some place of an expression. -/
def metaCharacters : List Char :=
  ['\\', '.', '+', '*', '?', '(', ')', '|', '[', ']', '{', '}', '^', '$', '#', '&', '-', '~']

/-- A single character of an expression. Groups, classes, alternatives and other repetitions than the
star are not read. -/
def ExpressionAtom.ofChar? (c : Char) : Option ExpressionAtom :=
  if c = '^' then some front
  else if c = '$' then some back
  else if c = '.' then some dot
  else if ['+', '?', '(', ')', '|', '[', '{'].contains c then none
  else some (literal c)

/-- The parts read so far stand in front, the last one first. -/
def readParts : (read : List ExpressionPart) → List Char → Option (List ExpressionPart)
  | read, [] => some read.reverse
  | read, c :: rest =>
    if c = '\\' then
      match rest with
      | [] => none
      | d :: rest =>
        if metaCharacters.contains d then readParts (.once (.literal d) :: read) rest else none
    else if c = '*' then
      match read with
      | .once atom :: read => readParts (.many atom :: read) rest
      | _ => none
    else do readParts (.once (← ExpressionAtom.ofChar? c) :: read) rest

/-! ### Searching -/

def Wildcard.ofPart? : ExpressionPart → Option Wildcard
  | .once .dot => some anyChar
  | .many .dot => some anyText
  | .once (.literal c) => some (char (foldCase c))
  | _ => none

namespace SearchExpression

/-- What stands between the front and the back of the text. -/
def wildcards? (e : SearchExpression) : Option (List Wildcard) :=
  match readParts [] e.source with
  | some (.once .front :: parts) =>
    if e.ignoresCase && e.dotTakesBreak && parts.getLast? == some (.once .back) then
      parts.dropLast.mapM Wildcard.ofPart?
    else none
  | _ => none

/-- Whether the expression is found in a text; nothing where it is not built, as it is when it takes
too much room. -/
def search? (e : SearchExpression) (text : List Char) : Option Bool := do
  let wildcards ← e.wildcards?
  if PatternRoom.fits wildcards then some (matchesFolded wildcards (text.map foldCase)) else none

end SearchExpression

/-! ### Patterns -/

def escaped (c : Char) : List Char :=
  if metaCharacters.contains c then ['\\', c] else [c]

def patternPart (c : Char) : List Char :=
  if c = '%' then ['.', '*'] else if c = '_' then ['.'] else escaped c

def likeExpression (pattern : List Char) : SearchExpression where
  source := '^' :: pattern.flatMap patternPart ++ ['$']
  ignoresCase := true
  dotTakesBreak := true

example : (likeExpression "50%_.".toList).source = "^50.*.\\.$".toList := by decide

end Reckon
