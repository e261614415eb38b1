import Reckon.Letters
import Reckon.SymbolTable

/-!
# Rules for lexemes

The rules say of every character what it begins, which symbols of several characters there are, how
numbers, comments and quoted texts look, and which lexemes are left out.
-/

namespace Reckon

inductive CharClass where
  | blank
  | word
  | number
  | quote
  | symbol
deriving DecidableEq

/-- The classes given to ranges of characters stand latest first. -/
structure LexemeRules where
  classes : List (Char × Char × CharClass) := []
  wordInner : List Char := []
  symbols : SymbolTable := .empty
  allowSign : Bool := false
  allowHex : Bool := true
  allowExponent : Bool := true
  lineComments : List (List Char) := []
  blockComments : List (List Char × List Char) := []
  backslashEscapes : Bool := false
  decodeStrings : Bool := false
  skipBlanks : Bool := false
  skipComments : Bool := false
  skipEnd : Bool := false
  unicodeWords : Bool := false

namespace LexemeRules

def setClass (rules : LexemeRules) (first last : Char) (cls : CharClass) : LexemeRules :=
  { rules with classes := (first, last, cls) :: rules.classes }

/-- The class given last wins; letters and blanks without one have their own. -/
def classOf (rules : LexemeRules) (c : Char) : Option CharClass :=
  match rules.classes.find? fun (first, last, _) => first ≤ c && c ≤ last with
  | some (_, _, cls) => some cls
  | none =>
    if rules.unicodeWords && isLetter c then some .word
    else if isBlank c then some .blank
    else none

def isWordChar (rules : LexemeRules) (c : Char) : Bool :=
  rules.classOf c == some .word || rules.classOf c == some .number || rules.wordInner.contains c

def empty : LexemeRules := {}

def asciiClasses : List (Char × Char × CharClass) := [
  ('\u00a0', '\u00a0', .blank),
  ('\'', '\'', .quote),
  ('"', '"', .quote),
  ('0', '9', .number),
  ('_', '_', .word),
  ('A', 'Z', .word),
  ('a', 'z', .word),
  ('!', '~', .symbol),
  ('\u0000', ' ', .blank)]

def slashComments (rules : LexemeRules) : LexemeRules :=
  { rules with
    lineComments := [['/', '/']]
    blockComments := [(['/', '*'], ['*', '/'])] }

/-- General text: everything is kept as it is written, and numbers may have a sign. -/
def generic : LexemeRules :=
  slashComments {
    classes := asciiClasses
    symbols := .ofList (["<=", ">=", "<>", "!=", "==", "<<", ">>", "&&", "||", "++", "--", "+=",
      "-=", "*=", "/=", "->", "::"].map String.toList)
    allowSign := true
    unicodeWords := true }

/-- Text of a formula: blanks and comments are left out, quoted text is decoded, and names may have
points in them. -/
def formula : LexemeRules :=
  slashComments {
    classes := asciiClasses
    symbols := .ofList (["<=", ">=", "<>", "!=", "==", "<<", ">>", "&&", "||"].map String.toList)
    wordInner := ['.']
    decodeStrings := true
    skipBlanks := true
    skipComments := true
    unicodeWords := true }

end LexemeRules

end Reckon
