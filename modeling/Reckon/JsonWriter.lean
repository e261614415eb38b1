import Reckon.DecimalText
import Reckon.Json

/-!
# Writing JSON

Compact text has no blanks; laid out text puts every item and field on a line of its own, two
spaces deeper than what holds it. A floating point number is written with its shortest digits: in
place while the point falls within sixteen digits or at most five zeros stand before the first one,
with an exponent elsewhere, and always with a point or an exponent.
-/

namespace Reckon

namespace ShortDecimal

/-- Scientific text has one digit before the point and a sign before the exponent. -/
def scientific (d : ShortDecimal) (point : Int) : List Char :=
  let digits := natText d.digits
  digits.take 1 ++ (if digits.length = 1 then [] else '.' :: digits.drop 1) ++
    'e' :: (if point < 1 then '-' else '+') :: natText (point - 1).natAbs

def jsonText (d : ShortDecimal) : List Char :=
  let digits := natText d.digits
  let point := digits.length + d.exponent
  if 0 ≤ d.exponent && point ≤ 16 then d.positional ++ ['.', '0']
  else if d.exponent < 0 && -5 < point && point ≤ 16 then d.positional
  else d.scientific point

end ShortDecimal

namespace Json

def floatText (x : Float) : List Char :=
  match binary64? x with
  | none => "null".toList
  | some b =>
    let magnitude := (b.shortest .even).jsonText
    if b.negative then '-' :: magnitude else magnitude

def hexDigit (n : Nat) : Char :=
  (Nat.toDigits 16 n).headD '0'

def escaped (c : Char) : List Char :=
  if c = '"' || c = '\\' then ['\\', c]
  else if c = '\x08' then ['\\', 'b']
  else if c = '\x0c' then ['\\', 'f']
  else if c = '\n' then ['\\', 'n']
  else if c = '\r' then ['\\', 'r']
  else if c = '\t' then ['\\', 't']
  else if c.toNat < 0x20 then
    ['\\', 'u', '0', '0', hexDigit (c.toNat / 16), hexDigit (c.toNat % 16)]
  else [c]

def stringText (s : String) : List Char :=
  '"' :: s.toList.flatMap escaped ++ ['"']

mutual

def compact : Json → List Char
  | .null => "null".toList
  | .boolean true => "true".toList
  | .boolean false => "false".toList
  | .integer n => intText n
  | .float x => floatText x
  | .string s => stringText s
  | .array items => '[' :: compactItems items ++ [']']
  | .object fields => '\x7b' :: compactFields fields ++ ['\x7d']

def compactItems : List Json → List Char
  | [] => []
  | [item] => compact item
  | item :: rest => compact item ++ ',' :: compactItems rest

def compactFields : List (String × Json) → List Char
  | [] => []
  | [(key, value)] => stringText key ++ ':' :: compact value
  | (key, value) :: rest => stringText key ++ ':' :: compact value ++ ',' :: compactFields rest

end

def newline (depth : Nat) : List Char :=
  '\n' :: List.replicate (2 * depth) ' '

mutual

def laidOut (depth : Nat) : Json → List Char
  | .array [] => ['[', ']']
  | .object [] => ['\x7b', '\x7d']
  | .array items => '[' :: laidOutItems (depth + 1) items ++ newline depth ++ [']']
  | .object fields => '\x7b' :: laidOutFields (depth + 1) fields ++ newline depth ++ ['\x7d']
  | .null => "null".toList
  | .boolean true => "true".toList
  | .boolean false => "false".toList
  | .integer n => intText n
  | .float x => floatText x
  | .string s => stringText s

def laidOutItems (depth : Nat) : List Json → List Char
  | [] => []
  | [item] => newline depth ++ laidOut depth item
  | item :: rest => newline depth ++ laidOut depth item ++ ',' :: laidOutItems depth rest

def laidOutFields (depth : Nat) : List (String × Json) → List Char
  | [] => []
  | [(key, value)] => newline depth ++ stringText key ++ ": ".toList ++ laidOut depth value
  | (key, value) :: rest =>
    newline depth ++ stringText key ++ ": ".toList ++ laidOut depth value ++
      ',' :: laidOutFields depth rest

end

end Json

end Reckon
