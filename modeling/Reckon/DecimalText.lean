import Reckon.ShortestDecimal
import Reckon.Digits
import Reckon.FixedWidth

/-!
# Decimal text

Numbers are read from a sign, digits with a point among them, and an exponent; at least one digit
must stand before the exponent. Whole numbers are read from a sign and digits alone. A floating
point number is written with its shortest digits and never with an exponent.
-/

namespace Reckon

def isDigit (c : Char) : Bool :=
  '0' ≤ c && c ≤ '9'

def digitsValue (digits : List Char) : Nat :=
  joinDigits 10 (digits.reverse.map fun c => c.toNat - '0'.toNat)

def natText (n : Nat) : List Char :=
  Nat.toDigits 10 n

def intText (n : Int) : List Char :=
  if n < 0 then '-' :: natText n.natAbs else natText n.natAbs

/-- `natText` with zeros in front up to a width. -/
def paddedText (width n : Nat) : List Char :=
  let digits := natText n
  List.replicate (width - digits.length) '0' ++ digits

/-- Digits alone, and at least one of them. -/
def readNat? (s : List Char) : Option Nat :=
  if s.isEmpty || !s.all isDigit then none else some (digitsValue s)

def splitSign : List Char → Bool × List Char
  | '+' :: rest => (false, rest)
  | '-' :: rest => (true, rest)
  | s => (false, s)

def readInt? (s : List Char) : Option Int :=
  let (negative, digits) := splitSign s
  (readNat? digits).map fun n => if negative then -(n : Int) else n

/-- The number `± digits * 10 ^ exponent`, as it was written. -/
structure DecimalText where
  negative : Bool
  digits : Nat
  exponent : Int
deriving DecidableEq

namespace DecimalText

def readExponent? : List Char → Option Int
  | [] => some 0
  | c :: rest => if c = 'e' || c = 'E' then readInt? rest else none

def read? (s : List Char) : Option DecimalText :=
  let (negative, body) := splitSign s
  let whole := body.takeWhile isDigit
  let (fraction, rest) :=
    match body.dropWhile isDigit with
    | '.' :: tail => (tail.takeWhile isDigit, tail.dropWhile isDigit)
    | tail => ([], tail)
  if whole.isEmpty && fraction.isEmpty then none
  else (readExponent? rest).map fun exponent =>
    ⟨negative, digitsValue (whole ++ fraction), exponent - fraction.length⟩

/-- Whether the magnitude is `2 ^ 1024` or more, and so beyond every floating point number. -/
def isHuge (d : DecimalText) : Bool :=
  let places := (-d.exponent).toNat
  places ≤ d.digits.log2 && Nat.pow 2 1024 * Nat.pow 10 places ≤ d.digits

/-- The nearest floating point number; infinite where that is out of range. -/
def toFloat (d : DecimalText) : Float :=
  let magnitude :=
    if d.isHuge then 1 / 0 else Float.ofScientific d.digits (d.exponent < 0) d.exponent.natAbs
  if d.negative then -magnitude else magnitude

end DecimalText

def readFloat? (s : List Char) : Option Float :=
  (DecimalText.read? s).map DecimalText.toFloat

namespace ShortDecimal

/-- All digits in their places, with zeros up to the point. -/
def positional (d : ShortDecimal) : List Char :=
  let digits := natText d.digits
  if 0 ≤ d.exponent then
    if d.digits = 0 then digits else digits ++ List.replicate d.exponent.toNat '0'
  else
    let places := (-d.exponent).toNat
    if places < digits.length then
      digits.take (digits.length - places) ++ '.' :: digits.drop (digits.length - places)
    else '0' :: '.' :: List.replicate (places - digits.length) '0' ++ digits

end ShortDecimal

def finiteText (b : BinaryFloat) : List Char :=
  let magnitude := (b.shortest .up).positional
  if b.negative then '-' :: magnitude else magnitude

/-- The text of what is no finite number. -/
def nonfiniteText (isNaN negative : Bool) : List Char :=
  if isNaN then ['N', 'a', 'N']
  else if negative then ['-', 'i', 'n', 'f']
  else ['i', 'n', 'f']

def floatText (x : Float) : List Char :=
  match binary64? x with
  | some b => finiteText b
  | none => nonfiniteText x.isNaN (x < 0)

def float32Text (x : Float32) : List Char :=
  match binary32? x with
  | some b => finiteText b
  | none => nonfiniteText x.isNaN (x < 0)

end Reckon
