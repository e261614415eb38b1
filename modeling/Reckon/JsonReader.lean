import Reckon.Json
import Reckon.DecimalText

/-!
# Reading JSON

A document is read from left to right, and the first fault ends the reading. A fault knows the text
that was left when it was found, and how many bytes past that point it is reported; its line and
column follow, the column counted in bytes. Arrays and objects may be nested 127 deep.

A number with more digits than 64 bits hold goes on as floating point: the digits that fit are
rounded and then multiplied or divided by a power of ten, which rounds once more.
-/

namespace Reckon

inductive JsonFault where
  | endInValue
  | endInList
  | endInObject
  | endInString
  | expectedColon
  | expectedListEnd
  | expectedObjectEnd
  | expectedWord
  | expectedValue
  | invalidEscape
  | invalidNumber
  | numberOutOfRange
  | controlCharacter
  | keyNotString
  | loneSurrogate
  | trailingComma
  | trailingCharacters
  | unfinishedSurrogates
  | tooDeep
deriving DecidableEq

namespace JsonFault

def message : JsonFault → String
  | endInValue => "EOF while parsing a value"
  | endInList => "EOF while parsing a list"
  | endInObject => "EOF while parsing an object"
  | endInString => "EOF while parsing a string"
  | expectedColon => "expected `:`"
  | expectedListEnd => "expected `,` or `]`"
  | expectedObjectEnd => "expected `,` or `\x7d`"
  | expectedWord => "expected ident"
  | expectedValue => "expected value"
  | invalidEscape => "invalid escape"
  | invalidNumber => "invalid number"
  | numberOutOfRange => "number out of range"
  | controlCharacter => "control character (\\u0000-\\u001F) found while parsing a string"
  | keyNotString => "key must be a string"
  | loneSurrogate => "lone leading surrogate in hex escape"
  | trailingComma => "trailing comma"
  | trailingCharacters => "trailing characters"
  | unfinishedSurrogates => "unexpected end of hex escape"
  | tooDeep => "recursion limit exceeded"

end JsonFault

structure JsonStop where
  fault : JsonFault
  left : List Char
  bytesPast : Nat

abbrev JsonPart (α : Type) := List Char → Except JsonStop (α × List Char)

namespace JsonReader

/-- A fault found at a character is reported just past its first byte. -/
def stopAt {α : Type} (fault : JsonFault) (left : List Char) : Except JsonStop α :=
  .error ⟨fault, left, 1⟩

def stopBefore {α : Type} (fault : JsonFault) (left : List Char) : Except JsonStop α :=
  .error ⟨fault, left, 0⟩

def skipBlanks (s : List Char) : List Char :=
  s.dropWhile fun c => c = ' ' || c = '\n' || c = '\t' || c = '\r'

def word {α : Type} (value : α) : (letters : List Char) → JsonPart α
  | [], s => .ok (value, s)
  | _ :: _, [] => stopBefore .endInValue []
  | letter :: letters, c :: s =>
    if c = letter then word value letters s else stopAt .expectedWord (c :: s)

/-! ### Numbers -/

def fitsWord (significand digit : Nat) : Bool :=
  significand * 10 + digit < 18446744073709551616

def powerOfTen (n : Nat) : Float :=
  Float.ofScientific 1 false n

/-- Powers of ten beyond the last one below infinity are taken in steps. -/
def scaleDown (x : Float) (exponent : Nat) : Float :=
  if exponent ≤ 308 then x / powerOfTen exponent
  else if x == 0 then x
  else scaleDown (x / powerOfTen 308) (exponent - 308)
termination_by exponent

def floatOfParts (negative : Bool) (significand : Nat) (exponent : Int) : JsonPart Json := fun s =>
  let start := Float.ofNat significand
  let signed (x : Float) : Json := .float (if negative then -x else x)
  if exponent < 0 then .ok (signed (scaleDown start exponent.natAbs), s)
  else if 308 < exponent then
    if start == 0 then .ok (signed start, s) else stopBefore .numberOutOfRange s
  else
    let scaled := start * powerOfTen exponent.toNat
    if scaled.isInf then stopBefore .numberOutOfRange s else .ok (signed scaled, s)

/-- The digits of an exponent fit 31 bits; one that does not makes the number zero, or too large. -/
def exponentDigits (negative negativeExponent : Bool) (significand : Nat) (start : Int) :
    (exponent : Nat) → JsonPart Json
  | exponent, [] => finish exponent []
  | exponent, c :: s =>
    if isDigit c then
      let digit := digitsValue [c]
      if exponent * 10 + digit ≤ 2147483647 then
        exponentDigits negative negativeExponent significand start (exponent * 10 + digit) s
      else if significand ≠ 0 && !negativeExponent then stopBefore .numberOutOfRange s
      else .ok (.float (if negative then -0.0 else 0.0), s.dropWhile isDigit)
    else finish exponent (c :: s)
where
  finish (exponent : Nat) : JsonPart Json :=
    floatOfParts negative significand (if negativeExponent then start - exponent else start + exponent)

def exponentPart (negative : Bool) (significand : Nat) (start : Int) : JsonPart Json := fun s =>
  let (negativeExponent, s) :=
    match s with
    | '+' :: rest => (false, rest)
    | '-' :: rest => (true, rest)
    | _ => (false, s)
  match s with
  | [] => stopBefore .endInValue []
  | c :: rest =>
    if isDigit c then
      exponentDigits negative negativeExponent significand start (digitsValue [c]) rest
    else stopAt .invalidNumber (c :: rest)

def afterDigits (negative : Bool) (significand : Nat) (exponent : Int) : JsonPart Json
  | c :: s =>
    if c = 'e' || c = 'E' then exponentPart negative significand exponent s
    else floatOfParts negative significand exponent (c :: s)
  | [] => floatOfParts negative significand exponent []

/-- Digits after the point; those that no longer fit are passed over. -/
def fractionDigits (negative : Bool) (start : Int) :
    (significand places : Nat) → JsonPart Json
  | significand, places, [] =>
    if places = 0 then stopAt .endInValue []
    else afterDigits negative significand (start - places) []
  | significand, places, c :: s =>
    if isDigit c then
      if fitsWord significand (digitsValue [c]) then
        fractionDigits negative start (significand * 10 + digitsValue [c]) (places + 1) s
      else afterDigits negative significand (start - places) ((c :: s).dropWhile isDigit)
    else if places = 0 then stopAt .invalidNumber (c :: s)
    else afterDigits negative significand (start - places) (c :: s)

def longDigits (negative : Bool) (significand : Nat) : (passed : Nat) → JsonPart Json
  | passed, [] => floatOfParts negative significand passed []
  | passed, c :: s =>
    if isDigit c then longDigits negative significand (passed + 1) s
    else if c = '.' then fractionDigits negative passed significand 0 s
    else afterDigits negative significand passed (c :: s)

def wholeNumber (negative : Bool) (significand : Nat) : Json :=
  if negative then
    if significand = 0 || 9223372036854775808 < significand then .float (-(Float.ofNat significand))
    else .integer (-(significand : Int))
  else .integer significand

def afterWhole (negative : Bool) (significand : Nat) : JsonPart Json
  | c :: s =>
    if c = '.' then fractionDigits negative 0 significand 0 s
    else if c = 'e' || c = 'E' then exponentPart negative significand 0 s
    else .ok (wholeNumber negative significand, c :: s)
  | [] => .ok (wholeNumber negative significand, [])

def wholeDigits (negative : Bool) : (significand : Nat) → JsonPart Json
  | significand, c :: s =>
    if isDigit c then
      if fitsWord significand (digitsValue [c]) then
        wholeDigits negative (significand * 10 + digitsValue [c]) s
      else longDigits negative significand 0 (c :: s)
    else afterWhole negative significand (c :: s)
  | significand, [] => afterWhole negative significand []

/-- A zero in front stands alone. -/
def number (negative : Bool) : JsonPart Json
  | [] => stopBefore .endInValue []
  | '0' :: s =>
    if (s.head?.map isDigit).getD false then stopAt .invalidNumber s else afterWhole negative 0 s
  | c :: s =>
    if isDigit c then wholeDigits negative (digitsValue [c]) s else stopAt .invalidNumber (c :: s)

/-! ### Strings -/

def hexValue? (c : Char) : Option Nat :=
  if isDigit c then some (c.toNat - '0'.toNat)
  else if 'a' ≤ c && c ≤ 'f' then some (c.toNat - 'a'.toNat + 10)
  else if 'A' ≤ c && c ≤ 'F' then some (c.toNat - 'A'.toNat + 10)
  else none

def byteLength (s : List Char) : Nat :=
  s.foldl (fun n c => n + c.utf8Size) 0

def fourHex : JsonPart Nat := fun s =>
  if byteLength (s.take 4) < 4 then stopBefore .endInString []
  else
    match s with
    | a :: b :: c :: d :: rest =>
      match hexValue? a, hexValue? b, hexValue? c, hexValue? d with
      | some a, some b, some c, some d => .ok (((a * 16 + b) * 16 + c) * 16 + d, rest)
      | _, _, _, _ => .error ⟨.invalidEscape, s, 4⟩
    | _ => .error ⟨.invalidEscape, s, 4⟩

def expectChar (c : Char) : JsonPart Unit
  | [] => stopBefore .endInString []
  | d :: s => if d = c then .ok ((), s) else .error ⟨.unfinishedSurrogates, d :: s, 1⟩

/-- Code points above sixteen bits are written as two surrogates, and only so. -/
def unicodeEscape : JsonPart Char := fun s => do
  let (first, s) ← fourHex s
  if 0xdc00 ≤ first ∧ first ≤ 0xdfff then stopBefore .loneSurrogate s
  else if 0xd800 ≤ first ∧ first ≤ 0xdbff then
    let (_, s) ← expectChar '\\' s
    let (_, s) ← expectChar 'u' s
    let (second, s) ← fourHex s
    if 0xdc00 ≤ second ∧ second ≤ 0xdfff then
      .ok (Char.ofNat ((first - 0xd800) * 1024 + (second - 0xdc00) + 0x10000), s)
    else stopBefore .loneSurrogate s
  else .ok (Char.ofNat first, s)

def escape : JsonPart Char
  | [] => stopBefore .endInString []
  | c :: s =>
    match c with
    | '"' => .ok ('"', s)
    | '\\' => .ok ('\\', s)
    | '/' => .ok ('/', s)
    | 'b' => .ok ('\x08', s)
    | 'f' => .ok ('\x0c', s)
    | 'n' => .ok ('\n', s)
    | 'r' => .ok ('\r', s)
    | 't' => .ok ('\t', s)
    | 'u' => unicodeEscape s
    | _ => stopAt .invalidEscape (c :: s)

/-- `read` holds the characters read, last first; `bound` is no shorter than the text. -/
def stringRest : (bound : List Char) → (read : List Char) → JsonPart String
  | _, _, [] => stopBefore .endInString []
  | [], _, s => stopBefore .endInString s
  | _ :: bound, read, c :: s =>
    if c = '"' then .ok (String.ofList read.reverse, s)
    else if c = '\\' then do
      let (escaped, s) ← escape s
      stringRest bound (escaped :: read) s
    else if c.toNat < 0x20 then stopBefore .controlCharacter s
    else stringRest bound (c :: read) s

def string : JsonPart String := fun s =>
  stringRest s [] s

/-! ### Documents -/

/-- What stands before an item: nothing before the first one, a comma before the others. -/
def separator (close : Char) (unclosed : JsonFault) (isFirst : Bool) (s : List Char) :
    Except JsonStop (List Char) :=
  if isFirst then .ok s
  else
    match s with
    | ',' :: s =>
      match skipBlanks s with
      | [] => stopAt .endInValue []
      | c :: s => if c = close then stopAt .trailingComma (c :: s) else .ok (c :: s)
    | s => stopAt unclosed s

/-- `read` holds the items read, last first; `bound` is no shorter than the text. -/
def listItems (item : JsonPart Json) :
    (bound : List Char) → (read : List Json) → JsonPart (List Json)
  | bound, read, s =>
    match skipBlanks s with
    | [] => stopAt .endInList []
    | ']' :: s => .ok (read.reverse, s)
    | s => do
      let (value, s) ← item (← separator ']' .expectedListEnd read.isEmpty s)
      match bound with
      | [] => stopBefore .endInList s
      | _ :: bound => listItems item bound (value :: read) s

def field (item : JsonPart Json) : JsonPart (String × Json)
  | '"' :: s => do
    let (key, s) ← string s
    match skipBlanks s with
    | [] => stopAt .endInObject []
    | ':' :: s =>
      let (value, s) ← item s
      .ok ((key, value), s)
    | s => stopAt .expectedColon s
  | s => stopAt .keyNotString s

def objectFields (item : JsonPart Json) :
    (bound : List Char) → (read : List (String × Json)) → JsonPart (List (String × Json))
  | bound, read, s =>
    match skipBlanks s with
    | [] => stopAt .endInObject []
    | '\x7d' :: s => .ok (read.reverse, s)
    | s => do
      let (entry, s) ← field item (← separator '\x7d' .expectedObjectEnd read.isEmpty s)
      match bound with
      | [] => stopBefore .endInObject s
      | _ :: bound => objectFields item bound (entry :: read) s

/-- `depth` counts the arrays and objects that may still be opened. -/
def value : (depth : Nat) → JsonPart Json
  | depth, s =>
    match skipBlanks s with
    | [] => stopAt .endInValue []
    | c :: s =>
      match c with
      | 'n' => word .null ['u', 'l', 'l'] s
      | 't' => word (.boolean true) ['r', 'u', 'e'] s
      | 'f' => word (.boolean false) ['a', 'l', 's', 'e'] s
      | '-' => number true s
      | '"' => (string s).map fun (text, s) => (.string text, s)
      | '[' =>
        match depth with
        | 0 => stopAt .tooDeep (c :: s)
        | depth + 1 =>
          (listItems (value depth) s [] s).map fun (items, s) => (.array items, s)
      | '\x7b' =>
        match depth with
        | 0 => stopAt .tooDeep (c :: s)
        | depth + 1 =>
          (objectFields (value depth) s [] s).map fun (fields, s) =>
            (.ofFields fields, s)
      | _ => if isDigit c then number false (c :: s) else stopAt .expectedValue (c :: s)

def document (s : List Char) : Except JsonStop Json := do
  let (value, rest) ← value 127 s
  match skipBlanks rest with
  | [] => .ok value
  | left => stopAt .trailingCharacters left

end JsonReader

/-- Why a text is not a document, and where. -/
structure JsonError where
  fault : JsonFault
  line : Nat
  column : Nat

namespace JsonError

/-- The line and column reached after so many bytes. -/
def place : (bytes line column : Nat) → List Char → Nat × Nat
  | 0, line, column, _ => (line, column)
  | _, line, column, [] => (line, column)
  | bytes + 1, line, column, c :: rest =>
    if c = '\n' then place bytes (line + 1) 0 rest
    else if bytes + 1 < c.utf8Size then (line, column + bytes + 1)
    else place (bytes + 1 - c.utf8Size) line (column + c.utf8Size) rest
termination_by _ _ _ s => s.length

def ofStop (text : List Char) (stop : JsonStop) : JsonError :=
  let read := JsonReader.byteLength text - JsonReader.byteLength stop.left
  let (line, column) := place (read + stop.bytesPast) 1 0 text
  ⟨stop.fault, line, column⟩

def message (e : JsonError) : String :=
  s!"{e.fault.message} at line {e.line} column {e.column}"

end JsonError

def readJson (text : List Char) : Except JsonError Json :=
  (JsonReader.document text).mapError (JsonError.ofStop text)

end Reckon
