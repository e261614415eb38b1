import Reckon.FixedWidth
import Reckon.TextOrder

/-!
# JSON documents

A number is whole, with 64 bits and a sign or 64 bits without, or it is floating point. The fields
of an object stand in the order of their keys, and no key occurs twice.
-/

namespace Reckon

inductive Json where
  | null
  | boolean (value : Bool)
  | integer (value : Int)
  | float (value : Float)
  | string (value : String)
  | array (items : List Json)
  | object (fields : List (String × Json))

namespace Json

/-- Of neighbours with the same key the last one stays. -/
def lastOfEachKey : List (String × Json) → List (String × Json)
  | a :: b :: rest =>
    if a.1 = b.1 then lastOfEachKey (b :: rest) else a :: lastOfEachKey (b :: rest)
  | short => short

/-- The object with these fields; the last value given to a key is the one that stays. -/
def ofFields (fields : List (String × Json)) : Json :=
  .object (lastOfEachKey
    (fields.mergeSort fun a b => compareText a.1.toList b.1.toList != .gt))

/-- The value of a field; only objects have fields. -/
def field? (key : String) : Json → Option Json
  | .object fields => fields.lookup key
  | _ => none

/-- A floating point number as a document, if it has one. -/
def ofFloat (x : Float) : Json :=
  if x.isFinite then .float x else .null

/-- The nearest floating point number to a whole number. -/
def floatOfInt (n : Int) : Float :=
  Float.ofInt n

mutual

def same : Json → Json → Bool
  | .null, .null => true
  | .boolean a, .boolean b => a == b
  | .integer a, .integer b => a == b
  | .float a, .float b => a == b
  | .string a, .string b => a == b
  | .array a, .array b => sameItems a b
  | .object a, .object b => sameFields a b
  | _, _ => false

def sameItems : List Json → List Json → Bool
  | [], [] => true
  | a :: as, b :: bs => same a b && sameItems as bs
  | _, _ => false

def sameFields : List (String × Json) → List (String × Json) → Bool
  | [], [] => true
  | (k, a) :: as, (l, b) :: bs => k == l && same a b && sameFields as bs
  | _, _ => false

end

end Json

end Reckon
