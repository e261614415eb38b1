import Reckon.InstantText
import Reckon.JsonWriter

/-!
# Values

A value is of one of eleven kinds. Four of them are numeric, from the narrowest to the widest;
objects and arrays are structured, an object being any JSON document.
-/

namespace Reckon

inductive Value where
  | null
  | integer (n : Int32)
  | long (n : Int64)
  | float (x : Float32)
  | double (x : Float)
  | string (s : String)
  | boolean (b : Bool)
  | instant (t : Instant)
  | span (d : Span)
  | object (document : Json)
  | array (items : List Value)

instance : Inhabited Value := ⟨.null⟩

inductive Kind where
  | null
  | integer
  | long
  | float
  | double
  | string
  | boolean
  | instant
  | span
  | object
  | array
deriving DecidableEq

namespace Kind

def name : Kind → String
  | null => "Null"
  | integer => "Integer"
  | long => "Long"
  | float => "Float"
  | double => "Double"
  | string => "String"
  | boolean => "Boolean"
  | instant => "DateTime"
  | span => "TimeSpan"
  | object => "Object"
  | array => "Array"

def isNumeric : Kind → Bool
  | integer | long | float | double => true
  | _ => false

end Kind

namespace Value

def kind : Value → Kind
  | null => .null
  | integer _ => .integer
  | long _ => .long
  | float _ => .float
  | double _ => .double
  | string _ => .string
  | boolean _ => .boolean
  | instant _ => .instant
  | span _ => .span
  | object _ => .object
  | array _ => .array

def isNull : Value → Bool
  | null => true
  | _ => false

def isStructured : Value → Bool
  | object _ | array _ => true
  | _ => false

/-! ### Canonical text -/

mutual

def chars : Value → List Char
  | null => []
  | integer n => intText n.toInt
  | long n => intText n.toInt
  | float x => float32Text x
  | double x => floatText x
  | string s => s.toList
  | boolean true => ['t', 'r', 'u', 'e']
  | boolean false => ['f', 'a', 'l', 's', 'e']
  | instant t => t.text
  | span d => d.text
  | object document => document.compact
  | array items => joinedChars items

/-- The texts of the items with commas between them. -/
def joinedChars : List Value → List Char
  | [] => []
  | [item] => chars item
  | item :: rest => chars item ++ ',' :: joinedChars rest

end

def text (v : Value) : String :=
  String.ofList v.chars

/-! ### JSON -/

mutual

/-- Instants and spans become their texts, and numbers that JSON does not have become null. -/
def toJson : Value → Json
  | null => .null
  | integer n => .integer n.toInt
  | long n => .integer n.toInt
  | float x => .ofFloat (widen x)
  | double x => .ofFloat x
  | string s => .string s
  | boolean b => .boolean b
  | instant t => .string (String.ofList t.text)
  | span d => .string (String.ofList d.text)
  | object document => document
  | array items => .array (toJsonItems items)

def toJsonItems : List Value → List Json
  | [] => []
  | item :: rest => toJson item :: toJsonItems rest

end

/-- A whole number takes the narrowest kind that holds it. -/
def ofInt (n : Int) : Value :=
  match toInt32? n with
  | some k => integer k
  | none =>
    match toInt64? n with
    | some k => long k
    | none => double (Json.floatOfInt n)

mutual

/-- Arrays become arrays of values, and objects stay whole. -/
def ofJson : Json → Value
  | .null => null
  | .boolean b => boolean b
  | .integer n => ofInt n
  | .float x => double x
  | .string s => string s
  | .array items => array (ofJsonItems items)
  | .object fields => object (.object fields)

def ofJsonItems : List Json → List Value
  | [] => []
  | item :: rest => ofJson item :: ofJsonItems rest

end

end Value

end Reckon
