import Reckon.Operator
import Reckon.Conversion
import Reckon.Lowercase
import Reckon.SearchExpression

/-!
# Comparison

A text makes both sides texts; two sides that are whole numbers, truth values, instants or spans are
compared as whole numbers, and all else as floating point, where a side that is no number leaves the
two unordered. Arrays are equal item by item and objects as documents; neither has an order.
-/

namespace Reckon

/-- How texts are compared: as they are, or both in lowercase. -/
inductive TextRule where
  | exact
  | ignoringCase
deriving DecidableEq

namespace TextRule

def form (rule : TextRule) (s : List Char) : List Char :=
  match rule with
  | exact => s
  | ignoringCase => lowercase s

def compare (rule : TextRule) (s t : List Char) : Ordering :=
  compareText (rule.form s) (rule.form t)

def occurs (rule : TextRule) (part s : List Char) : Bool :=
  occursIn (rule.form part) (rule.form s)

end TextRule

def compareFloat? (x y : Float) : Option Ordering :=
  if x < y then some .lt else if y < x then some .gt else if x == y then some .eq else none

namespace Value

def isString : Value → Bool
  | string _ => true
  | _ => false

/-- Kinds that are compared as whole numbers. -/
def isWhole : Value → Bool
  | null | integer _ | long _ | boolean _ | instant _ | span _ => true
  | _ => false

/-- Nothing is the answer for two sides that are unordered; `operator` is named in a refusal. -/
def order (rule : TextRule) (operator : Operator) (left right : Value) :
    Outcome (Option Ordering) :=
  if left.isStructured || right.isStructured then refuse operator left right
  else if left.isString || right.isString then .ok (some (rule.compare left.chars right.chars))
  else if left.isWhole && right.isWhole then
    .ok (some (compare left.asLong.toInt right.asLong.toInt))
  else
    match left.toDouble?, right.toDouble? with
    | some x, some y => .ok (compareFloat? x y)
    | _, _ => refuse operator left right

mutual

def equal (rule : TextRule) : Value → Value → Outcome Bool
  | array a, array b => if a.length = b.length then equalItems rule a b else .ok false
  | object a, object b => .ok (a.same b)
  | left, right => (order rule .equal left right).map (· == some .eq)

def equalItems (rule : TextRule) : List Value → List Value → Outcome Bool
  | a :: as, b :: bs => do if ← equal rule a b then equalItems rule as bs else .ok false
  | _, _ => .ok true

end

def compare? (rule : TextRule) (left right : Value) : Outcome (Option Ordering) :=
  order rule .less left right

def relate (rule : TextRule) (operator : Operator) (accept : Ordering → Bool)
    (left right : Value) : Outcome Value :=
  (order rule operator left right).map fun ordering => boolean ((ordering.map accept).getD false)

/-- Whether a value is an item of an array or stands in a text; items that cannot be compared with it
are passed over. -/
def isIn (rule : TextRule) (value container : Value) : Outcome Bool :=
  match container with
  | array items =>
    .ok (items.any fun item =>
      match equal rule value item with
      | .ok found => found
      | .error _ => false)
  | string s =>
    if value.isStructured then refuse .member value container
    else .ok (rule.occurs value.chars s.toList)
  | null => .ok false
  | object _ => refuse .member value container
  | _ => equal rule value container

def isLike (text pattern : Value) : Outcome Bool :=
  if text.isStructured || pattern.isStructured then refuse .like text pattern
  else
    match (likeExpression pattern.chars).search? text.chars with
    | some found => .ok found
    | none => .error (.invalidPattern pattern.text)

end Value

end Reckon
