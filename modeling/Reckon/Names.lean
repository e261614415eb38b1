import Reckon.Lowercase
import Reckon.TextOrder

/-!
# Names

Names are the same when their lowercase forms are. Things that have names are filed under those
forms, in the order in which they came.
-/

namespace Reckon

def nameKey (name : String) : String :=
  String.ofList (lowercase name.toList)

abbrev Filed (α : Type) := List (String × α)

namespace Filed

variable {α : Type}

def get? (filed : Filed α) (name : String) : Option α :=
  filed.lookup (nameKey name)

def contains (filed : Filed α) (name : String) : Bool :=
  (filed.get? name).isSome

/-- What was filed under the key before, if anything, gives way to `item`. -/
def putKey (key : String) (item : α) : Filed α → Filed α
  | [] => [(key, item)]
  | (other, old) :: rest =>
    if other = key then (key, item) :: rest else (other, old) :: putKey key item rest

def put (filed : Filed α) (name : String) (item : α) : Filed α :=
  putKey (nameKey name) item filed

def remove (filed : Filed α) (name : String) : Filed α :=
  filed.filter fun entry => entry.1 != nameKey name

def items (filed : Filed α) : List α :=
  filed.map Prod.snd

end Filed

/-- Without those whose key has occurred before. -/
def distinctNames (names : List String) : List String :=
  go [] names
where
  go (seen : List String) : List String → List String
    | [] => []
    | name :: rest =>
      if seen.contains (nameKey name) then go seen rest else name :: go (nameKey name :: seen) rest

def sortNames (names : List String) : List String :=
  names.mergeSort fun a b => compareText a.toList b.toList != .gt

end Reckon
