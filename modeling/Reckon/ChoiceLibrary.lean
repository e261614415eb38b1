import Reckon.Library

/-!
# Functions that choose and test

`IF` and `CHOOSE` return one of their arguments, all of which have been evaluated; `EMPTY` and
`CONTAINS` test theirs.
-/

namespace Reckon.ChoiceLibrary

def choose (arguments : List Value) : Evaluated Value := do
  let index ← integerArgument "CHOOSE" arguments 0
  let choices := arguments.drop 1
  match if 1 ≤ index then choices[index.toNat - 1]? else none with
  | some v => .ok v
  | none => refuseArgument (.choiceOutOfRange "CHOOSE" index choices.length)

def isEmpty : Value → Bool
  | .null => true
  | .string s => s.isEmpty
  | .array items => items.isEmpty
  | _ => false

def functions : List Function := [
  .fixed "IF" 3 fun _ _ arguments =>
    evaluated ((argument arguments 0).choose (argument arguments 1) (argument arguments 2)),
  .variadic "CHOOSE" 2 fun _ _ arguments => choose arguments,
  .fixed "EMPTY" 1 fun _ _ arguments => .ok (.boolean (isEmpty (argument arguments 0))),
  .fixed "NULL" 0 fun _ _ _ => .ok .null,
  .fixed "CONTAINS" 2 fun rule _ arguments =>
    (evaluated ((argument arguments 1).isIn rule (argument arguments 0))).map .boolean]

end Reckon.ChoiceLibrary
