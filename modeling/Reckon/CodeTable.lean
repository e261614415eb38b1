/-!
# Tables of code points

A property of characters is kept as the closed ranges of code points that have it, and a mapping of
characters as ranges whose members move together. Ranges stand in increasing order and are found by
halving.
-/

namespace Reckon

abbrev CodeRanges := Array (Nat × Nat)

/-- Each entry is `(first, last, step, target)`: it takes every `step`-th code point from `first` to
`last`, and moves it as far as it moves `first` to `target`. -/
abbrev CodeMap := Array (Nat × Nat × Nat × Nat)

namespace CodeRanges

def containsBetween (ranges : CodeRanges) (code lo hi : Nat) : Bool :=
  if lo < hi then
    let mid := (lo + hi) / 2
    match ranges[mid]? with
    | none => false
    | some (first, last) =>
      if code < first then containsBetween ranges code lo mid
      else if last < code then containsBetween ranges code (mid + 1) hi
      else true
  else false
termination_by hi - lo

def contains (ranges : CodeRanges) (code : Nat) : Bool :=
  ranges.containsBetween code 0 ranges.size

end CodeRanges

namespace CodeMap

def targetBetween (map : CodeMap) (code lo hi : Nat) : Nat :=
  if lo < hi then
    let mid := (lo + hi) / 2
    match map[mid]? with
    | none => code
    | some (first, last, step, target) =>
      if code < first then targetBetween map code lo mid
      else if last < code then targetBetween map code (mid + 1) hi
      else if (code - first) % step = 0 then target + (code - first)
      else code
  else code
termination_by hi - lo

/-- Code points that the map does not take stay as they are. -/
def target (map : CodeMap) (code : Nat) : Nat :=
  map.targetBetween code 0 map.size

/-- The code points that the map moves to `code`. -/
def sources (map : CodeMap) (code : Nat) : List Nat :=
  (map.filterMap fun (first, last, step, target) =>
    let source := first + (code - target)
    if target ≤ code ∧ source ≤ last ∧ (code - target) % step = 0 then some source
    else none).toList

end CodeMap

end Reckon
