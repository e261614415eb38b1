import Std.Data.HashMap
import Reckon.PatternRoom

/-!
# Matching patterns

From the first `%` on, the parts of a pattern that take one character stand in a row, and a text is
matched by keeping, character by character, the set of places in the row that the characters so far
can lead to. Such sets are the bits of a number.
-/

namespace Reckon

/-- A pattern ready for matching. `width` parts take one character each. Any text may stand at the
places in `gaps`, where a place is known by the number of parts before it; the parts in `blanks`
take any character, and those in `takers` a character that folds to their own. -/
structure WildcardRow where
  width : Nat
  gaps : Nat
  blanks : Nat
  takers : @Std.HashMap Char Nat _ instHashableChar

namespace WildcardRow

def empty : WildcardRow := ⟨0, 0, 0, ∅⟩

def add (row : WildcardRow) : Wildcard → WildcardRow
  | .anyText => { row with gaps := row.gaps ||| 1 <<< row.width }
  | .anyChar => { row with blanks := row.blanks ||| 1 <<< row.width, width := row.width + 1 }
  | .char c =>
    let places := row.takers.getD c 0 ||| 1 <<< row.width
    { row with takers := row.takers.insert c places, width := row.width + 1 }

def ofParts (parts : List Wildcard) : WildcardRow :=
  parts.foldl add empty

/-- The places that a folded character leads to from the places `reached`. -/
def next (row : WildcardRow) (reached : Nat) (c : Char) : Nat :=
  (reached &&& (row.blanks ||| row.takers.getD c 0)) <<< 1 ||| reached &&& row.gaps

def accepts (row : WildcardRow) (text : List Char) : Bool :=
  (text.foldl row.next 1).testBit row.width

end WildcardRow

/-- Whether a folded text matches. As far as the first part that takes any text, a part and a
character go together. -/
def matchesFolded : List Wildcard → List Char → Bool
  | [], text => text.isEmpty
  | .anyText :: parts, text => (WildcardRow.ofParts (.anyText :: parts)).accepts text
  | _ :: _, [] => false
  | .anyChar :: parts, _ :: text => matchesFolded parts text
  | .char c :: parts, d :: text => c == d && matchesFolded parts text

end Reckon
