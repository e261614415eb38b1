/-!
# Texts in order

Texts are compared by code point, character by character, and a text that ends first is less.
-/

namespace Reckon

def compareText : List Char → List Char → Ordering
  | [], [] => .eq
  | [], _ :: _ => .lt
  | _ :: _, [] => .gt
  | c :: s, d :: t =>
    if c.toNat < d.toNat then .lt else if d.toNat < c.toNat then .gt else compareText s t

/-- Whether `part` stands somewhere in the text. -/
def occursIn (part s : List Char) : Bool :=
  (String.ofList s).contains (String.ofList part)

theorem occursIn_iff {part s : List Char} : occursIn part s = true ↔ part <:+: s := by
  rw [occursIn, String.contains_string_iff, String.toList_ofList, String.toList_ofList]

/-- The parts between the separators, one more than there are separators. -/
def splitAtEach (separator : Char) : List Char → List (List Char)
  | [] => [[]]
  | c :: rest =>
    if c = separator then [] :: splitAtEach separator rest
    else
      match splitAtEach separator rest with
      | [] => [[c]]
      | part :: parts => (c :: part) :: parts

/-- The parts before and after the first separator. -/
def splitAtFirst? (separator : Char) (s : List Char) : Option (List Char × List Char) :=
  match s.dropWhile (· != separator) with
  | [] => none
  | _ :: rest => some (s.takeWhile (· != separator), rest)

def sameLetters (s t : List Char) : Bool :=
  s.map Char.toLower == t.map Char.toLower

end Reckon
