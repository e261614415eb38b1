/-!
# Digits

`placeValue` is the number that digits stand for. `joinDigits` is the same number: it joins digits
two by two into digits of the squared base until one is left, and so multiplies long numbers only by
numbers of about their own length.
-/

namespace Reckon

/-- The number with these digits, the least first. -/
def placeValue (base : Nat) : List Nat → Nat
  | [] => 0
  | d :: rest => d + base * placeValue base rest

def pairDigits (base : Nat) : List Nat → List Nat
  | d :: e :: rest => (d + base * e) :: pairDigits base rest
  | short => short

theorem length_pairDigits_le (base : Nat) :
    ∀ digits, (pairDigits base digits).length ≤ digits.length
  | [] => by simp [pairDigits]
  | [_] => by simp [pairDigits]
  | _ :: _ :: rest => by
    have := length_pairDigits_le base rest
    simp only [pairDigits, List.length_cons]
    omega

theorem placeValue_pairDigits (base : Nat) :
    ∀ digits, placeValue (base * base) (pairDigits base digits) = placeValue base digits
  | [] => rfl
  | [_] => rfl
  | d :: e :: rest => by
    simp only [pairDigits, placeValue, placeValue_pairDigits base rest]
    rw [Nat.mul_add, ← Nat.mul_assoc, Nat.add_assoc]

def joinDigits (base : Nat) : List Nat → Nat
  | [] => 0
  | [d] => d
  | d :: e :: rest => joinDigits (base * base) ((d + base * e) :: pairDigits base rest)
termination_by digits => digits.length
decreasing_by
  have := length_pairDigits_le base rest
  simp only [List.length_cons]
  omega

theorem joinDigits_eq_placeValue (base : Nat) (digits : List Nat) :
    joinDigits base digits = placeValue base digits := by
  fun_induction joinDigits base digits with
  | case1 => rfl
  | case2 base d => simp [placeValue]
  | case3 base d e rest ih => rw [ih, ← placeValue_pairDigits base (d :: e :: rest), pairDigits]

end Reckon
