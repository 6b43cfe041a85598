import Mathlib.Algebra.Order.Ring.Nat

/-!
# Arithmetic with overflow checks

The operations of fixed-width integers as a checked build computes them: an
operation whose result does not fit, a division by zero and a shift by the
width or more end the computation.  Each operation comes with the condition
under which it succeeds.
-/

namespace CheckedArith

inductive Fault where
  | overflow
  | divisionByZero
  | shiftTooFar
  deriving DecidableEq, Repr

abbrev Checked := Except Fault

def add (bits left right : Nat) : Checked Nat :=
  if left + right < 2 ^ bits then .ok (left + right) else .error .overflow

def sub (left right : Nat) : Checked Nat :=
  if right ≤ left then .ok (left - right) else .error .overflow

def mul (bits left right : Nat) : Checked Nat :=
  if left * right < 2 ^ bits then .ok (left * right) else .error .overflow

def div (left right : Nat) : Checked Nat :=
  if right = 0 then .error .divisionByZero else .ok (left / right)

def shiftLeft {width : Nat} (value : BitVec width) (amount : Nat) :
    Checked (BitVec width) :=
  if amount < width then .ok (value <<< amount) else .error .shiftTooFar

/-- The value, or the bound that it is beyond. -/
def clamp (value low high : Nat) : Nat :=
  if value < low then low else if value > high then high else value

variable {bits left right : Nat}

theorem add_eq_ok (fits : left + right < 2 ^ bits) :
    add bits left right = .ok (left + right) :=
  if_pos fits

theorem sub_eq_ok (fits : right ≤ left) : sub left right = .ok (left - right) :=
  if_pos fits

theorem mul_eq_ok (fits : left * right < 2 ^ bits) :
    mul bits left right = .ok (left * right) :=
  if_pos fits

theorem div_eq_ok (positive : 0 < right) :
    div left right = .ok (left / right) :=
  if_neg (Nat.ne_of_gt positive)

theorem shiftLeft_eq_ok {width amount : Nat} (value : BitVec width)
    (short : amount < width) :
    shiftLeft value amount = .ok (value <<< amount) :=
  if_pos short

section Clamp

variable {value other low high : Nat}

theorem low_le_clamp (ordered : low ≤ high) : low ≤ clamp value low high := by
  unfold clamp
  split
  · exact Nat.le_refl low
  · split <;> omega

theorem clamp_le_high (ordered : low ≤ high) :
    clamp value low high ≤ high := by
  unfold clamp
  split
  · exact ordered
  · split <;> omega

theorem clamp_le {bound : Nat} (lowLe : low ≤ bound)
    (valueLe : value ≤ bound) : clamp value low high ≤ bound := by
  unfold clamp
  split
  · exact lowLe
  · split <;> omega

theorem clamp_le_clamp (ordered : low ≤ high) (le : value ≤ other) :
    clamp value low high ≤ clamp other low high := by
  by_cases below : value < low
  · calc clamp value low high = low := if_pos below
      _ ≤ clamp other low high := low_le_clamp ordered
  · by_cases above : high < other
    · have top : clamp other low high = high := by
        rw [clamp, if_neg (by omega), if_pos above]
      rw [top]
      exact clamp_le_high ordered
    · have inside : clamp other low high = other := by
        rw [clamp, if_neg (by omega), if_neg above]
      rw [inside]
      exact clamp_le (by omega) le

end Clamp

end CheckedArith
