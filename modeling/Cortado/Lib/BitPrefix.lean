import Mathlib.Init

/-!
# Leading bits of a word

Two words agree under a mask of leading ones exactly if their leading bits
agree.  Bits are counted from the most significant one.
-/

namespace BitPrefix

variable {width : Nat}

/-- The word whose first `count` bits are set. -/
def leading (width count : Nat) : BitVec width :=
  BitVec.allOnes width <<< (width - count)

/-- The first `count` bits, or all of them, are the same. -/
def Agree (count : Nat) (left right : BitVec width) : Prop :=
  ∀ index < min count width, left.getMsbD index = right.getMsbD index

theorem getMsbD_leading (width count index : Nat) :
    (leading width count).getMsbD index = decide (index < min count width) := by
  rw [leading, BitVec.getMsbD_shiftLeft, BitVec.getMsbD_allOnes]
  apply decide_eq_decide.mpr
  omega

theorem leading_zero (width : Nat) : leading width 0 = 0 := by
  rw [leading, Nat.sub_zero]
  exact BitVec.shiftLeft_eq_zero (Nat.le_refl width)

theorem leading_of_width_le {count : Nat} (long : width ≤ count) :
    leading width count = BitVec.allOnes width := by
  rw [leading, Nat.sub_eq_zero_of_le long, BitVec.shiftLeft_zero]

/-- The word by cases, without a shift by the full width. -/
theorem ite_eq_leading (width count : Nat) :
    (if count = 0 then 0
      else if count ≥ width then BitVec.allOnes width
      else BitVec.allOnes width <<< (width - count)) =
      leading width count := by
  split
  · rename_i none
    rw [none, leading_zero]
  · split
    · rename_i long
      rw [leading_of_width_le long]
    · rfl

theorem and_leading_eq_iff (count : Nat) (left right : BitVec width) :
    left &&& leading width count = right &&& leading width count ↔
      Agree count left right := by
  constructor
  · intro same index within
    have bits := congrArg (fun word => BitVec.getMsbD word index) same
    simp only [BitVec.getMsbD_and, getMsbD_leading, decide_eq_true within,
      Bool.and_true] at bits
    exact bits
  · intro agree
    apply BitVec.eq_of_getMsbD_eq
    intro index _
    rw [BitVec.getMsbD_and, BitVec.getMsbD_and, getMsbD_leading]
    by_cases within : index < min count width
    · rw [agree index within]
    · rw [decide_eq_false within, Bool.and_false, Bool.and_false]

end BitPrefix
