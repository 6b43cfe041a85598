import Mathlib.Data.List.Basic

/-!
# Cutting lists into pieces

A list that goes through a buffer of a fixed size leaves it in pieces.  A
sequence of lists survives such a buffer exactly if each of them fits.
-/

namespace Pieces

variable {α : Type*}

/-- The list as it leaves a buffer of a size. -/
def pieces (size : Nat) (list : List α) : List (List α) :=
  if 0 < size ∧ size < list.length then
    list.take size :: pieces size (list.drop size)
  else [list]
termination_by list.length
decreasing_by
  rw [List.length_drop]
  omega

variable {size : Nat} {list : List α}

theorem pieces_of_le (fits : list.length ≤ size) :
    pieces size list = [list] := by
  rw [pieces, if_neg]
  omega

theorem pieces_of_gt (positive : 0 < size) (long : size < list.length) :
    pieces size list = list.take size :: pieces size (list.drop size) := by
  rw [pieces, if_pos ⟨positive, long⟩]

theorem pieces_ne_nil (size : Nat) (list : List α) : pieces size list ≠ [] := by
  rw [pieces]
  split
  · exact List.cons_ne_nil _ _
  · exact List.cons_ne_nil _ _

theorem length_pieces_pos (size : Nat) (list : List α) :
    0 < (pieces size list).length :=
  List.length_pos_of_ne_nil (pieces_ne_nil size list)

theorem one_lt_length_pieces (positive : 0 < size)
    (long : size < list.length) : 1 < (pieces size list).length := by
  rw [pieces_of_gt positive long, List.length_cons]
  exact Nat.succ_lt_succ (length_pieces_pos size _)

theorem length_le_flatMap (size : Nat) (lists : List (List α)) :
    lists.length ≤ (lists.flatMap (pieces size)).length := by
  induction lists with
  | nil => exact Nat.le_refl 0
  | cons list lists induction =>
      have some := length_pieces_pos size list
      rw [List.flatMap_cons, List.length_append, List.length_cons]
      omega

/-- A list that does not fit makes the sequence longer. -/
theorem length_lt_flatMap {lists : List (List α)} (positive : 0 < size)
    (member : list ∈ lists) (long : size < list.length) :
    lists.length < (lists.flatMap (pieces size)).length := by
  induction lists with
  | nil => cases member
  | cons head lists induction =>
      rw [List.flatMap_cons, List.length_append, List.length_cons]
      rcases List.mem_cons.mp member with first | later
      · have several := one_lt_length_pieces positive long
        have rest := length_le_flatMap size lists
        rw [← first]
        omega
      · have some := length_pieces_pos size head
        have rest := induction later
        omega

theorem flatMap_pieces_of_fit {lists : List (List α)}
    (fit : ∀ list ∈ lists, list.length ≤ size) :
    lists.flatMap (pieces size) = lists := by
  induction lists with
  | nil => rfl
  | cons list lists induction =>
      have first := fit list List.mem_cons_self
      have rest : ∀ other ∈ lists, other.length ≤ size := by
        intro other member
        exact fit other (List.mem_cons_of_mem list member)
      rw [List.flatMap_cons, pieces_of_le first, induction rest,
        List.singleton_append]

theorem flatMap_pieces_eq_iff {lists : List (List α)} (positive : 0 < size) :
    lists.flatMap (pieces size) = lists ↔
      ∀ list ∈ lists, list.length ≤ size := by
  constructor
  · intro same list member
    by_contra long
    have longer := length_lt_flatMap positive member (Nat.lt_of_not_le long)
    rw [same] at longer
    exact Nat.lt_irrefl _ longer
  · exact flatMap_pieces_of_fit

end Pieces
