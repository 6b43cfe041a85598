import Mathlib.Data.Set.Insert
import Mathlib.Logic.Function.Basic

/-!
# Tables with additions at free keys

A program that only adds entries under keys without one, and only removes
entries it has added, changes a table at keys where the table it found had
nothing.  `Overlay` says so for a set of keys.
-/

namespace KeyedTable

variable {κ η : Type*}

/-- The table is the base except under the keys, which are free in the base. -/
structure Overlay (base : κ → Option η) (keys : Set κ)
    (table : κ → Option η) : Prop where
  free : ∀ key ∈ keys, base key = none
  outside : ∀ key, key ∉ keys → table key = base key

namespace Overlay

variable {base table : κ → Option η} {keys more : Set κ}

/-- A free key is free in the base, too. -/
theorem free_of_absent (overlay : Overlay base keys table) {key : κ}
    (absent : table key = none) : base key = none := by
  by_cases member : key ∈ keys
  · exact overlay.free key member
  · rw [← overlay.outside key member, absent]

theorem mono (overlay : Overlay base keys table) (larger : keys ⊆ more)
    (free : ∀ key ∈ more, base key = none) : Overlay base more table where
  free := free
  outside := by
    intro key notMember
    exact overlay.outside key fun member => notMember (larger member)

/-- Once every key is gone the table is the base again. -/
theorem eq_base (overlay : Overlay base ∅ table) : table = base := by
  funext key
  exact overlay.outside key (Set.notMem_empty key)

variable [DecidableEq κ]

theorem add (overlay : Overlay base keys table) {key : κ}
    (absent : table key = none) (entry : η) :
    Overlay base (insert key keys)
      (Function.update table key (some entry)) where
  free := by
    intro other member
    rcases Set.mem_insert_iff.mp member with rfl | old
    · exact overlay.free_of_absent absent
    · exact overlay.free other old
  outside := by
    intro other notMember
    rw [Set.mem_insert_iff, not_or] at notMember
    rw [Function.update_of_ne notMember.1]
    exact overlay.outside other notMember.2

theorem delete (overlay : Overlay base keys table) {key : κ}
    (free : base key = none) :
    Overlay base (keys \ {key}) (Function.update table key none) where
  free := by
    intro other member
    exact overlay.free other member.1
  outside := by
    intro other notMember
    by_cases same : other = key
    · subst same
      rw [Function.update_self, free]
    · rw [Function.update_of_ne same]
      apply overlay.outside
      intro member
      exact notMember ⟨member, same⟩

end Overlay

end KeyedTable
