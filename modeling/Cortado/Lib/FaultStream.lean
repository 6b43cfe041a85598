import Mathlib.Data.List.Basic

/-!
# Streams of faults

Requests are issued in order and a stream of faults decides each of them in
turn; the first fault stops the sequence.  `granted` is the part of a list of
requests that takes effect.
-/

namespace FaultStream

variable {α : Type*}

/-- The faults of the requests after the first `count`. -/
def advance (count : Nat) (faults : Nat → Bool) : Nat → Bool :=
  fun index => faults (index + count)

/-- None of the next `count` requests fails. -/
def Spared (count : Nat) (faults : Nat → Bool) : Prop :=
  ∀ index < count, faults index = false

instance (count : Nat) (faults : Nat → Bool) :
    Decidable (Spared count faults) :=
  inferInstanceAs (Decidable (∀ index < count, _))

/-- The requests before the first fault. -/
def granted (faults : Nat → Bool) : List α → List α
  | [] => []
  | request :: requests =>
      if faults 0 then [] else request :: granted (advance 1 faults) requests

theorem advance_add (first second : Nat) (faults : Nat → Bool) :
    advance (first + second) faults = advance second (advance first faults) := by
  funext index
  simp only [advance]
  congr 1
  omega

@[simp]
theorem spared_zero (faults : Nat → Bool) : Spared 0 faults := by
  intro index impossible
  cases impossible

theorem spared_add (first second : Nat) (faults : Nat → Bool) :
    Spared (first + second) faults ↔
      Spared first faults ∧ Spared second (advance first faults) := by
  constructor
  · intro spared
    constructor
    · intro index below
      exact spared index (by omega)
    · intro index below
      exact spared (index + first) (by omega)
  · intro both index below
    by_cases early : index < first
    · exact both.1 index early
    · have late := both.2 (index - first) (by omega)
      simp only [advance] at late
      rwa [Nat.sub_add_cancel (by omega)] at late

theorem spared_one (faults : Nat → Bool) :
    Spared 1 faults ↔ faults 0 = false := by
  constructor
  · intro spared
    exact spared 0 (by omega)
  · intro works index below
    have : index = 0 := by omega
    rw [this]
    exact works

theorem granted_of_spared {faults : Nat → Bool} {requests : List α}
    (spared : Spared requests.length faults) :
    granted faults requests = requests := by
  induction requests generalizing faults with
  | nil => rfl
  | cons request requests induction =>
      rw [List.length_cons, Nat.add_comm, spared_add, spared_one] at spared
      simp [granted, spared.1, induction spared.2]

theorem granted_append_of_spared {faults : Nat → Bool} {first : List α}
    (second : List α) (spared : Spared first.length faults) :
    granted faults (first ++ second) =
      first ++ granted (advance first.length faults) second := by
  induction first generalizing faults with
  | nil => rfl
  | cons request first induction =>
      rw [List.length_cons, Nat.add_comm, spared_add, spared_one] at spared
      rw [List.length_cons, Nat.add_comm, advance_add]
      simp [granted, spared.1, induction spared.2]

theorem granted_append_of_not_spared {faults : Nat → Bool} {first : List α}
    (second : List α) (stopped : ¬Spared first.length faults) :
    granted faults (first ++ second) = granted faults first := by
  induction first generalizing faults with
  | nil => exact (stopped (spared_zero faults)).elim
  | cons request first induction =>
      rw [List.length_cons, Nat.add_comm, spared_add, spared_one] at stopped
      simp only [List.cons_append, granted]
      cases fault : faults 0 with
      | true => rfl
      | false =>
          have later : ¬Spared first.length (advance 1 faults) := by
            intro spared
            exact stopped ⟨fault, spared⟩
          simp [induction later]

end FaultStream
