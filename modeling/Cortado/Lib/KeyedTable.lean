import Mathlib.Logic.Function.Basic

/-!
# Tables with replacing insertion and matching removal

A table maps keys to optional values.  Insertion overwrites, and removal
takes an entry away only when its value is the expected one.  Installing a
list of keys under a partial assignment of values is order-independent, which
is what `install_apply` and `uninstall_apply` say pointwise.
-/

namespace KeyedTable

variable {κ η : Type*} [DecidableEq κ]

/-- Set every key of a list to the value an assignment gives it; keys without
a value are skipped. -/
def install (value : κ → Option η) (table : κ → Option η) :
    List κ → κ → Option η
  | [] => table
  | key :: keys =>
      match value key with
      | some entry =>
          install value (Function.update table key (some entry)) keys
      | none => install value table keys

/-- Remove every key of a list whose entry is the assigned value. -/
def uninstall [DecidableEq η] (value : κ → Option η) (table : κ → Option η) :
    List κ → κ → Option η
  | [] => table
  | key :: keys =>
      match value key with
      | some entry =>
          uninstall value
            (if table key = some entry then Function.update table key none
              else table) keys
      | none => uninstall value table keys

theorem install_apply (value table : κ → Option η) (keys : List κ) (key : κ) :
    install value table keys key =
      if key ∈ keys ∧ (value key).isSome then value key else table key := by
  induction keys generalizing table with
  | nil => simp [install]
  | cons head tail induction =>
      unfold install
      cases assigned : value head with
      | none =>
          by_cases same : key = head
          · subst same
            simp [induction, assigned]
          · simp [induction, same]
      | some entry =>
          by_cases same : key = head
          · subst same
            simp [induction, assigned]
          · simp [induction, same]

theorem install_append (value table : κ → Option η) (first second : List κ) :
    install value table (first ++ second) =
      install value (install value table first) second := by
  induction first generalizing table with
  | nil => rfl
  | cons head tail induction =>
      simp only [List.cons_append, install]
      cases value head with
      | none => exact induction table
      | some entry => exact induction _

theorem uninstall_apply [DecidableEq η] (value table : κ → Option η)
    (keys : List κ) (key : κ) :
    uninstall value table keys key =
      if key ∈ keys ∧ table key = value key then none else table key := by
  induction keys generalizing table with
  | nil => simp [uninstall]
  | cons head tail induction =>
      unfold uninstall
      cases assigned : value head with
      | none =>
          by_cases same : key = head
          · subst same
            simp only [induction, assigned, List.mem_cons, true_or, true_and]
            split
            · rename_i absent
              simp [absent.2]
            · rename_i present
              split
              · rename_i absent
                exact absent
              · rfl
          · simp [induction, same]
      | some entry =>
          by_cases same : key = head
          · subst same
            by_cases held : table key = some entry
            · simp [induction, held, assigned]
            · simp [induction, held, assigned]
          · by_cases held : table head = some entry
            · simp [induction, held, same]
            · simp [induction, held, same]

theorem uninstall_append [DecidableEq η] (value table : κ → Option η)
    (first second : List κ) :
    uninstall value table (first ++ second) =
      uninstall value (uninstall value table first) second := by
  induction first generalizing table with
  | nil => rfl
  | cons head tail induction =>
      simp only [List.cons_append, uninstall]
      cases value head with
      | none => exact induction table
      | some entry => exact induction _

/-- A key without a value is never touched. -/
theorem install_apply_of_none {value : κ → Option η} {key : κ}
    (unassigned : value key = none) (table : κ → Option η) (keys : List κ) :
    install value table keys key = table key := by
  simp [install_apply, unassigned]

theorem uninstall_apply_of_none [DecidableEq η] {value : κ → Option η}
    {key : κ} (unassigned : value key = none) (table : κ → Option η)
    (keys : List κ) :
    uninstall value table keys key = table key := by
  rw [uninstall_apply, unassigned]
  split
  · rename_i absent
    exact absent.2.symm
  · rfl

/-- The candidate of greatest length at most the given one. -/
def longestMatch (candidate : Nat → Option η) : Nat → Option η
  | 0 => candidate 0
  | length + 1 =>
      match candidate (length + 1) with
      | some entry => some entry
      | none => longestMatch candidate length

/-- The longest match is found at any length above which nothing matches. -/
theorem longestMatch_eq {candidate : Nat → Option η} (found : Nat)
    {entry : η} (isMatch : candidate found = some entry) :
    ∀ {length : Nat}, found ≤ length →
      (∀ longer, found < longer → longer ≤ length → candidate longer = none) →
      longestMatch candidate length = some entry := by
  intro length
  induction length with
  | zero =>
      intro bound _none
      have atZero : found = 0 := Nat.le_zero.mp bound
      subst atZero
      exact isMatch
  | succ length induction =>
      intro bound noneLonger
      unfold longestMatch
      rcases Nat.lt_or_eq_of_le bound with below | equal
      · rw [noneLonger (length + 1) below (Nat.le_refl _)]
        exact induction (Nat.le_of_lt_succ below)
          (fun longer above within =>
            noneLonger longer above (Nat.le_succ_of_le within))
      · subst equal
        simp [isMatch]

/-- If all matches above a length agree and there is one, it is the longest
match. -/
theorem longestMatch_of_uniform {candidate : Nat → Option η} (low : Nat)
    {entry : η} :
    ∀ {length : Nat},
      (∀ longer, low < longer → longer ≤ length →
        candidate longer = none ∨ candidate longer = some entry) →
      (∃ found, low < found ∧ found ≤ length ∧
        candidate found = some entry) →
      longestMatch candidate length = some entry := by
  intro length
  induction length with
  | zero =>
      intro _uniform existing
      obtain ⟨found, above, within, _⟩ := existing
      omega
  | succ length induction =>
      intro uniform existing
      obtain ⟨found, above, within, isMatch⟩ := existing
      unfold longestMatch
      rcases uniform (length + 1) (by omega) (Nat.le_refl _) with
        absent | present
      · have below : found ≤ length := by
          rcases Nat.lt_or_eq_of_le within with less | equal
          · omega
          · rw [equal, absent] at isMatch
            cases isMatch
        rw [absent]
        apply induction
        · intro longer longerAbove longerWithin
          exact uniform longer longerAbove (by omega)
        · exact ⟨found, above, below, isMatch⟩
      · rw [present]

end KeyedTable
