import Mathlib.Data.Set.Insert

/-!
# What is acquired and released

A record lists acquisitions and releases of items in the order in which they
were made.  `held` is what was acquired and not released since.
-/

namespace Custody

variable {ρ : Type}

inductive Act (ρ : Type) where
  | acquire (item : ρ)
  | release (item : ρ)
  deriving DecidableEq, Repr

/-- What is held after one more act. -/
def hold (items : Set ρ) : Act ρ → Set ρ
  | .acquire item => insert item items
  | .release item => items \ {item}

def held (acts : List (Act ρ)) : Set ρ :=
  acts.foldl hold ∅

theorem held_concat (acts : List (Act ρ)) (act : Act ρ) :
    held (acts ++ [act]) = hold (held acts) act := by
  rw [held, List.foldl_append]
  rfl

/-- An item is held until it is released. -/
theorem mem_foldl_hold {items : Set ρ} {item : ρ} {acts : List (Act ρ)}
    (member : item ∈ items) (kept : .release item ∉ acts) :
    item ∈ acts.foldl hold items := by
  induction acts generalizing items with
  | nil => exact member
  | cons act acts induction =>
      rw [List.mem_cons, not_or] at kept
      apply induction _ kept.2
      cases act with
      | acquire other => exact Set.mem_insert_of_mem other member
      | release other =>
          refine ⟨member, ?_⟩
          intro same
          cases same
          exact kept.1 rfl

/-- An acquisition of what is not held any more was followed by a release. -/
theorem release_mem_of_not_held {item : ρ} {before after : List (Act ρ)}
    (free : item ∉ held (before ++ .acquire item :: after)) :
    .release item ∈ after := by
  by_contra kept
  apply free
  rw [held, List.foldl_append, List.foldl_cons]
  exact mem_foldl_hold (Set.mem_insert item _) kept

/-- Every release of the item comes after an acquisition of it. -/
def Earned (acts : List (Act ρ)) (item : ρ) : Prop :=
  ∀ before after, acts = before ++ .release item :: after →
    .acquire item ∈ before

theorem earned_nil (item : ρ) : Earned [] item := by
  intro before after whole
  cases before <;> cases whole

/-- One more act earns nothing, unless it is a release of the item. -/
theorem Earned.concat {acts : List (Act ρ)} {item : ρ} {act : Act ρ}
    (earned : Earned acts item)
    (known : act = .release item → .acquire item ∈ acts) :
    Earned (acts ++ [act]) item := by
  intro before after whole
  rcases List.eq_nil_or_concat after with rfl | ⟨rest, last, rfl⟩
  · obtain ⟨same, isLast⟩ := List.append_inj' whole rfl
    cases isLast
    rw [← same]
    exact known rfl
  · rw [List.concat_eq_append, ← List.cons_append, ← List.append_assoc] at whole
    obtain ⟨same, _⟩ := List.append_inj' whole rfl
    exact earned before rest same

end Custody
