import Mathlib.Logic.Basic

/-!
# Programs of atomic operations that may be stopped

A script performs one atomic operation after another on a store, choosing how
to go on by the replies.  `Safe` says that an invariant of the store holds
before, between and after its operations, so at whatever point the script is
stopped, and that a postcondition holds if it runs to its end.
-/

namespace CrashScript

inductive Script (Op : Type) (Reply : Op → Type) (α : Type) where
  | done (value : α)
  | perform (op : Op) (next : Reply op → Script Op Reply α)

namespace Script

variable {Op : Type} {Reply : Op → Type} {Store α β : Type}

def bind (script : Script Op Reply α) (next : α → Script Op Reply β) :
    Script Op Reply β :=
  match script with
  | .done value => next value
  | .perform op rest => .perform op fun reply => (rest reply).bind next

def map (function : α → β) (script : Script Op Reply α) :
    Script Op Reply β :=
  script.bind fun value => .done (function value)

variable (effect : (op : Op) → Store → Reply op × Store)

/-- The value and the store after a run that is not stopped. -/
def exec : Script Op Reply α → Store → α × Store
  | .done value, store => (value, store)
  | .perform op next, store =>
      exec (next (effect op store).1) (effect op store).2

/-- The invariant holds at every point of a run, and the postcondition at its
end. -/
def Safe (inv : Store → Prop) (post : α → Store → Prop) :
    Script Op Reply α → Store → Prop
  | .done value, store => inv store ∧ post value store
  | .perform op next, store =>
      inv store ∧ Safe inv post (next (effect op store).1) (effect op store).2

variable {effect}

theorem exec_bind (script : Script Op Reply α)
    (next : α → Script Op Reply β) (store : Store) :
    exec effect (script.bind next) store =
      exec effect (next (exec effect script store).1)
        (exec effect script store).2 := by
  induction script generalizing store with
  | done value => rfl
  | perform op rest induction => exact induction _ _

variable {inv : Store → Prop}

theorem Safe.now {post : α → Store → Prop} {script : Script Op Reply α}
    {store : Store} (safe : Safe effect inv post script store) : inv store := by
  cases script with
  | done value => exact safe.1
  | perform op next => exact safe.1

theorem Safe.bind {middle : α → Store → Prop} {post : β → Store → Prop}
    {script : Script Op Reply α} {next : α → Script Op Reply β}
    {store : Store} (safe : Safe effect inv middle script store)
    (continued : ∀ value later, inv later → middle value later →
      Safe effect inv post (next value) later) :
    Safe effect inv post (script.bind next) store := by
  induction script generalizing store with
  | done value => exact continued value store safe.1 safe.2
  | perform op rest induction => exact ⟨safe.1, induction _ safe.2⟩

end Script

end CrashScript
