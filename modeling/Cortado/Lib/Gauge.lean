import Mathlib.Algebra.Order.BigOperators.Group.List
import Cortado.Lib.Ledger

/-!
# Gauges

A task that raises a gauge lowers it again before it ends.  As long as every
task holds the gauge at most once, the gauge counts no task that is finished,
and it does not wrap if the tasks that are not finished fit into it.
-/

namespace Ledger

variable {κ ρ τ : Type}

/-- Replacing an item by one that looks the same. -/
theorem map_set_of_eq {α β : Type} {items : List α} {view : α → β}
    {index : Nat} {item replaced : α} (found : items[index]? = some item)
    (same : view replaced = view item) :
    (items.set index replaced).map view = items.map view := by
  have here : (items.map view)[index]? = some (view item) := by
    rw [List.getElem?_map, found]
    rfl
  obtain ⟨inside, isHere⟩ := List.getElem?_eq_some_iff.mp here
  rw [List.map_set, same, ← isHere, List.set_getElem_self]

namespace System

/-- The tasks that are not over. -/
def unfinished (system : System κ ρ τ) : Nat :=
  system.tasks.countP fun task => !task.code.finished

/-- A task that is not over goes on. -/
def Moves (system next : System κ ρ τ) : Prop :=
  ∃ index old moved, system.tasks[index]? = some old ∧
    next.tasks = system.tasks.set index moved ∧
    moved.tag = old.tag ∧ old.code.finished = false

theorem moves_of_resume {system next : System κ ρ τ} {index : Nat} {reply : ρ}
    (resumed : system.resume index reply = some next) :
    system.Moves next := by
  unfold System.resume at resumed
  split at resumed
  next found =>
    split at resumed
    · cases resumed
    · cases resumed
      exact ⟨index, _, _, found, rfl, rfl, rfl⟩
  · cases resumed

theorem Moves.tags {system next : System κ ρ τ} (moves : system.Moves next) :
    next.tasks.map Task.tag = system.tasks.map Task.tag := by
  obtain ⟨index, old, moved, found, isNext, sameTag, _⟩ := moves
  rw [isNext]
  exact map_set_of_eq found sameTag

end System

variable [DecidableEq κ]

/-- The rest of a task, which holds the gauge a number of times already, never
holds it more than once, and not at the end. -/
def Code.Guards (gauge : κ) : Code κ ρ → Int → Prop
  | .done, held => held = 0
  | .again, held => held = 0
  | .never, held => 0 ≤ held ∧ held ≤ 1
  | .update counter change next, held =>
      (0 ≤ held ∧ held ≤ 1) ∧
        next.Guards gauge (if counter = gauge then held + change else held)
  | .await next, held =>
      (0 ≤ held ∧ held ≤ 1) ∧ ∀ reply, (next reply).Guards gauge held

theorem Code.Guards.bounds {gauge : κ} {code : Code κ ρ} {held : Int}
    (guards : code.Guards gauge held) :
    0 ≤ held ∧ held ≤ if !code.finished then 1 else 0 := by
  cases code with
  | done =>
      cases guards
      exact ⟨le_refl 0, le_refl 0⟩
  | again =>
      cases guards
      exact ⟨le_refl 0, zero_le_one⟩
  | never => exact guards
  | update counter change next => exact guards.1
  | await next => exact guards.1

/-- Every task guards the gauge, which is what they hold together. -/
structure Gauged (gauge : κ) (system : System κ ρ τ) : Prop where
  guards : ∀ task ∈ system.tasks, task.code.Guards gauge (task.posted gauge)
  adds_up : (system.counters gauge : Int) = system.total gauge

namespace System

/-- What tasks hold together is at most their number. -/
theorem total_bounds {gauge : κ} {system : System κ ρ τ}
    (guards : ∀ task ∈ system.tasks,
      task.code.Guards gauge (task.posted gauge)) :
    0 ≤ system.total gauge ∧ system.total gauge ≤ system.unfinished := by
  rw [total_apply]
  constructor
  · apply List.sum_nonneg
    intro held member
    obtain ⟨task, inside, rfl⟩ := List.mem_map.mp member
    exact (guards task inside).bounds.1
  · rw [unfinished, ← sum_map_indicator]
    apply List.sum_le_sum
    intro task inside
    exact (guards task inside).bounds.2

theorem moves_of_advance {system next : System κ ρ τ} {index : Nat}
    (advanced : system.advance index = some next) : system.Moves next := by
  unfold System.advance at advanced
  split at advanced
  next found =>
    cases advanced
    exact ⟨index, _, _, found, rfl, rfl, rfl⟩
  · cases advanced

end System

namespace Gauged

variable {gauge : κ} {system next : System κ ρ τ} {index : Nat}

theorem new (gauge : κ) : Gauged gauge (System.new : System κ ρ τ) := by
  constructor
  · intro task member
    cases member
  · rfl

theorem le_unfinished (gauged : Gauged gauge system) :
    system.counters gauge ≤ system.unfinished := by
  have bounds := (System.total_bounds gauged.guards).2
  rw [← gauged.adds_up] at bounds
  exact Int.ofNat_le.mp bounds

theorem spawn (gauged : Gauged gauge system) {entry : τ → Code κ ρ} {tag : τ}
    (guards : (entry tag).Guards gauge 0) :
    Gauged gauge (system.spawn entry tag) := by
  constructor
  · intro task member
    rcases List.mem_append.mp member with old | fresh
    · exact gauged.guards task old
    · rw [List.mem_singleton.mp fresh]
      exact guards
  · rw [System.total_apply]
    simp only [System.spawn, List.map_append, List.sum_append, List.map_cons,
      List.map_nil, List.sum_singleton, Pi.zero_apply, add_zero]
    rw [← System.total_apply]
    exact gauged.adds_up

theorem guards_set (gauged : Gauged gauge system) (index : Nat)
    {replaced : Task κ ρ τ}
    (kept : replaced.code.Guards gauge (replaced.posted gauge)) :
    ∀ task ∈ system.tasks.set index replaced,
      task.code.Guards gauge (task.posted gauge) := by
  intro task member
  rcases List.mem_or_eq_of_mem_set member with old | rfl
  · exact gauged.guards task old
  · exact kept

/-- A task goes on, or gets another tag, without an update. -/
theorem move (gauged : Gauged gauge system) {task moved : Task κ ρ τ}
    (found : system.tasks[index]? = some task)
    (posted : moved.posted = task.posted)
    (kept : moved.code.Guards gauge (task.posted gauge)) :
    Gauged gauge
      { system with tasks := system.tasks.set index moved } := by
  constructor
  · apply gauged.guards_set
    rw [posted]
    exact kept
  · rw [System.total_set found, posted, sub_self, add_zero]
    exact gauged.adds_up

theorem resume {reply : ρ} (gauged : Gauged gauge system)
    (resumed : system.resume index reply = some next) : Gauged gauge next := by
  unfold System.resume at resumed
  split at resumed
  next tag code posted found =>
    split at resumed
    · cases resumed
    next =>
      cases resumed
      have awaiting := gauged.guards _ (List.mem_of_getElem? found)
      exact gauged.move found rfl (awaiting.2 reply)
  · cases resumed

/-- An update of the gauge does not wrap. -/
theorem advance (gauged : Gauged gauge system)
    (advanced : system.advance index = some next)
    (fits : next.unfinished < 2 ^ 64) : Gauged gauge next := by
  unfold System.advance at advanced
  split at advanced
  next tag counter change rest posted found =>
    let updated : Task κ ρ τ := ⟨tag, rest, posted + Pi.single counter change⟩
    have kept : updated.code.Guards gauge (updated.posted gauge) := by
      have after := (gauged.guards _ (List.mem_of_getElem? found)).2
      by_cases same : counter = gauge
      · subst same
        simpa [updated] using after
      · simpa [updated, same, Ne.symm same] using after
    have isNext := Option.some.inj advanced
    have guards : ∀ task ∈ next.tasks,
        task.code.Guards gauge (task.posted gauge) := by
      rw [← isNext]
      exact gauged.guards_set index kept
    have bounds := System.total_bounds guards
    refine ⟨guards, ?_⟩
    subst isNext
    rw [System.total_set found, Pi.add_apply, ← gauged.adds_up,
      add_sub_cancel_left] at bounds ⊢
    dsimp only
    by_cases same : counter = gauge
    · subst same
      rw [Pi.single_eq_same] at bounds ⊢
      rw [Function.update_self]
      exact wrappingAdd_eq bounds.1 (by omega)
    · rw [Pi.single_eq_of_ne (Ne.symm same), add_zero,
        Function.update_of_ne (Ne.symm same)]
  · cases advanced

end Gauged

end Ledger
