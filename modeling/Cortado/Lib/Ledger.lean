import Mathlib.Algebra.BigOperators.Group.List.Basic
import Mathlib.Algebra.BigOperators.Pi
import Mathlib.Algebra.Group.Pi.Basic
import Mathlib.Algebra.Group.Submonoid.BigOperators
import Mathlib.Algebra.Order.Ring.Int

/-!
# Shared counters and the tasks that update them

Tasks update shared counters by single atomic additions and await replies in
between.  Additions commute, so in any interleaving a counter holds the sum of
what the tasks have posted to it.  A property that is closed under addition
holds of the counters as soon as every task keeps it by itself, whatever the
others do.
-/

namespace Ledger

/-- The rest of a task.  `again` goes back to the head of the task's loop, and
`never` stands for a reply that an await does not get. -/
inductive Code (κ ρ : Type) where
  | done
  | again
  | never
  | update (counter : κ) (change : Int) (next : Code κ ρ)
  | await (next : ρ → Code κ ρ)

/-- A task with what it has posted so far. -/
structure Task (κ ρ τ : Type) where
  tag : τ
  code : Code κ ρ
  posted : κ → Int

structure System (κ ρ τ : Type) where
  counters : κ → Nat
  tasks : List (Task κ ρ τ)

variable {κ ρ τ : Type}

def Code.finished : Code κ ρ → Bool
  | .done => true
  | _ => false

/-- The task is suspended in an await or finished. -/
def Code.atRest : Code κ ρ → Bool
  | .done | .await _ => true
  | _ => false

/-- The 64-bit counter after an addition, which may wrap. -/
def wrappingAdd (value : Nat) (change : Int) : Nat :=
  (((value : Int) + change) % 2 ^ 64).toNat

theorem wrappingAdd_eq {value : Nat} {change : Int}
    (positive : 0 ≤ (value : Int) + change)
    (fits : (value : Int) + change < 2 ^ 64) :
    (wrappingAdd value change : Int) = value + change := by
  rw [wrappingAdd, Int.emod_eq_of_lt positive fits, Int.toNat_of_nonneg positive]

theorem sum_map_indicator {α : Type} (counted : α → Bool) (items : List α) :
    (items.map fun item => if counted item then (1 : Int) else 0).sum =
      items.countP counted := by
  induction items with
  | nil => rfl
  | cons item items induction =>
      rw [List.map_cons, List.sum_cons, induction, List.countP_cons]
      cases counted item with
      | false => simp
      | true => simp [add_comm]

namespace System

def new : System κ ρ τ :=
  { counters := fun _ => 0, tasks := [] }

/-- A task starts at its entry. -/
def spawn (entry : τ → Code κ ρ) (system : System κ ρ τ) (tag : τ) :
    System κ ρ τ :=
  { system with
    tasks := system.tasks ++ [{ tag := tag, code := entry tag, posted := 0 }] }

/-- A task makes its next update. -/
def advance [DecidableEq κ] (system : System κ ρ τ) (index : Nat) :
    Option (System κ ρ τ) :=
  match system.tasks[index]? with
  | some { tag, code := .update counter change next, posted } =>
      some
        { counters := Function.update system.counters counter
            (wrappingAdd (system.counters counter) change)
          tasks := system.tasks.set index
            { tag := tag
              code := next
              posted := posted + Pi.single counter change } }
  | _ => none

/-- A task gets the reply that it awaits. -/
def resume (system : System κ ρ τ) (index : Nat) (reply : ρ) :
    Option (System κ ρ τ) :=
  match system.tasks[index]? with
  | some { tag, code := .await next, posted } =>
      match next reply with
      | .never => none
      | code =>
          some
            { system with
              tasks := system.tasks.set index
                { tag := tag, code := code, posted := posted } }
  | _ => none

/-- A task begins the next round of its loop. -/
def restart (entry : τ → Code κ ρ) (system : System κ ρ τ) (index : Nat) :
    Option (System κ ρ τ) :=
  match system.tasks[index]? with
  | some { tag, code := .again, posted } =>
      some
        { system with
          tasks := system.tasks.set index
            { tag := tag, code := entry tag, posted := posted } }
  | _ => none

/-- The next update of a task does not take its counter to the limit. -/
def fits (system : System κ ρ τ) (index : Nat) : Bool :=
  match system.tasks[index]? with
  | some { code := .update counter change _, .. } =>
      (system.counters counter : Int) + change < 2 ^ 64
  | _ => true

/-- Every task is suspended in an await or finished. -/
def Quiet (system : System κ ρ τ) : Prop :=
  ∀ task ∈ system.tasks, task.code.atRest = true

/-- What the tasks have posted together. -/
def total (system : System κ ρ τ) : κ → Int :=
  (system.tasks.map Task.posted).sum

theorem total_apply (system : System κ ρ τ) (counter : κ) :
    system.total counter =
      (system.tasks.map fun task => task.posted counter).sum := by
  rw [total, Pi.list_sum_apply, List.map_map]
  rfl

/-- A property that is closed under addition holds of the total as soon as it
holds of the postings of every task. -/
theorem total_mem {system : System κ ρ τ} {closed : AddSubmonoid (κ → Int)}
    (each : ∀ task ∈ system.tasks, task.posted ∈ closed) :
    system.total ∈ closed := by
  apply AddSubmonoid.list_sum_mem
  intro posted member
  obtain ⟨task, inside, rfl⟩ := List.mem_map.mp member
  exact each task inside

/-- Replacing the postings of one task. -/
theorem total_set {system : System κ ρ τ} {index : Nat} {task : Task κ ρ τ}
    (found : system.tasks[index]? = some task) (counters : κ → Nat)
    (replaced : Task κ ρ τ) :
    total { counters := counters, tasks := system.tasks.set index replaced } =
      system.total + (replaced.posted - task.posted) := by
  obtain ⟨inside, rfl⟩ := List.getElem?_eq_some_iff.mp found
  have shorter : index < (system.tasks.map Task.posted).length := by
    rw [List.length_map]
    exact inside
  simp only [total]
  rw [List.map_set, List.sum_set', dif_pos shorter, List.getElem_map,
    neg_add_eq_sub]

end System

/-- What the postings of a task keep to: at every time, at rest (suspended or
finished) and at the head of its loop.  Only gauges may be lowered. -/
structure Law (κ τ : Type) where
  always : AddSubmonoid (κ → Int)
  resting : τ → Bool → (κ → Int) → Prop
  looping : τ → (κ → Int) → Prop
  gauge : κ → Prop
  nonneg : ∀ posted ∈ always, ∀ counter, gauge counter → 0 ≤ posted counter

section Law

variable [DecidableEq κ]

/-- The rest of a task keeps to the law, from what it has posted so far. -/
def Law.Obeyed (law : Law κ τ) (tag : τ) : Code κ ρ → (κ → Int) → Prop
  | .done, posted => posted ∈ law.always ∧ law.resting tag true posted
  | .again, posted => posted ∈ law.always ∧ law.looping tag posted
  | .never, _ => False
  | .update counter change next, posted =>
      posted ∈ law.always ∧ (0 ≤ change ∨ law.gauge counter) ∧
        law.Obeyed tag next (posted + Pi.single counter change)
  | .await next, posted =>
      posted ∈ law.always ∧ law.resting tag false posted ∧
        ∀ reply, next reply ≠ .never → law.Obeyed tag (next reply) posted

/-- The entry of every task keeps to the law, at its start and in every
round. -/
structure Law.Governs (law : Law κ τ) (entry : τ → Code κ ρ) : Prop where
  start : ∀ tag, law.Obeyed tag (entry tag) 0
  round : ∀ tag posted, posted ∈ law.always → law.looping tag posted →
    law.Obeyed tag (entry tag) posted

variable {law : Law κ τ}

theorem Law.Obeyed.mem_always {tag : τ} {code : Code κ ρ} {posted : κ → Int}
    (obeyed : law.Obeyed tag code posted) : posted ∈ law.always := by
  cases code with
  | done => exact obeyed.1
  | again => exact obeyed.1
  | never => exact obeyed.elim
  | update counter change next => exact obeyed.1
  | await next => exact obeyed.1

theorem Law.Obeyed.resting {tag : τ} {code : Code κ ρ} {posted : κ → Int}
    (obeyed : law.Obeyed tag code posted) (rest : code.atRest = true) :
    law.resting tag code.finished posted := by
  cases code with
  | done => exact obeyed.2
  | again => cases rest
  | never => cases rest
  | update counter change next => cases rest
  | await next => exact obeyed.2.1

/-- Every task keeps to the law, and the counters are what they have posted. -/
structure Sound (law : Law κ τ) (system : System κ ρ τ) : Prop where
  obeyed : ∀ task ∈ system.tasks, law.Obeyed task.tag task.code task.posted
  adds_up : ∀ counter, (system.counters counter : Int) = system.total counter

namespace Sound

variable {system next : System κ ρ τ} {index : Nat} {entry : τ → Code κ ρ}

theorem new : Sound law (System.new : System κ ρ τ) := by
  constructor
  · intro task member
    cases member
  · intro counter
    rfl

theorem spawn (governs : law.Governs entry) (sound : Sound law system)
    (tag : τ) : Sound law (system.spawn entry tag) := by
  constructor
  · intro task member
    rcases List.mem_append.mp member with old | fresh
    · exact sound.obeyed task old
    · rw [List.mem_singleton.mp fresh]
      exact governs.start tag
  · intro counter
    rw [System.total_apply]
    simp only [System.spawn, List.map_append, List.sum_append, List.map_cons,
      List.map_nil, List.sum_singleton, Pi.zero_apply, add_zero]
    rw [← System.total_apply]
    exact sound.adds_up counter

theorem obeyed_set (sound : Sound law system) (replaced : Task κ ρ τ)
    (kept : law.Obeyed replaced.tag replaced.code replaced.posted) :
    ∀ task ∈ system.tasks.set index replaced,
      law.Obeyed task.tag task.code task.posted := by
  intro task member
  rcases List.mem_or_eq_of_mem_set member with old | rfl
  · exact sound.obeyed task old
  · exact kept

/-- A task goes on without an update. -/
theorem move (sound : Sound law system) {tag : τ} {code moved : Code κ ρ}
    {posted : κ → Int}
    (found : system.tasks[index]? = some ⟨tag, code, posted⟩)
    (kept : law.Obeyed tag moved posted) :
    Sound law
      { system with tasks := system.tasks.set index ⟨tag, moved, posted⟩ } := by
  constructor
  · exact sound.obeyed_set ⟨tag, moved, posted⟩ kept
  · intro counter
    rw [System.total_set found, sub_self, add_zero]
    exact sound.adds_up counter

theorem resume {reply : ρ} (sound : Sound law system)
    (resumed : system.resume index reply = some next) : Sound law next := by
  unfold System.resume at resumed
  split at resumed
  next tag code posted found =>
    split at resumed
    · cases resumed
    next moved possible =>
      cases resumed
      have awaiting := sound.obeyed _ (List.mem_of_getElem? found)
      exact sound.move found (awaiting.2.2 reply possible)
  · cases resumed

theorem restart (governs : law.Governs entry) (sound : Sound law system)
    (restarted : system.restart entry index = some next) : Sound law next := by
  unfold System.restart at restarted
  split at restarted
  next tag posted found =>
    cases restarted
    obtain ⟨member, looping⟩ := sound.obeyed _ (List.mem_of_getElem? found)
    exact sound.move found (governs.round tag posted member looping)
  · cases restarted

/-- Only gauges are lowered, and no gauge below zero. -/
theorem update_nonneg (sound : Sound law system) {tag : τ} {counter : κ}
    {change : Int} {rest : Code κ ρ} {posted : κ → Int}
    (found : system.tasks[index]? =
      some ⟨tag, .update counter change rest, posted⟩) :
    0 ≤ (system.counters counter : Int) + change := by
  obtain ⟨member, lowered, kept⟩ :=
    sound.obeyed _ (List.mem_of_getElem? found)
  rcases lowered with raised | gauge
  · exact Int.add_nonneg (Int.natCast_nonneg _) raised
  · let updated : Task κ ρ τ :=
      ⟨tag, rest, posted + Pi.single counter change⟩
    let after : System κ ρ τ :=
      { system with tasks := system.tasks.set index updated }
    have member : after.total ∈ law.always :=
      System.total_mem fun task inside =>
        (sound.obeyed_set updated kept task inside).mem_always
    have nonneg := law.nonneg _ member counter gauge
    rw [System.total_set found] at nonneg
    simpa [updated, sound.adds_up] using nonneg

/-- Additions that do not wrap post exactly their change. -/
theorem advance (sound : Sound law system) (fits : system.fits index = true)
    (advanced : system.advance index = some next) : Sound law next := by
  unfold System.advance at advanced
  split at advanced
  next tag counter change rest posted found =>
    cases advanced
    have nonneg := sound.update_nonneg found
    simp only [System.fits, found, decide_eq_true_eq] at fits
    have kept := (sound.obeyed _ (List.mem_of_getElem? found)).2.2
    constructor
    · exact sound.obeyed_set ⟨tag, rest, posted + Pi.single counter change⟩ kept
    · intro other
      rw [System.total_set found, add_sub_cancel_left, Pi.add_apply,
        ← sound.adds_up]
      by_cases same : other = counter
      · subst same
        dsimp only
        rw [Function.update_self, Pi.single_eq_same, wrappingAdd_eq nonneg fits]
      · dsimp only
        rw [Function.update_of_ne same, Pi.single_eq_of_ne same, add_zero]
  · cases advanced

theorem counters_mem (sound : Sound law system) :
    (fun counter => (system.counters counter : Int)) ∈ law.always := by
  rw [funext sound.adds_up]
  exact System.total_mem fun task inside =>
    (sound.obeyed task inside).mem_always

/-- While every task is at rest, the counters have what the tasks at rest
have. -/
theorem counters_mem_of_quiet (sound : Sound law system)
    (quiet : system.Quiet) {closed : AddSubmonoid (κ → Int)}
    (each : ∀ tag finished posted,
      law.resting tag finished posted → posted ∈ closed) :
    (fun counter => (system.counters counter : Int)) ∈ closed := by
  rw [funext sound.adds_up]
  apply System.total_mem
  intro task inside
  exact each _ _ _ ((sound.obeyed task inside).resting (quiet task inside))

/-- A counter to which a task at rest posts one or nothing counts the tasks
that post one. -/
theorem counter_eq_countP (sound : Sound law system) (quiet : system.Quiet)
    {counter : κ} (counted : τ → Bool → Bool)
    (each : ∀ tag finished posted, law.resting tag finished posted →
      posted counter = if counted tag finished then 1 else 0) :
    system.counters counter =
      system.tasks.countP fun task => counted task.tag task.code.finished := by
  have posts : ∀ task ∈ system.tasks, task.posted counter =
      if counted task.tag task.code.finished then 1 else 0 := by
    intro task inside
    exact each _ _ _ ((sound.obeyed task inside).resting (quiet task inside))
  have total := sound.adds_up counter
  rw [System.total_apply, List.map_congr_left posts, sum_map_indicator] at total
  exact Int.natCast_inj.mp total

end Sound

end Law

end Ledger
