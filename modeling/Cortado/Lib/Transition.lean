import Mathlib.Data.List.Chain
import Mathlib.Data.Option.Basic

/-!
# Runs of a partial step function

A system is a step function from states and events to an optional next
state.  `Always` says that a property holds in every state which a list of
events visits, and `EveryStep` that every step of it meets a condition on the
state before the step.  The rules below derive the first from the second.
-/

namespace Transition

variable {σ ε : Type*}

/-- The state after a list of events, if every one of them is enabled. -/
def run (step : σ → ε → Option σ) : σ → List ε → Option σ
  | state, [] => some state
  | state, event :: events =>
      (step state event).bind fun next => run step next events

/-- Every visited state, the first one included, satisfies `holds`. -/
def Always (step : σ → ε → Option σ) (holds : σ → Prop) : σ → List ε → Prop
  | state, [] => holds state
  | state, event :: events =>
      holds state ∧
        ∀ next, step state event = some next → Always step holds next events

/-- Every step that is taken meets a condition on the state before it. -/
def EveryStep (step : σ → ε → Option σ) (meets : σ → ε → Prop) :
    σ → List ε → Prop
  | _, [] => True
  | state, event :: events =>
      ∀ next, step state event = some next →
        meets state event ∧ EveryStep step meets next events

instance decidableEveryStep (step : σ → ε → Option σ) (meets : σ → ε → Prop)
    [∀ state event, Decidable (meets state event)] :
    ∀ state events, Decidable (EveryStep step meets state events)
  | _, [] => isTrue trivial
  | state, event :: events =>
      match stepped : step state event with
      | none => isTrue fun next taken => by
          rw [stepped] at taken
          cases taken
      | some next =>
          have := decidableEveryStep step meets next events
          decidable_of_iff
            (meets state event ∧ EveryStep step meets next events)
            ⟨fun met other taken => by
                rw [stepped] at taken
                cases taken
                exact met,
              fun every => every next stepped⟩

variable {step : σ → ε → Option σ} {holds : σ → Prop} {meets : σ → ε → Prop}

/-- A run in two parts. -/
theorem run_append {state middle : σ} {first second : List ε}
    (reached : run step state first = some middle) :
    run step state (first ++ second) = run step middle second := by
  induction first generalizing state with
  | nil =>
      simp only [run, Option.some.injEq] at reached
      rw [reached, List.nil_append]
  | cons event first induction =>
      obtain ⟨next, stepped, rest⟩ := Option.bind_eq_some_iff.mp reached
      rw [List.cons_append, run, stepped, Option.bind_some, induction rest]

theorem Always.head {state : σ} {events : List ε}
    (always : Always step holds state events) : holds state := by
  cases events with
  | nil => exact always
  | cons event events => exact always.1

theorem Always.mono {weaker : σ → Prop}
    (implies : ∀ state, holds state → weaker state)
    {state : σ} {events : List ε}
    (always : Always step holds state events) :
    Always step weaker state events := by
  induction events generalizing state with
  | nil => exact implies state always
  | cons event events induction =>
      refine ⟨implies state always.1, ?_⟩
      intro next stepped
      exact induction (always.2 next stepped)

/-- `Always` speaks about the final state of a complete run in particular. -/
theorem Always.final {state final : σ} {events : List ε}
    (always : Always step holds state events)
    (completed : run step state events = some final) : holds final := by
  induction events generalizing state with
  | nil =>
      simp only [run, Option.some.injEq] at completed
      exact completed ▸ always
  | cons event events induction =>
      obtain ⟨next, stepped, rest⟩ := Option.bind_eq_some_iff.mp completed
      exact induction (always.2 next stepped) rest

/-- A property preserved by every step that meets the condition holds along
every run whose steps all meet it. -/
theorem EveryStep.always
    (kept : ∀ state event next, holds state →
      step state event = some next → meets state event → holds next)
    {state : σ} {events : List ε} (initial : holds state)
    (every : EveryStep step meets state events) :
    Always step holds state events := by
  induction events generalizing state with
  | nil => exact initial
  | cons event events induction =>
      refine ⟨initial, ?_⟩
      intro next stepped
      obtain ⟨met, rest⟩ := every next stepped
      exact induction (kept state event next initial stepped met) rest

theorem EveryStep.and {also : σ → ε → Prop} {state : σ} {events : List ε}
    (every : EveryStep step meets state events)
    (everyAlso : EveryStep step also state events) :
    EveryStep step (fun state event => meets state event ∧ also state event)
      state events := by
  induction events generalizing state with
  | nil => trivial
  | cons event events induction =>
      intro next stepped
      obtain ⟨met, rest⟩ := every next stepped
      obtain ⟨alsoMet, alsoRest⟩ := everyAlso next stepped
      exact ⟨⟨met, alsoMet⟩, induction rest alsoRest⟩

/-- Conditions may use an invariant of all steps. -/
theorem EveryStep.mono_of_invariant {invariant : σ → Prop}
    {weaker : σ → ε → Prop}
    (implies : ∀ state event, invariant state → meets state event →
      weaker state event)
    (kept : ∀ state event next, invariant state →
      step state event = some next → invariant next)
    {state : σ} {events : List ε} (initial : invariant state)
    (every : EveryStep step meets state events) :
    EveryStep step weaker state events := by
  induction events generalizing state with
  | nil => trivial
  | cons event events induction =>
      intro next stepped
      obtain ⟨met, rest⟩ := every next stepped
      exact ⟨implies state event initial met,
        induction (kept state event next initial stepped) rest⟩

/-- A condition which is no condition at all. -/
theorem everyStep_true (state : σ) (events : List ε) :
    EveryStep step (fun _ _ => True) state events := by
  induction events generalizing state with
  | nil => trivial
  | cons event events induction =>
      intro next _stepped
      exact ⟨trivial, induction next⟩

/-- An invariant of all steps holds along every run. -/
theorem always_of_invariant
    (kept : ∀ state event next, holds state →
      step state event = some next → holds next)
    {state : σ} (initial : holds state) (events : List ε) :
    Always step holds state events :=
  EveryStep.always
    (fun state event next before stepped _ => kept state event next before
      stepped)
    initial (everyStep_true state events)

/-- When, from states satisfying an invariant, a step on a permitted event
leads to a good state exactly if it meets the condition, a run on permitted
events stays good exactly if all of its steps meet the condition. -/
theorem always_iff_everyStep {invariant : σ → Prop} (permitted : ε → Prop)
    (good : ∀ state, invariant state → holds state)
    (exactStep : ∀ state event next, permitted event → invariant state →
      step state event = some next → (holds next ↔ meets state event))
    (kept : ∀ state event next, permitted event → invariant state →
      step state event = some next → meets state event → invariant next)
    {state : σ} (initial : invariant state) {events : List ε}
    (allowed : ∀ event ∈ events, permitted event) :
    Always step holds state events ↔ EveryStep step meets state events := by
  induction events generalizing state with
  | nil => exact iff_of_true (good state initial) trivial
  | cons event events induction =>
      have headAllowed : permitted event := allowed event (by simp)
      have tailAllowed : ∀ later ∈ events, permitted later := by
        intro later member
        exact allowed later (by simp [member])
      constructor
      · intro always next stepped
        have later := always.2 next stepped
        have met := (exactStep state event next headAllowed initial
          stepped).mp later.head
        have nextInvariant := kept state event next headAllowed initial
          stepped met
        exact ⟨met, (induction nextInvariant tailAllowed).mp later⟩
      · intro every
        refine ⟨good state initial, ?_⟩
        intro next stepped
        obtain ⟨met, rest⟩ := every next stepped
        have nextInvariant := kept state event next headAllowed initial
          stepped met
        exact (induction nextInvariant tailAllowed).mpr rest

/-- When a state shows the last event, a condition on the shown event and
the next one holds at every step of a complete run exactly if the events form
a chain. -/
theorem everyStep_iff_isChain {shown : σ → ε} {related : ε → ε → Prop}
    (shows : ∀ state event next, step state event = some next →
      shown next = event)
    {state final : σ} {events : List ε}
    (completed : run step state events = some final) :
    EveryStep step (fun state event => related (shown state) event) state
        events ↔
      List.IsChain related (shown state :: events) := by
  induction events generalizing state with
  | nil => exact iff_of_true trivial (.singleton _)
  | cons event events induction =>
      obtain ⟨next, stepped, rest⟩ := Option.bind_eq_some_iff.mp completed
      have nextShown := shows state event next stepped
      have tail := induction rest
      rw [nextShown] at tail
      rw [List.isChain_cons_cons, ← tail]
      constructor
      · intro every
        exact every next stepped
      · intro met other taken
        rw [stepped] at taken
        cases taken
        exact met

end Transition
