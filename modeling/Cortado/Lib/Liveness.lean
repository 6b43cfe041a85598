import Mathlib.Order.WellFounded
import Cortado.Lib.Transition

/-!
# What happens in a fair infinite run

Every event belongs to an actor or to the surroundings.  A run is fair when an
actor that is able to act again and again does act again and again.  What
lowers a rank happens finitely often only; in a fair run an actor whose every
act does so ends up unable to act.  A lock that is never free again stays with
one holder, so it is released again and again when nobody can hold it for
ever.  Along a rank one also finds a finite run to a goal.
-/

namespace Transition

variable {σ ε α : Type*} {step : σ → ε → Option σ}

/-- A goal is within reach of every state from which some allowed step lowers
a rank, as long as the goal is not met. -/
theorem exists_run_of_rank {β : Type*} [Preorder β] [WellFoundedLT β]
    (rank : σ → β) {invariant goal : σ → Prop} {allowed : ε → Prop}
    (advance : ∀ state, invariant state → ¬goal state → ∃ event next,
      allowed event ∧ step state event = some next ∧ invariant next ∧
        rank next < rank state)
    {state : σ} (initial : invariant state) : ∃ events final,
      (∀ event ∈ events, allowed event) ∧
        run step state events = some final ∧ goal final := by
  induction reached : rank state using WellFoundedLT.induction
    generalizing state with
  | ind value induction =>
      by_cases met : goal state
      · exact ⟨[], state, by simp, rfl, met⟩
      obtain ⟨event, next, isAllowed, stepped, kept, lower⟩ :=
        advance state initial met
      obtain ⟨events, final, allAllowed, completed, isGoal⟩ :=
        induction (rank next) (reached ▸ lower) kept rfl
      refine ⟨event :: events, final, ?_, ?_, isGoal⟩
      · intro later member
        rcases List.mem_cons.mp member with rfl | isLater
        · exact isAllowed
        · exact allAllowed later isLater
      · rw [run, stepped, Option.bind_some, completed]

/-- An infinite run. -/
structure Trace (step : σ → ε → Option σ) where
  state : Nat → σ
  event : Nat → ε
  steps : ∀ time, step (state time) (event time) = some (state (time + 1))

/-- Again and again. -/
def Often (holds : Nat → Prop) : Prop :=
  ∀ start, ∃ time, start ≤ time ∧ holds time

theorem not_often {holds : Nat → Prop} :
    ¬Often holds ↔ ∃ start, ∀ time, start ≤ time → ¬holds time := by
  simp only [Often, not_forall, not_exists, not_and]

theorem Often.mono {holds weaker : Nat → Prop} (often : Often holds)
    (implies : ∀ time, holds time → weaker time) : Often weaker := by
  intro start
  obtain ⟨time, later, held⟩ := often start
  exact ⟨time, later, implies time held⟩

/-- What holds from some time on. -/
theorem Often.of_always {holds : Nat → Prop} {start : Nat}
    (always : ∀ time, start ≤ time → holds time) : Often holds := by
  intro first
  exact ⟨max start first, Nat.le_max_right .., always _ (Nat.le_max_left ..)⟩

/-- An actor has an event that is enabled. -/
def Able (step : σ → ε → Option σ) (actor : ε → Option α) (state : σ)
    (who : α) : Prop :=
  ∃ event, actor event = some who ∧ (step state event).isSome = true

namespace Trace

variable (trace : Trace step)

theorem invariant {holds : σ → Prop}
    (kept : ∀ state event next, holds state →
      step state event = some next → holds next)
    (initial : holds (trace.state 0)) (time : Nat) :
    holds (trace.state time) := by
  induction time with
  | zero => exact initial
  | succ time induction => exact kept _ _ _ induction (trace.steps time)

/-- The actor takes the step at a time. -/
def Acts (actor : ε → Option α) (who : α) (time : Nat) : Prop :=
  actor (trace.event time) = some who

/-- Whoever is able to act again and again acts again and again. -/
def Fair (actor : ε → Option α) : Prop :=
  ∀ who, Often (fun time => Able step actor (trace.state time) who) →
    Often (trace.Acts actor who)

/-- What no later step changes. -/
theorem stays {β : Type*} (read : σ → β) {start : Nat}
    (same : ∀ time, start ≤ time →
      read (trace.state (time + 1)) = read (trace.state time))
    {time : Nat} (later : start ≤ time) :
    read (trace.state time) = read (trace.state start) := by
  induction time, later using Nat.le_induction with
  | base => rfl
  | succ time later induction => exact (same time later).trans induction

/-- Moves that lower a rank, while nothing else raises it, happen finitely
often. -/
theorem not_often_falls {β : Type*} [Preorder β] [WellFoundedLT β]
    {moves : Nat → Prop} (rank : σ → β) (start : Nat)
    (falls : ∀ time, start ≤ time → moves time →
      rank (trace.state (time + 1)) < rank (trace.state time))
    (rests : ∀ time, start ≤ time → ¬moves time →
      rank (trace.state (time + 1)) ≤ rank (trace.state time)) :
    ¬Often moves := by
  intro often
  have below : ∀ {first time}, start ≤ first → first ≤ time →
      rank (trace.state time) ≤ rank (trace.state first) := by
    intro first time started later
    induction time, later using Nat.le_induction with
    | base => exact le_refl _
    | succ time later induction =>
        refine le_trans ?_ induction
        by_cases moving : moves time
        · exact le_of_lt (falls time (started.trans later) moving)
        · exact rests time (started.trans later) moving
  -- Induction on the rank: there is always one more move, which lowers it.
  have never : ∀ value first, start ≤ first →
      rank (trace.state first) = value → False := by
    intro value
    induction value using WellFoundedLT.induction with
    | ind value induction =>
        intro first started isValue
        obtain ⟨time, later, moving⟩ := often first
        have lower := falls time (started.trans later) moving
        refine induction _ ?_ (time + 1) (by omega) rfl
        exact isValue ▸ lt_of_lt_of_le lower (below started later)
  exact never _ start (Nat.le_refl _) rfl

/-- A lock that is handed over only by way of its release is free again and
again, or one holder keeps it for ever. -/
theorem often_released_or_kept (holder : σ → Option α)
    (passes : ∀ time who, holder (trace.state time) = some who →
      holder (trace.state (time + 1)) = some who ∨
        holder (trace.state (time + 1)) = none) :
    Often (fun time => holder (trace.state time) = none) ∨
      ∃ who start, ∀ time, start ≤ time →
        holder (trace.state time) = some who := by
  by_cases often : Often (fun time => holder (trace.state time) = none)
  · exact Or.inl often
  obtain ⟨start, held⟩ := not_often.mp often
  obtain ⟨who, holds⟩ := Option.ne_none_iff_exists'.mp (held start le_rfl)
  refine Or.inr ⟨who, start, ?_⟩
  intro time later
  induction time, later using Nat.le_induction with
  | base => exact holds
  | succ time later induction =>
      rcases passes time who induction with same | released
      · exact same
      · exact absurd released (held (time + 1) (Nat.le_succ_of_le later))

variable {trace}

/-- In a fair run an actor that acts finitely often ends up unable to act. -/
theorem Fair.not_often_able {actor : ε → Option α} (fair : trace.Fair actor)
    {who : α} (finitely : ¬Often (trace.Acts actor who)) :
    ¬Often (fun time => Able step actor (trace.state time) who) := by
  intro able
  exact finitely (fair who able)

/-- A lock that is handed over only by way of its release is free again and
again, if whoever keeps it is able to act again and again and yet acts
finitely often. -/
theorem Fair.often_released {actor : ε → Option α} (fair : trace.Fair actor)
    (holder : σ → Option α)
    (passes : ∀ time who, holder (trace.state time) = some who →
      holder (trace.state (time + 1)) = some who ∨
        holder (trace.state (time + 1)) = none)
    (able : ∀ who start, (∀ time, start ≤ time →
        holder (trace.state time) = some who) →
      Often (fun time => Able step actor (trace.state time) who))
    (finitely : ∀ who start, (∀ time, start ≤ time →
        holder (trace.state time) = some who) →
      ¬Often (trace.Acts actor who)) :
    Often (fun time => holder (trace.state time) = none) := by
  rcases trace.often_released_or_kept holder passes with
    often | ⟨who, start, keeps⟩
  · exact often
  · exact absurd (fair who (able who start keeps)) (finitely who start keeps)

/-- A step before a run. -/
def cons (trace : Trace step) (state : σ) (event : ε)
    (stepped : step state event = some (trace.state 0)) : Trace step where
  state
    | 0 => state
    | time + 1 => trace.state time
  event
    | 0 => event
    | time + 1 => trace.event time
  steps := by
    intro time
    cases time with
    | zero => exact stepped
    | succ time => exact trace.steps time

/-- One more step at the start does not matter. -/
theorem Fair.cons {actor : ε → Option α} (fair : trace.Fair actor)
    {state : σ} {event : ε}
    (stepped : step state event = some (trace.state 0)) :
    (trace.cons state event stepped).Fair actor := by
  intro who able start
  have later : Often (fun time => Able step actor (trace.state time) who) := by
    intro first
    obtain ⟨time, after, runs⟩ := able (first + 1)
    obtain ⟨before, rfl⟩ := Nat.exists_eq_succ_of_ne_zero
      (Nat.ne_of_gt (Nat.lt_of_lt_of_le (Nat.succ_pos first) after))
    exact ⟨before, Nat.le_of_succ_le_succ after, runs⟩
  obtain ⟨time, after, acts⟩ := fair who later start
  exact ⟨time + 1, Nat.le_succ_of_le after, acts⟩

/-- A finite run that goes on as a fair one. -/
theorem Fair.exists_append {actor : ε → Option α} (fair : trace.Fair actor)
    {start : σ} {events : List ε}
    (reached : run step start events = some (trace.state 0)) :
    ∃ whole : Trace step, whole.Fair actor ∧ whole.state 0 = start ∧
      ∀ time, time ≤ events.length →
        run step start (events.take time) = some (whole.state time) := by
  induction events generalizing start with
  | nil =>
      simp only [run, Option.some.injEq] at reached
      refine ⟨trace, fair, reached.symm, ?_⟩
      intro time bound
      rw [Nat.le_zero.mp bound, reached]
      rfl
  | cons event events induction =>
      obtain ⟨next, stepped, rest⟩ := Option.bind_eq_some_iff.mp reached
      obtain ⟨tail, tailFair, rfl, visits⟩ := induction rest
      refine ⟨tail.cons start event stepped, tailFair.cons stepped, rfl, ?_⟩
      intro time bound
      cases time with
      | zero => rfl
      | succ time =>
          rw [List.take_succ_cons, run, stepped, Option.bind_some]
          exact visits time (Nat.le_of_succ_le_succ bound)

end Trace

end Transition
