import Mathlib.Control.Monad.Basic

/-!
# Programs that keep their state when they fail

A program works on a state and may stop with an error; what it did before
stays done.  `Ends` says where a program gets to from a set of states, in
both cases, and there is one rule for every way to build a program.
-/

abbrev Shell (σ ε : Type) := ExceptT ε (StateM σ)

namespace Shell

variable {σ ε α β : Type}

/-- The outcome of a program and the state it leaves behind. -/
def exec (action : Shell σ ε α) (state : σ) : Except ε α × σ :=
  Id.run (StateT.run (ExceptT.run action) state)

def ofFun (action : σ → Except ε α × σ) : Shell σ ε α :=
  ExceptT.mk (StateT.mk fun state => pure (action state))

def current : Shell σ ε σ :=
  ofFun fun state => (.ok state, state)

def update (change : σ → σ) : Shell σ ε Unit :=
  ofFun fun state => (.ok (), change state)

/-- Errors are ignored. -/
def quietly (action : Shell σ ε Unit) : Shell σ ε Unit :=
  ofFun fun state => (.ok (), (action.exec state).2)

def withContext (wrap : ε → ε) (action : Shell σ ε α) : Shell σ ε α :=
  ofFun fun state =>
    match action.exec state with
    | (.ok value, after) => (.ok value, after)
    | (.error error, after) => (.error (wrap error), after)

def forEach (body : α → Shell σ ε Unit) : List α → Shell σ ε Unit
  | [] => pure ()
  | item :: items => do
      body item
      forEach body items

@[simp] theorem exec_ofFun (action : σ → Except ε α × σ) (state : σ) :
    (ofFun action).exec state = action state :=
  rfl

@[simp] theorem exec_pure (value : α) (state : σ) :
    exec (pure value : Shell σ ε α) state = (.ok value, state) :=
  rfl

@[simp] theorem exec_throw (error : ε) (state : σ) :
    exec (throw error : Shell σ ε α) state = (.error error, state) :=
  rfl

theorem exec_bind (action : Shell σ ε α) (next : α → Shell σ ε β)
    (state : σ) :
    (action >>= next).exec state =
      match action.exec state with
      | (.ok value, after) => (next value).exec after
      | (.error error, after) => (.error error, after) := by
  unfold exec ExceptT.run StateT.run Id.run
  simp only [bind, ExceptT.bind, ExceptT.mk, StateT.bind, ExceptT.bindCont]
  cases action state with
  | mk outcome after => cases outcome <;> rfl

theorem exec_bind_of_ok {action : Shell σ ε α} {next : α → Shell σ ε β}
    {state after : σ} {value : α}
    (ended : action.exec state = (.ok value, after)) :
    (action >>= next).exec state = (next value).exec after := by
  rw [exec_bind, ended]

/-- A successful sequence splits at the state in between. -/
theorem exec_bind_eq_ok {action : Shell σ ε α} {next : α → Shell σ ε β}
    {state after : σ} {result : β}
    (success : (action >>= next).exec state = (.ok result, after)) :
    ∃ value middle, action.exec state = (.ok value, middle) ∧
      (next value).exec middle = (.ok result, after) := by
  rw [exec_bind] at success
  cases first : action.exec state with
  | mk outcome middle =>
      cases outcome with
      | error error => simp [first] at success
      | ok value =>
          simp only [first] at success
          exact ⟨value, middle, rfl, success⟩

theorem exec_withContext_ok {wrap : ε → ε} {action : Shell σ ε α}
    {state after : σ} {value : α}
    (success : action.exec state = (.ok value, after)) :
    (withContext wrap action).exec state = (.ok value, after) := by
  simp [withContext, success]

/-- From `pre` the program gets to `ok`, or stops in `failed`. -/
def Ends (pre : σ → Prop) (action : Shell σ ε α) (ok : α → σ → Prop)
    (failed : σ → Prop) : Prop :=
  ∀ state, pre state →
    match action.exec state with
    | (.ok value, after) => ok value after
    | (.error _, after) => failed after

section Rules

variable {pre pre' : σ → Prop} {ok ok' : α → σ → Prop}
  {failed failed' : σ → Prop} {action : Shell σ ε α}

theorem Ends.of_ok (ends : Ends pre action ok failed) {state after : σ}
    {value : α} (initial : pre state)
    (ended : action.exec state = (.ok value, after)) : ok value after := by
  have reached := ends state initial
  rwa [ended] at reached

theorem Ends.of_error (ends : Ends pre action ok failed) {state after : σ}
    {error : ε} (initial : pre state)
    (ended : action.exec state = (.error error, after)) : failed after := by
  have reached := ends state initial
  rwa [ended] at reached

theorem Ends.mono (ends : Ends pre action ok failed)
    (stronger : ∀ state, pre' state → pre state)
    (weaker : ∀ value state, ok value state → ok' value state)
    (weakerFailed : ∀ state, failed state → failed' state) :
    Ends pre' action ok' failed' := by
  intro state initial
  have reached := ends state (stronger state initial)
  cases ended : action.exec state with
  | mk outcome after =>
      rw [ended] at reached
      cases outcome with
      | ok value => exact weaker value after reached
      | error error => exact weakerFailed after reached

/-- A fact that does not depend on the state can be assumed. -/
theorem Ends.assume {fact : Prop} (ends : fact → Ends pre action ok failed) :
    Ends (fun state => pre state ∧ fact) action ok failed := by
  intro state initial
  exact ends initial.2 state initial.1

theorem Ends.exists {ι : Type} {pre : ι → σ → Prop}
    (ends : ∀ index, Ends (pre index) action ok failed) :
    Ends (fun state => ∃ index, pre index state) action ok failed := by
  intro state initial
  obtain ⟨index, holds⟩ := initial
  exact ends index state holds

theorem Ends.pure {value : α} (holds : ∀ state, pre state → ok value state) :
    Ends pre (Pure.pure value : Shell σ ε α) ok failed := by
  intro state initial
  exact holds state initial

theorem Ends.throw {error : ε} (holds : ∀ state, pre state → failed state) :
    Ends pre (MonadExcept.throw error : Shell σ ε α) ok failed := by
  intro state initial
  exact holds state initial

theorem Ends.bind {next : α → Shell σ ε β} {final : β → σ → Prop}
    (first : Ends pre action ok failed)
    (second : ∀ value, Ends (ok value) (next value) final failed) :
    Ends pre (action >>= next) final failed := by
  intro state initial
  have reached := first state initial
  rw [exec_bind]
  cases ended : action.exec state with
  | mk outcome after =>
      rw [ended] at reached
      cases outcome with
      | ok value => exact second value after reached
      | error error => exact reached

/-- What is read is the state it is read from. -/
theorem Ends.current {next : σ → Shell σ ε β} {final : β → σ → Prop}
    (continued : ∀ state, pre state →
      Ends (fun same => same = state) (next state) final failed) :
    Ends pre (Shell.current >>= next) final failed := by
  intro state initial
  rw [exec_bind]
  exact continued state initial state rfl

theorem Ends.update {change : σ → σ} {post : Unit → σ → Prop}
    (holds : ∀ state, pre state → post () (change state)) :
    Ends pre (Shell.update change : Shell σ ε Unit) post failed := by
  intro state initial
  exact holds state initial

theorem Ends.quietly {post : σ → Prop} {body : Shell σ ε Unit}
    (ends : Ends pre body (fun _ => post) post) :
    Ends pre (Shell.quietly body) (fun _ => post) failed := by
  intro state initial
  have reached := ends state initial
  change post (body.exec state).2
  cases ended : body.exec state with
  | mk outcome after =>
      rw [ended] at reached
      cases outcome with
      | ok value => exact reached
      | error error => exact reached

theorem Ends.withContext {wrap : ε → ε}
    (ends : Ends pre action ok failed) :
    Ends pre (Shell.withContext wrap action) ok failed := by
  intro state initial
  have reached := ends state initial
  unfold Shell.withContext
  rw [exec_ofFun]
  cases ended : action.exec state with
  | mk outcome after =>
      rw [ended] at reached
      cases outcome with
      | ok value => exact reached
      | error error => exact reached

/-- A loop, with what holds after a part of the list. -/
theorem Ends.forEach {body : α → Shell σ ε Unit} {items : List α}
    (inv : List α → σ → Prop)
    (each : ∀ done item rest, items = done ++ item :: rest →
      Ends (inv done) (body item) (fun _ => inv (done ++ [item])) failed) :
    Ends (inv []) (Shell.forEach body items) (fun _ => inv items) failed := by
  suffices loop : ∀ done todo, items = done ++ todo →
      Ends (inv done) (Shell.forEach body todo) (fun _ => inv items)
        failed from loop [] items rfl
  intro done todo
  induction todo generalizing done with
  | nil =>
      intro whole
      rw [List.append_nil] at whole
      rw [whole]
      exact Ends.pure fun _ holds => holds
  | cons item todo induction =>
      intro whole
      apply Ends.bind (each done item todo whole)
      intro _
      exact induction (done ++ [item]) (by simp [whole])

/-- A loop that keeps an invariant. -/
theorem Ends.forEach_invariant {body : α → Shell σ ε Unit} {items : List α}
    {inv : σ → Prop}
    (each : ∀ item ∈ items, Ends inv (body item) (fun _ => inv) failed) :
    Ends inv (Shell.forEach body items) (fun _ => inv) failed := by
  apply Ends.forEach fun _ => inv
  intro done item rest whole
  exact each item (by simp [whole])

end Rules

end Shell
