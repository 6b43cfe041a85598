import Cortado.Reload

/-!
# The tunnel and its hot reload

The running process keeps several copies of its configuration: the loaded
file, the settings shared with the data path, the proxy of the DNS pool and
whatever the route controller remembers.  `applyReload` is the only code that
changes them after the start.
-/

namespace Cortado

open Net

/-- What every platform's route controller offers; an operation returns the
controller it leaves behind even when it fails. -/
class RouteController (ρ : Type) (ε : outParam Type) where
  apply : ρ → Except ε Unit × ρ
  reload : ReloadPlan → ρ → Except ε Unit × ρ
  teardown : ρ → Except ε Unit × ρ

/-- Why no new configuration could be loaded. -/
inductive LoadError where
  | missing
  | unreadable
  | unparsable
  | invalid (error : ConfigError)
  deriving DecidableEq, Repr

structure Tunnel (ρ : Type) where
  currentCfg : ValidConfig
  controller : ρ
  shared : Shared
  dnsProxy : ProxyConfig

/-- How a reload ended. -/
inductive ReloadOutcome (ε : Type) where
  | notLoaded (error : LoadError)
  | noEffect
  | failed (error : ε)
  | reloaded
  deriving DecidableEq

def ReloadOutcome.isFailed {ε : Type} : ReloadOutcome ε → Bool
  | .failed _ => true
  | _ => false

/-- What a reload logs: fields left unapplied, and how it ended. -/
structure ReloadReport (ε : Type) where
  immutable : List String
  outcome : ReloadOutcome ε

namespace Tunnel

variable {ρ ε : Type} [RouteController ρ ε]

/-- The tunnel after its controller succeeded in reloading. -/
def switchTo (tunnel : Tunnel ρ) (newCfg : ValidConfig) (controller : ρ) :
    Tunnel ρ :=
  let plan := ReloadPlan.compute tunnel.currentCfg newCfg
  { currentCfg := newCfg
    controller := controller
    shared :=
      { proxy := plan.proxy
        routes := plan.routeTable }
    dnsProxy := if plan.proxyChanged then plan.proxy else tunnel.dnsProxy }

def applyReload (tunnel : Tunnel ρ) (loaded : Except LoadError ValidConfig) :
    ReloadReport ε × Tunnel ρ :=
  match loaded with
  | .error error =>
      ({ immutable := [], outcome := .notLoaded error }, tunnel)
  | .ok newCfg =>
      let immutable := immutableChanges tunnel.currentCfg newCfg
      let plan := ReloadPlan.compute tunnel.currentCfg newCfg
      if plan.isNoop then
        ({ immutable := immutable, outcome := .noEffect },
          { tunnel with currentCfg := newCfg })
      else
        match RouteController.reload plan tunnel.controller with
        | (.error error, controller) =>
            ({ immutable := immutable, outcome := .failed error },
              { tunnel with controller := controller })
        | (.ok (), controller) =>
            ({ immutable := immutable, outcome := .reloaded },
              tunnel.switchTo newCfg controller)

/-- The three ways a reload with a valid configuration can go. -/
theorem applyReload_cases (tunnel : Tunnel ρ) (newCfg : ValidConfig) :
    let plan := ReloadPlan.compute tunnel.currentCfg newCfg
    let after := tunnel.applyReload (.ok newCfg)
    (plan.isNoop = true ∧ after.1.outcome = .noEffect ∧
        after.2 = { tunnel with currentCfg := newCfg }) ∨
      (∃ error controller,
        RouteController.reload plan tunnel.controller =
            (.error error, controller) ∧
          after.1.outcome = .failed error ∧
          after.2 = { tunnel with controller := controller }) ∨
      (∃ controller,
        RouteController.reload plan tunnel.controller =
            (.ok (), controller) ∧
          after.1.outcome = .reloaded ∧
          after.2 = tunnel.switchTo newCfg controller) := by
  intro plan after
  by_cases noop : plan.isNoop = true
  · left
    refine ⟨noop, ?_, ?_⟩ <;>
      simp only [after, applyReload] <;>
      rw [if_pos noop]
  · right
    cases reloaded : RouteController.reload plan tunnel.controller with
    | mk outcome controller =>
        cases outcome with
        | error error =>
            left
            refine ⟨error, controller, rfl, ?_, ?_⟩ <;>
              simp only [after, applyReload] <;>
              rw [if_neg noop, reloaded]
        | ok =>
            right
            refine ⟨controller, rfl, ?_, ?_⟩ <;>
              simp only [after, applyReload] <;>
              rw [if_neg noop, reloaded]

/-- The warning compares with the last loaded configuration, however the
reload ends. -/
theorem immutable_applyReload (tunnel : Tunnel ρ) (newCfg : ValidConfig) :
    (tunnel.applyReload (.ok newCfg)).1.immutable =
      immutableChanges tunnel.currentCfg newCfg := by
  simp only [applyReload]
  split
  · rfl
  · split
    · rfl
    · rfl

/-! ## Reloads as steps -/

/-- One reload signal, whatever comes of it. -/
def signalStep (tunnel : Tunnel ρ) (loaded : Except LoadError ValidConfig) :
    Option (Tunnel ρ) :=
  some (tunnel.applyReload loaded).2

/-- One reload signal, unless the controller fails. -/
def reloadStep (tunnel : Tunnel ρ) (loaded : Except LoadError ValidConfig) :
    Option (Tunnel ρ) :=
  let after := tunnel.applyReload loaded
  if after.1.outcome.isFailed then none else some after.2

/-- One reload with a valid configuration, whatever comes of it. -/
def reloadAnyway (tunnel : Tunnel ρ) (cfg : ValidConfig) :
    Option (Tunnel ρ) :=
  tunnel.signalStep (.ok cfg)

/-- One reload with a valid configuration, unless the controller fails. -/
def reloadUnlessFailed (tunnel : Tunnel ρ) (cfg : ValidConfig) :
    Option (Tunnel ρ) :=
  tunnel.reloadStep (.ok cfg)

theorem reloadUnlessFailed_cases {tunnel next : Tunnel ρ} {cfg : ValidConfig}
    (stepped : tunnel.reloadUnlessFailed cfg = some next) :
    ((ReloadPlan.compute tunnel.currentCfg cfg).isNoop = true ∧
        next = { tunnel with currentCfg := cfg }) ∨
      ∃ controller,
        RouteController.reload (ReloadPlan.compute tunnel.currentCfg cfg)
            tunnel.controller = (.ok (), controller) ∧
          next = tunnel.switchTo cfg controller := by
  simp only [reloadUnlessFailed, reloadStep] at stepped
  rcases tunnel.applyReload_cases cfg with
    ⟨noop, outcome, result⟩ | ⟨error, controller, _, outcome, _⟩ |
    ⟨controller, reloaded, outcome, result⟩
  · rw [outcome, result] at stepped
    cases stepped
    exact Or.inl ⟨noop, rfl⟩
  · rw [outcome] at stepped
    cases stepped
  · rw [outcome, result] at stepped
    cases stepped
    exact Or.inr ⟨controller, reloaded, rfl⟩

/-- A file that cannot be loaded changes nothing. -/
theorem reloadStep_cases {tunnel next : Tunnel ρ}
    {loaded : Except LoadError ValidConfig}
    (stepped : tunnel.reloadStep loaded = some next) :
    next = tunnel ∨
      (∃ cfg, (ReloadPlan.compute tunnel.currentCfg cfg).isNoop = true ∧
        next = { tunnel with currentCfg := cfg }) ∨
      ∃ cfg controller,
        RouteController.reload (ReloadPlan.compute tunnel.currentCfg cfg)
            tunnel.controller = (.ok (), controller) ∧
          next = tunnel.switchTo cfg controller := by
  cases loaded with
  | error error =>
      cases stepped
      exact Or.inl rfl
  | ok cfg =>
      rcases reloadUnlessFailed_cases stepped with
        ⟨noop, result⟩ | ⟨controller, reloaded, result⟩
      · exact Or.inr (Or.inl ⟨cfg, noop, result⟩)
      · exact Or.inr (Or.inr ⟨cfg, controller, reloaded, result⟩)

end Tunnel

end Cortado
