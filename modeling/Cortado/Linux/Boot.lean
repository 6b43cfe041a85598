import Cortado.Linux.RouteSpec
import Cortado.Tunnel

/-!
# The start on Linux

`run` builds the controller from the configuration and what it finds on the
host, and applies it; the tunnel runs once that has succeeded.
-/

namespace Cortado.Linux

open Net

instance : RouteController Host RouteError where
  apply := RouteManager.apply.exec
  reload plan := (RouteManager.reload plan).exec
  teardown := RouteManager.teardown.exec

/-- What the process finds on the host when it starts. -/
structure Boot where
  kernel : KernelTable
  netlinkFaults : Nat → Bool
  files : Files
  tunIndex : Nat
  captureIpv6 : Bool

/-- The controller `run` constructs, before it is applied. -/
def Boot.host (boot : Boot) (cfg : ValidConfig) : Host :=
  { manager := RouteManager.new cfg.proxySocketAddr.ip boot.tunIndex
      cfg.dnsAddr cfg.bypassRoutes boot.captureIpv6
    kernel := boot.kernel
    netlinkFaults := boot.netlinkFaults
    files := boot.files }

/-- The controller of a fresh start, with the gateways it finds. -/
def Boot.controller (boot : Boot) (cfg : ValidConfig) : RouteManager :=
  (boot.host cfg).manager.withGateways boot.kernel

/-- The running process once the routes are configured. -/
def Boot.tunnel (cfg : ValidConfig) (host : Host) : Tunnel Host :=
  { currentCfg := cfg
    controller := host
    shared :=
      { proxy := ProxyConfig.fromConfig cfg
        routes := RouteTable.new cfg.bypassRoutes }
    dnsProxy := ProxyConfig.fromConfig cfg }

def Boot.start (boot : Boot) (cfg : ValidConfig) :
    Except RouteError (Tunnel Host) :=
  match RouteManager.apply.exec (boot.host cfg) with
  | (.ok (), host) => .ok (Boot.tunnel cfg host)
  | (.error error, _) => .error error

/-- No netlink request and no file operation fails. -/
def Boot.Reliable (boot : Boot) : Prop :=
  (boot.netlinkFaults = fun _ => false) ∧ boot.files.Reliable

theorem Boot.start_eq_ok {boot : Boot} {cfg : ValidConfig}
    {tunnel : Tunnel Host} (started : boot.start cfg = .ok tunnel) :
    ∃ host, RouteManager.apply.exec (boot.host cfg) = (.ok (), host) ∧
      tunnel = Boot.tunnel cfg host := by
  unfold Boot.start at started
  cases applied : RouteManager.apply.exec (boot.host cfg) with
  | mk outcome host =>
      cases outcome with
      | error error => simp [applied] at started
      | ok =>
          simp only [applied, Except.ok.injEq] at started
          exact ⟨host, rfl, started.symm⟩

/-- A start of which something can be observed succeeded. -/
theorem Boot.start_of_observed {boot : Boot} {cfg : ValidConfig} {α : Type}
    {observe : Tunnel Host → Option α} {value : α}
    (observed : (boot.start cfg).toOption.bind observe = some value) :
    ∃ tunnel, boot.start cfg = .ok tunnel ∧ observe tunnel = some value := by
  obtain ⟨tunnel, isValue, result⟩ := Option.bind_eq_some_iff.mp observed
  exact ⟨tunnel, Outcome.eq_ok_of_toOption_eq_some isValue, result⟩

theorem Boot.host_reliable {boot : Boot}
    (reliable : boot.netlinkFaults = fun _ => false) (cfg : ValidConfig) :
    (boot.host cfg).Reliable :=
  reliable

theorem Boot.Reliable.host {boot : Boot} (reliable : boot.Reliable)
    (cfg : ValidConfig) : (boot.host cfg).Reliable :=
  reliable.1

theorem Boot.start_of_gateway {boot : Boot} {cfg : ValidConfig}
    (reliable : boot.Reliable)
    (found : ((boot.host cfg).manager.withGateways boot.kernel).gatewayFor
      cfg.proxySocketAddr.ip |>.isSome) :
    ∃ tunnel, boot.start cfg = .ok tunnel := by
  have filesReliable : (boot.host cfg).files.Reliable := reliable.2
  obtain ⟨host, applied⟩ :=
    exec_apply_of_gateway (reliable.host cfg) filesReliable found
  unfold Boot.start
  rw [applied]
  exact ⟨_, rfl⟩

theorem Boot.host_validBypass (boot : Boot) (cfg : ValidConfig) :
    ValidBypass (boot.host cfg).manager.bypass :=
  cfg.validBypass

/-- A host with a default route for IPv4 only. -/
def v4OnlyBoot : Boot :=
  { kernel := fun key =>
      if key = RouteKey.of (.v4 0) 0 then
        some
          { gateway := some (.v4 (Ipv4Addr.ofOctets 192 168 1 1))
            oif := some 2 }
      else none
    netlinkFaults := fun _ => false
    files := { resolvConf := some [], backup := none, faults := fun _ => none }
    tunIndex := 7
    captureIpv6 := false }

theorem v4OnlyBoot_reliable : v4OnlyBoot.Reliable :=
  ⟨rfl, rfl⟩

end Cortado.Linux
