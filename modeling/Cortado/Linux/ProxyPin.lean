import Cortado.Lib.Transition
import Cortado.Linux.Boot

/-!
# The host route of the proxy under hot reload

The tunnel must not route the proxy's own connections into itself, so the
proxy that the data path dials needs a host route through a gateway.  A
reload deletes the old proxy's route before it knows that the new one can be
installed, and it deletes removed bypass entries after the new route is in
place.  `always_proxyPinned_iff` says which reloads keep the route: exactly
those that neither lack a gateway for the new proxy nor drop a bypass entry
equal to the new proxy's host route.
-/

namespace Cortado.Linux

open Net KeyedTable Transition

/-- The kernel table holds the host route of an address, through the gateway
of its family. -/
def Host.Pins (host : Host) (addr : IpAddr) : Prop :=
  ∃ gateway oif,
    host.manager.gatewayFor addr = some (gateway, oif) ∧
      host.kernel (RouteKey.of addr (hostPrefix addr)) =
        some { gateway := some gateway, oif := some oif }

theorem Host.pins_iff (host : Host) (addr : IpAddr) :
    host.Pins addr ↔
      (host.manager.gatewayFor addr).isSome ∧
        host.kernel (RouteManager.hostKey addr) =
          host.manager.gatewayHop (RouteManager.hostKey addr) := by
  have hop := host.manager.gatewayHop_of addr (hostPrefix addr)
  unfold Host.Pins
  rw [RouteManager.hostKey, hop]
  cases found : host.manager.gatewayFor addr with
  | none => simp
  | some pair =>
      obtain ⟨gateway, oif⟩ := pair
      simp

/-- The proxy that the data path dials is pinned. -/
def ProxyPinned (tunnel : Tunnel Host) : Prop :=
  tunnel.controller.Pins tunnel.shared.proxy.addr.ip

/-- The new proxy's family has a gateway, and the reload does not drop a
bypass entry equal to the new proxy's host route. -/
def KeepsPin (tunnel : Tunnel Host) (cfg : ValidConfig) : Prop :=
  let newIp := cfg.proxySocketAddr.ip
  (tunnel.controller.manager.gatewayFor newIp).isSome ∧
    ((newIp, hostPrefix newIp) ∈ tunnel.currentCfg.bypassRoutes →
      (newIp, hostPrefix newIp) ∈ cfg.bypassRoutes)

/-- What holds between reloads as long as the proxy stays pinned. -/
structure PinInvariant (tunnel : Tunnel Host) : Prop where
  pinned : ProxyPinned tunnel
  applied : tunnel.controller.manager.applied = true
  reliable : tunnel.controller.Reliable
  filesReliable : tunnel.controller.files.Reliable
  sharedProxy : tunnel.shared.proxy = ProxyConfig.fromConfig tunnel.currentCfg

/-- A gateway route survives removal and addition of bypass routes unless it
is removed and not added again. -/
theorem RouteManager.reloaded_hostKey (self : RouteManager)
    {plan : ReloadPlan} {table : KernelTable} {addr : IpAddr}
    (found : (self.gatewayFor addr).isSome)
    (before : self.moved plan table (hostKey addr) =
      self.gatewayHop (hostKey addr)) :
    self.reloaded plan table (hostKey addr) =
        self.gatewayHop (hostKey addr) ↔
      ((addr, hostPrefix addr) ∈ plan.bypassRemove →
        (addr, hostPrefix addr) ∈ plan.bypassAdd) := by
  have hopSome : (self.gatewayHop (hostKey addr)).isSome := by
    simp [hostKey, self.gatewayHop_of, found]
  obtain ⟨hop, hopEq⟩ := Option.isSome_iff_exists.mp hopSome
  simp only [reloaded, install_apply, uninstall_apply,
    RouteKey.hostKey_mem_map, before, hopEq, Option.isSome_some, and_true]
  by_cases added : (addr, hostPrefix addr) ∈ plan.bypassAdd
  · simp [added]
  · by_cases removed : (addr, hostPrefix addr) ∈ plan.bypassRemove
    · simp [added, removed]
    · simp [added, removed]

/-- Moving the host route pins the new proxy. -/
theorem RouteManager.moved_hostKey (self : RouteManager)
    {old new : ValidConfig} {table : KernelTable}
    (found : (self.gatewayFor new.proxySocketAddr.ip).isSome)
    (pinned : table (hostKey old.proxySocketAddr.ip) =
      self.gatewayHop (hostKey old.proxySocketAddr.ip)) :
    self.moved (ReloadPlan.compute old new) table
        (hostKey new.proxySocketAddr.ip) =
      self.gatewayHop (hostKey new.proxySocketAddr.ip) := by
  unfold RouteManager.moved
  cases change : (ReloadPlan.compute old new).proxyRouteChange with
  | none =>
      rw [← ReloadPlan.proxyIp_of_unchanged change]
      exact pinned
  | some pair =>
      obtain ⟨oldIp, newIp⟩ := pair
      obtain ⟨_, rfl, rfl⟩ := ReloadPlan.proxyRouteChange_eq_some change
      have hopSome : (self.gatewayHop
          (hostKey new.proxySocketAddr.ip)).isSome := by
        simp [hostKey, self.gatewayHop_of, found]
      simp [install_apply, hopSome]

theorem PinInvariant.pins {tunnel : Tunnel Host}
    (invariant : PinInvariant tunnel) :
    tunnel.controller.Pins tunnel.currentCfg.proxySocketAddr.ip := by
  have pinned := invariant.pinned
  rw [ProxyPinned, invariant.sharedProxy] at pinned
  exact pinned

/-- Without a gateway for the new proxy the old proxy's route is gone. -/
theorem not_proxyPinned_of_noGateway {tunnel next : Tunnel Host}
    {cfg : ValidConfig} (invariant : PinInvariant tunnel)
    (stepped : Tunnel.reloadAnyway tunnel cfg = some next)
    (missing :
      tunnel.controller.manager.gatewayFor cfg.proxySocketAddr.ip = none) :
    ¬ProxyPinned next := by
  have oldPinned := (tunnel.controller.pins_iff _).mp invariant.pins
  have different : tunnel.currentCfg.proxySocketAddr.ip ≠
      cfg.proxySocketAddr.ip := by
    intro same
    rw [same, missing] at oldPinned
    simp at oldPinned
  have change := ReloadPlan.proxyRouteChange_of_ne different
  have failed := exec_reload_noGateway invariant.reliable invariant.applied
    change missing
  cases stepped
  intro pinned
  rcases tunnel.applyReload_cases cfg with
    ⟨noop, _, _⟩ | ⟨error, controller, reloaded, _, result⟩ |
    ⟨controller, reloaded, _, _⟩
  · simp [ReloadPlan.isNoop, change] at noop
  · have controllerEq := failed.symm.trans reloaded
    obtain ⟨_, rfl⟩ := Prod.mk.inj controllerEq
    rw [ProxyPinned, result, Host.pins_iff] at pinned
    have gone := pinned.2
    rw [invariant.sharedProxy] at gone
    have hopSome : (tunnel.controller.manager.gatewayHop
        (RouteManager.hostKey
          tunnel.currentCfg.proxySocketAddr.ip)).isSome := by
      simp [RouteManager.hostKey, RouteManager.gatewayHop_of, oldPinned.1]
    simp only [ProxyConfig.fromConfig, Host.withKernel_kernel,
      Host.withKernel_manager, uninstall_apply, List.mem_singleton,
      oldPinned.2, and_self, if_true] at gone
    simp [← gone] at hopSome
  · have contradictory := failed.symm.trans reloaded
    simp at contradictory

/-- With a gateway the reload succeeds, and the pin survives the bypass
changes exactly under the second half of `KeepsPin`. -/
theorem pinned_of_gateway {tunnel next : Tunnel Host}
    {cfg : ValidConfig} (invariant : PinInvariant tunnel)
    (stepped : Tunnel.reloadAnyway tunnel cfg = some next)
    (found : (tunnel.controller.manager.gatewayFor
      cfg.proxySocketAddr.ip).isSome) :
    (ProxyPinned next ↔ KeepsPin tunnel cfg) ∧
      (ProxyPinned next → PinInvariant next) := by
  have oldPinned := (tunnel.controller.pins_iff _).mp invariant.pins
  obtain ⟨dns, dnsServer, files, succeeded, filesReliable⟩ :=
    exec_reload invariant.reliable invariant.filesReliable
      invariant.applied (ReloadPlan.compute tunnel.currentCfg cfg)
      (RouteManager.canFollow_compute found)
  cases stepped
  rcases tunnel.applyReload_cases cfg with
    ⟨noop, _, result⟩ | ⟨error, controller, reloaded, _, _⟩ |
    ⟨controller, reloaded, _, result⟩
  · obtain ⟨sameProxy, sameBypass, _⟩ := ReloadPlan.isNoop_compute noop
    rw [result]
    refine ⟨?_, ?_⟩
    · refine iff_of_true invariant.pinned ⟨found, ?_⟩
      intro inOld
      exact (sameBypass _).mp inOld
    · intro pinned
      exact
        { pinned := pinned
          applied := invariant.applied
          reliable := invariant.reliable
          filesReliable := invariant.filesReliable
          sharedProxy := invariant.sharedProxy.trans sameProxy }
  · have contradictory := succeeded.symm.trans reloaded
    simp at contradictory
  · have controllerEq := succeeded.symm.trans reloaded
    obtain ⟨_, rfl⟩ := Prod.mk.inj controllerEq
    rw [result]
    refine ⟨?_, ?_⟩
    · have movedPin := tunnel.controller.manager.moved_hostKey found
        oldPinned.2
      have survives := RouteManager.reloaded_hostKey _ found movedPin
      simp only [ReloadPlan.mem_bypassRemove,
        ReloadPlan.mem_bypassAdd] at survives
      rw [ProxyPinned, Host.pins_iff, KeepsPin]
      constructor
      · intro pinned
        refine ⟨found, ?_⟩
        intro inOld
        by_contra notNew
        exact notNew (survives.mp pinned.2 ⟨inOld, notNew⟩).1
      · intro keeps
        refine ⟨found, survives.mpr ?_⟩
        intro removed
        exact absurd (keeps.2 removed.1) removed.2
    · intro pinned
      exact
        { pinned := pinned
          applied := invariant.applied
          reliable := invariant.reliable
          filesReliable := filesReliable
          sharedProxy := rfl }

theorem pinInvariant_of_start {boot : Boot} {cfg : ValidConfig}
    {tunnel : Tunnel Host} (reliable : boot.Reliable)
    (started : boot.start cfg = .ok tunnel) : PinInvariant tunnel := by
  obtain ⟨host, applied, rfl⟩ := Boot.start_eq_ok started
  obtain ⟨dns, files, rfl, found, dnsApplied⟩ :=
    exec_apply_eq_ok (reliable.host cfg) applied
  obtain ⟨_, laterFiles, dnsResult, laterReliable⟩ :=
    ResolvConf.apply_reliable reliable.2 (boot.host cfg).manager.dns
      (boot.host cfg).manager.dnsServer
  have filesEq : files = laterFiles :=
    congrArg (fun result => result.2.2) (dnsApplied.symm.trans dnsResult)
  refine
    { pinned := ?_
      applied := rfl
      reliable := reliable.1
      filesReliable := filesEq ▸ laterReliable
      sharedProxy := rfl }
  refine (Host.pins_iff _ _).mpr ⟨found, ?_⟩
  let self := (boot.host cfg).manager.withGateways boot.kernel
  have notSplit := self.hostKey_not_mem_splitKeys self.proxyIp
  have hopSome :
      (self.gatewayHop (RouteManager.hostKey self.proxyIp)).isSome := by
    have present : (self.gatewayFor self.proxyIp).isSome := found
    simpa [RouteManager.hostKey, self.gatewayHop_of] using present
  change self.installed boot.kernel (RouteManager.hostKey self.proxyIp) =
    self.gatewayHop (RouteManager.hostKey self.proxyIp)
  rw [RouteManager.installed_apply, if_neg notSplit, if_pos]
  exact ⟨by simp [RouteManager.gatewayKeys], hopSome⟩

/-- After a successful start on a reliable host, the proxy in use stays
pinned along a sequence of reloads exactly if every one of them keeps the
pin. -/
theorem always_proxyPinned_iff {boot : Boot} {cfg : ValidConfig}
    {tunnel : Tunnel Host} (reliable : boot.Reliable)
    (started : boot.start cfg = .ok tunnel) (configs : List ValidConfig) :
    Always Tunnel.reloadAnyway ProxyPinned tunnel configs ↔
      EveryStep Tunnel.reloadAnyway KeepsPin tunnel configs := by
  refine always_iff_everyStep (fun _ => True)
    (fun _ invariant => invariant.pinned) ?_ ?_
    (pinInvariant_of_start reliable started) (fun _ _ => trivial)
  · intro tunnel cfg next _ invariant stepped
    cases found : tunnel.controller.manager.gatewayFor
        cfg.proxySocketAddr.ip with
    | none =>
        refine iff_of_false
          (not_proxyPinned_of_noGateway invariant stepped found) ?_
        intro keeps
        simp [KeepsPin, found] at keeps
    | some pair =>
        exact (pinned_of_gateway invariant stepped
          (by simp [found])).1
  · intro tunnel cfg next _ invariant stepped keeps
    obtain ⟨exactly, kept⟩ := pinned_of_gateway invariant stepped keeps.1
    exact kept (exactly.mpr keeps)

def v6ProxyConfig : ValidConfig :=
  ⟨{ proxyAddr := "[2001:db8::9]:1080" }, by decide⟩

theorem v4OnlyBoot_starts :
    ∃ tunnel, v4OnlyBoot.start v4ProxyConfig = .ok tunnel :=
  Boot.start_of_gateway v4OnlyBoot_reliable (by decide +kernel)

/-- On a host without an IPv6 gateway the first of these reloads keeps the pin
and the second does not. -/
theorem always_proxyPinned_iff_v4Only :
    ∃ tunnel, v4OnlyBoot.Reliable ∧
      v4OnlyBoot.start v4ProxyConfig = .ok tunnel ∧
      (Always Tunnel.reloadAnyway ProxyPinned tunnel
          [v4ProxyConfig, v6ProxyConfig] ↔
        EveryStep Tunnel.reloadAnyway KeepsPin tunnel
          [v4ProxyConfig, v6ProxyConfig]) := by
  obtain ⟨tunnel, started⟩ := v4OnlyBoot_starts
  exact ⟨tunnel, v4OnlyBoot_reliable, started,
    always_proxyPinned_iff v4OnlyBoot_reliable started _⟩

/-- A reload to an IPv6 proxy on a host without an IPv6 gateway fails, but
the route of the IPv4 proxy, still in use, is gone. -/
theorem proxyPinned_lost_without_gateway :
    ∃ tunnel, v4OnlyBoot.Reliable ∧
      v4OnlyBoot.start v4ProxyConfig = .ok tunnel ∧
      ¬Always Tunnel.reloadAnyway ProxyPinned tunnel [v6ProxyConfig] := by
  obtain ⟨tunnel, started⟩ := v4OnlyBoot_starts
  refine ⟨tunnel, v4OnlyBoot_reliable, started, ?_⟩
  have invariant := pinInvariant_of_start v4OnlyBoot_reliable started
  have missing : tunnel.controller.manager.gatewayFor
      v6ProxyConfig.proxySocketAddr.ip = none := by
    obtain ⟨host, applied, rfl⟩ := Boot.start_eq_ok started
    have sameGateway := gatewayFor_of_apply
      (v4OnlyBoot_reliable.host v4ProxyConfig) applied
    refine (sameGateway _).trans ?_
    decide +kernel
  intro always
  exact not_proxyPinned_of_noGateway invariant rfl missing
    (always.2 _ rfl)

end Cortado.Linux
