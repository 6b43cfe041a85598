import Cortado.Lib.Transition
import Cortado.Linux.Boot
import Cortado.Linux.RouteFrame

/-!
# Hot reload against a fresh start, in memory

The running process copies its configuration into the shared settings, the
DNS pool and the route controller, and a reload refreshes each copy under a
condition of its own.  Whatever the host does, as long as no reload fails all
copies are those of a fresh start with the last configuration.
-/

namespace Cortado

open Net Linux Transition

/-- Every copy of the configuration is the one of a fresh start. -/
structure InEffect (cfg : ValidConfig) (tunnel : Tunnel Host) : Prop where
  sharedProxy : tunnel.shared.proxy = ProxyConfig.fromConfig cfg
  dnsProxy : tunnel.dnsProxy = ProxyConfig.fromConfig cfg
  routes : ∀ addr, tunnel.shared.routes.decide addr =
    (RouteTable.new cfg.bypassRoutes).decide addr
  proxyIp : tunnel.controller.manager.proxyIp = cfg.proxySocketAddr.ip
  bypass : ∀ entry, entry ∈ tunnel.controller.manager.bypass ↔
    entry ∈ cfg.bypassRoutes
  dnsServer : tunnel.controller.manager.dnsServer = cfg.dnsAddr

/-- What holds between reloads. -/
structure CopiesAgree (tunnel : Tunnel Host) : Prop where
  inEffect : InEffect tunnel.currentCfg tunnel
  applied : tunnel.controller.manager.applied = true

theorem currentCfg_of_step {tunnel next : Tunnel Host} {cfg : ValidConfig}
    (stepped : Tunnel.reloadUnlessFailed tunnel cfg = some next) :
    next.currentCfg = cfg := by
  rcases Tunnel.reloadUnlessFailed_cases stepped with ⟨_, rfl⟩ | ⟨_, _, rfl⟩
  · rfl
  · rfl

/-- A plan without effect changes no copy, and none has to change. -/
theorem CopiesAgree.of_noop {tunnel : Tunnel Host} {cfg : ValidConfig}
    (agree : CopiesAgree tunnel)
    (noop : (ReloadPlan.compute tunnel.currentCfg cfg).isNoop = true) :
    CopiesAgree { tunnel with currentCfg := cfg } := by
  obtain ⟨sameProxy, sameBypass, sameDns⟩ := ReloadPlan.isNoop_compute noop
  have before := agree.inEffect
  have sameIp : tunnel.currentCfg.proxySocketAddr.ip =
      cfg.proxySocketAddr.ip :=
    congrArg (fun proxy : ProxyConfig => proxy.addr.ip) sameProxy
  exact
    { inEffect :=
        { sharedProxy := before.sharedProxy.trans sameProxy
          dnsProxy := before.dnsProxy.trans sameProxy
          routes := fun addr =>
            (before.routes addr).trans (RouteTable.decide_congr sameBypass addr)
          proxyIp := before.proxyIp.trans sameIp
          bypass := fun entry => (before.bypass entry).trans (sameBypass entry)
          dnsServer := before.dnsServer.trans sameDns }
      applied := agree.applied }

/-- The name server on record after a reload is the configured one. -/
theorem dnsServer_compute {old new : ValidConfig} {current : Option IpAddr}
    (agrees : current = old.dnsAddr) :
    (if (ReloadPlan.compute old new).dnsChanged then
        (ReloadPlan.compute old new).dns else current) = new.dnsAddr := by
  cases changed : (ReloadPlan.compute old new).dnsChanged with
  | true => rfl
  | false =>
      have same : old.dnsAddr = new.dnsAddr := by
        simpa [ReloadPlan.compute] using changed
      simp [agrees, same]

theorem CopiesAgree.of_reload {tunnel : Tunnel Host} {cfg : ValidConfig}
    {controller : Host} (agree : CopiesAgree tunnel)
    (reloaded : (RouteManager.reload
      (ReloadPlan.compute tunnel.currentCfg cfg)).exec tunnel.controller =
        (.ok (), controller)) :
    CopiesAgree (tunnel.switchTo cfg controller) := by
  have before := agree.inEffect
  obtain ⟨dns, _, managerEq⟩ := manager_of_reload agree.applied reloaded
  rw [RouteManager.follow_compute before.proxyIp,
    dnsServer_compute before.dnsServer] at managerEq
  have dnsProxy : (tunnel.switchTo cfg controller).dnsProxy =
      ProxyConfig.fromConfig cfg := by
    cases changed :
        (ReloadPlan.compute tunnel.currentCfg cfg).proxyChanged with
    | true =>
        simp only [Tunnel.switchTo, changed, if_true]
        rfl
    | false =>
        simp only [Tunnel.switchTo, changed, Bool.false_eq_true, if_false]
        exact before.dnsProxy.trans (ProxyConfig.fromConfig_eq changed)
  exact
    { inEffect :=
        { sharedProxy := rfl
          dnsProxy := dnsProxy
          routes := fun addr => rfl
          proxyIp := congrArg RouteManager.proxyIp managerEq
          bypass := by
            intro entry
            change entry ∈ controller.manager.bypass ↔ _
            rw [managerEq]
            rfl
          dnsServer := congrArg RouteManager.dnsServer managerEq }
      applied := (congrArg RouteManager.applied managerEq).trans agree.applied }

theorem copiesAgree_step (tunnel : Tunnel Host) (cfg : ValidConfig)
    (next : Tunnel Host) (agree : CopiesAgree tunnel)
    (stepped : Tunnel.reloadUnlessFailed tunnel cfg = some next) :
    CopiesAgree next := by
  rcases Tunnel.reloadUnlessFailed_cases stepped with
    ⟨noop, rfl⟩ | ⟨controller, reloaded, rfl⟩
  · exact agree.of_noop noop
  · exact agree.of_reload reloaded

theorem copiesAgree_of_start {boot : Boot} {cfg : ValidConfig}
    {tunnel : Tunnel Host} (started : boot.start cfg = .ok tunnel) :
    CopiesAgree tunnel := by
  obtain ⟨host, applied, rfl⟩ := Boot.start_eq_ok started
  have kept := keeps_apply (boot.host cfg)
  rw [applied] at kept
  simp only [Prod.mk.injEq] at kept
  obtain ⟨proxyIp, bypass, dnsServer⟩ := kept
  exact
    { inEffect :=
        { sharedProxy := rfl
          dnsProxy := rfl
          routes := fun addr => rfl
          proxyIp := proxyIp
          bypass := by
            intro entry
            change entry ∈ host.manager.bypass ↔ _
            rw [bypass]
            rfl
          dnsServer := dnsServer }
      applied := applied_of_apply applied }

theorem currentCfg_of_run {tunnel final : Tunnel Host}
    {configs : List ValidConfig}
    (completed : run Tunnel.reloadUnlessFailed tunnel configs = some final) :
    final.currentCfg =
      (tunnel.currentCfg :: configs).getLast (List.cons_ne_nil _ _) := by
  induction configs generalizing tunnel with
  | nil =>
      cases completed
      rfl
  | cons cfg configs induction =>
      obtain ⟨next, stepped, rest⟩ := Option.bind_eq_some_iff.mp completed
      rw [induction rest, currentCfg_of_step stepped]
      exact (List.getLast_cons (List.cons_ne_nil _ _)).symm

/-- After a start and any reloads none of which failed, the last
configuration is in effect in every copy. -/
theorem inEffect_of_run {boot : Boot} {cfg : ValidConfig}
    {tunnel final : Tunnel Host} {configs : List ValidConfig}
    (started : boot.start cfg = .ok tunnel)
    (completed : run Tunnel.reloadUnlessFailed tunnel configs = some final) :
    InEffect ((cfg :: configs).getLast (List.cons_ne_nil _ _)) final := by
  have startedCfg : tunnel.currentCfg = cfg := by
    obtain ⟨host, _, rfl⟩ := Boot.start_eq_ok started
    rfl
  have agree : CopiesAgree final :=
    (always_of_invariant copiesAgree_step (copiesAgree_of_start started)
      configs).final completed
  have lastCfg := currentCfg_of_run completed
  rw [startedCfg] at lastCfg
  rw [← lastCfg]
  exact agree.inEffect

theorem v4OnlyBoot_reloads :
    ∃ tunnel final,
      v4OnlyBoot.start v4ProxyConfig = .ok tunnel ∧
        run Tunnel.reloadUnlessFailed tunnel [v4ProxyConfig, movedConfig] =
          some final := by
  have succeeds : ((v4OnlyBoot.start v4ProxyConfig).toOption.bind
      fun tunnel => run Tunnel.reloadUnlessFailed tunnel
        [v4ProxyConfig, movedConfig]).isSome = true := by
    decide +kernel
  obtain ⟨final, observed⟩ := Option.isSome_iff_exists.mp succeeds
  obtain ⟨tunnel, started, completed⟩ := Boot.start_of_observed observed
  exact ⟨tunnel, final, started, completed⟩

theorem inEffect_of_run_moved :
    ∃ tunnel final,
      v4OnlyBoot.start v4ProxyConfig = .ok tunnel ∧
        run Tunnel.reloadUnlessFailed tunnel [v4ProxyConfig, movedConfig] =
          some final ∧
        InEffect movedConfig final := by
  obtain ⟨tunnel, final, started, completed⟩ := v4OnlyBoot_reloads
  exact ⟨tunnel, final, started, completed,
    inEffect_of_run started completed⟩

end Cortado
