import Cortado.HotReload
import Cortado.Linux.StartRequests

/-!
# Which fields of a configuration a reload reaches

Some fields are read once: by the logger, by the UDP loop, when the interface
is created and when the metrics server is started.  A reload cannot change
those, and warns about a field by comparing the new file with the last one it
loaded, not with the value captured at the start.
-/

namespace Cortado

open Net Linux Transition

/-- What the process reads from its configuration at the start only. -/
structure Captured where
  verbose : Bool
  dnsOverTcp : Bool
  tunName : String
  tunIpv4 : Ipv4Addr
  metricsAddr : Option SocketAddr
  deriving DecidableEq

def Captured.ofConfig (cfg : ValidConfig) : Captured :=
  { verbose := cfg.config.verbose
    dnsOverTcp := cfg.config.dnsOverTcp
    tunName := cfg.config.tunName
    tunIpv4 := cfg.tunIpv4
    metricsAddr := cfg.metricsSocketAddr }

/-- The process between reloads, with the fields its last reload warned
about. -/
structure Running where
  tunnel : Tunnel Host
  captured : Captured
  warning : List String

namespace Running

def start (tunnel : Tunnel Host) : Running :=
  { tunnel := tunnel
    captured := Captured.ofConfig tunnel.currentCfg
    warning := [] }

/-- One reload with a valid configuration, unless the controller fails. -/
def step (running : Running) (cfg : ValidConfig) : Option Running :=
  (Tunnel.reloadUnlessFailed running.tunnel cfg).map fun tunnel =>
    { running with
      tunnel := tunnel
      warning := (running.tunnel.applyReload (.ok cfg)).1.immutable }

end Running

/-- The fields of a configuration file. -/
inductive Field where
  | proxyAddr
  | username
  | password
  | tunName
  | tunIp
  | verbose
  | dnsServer
  | overrideDns
  | dnsOverTcp
  | bypassCidrs
  | metricsAddr
  deriving DecidableEq, Repr

namespace Field

def name : Field → String
  | proxyAddr => "proxy_addr"
  | username => "username"
  | password => "password"
  | tunName => "tun_name"
  | tunIp => "tun_ip"
  | verbose => "verbose"
  | dnsServer => "dns_server"
  | overrideDns => "override_dns"
  | dnsOverTcp => "dns_over_tcp"
  | bypassCidrs => "bypass_cidrs"
  | metricsAddr => "metrics_addr"

/-- Everything the process keeps of a field has the value of `cfg`. -/
def Applied (cfg : ValidConfig) (running : Running) : Field → Prop
  | proxyAddr =>
      running.tunnel.shared.proxy.addr = cfg.proxySocketAddr ∧
        running.tunnel.dnsProxy.addr = cfg.proxySocketAddr ∧
        running.tunnel.controller.manager.proxyIp = cfg.proxySocketAddr.ip
  | username =>
      running.tunnel.shared.proxy.username = cfg.config.username ∧
        running.tunnel.dnsProxy.username = cfg.config.username
  | password =>
      running.tunnel.shared.proxy.password = cfg.config.password ∧
        running.tunnel.dnsProxy.password = cfg.config.password
  | tunName => running.captured.tunName = cfg.config.tunName
  | tunIp => running.captured.tunIpv4 = cfg.tunIpv4
  | verbose => running.captured.verbose = cfg.config.verbose
  | dnsServer | overrideDns =>
      running.tunnel.controller.manager.dns.current = cfg.dnsAddr ∧
        running.tunnel.controller.manager.dnsServer = cfg.dnsAddr
  | dnsOverTcp => running.captured.dnsOverTcp = cfg.config.dnsOverTcp
  | bypassCidrs =>
      (∀ addr, running.tunnel.shared.routes.decide addr =
          (RouteTable.new cfg.bypassRoutes).decide addr) ∧
        ∀ entry, entry ∈ running.tunnel.controller.manager.bypass ↔
          entry ∈ cfg.bypassRoutes
  | metricsAddr => running.captured.metricsAddr = cfg.metricsSocketAddr

end Field

/-- Every field of the loaded configuration is in effect or was warned
about. -/
def Running.Covered (running : Running) : Prop :=
  ∀ field : Field,
    field.Applied running.tunnel.currentCfg running ∨
      field.name ∈ running.warning

/-- The captured fields of `next` have their value from the first
configuration, or differ from the previous one where a reload compares. -/
def Announced (first previous next : ValidConfig) : Prop :=
  first.config.verbose = next.config.verbose ∧
    first.config.dnsOverTcp = next.config.dnsOverTcp ∧
    (first.config.tunName = next.config.tunName ∨
      previous.config.tunName ≠ next.config.tunName) ∧
    (first.tunIpv4 = next.tunIpv4 ∨
      previous.config.tunIp ≠ next.config.tunIp) ∧
    (first.metricsSocketAddr = next.metricsSocketAddr ∨
      previous.config.metricsAddr ≠ next.config.metricsAddr)

instance (first previous next : ValidConfig) :
    Decidable (Announced first previous next) :=
  inferInstanceAs (Decidable (_ ∧ _))

/-- The fields a reload can change are those of the loaded configuration, the
others those of the first one. -/
structure Running.UpToDate (first : ValidConfig) (running : Running) :
    Prop where
  captured : running.captured = Captured.ofConfig first
  copies : CopiesAgree running.tunnel
  override : running.tunnel.controller.manager.dns.current =
    running.tunnel.currentCfg.dnsAddr

theorem Running.step_eq_some {running next : Running} {cfg : ValidConfig}
    (stepped : running.step cfg = some next) :
    ∃ tunnel, Tunnel.reloadUnlessFailed running.tunnel cfg = some tunnel ∧
      next =
        { running with
          tunnel := tunnel
          warning := immutableChanges running.tunnel.currentCfg cfg } := by
  obtain ⟨tunnel, reloaded, result⟩ := Option.map_eq_some_iff.mp stepped
  rw [Tunnel.immutable_applyReload] at result
  exact ⟨tunnel, reloaded, result.symm⟩

theorem Running.currentCfg_of_step (running : Running) (cfg : ValidConfig)
    (next : Running) (stepped : running.step cfg = some next) :
    next.tunnel.currentCfg = cfg := by
  obtain ⟨tunnel, reloaded, rfl⟩ := Running.step_eq_some stepped
  exact Cortado.currentCfg_of_step reloaded

/-- The override in force follows the configuration. -/
theorem override_of_step {tunnel next : Tunnel Host} {cfg : ValidConfig}
    (agree : CopiesAgree tunnel)
    (override : tunnel.controller.manager.dns.current =
      tunnel.currentCfg.dnsAddr)
    (stepped : Tunnel.reloadUnlessFailed tunnel cfg = some next) :
    next.controller.manager.dns.current = cfg.dnsAddr := by
  rcases Tunnel.reloadUnlessFailed_cases stepped with
    ⟨noop, rfl⟩ | ⟨controller, reloaded, rfl⟩
  · exact override.trans (ReloadPlan.isNoop_compute noop).2.2
  · obtain ⟨dns, current, managerEq⟩ :=
      manager_of_reload agree.applied reloaded
    rw [dnsServer_compute override] at current
    change controller.manager.dns.current = cfg.dnsAddr
    rw [managerEq]
    exact current

theorem Running.UpToDate.of_step {first : ValidConfig}
    {running next : Running} {cfg : ValidConfig}
    (upToDate : running.UpToDate first)
    (stepped : running.step cfg = some next) : next.UpToDate first := by
  have loaded := Running.currentCfg_of_step running cfg next stepped
  obtain ⟨tunnel, reloaded, rfl⟩ := Running.step_eq_some stepped
  exact
    { captured := upToDate.captured
      copies := copiesAgree_step _ _ _ upToDate.copies reloaded
      override := by
        change _ = tunnel.currentCfg.dnsAddr
        rw [loaded]
        exact override_of_step upToDate.copies upToDate.override reloaded }

theorem Running.UpToDate.of_start {boot : Boot} {cfg : ValidConfig}
    {tunnel : Tunnel Host} (started : boot.start cfg = .ok tunnel) :
    tunnel.currentCfg = cfg ∧ (Running.start tunnel).UpToDate cfg := by
  have copies := copiesAgree_of_start started
  obtain ⟨_, dns, current, manager⟩ := Boot.start_installed started
  have override : tunnel.controller.manager.dns.current = cfg.dnsAddr := by
    rw [manager]
    exact current
  obtain ⟨host, _, rfl⟩ := Boot.start_eq_ok started
  exact ⟨rfl,
    { captured := rfl
      copies := copies
      override := override }⟩

/-- The fields a reload can change are applied. -/
theorem Running.UpToDate.applied {first : ValidConfig} {running : Running}
    (upToDate : running.UpToDate first) :
    ∀ field ∈ [Field.proxyAddr, .username, .password, .dnsServer,
      .overrideDns, .bypassCidrs],
      field.Applied running.tunnel.currentCfg running := by
  have effect := upToDate.copies.inEffect
  have sharedProxy := effect.sharedProxy
  have dnsProxy := effect.dnsProxy
  intro field member
  simp only [List.mem_cons, List.not_mem_nil, or_false] at member
  rcases member with rfl | rfl | rfl | rfl | rfl | rfl
  · exact ⟨congrArg ProxyConfig.addr sharedProxy,
      congrArg ProxyConfig.addr dnsProxy, effect.proxyIp⟩
  · exact ⟨congrArg ProxyConfig.username sharedProxy,
      congrArg ProxyConfig.username dnsProxy⟩
  · exact ⟨congrArg ProxyConfig.password sharedProxy,
      congrArg ProxyConfig.password dnsProxy⟩
  · exact ⟨upToDate.override, effect.dnsServer⟩
  · exact ⟨upToDate.override, effect.dnsServer⟩
  · exact ⟨effect.routes, effect.bypass⟩

/-- After a reload, the fields are covered exactly if those the reload cannot
change are announced. -/
theorem Running.UpToDate.covered_iff {first previous : ValidConfig}
    {running : Running} (upToDate : running.UpToDate first)
    (warned : running.warning =
      immutableChanges previous running.tunnel.currentCfg) :
    running.Covered ↔ Announced first previous running.tunnel.currentCfg := by
  have live := upToDate.applied
  simp only [Running.Covered, warned, mem_immutableChanges]
  constructor
  · intro covered
    refine ⟨?_, ?_, ?_, ?_, ?_⟩
    · simpa [Field.Applied, Field.name, upToDate.captured,
        Captured.ofConfig] using covered .verbose
    · simpa [Field.Applied, Field.name, upToDate.captured,
        Captured.ofConfig] using covered .dnsOverTcp
    · simpa [Field.Applied, Field.name, upToDate.captured,
        Captured.ofConfig] using covered .tunName
    · simpa [Field.Applied, Field.name, upToDate.captured,
        Captured.ofConfig] using covered .tunIp
    · simpa [Field.Applied, Field.name, upToDate.captured,
        Captured.ofConfig] using covered .metricsAddr
  · intro announced field
    obtain ⟨verbose, dnsOverTcp, tunName, tunIp, metricsAddr⟩ := announced
    cases field with
    | verbose =>
        left
        rw [Field.Applied, upToDate.captured]
        exact verbose
    | dnsOverTcp =>
        left
        rw [Field.Applied, upToDate.captured]
        exact dnsOverTcp
    | tunName =>
        rw [Field.Applied, upToDate.captured]
        exact tunName.imp_right fun changed => Or.inl ⟨rfl, changed⟩
    | tunIp =>
        rw [Field.Applied, upToDate.captured]
        exact tunIp.imp_right fun changed => Or.inr (Or.inl ⟨rfl, changed⟩)
    | metricsAddr =>
        rw [Field.Applied, upToDate.captured]
        exact metricsAddr.imp_right fun changed =>
          Or.inr (Or.inr ⟨rfl, changed⟩)
    | proxyAddr | username | password | dnsServer | overrideDns
    | bypassCidrs => exact Or.inl (live _ (by simp))

theorem Announced.refl (cfg : ValidConfig) : Announced cfg cfg cfg :=
  ⟨rfl, rfl, Or.inl rfl, Or.inl rfl, Or.inl rfl⟩

theorem Running.covered_start {boot : Boot} {cfg : ValidConfig}
    {tunnel : Tunnel Host} (started : boot.start cfg = .ok tunnel) :
    (Running.start tunnel).Covered := by
  obtain ⟨rfl, upToDate⟩ := Running.UpToDate.of_start started
  have warned : (Running.start tunnel).warning =
      immutableChanges tunnel.currentCfg tunnel.currentCfg := by
    simp [Running.start, immutableChanges]
  exact (upToDate.covered_iff warned).mpr (Announced.refl _)

/-- After every reload of a run in which none fails, each field is in effect
or was warned about, exactly if every loaded configuration announces the
fields captured at the start. -/
theorem fields_covered_exact {boot : Boot} {cfg : ValidConfig}
    {tunnel : Tunnel Host} {final : Running} {configs : List ValidConfig}
    (started : boot.start cfg = .ok tunnel)
    (completed : run Running.step (Running.start tunnel) configs =
      some final) :
    Always Running.step Running.Covered (Running.start tunnel) configs ↔
      List.IsChain (Announced cfg) (cfg :: configs) := by
  obtain ⟨startedCfg, upToDate⟩ := Running.UpToDate.of_start started
  have good : ∀ running : Running,
      running.UpToDate cfg ∧ running.Covered → running.Covered := by
    intro running invariant
    exact invariant.2
  have exactStep : ∀ (running : Running) (loaded : ValidConfig)
      (next : Running), True → running.UpToDate cfg ∧ running.Covered →
      running.step loaded = some next →
      (next.Covered ↔ Announced cfg running.tunnel.currentCfg loaded) := by
    intro running loaded next _ invariant stepped
    have nextUpToDate := invariant.1.of_step stepped
    have nextCfg := Running.currentCfg_of_step running loaded next stepped
    have warned : next.warning =
        immutableChanges running.tunnel.currentCfg next.tunnel.currentCfg := by
      rw [nextCfg]
      obtain ⟨_, _, rfl⟩ := Running.step_eq_some stepped
      rfl
    rw [nextUpToDate.covered_iff warned, nextCfg]
  have kept : ∀ (running : Running) (loaded : ValidConfig)
      (next : Running), True → running.UpToDate cfg ∧ running.Covered →
      running.step loaded = some next →
      Announced cfg running.tunnel.currentCfg loaded →
      next.UpToDate cfg ∧ next.Covered := by
    intro running loaded next allowed invariant stepped announced
    exact ⟨invariant.1.of_step stepped,
      (exactStep running loaded next allowed invariant stepped).mpr announced⟩
  have chain : EveryStep Running.step
      (fun running loaded => Announced cfg running.tunnel.currentCfg loaded)
      (Running.start tunnel) configs ↔
        List.IsChain (Announced cfg) (tunnel.currentCfg :: configs) :=
    everyStep_iff_isChain Running.currentCfg_of_step completed
  rw [startedCfg] at chain
  rw [← chain]
  exact always_iff_everyStep (fun _ => True) good exactStep kept
    ⟨upToDate, Running.covered_start started⟩ (fun _ _ => trivial)

/-- The interface is renamed in the file, which needs a restart. -/
def renamedConfig : ValidConfig :=
  ⟨{ proxyAddr := "203.0.113.9:1080"
     tunName := "cortado1" }, by decide⟩

theorem fields_covered_exact_renamed :
    ∃ tunnel,
      v4OnlyBoot.start v4ProxyConfig = .ok tunnel ∧
        (run Running.step (Running.start tunnel)
          [renamedConfig, movedConfig]).isSome = true ∧
        Always Running.step Running.Covered (Running.start tunnel)
          [renamedConfig, movedConfig] := by
  have succeeds : ((v4OnlyBoot.start v4ProxyConfig).toOption.bind
      fun tunnel => run Running.step (Running.start tunnel)
        [renamedConfig, movedConfig]).isSome = true := by
    decide +kernel
  obtain ⟨final, observed⟩ := Option.isSome_iff_exists.mp succeeds
  obtain ⟨tunnel, started, completed⟩ := Boot.start_of_observed observed
  refine ⟨tunnel, started, ?_, ?_⟩
  · rw [completed]
    rfl
  · apply (fields_covered_exact started completed).mpr
    decide

/-- The log is made verbose in the file. -/
def verboseConfig : ValidConfig :=
  ⟨{ proxyAddr := "203.0.113.9:1080"
     verbose := true }, by decide⟩

/-- A reload neither makes the log verbose nor says that it does not. -/
theorem verbose_unreported :
    ∃ tunnel final,
      v4OnlyBoot.start v4ProxyConfig = .ok tunnel ∧
        run Running.step (Running.start tunnel) [verboseConfig] =
          some final ∧
        ¬ final.Covered := by
  have outcome : ((v4OnlyBoot.start v4ProxyConfig).toOption.bind
      fun tunnel => (run Running.step (Running.start tunnel)
        [verboseConfig]).map fun final =>
          (final.captured.verbose, final.tunnel.currentCfg.config.verbose,
            final.warning)) = some (false, true, []) := by
    decide +kernel
  obtain ⟨tunnel, started, reloaded⟩ := Boot.start_of_observed outcome
  obtain ⟨final, completed, observed⟩ := Option.map_eq_some_iff.mp reloaded
  simp only [Prod.mk.injEq] at observed
  obtain ⟨captured, loaded, warned⟩ := observed
  refine ⟨tunnel, final, started, completed, ?_⟩
  intro covered
  have verbose := covered .verbose
  simp [Field.Applied, captured, loaded, warned] at verbose

end Cortado
