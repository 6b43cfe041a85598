import Cortado.Config

/-!
# Reload plans

A plan holds what a reload has to change, computed from the two
configurations alone.
-/

namespace Cortado

open Net

/-- What the data path reads on every connection. -/
structure Shared where
  proxy : ProxyConfig
  routes : RouteTable

/-- Fields that differ but only take effect after a restart. -/
def immutableChanges (old new : ValidConfig) : List String :=
  (if old.config.tunName ≠ new.config.tunName then ["tun_name"] else []) ++
  (if old.config.tunIp ≠ new.config.tunIp then ["tun_ip"] else []) ++
  (if old.config.metricsAddr ≠ new.config.metricsAddr then ["metrics_addr"]
    else [])

theorem mem_immutableChanges {old new : ValidConfig} {name : String} :
    name ∈ immutableChanges old new ↔
      (name = "tun_name" ∧ old.config.tunName ≠ new.config.tunName) ∨
        (name = "tun_ip" ∧ old.config.tunIp ≠ new.config.tunIp) ∨
        (name = "metrics_addr" ∧
          old.config.metricsAddr ≠ new.config.metricsAddr) := by
  have mem_ite : ∀ (changed : Prop) [Decidable changed] (field : String),
      name ∈ (if changed then [field] else []) ↔ name = field ∧ changed := by
    intro changed _ field
    by_cases holds : changed
    · simp [holds]
    · simp [holds]
  simp only [immutableChanges, List.mem_append, mem_ite, or_assoc]

structure ReloadPlan where
  proxy : ProxyConfig
  routeTable : RouteTable
  newBypass : CidrList
  bypassAdd : CidrList
  bypassRemove : CidrList
  dns : Option IpAddr
  dnsChanged : Bool
  proxyRouteChange : Option (IpAddr × IpAddr)
  proxyChanged : Bool

namespace ReloadPlan

def compute (old new : ValidConfig) : ReloadPlan :=
  let diff := diffCidrs old.bypassRoutes new.bypassRoutes
  { proxy := ProxyConfig.fromConfig new
    routeTable := RouteTable.new new.bypassRoutes
    newBypass := new.bypassRoutes
    bypassAdd := diff.1
    bypassRemove := diff.2
    dns := new.dnsAddr
    dnsChanged := old.dnsAddr ≠ new.dnsAddr
    proxyRouteChange :=
      if old.proxySocketAddr.ip ≠ new.proxySocketAddr.ip then
        some (old.proxySocketAddr.ip, new.proxySocketAddr.ip)
      else none
    proxyChanged :=
      old.proxySocketAddr ≠ new.proxySocketAddr ∨
        old.config.username ≠ new.config.username ∨
        old.config.password ≠ new.config.password }

def isNoop (plan : ReloadPlan) : Bool :=
  plan.bypassAdd.isEmpty && plan.bypassRemove.isEmpty && !plan.dnsChanged &&
    plan.proxyRouteChange.isNone && !plan.proxyChanged

end ReloadPlan

/-- The proxy settings agree unless the plan says that they changed. -/
theorem ProxyConfig.fromConfig_eq {old new : ValidConfig}
    (unchanged : (ReloadPlan.compute old new).proxyChanged = false) :
    ProxyConfig.fromConfig old = ProxyConfig.fromConfig new := by
  simp only [ReloadPlan.compute, ne_eq, decide_eq_false_iff_not, not_or,
    not_not] at unchanged
  obtain ⟨addr, username, password⟩ := unchanged
  simp [ProxyConfig.fromConfig, addr, username, password]

/-- An ineffective plan relates configurations with the same effective
settings. -/
theorem ReloadPlan.isNoop_compute {old new : ValidConfig}
    (noop : (ReloadPlan.compute old new).isNoop = true) :
    ProxyConfig.fromConfig old = ProxyConfig.fromConfig new ∧
      (∀ entry, entry ∈ old.bypassRoutes ↔ entry ∈ new.bypassRoutes) ∧
      old.dnsAddr = new.dnsAddr := by
  simp only [isNoop, Bool.and_eq_true, List.isEmpty_iff,
    Bool.not_eq_eq_eq_not, Bool.not_true] at noop
  obtain ⟨⟨⟨⟨noneAdded, noneRemoved⟩, dnsSame⟩, _⟩, proxySame⟩ := noop
  refine ⟨ProxyConfig.fromConfig_eq proxySame,
    mem_iff_of_diffCidrs_empty noneAdded noneRemoved, ?_⟩
  simpa [compute] using dnsSame

theorem ReloadPlan.proxyIp_of_unchanged {old new : ValidConfig}
    (unchanged : (ReloadPlan.compute old new).proxyRouteChange = none) :
    old.proxySocketAddr.ip = new.proxySocketAddr.ip := by
  by_contra different
  simp [compute, different] at unchanged

theorem ReloadPlan.proxyRouteChange_of_ne {old new : ValidConfig}
    (different : old.proxySocketAddr.ip ≠ new.proxySocketAddr.ip) :
    (ReloadPlan.compute old new).proxyRouteChange =
      some (old.proxySocketAddr.ip, new.proxySocketAddr.ip) := by
  simp [compute, different]

theorem ReloadPlan.proxyRouteChange_eq_some {old new : ValidConfig}
    {oldIp newIp : IpAddr}
    (change : (ReloadPlan.compute old new).proxyRouteChange =
      some (oldIp, newIp)) :
    old.proxySocketAddr.ip ≠ new.proxySocketAddr.ip ∧
      old.proxySocketAddr.ip = oldIp ∧ new.proxySocketAddr.ip = newIp := by
  by_cases same : old.proxySocketAddr.ip = new.proxySocketAddr.ip
  · simp [compute, same] at change
  · rw [proxyRouteChange_of_ne same, Option.some.injEq,
      Prod.mk.injEq] at change
    exact ⟨same, change⟩

theorem ReloadPlan.mem_bypassRemove {old new : ValidConfig} {entry : IpAddr × Nat} :
    entry ∈ (ReloadPlan.compute old new).bypassRemove ↔
      entry ∈ old.bypassRoutes ∧ entry ∉ new.bypassRoutes :=
  mem_diffCidrs_remove

theorem ReloadPlan.mem_bypassAdd {old new : ValidConfig} {entry : IpAddr × Nat} :
    entry ∈ (ReloadPlan.compute old new).bypassAdd ↔
      entry ∈ new.bypassRoutes ∧ entry ∉ old.bypassRoutes :=
  mem_diffCidrs_add

end Cortado
