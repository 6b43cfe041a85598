import Cortado.Linux.RouteSpec

/-!
# What the controller's requests leave alone

Netlink requests may fail at any point, but whatever they do they do to the
kernel.  The rules below carry a view of the controller's record through
sequences of requests, so that its fields after a start or a reload follow
without any assumption about the host.
-/

namespace Cortado.Linux

open Net Shell

/-- An operation leaves a view of the controller's record as it was, whether
it succeeds or fails. -/
def RouteM.Keeps (view : RouteManager → β) (action : RouteM α) : Prop :=
  ∀ host, view (action.exec host).2.manager = view host.manager

section Rules

variable {view : RouteManager → β}

theorem RouteM.Keeps.bind {action : RouteM α} {next : α → RouteM γ}
    (first : action.Keeps view) (rest : ∀ value, (next value).Keeps view) :
    (action >>= next).Keeps view := by
  intro host
  have before := first host
  rw [exec_bind]
  cases result : action.exec host with
  | mk outcome later =>
      rw [result] at before
      cases outcome with
      | error error => exact before
      | ok value => exact (rest value later).trans before

theorem RouteM.Keeps.manager_eq {action : RouteM α}
    (keeps : action.Keeps id) {host after : Host}
    {outcome : Except RouteError α}
    (result : action.exec host = (outcome, after)) :
    after.manager = host.manager := by
  have same := keeps host
  rw [result] at same
  exact same

theorem keeps_pure (value : α) : (pure value : RouteM α).Keeps view := by
  intro host
  rfl

theorem keeps_throw (error : RouteError) :
    (throw error : RouteM α).Keeps view := by
  intro host
  rfl

theorem keeps_readManager : readManager.Keeps view := by
  intro host
  rfl

theorem keeps_updateManager {update : RouteManager → RouteManager}
    (kept : ∀ manager, view (update manager) = view manager) :
    (updateManager update).Keeps view := by
  intro host
  exact kept host.manager

theorem keeps_netlink (error : RouteError)
    (effect : KernelTable → Option KernelTable) :
    (netlink error effect).Keeps view := by
  intro host
  simp only [netlink, exec_ofFun]
  split
  · rfl
  · split <;> rfl

theorem RouteM.Keeps.withContext {action : RouteM Unit}
    (keeps : action.Keeps view) (wrap : RouteError → RouteError) :
    RouteM.Keeps view (Shell.withContext wrap action) := by
  intro host
  have before := keeps host
  simp only [Shell.withContext, exec_ofFun]
  split <;> simp_all

theorem RouteM.Keeps.quietly {action : RouteM Unit}
    (keeps : action.Keeps view) : RouteM.Keeps view (Shell.quietly action) := by
  intro host
  exact keeps host

theorem keeps_addViaGateway (dst : IpAddr) (prefixLen : Nat)
    (gateway : IpAddr) (oif : Nat) :
    (addViaGateway dst prefixLen gateway oif).Keeps view := by
  cases dst <;> cases gateway <;>
    first | exact keeps_netlink _ _ | exact keeps_throw _

theorem keeps_addBypassRoutes (entries : CidrList) :
    (addBypassRoutes entries).Keeps view := by
  induction entries with
  | nil => exact keeps_pure ()
  | cons entry entries induction =>
      obtain ⟨dst, prefixLen⟩ := entry
      refine RouteM.Keeps.bind ?_ (fun _ => induction)
      refine RouteM.Keeps.bind keeps_readManager ?_
      intro self
      cases self.gatewayFor dst with
      | none => exact keeps_pure ()
      | some pair => exact (keeps_addViaGateway _ _ _ _).withContext _

theorem keeps_delGatewayRoute (dst : IpAddr) (prefixLen : Nat) :
    (delGatewayRoute dst prefixLen).Keeps view := by
  refine RouteM.Keeps.bind keeps_readManager ?_
  intro self
  cases self.gatewayFor dst with
  | none => exact keeps_pure ()
  | some pair => exact (keeps_netlink _ _).quietly

theorem keeps_delBypassRoutes (entries : CidrList) :
    (delBypassRoutes entries).Keeps view := by
  induction entries with
  | nil => exact keeps_pure ()
  | cons entry entries induction =>
      exact (keeps_delGatewayRoute _ _).bind (fun _ => induction)

theorem keeps_addSplitRoutes (entries : CidrList) :
    (addSplitRoutes entries).Keeps view := by
  induction entries with
  | nil => exact keeps_pure ()
  | cons entry entries induction =>
      refine RouteM.Keeps.bind ?_ (fun _ => induction)
      exact keeps_readManager.bind (fun _ => keeps_netlink _ _)

theorem keeps_protectProxy : protectProxy.Keeps view := by
  refine RouteM.Keeps.bind keeps_readManager ?_
  intro self
  cases self.gatewayFor self.proxyIp with
  | none => exact keeps_throw _
  | some pair => exact (keeps_addViaGateway _ _ _ _).withContext _

theorem keeps_withDns
    {action : ResolvConf → Files → Except DnsError Unit × ResolvConf × Files}
    (kept : ∀ manager dns, view { manager with dns := dns } = view manager) :
    (withDns action).Keeps view := by
  intro host
  exact kept host.manager _

theorem keeps_readGateways
    (keptV4 : ∀ manager gateway,
      view { manager with v4Gateway := gateway } = view manager)
    (keptV6 : ∀ manager gateway,
      view { manager with v6Gateway := gateway } = view manager) :
    readGateways.Keeps view := by
  have reads : ∀ {γ : Type} (error : RouteError)
      (gatewayOf : KernelTable → Option γ),
      (readGateway error gatewayOf).Keeps view := by
    intro γ error gatewayOf
    exact (keeps_netlink _ _).bind (fun _ host => rfl)
  refine RouteM.Keeps.bind (reads _ _) ?_
  intro v4Gateway
  refine RouteM.Keeps.bind (keeps_updateManager (keptV4 · v4Gateway)) ?_
  intro _
  refine RouteM.Keeps.bind (reads _ _) ?_
  intro v6Gateway
  exact keeps_updateManager (keptV6 · v6Gateway)

end Rules

/-- The part of the record that is settled when a start is complete. -/
def RouteManager.settled (self : RouteManager) :
    Nat × Bool × Option (Ipv4Addr × Nat) × Option (Ipv6Addr × Nat) × Bool :=
  (self.tunIndex, self.captureIpv6, self.v4Gateway, self.v6Gateway,
    self.applied)

theorem keeps_reloadProxyRoute (plan : ReloadPlan) :
    (reloadProxyRoute plan).Keeps RouteManager.settled := by
  unfold reloadProxyRoute
  cases plan.proxyRouteChange with
  | none => exact keeps_pure ()
  | some pair =>
      obtain ⟨oldIp, newIp⟩ := pair
      refine (keeps_delGatewayRoute _ _).bind ?_
      intro _
      refine keeps_readManager.bind ?_
      intro self
      cases self.gatewayFor newIp with
      | none => exact keeps_throw _
      | some gateway =>
          refine ((keeps_addViaGateway _ _ _ _).withContext _).bind ?_
          intro _
          exact keeps_updateManager (fun _ => rfl)

theorem keeps_reloadDns (plan : ReloadPlan) :
    (reloadDns plan).Keeps RouteManager.settled := by
  unfold reloadDns
  cases plan.dnsChanged with
  | false => exact keeps_pure ()
  | true =>
      refine RouteM.Keeps.bind (keeps_withDns (fun _ _ => rfl)) ?_
      intro _
      exact keeps_updateManager (fun _ => rfl)

theorem keeps_reload (plan : ReloadPlan) :
    (RouteManager.reload plan).Keeps RouteManager.settled := by
  refine keeps_readManager.bind ?_
  intro self
  cases self.applied with
  | false => exact keeps_pure ()
  | true =>
      refine (keeps_reloadProxyRoute plan).bind ?_
      intro _
      refine (keeps_delBypassRoutes _).bind ?_
      intro _
      refine (keeps_addBypassRoutes _).bind ?_
      intro _
      refine RouteM.Keeps.bind (keeps_updateManager (fun _ => rfl)) ?_
      intro _
      exact keeps_reloadDns plan

/-- A start leaves the configured part of the record as it was. -/
theorem keeps_apply :
    RouteManager.apply.Keeps
      (fun self => (self.proxyIp, self.bypass, self.dnsServer)) := by
  refine RouteM.Keeps.bind (keeps_readGateways (fun _ _ => rfl)
    (fun _ _ => rfl)) ?_
  intro _
  refine keeps_protectProxy.bind ?_
  intro _
  refine keeps_readManager.bind ?_
  intro self
  refine (keeps_addBypassRoutes _).bind ?_
  intro _
  refine (keeps_addSplitRoutes _).bind ?_
  intro _
  refine (keeps_addSplitRoutes _).bind ?_
  intro _
  refine RouteM.Keeps.bind (keeps_withDns (fun _ _ => rfl)) ?_
  intro _
  exact keeps_updateManager (fun _ => rfl)

theorem applied_of_apply {host after : Host}
    (success : RouteManager.apply.exec host = (.ok (), after)) :
    after.manager.applied = true := by
  obtain ⟨_, _, _, afterGateways⟩ := exec_bind_eq_ok success
  obtain ⟨_, _, _, afterProxy⟩ := exec_bind_eq_ok afterGateways
  obtain ⟨_, _, _, afterRead⟩ := exec_bind_eq_ok afterProxy
  obtain ⟨_, _, _, afterBypass⟩ := exec_bind_eq_ok afterRead
  obtain ⟨_, _, _, afterV4⟩ := exec_bind_eq_ok afterBypass
  obtain ⟨_, _, _, afterV6⟩ := exec_bind_eq_ok afterV4
  obtain ⟨_, _, _, afterDns⟩ := exec_bind_eq_ok afterV6
  cases afterDns
  rfl

/-- A host route that moved successfully is on record. -/
theorem manager_of_reloadProxyRoute {host after : Host} {plan : ReloadPlan}
    (success : (reloadProxyRoute plan).exec host = (.ok (), after)) :
    after.manager =
      { host.manager with
        proxyIp := (host.manager.follow plan).proxyIp } := by
  unfold reloadProxyRoute at success
  unfold RouteManager.follow
  cases change : plan.proxyRouteChange with
  | none =>
      rw [change] at success
      cases success
      rfl
  | some pair =>
      obtain ⟨oldIp, newIp⟩ := pair
      rw [change] at success
      obtain ⟨_, deleted, deletion, afterDelete⟩ := exec_bind_eq_ok success
      obtain ⟨self, same, reading, afterRead⟩ := exec_bind_eq_ok afterDelete
      cases reading
      have sameManager : deleted.manager = host.manager :=
        (keeps_delGatewayRoute _ _).manager_eq deletion
      cases found : deleted.manager.gatewayFor newIp with
      | none =>
          simp only [found] at afterRead
          cases afterRead
      | some gateway =>
          simp only [found] at afterRead
          obtain ⟨_, added, addition, afterAdd⟩ := exec_bind_eq_ok afterRead
          have addedManager : added.manager = deleted.manager :=
            ((keeps_addViaGateway _ _ _ _).withContext _).manager_eq addition
          cases afterAdd
          rw [← sameManager, ← addedManager]

/-- Whatever the host, a reload that succeeds leaves the record of its
plan. -/
theorem manager_of_reload {host after : Host} {plan : ReloadPlan}
    (applied : host.manager.applied = true)
    (success : (RouteManager.reload plan).exec host = (.ok (), after)) :
    ∃ dns : ResolvConf,
      dns.current =
          (if plan.dnsChanged then plan.dns else host.manager.dns.current) ∧
        after.manager =
          { host.manager.follow plan with
            dns := dns
            dnsServer :=
              if plan.dnsChanged then plan.dns
              else host.manager.dnsServer } := by
  rw [RouteManager.reload, exec_bind_of_ok (exec_readManager host),
    if_pos applied] at success
  obtain ⟨_, moved, moving, afterMove⟩ := exec_bind_eq_ok success
  obtain ⟨_, removed, removal, afterRemove⟩ := exec_bind_eq_ok afterMove
  obtain ⟨_, added, addition, afterAdd⟩ := exec_bind_eq_ok afterRemove
  obtain ⟨_, updated, updating, afterUpdate⟩ := exec_bind_eq_ok afterAdd
  obtain ⟨dns, files, current, rfl⟩ := exec_reloadDns_eq_ok afterUpdate
  have removedManager : removed.manager = moved.manager :=
    (keeps_delBypassRoutes _).manager_eq removal
  have addedManager : added.manager = removed.manager :=
    (keeps_addBypassRoutes _).manager_eq addition
  cases updating
  simp only [addedManager, removedManager,
    manager_of_reloadProxyRoute moving] at current
  refine ⟨dns, current, ?_⟩
  simp only [addedManager, removedManager,
    manager_of_reloadProxyRoute moving]
  rfl

end Cortado.Linux
