import Cortado.HotReload
import Cortado.Linux.Teardown

/-!
# What teardown leaves behind

The controller's record covers every route it has added, as long as each part
of a reload carries out all of its requests or stops before it has added a
route; whether the name server can be changed makes no difference.  A reload
that fails halfway through its bypass entries breaks the record, because the
list of entries is not updated.
-/

namespace Cortado.Linux

open Net Shell Transition FaultStream

/-- If no request of it fails, teardown now leaves only routes that were in the
table before the start. -/
def TeardownClean (initial : KernelTable) (tunnel : Tunnel Host) : Prop :=
  ∀ key hop,
    (RouteManager.teardown.exec tunnel.controller.calm).2.kernel key =
        some hop →
      initial key = some hop

/-- Every route of the table was there before the start or is on record. -/
def Covered (initial : KernelTable) (host : Host) : Prop :=
  ∀ key hop, host.kernel key = some hop →
    initial key = some hop ∨ host.manager.Owns key hop

/-- Teardown is to come, and the record covers the table. -/
structure Accounted (initial : KernelTable) (host : Host) : Prop where
  applied : host.manager.applied = true
  covered : Covered initial host

theorem Accounted.teardownClean {initial : KernelTable}
    {tunnel : Tunnel Host} (accounted : Accounted initial tunnel.controller) :
    TeardownClean initial tunnel := by
  intro key hop left
  have applied : tunnel.controller.calm.manager.applied = true :=
    accounted.applied
  rw [exec_teardown_kernel tunnel.controller.calm_reliable applied] at left
  change tunnel.controller.manager.tornDown tunnel.controller.kernel key =
    some hop at left
  have present : tunnel.controller.kernel key = some hop := by
    rw [RouteManager.tornDown_apply] at left
    split at left
    · cases left
    · exact left
  rcases accounted.covered key hop present with before | owned
  · exact before
  · rw [RouteManager.tornDown_of_owns present owned] at left
    cases left

theorem accounted_of_start {boot : Boot} {cfg : ValidConfig}
    {tunnel : Tunnel Host} (started : boot.start cfg = .ok tunnel) :
    Accounted boot.kernel tunnel.controller := by
  have agree := copiesAgree_of_start started
  obtain ⟨kernel, dns, _, manager⟩ := Boot.start_installed started
  refine ⟨agree.applied, ?_⟩
  intro key hop present
  rw [kernel] at present
  rw [manager]
  by_cases touched : (boot.controller cfg).Touches key
  · obtain ⟨installedHop, installed, owned⟩ :=
      RouteManager.installed_of_touches touched boot.kernel
    rw [installed] at present
    cases present
    exact Or.inr owned
  · rw [RouteManager.installed_of_untouched touched] at present
    exact Or.inl present

/-! ## Reloads after which the record is complete -/

namespace RouteManager

/-- The number of requests for gateway routes at some keys. -/
def gatewayCount (self : RouteManager) (keys : List RouteKey) : Nat :=
  (self.gatewayRequests keys).length

/-- The proxy's new host route is not added. -/
def MoveStops (self : RouteManager) (faults : Nat → Bool)
    (oldIp newIp : IpAddr) : Prop :=
  self.gatewayFor newIp = none ∨
    faults (self.gatewayCount [hostKey oldIp]) = true

/-- The old host route is the one on record, or the new one is already, and
its deletion does not fail. -/
def MoveCounts (self : RouteManager) (faults : Nat → Bool)
    (oldIp newIp : IpAddr) : Prop :=
  Spared (self.gatewayCount [hostKey oldIp]) faults ∧
    (self.proxyIp = oldIp ∨ self.proxyIp = newIp)

/-- The first bypass entry is not added. -/
def BypassStops (self : RouteManager) (faults : Nat → Bool)
    (plan : ReloadPlan) : Prop :=
  self.gatewayCount (plan.bypassAdd.map RouteKey.ofEntry) ≠ 0 ∧
    faults (self.gatewayCount (plan.bypassRemove.map RouteKey.ofEntry)) = true

/-- The plan keeps or removes every entry on record, and no request for one
fails. -/
def BypassCounts (self : RouteManager) (faults : Nat → Bool)
    (plan : ReloadPlan) : Prop :=
  Spared (self.gatewayCount (plan.bypassRemove.map RouteKey.ofEntry) +
      self.gatewayCount (plan.bypassAdd.map RouteKey.ofEntry)) faults ∧
    ∀ entry ∈ self.bypass,
      entry ∈ plan.newBypass ∨ entry ∈ plan.bypassRemove

def BypassAccountable (self : RouteManager) (faults : Nat → Bool)
    (plan : ReloadPlan) : Prop :=
  self.BypassStops faults plan ∨ self.BypassCounts faults plan

/-- Each part of a reload stops before it has added a route, or its requests
do not fail and the plan knows what is on record. -/
def Accountable (self : RouteManager) (faults : Nat → Bool)
    (plan : ReloadPlan) : Prop :=
  match plan.proxyRouteChange with
  | none => self.BypassAccountable faults plan
  | some (oldIp, newIp) =>
      self.MoveStops faults oldIp newIp ∨
        (self.MoveCounts faults oldIp newIp ∧
          self.BypassAccountable
            (advance (self.gatewayCount [hostKey oldIp] + 1) faults) plan)

end RouteManager

/-- What a reload signal finds is such that the record stays complete. -/
def Accountable (tunnel : Tunnel Host) :
    Except LoadError ValidConfig → Prop
  | .error _ => True
  | .ok cfg =>
      let plan := ReloadPlan.compute tunnel.currentCfg cfg
      plan.isNoop = true ∨
        tunnel.controller.manager.Accountable
          tunnel.controller.netlinkFaults plan

section Decidability

variable (self : RouteManager) (faults : Nat → Bool) (plan : ReloadPlan)

instance (oldIp newIp : IpAddr) :
    Decidable (self.MoveStops faults oldIp newIp) :=
  inferInstanceAs (Decidable (_ ∨ _))

instance (oldIp newIp : IpAddr) :
    Decidable (self.MoveCounts faults oldIp newIp) :=
  inferInstanceAs (Decidable (_ ∧ _))

instance : Decidable (self.BypassStops faults plan) :=
  inferInstanceAs (Decidable (_ ∧ _))

instance : Decidable (self.BypassCounts faults plan) :=
  inferInstanceAs (Decidable (_ ∧ _))

instance : Decidable (self.BypassAccountable faults plan) :=
  inferInstanceAs (Decidable (_ ∨ _))

instance : Decidable (self.Accountable faults plan) :=
  match change : plan.proxyRouteChange with
  | none =>
      decidable_of_iff (self.BypassAccountable faults plan)
        (by rw [RouteManager.Accountable, change])
  | some (oldIp, newIp) =>
      decidable_of_iff
        (self.MoveStops faults oldIp newIp ∨
          (self.MoveCounts faults oldIp newIp ∧
            self.BypassAccountable
              (advance (self.gatewayCount [RouteManager.hostKey oldIp] + 1)
                faults) plan))
        (by rw [RouteManager.Accountable, change])

instance (tunnel : Tunnel Host) (loaded : Except LoadError ValidConfig) :
    Decidable (Accountable tunnel loaded) :=
  match loaded with
  | .error _ => inferInstanceAs (Decidable True)
  | .ok _ => inferInstanceAs (Decidable (_ ∨ _))

end Decidability

/-! ## Deletions that may fail -/

/-- The host after the deletion of gateway routes at some keys, of which some
may have failed. -/
structure Host.Deleted (host : Host) (keys : List RouteKey) (after : Host) :
    Prop where
  manager : after.manager = host.manager
  faults : after.netlinkFaults =
    advance (host.manager.gatewayCount keys) host.netlinkFaults
  shrinks : ∀ {key hop}, after.kernel key = some hop →
    host.kernel key = some hop
  deleted : Spared (host.manager.gatewayCount keys) host.netlinkFaults →
    ∀ {key hop}, key ∈ keys → host.manager.gatewayHop key = some hop →
      after.kernel key ≠ some hop

theorem RouteManager.gatewayCount_cons (self : RouteManager) (key : RouteKey)
    (keys : List RouteKey) :
    self.gatewayCount (key :: keys) =
      self.gatewayCount [key] + self.gatewayCount keys := by
  simp only [gatewayCount, gatewayRequests_cons]
  cases self.gatewayHop key with
  | none => exact (Nat.zero_add _).symm
  | some hop => exact Nat.add_comm _ _

theorem Host.Deleted.cons {host middle after : Host} {key : RouteKey}
    {keys : List RouteKey} (first : host.Deleted [key] middle)
    (rest : middle.Deleted keys after) : host.Deleted (key :: keys) after := by
  have count := host.manager.gatewayCount_cons key keys
  have sameManager := first.manager
  refine ⟨rest.manager.trans sameManager, ?_, ?_, ?_⟩
  · rw [rest.faults, first.faults, sameManager, count, advance_add]
  · intro other hop present
    exact first.shrinks (rest.shrinks present)
  · intro spared other hop member gateway present
    rw [count, spared_add] at spared
    rcases List.mem_cons.mp member with rfl | later
    · exact first.deleted spared.1 List.mem_cons_self gateway
        (rest.shrinks present)
    · rw [← first.faults, ← sameManager] at spared
      rw [← sameManager] at gateway
      exact rest.deleted spared.2 later gateway present

/-- A deletion that fails is no failure of the operation. -/
theorem delGatewayRoute_deletes (host : Host) (dst : IpAddr)
    (prefixLen : Nat) (failed : Host → Prop) :
    Ends (fun same => same = host) (delGatewayRoute dst prefixLen)
      (fun _ => host.Deleted [RouteKey.of dst prefixLen]) failed := by
  intro state same
  rw [same]
  have hops := host.manager.gatewayHop_of dst prefixLen
  rw [delGatewayRoute, exec_bind_of_ok (exec_readManager host)]
  cases found : host.manager.gatewayFor dst with
  | none =>
      rw [found, Option.map_none] at hops
      have count : host.manager.gatewayCount [RouteKey.of dst prefixLen] =
          0 := by
        simp [RouteManager.gatewayCount, RouteManager.gatewayRequests, hops]
      refine ⟨rfl, by rw [count]; rfl, id, ?_⟩
      intro _ key hop member gateway
      rw [List.mem_singleton.mp member, hops] at gateway
      cases gateway
  | some pair =>
      obtain ⟨gateway, oif⟩ := pair
      rw [found, Option.map_some] at hops
      have count : host.manager.gatewayCount [RouteKey.of dst prefixLen] =
          1 := by
        simp [RouteManager.gatewayCount, RouteManager.gatewayRequests, hops]
      have hits := hits_gateway_iff host.kernel (RouteKey.of dst prefixLen)
        oif gateway
      simp only [quietly, exec_ofFun, delRoute, netlink]
      split
      · rename_i fault
        refine ⟨rfl, by rw [count]; rfl, id, ?_⟩
        intro spared
        rw [count, spared_one, fault] at spared
        cases spared
      · by_cases hit : host.kernel.hits (RouteKey.of dst prefixLen) oif
            (some gateway) = true
        · rw [if_pos hit]
          refine ⟨rfl, by rw [count]; rfl, ?_, ?_⟩
          · intro key hop present
            by_cases here : key = RouteKey.of dst prefixLen
            · simp [KernelTable.delete, here] at present
            · simpa [KernelTable.delete, here] using present
          · intro _ key hop member _
            simp [KernelTable.delete, List.mem_singleton.mp member]
        · rw [if_neg hit]
          refine ⟨rfl, by rw [count]; rfl, id, ?_⟩
          intro _ key hop member isHop present
          rw [List.mem_singleton.mp member] at isHop present
          rw [hops] at isHop
          cases isHop
          exact hit (hits.mpr present)

theorem delBypassRoutes_deletes (host : Host) (entries : CidrList)
    (failed : Host → Prop) :
    Ends (fun same => same = host) (delBypassRoutes entries)
      (fun _ => host.Deleted (entries.map RouteKey.ofEntry)) failed := by
  induction entries generalizing host with
  | nil =>
      rintro _ rfl
      exact ⟨rfl, rfl, id, fun _ _ _ member => nomatch member⟩
  | cons entry entries induction =>
      obtain ⟨dst, prefixLen⟩ := entry
      apply Ends.bind (delGatewayRoute_deletes host dst prefixLen failed)
      intro _ middle first
      exact (induction middle).mono (fun _ same => same)
        (fun _ _ rest => first.cons rest) (fun _ stopped => stopped) middle rfl

/-! ## What a reload does to the record and the table -/

section Reload

variable {initial : KernelTable} {host after : Host} {plan : ReloadPlan}

theorem Covered.shrink (covered : Covered initial host)
    (manager : after.manager = host.manager)
    (shrinks : ∀ {key hop}, after.kernel key = some hop →
      host.kernel key = some hop) : Covered initial after := by
  intro key hop present
  rw [manager]
  exact covered key hop (shrinks present)

/-- Where additions lead that leave the record alone. -/
theorem RouteM.Reaches.ends {action : RouteM Unit}
    {requests : List (Option Addition)}
    (reached : action.Reaches host requests (pure ()) after)
    (keeps : action.Keeps id) :
    Ends (fun same => same = host) action
      (fun _ final => final = after ∧
        Spared requests.length host.netlinkFaults)
      (fun stopped => stopped.manager = host.manager ∧
        stopped.kernel =
          host.kernel.addAll (granted host.netlinkFaults requests) ∧
        ¬Spared requests.length host.netlinkFaults) := by
  intro state same
  rw [same]
  by_cases spared : Spared requests.length host.netlinkFaults
  · rw [reached.onGranted spared]
    exact ⟨rfl, spared⟩
  · obtain ⟨error, stopped, failed, kernel, _⟩ := reached.onFault spared
    rw [failed]
    exact ⟨keeps.manager_eq failed, kernel, spared⟩

/-- Additions of which the first one fails. -/
theorem kernel_of_firstFault {requests : List (Option Addition)}
    (fault : host.netlinkFaults 0 = true) :
    host.kernel.addAll (granted host.netlinkFaults requests) =
      host.kernel := by
  cases requests with
  | nil => rfl
  | cons request requests =>
      rw [granted, if_pos fault]
      rfl

/-- The record changes from some keys to others, and the table with it. -/
theorem Covered.replaced {removed added : List RouteKey} {middle : Host}
    {proxyIp : IpAddr} {bypass : CidrList} (covered : Covered initial host)
    (deleted : host.Deleted removed middle)
    (spared : Spared (host.manager.gatewayCount removed) host.netlinkFaults)
    (manager : after.manager =
      { middle.manager with proxyIp := proxyIp, bypass := bypass })
    (kernel : after.kernel =
      middle.kernel.addAll (middle.manager.gatewayRequests added))
    (taken : ∀ key ∈ added, key ∈ after.manager.gatewayKeys)
    (kept : ∀ key ∈ host.manager.gatewayKeys,
      key ∈ after.manager.gatewayKeys ∨ key ∈ removed) :
    Covered initial after := by
  rw [deleted.manager] at manager kernel
  have hops : after.manager.gatewayHop = host.manager.gatewayHop := by
    rw [manager]
    rfl
  intro key hop present
  rw [kernel, addAll_gatewayRequests, KeyedTable.install_apply] at present
  split at present
  · rename_i isAdded
    exact Or.inr (Or.inl ⟨taken key isAdded.1, hops ▸ present⟩)
  · rcases covered key hop (deleted.shrinks present) with
      before | ⟨member, gateway⟩ | tunnelled
    · exact Or.inl before
    · rcases kept key member with isKept | isRemoved
      · exact Or.inr (Or.inl ⟨isKept, hops ▸ gateway⟩)
      · exact absurd present (deleted.deleted spared isRemoved gateway)
    · rw [manager]
      exact Or.inr (Or.inr tunnelled)

theorem moveProxyRoute_covers {oldIp newIp : IpAddr}
    (covered : Covered initial host)
    (change : plan.proxyRouteChange = some (oldIp, newIp))
    (accountable : host.manager.Accountable host.netlinkFaults plan) :
    Ends (fun same => same = host) (moveProxyRoute oldIp newIp)
      (fun _ after => Covered initial after ∧
        after.manager.BypassAccountable after.netlinkFaults plan)
      (Covered initial) := by
  apply Ends.bind (delGatewayRoute_deletes host oldIp (hostPrefix oldIp) _)
  intro _ middle deletion
  have deleted : host.Deleted [RouteManager.hostKey oldIp] middle := deletion
  have shrunk : Covered initial middle :=
    covered.shrink deleted.manager deleted.shrinks
  rw [exec_bind_of_ok (exec_readManager middle)]
  cases found : middle.manager.gatewayFor newIp with
  | none => exact shrunk
  | some pair =>
      obtain ⟨gateway, oif⟩ := pair
      have adds := ((reaches_addViaGateway middle (hostPrefix newIp)
        found).withContext .newProxyRoute).ends
          ((keeps_addViaGateway _ _ _ _).withContext _)
      have one : (middle.manager.gatewayRequests
          [RouteKey.of newIp (hostPrefix newIp)]).length = 1 := by
        simp [RouteManager.gatewayRequests, RouteManager.gatewayHop_of, found]
      rw [one, spared_one] at adds
      refine Ends.bind (adds.mono (fun _ same => same)
        (fun _ _ ok => ok) ?_) ?_ middle rfl
      · rintro stopped ⟨manager, kernel, fault⟩
        rw [kernel_of_firstFault (Bool.not_eq_false _ ▸ fault)] at kernel
        exact shrunk.shrink manager fun present => kernel ▸ present
      · rintro _ added ⟨rfl, granted⟩
        have first : host.netlinkFaults (host.manager.gatewayCount
            [RouteManager.hostKey oldIp]) = false := by
          rw [deleted.faults, advance, Nat.zero_add] at granted
          exact granted
        rw [deleted.manager] at found
        unfold RouteManager.Accountable at accountable
        rw [change] at accountable
        rcases accountable with (missing | fault) | ⟨counts, bypass⟩
        · rw [found] at missing
          cases missing
        · rw [first] at fault
          cases fault
        · refine ⟨covered.replaced deleted counts.1 rfl rfl ?_ ?_, ?_⟩
          · intro key member
            exact List.mem_cons.mpr (Or.inl (List.mem_singleton.mp member))
          · intro key member
            rcases List.mem_cons.mp member with isProxy | isBypass
            · rcases counts.2 with isOld | isNew
              · exact Or.inr (List.mem_singleton.mpr (isOld ▸ isProxy))
              · exact Or.inl (List.mem_cons.mpr (Or.inl (isNew ▸ isProxy)))
            · rw [← deleted.manager] at isBypass
              exact Or.inl (List.mem_cons.mpr (Or.inr isBypass))
          · rw [advance_add, ← deleted.faults, ← deleted.manager] at bypass
            change RouteManager.BypassAccountable _ (advance _ _) plan
            rw [one]
            exact bypass

theorem reloadProxyRoute_covers (covered : Covered initial host)
    (accountable : host.manager.Accountable host.netlinkFaults plan) :
    Ends (fun same => same = host) (reloadProxyRoute plan)
      (fun _ after => Covered initial after ∧
        after.manager.BypassAccountable after.netlinkFaults plan)
      (Covered initial) := by
  unfold reloadProxyRoute
  cases change : plan.proxyRouteChange with
  | some pair => exact moveProxyRoute_covers covered change accountable
  | none =>
      unfold RouteManager.Accountable at accountable
      rw [change] at accountable
      rintro _ rfl
      exact ⟨covered, accountable⟩

/-- The entries to remove have been deleted, and those to add follow. -/
theorem addBypassRoutes_covers {middle : Host}
    (covered : Covered initial host)
    (listed : ∀ entry ∈ plan.bypassAdd, entry ∈ plan.newBypass)
    (accountable : host.manager.BypassAccountable host.netlinkFaults plan)
    (deleted : host.Deleted (plan.bypassRemove.map RouteKey.ofEntry) middle) :
    Ends (fun same => same = middle) (addBypassRoutes plan.bypassAdd)
      (fun _ after => Covered initial
        { after with
          manager := { after.manager with bypass := plan.newBypass } })
      (Covered initial) := by
  have shrunk : Covered initial middle :=
    covered.shrink deleted.manager deleted.shrinks
  have faults : ∀ index, middle.netlinkFaults index = host.netlinkFaults
      (index + host.manager.gatewayCount
        (plan.bypassRemove.map RouteKey.ofEntry)) := by
    intro index
    rw [deleted.faults]
    rfl
  refine ((reaches_addBypassRoutes middle plan.bypassAdd).ends
    (keeps_addBypassRoutes _)).mono (fun _ same => same) ?_ ?_
  · rintro _ after ⟨rfl, spared⟩
    rcases accountable with ⟨nonempty, fault⟩ | counts
    · rw [← deleted.manager] at nonempty
      have granted := spared 0 (Nat.pos_of_ne_zero nonempty)
      rw [faults, Nat.zero_add, fault] at granted
      cases granted
    · refine covered.replaced deleted ((spared_add _ _ _).mp counts.1).1
        rfl rfl ?_ ?_
      · intro key member
        obtain ⟨entry, isAdded, sameKey⟩ := List.mem_map.mp member
        exact List.mem_cons.mpr (Or.inr (List.mem_map.mpr
          ⟨entry, listed entry isAdded, sameKey⟩))
      · intro key member
        rcases List.mem_cons.mp member with isProxy | isBypass
        · rw [← deleted.manager] at isProxy
          exact Or.inl (List.mem_cons.mpr (Or.inl isProxy))
        · obtain ⟨entry, onRecord, sameKey⟩ := List.mem_map.mp isBypass
          rcases counts.2 entry onRecord with isKept | isRemoved
          · exact Or.inl (List.mem_cons.mpr (Or.inr (List.mem_map.mpr
              ⟨entry, isKept, sameKey⟩)))
          · exact Or.inr (List.mem_map.mpr ⟨entry, isRemoved, sameKey⟩)
  · rintro stopped ⟨manager, kernel, fault⟩
    rcases accountable with ⟨_, first⟩ | counts
    · have atOnce : middle.netlinkFaults 0 = true := by
        rw [faults, Nat.zero_add, first]
      rw [kernel_of_firstFault atOnce] at kernel
      exact shrunk.shrink manager fun present => kernel ▸ present
    · have spared := ((spared_add _ _ _).mp counts.1).2
      rw [← deleted.faults, ← deleted.manager] at spared
      exact absurd spared fault

theorem reloadDns_covers (initial : KernelTable) (plan : ReloadPlan) :
    Ends (Covered initial) (reloadDns plan) (fun _ => Covered initial)
      (Covered initial) := by
  intro host covered
  unfold reloadDns
  cases plan.dnsChanged with
  | false => exact covered
  | true =>
      rw [if_pos rfl, exec_bind, withDns, exec_ofFun]
      rcases host.manager.dns.reload host.files plan.dns with
        ⟨_ | _, dns, files⟩
      · exact covered
      · exact covered

/-- Whether it succeeds or fails, the reload leaves the table covered. -/
theorem reload_covers (accounted : Accounted initial host)
    (listed : ∀ entry ∈ plan.bypassAdd, entry ∈ plan.newBypass)
    (accountable : host.manager.Accountable host.netlinkFaults plan) :
    Ends (fun same => same = host) (RouteManager.reload plan)
      (fun _ => Covered initial) (Covered initial) := by
  intro state same
  rw [same, RouteManager.reload, exec_bind_of_ok (exec_readManager host),
    if_pos accounted.applied]
  refine Ends.bind (reloadProxyRoute_covers accounted.covered accountable) ?_
    host rfl
  rintro _ moved ⟨covered, bypass⟩
  refine Ends.bind (delBypassRoutes_deletes moved _ _) ?_ moved rfl
  intro _ middle deleted
  refine Ends.bind (addBypassRoutes_covers covered listed bypass deleted) ?_
    middle rfl
  intro _ after relisted
  rw [exec_bind_of_ok (exec_updateManager _ after)]
  exact reloadDns_covers initial plan _ relisted

theorem Accounted.of_reload {outcome : Except RouteError Unit}
    (accounted : Accounted initial host)
    (listed : ∀ entry ∈ plan.bypassAdd, entry ∈ plan.newBypass)
    (accountable : host.manager.Accountable host.netlinkFaults plan)
    (result : (RouteManager.reload plan).exec host = (outcome, after)) :
    Accounted initial after := by
  have covers := reload_covers accounted listed accountable
  have settled := keeps_reload plan host
  rw [result] at settled
  have applied : after.manager.applied = host.manager.applied :=
    congrArg (fun part => part.2.2.2.2) settled
  refine ⟨applied.trans accounted.applied, ?_⟩
  cases outcome with
  | ok value => exact covers.of_ok rfl result
  | error error => exact covers.of_error rfl result

theorem Accounted.step {tunnel next : Tunnel Host}
    {loaded : Except LoadError ValidConfig}
    (accounted : Accounted initial tunnel.controller)
    (stepped : Tunnel.signalStep tunnel loaded = some next)
    (accountable : Accountable tunnel loaded) :
    Accounted initial next.controller := by
  cases stepped
  cases loaded with
  | error error => exact accounted
  | ok cfg =>
      have listed : ∀ entry ∈
          (ReloadPlan.compute tunnel.currentCfg cfg).bypassAdd,
          entry ∈ (ReloadPlan.compute tunnel.currentCfg cfg).newBypass := by
        intro entry member
        exact (ReloadPlan.mem_bypassAdd.mp member).1
      rcases accountable with noop | met
      · simp only [Tunnel.applyReload]
        rw [if_pos noop]
        exact accounted
      · rcases tunnel.applyReload_cases cfg with
          ⟨_, _, result⟩ | ⟨error, controller, failed, _, result⟩ |
          ⟨controller, reloaded, _, result⟩
        · rw [result]
          exact accounted
        · rw [result]
          exact accounted.of_reload listed met failed
        · rw [result]
          exact accounted.of_reload listed met reloaded

end Reload

/-- Through any reloads that keep the record complete, teardown leaves no route
that was not there before the start. -/
theorem teardown_leaves_nothing (boot : Boot) (cfg : ValidConfig)
    {tunnel : Tunnel Host} (started : boot.start cfg = .ok tunnel)
    (signals : List (Except LoadError ValidConfig))
    (accountable : EveryStep Tunnel.signalStep Accountable tunnel signals) :
    Always Tunnel.signalStep (TeardownClean boot.kernel) tunnel signals := by
  have kept : ∀ (tunnel : Tunnel Host) loaded next,
      Accounted boot.kernel tunnel.controller →
        Tunnel.signalStep tunnel loaded = some next →
          Accountable tunnel loaded → Accounted boot.kernel next.controller := by
    intro tunnel loaded next accounted stepped met
    exact accounted.step stepped met
  have always := EveryStep.always kept (accounted_of_start started) accountable
  exact always.mono fun _ accounted => accounted.teardownClean

/-- A host on which the second write of `resolv.conf` fails, with the file cut
short. -/
def cutWriteBoot : Boot :=
  { v4OnlyBoot with
    files :=
      { v4OnlyBoot.files with
        faults := fun index => if index = 3 then some (.cut 4) else none } }

/-- Another name server, and a bypass entry. -/
def redirectedConfig : ValidConfig :=
  ⟨{ proxyAddr := "203.0.113.9:1080"
     dnsServer := "9.9.9.9"
     bypassCidrs := ["10.0.0.0/8"] }, by decide⟩

/-- Another proxy, and the same bypass entry. -/
def movedBypassConfig : ValidConfig :=
  ⟨{ proxyAddr := "203.0.113.10:1080"
     bypassCidrs := ["10.0.0.0/8"] }, by decide⟩

/-- A reload that fails in its last step, a file that cannot be loaded, and a
reload that moves the proxy's route. -/
theorem teardown_leaves_nothing_redirected :
    ∃ tunnel, cutWriteBoot.start v4ProxyConfig = .ok tunnel ∧
      (tunnel.applyReload (.ok redirectedConfig)).1.outcome =
        .failed (.dns .write) ∧
      Always Tunnel.signalStep (TeardownClean cutWriteBoot.kernel) tunnel
        [.ok redirectedConfig, .error .missing, .ok movedBypassConfig] := by
  have computed : (cutWriteBoot.start v4ProxyConfig).toOption.bind
      (fun tunnel =>
        some
          ((tunnel.applyReload (.ok redirectedConfig)).1.outcome,
            decide (EveryStep Tunnel.signalStep Accountable tunnel
              [.ok redirectedConfig, .error .missing,
                .ok movedBypassConfig]))) =
      some (.failed (.dns .write), true) := by
    decide +kernel
  obtain ⟨tunnel, started, observed⟩ := Boot.start_of_observed computed
  simp only [Option.some.injEq, Prod.mk.injEq, decide_eq_true_eq] at observed
  obtain ⟨outcome, accountable⟩ := observed
  exact ⟨tunnel, started, outcome,
    teardown_leaves_nothing cutWriteBoot v4ProxyConfig started _ accountable⟩

/-- The reload fails at its second addition; the first one is not on record,
and teardown leaves it. -/
theorem teardown_misses_failed_reload :
    ∃ tunnel, (faultyBoot 6).start v4ProxyConfig = .ok tunnel ∧
      ¬Always Tunnel.signalStep (TeardownClean (faultyBoot 6).kernel) tunnel
        [.ok twoBypassConfig] := by
  have computed : ((faultyBoot 6).start v4ProxyConfig).toOption.bind
      (fun tunnel =>
        (RouteManager.teardown.exec
          (tunnel.applyReload (.ok twoBypassConfig)).2.controller.calm).2.kernel
            (RouteKey.of (.v4 (.ofOctets 10 0 0 0)) 8)) =
      some
        { gateway := some (.v4 (.ofOctets 192 168 1 1))
          oif := some 2 } := by
    decide +kernel
  have absent : (faultyBoot 6).kernel
      (RouteKey.of (.v4 (.ofOctets 10 0 0 0)) 8) = none := by
    decide +kernel
  obtain ⟨tunnel, started, left⟩ := Boot.start_of_observed computed
  refine ⟨tunnel, started, ?_⟩
  intro always
  have present := (always.2 _ rfl) _ _ left
  rw [absent] at present
  cases present

end Cortado.Linux
