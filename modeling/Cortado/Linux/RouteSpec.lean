import Cortado.Linux.RouteManager

/-!
# What the controller does to the kernel table

When no netlink request fails, each loop of the controller is an `install` or
`uninstall` of keys under the assignment that gives a key the gateway of its
family.  The lemmas below state that for every operation, so that results
about the controller never unfold its code again.
-/

namespace Cortado.Linux

open Net KeyedTable Shell

@[simp] theorem exec_readManager (host : Host) :
    readManager.exec host = (.ok host.manager, host) := rfl

@[simp] theorem exec_updateManager (update : RouteManager → RouteManager)
    (host : Host) :
    (updateManager update).exec host =
      (.ok (), { host with manager := update host.manager }) := rfl

/-- No netlink request fails. -/
def Host.Reliable (host : Host) : Prop :=
  host.netlinkFaults = fun _ => false

/-- The host with another routing table. -/
def Host.withKernel (host : Host) (kernel : KernelTable) : Host :=
  { host with kernel := kernel }

section WithKernel

variable (host : Host) (kernel later : KernelTable)

@[simp] theorem Host.withKernel_kernel :
    (host.withKernel kernel).kernel = kernel := rfl

@[simp] theorem Host.withKernel_manager :
    (host.withKernel kernel).manager = host.manager := rfl

@[simp] theorem Host.withKernel_withKernel :
    (host.withKernel kernel).withKernel later = host.withKernel later := rfl

theorem Host.Reliable.withKernel {host : Host} (reliable : host.Reliable)
    (kernel : KernelTable) : (host.withKernel kernel).Reliable := reliable

end WithKernel

/-- On a reliable host only the kernel can refuse a request. -/
theorem exec_netlink_of_reliable {host : Host} (reliable : host.Reliable)
    (error : RouteError) (effect : KernelTable → Option KernelTable) :
    (netlink error effect).exec host =
      match effect host.kernel with
      | some kernel => (.ok (), host.withKernel kernel)
      | none => (.error error, host) := by
  obtain ⟨self, kernel, faults, files⟩ := host
  simp only [Host.Reliable] at reliable
  subst reliable
  simp only [netlink, exec_ofFun, Bool.false_eq_true, if_false]
  cases effect kernel <;> rfl

namespace RouteManager

/-- The next hop of gateway routes with the key's family. -/
def gatewayHop (self : RouteManager) (key : RouteKey) : Option NextHop :=
  (self.gatewayFor key.dst).map fun (gateway, oif) =>
    { gateway := some gateway, oif := some oif }

def tunHop (self : RouteManager) : NextHop :=
  { gateway := none, oif := some self.tunIndex }

theorem gatewayFor_mask (self : RouteManager) (addr : IpAddr)
    (prefixLen : Nat) :
    self.gatewayFor (addr.mask prefixLen) = self.gatewayFor addr := by
  cases addr <;> rfl

theorem gatewayHop_of (self : RouteManager) (addr : IpAddr)
    (prefixLen : Nat) :
    self.gatewayHop (RouteKey.of addr prefixLen) =
      (self.gatewayFor addr).map fun (gateway, oif) =>
        { gateway := some gateway, oif := some oif } := by
  simp [gatewayHop, RouteKey.of, gatewayFor_mask]

theorem gatewayHop_ne_tunHop (self : RouteManager) (key : RouteKey) :
    self.gatewayHop key ≠ some self.tunHop := by
  unfold gatewayHop
  cases self.gatewayFor key.dst <;> simp [tunHop]

end RouteManager

section Reliable

variable {host : Host}

theorem exec_addViaGateway (reliable : host.Reliable) {dst gateway : IpAddr}
    {oif : Nat} (prefixLen : Nat)
    (found : host.manager.gatewayFor dst = some (gateway, oif)) :
    (addViaGateway dst prefixLen gateway oif).exec host =
      (.ok (), host.withKernel
        (install host.manager.gatewayHop host.kernel
          [RouteKey.of dst prefixLen])) := by
  have hop : host.manager.gatewayHop (RouteKey.of dst prefixLen) =
      some { gateway := some gateway, oif := some oif } := by
    simp [RouteManager.gatewayHop_of, found]
  cases dst with
  | v4 dst =>
      obtain ⟨⟨found, _⟩, _, equal⟩ := Option.map_eq_some_iff.mp found
      cases equal
      simp [addViaGateway, exec_netlink_of_reliable reliable, install, hop,
        KernelTable.add]
  | v6 dst =>
      obtain ⟨⟨found, _⟩, _, equal⟩ := Option.map_eq_some_iff.mp found
      cases equal
      simp [addViaGateway, exec_netlink_of_reliable reliable, install, hop,
        KernelTable.add]

theorem exec_addBypassRoute (reliable : host.Reliable) (dst : IpAddr)
    (prefixLen : Nat) :
    (addBypassRoute dst prefixLen).exec host =
      (.ok (), host.withKernel
        (install host.manager.gatewayHop host.kernel
          [RouteKey.of dst prefixLen])) := by
  have hop := host.manager.gatewayHop_of dst prefixLen
  rw [addBypassRoute, exec_bind_of_ok (exec_readManager host)]
  cases found : host.manager.gatewayFor dst with
  | none =>
      simp only [found, Option.map_none] at hop
      simp [install, hop, Host.withKernel]
  | some hopPair =>
      obtain ⟨gateway, oif⟩ := hopPair
      exact exec_withContext_ok (exec_addViaGateway reliable prefixLen found)

theorem exec_addBypassRoutes (reliable : host.Reliable) (entries : CidrList) :
    (addBypassRoutes entries).exec host =
      (.ok (), host.withKernel
        (install host.manager.gatewayHop host.kernel
          (entries.map RouteKey.ofEntry))) := by
  induction entries generalizing host with
  | nil => rfl
  | cons entry entries induction =>
      obtain ⟨dst, prefixLen⟩ := entry
      rw [addBypassRoutes,
        exec_bind_of_ok (exec_addBypassRoute reliable dst prefixLen),
        induction (reliable.withKernel _)]
      simp only [install, List.map_cons, RouteKey.ofEntry,
        Host.withKernel_manager, Host.withKernel_kernel,
        Host.withKernel_withKernel]
      cases host.manager.gatewayHop (RouteKey.of dst prefixLen) <;> rfl

/-- A gateway route is deleted exactly when its next hop is the gateway. -/
theorem hits_gateway_iff (table : KernelTable) (key : RouteKey) (oif : Nat)
    (gateway : IpAddr) :
    table.hits key oif (some gateway) = true ↔
      table key = some { gateway := some gateway, oif := some oif } := by
  unfold KernelTable.hits NextHop.matchesRequest
  cases table key with
  | none => simp
  | some hop =>
      obtain ⟨hopGateway, hopOif⟩ := hop
      simp only [Option.any_some, Option.isNone_some, Bool.false_or,
        Bool.and_eq_true, beq_iff_eq, Option.some.injEq, NextHop.mk.injEq]
      exact And.comm

theorem exec_delGatewayRoute (reliable : host.Reliable) (dst : IpAddr)
    (prefixLen : Nat) :
    (delGatewayRoute dst prefixLen).exec host =
      (.ok (), host.withKernel
        (uninstall host.manager.gatewayHop host.kernel
          [RouteKey.of dst prefixLen])) := by
  have hop := host.manager.gatewayHop_of dst prefixLen
  rw [delGatewayRoute, exec_bind_of_ok (exec_readManager host)]
  cases found : host.manager.gatewayFor dst with
  | none =>
      simp only [found, Option.map_none] at hop
      simp [uninstall, hop, Host.withKernel]
  | some hopPair =>
      obtain ⟨gateway, oif⟩ := hopPair
      simp only [found, Option.map_some] at hop
      simp only [quietly, exec_ofFun, delRoute,
        exec_netlink_of_reliable reliable, uninstall, hop]
      by_cases held : host.kernel (RouteKey.of dst prefixLen) =
          some { gateway := some gateway, oif := some oif }
      · have hit := (hits_gateway_iff _ _ oif gateway).mpr held
        simp [hit, held, KernelTable.delete]
      · have missed := mt (hits_gateway_iff _ _ oif gateway).mp held
        simp [missed, held, Host.withKernel]

theorem exec_delBypassRoutes (reliable : host.Reliable) (entries : CidrList) :
    (delBypassRoutes entries).exec host =
      (.ok (), host.withKernel
        (uninstall host.manager.gatewayHop host.kernel
          (entries.map RouteKey.ofEntry))) := by
  induction entries generalizing host with
  | nil => rfl
  | cons entry entries induction =>
      obtain ⟨dst, prefixLen⟩ := entry
      rw [delBypassRoutes,
        exec_bind_of_ok (exec_delGatewayRoute reliable dst prefixLen),
        induction (reliable.withKernel _)]
      simp only [uninstall, List.map_cons, RouteKey.ofEntry,
        Host.withKernel_manager, Host.withKernel_kernel,
        Host.withKernel_withKernel]
      cases host.manager.gatewayHop (RouteKey.of dst prefixLen) <;> rfl

theorem exec_addSplitRoutes (reliable : host.Reliable) (entries : CidrList) :
    (addSplitRoutes entries).exec host =
      (.ok (), host.withKernel
        (install (fun _ => some host.manager.tunHop) host.kernel
          (entries.map RouteKey.ofEntry))) := by
  induction entries generalizing host with
  | nil => rfl
  | cons entry entries induction =>
      obtain ⟨dst, prefixLen⟩ := entry
      have added : (addViaTun dst prefixLen).exec host =
          (.ok (), host.withKernel
            (host.kernel.add (RouteKey.of dst prefixLen)
              host.manager.tunHop)) := by
        rw [addViaTun, exec_bind_of_ok (exec_readManager host),
          exec_netlink_of_reliable reliable]
        rfl
      rw [addSplitRoutes, exec_bind_of_ok added,
        induction (reliable.withKernel _)]
      rfl

end Reliable

/-! ## Whole operations -/

namespace RouteManager

/-- The gateways read from a table. -/
def withGateways (self : RouteManager) (table : KernelTable) : RouteManager :=
  { self with
    v4Gateway := v4GatewayOf table
    v6Gateway := v6GatewayOf table }

/-- The key of an address's host route. -/
def hostKey (addr : IpAddr) : RouteKey :=
  RouteKey.of addr (hostPrefix addr)

/-- Keys the controller routes through a gateway. -/
def gatewayKeys (self : RouteManager) : List RouteKey :=
  hostKey self.proxyIp :: self.bypass.map RouteKey.ofEntry

/-- Keys the controller routes into the tunnel. -/
def splitKeys (self : RouteManager) : List RouteKey :=
  (v4Split ++ if self.capturesV6 then v6Split else []).map RouteKey.ofEntry

end RouteManager

theorem hostPrefix_eq_width (addr : IpAddr) : hostPrefix addr = addr.width := by
  cases addr <;> rfl

/-- Only the entry of the address itself shares the key of its host route. -/
theorem RouteKey.ofEntry_eq_hostKey_iff (entry : IpAddr × Nat)
    (addr : IpAddr) :
    RouteKey.ofEntry entry = RouteManager.hostKey addr ↔
      entry = (addr, hostPrefix addr) := by
  obtain ⟨dst, prefixLen⟩ := entry
  constructor
  · intro sameKey
    simp only [RouteKey.ofEntry, RouteManager.hostKey, hostPrefix_eq_width,
      RouteKey.of_width] at sameKey
    simp only [RouteKey.of, RouteKey.mk.injEq] at sameKey
    obtain ⟨sameDst, samePrefix⟩ := sameKey
    subst samePrefix
    have sameWidth : dst.width = addr.width := by
      rw [← sameDst, IpAddr.width_mask]
    rw [← sameWidth, dst.mask_width] at sameDst
    simp [hostPrefix_eq_width, sameDst]
  · intro equal
    rw [equal]
    rfl

theorem RouteManager.hostKey_inj {left right : IpAddr}
    (sameKey : hostKey left = hostKey right) : left = right := by
  have sameEntry :=
    (RouteKey.ofEntry_eq_hostKey_iff (left, hostPrefix left) right).mp sameKey
  exact (Prod.mk.inj sameEntry).1

theorem RouteKey.hostKey_mem_map {entries : CidrList} {addr : IpAddr} :
    RouteManager.hostKey addr ∈ entries.map RouteKey.ofEntry ↔
      (addr, hostPrefix addr) ∈ entries := by
  simp only [List.mem_map, RouteKey.ofEntry_eq_hostKey_iff]
  constructor
  · intro found
    obtain ⟨entry, member, rfl⟩ := found
    exact member
  · intro member
    exact ⟨_, member, rfl⟩

namespace RouteManager

/-- Split routes are one bit long. -/
theorem length_of_mem_splits {entry : IpAddr × Nat} {captured : Bool}
    (member : entry ∈ v4Split ++ if captured then v6Split else []) :
    entry.2 = 1 := by
  cases captured <;> simp [v4Split, v6Split] at member
  · rcases member with rfl | rfl <;> rfl
  · rcases member with rfl | rfl | rfl | rfl <;> rfl

theorem hostKey_not_mem_splitKeys (self : RouteManager)
    (addr : IpAddr) : hostKey addr ∉ self.splitKeys := by
  intro member
  have short : hostPrefix addr = 1 :=
    length_of_mem_splits (RouteKey.hostKey_mem_map.mp member)
  cases addr <;> simp [hostPrefix, IpAddr.isIpv4] at short

/-- The table a start leads to: gateway routes first, split routes over
them. -/
def installed (self : RouteManager) (initial : KernelTable) : KernelTable :=
  install (fun _ => some self.tunHop)
    (install self.gatewayHop initial self.gatewayKeys) self.splitKeys

/-- The table after the proxy's host route has moved. -/
def moved (self : RouteManager) (plan : ReloadPlan) (table : KernelTable) :
    KernelTable :=
  match plan.proxyRouteChange with
  | some (oldIp, newIp) =>
      install self.gatewayHop
        (uninstall self.gatewayHop table [hostKey oldIp]) [hostKey newIp]
  | none => table

/-- The table a reload leads to. -/
def reloaded (self : RouteManager) (plan : ReloadPlan) (table : KernelTable) :
    KernelTable :=
  install self.gatewayHop
    (uninstall self.gatewayHop (self.moved plan table)
      (plan.bypassRemove.map RouteKey.ofEntry))
    (plan.bypassAdd.map RouteKey.ofEntry)

theorem installed_apply (self : RouteManager) (initial : KernelTable)
    (key : RouteKey) :
    self.installed initial key =
      if key ∈ self.splitKeys then some self.tunHop
      else if key ∈ self.gatewayKeys ∧ (self.gatewayHop key).isSome then
        self.gatewayHop key
      else initial key := by
  simp [installed, install_apply]

end RouteManager

section Reliable

variable {host : Host}

theorem exec_readGateway (reliable : host.Reliable) (error : RouteError)
    (gatewayOf : KernelTable → Option γ) :
    (readGateway error gatewayOf).exec host =
      (.ok (gatewayOf host.kernel), host) := by
  rw [readGateway, exec_bind_of_ok (exec_netlink_of_reliable reliable _ _)]
  rfl

theorem exec_readGateways (reliable : host.Reliable) :
    readGateways.exec host =
      (.ok (), { host with
        manager := host.manager.withGateways host.kernel }) := by
  have laterReliable : Host.Reliable
      { host with
        manager := { host.manager with
          v4Gateway := v4GatewayOf host.kernel } } := reliable
  have v4Read : readV4Gateway.exec host =
      (.ok (v4GatewayOf host.kernel), host) :=
    exec_readGateway reliable _ _
  have v6Read := exec_readGateway laterReliable .readV6Routes v6GatewayOf
  rw [readGateways, exec_bind_of_ok v4Read,
    exec_bind_of_ok (exec_updateManager _ _)]
  exact exec_bind_of_ok v6Read

theorem exec_protectProxy (reliable : host.Reliable)
    (found : (host.manager.gatewayFor host.manager.proxyIp).isSome) :
    protectProxy.exec host =
      (.ok (), host.withKernel
        (install host.manager.gatewayHop host.kernel
          [RouteManager.hostKey host.manager.proxyIp])) := by
  obtain ⟨⟨gateway, oif⟩, found⟩ := Option.isSome_iff_exists.mp found
  rw [protectProxy, exec_bind_of_ok (exec_readManager host)]
  simp only [found]
  exact exec_withContext_ok (exec_addViaGateway reliable _ found)

theorem exec_protectProxy_none
    (missing : host.manager.gatewayFor host.manager.proxyIp = none) :
    protectProxy.exec host =
      (.error (.noGateway host.manager.proxyIp), host) := by
  rw [protectProxy, exec_bind_of_ok (exec_readManager host)]
  simp [missing]

end Reliable

theorem exec_withDns_eq_ok {host after : Host}
    {action : ResolvConf → Files → Except DnsError Unit × ResolvConf × Files}
    (success : (withDns action).exec host = (.ok (), after)) :
    ∃ dns files, action host.manager.dns host.files = (.ok (), dns, files) ∧
      after = { host with
        manager := { host.manager with dns := dns }
        files := files } := by
  simp only [withDns, exec_ofFun, Prod.mk.injEq] at success
  cases result : action host.manager.dns host.files with
  | mk outcome rest =>
      obtain ⟨dns, files⟩ := rest
      cases outcome with
      | error error => simp [result, Except.mapError] at success
      | ok =>
          simp only [result] at success
          exact ⟨dns, files, rfl, success.2.symm⟩

/-- The host once a start has added its routes. -/
def Host.routed (host : Host) : Host :=
  let self := host.manager.withGateways host.kernel
  { host with
    manager := self
    kernel := self.installed host.kernel }

/-- With a gateway for the proxy, a start adds all of its routes. -/
theorem exec_apply_routed {host : Host} (reliable : host.Reliable)
    (found : ((host.manager.withGateways host.kernel).gatewayFor
      host.manager.proxyIp).isSome) :
    RouteManager.apply.exec host =
      (do
        withDns fun dns files => dns.apply files host.manager.dnsServer
        updateManager fun self => { self with applied := true }).exec
          host.routed := by
  let self := host.manager.withGateways host.kernel
  let start : Host := { host with manager := self }
  have startReliable : start.Reliable := reliable
  have startFound : (start.manager.gatewayFor
      start.manager.proxyIp).isSome := found
  have table : self.installed host.kernel =
      install (fun _ => some self.tunHop)
        (install (fun _ => some self.tunHop)
          (install self.gatewayHop
            (install self.gatewayHop host.kernel
              [RouteManager.hostKey self.proxyIp])
            (self.bypass.map RouteKey.ofEntry))
          (v4Split.map RouteKey.ofEntry))
        ((if self.capturesV6 then v6Split else []).map
          RouteKey.ofEntry) := by
    rw [RouteManager.installed, RouteManager.splitKeys, List.map_append,
      install_append]
    congr 2
    exact install_append self.gatewayHop host.kernel
      [RouteManager.hostKey self.proxyIp]
      (self.bypass.map RouteKey.ofEntry)
  rw [RouteManager.apply, exec_bind_of_ok (exec_readGateways reliable)]
  change (protectProxy >>= _).exec start = _
  rw [exec_bind_of_ok (exec_protectProxy startReliable startFound),
    exec_bind_of_ok (exec_readManager _),
    exec_bind_of_ok (exec_addBypassRoutes (startReliable.withKernel _) _),
    Host.withKernel_withKernel,
    exec_bind_of_ok (exec_addSplitRoutes (startReliable.withKernel _) _),
    Host.withKernel_withKernel,
    exec_bind_of_ok (exec_addSplitRoutes (startReliable.withKernel _) _)]
  have routedEq : host.routed = start.withKernel
      (self.installed host.kernel) := rfl
  rw [routedEq, table]
  rfl

/-- The table of a start is complete before the name server is touched. -/
theorem exec_apply_kernel {host : Host} (reliable : host.Reliable)
    (found : ((host.manager.withGateways host.kernel).gatewayFor
      host.manager.proxyIp).isSome) :
    (RouteManager.apply.exec host).2.kernel =
      (host.manager.withGateways host.kernel).installed host.kernel := by
  rw [exec_apply_routed reliable found, exec_bind, withDns, exec_ofFun]
  cases host.routed.manager.dns.apply host.routed.files
      host.manager.dnsServer with
  | mk outcome rest => cases outcome <;> rfl

/-- A successful start installs exactly the proxy's host route, the bypass
routes and the split routes. -/
theorem exec_apply_eq_ok {host after : Host} (reliable : host.Reliable)
    (success : RouteManager.apply.exec host = (.ok (), after)) :
    ∃ dns files,
      after =
        { manager :=
            { host.manager.withGateways host.kernel with
              dns := dns
              applied := true }
          kernel := (host.manager.withGateways host.kernel).installed
            host.kernel
          netlinkFaults := host.netlinkFaults
          files := files } ∧
      ((host.manager.withGateways host.kernel).gatewayFor
        host.manager.proxyIp).isSome ∧
      host.manager.dns.apply host.files host.manager.dnsServer =
        (.ok (), dns, files) := by
  let start : Host :=
    { host with manager := host.manager.withGateways host.kernel }
  cases found : start.manager.gatewayFor start.manager.proxyIp with
  | none =>
      rw [RouteManager.apply, exec_bind_of_ok (exec_readGateways reliable)]
        at success
      change (protectProxy >>= _).exec start = _ at success
      rw [exec_bind, exec_protectProxy_none found] at success
      cases success
  | some pair =>
      have isSome : (start.manager.gatewayFor
          start.manager.proxyIp).isSome = true := by simp [found]
      rw [exec_apply_routed reliable isSome] at success
      obtain ⟨_, middle, dnsDone, finished⟩ := exec_bind_eq_ok success
      obtain ⟨dns, files, applied, rfl⟩ := exec_withDns_eq_ok dnsDone
      rw [exec_updateManager, Prod.mk.injEq] at finished
      exact ⟨dns, files, finished.2.symm, isSome, applied⟩

/-- A started controller uses the gateways of the table it found. -/
theorem gatewayFor_of_apply {host after : Host} (reliable : host.Reliable)
    (applied : RouteManager.apply.exec host = (.ok (), after))
    (addr : IpAddr) :
    after.manager.gatewayFor addr =
      (host.manager.withGateways host.kernel).gatewayFor addr := by
  obtain ⟨dns, files, rfl, _, _⟩ := exec_apply_eq_ok reliable applied
  cases addr <;> rfl

/-- On a host whose requests and files never fail, a start succeeds if the
proxy has a gateway. -/
theorem exec_apply_of_gateway {host : Host} (reliable : host.Reliable)
    (filesReliable : host.files.Reliable)
    (found : ((host.manager.withGateways host.kernel).gatewayFor
      host.manager.proxyIp).isSome) :
    ∃ after, RouteManager.apply.exec host = (.ok (), after) := by
  obtain ⟨dns, files, applied, _⟩ := ResolvConf.apply_reliable filesReliable
    host.manager.dns host.manager.dnsServer
  have routedDns : host.routed.manager.dns.apply host.routed.files
      host.manager.dnsServer = (.ok (), dns, files) := applied
  have dnsDone : (withDns fun dns files =>
      dns.apply files host.manager.dnsServer).exec host.routed =
        (.ok (), { host.routed with
          manager := { host.routed.manager with dns := dns }
          files := files }) := by
    simp [withDns, routedDns, Except.mapError]
  rw [exec_apply_routed reliable found, exec_bind_of_ok dnsDone]
  exact ⟨_, rfl⟩

/-- Switching the name server touches nothing else. -/
theorem exec_reloadDns_eq_ok {host after : Host} {plan : ReloadPlan}
    (success : (reloadDns plan).exec host = (.ok (), after)) :
    ∃ dns files,
      dns.current =
          (if plan.dnsChanged then plan.dns else host.manager.dns.current) ∧
        after =
          { host with
            manager :=
              { host.manager with
                dns := dns
                dnsServer :=
                  if plan.dnsChanged then plan.dns
                  else host.manager.dnsServer }
            files := files } := by
  unfold reloadDns at success
  cases changed : plan.dnsChanged with
  | false =>
      rw [changed] at success
      cases success
      exact ⟨host.manager.dns, host.files, rfl, rfl⟩
  | true =>
      rw [changed, if_pos rfl] at success
      obtain ⟨_, middle, dnsDone, finished⟩ := exec_bind_eq_ok success
      obtain ⟨dns, files, switched, rfl⟩ := exec_withDns_eq_ok dnsDone
      cases finished
      exact ⟨dns, files, ResolvConf.current_of_reload switched, rfl⟩

/-- Name servers of a host with reliable files can be switched. -/
theorem exec_reloadDns {host : Host} (reliable : host.files.Reliable)
    (plan : ReloadPlan) :
    ∃ dns dnsServer files,
      (reloadDns plan).exec host =
        (.ok (), { host with
          manager := { host.manager with
            dns := dns
            dnsServer := dnsServer }
          files := files }) ∧
      files.Reliable := by
  unfold reloadDns
  cases plan.dnsChanged with
  | false => exact ⟨_, _, _, rfl, reliable⟩
  | true =>
      obtain ⟨dns, files, reloaded, laterReliable⟩ :=
        host.manager.dns.reload_reliable reliable plan.dns
      have switched :
          (withDns fun dns files => dns.reload files plan.dns).exec host =
            (.ok (), { host with
              manager := { host.manager with dns := dns }
              files := files }) := by
        simp [withDns, reloaded, Except.mapError]
      refine ⟨dns, plan.dns, files, ?_, laterReliable⟩
      rw [if_pos rfl, exec_bind_of_ok switched]
      rfl

namespace RouteManager

/-- The controller's record of routes after a reload. -/
def follow (self : RouteManager) (plan : ReloadPlan) : RouteManager :=
  { self with
    proxyIp := match plan.proxyRouteChange with
      | some (_, newIp) => newIp
      | none => self.proxyIp
    bypass := plan.newBypass }

theorem follow_compute {self : RouteManager} {old new : ValidConfig}
    (sameIp : self.proxyIp = old.proxySocketAddr.ip) :
    self.follow (ReloadPlan.compute old new) =
      { self with
        proxyIp := new.proxySocketAddr.ip
        bypass := new.bypassRoutes } := by
  unfold follow
  cases change : (ReloadPlan.compute old new).proxyRouteChange with
  | none =>
      rw [← ReloadPlan.proxyIp_of_unchanged change, ← sameIp]
      rfl
  | some pair =>
      obtain ⟨oldIp, newIp⟩ := pair
      obtain ⟨_, _, rfl⟩ := ReloadPlan.proxyRouteChange_eq_some change
      rfl

/-- The new proxy of a plan can be reached through a gateway. -/
def CanFollow (self : RouteManager) (plan : ReloadPlan) : Prop :=
  ∀ oldIp newIp, plan.proxyRouteChange = some (oldIp, newIp) →
    (self.gatewayFor newIp).isSome

end RouteManager

theorem RouteManager.canFollow_compute {self : RouteManager}
    {old new : ValidConfig}
    (found : (self.gatewayFor new.proxySocketAddr.ip).isSome) :
    self.CanFollow (ReloadPlan.compute old new) := by
  intro oldIp newIp change
  obtain ⟨_, _, rfl⟩ := ReloadPlan.proxyRouteChange_eq_some change
  exact found

section Reliable

variable {host : Host}

theorem exec_moveProxyRoute (reliable : host.Reliable) (oldIp newIp : IpAddr)
    (found : (host.manager.gatewayFor newIp).isSome) :
    (moveProxyRoute oldIp newIp).exec host =
      (.ok (), { host.withKernel
        (install host.manager.gatewayHop
          (uninstall host.manager.gatewayHop host.kernel
            [RouteManager.hostKey oldIp])
          [RouteManager.hostKey newIp]) with
        manager := { host.manager with proxyIp := newIp } }) := by
  obtain ⟨⟨gateway, oif⟩, found⟩ := Option.isSome_iff_exists.mp found
  let removed := host.withKernel (uninstall host.manager.gatewayHop
    host.kernel [RouteManager.hostKey oldIp])
  have removedReliable : removed.Reliable := reliable
  have foundLater :
      removed.manager.gatewayFor newIp = some (gateway, oif) := found
  rw [moveProxyRoute, exec_bind_of_ok (exec_delGatewayRoute reliable _ _),
    exec_bind_of_ok (exec_readManager _)]
  simp only [Host.withKernel_manager, found]
  exact exec_bind_of_ok (exec_withContext_ok
    (exec_addViaGateway removedReliable (hostPrefix newIp) foundLater))

theorem exec_reloadProxyRoute (reliable : host.Reliable) (plan : ReloadPlan)
    (canFollow : host.manager.CanFollow plan) :
    (reloadProxyRoute plan).exec host =
      (.ok (), { host.withKernel (host.manager.moved plan host.kernel) with
        manager := { host.manager with
          proxyIp := (host.manager.follow plan).proxyIp } }) := by
  unfold reloadProxyRoute RouteManager.moved RouteManager.follow
  cases change : plan.proxyRouteChange with
  | none => rfl
  | some pair =>
      obtain ⟨oldIp, newIp⟩ := pair
      exact exec_moveProxyRoute reliable oldIp newIp
        (canFollow oldIp newIp change)

/-- The host once a reload has changed its routes. -/
def Host.followed (host : Host) (plan : ReloadPlan) : Host :=
  { host with
    manager := host.manager.follow plan
    kernel := host.manager.reloaded plan host.kernel }

/-- With a gateway for the new proxy, a reload brings the kernel table to
`reloaded` before it turns to the name server. -/
theorem exec_reload_followed (reliable : host.Reliable)
    (applied : host.manager.applied) (plan : ReloadPlan)
    (canFollow : host.manager.CanFollow plan) :
    (RouteManager.reload plan).exec host =
      (reloadDns plan).exec (host.followed plan) := by
  let movedHost : Host :=
    { host.withKernel (host.manager.moved plan host.kernel) with
      manager := { host.manager with
        proxyIp := (host.manager.follow plan).proxyIp } }
  have movedReliable : movedHost.Reliable := reliable
  rw [RouteManager.reload, exec_bind_of_ok (exec_readManager host),
    if_pos applied,
    exec_bind_of_ok (exec_reloadProxyRoute reliable plan canFollow),
    exec_bind_of_ok (exec_delBypassRoutes movedReliable _),
    exec_bind_of_ok (exec_addBypassRoutes (movedReliable.withKernel _) _),
    exec_bind_of_ok (exec_updateManager _ _)]
  rfl

theorem exec_reload (reliable : host.Reliable)
    (filesReliable : host.files.Reliable) (applied : host.manager.applied)
    (plan : ReloadPlan) (canFollow : host.manager.CanFollow plan) :
    ∃ dns dnsServer files,
      (RouteManager.reload plan).exec host =
        (.ok (),
          { manager :=
              { host.manager.follow plan with
                dns := dns
                dnsServer := dnsServer }
            kernel := host.manager.reloaded plan host.kernel
            netlinkFaults := host.netlinkFaults
            files := files }) ∧
      files.Reliable := by
  have followedFiles : (host.followed plan).files.Reliable := filesReliable
  rw [exec_reload_followed reliable applied plan canFollow]
  exact exec_reloadDns followedFiles plan

/-- Without a gateway for the new proxy, a reload fails after it has deleted
the old proxy's host route. -/
theorem exec_reload_noGateway (reliable : host.Reliable)
    (applied : host.manager.applied) {plan : ReloadPlan}
    {oldIp newIp : IpAddr}
    (change : plan.proxyRouteChange = some (oldIp, newIp))
    (missing : host.manager.gatewayFor newIp = none) :
    (RouteManager.reload plan).exec host =
      (.error (.noGatewayForNew newIp), host.withKernel
        (uninstall host.manager.gatewayHop host.kernel
          [RouteManager.hostKey oldIp])) := by
  have failed : (reloadProxyRoute plan).exec host =
      (.error (.noGatewayForNew newIp), host.withKernel
        (uninstall host.manager.gatewayHop host.kernel
          [RouteManager.hostKey oldIp])) := by
    unfold reloadProxyRoute
    rw [change]
    simp only
    rw [moveProxyRoute, exec_bind_of_ok (exec_delGatewayRoute reliable _ _),
      exec_bind_of_ok (exec_readManager _)]
    simp only [Host.withKernel_manager, missing, exec_throw]
    rfl
  rw [RouteManager.reload, exec_bind_of_ok (exec_readManager host),
    if_pos applied, exec_bind, failed]

/-- A reload that succeeds had a gateway for the new proxy. -/
theorem exec_reload_eq_ok {after : Host} (reliable : host.Reliable)
    (applied : host.manager.applied) {plan : ReloadPlan}
    (success : (RouteManager.reload plan).exec host = (.ok (), after)) :
    host.manager.CanFollow plan ∧
      ∃ dns dnsServer files,
        after =
          { manager :=
              { host.manager.follow plan with
                dns := dns
                dnsServer := dnsServer }
            kernel := host.manager.reloaded plan host.kernel
            netlinkFaults := host.netlinkFaults
            files := files } := by
  have canFollow : host.manager.CanFollow plan := by
    intro oldIp newIp change
    by_contra missing
    have failed := exec_reload_noGateway reliable applied change
      (Option.not_isSome_iff_eq_none.mp missing)
    rw [failed] at success
    cases success
  rw [exec_reload_followed reliable applied plan canFollow] at success
  obtain ⟨dns, files, _, rfl⟩ := exec_reloadDns_eq_ok success
  exact ⟨canFollow, dns, _, files, rfl⟩

end Reliable

end Cortado.Linux
