import Cortado.Lib.FaultStream
import Cortado.Linux.Boot

/-!
# A start, request by request

A start issues its netlink requests in a fixed order, and the first one that
fails ends it.  A start that succeeds had all of them granted.  One that fails
undoes nothing, so the table it leaves is the old one with the granted
additions; `resolv.conf` is written by the last step, which may fail with the
file cut short.
-/

namespace Cortado.Linux

open Net KeyedTable Shell FaultStream

abbrev Addition := RouteKey × NextHop

/-- One netlink request; reading the table adds nothing. -/
def KernelTable.grant (table : KernelTable) :
    Option Addition → KernelTable
  | none => table
  | some (key, hop) => table.add key hop

def KernelTable.addAll (table : KernelTable)
    (requests : List (Option Addition)) : KernelTable :=
  requests.foldl KernelTable.grant table

/-- The host after requests that were all granted. -/
def Host.issue (host : Host) (requests : List (Option Addition)) : Host :=
  { host with
    kernel := host.kernel.addAll requests
    netlinkFaults := advance requests.length host.netlinkFaults }

theorem Host.issue_issue (host : Host)
    (first second : List (Option Addition)) :
    (host.issue first).issue second = host.issue (first ++ second) := by
  simp [Host.issue, KernelTable.addAll, List.foldl_append, advance_add]

/-- Once its requests are granted an operation goes on as `rest` on `after`;
otherwise it ends with the granted ones in the table. -/
structure RouteM.Reaches (action : RouteM α) (host : Host)
    (requests : List (Option Addition)) (rest : RouteM α) (after : Host) :
    Prop where
  kernel : after.kernel = (host.issue requests).kernel
  faults : after.netlinkFaults = (host.issue requests).netlinkFaults
  files : after.files = host.files
  onGranted : Spared requests.length host.netlinkFaults →
    action.exec host = rest.exec after
  onFault : ¬Spared requests.length host.netlinkFaults →
    ∃ error stopped, action.exec host = (.error error, stopped) ∧
      stopped.kernel =
        host.kernel.addAll (granted host.netlinkFaults requests) ∧
      stopped.files = host.files

section Rules

variable {host middle after : Host} {first second : List (Option Addition)}

theorem reaches_of_exec {action rest : RouteM α}
    (same : action.exec host = rest.exec host) :
    action.Reaches host [] rest host := by
  constructor
  · rfl
  · rfl
  · rfl
  · intro _
    exact same
  · intro stopped
    exact (stopped (spared_zero _)).elim

theorem RouteM.Reaches.bind {action : RouteM α} {next : α → RouteM β}
    {value : α} {rest : RouteM β}
    (reached : action.Reaches host first (pure value) middle)
    (continued : (next value).Reaches middle second rest after) :
    (action >>= next).Reaches host (first ++ second) rest after := by
  have kernels : middle.kernel.addAll second =
      host.kernel.addAll (first ++ second) := by
    rw [reached.kernel]
    simp [Host.issue, KernelTable.addAll]
  have middleFaults : middle.netlinkFaults =
      advance first.length host.netlinkFaults := reached.faults
  constructor
  · exact continued.kernel.trans kernels
  · rw [continued.faults, ← Host.issue_issue]
    simp only [Host.issue, middleFaults]
  · exact continued.files.trans reached.files
  · intro spared
    rw [List.length_append, spared_add] at spared
    rw [exec_bind, reached.onGranted spared.1]
    rw [← middleFaults] at spared
    exact continued.onGranted spared.2
  · intro stopped
    by_cases early : Spared first.length host.netlinkFaults
    · have late : ¬Spared second.length middle.netlinkFaults := by
        intro spared
        rw [middleFaults] at spared
        apply stopped
        rw [List.length_append, spared_add]
        exact ⟨early, spared⟩
      obtain ⟨error, last, failed, lastKernel, lastFiles⟩ :=
        continued.onFault late
      refine ⟨error, last, ?_, ?_, lastFiles.trans reached.files⟩
      · rw [exec_bind, reached.onGranted early]
        exact failed
      · rw [lastKernel, granted_append_of_spared second early,
          ← middleFaults, reached.kernel]
        simp [Host.issue, KernelTable.addAll]
    · obtain ⟨error, last, failed, lastKernel, lastFiles⟩ :=
        reached.onFault early
      refine ⟨error, last, ?_, ?_, lastFiles⟩
      · rw [exec_bind, failed]
      · rw [lastKernel, granted_append_of_not_spared second early]

/-- Reading the record issues no request. -/
theorem reaches_readManager {next : RouteManager → RouteM α}
    {requests : List (Option Addition)} {rest : RouteM α}
    (continued : (next host.manager).Reaches host requests rest after) :
    (readManager >>= next).Reaches host requests rest after := by
  have reading : readManager.Reaches host [] (pure host.manager) host :=
    reaches_of_exec rfl
  exact reading.bind continued

theorem reaches_updateManager (update : RouteManager → RouteManager) :
    (updateManager update).Reaches host [] (pure ())
      { host with manager := update host.manager } := by
  constructor
  · rfl
  · rfl
  · rfl
  · intro _
    rfl
  · intro stopped
    exact (stopped (spared_zero _)).elim

theorem reaches_netlink {request : Option Addition} (error : RouteError)
    {effect : KernelTable → Option KernelTable}
    (accepted : effect host.kernel = some (host.kernel.grant request)) :
    (netlink error effect).Reaches host [request] (pure ())
      (host.issue [request]) := by
  constructor
  · rfl
  · rfl
  · rfl
  · intro spared
    have works := (spared_one _).mp spared
    simp only [netlink, exec_ofFun, works, Bool.false_eq_true, if_false,
      accepted]
    rfl
  · intro stopped
    have fault : host.netlinkFaults 0 = true := by
      by_contra works
      exact stopped ((spared_one _).mpr (by simpa using works))
    refine ⟨error, { host with netlinkFaults := advance 1 host.netlinkFaults },
      ?_, ?_, rfl⟩
    · simp only [netlink, exec_ofFun, fault, if_true]
      rfl
    · simp [granted, fault, KernelTable.addAll]

theorem RouteM.Reaches.withContext {action : RouteM Unit}
    {requests : List (Option Addition)}
    (reached : action.Reaches host requests (pure ()) after)
    (wrap : RouteError → RouteError) :
    RouteM.Reaches (Shell.withContext wrap action) host requests (pure ())
      after := by
  constructor
  · exact reached.kernel
  · exact reached.faults
  · exact reached.files
  · intro spared
    exact exec_withContext_ok (reached.onGranted spared)
  · intro stopped
    obtain ⟨error, last, failed, kept⟩ := reached.onFault stopped
    refine ⟨wrap error, last, ?_, kept⟩
    simp [Shell.withContext, failed]

end Rules

namespace RouteManager

/-- The requests for gateway routes; keys without a gateway are skipped. -/
def gatewayRequests (self : RouteManager) (keys : List RouteKey) :
    List (Option Addition) :=
  keys.filterMap fun key =>
    (self.gatewayHop key).map fun hop => some (key, hop)

theorem gatewayRequests_cons (self : RouteManager) (key : RouteKey)
    (keys : List RouteKey) :
    self.gatewayRequests (key :: keys) =
      match self.gatewayHop key with
      | none => self.gatewayRequests keys
      | some hop => some (key, hop) :: self.gatewayRequests keys := by
  unfold gatewayRequests
  rw [List.filterMap_cons]
  cases self.gatewayHop key <;> rfl

def tunRequests (self : RouteManager) (keys : List RouteKey) :
    List (Option Addition) :=
  keys.map fun key => some (key, self.tunHop)

/-- The routes a start adds, in order. -/
def routeRequests (self : RouteManager) : List (Option Addition) :=
  self.gatewayRequests self.gatewayKeys ++ self.tunRequests self.splitKeys

end RouteManager

section Operations

variable (host : Host)

theorem reaches_addViaGateway {dst gateway : IpAddr} {oif : Nat}
    (prefixLen : Nat)
    (found : host.manager.gatewayFor dst = some (gateway, oif)) :
    (addViaGateway dst prefixLen gateway oif).Reaches host
      (host.manager.gatewayRequests [RouteKey.of dst prefixLen]) (pure ())
      (host.issue
        (host.manager.gatewayRequests [RouteKey.of dst prefixLen])) := by
  have requests : host.manager.gatewayRequests [RouteKey.of dst prefixLen] =
      [some (RouteKey.of dst prefixLen,
        { gateway := some gateway, oif := some oif })] := by
    simp [RouteManager.gatewayRequests, RouteManager.gatewayHop_of, found]
  rw [requests]
  cases dst with
  | v4 dst =>
      obtain ⟨⟨v4Gateway, _⟩, _, equal⟩ := Option.map_eq_some_iff.mp found
      cases equal
      simp only [addViaGateway]
      apply reaches_netlink
      rfl
  | v6 dst =>
      obtain ⟨⟨v6Gateway, _⟩, _, equal⟩ := Option.map_eq_some_iff.mp found
      cases equal
      simp only [addViaGateway]
      apply reaches_netlink
      rfl

theorem reaches_addBypassRoute (dst : IpAddr) (prefixLen : Nat) :
    (addBypassRoute dst prefixLen).Reaches host
      (host.manager.gatewayRequests [RouteKey.of dst prefixLen]) (pure ())
      (host.issue
        (host.manager.gatewayRequests [RouteKey.of dst prefixLen])) := by
  apply reaches_readManager
  cases found : host.manager.gatewayFor dst with
  | none =>
      have skipped :
          host.manager.gatewayRequests [RouteKey.of dst prefixLen] = [] := by
        simp [RouteManager.gatewayRequests, RouteManager.gatewayHop_of, found]
      rw [skipped]
      exact reaches_of_exec rfl
  | some pair =>
      obtain ⟨gateway, oif⟩ := pair
      exact (reaches_addViaGateway host prefixLen found).withContext _

theorem reaches_addBypassRoutes (entries : CidrList) :
    (addBypassRoutes entries).Reaches host
      (host.manager.gatewayRequests (entries.map RouteKey.ofEntry)) (pure ())
      (host.issue
        (host.manager.gatewayRequests (entries.map RouteKey.ofEntry))) := by
  induction entries generalizing host with
  | nil => exact reaches_of_exec rfl
  | cons entry entries induction =>
      obtain ⟨dst, prefixLen⟩ := entry
      have split : host.manager.gatewayRequests
          (((dst, prefixLen) :: entries).map RouteKey.ofEntry) =
            host.manager.gatewayRequests [RouteKey.of dst prefixLen] ++
              host.manager.gatewayRequests
                (entries.map RouteKey.ofEntry) := by
        simp only [RouteManager.gatewayRequests, ← List.filterMap_append]
        rfl
      rw [split, ← Host.issue_issue]
      exact (reaches_addBypassRoute host dst prefixLen).bind (induction _)

theorem reaches_addSplitRoutes (entries : CidrList) :
    (addSplitRoutes entries).Reaches host
      (host.manager.tunRequests (entries.map RouteKey.ofEntry)) (pure ())
      (host.issue
        (host.manager.tunRequests (entries.map RouteKey.ofEntry))) := by
  induction entries generalizing host with
  | nil => exact reaches_of_exec rfl
  | cons entry entries induction =>
      obtain ⟨dst, prefixLen⟩ := entry
      have split : host.manager.tunRequests
          (((dst, prefixLen) :: entries).map RouteKey.ofEntry) =
            [some (RouteKey.of dst prefixLen, host.manager.tunHop)] ++
              host.manager.tunRequests (entries.map RouteKey.ofEntry) :=
        rfl
      have adding : (addViaTun dst prefixLen).Reaches host
          [some (RouteKey.of dst prefixLen, host.manager.tunHop)] (pure ())
          (host.issue
            [some (RouteKey.of dst prefixLen, host.manager.tunHop)]) := by
        apply reaches_readManager
        apply reaches_netlink
        rfl
      rw [split, ← Host.issue_issue]
      exact adding.bind (induction _)

theorem reaches_readGateway (error : RouteError)
    (gatewayOf : KernelTable → Option γ) :
    (readGateway error gatewayOf).Reaches host [none]
      (pure (gatewayOf host.kernel)) (host.issue [none]) := by
  have reading : (netlink error some).Reaches host [none] (pure ())
      (host.issue [none]) := reaches_netlink error rfl
  exact reading.bind (reaches_of_exec rfl)

theorem reaches_readGateways :
    readGateways.Reaches host [none, none] (pure ())
      { host.issue [none, none] with
        manager := host.manager.withGateways host.kernel } := by
  refine (reaches_readGateway host _ v4GatewayOf).bind
    ((reaches_updateManager _).bind
      ((reaches_readGateway _ _ v6GatewayOf).bind ?_))
  exact reaches_updateManager _

theorem reaches_protectProxy
    (found : (host.manager.gatewayFor host.manager.proxyIp).isSome) :
    protectProxy.Reaches host
      (host.manager.gatewayRequests
        [RouteManager.hostKey host.manager.proxyIp]) (pure ())
      (host.issue
        (host.manager.gatewayRequests
          [RouteManager.hostKey host.manager.proxyIp])) := by
  obtain ⟨⟨gateway, oif⟩, found⟩ := Option.isSome_iff_exists.mp found
  apply reaches_readManager
  simp only [found]
  exact (reaches_addViaGateway host _ found).withContext _

/-- The last steps of a start. -/
def finishStart (dnsServer : Option IpAddr) : RouteM Unit := do
  withDns fun dns files => dns.apply files dnsServer
  updateManager fun self => { self with applied := true }

/-- A start whose proxy has a gateway issues all of its requests before it
turns to the name server. -/
theorem reaches_apply
    (found : ((host.manager.withGateways host.kernel).gatewayFor
      host.manager.proxyIp).isSome) :
    RouteManager.apply.Reaches host
      ([none, none] ++
        (host.manager.withGateways host.kernel).routeRequests)
      (finishStart host.manager.dnsServer)
      { host.issue ([none, none] ++
          (host.manager.withGateways host.kernel).routeRequests) with
        manager := host.manager.withGateways host.kernel } := by
  let self := host.manager.withGateways host.kernel
  let start : Host := { host.issue [none, none] with manager := self }
  have requests : self.routeRequests =
      self.gatewayRequests [RouteManager.hostKey self.proxyIp] ++
        (self.gatewayRequests (self.bypass.map RouteKey.ofEntry) ++
          (self.tunRequests (v4Split.map RouteKey.ofEntry) ++
            (self.tunRequests ((if self.capturesV6 then v6Split else []).map
              RouteKey.ofEntry) ++ []))) := by
    simp only [RouteManager.routeRequests, RouteManager.tunRequests,
      RouteManager.splitKeys, List.map_append, ← List.append_assoc,
      List.append_nil]
    congr 2
    simp only [RouteManager.gatewayRequests, ← List.filterMap_append]
    rfl
  have routed : ({ host.issue ([none, none] ++ self.routeRequests) with
      manager := self } : Host) = start.issue self.routeRequests := by
    rw [← Host.issue_issue]
    rfl
  rw [routed, requests, ← Host.issue_issue, ← Host.issue_issue,
    ← Host.issue_issue, ← Host.issue_issue]
  refine (reaches_readGateways host).bind ?_
  refine (reaches_protectProxy start found).bind ?_
  apply reaches_readManager
  refine (reaches_addBypassRoutes _ _).bind ?_
  refine (reaches_addSplitRoutes _ _).bind ?_
  refine (reaches_addSplitRoutes _ _).bind ?_
  exact reaches_of_exec rfl

/-- Without a gateway the proxy cannot be protected, and the start ends after
reading the table. -/
theorem reaches_apply_noGateway
    (missing : (host.manager.withGateways host.kernel).gatewayFor
      host.manager.proxyIp = none) :
    RouteManager.apply.Reaches host [none, none]
      (throw (.noGateway host.manager.proxyIp))
      { host.issue [none, none] with
        manager := host.manager.withGateways host.kernel } := by
  let start : Host :=
    { host.issue [none, none] with
      manager := host.manager.withGateways host.kernel }
  have unprotected : protectProxy.exec start =
      (.error (.noGateway start.manager.proxyIp), start) :=
    exec_protectProxy_none missing
  refine (reaches_readGateways host).bind (reaches_of_exec ?_)
  change (protectProxy >>= _).exec start = _
  rw [exec_bind, unprotected]
  rfl

end Operations

theorem finishStart_error {host stopped : Host} {dnsServer : Option IpAddr}
    {error : RouteError} (fresh : host.manager.dns = .system)
    (failed : (finishStart dnsServer).exec host = (.error error, stopped)) :
    stopped.kernel = host.kernel ∧
      ∃ server, dnsServer = some server ∧
        stopped.files.resolvConf = host.files.leftByFailure server := by
  rw [finishStart, exec_bind, withDns, exec_ofFun, fresh] at failed
  rcases outcome : ResolvConf.system.apply host.files dnsServer with
    ⟨_ | _, dns, files⟩
  · rw [outcome] at failed
    cases failed
    exact ⟨rfl, ResolvConf.resolvConf_of_apply_error host.files outcome⟩
  · rw [outcome] at failed
    cases failed

namespace Boot

/-- The requests of a start: two reads, and the routes if the proxy has a
gateway. -/
def requests (boot : Boot) (cfg : ValidConfig) : List (Option Addition) :=
  [none, none] ++
    if ((boot.controller cfg).gatewayFor cfg.proxySocketAddr.ip).isSome then
      (boot.controller cfg).routeRequests
    else []

/-- The requests of a start that come before its first fault. -/
def reached (boot : Boot) (cfg : ValidConfig) : List (Option Addition) :=
  granted boot.netlinkFaults (boot.requests cfg)

/-- The start gets as far as the name server. -/
def Routed (boot : Boot) (cfg : ValidConfig) : Prop :=
  ((boot.controller cfg).gatewayFor cfg.proxySocketAddr.ip).isSome = true ∧
    Spared (boot.requests cfg).length boot.netlinkFaults

end Boot

/-- An operation that succeeds had its requests granted. -/
theorem RouteM.Reaches.succeeded {action rest : RouteM Unit}
    {host after last : Host} {requests : List (Option Addition)}
    (reached : action.Reaches host requests rest after)
    (success : action.exec host = (.ok (), last)) :
    rest.exec after = (.ok (), last) := by
  by_cases spared : Spared requests.length host.netlinkFaults
  · rw [← reached.onGranted spared]
    exact success
  · obtain ⟨error, stopped, failed, _⟩ := reached.onFault spared
    rw [failed] at success
    cases success

/-- An operation that fails was stopped by a fault, or its rest failed. -/
theorem RouteM.Reaches.failed {action rest : RouteM Unit}
    {host after stopped : Host} {requests : List (Option Addition)}
    {error : RouteError}
    (reached : action.Reaches host requests rest after)
    (failure : action.exec host = (.error error, stopped)) :
    (¬Spared requests.length host.netlinkFaults ∧
        stopped.kernel =
          host.kernel.addAll (granted host.netlinkFaults requests) ∧
        stopped.files = host.files) ∨
      (Spared requests.length host.netlinkFaults ∧
        after.kernel =
          host.kernel.addAll (granted host.netlinkFaults requests) ∧
        rest.exec after = (.error error, stopped)) := by
  by_cases spared : Spared requests.length host.netlinkFaults
  · right
    refine ⟨spared, ?_, ?_⟩
    · rw [reached.kernel, granted_of_spared spared]
      rfl
    · rw [← reached.onGranted spared]
      exact failure
  · left
    obtain ⟨cause, last, stops, kernel, files⟩ := reached.onFault spared
    rw [stops] at failure
    cases failure
    exact ⟨spared, kernel, files⟩

section Granted

variable (self : RouteManager) (table : KernelTable) (keys : List RouteKey)

theorem addAll_gatewayRequests :
    table.addAll (self.gatewayRequests keys) =
      install self.gatewayHop table keys := by
  induction keys generalizing table with
  | nil => rfl
  | cons key keys induction =>
      rw [RouteManager.gatewayRequests_cons, install]
      cases self.gatewayHop key with
      | none => exact induction table
      | some hop => exact induction _

theorem addAll_tunRequests :
    table.addAll (self.tunRequests keys) =
      install (fun _ => some self.tunHop) table keys := by
  induction keys generalizing table with
  | nil => rfl
  | cons key keys induction => exact induction _

theorem addAll_routeRequests :
    table.addAll self.routeRequests = self.installed table := by
  rw [RouteManager.routeRequests, KernelTable.addAll, List.foldl_append]
  change KernelTable.addAll
    (table.addAll (self.gatewayRequests self.gatewayKeys))
    (self.tunRequests self.splitKeys) = _
  rw [addAll_gatewayRequests, addAll_tunRequests]
  rfl

end Granted

/-- Whatever requests fail on the host, a start that succeeds has installed all
of its routes. -/
theorem Boot.start_installed {boot : Boot} {cfg : ValidConfig}
    {tunnel : Tunnel Host} (started : boot.start cfg = .ok tunnel) :
    tunnel.controller.kernel = (boot.controller cfg).installed boot.kernel ∧
      ∃ dns : ResolvConf,
        dns.current = cfg.dnsAddr ∧
          tunnel.controller.manager =
            { boot.controller cfg with
              dns := dns
              applied := true } := by
  obtain ⟨host, applied, rfl⟩ := Boot.start_eq_ok started
  change host.kernel = _ ∧ ∃ dns : ResolvConf, _ ∧ host.manager = _
  cases found : (boot.controller cfg).gatewayFor cfg.proxySocketAddr.ip with
  | none =>
      have thrown :=
        (reaches_apply_noGateway (boot.host cfg) found).succeeded applied
      cases thrown
  | some pair =>
      have isSome : ((boot.controller cfg).gatewayFor
          cfg.proxySocketAddr.ip).isSome = true := by simp [found]
      have finished :=
        (reaches_apply (boot.host cfg) isSome).succeeded applied
      obtain ⟨_, middle, dnsDone, updated⟩ := exec_bind_eq_ok finished
      obtain ⟨dns, files, overridden, rfl⟩ := exec_withDns_eq_ok dnsDone
      cases updated
      refine ⟨addAll_routeRequests (boot.controller cfg) boot.kernel, dns,
        ?_, rfl⟩
      exact (ResolvConf.current_of_apply overridden).trans Option.or_none

/-- A failed start leaves the granted additions in the table; it has failed
before the name server was set, or while it was. -/
theorem Boot.apply_error {boot : Boot} {cfg : ValidConfig}
    {error : RouteError} {host : Host}
    (failed : RouteManager.apply.exec (boot.host cfg) =
      (.error error, host)) :
    host.kernel = boot.kernel.addAll (boot.reached cfg) ∧
      ((¬boot.Routed cfg ∧ host.files = boot.files) ∨
        (boot.Routed cfg ∧ ∃ server, cfg.dnsAddr = some server ∧
          host.files.resolvConf = boot.files.leftByFailure server)) := by
  unfold Boot.reached Boot.Routed Boot.requests
  cases found : (boot.controller cfg).gatewayFor cfg.proxySocketAddr.ip with
  | none =>
      rcases (reaches_apply_noGateway (boot.host cfg) found).failed failed
        with ⟨_, kernel, files⟩ | ⟨_, kernel, thrown⟩
      · exact ⟨kernel, Or.inl ⟨by simp, files⟩⟩
      · cases thrown
        exact ⟨kernel, Or.inl ⟨by simp, rfl⟩⟩
  | some pair =>
      have isSome : ((boot.controller cfg).gatewayFor
          cfg.proxySocketAddr.ip).isSome = true := by simp [found]
      rcases (reaches_apply (boot.host cfg) isSome).failed failed with
        ⟨stopped, kernel, files⟩ | ⟨spared, kernel, finishing⟩
      · refine ⟨kernel, Or.inl ⟨?_, files⟩⟩
        intro routed
        exact stopped routed.2
      · obtain ⟨kept, file⟩ := finishStart_error rfl finishing
        exact ⟨kept.trans kernel, Or.inr ⟨⟨rfl, spared⟩, file⟩⟩

/-- The next hop that the last of several additions gave a key. -/
def lastAdded (requests : List (Option Addition)) (key : RouteKey) :
    Option NextHop :=
  KernelTable.addAll (fun _ => none) requests key

theorem addAll_apply (table : KernelTable) (requests : List (Option Addition))
    (key : RouteKey) :
    table.addAll requests key =
      match lastAdded requests key with
      | some hop => some hop
      | none => table key := by
  induction requests using List.reverseRecOn with
  | nil => rfl
  | append_singleton requests request induction =>
      simp only [lastAdded, KernelTable.addAll, List.foldl_append,
        List.foldl_cons, List.foldl_nil] at induction ⊢
      cases request with
      | none => exact induction
      | some addition =>
          obtain ⟨added, hop⟩ := addition
          simp only [KernelTable.grant, KernelTable.add]
          by_cases same : key = added
          · subst same
            simp
          · simp only [Function.update_of_ne same]
            exact induction

namespace Boot

/-- What a failed start got to add was there before: a gateway route exactly
so, while a route into the tunnel displaced no gateway route. -/
def RoutesHarmless (boot : Boot) (cfg : ValidConfig) : Prop :=
  ∀ key hop, lastAdded (boot.reached cfg) key = some hop →
    if hop.oif = some boot.tunIndex then
      ∀ old, boot.kernel key = some old → old.oif = some boot.tunIndex
    else boot.kernel key = some hop

/-- A write of `resolv.conf` that is cut short leaves what was there before. -/
def FileHarmless (boot : Boot) (cfg : ValidConfig) : Prop :=
  ∀ server written, cfg.dnsAddr = some server → boot.Routed cfg →
    boot.files.writeFault = some (.cut written) →
      boot.files.resolvConf = some ((nameserverLine server).take written)

def Harmless (boot : Boot) (cfg : ValidConfig) : Prop :=
  boot.FileHarmless cfg ∧ boot.RoutesHarmless cfg

section Failed

variable {boot : Boot} {cfg : ValidConfig} {error : RouteError} {host : Host}
  (failed : RouteManager.apply.exec (boot.host cfg) = (.error error, host))

include failed

theorem resolvConf_unchanged_iff :
    host.files.resolvConf = boot.files.resolvConf ↔
      boot.FileHarmless cfg := by
  rcases (Boot.apply_error failed).2 with
    ⟨unrouted, files⟩ | ⟨routed, server, chosen, file⟩
  · rw [files]
    apply iff_of_true rfl
    intro server written _ routed
    exact (unrouted routed).elim
  · rw [file, Files.leftByFailure_eq_iff]
    constructor
    · intro kept other written same _ cut
      rw [chosen] at same
      cases same
      exact kept written cut
    · intro harmless written cut
      exact harmless server written chosen routed cut

theorem routes_unchanged_iff :
    (∀ key hop, hop.oif ≠ some boot.tunIndex →
        (host.kernel key = some hop ↔ boot.kernel key = some hop)) ↔
      boot.RoutesHarmless cfg := by
  have table (key : RouteKey) :=
    addAll_apply boot.kernel (boot.reached cfg) key
  rw [← (Boot.apply_error failed).1] at table
  constructor
  · intro unchanged key hop added
    have routes := unchanged key
    rw [table key, added] at routes
    by_cases tunBound : hop.oif = some boot.tunIndex
    · rw [if_pos tunBound]
      intro old present
      by_contra offTun
      cases (routes old offTun).mpr present
      exact offTun tunBound
    · rw [if_neg tunBound]
      exact (routes hop tunBound).mp rfl
  · intro harmless key hop offTun
    rw [table key]
    cases added : lastAdded (boot.reached cfg) key with
    | none => rfl
    | some last =>
        have displaced := harmless key last added
        by_cases tunBound : last.oif = some boot.tunIndex
        · rw [if_pos tunBound] at displaced
          constructor
          · intro same
            cases same
            exact (offTun tunBound).elim
          · intro present
            exact (offTun (displaced hop present)).elim
        · rw [if_neg tunBound] at displaced
          rw [displaced]

end Failed

end Boot

/-- A failed start leaves `resolv.conf` and the routes outside the tunnel as
they were exactly when everything it added, and what a cut write left of the
file, was there before. -/
theorem failed_start_exact (boot : Boot) (cfg : ValidConfig)
    {error : RouteError} {host : Host}
    (failed : RouteManager.apply.exec (boot.host cfg) =
      (.error error, host)) :
    (host.files.resolvConf = boot.files.resolvConf ∧
      ∀ key hop, hop.oif ≠ some boot.tunIndex →
        (host.kernel key = some hop ↔ boot.kernel key = some hop)) ↔
      boot.Harmless cfg :=
  and_congr (Boot.resolvConf_unchanged_iff failed)
    (Boot.routes_unchanged_iff failed)

/-- A host that has the proxy's route and an empty `resolv.conf` already, and
whose disk is full when the name server is to be written. -/
def fullDiskBoot : Boot :=
  { v4OnlyBoot with
    kernel := v4OnlyBoot.kernel.add
      (RouteManager.hostKey (.v4 (.ofOctets 203 0 113 9)))
      { gateway := some (.v4 (.ofOctets 192 168 1 1))
        oif := some 2 }
    files :=
      { v4OnlyBoot.files with
        faults := fun index => if index = 2 then some (.cut 0) else none } }

theorem fullDiskBoot_routesHarmless :
    fullDiskBoot.RoutesHarmless v4ProxyConfig := by
  have reached : fullDiskBoot.reached v4ProxyConfig =
      [none, none,
        some (RouteManager.hostKey (.v4 (.ofOctets 203 0 113 9)),
          { gateway := some (.v4 (.ofOctets 192 168 1 1))
            oif := some 2 }),
        some (RouteKey.of (.v4 0) 1, { gateway := none, oif := some 7 }),
        some (RouteKey.of (.v4 (.ofOctets 128 0 0 0)) 1,
          { gateway := none, oif := some 7 })] := by
    decide +kernel
  have tunnel : fullDiskBoot.tunIndex = 7 := rfl
  intro key hop added
  rw [reached] at added
  simp only [lastAdded, KernelTable.addAll, List.foldl_cons, List.foldl_nil,
    KernelTable.grant, KernelTable.add, Function.update_apply] at added
  split_ifs at added with upperHalf lowerHalf proxy
  · cases added
    have free : fullDiskBoot.kernel key = none := by
      rw [upperHalf]
      decide +kernel
    simp [free, tunnel]
  · cases added
    have free : fullDiskBoot.kernel key = none := by
      rw [lowerHalf]
      decide +kernel
    simp [free, tunnel]
  · cases added
    rw [proxy]
    decide +kernel

/-- A start that added a route which was there before, and failed. -/
theorem failed_start_exact_fullDisk :
    ∃ error host,
      RouteManager.apply.exec (fullDiskBoot.host v4ProxyConfig) =
          (.error error, host) ∧
        lastAdded (fullDiskBoot.reached v4ProxyConfig)
            (RouteManager.hostKey (.v4 (.ofOctets 203 0 113 9))) =
          some
            { gateway := some (.v4 (.ofOctets 192 168 1 1))
              oif := some 2 } ∧
        host.files.resolvConf = fullDiskBoot.files.resolvConf ∧
        ∀ key hop, hop.oif ≠ some 7 →
          (host.kernel key = some hop ↔
            fullDiskBoot.kernel key = some hop) := by
  refine ⟨_, _, rfl, ?_, ?_⟩
  · decide +kernel
  · have fileHarmless : fullDiskBoot.FileHarmless v4ProxyConfig := by
      intro server written _ _ cut
      cases cut
      rfl
    exact (failed_start_exact fullDiskBoot v4ProxyConfig rfl).mpr
      ⟨fileHarmless, fullDiskBoot_routesHarmless⟩

/-- A host on which one netlink request of the start fails. -/
def faultyBoot (request : Nat) : Boot :=
  { v4OnlyBoot with netlinkFaults := fun index => index == request }

/-- A start whose first split route is refused leaves the proxy's host route
behind. -/
theorem failed_start_leaves_route :
    ∃ error host,
      RouteManager.apply.exec ((faultyBoot 3).host v4ProxyConfig) =
          (.error error, host) ∧
        (faultyBoot 3).kernel
            (RouteManager.hostKey (.v4 (.ofOctets 203 0 113 9))) = none ∧
        host.kernel (RouteManager.hostKey (.v4 (.ofOctets 203 0 113 9))) =
          some
            { gateway := some (.v4 (.ofOctets 192 168 1 1))
              oif := some 2 } := by
  refine ⟨_, _, rfl, ?_, ?_⟩
  · decide +kernel
  · decide +kernel

end Cortado.Linux
