import Cortado.Lib.Shell
import Cortado.Linux.Kernel
import Cortado.Linux.ResolvConf
import Cortado.Reload

/-!
# The Linux route controller

An operation of the controller that fails keeps the state of the host as it is
by then, since a failed reload does not undo what it already did.  Every
netlink request may fail; a stream of faults decides each of them in turn.
-/

namespace Cortado.Linux

open Net Shell

structure RouteManager where
  proxyIp : IpAddr
  tunIndex : Nat
  dns : ResolvConf
  dnsServer : Option IpAddr
  bypass : CidrList
  captureIpv6 : Bool
  v4Gateway : Option (Ipv4Addr × Nat)
  v6Gateway : Option (Ipv6Addr × Nat)
  applied : Bool

/-- The controller together with the system state it acts on. -/
structure Host where
  manager : RouteManager
  kernel : KernelTable
  netlinkFaults : Nat → Bool
  files : Files

inductive RouteError where
  | readV4Routes
  | readV6Routes
  | noGateway (proxyIp : IpAddr)
  | noGatewayForNew (proxyIp : IpAddr)
  | familyMismatch (dst : IpAddr) (prefixLen : Nat)
  | addRoute (dst : IpAddr) (prefixLen : Nat) (gateway : IpAddr)
  | addSplitRoute (dst : IpAddr) (prefixLen : Nat)
  | deleteRoute (dst : IpAddr) (prefixLen : Nat)
  | protectProxy (cause : RouteError)
  | newProxyRoute (cause : RouteError)
  | addBypass (dst : IpAddr) (prefixLen : Nat) (cause : RouteError)
  | dns (cause : DnsError)
  deriving DecidableEq, Repr

/-- The outermost context of an error. -/
def RouteError.message : RouteError → String
  | .readV4Routes => "netlink error reading IPv4 routes"
  | .readV6Routes => "netlink error reading IPv6 routes"
  | .noGateway proxyIp =>
      "no default gateway for proxy address family (" ++ proxyIp.display ++ ")"
  | .noGatewayForNew proxyIp =>
      "no default gateway for new proxy address family (" ++
        proxyIp.display ++ ")"
  | .familyMismatch dst prefixLen =>
      "address family mismatch for route " ++ dst.display ++ "/" ++
        toString prefixLen
  | .addRoute dst prefixLen gateway =>
      "failed to add route " ++ dst.display ++ "/" ++ toString prefixLen ++
        " via " ++ gateway.display
  | .addSplitRoute dst prefixLen =>
      "failed to add split route " ++ dst.display ++ "/" ++
        toString prefixLen ++ " via tun"
  | .deleteRoute dst prefixLen =>
      "failed to delete route " ++ dst.display ++ "/" ++ toString prefixLen
  | .protectProxy _ => "failed to protect proxy route"
  | .newProxyRoute _ => "failed to install new proxy host route"
  | .addBypass dst prefixLen _ =>
      "failed to add bypass route " ++ dst.display ++ "/" ++ toString prefixLen
  | .dns cause => cause.message

abbrev RouteM := Shell Host RouteError

/-- One netlink request: it fails on a fault, or when the kernel refuses it. -/
def netlink (error : RouteError) (effect : KernelTable → Option KernelTable) :
    RouteM Unit :=
  ofFun fun host =>
    let later :=
      { host with netlinkFaults := fun index => host.netlinkFaults (index + 1) }
    if host.netlinkFaults 0 then (.error error, later)
    else
      match effect host.kernel with
      | some kernel => (.ok (), { later with kernel := kernel })
      | none => (.error error, later)

def readManager : RouteM RouteManager :=
  ofFun fun host => (.ok host.manager, host)

def updateManager (update : RouteManager → RouteManager) : RouteM Unit :=
  Shell.update fun host => { host with manager := update host.manager }

def hostPrefix (addr : IpAddr) : Nat :=
  if addr.isIpv4 then 32 else 128

def v4Split : CidrList :=
  [(.v4 (Ipv4Addr.ofOctets 0 0 0 0), 1), (.v4 (Ipv4Addr.ofOctets 128 0 0 0), 1)]

def v6Split : CidrList :=
  [(.v6 (Ipv6Addr.ofSegments [0, 0, 0, 0, 0, 0, 0, 0]), 1),
    (.v6 (Ipv6Addr.ofSegments [0x8000, 0, 0, 0, 0, 0, 0, 0]), 1)]

/-- The default route of the family, if it has a gateway and an interface. -/
def v4GatewayOf (table : KernelTable) : Option (Ipv4Addr × Nat) :=
  match table (RouteKey.of (.v4 0) 0) with
  | some { gateway := some (.v4 gateway), oif := some oif } =>
      some (gateway, oif)
  | _ => none

def v6GatewayOf (table : KernelTable) : Option (Ipv6Addr × Nat) :=
  match table (RouteKey.of (.v6 0) 0) with
  | some { gateway := some (.v6 gateway), oif := some oif } =>
      some (gateway, oif)
  | _ => none

def readGateway (error : RouteError)
    (gatewayOf : KernelTable → Option γ) : RouteM (Option γ) := do
  netlink error some
  ofFun fun host => (.ok (gatewayOf host.kernel), host)

def readV4Gateway : RouteM (Option (Ipv4Addr × Nat)) :=
  readGateway .readV4Routes v4GatewayOf

def readV6Gateway : RouteM (Option (Ipv6Addr × Nat)) :=
  readGateway .readV6Routes v6GatewayOf

def addViaGateway (dst : IpAddr) (prefixLen : Nat) (gateway : IpAddr)
    (oif : Nat) : RouteM Unit :=
  match dst, gateway with
  | .v4 _, .v4 _ | .v6 _, .v6 _ =>
      netlink (.addRoute dst prefixLen gateway) fun table =>
        some (table.add (RouteKey.of dst prefixLen)
          { gateway := some gateway, oif := some oif })
  | _, _ => throw (.familyMismatch dst prefixLen)

def addViaTun (dst : IpAddr) (prefixLen : Nat) : RouteM Unit := do
  let self ← readManager
  netlink (.addSplitRoute dst prefixLen) fun table =>
    some (table.add (RouteKey.of dst prefixLen)
      { gateway := none, oif := some self.tunIndex })

def delRoute (dst : IpAddr) (prefixLen oif : Nat) (gateway : Option IpAddr) :
    RouteM Unit :=
  netlink (.deleteRoute dst prefixLen) fun table =>
    let key := RouteKey.of dst prefixLen
    if table.hits key oif gateway then some (table.delete key) else none

namespace RouteManager

def new (proxyIp : IpAddr) (tunIndex : Nat) (dnsServer : Option IpAddr)
    (bypass : CidrList) (captureIpv6 : Bool) : RouteManager :=
  { proxyIp := proxyIp
    tunIndex := tunIndex
    dns := ResolvConf.system
    dnsServer := dnsServer
    bypass := bypass
    captureIpv6 := captureIpv6
    v4Gateway := none
    v6Gateway := none
    applied := false }

def gatewayFor (self : RouteManager) : IpAddr → Option (IpAddr × Nat)
  | .v4 _ => self.v4Gateway.map fun (gateway, oif) => (.v4 gateway, oif)
  | .v6 _ => self.v6Gateway.map fun (gateway, oif) => (.v6 gateway, oif)

end RouteManager

/-- The route of one bypass entry; a family without gateway is skipped. -/
def addBypassRoute (dst : IpAddr) (prefixLen : Nat) : RouteM Unit := do
  let self ← readManager
  match self.gatewayFor dst with
  | some (gateway, oif) =>
      withContext (.addBypass dst prefixLen)
        (addViaGateway dst prefixLen gateway oif)
  | none => pure ()

def addBypassRoutes : CidrList → RouteM Unit
  | [] => pure ()
  | (dst, prefixLen) :: entries => do
      addBypassRoute dst prefixLen
      addBypassRoutes entries

/-- An error is only logged. -/
def delGatewayRoute (dst : IpAddr) (prefixLen : Nat) : RouteM Unit := do
  let self ← readManager
  match self.gatewayFor dst with
  | some (gateway, oif) => quietly (delRoute dst prefixLen oif (some gateway))
  | none => pure ()

def delBypassRoutes : CidrList → RouteM Unit
  | [] => pure ()
  | (dst, prefixLen) :: entries => do
      delGatewayRoute dst prefixLen
      delBypassRoutes entries

def addSplitRoutes : CidrList → RouteM Unit
  | [] => pure ()
  | (dst, prefixLen) :: entries => do
      addViaTun dst prefixLen
      addSplitRoutes entries

def delSplitRoutes : CidrList → RouteM Unit
  | [] => pure ()
  | (dst, prefixLen) :: entries => do
      let self ← readManager
      quietly (delRoute dst prefixLen self.tunIndex none)
      delSplitRoutes entries

/-- Run an operation of the `resolv.conf` configurator on the host's files. -/
def withDns
    (action : ResolvConf → Files → Except DnsError Unit × ResolvConf × Files) :
    RouteM Unit :=
  ofFun fun host =>
    match action host.manager.dns host.files with
    | (outcome, dns, files) =>
        (outcome.mapError .dns,
          { host with
            manager := { host.manager with dns := dns }
            files := files })

def protectProxy : RouteM Unit := do
  let self ← readManager
  match self.gatewayFor self.proxyIp with
  | none => throw (.noGateway self.proxyIp)
  | some (gateway, oif) =>
      withContext .protectProxy
        (addViaGateway self.proxyIp (hostPrefix self.proxyIp) gateway oif)

/-- IPv6 is captured only if asked for and if IPv6 can leave the host. -/
def RouteManager.capturesV6 (self : RouteManager) : Bool :=
  self.captureIpv6 && (self.v6Gateway.isSome || self.proxyIp.isIpv6)

def readGateways : RouteM Unit := do
  let v4Gateway ← readV4Gateway
  updateManager fun self => { self with v4Gateway := v4Gateway }
  let v6Gateway ← readV6Gateway
  updateManager fun self => { self with v6Gateway := v6Gateway }

def RouteManager.apply : RouteM Unit := do
  readGateways
  protectProxy
  let self ← readManager
  addBypassRoutes self.bypass
  addSplitRoutes v4Split
  addSplitRoutes (if self.capturesV6 then v6Split else [])
  withDns fun dns files => dns.apply files self.dnsServer
  updateManager fun self => { self with applied := true }

def moveProxyRoute (oldIp newIp : IpAddr) : RouteM Unit := do
  delGatewayRoute oldIp (hostPrefix oldIp)
  let self ← readManager
  match self.gatewayFor newIp with
  | none => throw (.noGatewayForNew newIp)
  | some (gateway, oif) =>
      withContext .newProxyRoute
        (addViaGateway newIp (hostPrefix newIp) gateway oif)
      updateManager fun self => { self with proxyIp := newIp }

def reloadDns (plan : ReloadPlan) : RouteM Unit := do
  if plan.dnsChanged then
    withDns fun dns files => dns.reload files plan.dns
    updateManager fun self => { self with dnsServer := plan.dns }

def reloadProxyRoute (plan : ReloadPlan) : RouteM Unit :=
  match plan.proxyRouteChange with
  | some (oldIp, newIp) => moveProxyRoute oldIp newIp
  | none => pure ()

def RouteManager.reload (plan : ReloadPlan) : RouteM Unit := do
  let self ← readManager
  if self.applied then
    reloadProxyRoute plan
    delBypassRoutes plan.bypassRemove
    addBypassRoutes plan.bypassAdd
    updateManager fun self => { self with bypass := plan.newBypass }
    reloadDns plan

def RouteManager.teardown : RouteM Unit := do
  let self ← readManager
  if self.applied then
    updateManager fun self => { self with applied := false }
    delGatewayRoute self.proxyIp (hostPrefix self.proxyIp)
    delBypassRoutes self.bypass
    delSplitRoutes v4Split
    delSplitRoutes (if self.captureIpv6 then v6Split else [])
    ofFun fun host =>
      let (dns, files) := host.manager.dns.restore host.files
      (.ok (), { host with
        manager := { host.manager with dns := dns }
        files := files })

end Cortado.Linux
