import Cortado.Lib.Custody
import Cortado.Lib.Shell
import Cortado.Lib.Text
import Cortado.Net.AddrText
import Cortado.Tunnel

/-!
# The Windows route controller

Routes and name servers are set with `netsh`.  The model records every
command that is issued and lets any of them fail; what Windows makes of a
command is left open.
-/

namespace Cortado.Windows

open Net

inductive Family where
  | ipv4
  | ipv6
  deriving DecidableEq, Repr

def Family.of (addr : IpAddr) : Family :=
  if addr.isIpv4 then .ipv4 else .ipv6

def Family.arg : Family → String
  | .ipv4 => "ipv4"
  | .ipv6 => "ipv6"

inductive Via where
  | nexthop (addr : IpAddr)
  | interface (name : String)
  deriving DecidableEq, Repr

/-- The route that a command adds or deletes. -/
structure RouteTarget where
  family : Family
  dst : IpAddr
  prefixLen : Nat
  via : Via
  deriving DecidableEq, Repr

def RouteTarget.args (target : RouteTarget) : List String :=
  [target.dst.display ++ "/" ++ toString target.prefixLen,
    match target.via with
    | .nexthop addr => "nexthop=" ++ addr.display
    | .interface name => "interface=" ++ name]

inductive NetshCommand where
  | addRoute (target : RouteTarget)
  | deleteRoute (target : RouteTarget)
  | setStatic (interface : String) (dns : IpAddr)
  | setDhcp (interface : String) (family : Family)
  deriving DecidableEq, Repr

def NetshCommand.args : NetshCommand → List String
  | .addRoute target =>
      ["interface", target.family.arg, "add", "route"] ++ target.args ++
        ["store=active"]
  | .deleteRoute target =>
      ["interface", target.family.arg, "delete", "route"] ++ target.args
  | .setStatic interface dns =>
      ["interface", (Family.of dns).arg, "set", "dnsservers",
        "name=" ++ interface, "static", dns.display, "primary"]
  | .setDhcp interface family =>
      ["interface", family.arg, "set", "dnsservers", "name=" ++ interface,
        "dhcp"]

inductive CommandFault where
  | notRun
  | exited (status : Int)
  deriving DecidableEq, Repr

inductive RouteError where
  | notRun
  | exited (args : List String) (status : Int)
  | pinProxy (cause : RouteError)
  | dnsNotRun
  | dnsExited (status : Int)
  deriving DecidableEq, Repr

/-- The outermost context of an error. -/
def RouteError.message : RouteError → String
  | .notRun => "failed to run netsh"
  | .exited args status =>
      "netsh [" ++ ", ".intercalate (args.map fun arg => "\"" ++ arg ++ "\"") ++
        "] exited with exit code: " ++ toString status
  | .pinProxy _ => "failed to pin proxy host route"
  | .dnsNotRun => "failed to run netsh set dnsservers"
  | .dnsExited status =>
      "netsh set dnsservers exited with exit code: " ++ toString status

/-- The configurator of the name servers. -/
structure NetshDns where
  interface : String
  current : Option IpAddr
  configured : Bool

structure WindowsRoutes where
  proxyIp : IpAddr
  interface : String
  bypass : CidrList
  captureIpv6 : Bool
  gateway : Option IpAddr
  dns : NetshDns
  dnsServer : Option IpAddr
  applied : Bool

/-- The controller, the commands it has issued, what becomes of the next ones
and what PowerShell prints as the next hop of the default route. -/
structure Machine where
  routes : WindowsRoutes
  issued : List NetshCommand
  faults : Nat → Option CommandFault
  nextHop : Option (List Char)

abbrev WinM := Shell Machine RouteError

def Machine.issue (machine : Machine) (command : NetshCommand) : Machine :=
  { machine with
    issued := machine.issued ++ [command]
    faults := fun index => machine.faults (index + 1) }

/-- Run a command, with the error for each of its faults. -/
def issue (command : NetshCommand) (failed : CommandFault → RouteError) :
    WinM Unit :=
  .ofFun fun machine =>
    (match machine.faults 0 with
      | none => .ok ()
      | some fault => .error (failed fault),
      machine.issue command)

def netsh (command : NetshCommand) : WinM Unit :=
  issue command fun
    | .notRun => .notRun
    | .exited status => .exited command.args status

def netshQuiet (command : NetshCommand) : WinM Unit :=
  .quietly (netsh command)

def self : WinM WindowsRoutes := do
  let machine ← .current
  return machine.routes

def updateSelf (change : WindowsRoutes → WindowsRoutes) : WinM Unit :=
  .update fun machine => { machine with routes := change machine.routes }

def defaultGateway : WinM (Option IpAddr) := do
  let machine ← .current
  return machine.nextHop.bind fun text =>
    IpAddr.parse? (String.ofList (Text.trim text))

/-! ## Name servers -/

def setStatic (interface : String) (dns : IpAddr) : WinM Unit :=
  issue (.setStatic interface dns) fun
    | .notRun => .dnsNotRun
    | .exited status => .dnsExited status

/-- Failures are ignored. -/
def setDhcp (interface : String) (family : Family) : WinM Unit :=
  netshQuiet (.setDhcp interface family)

namespace NetshDns

def new (interface : String) : NetshDns :=
  { interface := interface, current := none, configured := false }

def update (change : NetshDns → NetshDns) : WinM Unit :=
  updateSelf fun self => { self with dns := change self.dns }

def apply (server : Option IpAddr) : WinM Unit :=
  match server with
  | none => pure ()
  | some dns => do
      let self ← self
      setStatic self.dns.interface dns
      update fun self => { self with current := some dns, configured := true }

def reset (interface : String) : WinM Unit := do
  setDhcp interface .ipv4
  setDhcp interface .ipv6

def reload (server : Option IpAddr) : WinM Unit := do
  let self ← self
  if server = self.dns.current then pure ()
  else
    match server with
    | some dns =>
        setStatic self.dns.interface dns
        update fun self => { self with configured := true }
    | none =>
        reset self.dns.interface
        update fun self => { self with configured := false }
    update fun self => { self with current := server }

def restore : WinM Unit := do
  let self ← self
  if self.dns.configured then
    reset self.dns.interface
    update fun self => { self with configured := false, current := none }
  else pure ()

end NetshDns

/-! ## Routes -/

def hostPrefix (addr : IpAddr) : Nat :=
  if addr.isIpv4 then 32 else 128

/-- The ones of a netmask, wherever they are. -/
def maskToPrefix (mask : String) : Nat :=
  match Ipv4Addr.parse? mask with
  | some bits => (List.range 32).countP bits.getLsbD
  | none => 1

def v4Split : CidrList :=
  [(.v4 (Ipv4Addr.ofOctets 0 0 0 0), maskToPrefix "128.0.0.0"),
    (.v4 (Ipv4Addr.ofOctets 128 0 0 0), maskToPrefix "128.0.0.0")]

def v6Split : CidrList :=
  [(.v6 (Ipv6Addr.ofSegments [0, 0, 0, 0, 0, 0, 0, 0]), 1),
    (.v6 (Ipv6Addr.ofSegments [0x8000, 0, 0, 0, 0, 0, 0, 0]), 1)]

/-- The route of the proxy is an IPv4 one to `netsh`, whatever its family. -/
def pinTarget (proxyIp gateway : IpAddr) : RouteTarget :=
  { family := .ipv4
    dst := proxyIp
    prefixLen := hostPrefix proxyIp
    via := .nexthop gateway }

def bypassTarget (gateway : IpAddr) (entry : IpAddr × Nat) : RouteTarget :=
  { family := .of entry.1
    dst := entry.1
    prefixLen := entry.2
    via := .nexthop gateway }

def splitTarget (interface : String) (entry : IpAddr × Nat) : RouteTarget :=
  { family := .of entry.1
    dst := entry.1
    prefixLen := entry.2
    via := .interface interface }

namespace WindowsRoutes

def new (cfg : ValidConfig) (proxyIp : IpAddr) (interface : String)
    (captureIpv6 : Bool) : WindowsRoutes :=
  { proxyIp := proxyIp
    interface := interface
    bypass := cfg.bypassRoutes
    captureIpv6 := captureIpv6
    gateway := none
    dns := .new interface
    dnsServer := cfg.dnsAddr
    applied := false }

def pinProxy (self : WindowsRoutes) : WinM Unit :=
  match self.gateway with
  | some gateway =>
      .withContext .pinProxy
        (netsh (.addRoute (pinTarget self.proxyIp gateway)))
  | none => pure ()

/-- A bypass route that cannot be added is skipped. -/
def addBypass (self : WindowsRoutes) (entry : IpAddr × Nat) : WinM Unit :=
  match self.gateway with
  | some gateway => netshQuiet (.addRoute (bypassTarget gateway entry))
  | none => pure ()

def deleteBypass (self : WindowsRoutes) (entry : IpAddr × Nat) : WinM Unit :=
  match self.gateway with
  | some gateway => netshQuiet (.deleteRoute (bypassTarget gateway entry))
  | none => pure ()

def addSplitV4 (self : WindowsRoutes) : WinM Unit :=
  .forEach (fun entry => netsh (.addRoute (splitTarget self.interface entry)))
    v4Split

def addSplitV6 (self : WindowsRoutes) : WinM Unit :=
  .forEach
    (fun entry => netshQuiet (.addRoute (splitTarget self.interface entry)))
    (if self.captureIpv6 then v6Split else [])

def deleteSplit (self : WindowsRoutes) (entry : IpAddr × Nat) : WinM Unit :=
  netshQuiet (.deleteRoute (splitTarget self.interface entry))

/-- The part of `apply` that follows the search for the gateway. -/
def configure (self : WindowsRoutes) : WinM Unit := do
  self.pinProxy
  .forEach self.addBypass self.bypass
  self.addSplitV4
  self.addSplitV6
  NetshDns.apply self.dnsServer
  updateSelf fun self => { self with applied := true }

def apply : WinM Unit := do
  let gateway ← defaultGateway
  updateSelf fun self => { self with gateway := gateway }
  let self ← self
  self.configure

def moveProxyRoute (self : WindowsRoutes) (oldIp newIp : IpAddr) :
    WinM Unit := do
  match self.gateway with
  | some gateway =>
      netshQuiet (.deleteRoute (pinTarget oldIp gateway))
      netsh (.addRoute (pinTarget newIp gateway))
  | none => pure ()
  updateSelf fun self => { self with proxyIp := newIp }

def reloadProxyRoute (self : WindowsRoutes) (plan : ReloadPlan) : WinM Unit :=
  match plan.proxyRouteChange with
  | some (oldIp, newIp) => self.moveProxyRoute oldIp newIp
  | none => pure ()

def reloadDns (plan : ReloadPlan) : WinM Unit :=
  if plan.dnsChanged then do
    NetshDns.reload plan.dns
    updateSelf fun self => { self with dnsServer := plan.dns }
  else pure ()

def reload (plan : ReloadPlan) : WinM Unit := do
  let self ← self
  if self.applied then
    self.reloadProxyRoute plan
    .forEach self.deleteBypass plan.bypassRemove
    .forEach self.addBypass plan.bypassAdd
    updateSelf fun self => { self with bypass := plan.newBypass }
    reloadDns plan
  else pure ()

def unpinProxy (self : WindowsRoutes) : WinM Unit :=
  match self.gateway with
  | some gateway =>
      netshQuiet (.deleteRoute (pinTarget self.proxyIp gateway))
  | none => pure ()

/-- The routes of the gateway are deleted if there is one. -/
def deleteGatewayRoutes (self : WindowsRoutes) : WinM Unit := do
  self.unpinProxy
  .forEach self.deleteBypass self.bypass

def teardown : WinM Unit := do
  let self ← self
  if self.applied then
    updateSelf fun self => { self with applied := false }
    self.deleteGatewayRoutes
    .forEach self.deleteSplit v4Split
    .forEach self.deleteSplit (if self.captureIpv6 then v6Split else [])
    NetshDns.restore
  else pure ()

end WindowsRoutes

instance : RouteController Machine RouteError where
  apply := WindowsRoutes.apply.exec
  reload plan := (WindowsRoutes.reload plan).exec
  teardown := WindowsRoutes.teardown.exec

/-- What the process finds on the host when it starts. -/
structure Boot where
  faults : Nat → Option CommandFault
  nextHop : Option (List Char)
  interface : String
  captureIpv6 : Bool

namespace Boot

def machine (boot : Boot) (cfg : ValidConfig) : Machine :=
  { routes := .new cfg cfg.proxySocketAddr.ip boot.interface boot.captureIpv6
    issued := []
    faults := boot.faults
    nextHop := boot.nextHop }

def tunnel (cfg : ValidConfig) (machine : Machine) : Tunnel Machine :=
  { currentCfg := cfg
    controller := machine
    shared :=
      { proxy := ProxyConfig.fromConfig cfg
        routes := RouteTable.new cfg.bypassRoutes }
    dnsProxy := ProxyConfig.fromConfig cfg }

def start (boot : Boot) (cfg : ValidConfig) :
    Except RouteError (Tunnel Machine) :=
  match WindowsRoutes.apply.exec (boot.machine cfg) with
  | (.ok (), machine) => .ok (tunnel cfg machine)
  | (.error error, _) => .error error

end Boot

end Cortado.Windows
