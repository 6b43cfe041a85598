import Cortado.Lib.Overlay
import Cortado.Lib.Shell
import Cortado.Macos.Dns
import Cortado.Tunnel

/-!
# The macOS route controller

Routes are added and deleted with the `route` command.  The system files a
route under its masked destination; it refuses to add a second route to a
destination and to delete one that is not there.  Whether the exit status of
the command says so is left open, and any command may fail for reasons of its
own.  A failed start or reload undoes nothing.
-/

namespace Cortado.Macos

open Net

inductive Hop where
  | gateway (addr : IpAddr)
  | interface (name : String)
  deriving DecidableEq, Repr

inductive Verb where
  | add
  | delete
  deriving DecidableEq, Repr

structure RouteCommand where
  verb : Verb
  dst : IpAddr
  prefixLen : Nat
  hop : Hop
  deriving DecidableEq, Repr

abbrev RoutingTable := RouteKey → Option Hop

namespace RouteCommand

def key (command : RouteCommand) : RouteKey :=
  RouteKey.of command.dst command.prefixLen

/-- The arguments of the `route` command. -/
def args (command : RouteCommand) : List String :=
  let verb := match command.verb with
    | .add => "add"
    | .delete => "delete"
  let inet := if command.dst.isIpv4 then "-inet" else "-inet6"
  let net := command.dst.display ++ "/" ++ toString command.prefixLen
  [verb, inet, "-net", net] ++
    match command.hop with
    | .gateway addr => [addr.display]
    | .interface name => ["-interface", name]

/-- The table after the command, unless it is refused.  A route is deleted by
its destination. -/
def effect (command : RouteCommand) (table : RoutingTable) :
    Option RoutingTable :=
  match command.verb, table command.key with
  | .add, none => some (Function.update table command.key (some command.hop))
  | .delete, some _ => some (Function.update table command.key none)
  | _, _ => none

end RouteCommand

inductive RouteError where
  | notRun
  | exited (args : List String) (status : Int)
  | noGateway (proxyIp : IpAddr)
  | pinProxy (cause : RouteError)
  | noGatewayForNew (proxyIp : IpAddr)
  | dns (cause : DnsError)
  deriving DecidableEq, Repr

/-- The outermost context of an error. -/
def RouteError.message : RouteError → String
  | .notRun => "failed to run route"
  | .exited args status =>
      "route [" ++ ", ".intercalate (args.map fun arg => "\"" ++ arg ++ "\"") ++
        "] exited with exit status: " ++ toString status
  | .noGateway proxyIp => "no default gateway for proxy " ++ proxyIp.display
  | .pinProxy _ => "failed to pin proxy host route"
  | .noGatewayForNew proxyIp => "no gateway for new proxy " ++ proxyIp.display
  | .dns cause => cause.message

structure MacosRoutes where
  proxyIp : IpAddr
  tunName : String
  bypass : CidrList
  captureIpv6 : Bool
  v4Gateway : Option IpAddr
  v6Gateway : Option IpAddr
  dns : NetworkSetupDns
  dnsServer : Option IpAddr
  applied : Bool

/-- The controller together with the system it acts on: the routing table,
what becomes of the next commands, whether a refused one exits with an error,
and what `route -n get` prints for the two default routes. -/
structure Mac where
  routes : MacosRoutes
  table : RoutingTable
  faults : Nat → Option CommandFault
  reportsRefusal : Bool
  v4Default : List Char
  v6Default : List Char

abbrev MacM := Shell Mac RouteError

def Mac.next (mac : Mac) : Mac :=
  { mac with faults := fun index => mac.faults (index + 1) }

def route (command : RouteCommand) : MacM Unit :=
  .ofFun fun mac =>
    match mac.faults 0 with
    | some .notRun => (.error .notRun, mac.next)
    | some (.exited status _) => (.error (.exited command.args status), mac.next)
    | none =>
        match command.effect mac.table with
        | some table => (.ok (), { mac.next with table := table })
        | none =>
            if mac.reportsRefusal then
              (.error (.exited command.args 1), mac.next)
            else (.ok (), mac.next)

/-- The output of a command, whatever its exit status. -/
def query (output : Mac → List Char) : MacM (Option (List Char)) :=
  .ofFun fun mac =>
    match mac.faults 0 with
    | some .notRun => (.ok none, mac.next)
    | some (.exited _ text) => (.ok (some text), mac.next)
    | none => (.ok (some (output mac)), mac.next)

/-- The first line that names a gateway by its address. -/
def parseGateway (text : List Char) : Option IpAddr :=
  (Text.lines text).findSome? fun line =>
    ((Text.trim line).dropPrefix? "gateway:".toList).bind fun rest =>
      IpAddr.parse? (String.ofList (Text.trim rest))

def defaultGateway (output : Mac → List Char) : MacM (Option IpAddr) := do
  let text ← query output
  return text.bind parseGateway

def self : MacM MacosRoutes := do
  let mac ← .current
  return mac.routes

def updateSelf (change : MacosRoutes → MacosRoutes) : MacM Unit :=
  .update fun mac => { mac with routes := change mac.routes }

def hostPrefix (addr : IpAddr) : Nat :=
  if addr.isIpv4 then 32 else 128

def v4Split : CidrList :=
  [(.v4 (Ipv4Addr.ofOctets 0 0 0 0), 1), (.v4 (Ipv4Addr.ofOctets 128 0 0 0), 1)]

def v6Split : CidrList :=
  [(.v6 (Ipv6Addr.ofSegments [0, 0, 0, 0, 0, 0, 0, 0]), 1),
    (.v6 (Ipv6Addr.ofSegments [0x8000, 0, 0, 0, 0, 0, 0, 0]), 1)]

namespace MacosRoutes

def new (cfg : ValidConfig) (proxyIp : IpAddr) (tunName : String)
    (captureIpv6 : Bool) (dns : NetworkSetupDns) : MacosRoutes :=
  { proxyIp := proxyIp
    tunName := tunName
    bypass := cfg.bypassRoutes
    captureIpv6 := captureIpv6
    v4Gateway := none
    v6Gateway := none
    dns := dns
    dnsServer := cfg.dnsAddr
    applied := false }

def gatewayFor (self : MacosRoutes) : IpAddr → Option IpAddr
  | .v4 _ => self.v4Gateway
  | .v6 _ => self.v6Gateway

/-- IPv6 is captured only if asked for and if IPv6 can leave the host. -/
def capturesV6 (self : MacosRoutes) : Bool :=
  self.captureIpv6 && (self.v6Gateway.isSome || self.proxyIp.isIpv6)

end MacosRoutes

def addHostViaGateway (dst : IpAddr) (prefixLen : Nat) (gateway : IpAddr) :
    MacM Unit :=
  route { verb := .add, dst, prefixLen, hop := .gateway gateway }

def pinProxy : MacM Unit := do
  let self ← self
  match self.gatewayFor self.proxyIp with
  | none => throw (.noGateway self.proxyIp)
  | some gateway =>
      .withContext .pinProxy
        (addHostViaGateway self.proxyIp (hostPrefix self.proxyIp) gateway)

/-- A family without gateway is skipped. -/
def addBypass (entry : IpAddr × Nat) : MacM Unit := do
  let self ← self
  match self.gatewayFor entry.1 with
  | some gateway => addHostViaGateway entry.1 entry.2 gateway
  | none => pure ()

def deleteViaGateway (entry : IpAddr × Nat) : MacM Unit := do
  let self ← self
  match self.gatewayFor entry.1 with
  | some gateway =>
      .quietly (route
        { verb := .delete, dst := entry.1, prefixLen := entry.2
          hop := .gateway gateway })
  | none => pure ()

def addSplit (entry : IpAddr × Nat) : MacM Unit := do
  let self ← self
  route
    { verb := .add, dst := entry.1, prefixLen := entry.2
      hop := .interface self.tunName }

def deleteSplit (entry : IpAddr × Nat) : MacM Unit := do
  let self ← self
  .quietly (route
    { verb := .delete, dst := entry.1, prefixLen := entry.2
      hop := .interface self.tunName })

/-- Run an operation of the configurator of the name servers. -/
def withDns
    (action : NetworkSetupDns → Except DnsError Unit × NetworkSetupDns) :
    MacM Unit :=
  .ofFun fun mac =>
    let (outcome, dns) := action mac.routes.dns
    (outcome.mapError .dns, { mac with routes := { mac.routes with dns := dns } })

def readGateways : MacM Unit := do
  let v4Gateway ← defaultGateway Mac.v4Default
  updateSelf fun self => { self with v4Gateway := v4Gateway }
  let v6Gateway ← defaultGateway Mac.v6Default
  updateSelf fun self => { self with v6Gateway := v6Gateway }

def moveProxyRoute (oldIp newIp : IpAddr) : MacM Unit := do
  deleteViaGateway (oldIp, hostPrefix oldIp)
  let self ← self
  match self.gatewayFor newIp with
  | none => throw (.noGatewayForNew newIp)
  | some gateway =>
      addHostViaGateway newIp (hostPrefix newIp) gateway
      updateSelf fun self => { self with proxyIp := newIp }

def reloadProxyRoute (plan : ReloadPlan) : MacM Unit :=
  match plan.proxyRouteChange with
  | some (oldIp, newIp) => moveProxyRoute oldIp newIp
  | none => pure ()

def reloadDns (plan : ReloadPlan) : MacM Unit :=
  if plan.dnsChanged then do
    withDns fun dns => dns.reload plan.dns
    updateSelf fun self => { self with dnsServer := plan.dns }
  else pure ()

namespace MacosRoutes

/-- The part of `apply` that follows the search for gateways. -/
def configure : MacM Unit := do
  pinProxy
  let self ← self
  .forEach addBypass self.bypass
  .forEach addSplit v4Split
  .forEach addSplit (if self.capturesV6 then v6Split else [])
  withDns fun dns => dns.apply self.dnsServer
  updateSelf fun self => { self with applied := true }

def apply : MacM Unit := do
  readGateways
  configure

def reload (plan : ReloadPlan) : MacM Unit := do
  let self ← self
  if self.applied then
    reloadProxyRoute plan
    .forEach deleteViaGateway plan.bypassRemove
    .forEach addBypass plan.bypassAdd
    updateSelf fun self => { self with bypass := plan.newBypass }
    reloadDns plan
  else pure ()

def teardown : MacM Unit := do
  let self ← self
  if self.applied then
    updateSelf fun self => { self with applied := false }
    deleteViaGateway (self.proxyIp, hostPrefix self.proxyIp)
    .forEach deleteViaGateway self.bypass
    .forEach deleteSplit v4Split
    .forEach deleteSplit (if self.captureIpv6 then v6Split else [])
    withDns fun dns => (.ok (), dns.restore)
  else pure ()

end MacosRoutes

/-- The controller that is read is the one of the state. -/
theorem ends_self {α : Type} {routes : MacosRoutes} {pre : Mac → Prop}
    {next : MacosRoutes → MacM α} {ok : α → Mac → Prop} {failed : Mac → Prop}
    (reads : ∀ mac, pre mac → mac.routes = routes)
    (continued : Shell.Ends pre (next routes) ok failed) :
    Shell.Ends pre (self >>= next) ok failed := by
  intro mac holds
  have read : Shell.exec self mac = (.ok routes, mac) := by
    rw [← reads mac holds]
    rfl
  rw [Shell.exec_bind, read]
  exact continued mac holds

instance : RouteController Mac RouteError where
  apply := MacosRoutes.apply.exec
  reload plan := (MacosRoutes.reload plan).exec
  teardown := MacosRoutes.teardown.exec

/-- What the process finds on the host when it starts. -/
structure Boot where
  table : RoutingTable
  faults : Nat → Option CommandFault
  reportsRefusal : Bool
  v4Default : List Char
  v6Default : List Char
  service : List Char
  dns : ServiceDns
  tunName : String
  captureIpv6 : Bool

namespace Boot

/-- The controller `run` constructs, before it is applied. -/
def mac (boot : Boot) (cfg : ValidConfig) : Mac :=
  { routes := MacosRoutes.new cfg cfg.proxySocketAddr.ip boot.tunName
      boot.captureIpv6 (.discover boot.service boot.dns)
    table := boot.table
    faults := boot.faults
    reportsRefusal := boot.reportsRefusal
    v4Default := boot.v4Default
    v6Default := boot.v6Default }

/-- The running process once the routes are configured. -/
def tunnel (cfg : ValidConfig) (mac : Mac) : Tunnel Mac :=
  { currentCfg := cfg
    controller := mac
    shared :=
      { proxy := ProxyConfig.fromConfig cfg
        routes := RouteTable.new cfg.bypassRoutes }
    dnsProxy := ProxyConfig.fromConfig cfg }

/-- A start that fails leaves the routes it has added. -/
def start (boot : Boot) (cfg : ValidConfig) :
    Except RouteError (Tunnel Mac) :=
  match MacosRoutes.apply.exec (boot.mac cfg) with
  | (.ok (), mac) => .ok (tunnel cfg mac)
  | (.error error, _) => .error error

/-- No command fails for reasons of its own, and those that are refused say
so. -/
structure Reliable (boot : Boot) : Prop where
  faults : boot.faults = fun _ => none
  refusals : boot.reportsRefusal = true
  dns : boot.dns.faults = fun _ => none

end Boot

end Cortado.Macos
