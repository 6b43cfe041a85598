import Cortado.Macos.Unrecorded
import Cortado.Net.AddrChars

/-!
# Gateways with a zone

The default gateway of IPv6 is usually link-local, and `route` prints it with
the zone it is reached in.  The search for a link takes the line as it is; the
controller reads an address, and an address has no zone.  So IPv6 is to be
captured, and no route for it is ever added.
-/

namespace Cortado.Macos

open Net Shell KeyedTable

/-- How `route` introduces a gateway. -/
def gatewayLabel : List Char :=
  "gateway:".toList

/-- What `detect_link` asks the output of `route`. -/
def hasDefaultGateway (text : List Char) : Bool :=
  (Text.lines text).any fun line => gatewayLabel.isPrefixOf (Text.trim line)

/-- Every gateway of the text has a zone. -/
def Zoned (text : List Char) : Prop :=
  ∀ line ∈ Text.lines text, ∀ rest,
    (Text.trim line).dropPrefix? gatewayLabel = some rest → '%' ∈ rest

/-- IPv6 is captured where the search for a link has found a gateway. -/
def Boot.detect (boot : Boot) : Boot :=
  { boot with captureIpv6 := hasDefaultGateway boot.v6Default }

theorem parseGateway_of_zoned {text : List Char} (zoned : Zoned text) :
    parseGateway text = none := by
  have percent : ¬Reader.addrChar '%' := by
    unfold Reader.addrChar
    decide
  unfold parseGateway
  rw [List.findSome?_eq_none_iff]
  intro line member
  rw [Option.bind_eq_none_iff]
  intro rest dropped
  apply IpAddr.parse?_eq_none _ percent
  rw [String.toList_ofList]
  exact Text.mem_trim rfl (zoned line member rest dropped)

/-! ## Commands for IPv4 -/

/-- The IPv6 part of the table is the one of the base. -/
structure Spared (base : RoutingTable) (routes : MacosRoutes) (mac : Mac) :
    Prop where
  routes : mac.routes = routes
  spared : ∀ key, key.dst.isIpv6 = true → mac.table key = base key

variable {base : RoutingTable} {routes : MacosRoutes} {failed : Mac → Prop}

theorem spared_route {command : RouteCommand}
    (isV4 : command.dst.isIpv4 = true) :
    Ends (Spared base routes) (route command)
      (fun _ => Spared base routes) (Spared base routes) := by
  rintro mac ⟨routesEq, spared⟩
  have unchanged : Spared base routes mac.next := ⟨routesEq, spared⟩
  have update : ∀ hop, Spared base routes
      { mac.next with table := Function.update mac.table command.key hop } := by
    intro hop
    refine ⟨routesEq, ?_⟩
    intro key isV6
    have other : key ≠ command.key := by
      rintro rfl
      unfold RouteCommand.key RouteKey.of at isV6
      cases isDst : command.dst with
      | v4 addr =>
          rw [isDst] at isV6
          cases isV6
      | v6 addr =>
          rw [isDst] at isV4
          cases isV4
    change Function.update mac.table _ _ key = base key
    rw [Function.update_of_ne other, spared key isV6]
  rw [route, exec_ofFun]
  cases mac.faults 0 with
  | some fault =>
      cases fault with
      | notRun => exact unchanged
      | exited status output => exact unchanged
  | none =>
      cases effect : command.effect mac.table with
      | none =>
          cases reports : mac.reportsRefusal with
          | true => simpa [reports] using unchanged
          | false => simpa [reports] using unchanged
      | some table =>
          unfold RouteCommand.effect at effect
          split at effect
          · cases effect
            exact update _
          · cases effect
            exact update _
          · cases effect

theorem spared_self {α : Type} {next : MacosRoutes → MacM α}
    {ok : α → Mac → Prop}
    (continued : Ends (Spared base routes) (next routes) ok failed) :
    Ends (Spared base routes) (self >>= next) ok failed :=
  ends_self (fun _ spared => spared.routes) continued

theorem spared_updateSelf (change : MacosRoutes → MacosRoutes) :
    Ends (Spared base routes) (updateSelf change)
      (fun _ => Spared base (change routes)) failed := by
  apply Ends.update
  intro mac spared
  exact ⟨congrArg change spared.routes, spared.spared⟩

/-- Without IPv6 gateway, an address with a gateway is an IPv4 address. -/
theorem isIpv4_of_gatewayFor (missing : routes.v6Gateway = none)
    {addr gateway : IpAddr} (found : routes.gatewayFor addr = some gateway) :
    addr.isIpv4 = true := by
  cases addr with
  | v4 addr => rfl
  | v6 addr =>
      rw [MacosRoutes.gatewayFor, missing] at found
      cases found

theorem spared_addBypass (missing : routes.v6Gateway = none)
    (entry : IpAddr × Nat) :
    Ends (Spared base routes) (addBypass entry)
      (fun _ => Spared base routes) (Spared base routes) := by
  apply spared_self
  cases found : routes.gatewayFor entry.1 with
  | none => exact Ends.pure fun _ spared => spared
  | some gateway => exact spared_route (isIpv4_of_gatewayFor missing found)

theorem spared_deleteViaGateway (missing : routes.v6Gateway = none)
    (entry : IpAddr × Nat) :
    Ends (Spared base routes) (deleteViaGateway entry)
      (fun _ => Spared base routes) failed := by
  apply spared_self
  cases found : routes.gatewayFor entry.1 with
  | none => exact Ends.pure fun _ spared => spared
  | some gateway =>
      apply Ends.quietly
      exact spared_route (isIpv4_of_gatewayFor missing found)

/-- The controller that is left has no IPv6 gateway either. -/
def StillSpared (base : RoutingTable) (captureIpv6 : Bool) (mac : Mac) :
    Prop :=
  ∃ routes, Spared base routes mac ∧ routes.v6Gateway = none ∧
    routes.captureIpv6 = captureIpv6

theorem StillSpared.of_spared {mac : Mac} (missing : routes.v6Gateway = none)
    (spared : Spared base routes mac) :
    StillSpared base routes.captureIpv6 mac :=
  ⟨routes, spared, missing, rfl⟩

theorem spared_withDns (missing : routes.v6Gateway = none)
    (action : NetworkSetupDns → Except DnsError Unit × NetworkSetupDns) :
    Ends (Spared base routes) (withDns action)
      (fun _ mac => ∃ dns, Spared base { routes with dns := dns } mac)
      (StillSpared base routes.captureIpv6) := by
  rintro mac ⟨rfl, spared⟩
  rw [withDns, exec_ofFun]
  cases ended : action mac.routes.dns with
  | mk outcome dns =>
      cases outcome with
      | error error =>
          exact ⟨{ mac.routes with dns := dns }, ⟨rfl, spared⟩, missing, rfl⟩
      | ok => exact ⟨dns, rfl, spared⟩

/-! ## The start -/

/-- Only a proxy with an IPv4 address can be pinned. -/
theorem spared_pinProxy (missing : routes.v6Gateway = none) :
    Ends (Spared base routes) pinProxy
      (fun _ mac => Spared base routes mac ∧ routes.proxyIp.isIpv4 = true)
      (fun _ => True) := by
  apply spared_self
  cases found : routes.gatewayFor routes.proxyIp with
  | none => exact Ends.throw fun _ _ => trivial
  | some gateway =>
      have isV4 := isIpv4_of_gatewayFor missing found
      apply Ends.withContext
      exact (spared_route isV4).mono (fun _ spared => spared)
        (fun _ _ spared => ⟨spared, isV4⟩) (fun _ _ => trivial)

theorem capturesV6_eq_false (missing : routes.v6Gateway = none)
    (isV4 : routes.proxyIp.isIpv4 = true) : routes.capturesV6 = false := by
  cases isProxy : routes.proxyIp with
  | v4 addr => simp [MacosRoutes.capturesV6, missing, isProxy, IpAddr.isIpv6]
  | v6 addr =>
      rw [isProxy] at isV4
      cases isV4

theorem spared_configure (missing : routes.v6Gateway = none) :
    Ends (Spared base routes) MacosRoutes.configure
      (fun _ => StillSpared base routes.captureIpv6) (fun _ => True) := by
  apply Ends.bind (spared_pinProxy missing)
  intro _
  apply Ends.assume
  intro isV4
  apply spared_self
  apply Ends.bind
  · apply Ends.forEach_invariant
    intro entry _
    exact (spared_addBypass missing entry).mono (fun _ spared => spared)
      (fun _ _ spared => spared) (fun _ _ => trivial)
  intro _
  apply Ends.bind
  · apply Ends.forEach_invariant
    intro entry member
    apply spared_self
    have isSplit : entry.1.isIpv4 = true := by
      revert entry
      decide
    exact Ends.mono (spared_route isSplit) (fun _ spared => spared)
      (fun _ _ spared => spared) (fun _ _ => trivial)
  intro _
  have noSplit : Ends (Spared base routes)
      (forEach addSplit (if routes.capturesV6 then v6Split else []))
      (fun _ => Spared base routes) (fun _ => True) := by
    rw [capturesV6_eq_false missing isV4]
    exact Ends.pure fun _ spared => spared
  apply Ends.bind noSplit
  intro _
  apply Ends.bind
  · exact (spared_withDns missing _).mono (fun _ spared => spared)
      (fun _ _ spared => spared) (fun _ _ => trivial)
  intro _
  apply Ends.exists
  intro dns
  exact (spared_updateSelf _).mono (fun _ spared => spared)
    (fun _ _ spared => ⟨_, spared, missing, rfl⟩) (fun _ stopped => stopped)

/-- A search for a gateway takes one command. -/
theorem exec_defaultGateway (output : Mac → List Char) (mac : Mac) :
    ∃ gateway, (defaultGateway output).exec mac = (.ok gateway, mac.next) ∧
      (mac.faults 0 = none → gateway = parseGateway (output mac)) := by
  unfold defaultGateway query
  rw [exec_bind, exec_ofFun]
  cases mac.faults 0 with
  | none => exact ⟨_, rfl, fun _ => rfl⟩
  | some fault =>
      cases fault with
      | notRun => exact ⟨_, rfl, fun works => nomatch works⟩
      | exited status text => exact ⟨_, rfl, fun works => nomatch works⟩

/-- If the second search works, the controller reads what it prints. -/
theorem exec_readGateways {mac : Mac} (ran : mac.faults 1 = none) :
    ∃ v4Gateway, readGateways.exec mac =
      (.ok (), { mac.next.next with
        routes := mac.routes.withGateways v4Gateway
          (parseGateway mac.v6Default) }) := by
  obtain ⟨v4Gateway, first, _⟩ := exec_defaultGateway Mac.v4Default mac
  obtain ⟨v6Gateway, second, printed⟩ := exec_defaultGateway Mac.v6Default
    { mac.next with routes := { mac.routes with v4Gateway := v4Gateway } }
  have found : v6Gateway = parseGateway mac.v6Default := printed ran
  refine ⟨v4Gateway, ?_⟩
  have updated : (updateSelf fun self =>
      { self with v4Gateway := v4Gateway }).exec mac.next =
        (.ok (), { mac.next with
          routes := { mac.routes with v4Gateway := v4Gateway } }) :=
    rfl
  rw [readGateways, exec_bind_of_ok first, exec_bind_of_ok updated,
    exec_bind_of_ok second, found]
  rfl

theorem spared_apply {mac after : Mac} (zoned : Zoned mac.v6Default)
    (ran : mac.faults 1 = none)
    (applied : MacosRoutes.apply.exec mac = (.ok (), after)) :
    StillSpared mac.table mac.routes.captureIpv6 after := by
  obtain ⟨v4Gateway, read⟩ := exec_readGateways ran
  rw [parseGateway_of_zoned zoned] at read
  rw [MacosRoutes.apply, exec_bind_of_ok read] at applied
  have ends : Ends (Spared mac.table (mac.routes.withGateways v4Gateway none))
      MacosRoutes.configure
      (fun _ => StillSpared mac.table mac.routes.captureIpv6)
      (fun _ => True) := spared_configure rfl
  refine ends.of_ok ?_ applied
  exact ⟨rfl, fun _ _ => rfl⟩

/-! ## Reloads -/

theorem spared_moveProxyRoute (missing : routes.v6Gateway = none)
    (oldIp newIp : IpAddr) :
    Ends (Spared base routes) (moveProxyRoute oldIp newIp)
      (fun _ => Spared base { routes with proxyIp := newIp })
      (StillSpared base routes.captureIpv6) := by
  apply Ends.bind (spared_deleteViaGateway missing _)
  intro _
  apply spared_self
  cases found : routes.gatewayFor newIp with
  | none => exact Ends.throw fun _ spared => .of_spared missing spared
  | some gateway =>
      apply Ends.bind
      · exact Ends.mono (spared_route (isIpv4_of_gatewayFor missing found))
          (fun _ spared => spared) (fun _ _ spared => spared)
          (fun _ spared => .of_spared missing spared)
      intro _
      exact spared_updateSelf _

theorem spared_reloadProxyRoute (missing : routes.v6Gateway = none)
    (plan : ReloadPlan) :
    Ends (Spared base routes) (reloadProxyRoute plan)
      (fun _ mac => ∃ proxyIp,
        Spared base { routes with proxyIp := proxyIp } mac)
      (StillSpared base routes.captureIpv6) := by
  unfold reloadProxyRoute
  split
  · rename_i oldIp newIp _
    exact (spared_moveProxyRoute missing oldIp newIp).mono
      (fun _ spared => spared) (fun _ _ spared => ⟨_, spared⟩)
      (fun _ stopped => stopped)
  · exact Ends.pure fun _ spared => ⟨routes.proxyIp, spared⟩

theorem spared_reloadDns (missing : routes.v6Gateway = none)
    (plan : ReloadPlan) :
    Ends (Spared base routes) (reloadDns plan)
      (fun _ => StillSpared base routes.captureIpv6)
      (StillSpared base routes.captureIpv6) := by
  unfold reloadDns
  split
  · apply Ends.bind (spared_withDns missing _)
    intro _
    apply Ends.exists
    intro dns
    exact (spared_updateSelf _).mono (fun _ spared => spared)
      (fun _ _ spared => ⟨_, spared, missing, rfl⟩) (fun _ stopped => stopped)
  · exact Ends.pure fun _ spared => .of_spared missing spared

theorem spared_reload (missing : routes.v6Gateway = none)
    (plan : ReloadPlan) :
    Ends (Spared base routes) (MacosRoutes.reload plan)
      (fun _ => StillSpared base routes.captureIpv6)
      (StillSpared base routes.captureIpv6) := by
  apply spared_self
  split
  · apply Ends.bind (spared_reloadProxyRoute missing plan)
    intro _
    apply Ends.exists
    intro proxyIp
    have missing : MacosRoutes.v6Gateway { routes with proxyIp := proxyIp } =
      none := missing
    apply Ends.bind
    · apply Ends.forEach_invariant
      intro entry _
      exact spared_deleteViaGateway missing entry
    intro _
    apply Ends.bind
    · apply Ends.forEach_invariant
      intro entry _
      exact Ends.mono (spared_addBypass missing entry)
        (fun _ spared => spared) (fun _ _ spared => spared)
        (fun _ spared => ⟨_, spared, missing, rfl⟩)
    intro _
    apply Ends.bind (spared_updateSelf _)
    intro _
    apply spared_reloadDns
    exact missing
  · exact Ends.pure fun _ spared => .of_spared missing spared

theorem StillSpared.reload {captureIpv6 : Bool} {mac after : Mac}
    {outcome : Except RouteError Unit} {plan : ReloadPlan}
    (still : StillSpared base captureIpv6 mac)
    (reloaded : (MacosRoutes.reload plan).exec mac = (outcome, after)) :
    StillSpared base captureIpv6 after := by
  obtain ⟨routes, spared, missing, rfl⟩ := still
  cases outcome with
  | ok => exact (spared_reload missing plan).of_ok spared reloaded
  | error error => exact (spared_reload missing plan).of_error spared reloaded

theorem StillSpared.reloadAll {captureIpv6 : Bool} {tunnel : Tunnel Mac}
    (still : StillSpared base captureIpv6 tunnel.controller)
    (loads : List (Except LoadError ValidConfig)) :
    StillSpared base captureIpv6 (reloadAll tunnel loads).controller := by
  induction loads generalizing tunnel with
  | nil => exact still
  | cons loaded loads induction =>
      apply induction
      cases loaded with
      | error error => exact still
      | ok cfg =>
          dsimp only
          rcases tunnel.applyReload_cases cfg with
            ⟨_, _, result⟩ | ⟨error, controller, reloaded, _, result⟩ |
            ⟨controller, reloaded, _, result⟩
          · rw [result]
            exact still
          · rw [result]
            exact still.reload reloaded
          · rw [result]
            exact still.reload reloaded

/-- If every IPv6 gateway is printed with its zone, IPv6 is to be captured,
and yet no start and no reload ever touches an IPv6 route, whichever other
commands fail. -/
theorem ipv6_never_captured {boot : Boot} {cfg : ValidConfig}
    {tunnel : Tunnel Mac} (named : hasDefaultGateway boot.v6Default = true)
    (zoned : Zoned boot.v6Default) (ran : boot.faults 1 = none)
    (started : boot.detect.start cfg = .ok tunnel)
    (loads : List (Except LoadError ValidConfig)) :
    let last := reloadAll tunnel loads
    last.controller.routes.captureIpv6 = true ∧
      ∀ key : RouteKey, key.dst.isIpv6 = true →
        last.controller.table key = boot.table key := by
  have still : StillSpared boot.table true tunnel.controller := by
    unfold Boot.start at started
    cases applied : MacosRoutes.apply.exec (boot.detect.mac cfg) with
    | mk outcome mac =>
        rw [applied] at started
        cases outcome with
        | error error => cases started
        | ok =>
            cases started
            rw [← named]
            exact spared_apply zoned ran applied
  obtain ⟨routes, spared, _, captured⟩ := still.reloadAll loads
  refine ⟨?_, spared.spared⟩
  rw [spared.routes, captured]

/-- The usual IPv6 gateway of a home network. -/
def zonedBoot : Boot :=
  { exampleBoot with
    v6Default := "    gateway: fe80::1%en0\n  interface: en0\n".toList }

instance (text : List Char) : Decidable (Zoned text) :=
  decidable_of_iff (∀ line ∈ Text.lines text,
    ((Text.trim line).dropPrefix? gatewayLabel).all ('%' ∈ ·) = true) (by
      unfold Zoned
      simp [Option.all_eq_true])

theorem ipv6_never_captured_home :
    ∃ tunnel, zonedBoot.detect.start v4ProxyConfig = .ok tunnel ∧
      ∀ loads, let last := reloadAll tunnel loads
        last.controller.routes.captureIpv6 = true ∧
          ∀ key : RouteKey, key.dst.isIpv6 = true →
            last.controller.table key = zonedBoot.table key := by
  have starts :
      (zonedBoot.detect.start v4ProxyConfig).toOption.isSome = true := by
    decide +kernel
  obtain ⟨tunnel, isTunnel⟩ := Option.isSome_iff_exists.mp starts
  have started := Outcome.eq_ok_of_toOption_eq_some isTunnel
  refine ⟨tunnel, started, ?_⟩
  have named : hasDefaultGateway zonedBoot.v6Default = true := by
    decide +kernel
  have zoned : Zoned zonedBoot.v6Default := by
    decide +kernel
  exact ipv6_never_captured named zoned rfl started

end Cortado.Macos
