import Cortado.Macos.Teardown

/-!
# Routes that are not on record

A route the controller has no record of is never deleted or replaced,
whichever commands fail, as long as a refused command reports it.  Such a
route may be the user's own.  It may also be one that a failed reload has left
behind: then no later reload can ask for it, since the system refuses to add
it, and teardown leaves it in the table.
-/

namespace Cortado.Macos

open Net Shell KeyedTable Transition

/-- The route stands, on a system that reports refusals. -/
structure Keeps (key : RouteKey) (hop : Hop) (routes : MacosRoutes)
    (mac : Mac) : Prop where
  routes : mac.routes = routes
  refusals : mac.reportsRefusal = true
  present : mac.table key = some hop

/-- What no reload changes. -/
def MacosRoutes.settled (self : MacosRoutes) :
    Option IpAddr × Option IpAddr × Bool :=
  (self.v4Gateway, self.v6Gateway, self.captureIpv6)

/-- The route stands, and neither the controller nor the configuration knows
it.  A `route` command that the system refuses says so by its exit status. -/
structure Unrecorded (key : RouteKey) (hop : Hop)
    (settled : Option IpAddr × Option IpAddr × Bool) (cfg : ValidConfig)
    (mac : Mac) : Prop where
  settled : mac.routes.settled = settled
  refusals : mac.reportsRefusal = true
  applied : mac.routes.applied = true
  present : mac.table key = some hop
  recorded : key ∉ mac.routes.managed
  configured : key ∉ (mac.routes.following cfg).managed

variable {key : RouteKey} {hop : Hop} {routes : MacosRoutes}
  {settled : Option IpAddr × Option IpAddr × Bool} {failed : Mac → Prop}

theorem Unrecorded.of_keeps {cfg : ValidConfig} {mac : Mac}
    (keeps : Keeps key hop routes mac) (isSettled : routes.settled = settled)
    (applied : routes.applied = true) (recorded : key ∉ routes.managed)
    (configured : key ∉ (routes.following cfg).managed) :
    Unrecorded key hop settled cfg mac := by
  obtain ⟨rfl, refusals, present⟩ := keeps
  exact ⟨isSettled, refusals, applied, present, recorded, configured⟩

theorem managed_following_congr {left right : MacosRoutes}
    (same : left.settled = right.settled) (cfg : ValidConfig) :
    (left.following cfg).managed = (right.following cfg).managed := by
  cases left
  cases right
  simp only [MacosRoutes.settled, Prod.mk.injEq] at same
  obtain ⟨rfl, rfl, rfl⟩ := same
  rfl

theorem Unrecorded.keeps {cfg : ValidConfig} {mac : Mac}
    (unrecorded : Unrecorded key hop settled cfg mac) :
    Keeps key hop mac.routes mac :=
  ⟨rfl, unrecorded.refusals, unrecorded.present⟩

/-! ## Commands -/

/-- An addition that succeeds is another route's. -/
theorem keeps_add (dst : IpAddr) (prefixLen : Nat) (via : Hop) :
    Ends (Keeps key hop routes) (route ⟨.add, dst, prefixLen, via⟩)
      (fun _ mac => Keeps key hop routes mac ∧
        RouteKey.of dst prefixLen ≠ key)
      (Keeps key hop routes) := by
  rintro mac ⟨routesEq, refusals, present⟩
  rw [route, exec_ofFun]
  have unchanged : Keeps key hop routes mac.next :=
    ⟨routesEq, refusals, present⟩
  cases mac.faults 0 with
  | some fault =>
      cases fault with
      | notRun => exact unchanged
      | exited status output => exact unchanged
  | none =>
      cases found : mac.table (RouteKey.of dst prefixLen) with
      | some other =>
          simpa [RouteCommand.effect, RouteCommand.key, found, refusals]
            using unchanged
      | none =>
          have different : RouteKey.of dst prefixLen ≠ key := by
            intro same
            rw [same, present] at found
            cases found
          simp only [RouteCommand.effect, RouteCommand.key, found]
          refine ⟨⟨routesEq, refusals, ?_⟩, different⟩
          change Function.update mac.table _ _ key = some hop
          rw [Function.update_of_ne different.symm, present]

theorem keeps_delete {dst : IpAddr} {prefixLen : Nat}
    (different : RouteKey.of dst prefixLen ≠ key) (via : Hop) :
    Ends (Keeps key hop routes)
      (quietly (route ⟨.delete, dst, prefixLen, via⟩))
      (fun _ => Keeps key hop routes) failed := by
  apply Ends.quietly
  rintro mac ⟨routesEq, refusals, present⟩
  rw [route, exec_ofFun]
  have unchanged : Keeps key hop routes mac.next :=
    ⟨routesEq, refusals, present⟩
  cases mac.faults 0 with
  | some fault =>
      cases fault with
      | notRun => exact unchanged
      | exited status output => exact unchanged
  | none =>
      cases found : mac.table (RouteKey.of dst prefixLen) with
      | none =>
          simpa [RouteCommand.effect, RouteCommand.key, found, refusals]
            using unchanged
      | some other =>
          simp only [RouteCommand.effect, RouteCommand.key, found]
          refine ⟨routesEq, refusals, ?_⟩
          change Function.update mac.table _ _ key = some hop
          rw [Function.update_of_ne different.symm, present]

theorem keeps_self {α : Type} {next : MacosRoutes → MacM α}
    {ok : α → Mac → Prop}
    (continued : Ends (Keeps key hop routes) (next routes) ok failed) :
    Ends (Keeps key hop routes) (self >>= next) ok failed :=
  ends_self (fun _ keeps => keeps.routes) continued

theorem keeps_updateSelf (change : MacosRoutes → MacosRoutes) :
    Ends (Keeps key hop routes) (updateSelf change)
      (fun _ => Keeps key hop (change routes)) failed := by
  apply Ends.update
  intro mac keeps
  exact ⟨congrArg change keeps.routes, keeps.refusals, keeps.present⟩

theorem not_mem_keysOf_singleton {entry : IpAddr × Nat} :
    key ∉ keysOf [entry] ↔ RouteKey.ofEntry entry ≠ key := by
  rw [keysOf_singleton, Set.mem_singleton_iff]
  exact ne_comm

theorem keeps_addBypass (entry : IpAddr × Nat) :
    Ends (Keeps key hop routes) (addBypass entry)
      (fun _ mac => Keeps key hop routes mac ∧
        key ∉ keysOf ([entry].filter routes.reaches))
      (Keeps key hop routes) := by
  apply keeps_self
  cases found : routes.gatewayFor entry.1 with
  | none =>
      rw [filter_reaches_of_none found, keysOf_nil]
      exact Ends.pure fun _ keeps => ⟨keeps, Set.notMem_empty key⟩
  | some gateway =>
      rw [filter_reaches_of_some found, not_mem_keysOf_singleton]
      exact keeps_add entry.1 entry.2 _

theorem keeps_deleteViaGateway {entry : IpAddr × Nat}
    (other : key ∉ keysOf ([entry].filter routes.reaches)) :
    Ends (Keeps key hop routes) (deleteViaGateway entry)
      (fun _ => Keeps key hop routes) failed := by
  apply keeps_self
  cases found : routes.gatewayFor entry.1 with
  | none => exact Ends.pure fun _ keeps => keeps
  | some gateway =>
      rw [filter_reaches_of_some found, not_mem_keysOf_singleton] at other
      exact keeps_delete other _

/-! ## Loops -/

theorem keeps_addBypasses (entries : CidrList) :
    Ends (Keeps key hop routes) (forEach addBypass entries)
      (fun _ mac => Keeps key hop routes mac ∧
        key ∉ keysOf (entries.filter routes.reaches))
      (Keeps key hop routes) := by
  have loop : Ends
      (fun mac => Keeps key hop routes mac ∧
        key ∉ keysOf ([].filter routes.reaches))
      (forEach addBypass entries)
      (fun _ mac => Keeps key hop routes mac ∧
        key ∉ keysOf (entries.filter routes.reaches))
      (Keeps key hop routes) := by
    apply Ends.forEach fun done mac => Keeps key hop routes mac ∧
      key ∉ keysOf (done.filter routes.reaches)
    intro done entry rest _
    apply Ends.assume
    intro others
    apply (keeps_addBypass entry).mono (fun _ keeps => keeps) _
      (fun _ stopped => stopped)
    intro _ mac added
    rw [List.filter_append, keysOf_append, Set.mem_union, not_or]
    exact ⟨added.1, others, added.2⟩
  apply loop.mono _ (fun _ _ added => added) (fun _ stopped => stopped)
  intro mac keeps
  rw [List.filter_nil, keysOf_nil]
  exact ⟨keeps, Set.notMem_empty key⟩

theorem keeps_deleteGatewayRoutes {entries : CidrList}
    (others : key ∉ keysOf (entries.filter routes.reaches)) :
    Ends (Keeps key hop routes) (forEach deleteViaGateway entries)
      (fun _ => Keeps key hop routes) failed := by
  apply Ends.forEach_invariant
  intro entry member
  apply keeps_deleteViaGateway
  intro isEntry
  obtain ⟨same, isSame, wanted, filed⟩ := mem_keysOf_filter.mp isEntry
  cases List.mem_singleton.mp isSame
  exact others (mem_keysOf_filter.mpr ⟨entry, member, wanted, filed⟩)

theorem keeps_deleteSplits {entries : CidrList}
    (others : key ∉ keysOf entries) :
    Ends (Keeps key hop routes) (forEach deleteSplit entries)
      (fun _ => Keeps key hop routes) failed := by
  apply Ends.forEach_invariant
  intro entry member
  apply keeps_self
  apply keeps_delete
  intro filed
  exact others ⟨entry, member, filed⟩

/-! ## Reload and teardown -/

theorem keeps_moveProxyRoute {oldIp newIp : IpAddr}
    (other : key ∉ keysOf ([MacosRoutes.pin oldIp].filter routes.reaches)) :
    Ends (Keeps key hop routes) (moveProxyRoute oldIp newIp)
      (fun _ mac => Keeps key hop { routes with proxyIp := newIp } mac ∧
        key ∉ keysOf ([MacosRoutes.pin newIp].filter routes.reaches))
      (Keeps key hop routes) := by
  apply Ends.bind (keeps_deleteViaGateway other)
  intro _
  apply keeps_self
  cases found : routes.gatewayFor newIp with
  | none => exact Ends.throw fun _ keeps => keeps
  | some gateway =>
      have filed : [MacosRoutes.pin newIp].filter routes.reaches =
          [MacosRoutes.pin newIp] := filter_reaches_of_some found
      rw [filed, not_mem_keysOf_singleton]
      apply Ends.bind (keeps_add newIp (hostPrefix newIp) _)
      intro _
      apply Ends.assume
      intro different
      exact (keeps_updateSelf _).mono (fun _ keeps => keeps)
        (fun _ _ keeps => ⟨keeps, different⟩) (fun _ stopped => stopped)

section Reload

variable {old new : ValidConfig}

theorem keeps_reloadProxyRoute (applied : routes.applied = true)
    (recorded : key ∉ routes.managed)
    (configured : key ∉ (routes.following old).managed) :
    Ends (Keeps key hop routes) (reloadProxyRoute (ReloadPlan.compute old new))
      (fun _ mac => ∃ proxyIp,
        Keeps key hop { routes with proxyIp := proxyIp } mac ∧
          key ∉ keysOf ([MacosRoutes.pin proxyIp].filter routes.reaches) ∧
          key ∉ keysOf
            ([MacosRoutes.pin new.proxySocketAddr.ip].filter routes.reaches))
      (Unrecorded key hop routes.settled old) := by
  have notPin : key ∉ keysOf
      ([MacosRoutes.pin old.proxySocketAddr.ip].filter routes.reaches) := by
    intro isPin
    exact configured (mem_managed.mpr (Or.inl isPin))
  unfold reloadProxyRoute
  cases change : (ReloadPlan.compute old new).proxyRouteChange with
  | none =>
      rw [ReloadPlan.proxyIp_of_unchanged change] at notPin
      apply Ends.pure
      intro mac keeps
      refine ⟨routes.proxyIp, keeps, ?_, notPin⟩
      intro isPin
      exact recorded (mem_managed.mpr (Or.inl isPin))
  | some ips =>
      obtain ⟨oldIp, newIp⟩ := ips
      obtain ⟨_, rfl, rfl⟩ := ReloadPlan.proxyRouteChange_eq_some change
      apply (keeps_moveProxyRoute notPin).mono (fun _ keeps => keeps)
      · intro _ mac moved
        exact ⟨_, moved.1, moved.2, moved.2⟩
      · intro mac keeps
        exact .of_keeps keeps rfl applied recorded configured

theorem keeps_reloadDns (plan : ReloadPlan)
    {stopped : Mac → Prop}
    (fails : ∀ mac dns, Keeps key hop { routes with dns := dns } mac →
      stopped mac) :
    Ends (Keeps key hop routes) (reloadDns plan)
      (fun _ mac => ∃ dns dnsServer,
        Keeps key hop { routes with dns := dns, dnsServer := dnsServer } mac)
      stopped := by
  unfold reloadDns
  split
  · have called : Ends (Keeps key hop routes)
        (withDns fun dns => dns.reload plan.dns)
        (fun _ => Keeps key hop
          { routes with dns := (routes.dns.reload plan.dns).2 }) stopped := by
      rintro mac ⟨rfl, refusals, present⟩
      rw [withDns, exec_ofFun]
      cases ended : mac.routes.dns.reload plan.dns with
      | mk outcome dns =>
          cases outcome with
          | error error => exact fails _ dns ⟨rfl, refusals, present⟩
          | ok => exact ⟨rfl, refusals, present⟩
    apply Ends.bind called
    intro _
    exact (keeps_updateSelf _).mono (fun _ keeps => keeps)
      (fun _ _ keeps => ⟨_, _, keeps⟩) (fun _ stopped => stopped)
  · apply Ends.pure
    intro mac keeps
    exact ⟨routes.dns, routes.dnsServer, keeps⟩

theorem not_mem_managed : key ∉ routes.managed ↔
    key ∉ keysOf ([MacosRoutes.pin routes.proxyIp].filter routes.reaches) ∧
      key ∉ keysOf (routes.bypass.filter routes.reaches) ∧
      key ∉ keysOf v4Split ∧ key ∉ keysOf routes.v6Deleted := by
  rw [mem_managed, not_or, not_or, not_or]

/-- What was not configured and has not been added is not configured. -/
theorem not_mem_new_bypass
    (before : key ∉ keysOf (old.bypassRoutes.filter routes.reaches))
    (added : key ∉ keysOf
      ((ReloadPlan.compute old new).bypassAdd.filter routes.reaches)) :
    key ∉ keysOf (new.bypassRoutes.filter routes.reaches) := by
  intro isNew
  obtain ⟨entry, member, wanted, filed⟩ := mem_keysOf_filter.mp isNew
  by_cases isOld : entry ∈ old.bypassRoutes
  · exact before (mem_keysOf_filter.mpr ⟨entry, isOld, wanted, filed⟩)
  · exact added (mem_keysOf_filter.mpr
      ⟨entry, ReloadPlan.mem_bypassAdd.mpr ⟨member, isOld⟩, wanted, filed⟩)

theorem not_mem_removed
    (before : key ∉ keysOf (old.bypassRoutes.filter routes.reaches)) :
    key ∉ keysOf
      ((ReloadPlan.compute old new).bypassRemove.filter routes.reaches) := by
  intro removed
  obtain ⟨entry, member, wanted, filed⟩ := mem_keysOf_filter.mp removed
  exact before (mem_keysOf_filter.mpr
    ⟨entry, (ReloadPlan.mem_bypassRemove.mp member).1, wanted, filed⟩)

theorem keeps_reload (new : ValidConfig) (applied : routes.applied = true)
    (recorded : key ∉ routes.managed)
    (configured : key ∉ (routes.following old).managed) :
    Ends (Keeps key hop routes)
      (MacosRoutes.reload (ReloadPlan.compute old new))
      (fun _ mac => Unrecorded key hop routes.settled new mac ∧
        key ∉ (routes.following new).managed)
      (Unrecorded key hop routes.settled old) := by
  obtain ⟨_, notRecorded, notV4, notV6⟩ := not_mem_managed.mp recorded
  obtain ⟨_, notBypass, _⟩ := not_mem_managed.mp configured
  apply keeps_self
  rw [if_pos applied]
  apply Ends.bind (keeps_reloadProxyRoute applied recorded configured)
  intro _
  apply Ends.exists
  intro proxyIp
  apply Ends.assume
  rintro ⟨notPin, notNewPin⟩
  apply Ends.bind
  · apply keeps_deleteGatewayRoutes
    exact not_mem_removed notBypass
  intro _
  apply Ends.bind
  · apply (keeps_addBypasses _).mono (fun _ keeps => keeps)
      (fun _ _ added => added)
    intro mac keeps
    exact .of_keeps keeps rfl applied
      (not_mem_managed.mpr ⟨notPin, notRecorded, notV4, notV6⟩) configured
  intro _
  apply Ends.assume
  intro notAdded
  have notNew := not_mem_new_bypass notBypass notAdded
  apply Ends.bind (keeps_updateSelf _)
  intro _
  apply (keeps_reloadDns _ _).mono (fun _ keeps => keeps)
  · rintro _ mac ⟨dns, dnsServer, keeps⟩
    have notAsked : key ∉ (routes.following new).managed :=
      not_mem_managed.mpr ⟨notNewPin, notNew, notV4, notV6⟩
    refine ⟨.of_keeps keeps rfl applied ?_ notAsked, notAsked⟩
    exact not_mem_managed.mpr ⟨notPin, notNew, notV4, notV6⟩
  · exact fun _ stopped => stopped
  · intro mac dns keeps
    exact .of_keeps keeps rfl applied
      (not_mem_managed.mpr ⟨notPin, notNew, notV4, notV6⟩) configured

end Reload

theorem keeps_teardown (recorded : key ∉ routes.managed) :
    Ends (Keeps key hop routes) MacosRoutes.teardown
      (fun _ mac => mac.table key = some hop)
      (fun mac => mac.table key = some hop) := by
  obtain ⟨notPin, notBypass, notV4, notV6⟩ := not_mem_managed.mp recorded
  apply keeps_self
  split
  · apply Ends.bind (keeps_updateSelf _)
    intro _
    apply Ends.bind
    · apply keeps_deleteViaGateway
      exact notPin
    intro _
    apply Ends.bind
    · apply keeps_deleteGatewayRoutes
      exact notBypass
    intro _
    apply Ends.bind (keeps_deleteSplits notV4)
    intro _
    apply Ends.bind (keeps_deleteSplits notV6)
    intro _ mac keeps
    exact keeps.present
  · exact Ends.pure fun _ keeps => keeps.present

/-! ## Whole runs -/

/-- The process after some reloads, however they end. -/
def reloadAll (tunnel : Tunnel Mac)
    (loads : List (Except LoadError ValidConfig)) : Tunnel Mac :=
  loads.foldl (fun tunnel loaded => (tunnel.applyReload loaded).2) tunnel

/-- A plan without effect asks for the same routes. -/
theorem Unrecorded.of_noop {old new : ValidConfig} {mac : Mac}
    (unrecorded : Unrecorded key hop settled old mac)
    (noop : (ReloadPlan.compute old new).isNoop = true) :
    Unrecorded key hop settled new mac := by
  obtain ⟨sameProxy, sameBypass, _⟩ := ReloadPlan.isNoop_compute noop
  have sameIp : old.proxySocketAddr.ip = new.proxySocketAddr.ip :=
    congrArg (fun proxy : ProxyConfig => proxy.addr.ip) sameProxy
  obtain ⟨notPin, notBypass, notSplit⟩ :=
    not_mem_managed.mp unrecorded.configured
  have notNew : key ∉ keysOf (new.bypassRoutes.filter mac.routes.reaches) := by
    intro isNew
    obtain ⟨entry, member, wanted, filed⟩ := mem_keysOf_filter.mp isNew
    exact notBypass (mem_keysOf_filter.mpr
      ⟨entry, (sameBypass entry).mpr member, wanted, filed⟩)
  have notNewPin : key ∉ keysOf
      ([MacosRoutes.pin new.proxySocketAddr.ip].filter mac.routes.reaches) := by
    rw [← sameIp]
    exact notPin
  exact { unrecorded with
    configured := not_mem_managed.mpr ⟨notNewPin, notNew, notSplit⟩ }

/-- A reload that succeeds did not ask for the route. -/
theorem Unrecorded.applyReload {tunnel : Tunnel Mac}
    (unrecorded : Unrecorded key hop settled tunnel.currentCfg
      tunnel.controller) (cfg : ValidConfig) :
    let after := tunnel.applyReload (.ok cfg)
    Unrecorded key hop settled after.2.currentCfg after.2.controller ∧
      (after.1.outcome.isFailed = false →
        key ∉ (tunnel.controller.routes.following cfg).managed) := by
  have ends : Ends (Keeps key hop tunnel.controller.routes)
      (MacosRoutes.reload (ReloadPlan.compute tunnel.currentCfg cfg))
      (fun _ mac => Unrecorded key hop tunnel.controller.routes.settled cfg
          mac ∧
        key ∉ (tunnel.controller.routes.following cfg).managed)
      (Unrecorded key hop tunnel.controller.routes.settled
        tunnel.currentCfg) :=
    keeps_reload cfg unrecorded.applied unrecorded.recorded
      unrecorded.configured
  rw [unrecorded.settled] at ends
  rcases tunnel.applyReload_cases cfg with
    ⟨noop, outcome, result⟩ | ⟨error, controller, reloaded, outcome, result⟩ |
    ⟨controller, reloaded, outcome, result⟩
  · dsimp only
    rw [outcome, result]
    have same := unrecorded.of_noop noop
    exact ⟨same, fun _ => same.configured⟩
  · dsimp only
    rw [outcome, result]
    refine ⟨ends.of_error unrecorded.keeps reloaded, ?_⟩
    intro succeeded
    cases succeeded
  · dsimp only
    rw [outcome, result]
    obtain ⟨same, notAsked⟩ := ends.of_ok unrecorded.keeps reloaded
    exact ⟨same, fun _ => notAsked⟩

theorem Unrecorded.reloadAll {tunnel : Tunnel Mac}
    (unrecorded : Unrecorded key hop settled tunnel.currentCfg
      tunnel.controller) (loads : List (Except LoadError ValidConfig)) :
    Unrecorded key hop settled (reloadAll tunnel loads).currentCfg
      (reloadAll tunnel loads).controller := by
  induction loads generalizing tunnel with
  | nil => exact unrecorded
  | cons loaded loads induction =>
      cases loaded with
      | error error => exact induction unrecorded
      | ok cfg => exact induction (unrecorded.applyReload cfg).1

/-- A route that is not on record survives every sequence of reloads and the
teardown, whichever commands fail, and every reload that asks for it fails. -/
theorem unrecorded_stays {tunnel : Tunnel Mac}
    (unrecorded : Unrecorded key hop tunnel.controller.routes.settled
      tunnel.currentCfg tunnel.controller)
    (loads : List (Except LoadError ValidConfig)) :
    let last := reloadAll tunnel loads
    (MacosRoutes.teardown.exec last.controller).2.table key = some hop ∧
      ∀ cfg, key ∈ (tunnel.controller.routes.following cfg).managed →
        (last.applyReload (.ok cfg)).1.outcome.isFailed = true := by
  have after := unrecorded.reloadAll loads
  intro last
  constructor
  · have reached := keeps_teardown after.recorded last.controller after.keeps
    cases ended : MacosRoutes.teardown.exec last.controller with
    | mk outcome final =>
        rw [ended] at reached
        cases outcome with
        | ok => exact reached
        | error error => exact reached
  · intro cfg asked
    by_contra notFailed
    rw [← managed_following_congr after.settled cfg] at asked
    exact (after.applyReload cfg).2 (by simpa using notFailed) asked

instance (entries : CidrList) : Decidable (key ∈ keysOf entries) :=
  inferInstanceAs (Decidable (∃ entry ∈ entries, RouteKey.ofEntry entry = key))

instance : Decidable (key ∈ routes.managed) :=
  decidable_of_iff _ mem_managed.symm

instance (cfg : ValidConfig) (mac : Mac) :
    Decidable (Unrecorded key hop settled cfg mac) :=
  decidable_of_iff
    (mac.routes.settled = settled ∧ mac.reportsRefusal = true ∧
      mac.routes.applied = true ∧ mac.table key = some hop ∧
      key ∉ mac.routes.managed ∧ key ∉ (mac.routes.following cfg).managed)
    ⟨fun ⟨isSettled, refusals, applied, present, recorded, configured⟩ =>
        ⟨isSettled, refusals, applied, present, recorded, configured⟩,
      fun unrecorded => ⟨unrecorded.settled, unrecorded.refusals,
        unrecorded.applied, unrecorded.present, unrecorded.recorded,
        unrecorded.configured⟩⟩

/-- The second addition of the first reload fails. -/
def failingBoot : Boot :=
  { exampleBoot with
    faults := fun index => if index = 6 then some (.exited 1 []) else none }

/-- The first bypass route of `twoBypassConfig`. -/
def leftoverKey : RouteKey :=
  RouteKey.of (.v4 (Ipv4Addr.ofOctets 10 0 0 0)) 8

/-- The bypass route that a failed reload leaves behind outlives the process,
and the same configuration can never be loaded again. -/
theorem unrecorded_stays_leftover :
    ∃ tunnel, failingBoot.start v4ProxyConfig = .ok tunnel ∧
      tunnel.controller.table leftoverKey = none ∧
      ∀ loads, let last := reloadAll tunnel (.ok twoBypassConfig :: loads)
        ((MacosRoutes.teardown.exec last.controller).2.table
          leftoverKey).isSome = true ∧
        (last.applyReload (.ok twoBypassConfig)).1.outcome.isFailed =
          true := by
  have observed : ((failingBoot.start v4ProxyConfig).toOption.bind fun
      tunnel =>
        let after := (tunnel.applyReload (.ok twoBypassConfig)).2
        if tunnel.controller.table leftoverKey = none ∧
            leftoverKey ∈ (after.controller.routes.following
              twoBypassConfig).managed ∧
            Unrecorded leftoverKey
              (.gateway (.v4 (Ipv4Addr.ofOctets 192 168 1 1)))
              after.controller.routes.settled after.currentCfg
              after.controller then
          some ()
        else none) = some () := by
    decide +kernel
  obtain ⟨tunnel, started, observed⟩ := Option.bind_eq_some_iff.mp observed
  have started := Outcome.eq_ok_of_toOption_eq_some started
  obtain ⟨absent, asked, unrecorded⟩ :=
    (Option.ite_none_right_eq_some.mp observed).1
  refine ⟨tunnel, started, absent, ?_⟩
  intro loads last
  obtain ⟨stays, fails⟩ := unrecorded_stays unrecorded loads
  exact ⟨Option.isSome_of_eq_some stays, fails _ asked⟩

end Cortado.Macos
