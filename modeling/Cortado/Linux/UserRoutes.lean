import Cortado.HotReload
import Cortado.Linux.Teardown

/-!
# Routes the user had before

Adding a route replaces whatever the table holds at its key, and deleting it
leaves the key empty.  A graceful run therefore costs the user every route at
a key it ever takes over, and no other, apart from routes of the user's over
the tunnel device at a split key.
-/

namespace Cortado.Linux

open Net Shell Transition

/-- The run takes a key over: the start does, or a later configuration routes
it through a gateway. -/
def Boot.Takes (boot : Boot) (cfg : ValidConfig) (configs : List ValidConfig)
    (key : RouteKey) : Prop :=
  (boot.controller cfg).Touches key ∨
    ∃ later ∈ configs, (boot.controller later).Claims key

instance (boot : Boot) (cfg : ValidConfig) (configs : List ValidConfig)
    (key : RouteKey) : Decidable (boot.Takes cfg configs key) :=
  inferInstanceAs (Decidable (_ ∨ ∃ later ∈ configs, _))

/-- The run keeps clear of the routes that are there before it. -/
def Boot.Spares (boot : Boot) (cfg : ValidConfig)
    (configs : List ValidConfig) : Prop :=
  ∀ key hop, boot.kernel key = some hop →
    ¬boot.Takes cfg configs key ∧
      ¬(key ∈ (boot.controller cfg).teardownKeys ∧
        hop.oif = some boot.tunIndex)

theorem Boot.controller_tracks (boot : Boot) (cfg : ValidConfig) :
    (boot.controller cfg).Tracks cfg :=
  ⟨rfl, fun _ => Iff.rfl⟩

/-- Between reloads that all succeed: keys taken over so far hold a route on
record or none, and all others what they held before the start. -/
structure Ledger (boot : Boot) (cfg : ValidConfig)
    (taken : RouteKey → Prop) (tunnel : Tunnel Host) : Prop where
  agree : CopiesAgree tunnel
  reliable : tunnel.controller.Reliable
  hops : tunnel.controller.manager.gatewayHop =
    (boot.controller cfg).gatewayHop
  tunIndex : tunnel.controller.manager.tunIndex = boot.tunIndex
  captureIpv6 : tunnel.controller.manager.captureIpv6 = boot.captureIpv6
  claimed : ∀ key, tunnel.controller.manager.Claims key → taken key
  untaken : ∀ key, ¬taken key →
    tunnel.controller.kernel key = boot.kernel key
  onRecord : ∀ key hop, taken key →
    tunnel.controller.kernel key = some hop →
    tunnel.controller.manager.Owns key hop

section Run

variable {boot : Boot} {cfg new : ValidConfig} {taken : RouteKey → Prop}
  {tunnel next : Tunnel Host}

theorem Ledger.tracks (ledger : Ledger boot cfg taken tunnel) :
    tunnel.controller.manager.Tracks tunnel.currentCfg :=
  ⟨ledger.agree.inEffect.proxyIp, ledger.agree.inEffect.bypass⟩

theorem ledger_of_start (reliable : boot.netlinkFaults = fun _ => false)
    (started : boot.start cfg = .ok tunnel) :
    Ledger boot cfg (boot.controller cfg).Touches tunnel := by
  have agree := copiesAgree_of_start started
  obtain ⟨host, applied, rfl⟩ := Boot.start_eq_ok started
  obtain ⟨dns, files, rfl, _, _⟩ :=
    exec_apply_eq_ok (Boot.host_reliable reliable cfg) applied
  refine
    { agree := agree
      reliable := reliable
      hops := rfl
      tunIndex := rfl
      captureIpv6 := rfl
      claimed := fun _ claims => Or.inr claims
      untaken := ?_
      onRecord := ?_ }
  · intro key untouched
    exact RouteManager.installed_of_untouched untouched boot.kernel
  · intro key hop touched present
    obtain ⟨added, installed, owned⟩ :=
      RouteManager.installed_of_touches touched boot.kernel
    cases installed.symm.trans present
    exact owned

/-- Keys taken over once a reload is through. -/
def takenBy (boot : Boot) (taken : RouteKey → Prop) (new : ValidConfig)
    (key : RouteKey) : Prop :=
  taken key ∨ (boot.controller new).Claims key

theorem Ledger.of_noop (ledger : Ledger boot cfg taken tunnel)
    (noop : (ReloadPlan.compute tunnel.currentCfg new).isNoop = true) :
    Ledger boot cfg (takenBy boot taken new)
      { tunnel with currentCfg := new } := by
  have agree := ledger.agree.of_noop noop
  have tracks : tunnel.controller.manager.Tracks new :=
    ⟨agree.inEffect.proxyIp, agree.inEffect.bypass⟩
  have sameTaken (key : RouteKey) : takenBy boot taken new key ↔ taken key := by
    constructor
    · intro either
      rcases either with before | claims
      · exact before
      · apply ledger.claimed
        exact (tracks.claims_iff (boot.controller_tracks new)
          ledger.hops).mpr claims
    · exact Or.inl
  refine
    { agree := agree
      reliable := ledger.reliable
      hops := ledger.hops
      tunIndex := ledger.tunIndex
      captureIpv6 := ledger.captureIpv6
      claimed := fun key claims => Or.inl (ledger.claimed key claims)
      untaken := ?_
      onRecord := ?_ }
  · intro key untaken
    exact ledger.untaken key (fun before => untaken (Or.inl before))
  · intro key hop isTaken
    exact ledger.onRecord key hop ((sameTaken key).mp isTaken)

theorem Ledger.of_reload {controller : Host}
    (ledger : Ledger boot cfg taken tunnel)
    (reloaded : (RouteManager.reload
      (ReloadPlan.compute tunnel.currentCfg new)).exec tunnel.controller =
        (.ok (), controller)) :
    Ledger boot cfg (takenBy boot taken new)
      (tunnel.switchTo new controller) := by
  have agree := ledger.agree.of_reload reloaded
  obtain ⟨_, dns, dnsServer, files, rfl⟩ :=
    exec_reload_eq_ok ledger.reliable ledger.agree.applied reloaded
  have claimsNew (key : RouteKey) :
      (tunnel.controller.manager.follow
        (ReloadPlan.compute tunnel.currentCfg new)).Claims key ↔
          (boot.controller new).Claims key :=
    ledger.tracks.follow.claims_iff (boot.controller_tracks new) ledger.hops
  refine
    { agree := agree
      reliable := ledger.reliable
      hops := ledger.hops
      tunIndex := ledger.tunIndex
      captureIpv6 := ledger.captureIpv6
      claimed := fun key claims => Or.inr ((claimsNew key).mp claims)
      untaken := ?_
      onRecord := ?_ }
  · intro key untaken
    rw [takenBy, not_or] at untaken
    have notOld : ¬tunnel.controller.manager.Claims key := by
      intro claims
      exact untaken.1 (ledger.claimed key claims)
    have kept := RouteManager.reloaded_of_unclaimed ledger.tracks notOld
      (mt (claimsNew key).mp untaken.2) tunnel.controller.kernel
    exact kept.trans (ledger.untaken key untaken.1)
  · intro key hop isTaken present
    by_cases before : taken key
    · rcases RouteManager.reloaded_eq_some ledger.tracks present with
        owned | ⟨held, notOwned⟩
      · exact owned
      · exact (notOwned (ledger.onRecord key hop before held)).elim
    · have claims : (boot.controller new).Claims key := by
        rcases isTaken with old | claims
        · exact (before old).elim
        · exact claims
      have notOld : ¬tunnel.controller.manager.Claims key := by
        intro old
        exact before (ledger.claimed key old)
      have isNew := (claimsNew key).mpr claims
      have added := RouteManager.reloaded_of_newlyClaimed ledger.tracks notOld
        isNew tunnel.controller.kernel
      exact Or.inl ⟨isNew.1, added.symm.trans present⟩

theorem Ledger.step (ledger : Ledger boot cfg taken tunnel)
    (stepped : Tunnel.reloadUnlessFailed tunnel new = some next) :
    Ledger boot cfg (takenBy boot taken new) next := by
  rcases Tunnel.reloadUnlessFailed_cases stepped with
    ⟨noop, rfl⟩ | ⟨controller, reloaded, rfl⟩
  · exact ledger.of_noop noop
  · exact ledger.of_reload reloaded

theorem Ledger.run {configs : List ValidConfig} {last : Tunnel Host}
    (ledger : Ledger boot cfg taken tunnel)
    (completed : Transition.run Tunnel.reloadUnlessFailed tunnel configs =
      some last) :
    Ledger boot cfg
      (fun key => taken key ∨
        ∃ later ∈ configs, (boot.controller later).Claims key) last := by
  induction configs generalizing tunnel taken with
  | nil =>
      cases completed
      simpa using ledger
  | cons new configs induction =>
      obtain ⟨next, stepped, rest⟩ := Option.bind_eq_some_iff.mp completed
      have final := induction (ledger.step stepped) rest
      simpa [takenBy, or_assoc] using final

/-- What teardown makes of one of the user's routes. -/
theorem Ledger.survives_iff (ledger : Ledger boot cfg taken tunnel)
    {key : RouteKey} {hop : NextHop} (before : boot.kernel key = some hop) :
    (RouteManager.teardown.exec tunnel.controller).2.kernel key = some hop ↔
      ¬taken key ∧
        ¬(key ∈ (boot.controller cfg).teardownKeys ∧
          hop.oif = some boot.tunIndex) := by
  have sameKeys : tunnel.controller.manager.teardownKeys =
      (boot.controller cfg).teardownKeys := by
    unfold RouteManager.teardownKeys
    rw [ledger.captureIpv6]
    rfl
  rw [exec_teardown_kernel ledger.reliable ledger.agree.applied]
  by_cases isTaken : taken key
  · refine iff_of_false ?_ (fun both => both.1 isTaken)
    intro remains
    cases present : tunnel.controller.kernel key with
    | none =>
        rw [RouteManager.tornDown_apply, present] at remains
        split at remains <;> cases remains
    | some held =>
        have owned := ledger.onRecord key held isTaken present
        rw [RouteManager.tornDown_of_owns present owned] at remains
        cases remains
  · have present := (ledger.untaken key isTaken).trans before
    have unclaimed : ¬(key ∈ tunnel.controller.manager.gatewayKeys ∧
        some hop = tunnel.controller.manager.gatewayHop key) := by
      intro both
      apply isTaken
      apply ledger.claimed
      refine ⟨both.1, ?_⟩
      rw [← both.2]
      rfl
    have overTunnel : tunnel.controller.kernel.hits key
        tunnel.controller.manager.tunIndex none = true ↔
          hop.oif = some boot.tunIndex := by
      simp [KernelTable.hits, present, NextHop.matchesRequest, ledger.tunIndex]
    rw [RouteManager.tornDown_apply]
    simp only [present, unclaimed, sameKeys, overTunnel, false_or, isTaken,
      not_false_eq_true, true_and]
    by_cases cleared : key ∈ (boot.controller cfg).teardownKeys ∧
        hop.oif = some boot.tunIndex
    · simp [cleared]
    · simp [cleared]

end Run

/-- After a graceful run the routes from before it are all there exactly if the
run kept clear of them. -/
theorem user_routes_exact (boot : Boot) (cfg : ValidConfig)
    (reliable : boot.netlinkFaults = fun _ => false)
    {tunnel last : Tunnel Host} (started : boot.start cfg = .ok tunnel)
    (configs : List ValidConfig)
    (completed : run Tunnel.reloadUnlessFailed tunnel configs = some last) :
    (∀ key hop, boot.kernel key = some hop →
      (RouteManager.teardown.exec last.controller).2.kernel key = some hop) ↔
      boot.Spares cfg configs := by
  have ledger := (ledger_of_start reliable started).run completed
  constructor
  · intro survive key hop before
    exact (ledger.survives_iff before).mp (survive key hop before)
  · intro spares key hop before
    exact (ledger.survives_iff before).mpr (spares key hop before)

/-- The default route survives reloads that take over other keys. -/
theorem user_routes_exact_moved :
    ∃ tunnel last,
      v4OnlyBoot.start v4ProxyConfig = .ok tunnel ∧
        run Tunnel.reloadUnlessFailed tunnel [v4ProxyConfig, movedConfig] =
          some last ∧
        ∀ key hop, v4OnlyBoot.kernel key = some hop →
          (RouteManager.teardown.exec last.controller).2.kernel key =
            some hop := by
  obtain ⟨tunnel, last, started, completed⟩ := v4OnlyBoot_reloads
  refine ⟨tunnel, last, started, completed, ?_⟩
  apply (user_routes_exact v4OnlyBoot v4ProxyConfig rfl started _
    completed).mpr
  intro key hop before
  have isDefault : key = RouteKey.of (.v4 0) 0 := by
    simp only [v4OnlyBoot] at before
    split at before
    · assumption
    · cases before
  subst isDefault
  constructor
  · decide +kernel
  · intro both
    have notSplit : RouteKey.of (.v4 0) 0 ∉
        (v4OnlyBoot.controller v4ProxyConfig).teardownKeys := by
      decide +kernel
    exact notSplit both.1

/-- A user with a route for a private network of their own. -/
def privateRouteBoot : Boot :=
  { v4OnlyBoot with
    kernel := v4OnlyBoot.kernel.add
      (RouteKey.of (.v4 (.ofOctets 10 0 0 0)) 8)
      { gateway := some (.v4 (.ofOctets 192 168 1 254))
        oif := some 2 } }

/-- A bypass entry for that network replaces the route, and teardown deletes
the replacement. -/
theorem private_route_lost :
    ∃ tunnel, privateRouteBoot.start movedConfig = .ok tunnel ∧
      privateRouteBoot.kernel (RouteKey.of (.v4 (.ofOctets 10 0 0 0)) 8) =
        some
          { gateway := some (.v4 (.ofOctets 192 168 1 254))
            oif := some 2 } ∧
      (RouteManager.teardown.exec tunnel.controller).2.kernel
        (RouteKey.of (.v4 (.ofOctets 10 0 0 0)) 8) = none := by
  have computed : (privateRouteBoot.start movedConfig).toOption.bind
      (fun tunnel => some
        ((RouteManager.teardown.exec tunnel.controller).2.kernel
          (RouteKey.of (.v4 (.ofOctets 10 0 0 0)) 8))) = some none := by
    decide +kernel
  obtain ⟨tunnel, started, gone⟩ := Boot.start_of_observed computed
  refine ⟨tunnel, started, ?_, Option.some.inj gone⟩
  decide +kernel

end Cortado.Linux
