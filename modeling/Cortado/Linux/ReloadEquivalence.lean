import Cortado.Lib.Transition
import Cortado.Linux.Boot

/-!
# Incremental reload against a fresh start

A reload edits the routing table along the difference of two configurations;
a fresh start builds it from nothing.  The difference is taken on the entries
as written, while the kernel knows them by their masked destination, and the
host route of the proxy, the bypass routes and the split routes share one key
space.  `always_equalsFresh_iff` says which reloads still lead to the table of
a fresh start.
-/

namespace Cortado.Linux

open Net KeyedTable Transition

/-- The table of a fresh start. -/
def Boot.fresh (boot : Boot) (cfg : ValidConfig) : KernelTable :=
  (boot.controller cfg).installed boot.kernel

/-- No route of the table is at a destination the controller would use. -/
def Boot.Unused (boot : Boot) (cfg : ValidConfig) : Prop :=
  ∀ key ∈ (boot.controller cfg).gatewayKeys ++
    (v4Split ++ v6Split).map RouteKey.ofEntry, boot.kernel key = none

/-- What a reload must avoid to end in the table of a fresh start.  An added
entry must not take a split route's place, a removed entry must not share its
key with a route that stays, and the old proxy's host route must not double as
an entry that is kept. -/
structure RouteManager.KeepsFresh (manager : RouteManager)
    (old new : ValidConfig) : Prop where
  added : ∀ entry ∈ new.bypassRoutes, entry ∉ old.bypassRoutes →
    (manager.gatewayFor entry.1).isSome →
    RouteKey.ofEntry entry ∉ manager.splitKeys
  removed : ∀ entry ∈ old.bypassRoutes, entry ∉ new.bypassRoutes →
    (manager.gatewayFor entry.1).isSome →
    RouteKey.ofEntry entry ∉ manager.splitKeys →
    (∃ other ∈ new.bypassRoutes, other ∉ old.bypassRoutes ∧
      RouteKey.ofEntry other = RouteKey.ofEntry entry) ∨
    (RouteKey.ofEntry entry ≠ RouteManager.hostKey new.proxySocketAddr.ip ∧
      ∀ other ∈ new.bypassRoutes,
        RouteKey.ofEntry other ≠ RouteKey.ofEntry entry)
  proxy : old.proxySocketAddr.ip ≠ new.proxySocketAddr.ip →
    (old.proxySocketAddr.ip, hostPrefix old.proxySocketAddr.ip) ∈
      old.bypassRoutes →
    (old.proxySocketAddr.ip, hostPrefix old.proxySocketAddr.ip) ∉
      new.bypassRoutes

section Keys

variable {old new : ValidConfig} {key : RouteKey}

/-- Keys of the entries a reload adds. -/
def addedKeys (old new : ValidConfig) : List RouteKey :=
  (ReloadPlan.compute old new).bypassAdd.map RouteKey.ofEntry

/-- Keys of the entries a reload removes. -/
def removedKeys (old new : ValidConfig) : List RouteKey :=
  (ReloadPlan.compute old new).bypassRemove.map RouteKey.ofEntry

def bypassKeys (cfg : ValidConfig) : List RouteKey :=
  cfg.bypassRoutes.map RouteKey.ofEntry

theorem mem_addedKeys :
    key ∈ addedKeys old new ↔
      ∃ entry ∈ new.bypassRoutes, entry ∉ old.bypassRoutes ∧
        RouteKey.ofEntry entry = key := by
  simp only [addedKeys, List.mem_map, ReloadPlan.mem_bypassAdd, and_assoc]

theorem mem_removedKeys :
    key ∈ removedKeys old new ↔
      ∃ entry ∈ old.bypassRoutes, entry ∉ new.bypassRoutes ∧
        RouteKey.ofEntry entry = key := by
  simp only [removedKeys, List.mem_map, ReloadPlan.mem_bypassRemove,
    and_assoc]

theorem mem_bypassKeys_of_added (added : key ∈ addedKeys old new) :
    key ∈ bypassKeys new := by
  obtain ⟨entry, member, _, rfl⟩ := mem_addedKeys.mp added
  exact List.mem_map_of_mem member

theorem mem_bypassKeys_of_removed (removed : key ∈ removedKeys old new) :
    key ∈ bypassKeys old := by
  obtain ⟨entry, member, _, rfl⟩ := mem_removedKeys.mp removed
  exact List.mem_map_of_mem member

/-- A key that is neither added nor removed belongs to both lists or to
none. -/
theorem mem_bypassKeys_iff (notAdded : key ∉ addedKeys old new)
    (notRemoved : key ∉ removedKeys old new) :
    key ∈ bypassKeys old ↔ key ∈ bypassKeys new := by
  simp only [bypassKeys, List.mem_map]
  constructor
  · intro found
    obtain ⟨entry, member, rfl⟩ := found
    by_cases kept : entry ∈ new.bypassRoutes
    · exact ⟨entry, kept, rfl⟩
    · exact absurd (mem_removedKeys.mpr ⟨entry, member, kept, rfl⟩) notRemoved
  · intro found
    obtain ⟨entry, member, rfl⟩ := found
    by_cases existing : entry ∈ old.bypassRoutes
    · exact ⟨entry, existing, rfl⟩
    · exact absurd (mem_addedKeys.mpr ⟨entry, member, existing, rfl⟩) notAdded

end Keys

namespace Boot

variable {boot : Boot} {old new : ValidConfig} {key : RouteKey}

theorem mem_gatewayKeys (cfg : ValidConfig) :
    key ∈ (boot.controller cfg).gatewayKeys ↔
      key = RouteManager.hostKey cfg.proxySocketAddr.ip ∨
        key ∈ bypassKeys cfg :=
  List.mem_cons

/-- Which families are captured does not depend on the proxy, as long as it
has a gateway. -/
theorem capturesV6_controller {cfg : ValidConfig}
    (found : ((boot.controller cfg).gatewayFor
      cfg.proxySocketAddr.ip).isSome) :
    (boot.controller cfg).capturesV6 =
      (boot.captureIpv6 && (v6GatewayOf boot.kernel).isSome) := by
  have unfolded : (boot.controller cfg).capturesV6 =
      (boot.captureIpv6 && ((v6GatewayOf boot.kernel).isSome ||
        cfg.proxySocketAddr.ip.isIpv6)) := rfl
  cases proxyIp : cfg.proxySocketAddr.ip with
  | v4 addr => simp [unfolded, proxyIp, IpAddr.isIpv6]
  | v6 addr =>
      have gateway : (v6GatewayOf boot.kernel).isSome := by
        rw [proxyIp] at found
        simpa [RouteManager.gatewayFor, controller,
          RouteManager.withGateways] using found
      simp [unfolded, gateway]

theorem splitKeys_controller
    (oldFound : ((boot.controller old).gatewayFor
      old.proxySocketAddr.ip).isSome)
    (newFound : ((boot.controller new).gatewayFor
      new.proxySocketAddr.ip).isSome) :
    (boot.controller new).splitKeys = (boot.controller old).splitKeys := by
  unfold RouteManager.splitKeys
  rw [capturesV6_controller oldFound, capturesV6_controller newFound]

/-- The table a reload makes of a fresh one. -/
def reloaded (boot : Boot) (old new : ValidConfig) : KernelTable :=
  (boot.controller old).reloaded (ReloadPlan.compute old new) (boot.fresh old)

/-- The table in between, where only the proxy's host route has moved. -/
def moved (boot : Boot) (old new : ValidConfig) : KernelTable :=
  (boot.controller old).moved (ReloadPlan.compute old new) (boot.fresh old)

theorem gatewayHop_controller (old new : ValidConfig) :
    (boot.controller new).gatewayHop = (boot.controller old).gatewayHop := by
  funext key
  cases key with
  | mk dst prefixLen => cases dst <;> rfl

variable {hop : NextHop}

theorem fresh_apply {cfg : ValidConfig}
    (hopEq : (boot.controller cfg).gatewayHop key = some hop)
    (notSplit : key ∉ (boot.controller cfg).splitKeys) :
    boot.fresh cfg key =
      if key ∈ (boot.controller cfg).gatewayKeys then some hop
      else boot.kernel key := by
  rw [fresh, RouteManager.installed_apply, if_neg notSplit, hopEq]
  simp

theorem fresh_split {cfg : ValidConfig}
    (split : key ∈ (boot.controller cfg).splitKeys) :
    boot.fresh cfg key = some (boot.controller cfg).tunHop := by
  rw [fresh, RouteManager.installed_apply, if_pos split]

theorem moved_apply
    (hopEq : (boot.controller old).gatewayHop key = some hop) :
    boot.moved old new key =
      if old.proxySocketAddr.ip = new.proxySocketAddr.ip then
        boot.fresh old key
      else if key = RouteManager.hostKey new.proxySocketAddr.ip then some hop
      else if key = RouteManager.hostKey old.proxySocketAddr.ip ∧
          boot.fresh old key = some hop then none
      else boot.fresh old key := by
  unfold moved RouteManager.moved
  by_cases same : old.proxySocketAddr.ip = new.proxySocketAddr.ip
  · have unchanged :
        (ReloadPlan.compute old new).proxyRouteChange = none := by
      simp [ReloadPlan.compute, same]
    rw [unchanged, if_pos same]
  · rw [ReloadPlan.proxyRouteChange_of_ne same, if_neg same]
    simp only [install_apply, uninstall_apply, List.mem_singleton, hopEq,
      Option.isSome_some, and_true]

theorem reloaded_apply
    (hopEq : (boot.controller old).gatewayHop key = some hop) :
    boot.reloaded old new key =
      if key ∈ addedKeys old new then some hop
      else if key ∈ removedKeys old new ∧
          boot.moved old new key = some hop then none
      else boot.moved old new key := by
  unfold reloaded RouteManager.reloaded
  simp only [install_apply, uninstall_apply, hopEq, Option.isSome_some,
    and_true]
  rfl

/-- Keys of a family without gateway are left alone. -/
theorem reloaded_of_noHop
    (noHop : (boot.controller old).gatewayHop key = none) :
    boot.reloaded old new key = boot.fresh old key := by
  unfold reloaded RouteManager.reloaded
  rw [install_apply_of_none noHop, uninstall_apply_of_none noHop]
  unfold RouteManager.moved
  cases (ReloadPlan.compute old new).proxyRouteChange with
  | none => rfl
  | some pair =>
      exact (install_apply_of_none noHop _ _).trans
        (uninstall_apply_of_none noHop _ _)

theorem fresh_of_noHop
    (sameSplit : (boot.controller new).splitKeys =
      (boot.controller old).splitKeys)
    (noHop : (boot.controller old).gatewayHop key = none) :
    boot.fresh new key = boot.fresh old key := by
  simp only [fresh, RouteManager.installed_apply, sameSplit,
    gatewayHop_controller old new, noHop, Option.isSome_none,
    Bool.false_eq_true, and_false, if_false]
  rfl

/-- A split route survives unless an added entry takes its place. -/
theorem reloaded_split_iff
    (sameSplit : (boot.controller new).splitKeys =
      (boot.controller old).splitKeys)
    (hopEq : (boot.controller old).gatewayHop key = some hop)
    (split : key ∈ (boot.controller old).splitKeys) :
    boot.reloaded old new key = boot.fresh new key ↔
      key ∉ addedKeys old new := by
  have notHost : ∀ addr, key ≠ RouteManager.hostKey addr := by
    intro addr equal
    rw [equal] at split
    exact RouteManager.hostKey_not_mem_splitKeys _ addr split
  have different : some (boot.controller old).tunHop ≠ some hop := by
    rw [← hopEq]
    exact ((boot.controller old).gatewayHop_ne_tunHop key).symm
  have freshNew : boot.fresh new key =
      some (boot.controller old).tunHop := by
    rw [← sameSplit] at split
    exact fresh_split split
  have movedEq : boot.moved old new key =
      some (boot.controller old).tunHop := by
    rw [moved_apply hopEq, fresh_split split]
    simp [notHost]
  rw [reloaded_apply hopEq, movedEq, freshNew]
  by_cases added : key ∈ addedKeys old new
  · simp only [added, if_true, not_true, iff_false]
    exact different.symm
  · simp [added, different]

section Gateway

variable (unusedOld : boot.Unused old)
  (sameSplit : (boot.controller new).splitKeys =
    (boot.controller old).splitKeys)
  (hopEq : (boot.controller old).gatewayHop key = some hop)
  (notSplit : key ∉ (boot.controller old).splitKeys)

include sameSplit hopEq notSplit

theorem fresh_new_apply :
    boot.fresh new key =
      if key ∈ (boot.controller new).gatewayKeys then some hop
      else boot.kernel key := by
  rw [← gatewayHop_controller old new] at hopEq
  rw [← sameSplit] at notSplit
  exact fresh_apply hopEq notSplit

theorem reloaded_added (added : key ∈ addedKeys old new) :
    boot.reloaded old new key = boot.fresh new key := by
  have inNew : key ∈ (boot.controller new).gatewayKeys :=
    (mem_gatewayKeys new).mpr (Or.inr (mem_bypassKeys_of_added added))
  rw [reloaded_apply hopEq, if_pos added,
    fresh_new_apply sameSplit hopEq notSplit, if_pos inNew]

include unusedOld

/-- A removed key is gone after the reload. -/
theorem reloaded_removed_iff (notAdded : key ∉ addedKeys old new)
    (removed : key ∈ removedKeys old new) :
    boot.reloaded old new key = boot.fresh new key ↔
      key ∉ (boot.controller new).gatewayKeys := by
  have inOld : key ∈ (boot.controller old).gatewayKeys :=
    (mem_gatewayKeys old).mpr (Or.inr (mem_bypassKeys_of_removed removed))
  have absent : boot.kernel key = none :=
    unusedOld key (List.mem_append_left _ inOld)
  have gone : boot.reloaded old new key = none := by
    rw [reloaded_apply hopEq, if_neg notAdded, moved_apply hopEq,
      fresh_apply hopEq notSplit, if_pos inOld]
    split_ifs <;> simp_all
  rw [gone, fresh_new_apply sameSplit hopEq notSplit, absent]
  by_cases inNew : key ∈ (boot.controller new).gatewayKeys
  · simp [inNew]
  · simp [inNew]

/-- A key of entries that stay is lost only with the old proxy's host
route. -/
theorem reloaded_kept_iff (notAdded : key ∉ addedKeys old new)
    (notRemoved : key ∉ removedKeys old new) :
    boot.reloaded old new key = boot.fresh new key ↔
      (old.proxySocketAddr.ip ≠ new.proxySocketAddr.ip →
        key = RouteManager.hostKey old.proxySocketAddr.ip →
        key ∉ bypassKeys new) := by
  have sameBypass := mem_bypassKeys_iff notAdded notRemoved
  have reloadedEq : boot.reloaded old new key = boot.moved old new key := by
    rw [reloaded_apply hopEq, if_neg notAdded, if_neg]
    exact fun both => notRemoved both.1
  rw [reloadedEq, moved_apply hopEq, fresh_apply hopEq notSplit,
    fresh_new_apply sameSplit hopEq notSplit]
  simp only [mem_gatewayKeys]
  by_cases same : old.proxySocketAddr.ip = new.proxySocketAddr.ip
  · simp [same, sameBypass]
  · by_cases isNew :
        key = RouteManager.hostKey new.proxySocketAddr.ip
    · have notOld : key ≠ RouteManager.hostKey old.proxySocketAddr.ip := by
        intro isOld
        exact same (RouteManager.hostKey_inj (isOld.symm.trans isNew))
      rw [if_neg same, if_pos isNew, if_pos (Or.inl isNew)]
      exact iff_of_true rfl (fun _ isOld => absurd isOld notOld)
    · by_cases isOld :
          key = RouteManager.hostKey old.proxySocketAddr.ip
      · have inOld : key ∈ (boot.controller old).gatewayKeys :=
          (mem_gatewayKeys old).mpr (Or.inl isOld)
        have absent : boot.kernel key = none :=
          unusedOld key (List.mem_append_left _ inOld)
        rw [if_neg same, if_neg isNew,
          if_pos ⟨isOld, if_pos (Or.inl isOld)⟩]
        by_cases kept : key ∈ bypassKeys new
        · rw [if_pos (Or.inr kept)]
          apply iff_of_false
          · simp
          · intro lost
            exact lost same isOld kept
        · rw [if_neg (not_or.mpr ⟨isNew, kept⟩), absent]
          exact iff_of_true rfl (fun _ _ => kept)
      · simp [same, isNew, isOld, sameBypass]

end Gateway

theorem gatewayHop_ofEntry (self : RouteManager) (entry : IpAddr × Nat) :
    (self.gatewayFor entry.1).isSome ↔
      ∃ hop, self.gatewayHop (RouteKey.ofEntry entry) = some hop := by
  rw [RouteKey.ofEntry, self.gatewayHop_of, ← Option.isSome_iff_exists,
    Option.isSome_map]

section Equivalence

variable (unusedOld : boot.Unused old)
  (sameSplit : (boot.controller new).splitKeys =
    (boot.controller old).splitKeys)
  (oldFound : ((boot.controller old).gatewayFor
    old.proxySocketAddr.ip).isSome)

include unusedOld sameSplit oldFound

theorem keepsFresh_of_reloaded
    (equal : ∀ key, boot.reloaded old new key = boot.fresh new key) :
    (boot.controller old).KeepsFresh old new where
  added := by
    intro entry inNew notOld found split
    obtain ⟨hop, hopEq⟩ := (gatewayHop_ofEntry _ entry).mp found
    have isAdded : RouteKey.ofEntry entry ∈ addedKeys old new :=
      mem_addedKeys.mpr ⟨entry, inNew, notOld, rfl⟩
    exact (reloaded_split_iff sameSplit hopEq split).mp (equal _) isAdded
  removed := by
    intro entry inOld notNew found notSplit
    obtain ⟨hop, hopEq⟩ := (gatewayHop_ofEntry _ entry).mp found
    have isRemoved : RouteKey.ofEntry entry ∈ removedKeys old new :=
      mem_removedKeys.mpr ⟨entry, inOld, notNew, rfl⟩
    by_cases added : RouteKey.ofEntry entry ∈ addedKeys old new
    · exact Or.inl (mem_addedKeys.mp added)
    · right
      have outside := (reloaded_removed_iff unusedOld sameSplit hopEq
        notSplit added isRemoved).mp (equal _)
      rw [mem_gatewayKeys, not_or] at outside
      refine ⟨outside.1, ?_⟩
      intro other member sameKey
      exact outside.2 (List.mem_map.mpr ⟨other, member, sameKey⟩)
  proxy := by
    intro different inOld inNew
    let entry := (old.proxySocketAddr.ip, hostPrefix old.proxySocketAddr.ip)
    have unique : ∀ other, RouteKey.ofEntry other = RouteKey.ofEntry entry →
        other = entry := by
      intro other sameKey
      exact (RouteKey.ofEntry_eq_hostKey_iff other _).mp sameKey
    obtain ⟨hop, hopEq⟩ := (gatewayHop_ofEntry _ entry).mp oldFound
    have notSplit := RouteManager.hostKey_not_mem_splitKeys
      (boot.controller old) old.proxySocketAddr.ip
    have notAdded : RouteKey.ofEntry entry ∉ addedKeys old new := by
      intro added
      obtain ⟨other, _, notOld, sameKey⟩ := mem_addedKeys.mp added
      rw [unique other sameKey] at notOld
      exact notOld inOld
    have notRemoved : RouteKey.ofEntry entry ∉ removedKeys old new := by
      intro removed
      obtain ⟨other, _, notNew, sameKey⟩ := mem_removedKeys.mp removed
      rw [unique other sameKey] at notNew
      exact notNew inNew
    exact (reloaded_kept_iff unusedOld sameSplit hopEq notSplit notAdded
      notRemoved).mp (equal _) different rfl (List.mem_map_of_mem inNew)

omit oldFound in
theorem reloaded_of_keepsFresh
    (keeps : (boot.controller old).KeepsFresh old new) (key : RouteKey) :
    boot.reloaded old new key = boot.fresh new key := by
  cases hopEq : (boot.controller old).gatewayHop key with
  | none =>
      rw [reloaded_of_noHop hopEq, fresh_of_noHop sameSplit hopEq]
  | some hop =>
      by_cases split : key ∈ (boot.controller old).splitKeys
      · rw [reloaded_split_iff sameSplit hopEq split]
        intro added
        obtain ⟨entry, inNew, notOld, rfl⟩ := mem_addedKeys.mp added
        exact keeps.added entry inNew notOld
          ((gatewayHop_ofEntry _ entry).mpr ⟨hop, hopEq⟩) split
      · by_cases added : key ∈ addedKeys old new
        · exact reloaded_added sameSplit hopEq split added
        · by_cases removed : key ∈ removedKeys old new
          · rw [reloaded_removed_iff unusedOld sameSplit hopEq split added
              removed, mem_gatewayKeys, not_or]
            obtain ⟨entry, inOld, notNew, rfl⟩ := mem_removedKeys.mp removed
            have found := (gatewayHop_ofEntry _ entry).mpr ⟨hop, hopEq⟩
            rcases keeps.removed entry inOld notNew found split with
              replaced | free
            · exact absurd (mem_addedKeys.mpr replaced) added
            · refine ⟨free.1, ?_⟩
              intro member
              obtain ⟨other, inNew, sameKey⟩ := List.mem_map.mp member
              exact free.2 other inNew sameKey
          · rw [reloaded_kept_iff unusedOld sameSplit hopEq split added
              removed]
            intro different isOld member
            have inOldKeys := (mem_bypassKeys_iff added removed).mpr member
            rw [isOld] at member inOldKeys
            exact keeps.proxy different
              (RouteKey.hostKey_mem_map.mp inOldKeys)
              (RouteKey.hostKey_mem_map.mp member)

end Equivalence

end Boot

/-! ## Runs of reloads -/

/-- The controller's host and the configuration it was last given. -/
structure LoadedHost where
  cfg : ValidConfig
  host : Host

/-- One reload along the plan for a new configuration, if it succeeds. -/
def LoadedHost.reload (state : LoadedHost) (new : ValidConfig) :
    Option LoadedHost :=
  match (RouteManager.reload (ReloadPlan.compute state.cfg new)).exec
      state.host with
  | (.ok (), host) => some { cfg := new, host := host }
  | (.error _, _) => none

/-- The kernel holds the table that a start would produce. -/
def EqualsFresh (boot : Boot) (state : LoadedHost) : Prop :=
  state.host.kernel =
    (RouteManager.apply.exec (boot.host state.cfg)).2.kernel

/-- What holds between reloads as long as the table is that of a fresh
start. -/
structure FreshInvariant (boot : Boot) (state : LoadedHost) : Prop where
  manager : ∃ dns dnsServer, state.host.manager =
    { boot.controller state.cfg with
      dns := dns
      dnsServer := dnsServer
      applied := true }
  kernel : state.host.kernel = boot.fresh state.cfg
  reliable : state.host.Reliable
  found : ((boot.controller state.cfg).gatewayFor
    state.cfg.proxySocketAddr.ip).isSome
  unused : boot.Unused state.cfg

theorem LoadedHost.reload_eq_some {state next : LoadedHost} {new : ValidConfig}
    (stepped : state.reload new = some next) :
    (RouteManager.reload (ReloadPlan.compute state.cfg new)).exec state.host =
        (.ok (), next.host) ∧
      next.cfg = new := by
  unfold LoadedHost.reload at stepped
  split at stepped
  · rename_i host reloaded
    cases stepped
    exact ⟨reloaded, rfl⟩
  · cases stepped

theorem equalsFresh_iff {boot : Boot} {state : LoadedHost}
    (reliable : boot.netlinkFaults = fun _ => false)
    (found : ((boot.controller state.cfg).gatewayFor
      state.cfg.proxySocketAddr.ip).isSome) :
    EqualsFresh boot state ↔ state.host.kernel = boot.fresh state.cfg := by
  rw [EqualsFresh,
    exec_apply_kernel (Boot.host_reliable reliable state.cfg) found]
  rfl

/-- The new proxy of a successful reload has a gateway. -/
theorem gatewayFor_of_canFollow {boot : Boot} {old new : ValidConfig}
    (oldFound : ((boot.controller old).gatewayFor
      old.proxySocketAddr.ip).isSome)
    (canFollow : (boot.controller old).CanFollow
      (ReloadPlan.compute old new)) :
    ((boot.controller new).gatewayFor new.proxySocketAddr.ip).isSome := by
  have sameGateways : ∀ addr, (boot.controller new).gatewayFor addr =
      (boot.controller old).gatewayFor addr := by
    intro addr
    cases addr <;> rfl
  rw [sameGateways]
  by_cases same : old.proxySocketAddr.ip = new.proxySocketAddr.ip
  · rw [← same]
    exact oldFound
  · exact canFollow _ _ (ReloadPlan.proxyRouteChange_of_ne same)

/-- A step from the invariant keeps all of it but the equality of tables. -/
theorem FreshInvariant.step {boot : Boot} {state next : LoadedHost}
    {new : ValidConfig} (invariant : FreshInvariant boot state)
    (unused : boot.Unused new) (stepped : state.reload new = some next) :
    next.cfg = new ∧
      next.host.kernel = boot.reloaded state.cfg new ∧
      (next.host.kernel = boot.fresh new → FreshInvariant boot next) ∧
      ((boot.controller new).gatewayFor new.proxySocketAddr.ip).isSome := by
  obtain ⟨dns, dnsServer, managerEq⟩ := invariant.manager
  obtain ⟨reloaded, cfgEq⟩ := LoadedHost.reload_eq_some stepped
  have applied : state.host.manager.applied = true := by
    rw [managerEq]
  obtain ⟨canFollow, laterDns, laterServer, files, hostEq⟩ :=
    exec_reload_eq_ok invariant.reliable applied reloaded
  have found : ((boot.controller new).gatewayFor
      new.proxySocketAddr.ip).isSome := by
    apply gatewayFor_of_canFollow invariant.found
    rw [managerEq] at canFollow
    exact canFollow
  have kernelEq : next.host.kernel = boot.reloaded state.cfg new := by
    rw [hostEq, invariant.kernel, managerEq]
    rfl
  have sameIp : state.host.manager.proxyIp = state.cfg.proxySocketAddr.ip := by
    rw [managerEq]
    rfl
  refine ⟨cfgEq, kernelEq, ?_, found⟩
  intro isFresh
  subst cfgEq
  exact
    { manager := by
        rw [hostEq, RouteManager.follow_compute sameIp, managerEq]
        exact ⟨laterDns, laterServer, rfl⟩
      kernel := isFresh
      reliable := by
        rw [hostEq]
        exact invariant.reliable
      found := found
      unused := unused }

theorem freshInvariant_of_apply {boot : Boot} {cfg : ValidConfig} {host : Host}
    (reliable : boot.netlinkFaults = fun _ => false)
    (unused : boot.Unused cfg)
    (applied : RouteManager.apply.exec (boot.host cfg) = (.ok (), host)) :
    FreshInvariant boot { cfg := cfg, host := host } := by
  obtain ⟨dns, files, rfl, found, _⟩ :=
    exec_apply_eq_ok (Boot.host_reliable reliable cfg) applied
  exact
    { manager := ⟨dns, _, rfl⟩
      kernel := rfl
      reliable := reliable
      found := found
      unused := unused }

/-- Along successful reloads the table stays that of a fresh start exactly if
every reload keeps it so. -/
theorem always_equalsFresh_iff {boot : Boot} {cfg : ValidConfig} {host : Host}
    (reliable : boot.netlinkFaults = fun _ => false)
    (applied : RouteManager.apply.exec (boot.host cfg) = (.ok (), host))
    {configs : List ValidConfig}
    (unused : ∀ used ∈ cfg :: configs, boot.Unused used) :
    Always LoadedHost.reload (EqualsFresh boot) { cfg := cfg, host := host }
        configs ↔
      EveryStep LoadedHost.reload
        (fun state new =>
          (boot.controller state.cfg).KeepsFresh state.cfg new)
        { cfg := cfg, host := host } configs := by
  have initial := freshInvariant_of_apply reliable
    (unused cfg List.mem_cons_self) applied
  refine always_iff_everyStep boot.Unused ?_ ?_ ?_ initial
    (fun new member => unused new (List.mem_cons_of_mem _ member))
  · intro state invariant
    exact (equalsFresh_iff reliable invariant.found).mpr invariant.kernel
  · intro state new next unusedNew invariant stepped
    obtain ⟨rfl, kernelEq, _, found⟩ := invariant.step unusedNew stepped
    have sameSplit := Boot.splitKeys_controller invariant.found found
    rw [equalsFresh_iff reliable found, kernelEq]
    constructor
    · intro equal
      exact Boot.keepsFresh_of_reloaded invariant.unused sameSplit
        invariant.found (fun key => congrFun equal key)
    · intro keeps
      funext key
      exact Boot.reloaded_of_keepsFresh invariant.unused sameSplit keeps key
  · intro state new next unusedNew invariant stepped keeps
    obtain ⟨rfl, kernelEq, kept, found⟩ := invariant.step unusedNew stepped
    have sameSplit := Boot.splitKeys_controller invariant.found found
    apply kept
    rw [kernelEq]
    funext key
    exact Boot.reloaded_of_keepsFresh invariant.unused sameSplit keeps key

/-- Two spellings of one block. -/
def overlapConfig : ValidConfig :=
  ⟨{ proxyAddr := "203.0.113.9:1080"
     bypassCidrs := ["10.0.0.0/8", "10.1.2.3/8"] }, by decide⟩

/-- The same block, spelled once. -/
def trimmedConfig : ValidConfig :=
  ⟨{ proxyAddr := "203.0.113.9:1080"
     bypassCidrs := ["10.0.0.0/8"] }, by decide⟩

theorem v4OnlyBoot_unused (used : ValidConfig)
    (member : used ∈ [overlapConfig, trimmedConfig]) :
    v4OnlyBoot.Unused used := by
  simp only [List.mem_cons, List.not_mem_nil, or_false] at member
  unfold Boot.Unused
  rcases member with rfl | rfl <;> decide +kernel

theorem exec_apply_overlap :
    ∃ host, RouteManager.apply.exec (v4OnlyBoot.host overlapConfig) =
      (.ok (), host) :=
  exec_apply_of_gateway (v4OnlyBoot_reliable.host overlapConfig)
    v4OnlyBoot_reliable.2 (by decide +kernel)

theorem always_equalsFresh_iff_overlap :
    ∃ host,
      RouteManager.apply.exec (v4OnlyBoot.host overlapConfig) =
          (.ok (), host) ∧
        (Always LoadedHost.reload (EqualsFresh v4OnlyBoot)
            { cfg := overlapConfig, host := host } [trimmedConfig] ↔
          EveryStep LoadedHost.reload
            (fun state new =>
              (v4OnlyBoot.controller state.cfg).KeepsFresh state.cfg new)
            { cfg := overlapConfig, host := host } [trimmedConfig]) := by
  obtain ⟨host, applied⟩ := exec_apply_overlap
  exact ⟨host, applied,
    always_equalsFresh_iff v4OnlyBoot_reliable.1 applied v4OnlyBoot_unused⟩

/-- Dropping the second spelling does not keep the table fresh. -/
theorem not_keepsFresh_overlap :
    ¬(v4OnlyBoot.controller overlapConfig).KeepsFresh overlapConfig
      trimmedConfig := by
  intro keeps
  have violated := keeps.removed (.v4 (Ipv4Addr.ofOctets 10 1 2 3), 8)
    (by decide +kernel) (by decide +kernel) (by decide +kernel)
    (by decide +kernel)
  revert violated
  decide +kernel

theorem reload_overlap {host : Host}
    (invariant : FreshInvariant v4OnlyBoot
      { cfg := overlapConfig, host := host }) :
    ∃ next, LoadedHost.reload { cfg := overlapConfig, host := host }
      trimmedConfig = some next := by
  let plan := ReloadPlan.compute overlapConfig trimmedConfig
  have sameProxy : plan.proxyRouteChange = none := by decide +kernel
  have sameDns : plan.dnsChanged = false := by decide +kernel
  have applied : host.manager.applied = true := by
    obtain ⟨_, _, managerEq⟩ := invariant.manager
    exact congrArg RouteManager.applied managerEq
  have canFollow : host.manager.CanFollow plan := by
    intro oldIp newIp change
    rw [sameProxy] at change
    cases change
  have succeeds : (RouteManager.reload plan).exec host =
      (.ok (), host.followed plan) := by
    rw [exec_reload_followed invariant.reliable applied plan canFollow,
      reloadDns, sameDns]
    rfl
  unfold LoadedHost.reload
  rw [succeeds]
  exact ⟨_, rfl⟩

/-- Removing one spelling deletes the route of the other, which a fresh start
would install. -/
theorem equalsFresh_lost_on_overlap :
    ∃ host next,
      v4OnlyBoot.netlinkFaults = (fun _ => false) ∧
        (∀ used ∈ [overlapConfig, trimmedConfig], v4OnlyBoot.Unused used) ∧
        RouteManager.apply.exec (v4OnlyBoot.host overlapConfig) =
          (.ok (), host) ∧
        LoadedHost.reload { cfg := overlapConfig, host := host } trimmedConfig =
          some next ∧
        ¬EqualsFresh v4OnlyBoot next := by
  obtain ⟨host, applied⟩ := exec_apply_overlap
  have reliable := v4OnlyBoot_reliable.1
  have invariant := freshInvariant_of_apply reliable
    (v4OnlyBoot_unused overlapConfig (by simp)) applied
  obtain ⟨next, stepped⟩ := reload_overlap invariant
  refine ⟨host, next, reliable, v4OnlyBoot_unused, applied, stepped, ?_⟩
  obtain ⟨cfgEq, kernelEq, _, found⟩ := invariant.step
    (v4OnlyBoot_unused trimmedConfig (by simp)) stepped
  have sameSplit := Boot.splitKeys_controller invariant.found found
  rw [← cfgEq] at found
  rw [equalsFresh_iff reliable found, kernelEq, cfgEq]
  intro equal
  exact not_keepsFresh_overlap (Boot.keepsFresh_of_reloaded
    invariant.unused sameSplit invariant.found (congrFun equal))

end Cortado.Linux
