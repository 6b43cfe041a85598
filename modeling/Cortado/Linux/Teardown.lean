import Cortado.Linux.RouteFrame
import Cortado.Linux.StartRequests

/-!
# Teardown and the routes of the controller

Teardown deletes the routes on record: gateway routes at the proxy's and the
bypass keys, and routes into the tunnel at the split keys.  `Owns` is the set
of routes it deletes; the lemmas below say what a start and a reload do to it.
-/

namespace Cortado.Linux

open Net KeyedTable Shell

/-- The same host, on which no netlink request fails any more. -/
def Host.calm (host : Host) : Host :=
  { host with netlinkFaults := fun _ => false }

theorem Host.calm_reliable (host : Host) : host.calm.Reliable := rfl

/-- Delete the routes over an interface at some keys. -/
def KernelTable.clearOif (table : KernelTable) (oif : Nat)
    (keys : List RouteKey) : KernelTable :=
  fun key => if key ∈ keys ∧ table.hits key oif none then none else table key

theorem KernelTable.clearOif_nil (table : KernelTable) (oif : Nat) :
    table.clearOif oif [] = table := by
  funext key
  simp [clearOif]

theorem KernelTable.hits_delete (table : KernelTable) (deleted key : RouteKey)
    (oif : Nat) :
    (table.delete deleted).hits key oif none =
      (decide (key ≠ deleted) && table.hits key oif none) := by
  unfold KernelTable.hits KernelTable.delete
  by_cases same : key = deleted
  · subst same
    simp
  · simp [same]

theorem KernelTable.clearOif_cons (table : KernelTable) (oif : Nat)
    (head : RouteKey) (keys : List RouteKey) :
    table.clearOif oif (head :: keys) =
      KernelTable.clearOif
        (if table.hits head oif none then table.delete head else table)
        oif keys := by
  funext key
  by_cases hit : table.hits head oif none = true
  · rw [if_pos hit]
    simp only [clearOif, KernelTable.hits_delete]
    by_cases same : key = head
    · subst same
      simp [hit, KernelTable.delete]
    · simp [same, KernelTable.delete]
  · rw [if_neg hit]
    by_cases same : key = head
    · subst same
      simp [clearOif, hit]
    · simp [clearOif, same]

theorem KernelTable.clearOif_append (table : KernelTable) (oif : Nat)
    (first second : List RouteKey) :
    table.clearOif oif (first ++ second) =
      (table.clearOif oif first).clearOif oif second := by
  induction first generalizing table with
  | nil => rw [List.nil_append, clearOif_nil]
  | cons head tail induction =>
      rw [List.cons_append, clearOif_cons, clearOif_cons, induction]

theorem exec_delSplitRoutes {host : Host} (reliable : host.Reliable)
    (entries : CidrList) :
    (delSplitRoutes entries).exec host =
      (.ok (), host.withKernel
        (host.kernel.clearOif host.manager.tunIndex
          (entries.map RouteKey.ofEntry))) := by
  induction entries generalizing host with
  | nil =>
      rw [List.map_nil, KernelTable.clearOif_nil]
      rfl
  | cons entry entries induction =>
      obtain ⟨dst, prefixLen⟩ := entry
      have deleted : (quietly (delRoute dst prefixLen
          host.manager.tunIndex none)).exec host =
            (.ok (), host.withKernel
              (if host.kernel.hits (RouteKey.of dst prefixLen)
                  host.manager.tunIndex none then
                host.kernel.delete (RouteKey.of dst prefixLen)
              else host.kernel)) := by
        simp only [quietly, exec_ofFun, delRoute,
          exec_netlink_of_reliable reliable]
        by_cases hit : host.kernel.hits (RouteKey.of dst prefixLen)
            host.manager.tunIndex none = true
        · simp [hit]
        · simp [hit, Host.withKernel]
      rw [delSplitRoutes, exec_bind_of_ok (exec_readManager host),
        exec_bind_of_ok deleted, induction (reliable.withKernel _),
        List.map_cons, KernelTable.clearOif_cons]
      rfl

namespace RouteManager

/-- The split keys teardown looks at, captured or not. -/
def teardownKeys (self : RouteManager) : List RouteKey :=
  (v4Split ++ if self.captureIpv6 then v6Split else []).map RouteKey.ofEntry

/-- The table teardown leads to. -/
def tornDown (self : RouteManager) (table : KernelTable) : KernelTable :=
  KernelTable.clearOif (uninstall self.gatewayHop table self.gatewayKeys)
    self.tunIndex self.teardownKeys

/-- A route that teardown deletes because the controller added it. -/
def Owns (self : RouteManager) (key : RouteKey) (hop : NextHop) : Prop :=
  (key ∈ self.gatewayKeys ∧ self.gatewayHop key = some hop) ∨
    (key ∈ self.teardownKeys ∧ hop = self.tunHop)

theorem tornDown_apply (self : RouteManager) (table : KernelTable)
    (key : RouteKey) :
    self.tornDown table key =
      if (key ∈ self.gatewayKeys ∧ table key = self.gatewayHop key) ∨
          (key ∈ self.teardownKeys ∧ table.hits key self.tunIndex none) then
        none
      else table key := by
  unfold tornDown KernelTable.clearOif KernelTable.hits
  rw [uninstall_apply]
  by_cases gone : key ∈ self.gatewayKeys ∧ table key = self.gatewayHop key
  · simp [gone]
  · simp [gone]

theorem tornDown_of_owns {self : RouteManager} {table : KernelTable}
    {key : RouteKey} {hop : NextHop} (present : table key = some hop)
    (owned : self.Owns key hop) : self.tornDown table key = none := by
  rw [tornDown_apply, if_pos]
  rcases owned with ⟨member, gateway⟩ | ⟨member, rfl⟩
  · exact Or.inl ⟨member, present.trans gateway.symm⟩
  · refine Or.inr ⟨member, ?_⟩
    simp [KernelTable.hits, present, tunHop, NextHop.matchesRequest]

/-- The record names the proxy and the bypass entries of a configuration. -/
structure Tracks (manager : RouteManager) (cfg : ValidConfig) : Prop where
  proxyIp : manager.proxyIp = cfg.proxySocketAddr.ip
  bypass : ∀ entry, entry ∈ manager.bypass ↔ entry ∈ cfg.bypassRoutes

/-- The controller routes a key through a gateway. -/
def Claims (self : RouteManager) (key : RouteKey) : Prop :=
  key ∈ self.gatewayKeys ∧ (self.gatewayHop key).isSome

theorem mem_teardownKeys {self : RouteManager} {key : RouteKey}
    (captured : key ∈ self.splitKeys) : key ∈ self.teardownKeys := by
  unfold splitKeys capturesV6 at captured
  unfold teardownKeys
  cases wanted : self.captureIpv6 with
  | true =>
      rw [List.map_append, List.mem_append] at captured ⊢
      rcases captured with v4 | v6
      · exact Or.inl v4
      · right
        split at v6
        · exact v6
        · cases v6
  | false =>
      rw [wanted] at captured
      exact captured

/-- A start takes a key over. -/
def Touches (self : RouteManager) (key : RouteKey) : Prop :=
  key ∈ self.splitKeys ∨ self.Claims key

theorem installed_of_touches {self : RouteManager} {key : RouteKey}
    (touched : self.Touches key) (initial : KernelTable) :
    ∃ hop, self.installed initial key = some hop ∧ self.Owns key hop := by
  rw [installed_apply]
  by_cases captured : key ∈ self.splitKeys
  · rw [if_pos captured]
    exact ⟨self.tunHop, rfl, Or.inr ⟨mem_teardownKeys captured, rfl⟩⟩
  · rw [if_neg captured]
    rcases touched with split | claimed
    · exact (captured split).elim
    · obtain ⟨hop, gateway⟩ := Option.isSome_iff_exists.mp claimed.2
      refine ⟨hop, ?_, Or.inl ⟨claimed.1, gateway⟩⟩
      exact (if_pos claimed).trans gateway

theorem installed_of_untouched {self : RouteManager} {key : RouteKey}
    (untouched : ¬self.Touches key) (initial : KernelTable) :
    self.installed initial key = initial key := by
  rw [Touches, not_or] at untouched
  rw [installed_apply, if_neg untouched.1]
  exact if_neg untouched.2

instance (self : RouteManager) (key : RouteKey) :
    Decidable (self.Claims key) :=
  inferInstanceAs (Decidable (_ ∧ _))

instance (self : RouteManager) (key : RouteKey) :
    Decidable (self.Touches key) :=
  inferInstanceAs (Decidable (_ ∨ _))

section Reload

variable {self : RouteManager} {old new : ValidConfig} {table : KernelTable}
  {key : RouteKey} {hop : NextHop}

theorem Tracks.mem_gatewayKeys (tracks : self.Tracks old) :
    key ∈ self.gatewayKeys ↔
      key = hostKey old.proxySocketAddr.ip ∨
        ∃ entry ∈ old.bypassRoutes, RouteKey.ofEntry entry = key := by
  simp only [gatewayKeys, List.mem_cons, List.mem_map, tracks.proxyIp,
    tracks.bypass]

theorem Tracks.of_unclaimed (tracks : self.Tracks old)
    (isSome : (self.gatewayHop key).isSome = true)
    (unclaimed : ¬self.Claims key) :
    key ≠ hostKey old.proxySocketAddr.ip ∧
      ∀ entry ∈ old.bypassRoutes, RouteKey.ofEntry entry ≠ key := by
  have absent : key ∉ self.gatewayKeys := by
    intro member
    exact unclaimed ⟨member, isSome⟩
  rw [tracks.mem_gatewayKeys, not_or] at absent
  refine ⟨absent.1, ?_⟩
  intro entry member sameKey
  exact absent.2 ⟨entry, member, sameKey⟩

theorem Tracks.follow (tracks : self.Tracks old) :
    (self.follow (ReloadPlan.compute old new)).Tracks new := by
  rw [follow_compute tracks.proxyIp]
  exact ⟨rfl, fun _ => Iff.rfl⟩

/-- The table after the proxy's host route has moved. -/
theorem moved_eq_some
    (present : self.moved (ReloadPlan.compute old new) table key =
      some hop) :
    (key = hostKey new.proxySocketAddr.ip ∧ self.gatewayHop key = some hop) ∨
      (table key = some hop ∧
        (key = hostKey old.proxySocketAddr.ip →
          self.gatewayHop key = some hop →
          old.proxySocketAddr.ip = new.proxySocketAddr.ip)) := by
  by_cases same : old.proxySocketAddr.ip = new.proxySocketAddr.ip
  · have unchanged :
        (ReloadPlan.compute old new).proxyRouteChange = none := by
      simp [ReloadPlan.compute, same]
    rw [moved, unchanged] at present
    exact Or.inr ⟨present, fun _ _ => same⟩
  · simp only [moved, ReloadPlan.proxyRouteChange_of_ne same, install_apply,
      uninstall_apply, List.mem_singleton] at present
    split at present
    · rename_i isNew
      exact Or.inl ⟨isNew.1, present⟩
    · split at present
      · cases present
      · rename_i kept
        refine Or.inr ⟨present, ?_⟩
        intro isOld gateway
        exact (kept ⟨isOld, present.trans gateway.symm⟩).elim

/-- Every route after a reload is on the new record, unless it was there before
and not on the old one. -/
theorem reloaded_eq_some (tracks : self.Tracks old)
    (present : self.reloaded (ReloadPlan.compute old new) table key =
      some hop) :
    (self.follow (ReloadPlan.compute old new)).Owns key hop ∨
      (table key = some hop ∧ ¬self.Owns key hop) := by
  have later : (self.follow (ReloadPlan.compute old new)).Tracks new :=
    tracks.follow
  have ownsNew (member : key = hostKey new.proxySocketAddr.ip ∨
        ∃ entry ∈ new.bypassRoutes, RouteKey.ofEntry entry = key)
      (gateway : self.gatewayHop key = some hop) :
      (self.follow (ReloadPlan.compute old new)).Owns key hop :=
    Or.inl ⟨later.mem_gatewayKeys.mpr member, gateway⟩
  simp only [reloaded, install_apply, uninstall_apply] at present
  split at present
  · rename_i added
    obtain ⟨entry, member, sameKey⟩ := List.mem_map.mp added.1
    have isNew := (ReloadPlan.mem_bypassAdd.mp member).1
    exact Or.inl (ownsNew (Or.inr ⟨entry, isNew, sameKey⟩) present)
  · split at present
    · cases present
    · rename_i notRemoved
      rcases moved_eq_some present with ⟨isNew, gateway⟩ | ⟨before, sameIp⟩
      · exact Or.inl (ownsNew (Or.inl isNew) gateway)
      · by_cases owned : self.Owns key hop
        · left
          rcases owned with ⟨member, gateway⟩ | tunnelled
          · apply ownsNew ?_ gateway
            rcases tracks.mem_gatewayKeys.mp member with isOld | found
            · rw [← sameIp isOld gateway]
              exact Or.inl isOld
            · obtain ⟨entry, isOld, sameKey⟩ := found
              by_cases isNew : entry ∈ new.bypassRoutes
              · exact Or.inr ⟨entry, isNew, sameKey⟩
              · have removed := ReloadPlan.mem_bypassRemove.mpr ⟨isOld, isNew⟩
                exact (notRemoved
                  ⟨List.mem_map.mpr ⟨entry, removed, sameKey⟩,
                    present.trans gateway.symm⟩).elim
          · exact Or.inr tunnelled
        · exact Or.inr ⟨before, owned⟩

/-- Only keys of old entries are removed. -/
theorem not_mem_bypassRemove
    (unlisted : ∀ entry ∈ old.bypassRoutes, RouteKey.ofEntry entry ≠ key) :
    key ∉ (ReloadPlan.compute old new).bypassRemove.map
      RouteKey.ofEntry := by
  intro member
  obtain ⟨entry, removed, sameKey⟩ := List.mem_map.mp member
  exact unlisted entry (ReloadPlan.mem_bypassRemove.mp removed).1 sameKey

/-- A key that neither configuration routes through a gateway is left alone. -/
theorem reloaded_of_unclaimed (tracks : self.Tracks old)
    (notOld : ¬self.Claims key)
    (notNew : ¬(self.follow (ReloadPlan.compute old new)).Claims key)
    (table : KernelTable) :
    self.reloaded (ReloadPlan.compute old new) table key = table key := by
  have later : (self.follow (ReloadPlan.compute old new)).Tracks new :=
    tracks.follow
  cases hop : self.gatewayHop key with
  | none =>
      rw [reloaded, install_apply_of_none hop, uninstall_apply_of_none hop,
        moved]
      cases (ReloadPlan.compute old new).proxyRouteChange with
      | none => rfl
      | some pair =>
          exact (install_apply_of_none hop _ _).trans
            (uninstall_apply_of_none hop _ _)
  | some found =>
      have isSome : (self.gatewayHop key).isSome = true := by simp [hop]
      obtain ⟨notOldHost, notOldEntry⟩ := tracks.of_unclaimed isSome notOld
      obtain ⟨notNewHost, notNewEntry⟩ := later.of_unclaimed isSome notNew
      have notAdded :
          key ∉ (ReloadPlan.compute old new).bypassAdd.map
            RouteKey.ofEntry := by
        intro member
        obtain ⟨entry, added, sameKey⟩ := List.mem_map.mp member
        exact notNewEntry entry (ReloadPlan.mem_bypassAdd.mp added).1 sameKey
      rw [reloaded, install_apply, if_neg (fun both => notAdded both.1),
        uninstall_apply,
        if_neg (fun both => not_mem_bypassRemove notOldEntry both.1), moved]
      cases change : (ReloadPlan.compute old new).proxyRouteChange with
      | none => rfl
      | some pair =>
          obtain ⟨oldIp, newIp⟩ := pair
          obtain ⟨_, rfl, rfl⟩ := ReloadPlan.proxyRouteChange_eq_some change
          simp only [install_apply, uninstall_apply, List.mem_singleton,
            notNewHost, notOldHost, false_and, if_false]

/-- A key that only the new configuration routes through a gateway gets its
route. -/
theorem reloaded_of_newlyClaimed (tracks : self.Tracks old)
    (notOld : ¬self.Claims key)
    (isNew : (self.follow (ReloadPlan.compute old new)).Claims key)
    (table : KernelTable) :
    self.reloaded (ReloadPlan.compute old new) table key =
      self.gatewayHop key := by
  have later : (self.follow (ReloadPlan.compute old new)).Tracks new :=
    tracks.follow
  have isSome : (self.gatewayHop key).isSome = true := isNew.2
  obtain ⟨notOldHost, notOldEntry⟩ := tracks.of_unclaimed isSome notOld
  rw [reloaded, install_apply]
  by_cases added : key ∈ (ReloadPlan.compute old new).bypassAdd.map
      RouteKey.ofEntry
  · rw [if_pos ⟨added, isSome⟩]
  · rw [if_neg (fun both => added both.1), uninstall_apply,
      if_neg (fun both => not_mem_bypassRemove notOldEntry both.1)]
    rcases later.mem_gatewayKeys.mp isNew.1 with isHost | found
    · have different :
          old.proxySocketAddr.ip ≠ new.proxySocketAddr.ip := by
        intro same
        rw [← same] at isHost
        exact notOldHost isHost
      simp only [moved, ReloadPlan.proxyRouteChange_of_ne different,
        install_apply, isHost, List.mem_singleton, true_and]
      rw [if_pos (isHost ▸ isSome)]
    · obtain ⟨entry, member, sameKey⟩ := found
      have fresh : entry ∉ old.bypassRoutes := by
        intro isOld
        exact notOldEntry entry isOld sameKey
      exact (added (List.mem_map.mpr
        ⟨entry, ReloadPlan.mem_bypassAdd.mpr ⟨member, fresh⟩,
          sameKey⟩)).elim

end Reload

/-- What is claimed depends on the configuration and the gateways only. -/
theorem Tracks.claims_iff {left right : RouteManager} {cfg : ValidConfig}
    {key : RouteKey} (leftTracks : left.Tracks cfg)
    (rightTracks : right.Tracks cfg)
    (sameHops : left.gatewayHop = right.gatewayHop) :
    left.Claims key ↔ right.Claims key := by
  rw [Claims, Claims, leftTracks.mem_gatewayKeys, rightTracks.mem_gatewayKeys,
    sameHops]

end RouteManager

/-- When its requests do not fail, teardown leads to `tornDown`. -/
theorem exec_teardown_kernel {host : Host} (reliable : host.Reliable)
    (applied : host.manager.applied = true) :
    (RouteManager.teardown.exec host).2.kernel =
      host.manager.tornDown host.kernel := by
  let start : Host :=
    { host with manager := { host.manager with applied := false } }
  have startReliable : start.Reliable := reliable
  have table : host.manager.tornDown host.kernel =
      KernelTable.clearOif
        (KernelTable.clearOif
          (uninstall host.manager.gatewayHop
            (uninstall host.manager.gatewayHop host.kernel
              [RouteManager.hostKey host.manager.proxyIp])
            (host.manager.bypass.map RouteKey.ofEntry))
          host.manager.tunIndex (v4Split.map RouteKey.ofEntry))
        host.manager.tunIndex
        ((if host.manager.captureIpv6 then v6Split else []).map
          RouteKey.ofEntry) := by
    rw [← uninstall_append, ← KernelTable.clearOif_append, ← List.map_append]
    rfl
  rw [RouteManager.teardown, exec_bind_of_ok (exec_readManager host),
    if_pos applied, exec_bind_of_ok (exec_updateManager _ _), table]
  change (delGatewayRoute _ _ >>= _ |>.exec start).2.kernel = _
  rw [exec_bind_of_ok (exec_delGatewayRoute startReliable _ _),
    exec_bind_of_ok (exec_delBypassRoutes (startReliable.withKernel _) _),
    Host.withKernel_withKernel,
    exec_bind_of_ok (exec_delSplitRoutes (startReliable.withKernel _) _),
    Host.withKernel_withKernel,
    exec_bind_of_ok (exec_delSplitRoutes (startReliable.withKernel _) _)]
  rfl

end Cortado.Linux
