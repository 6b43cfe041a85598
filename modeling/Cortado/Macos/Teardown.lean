import Mathlib.Data.Set.Lattice
import Cortado.Macos.Routes

/-!
# Teardown leaves the host as it was found

The controller adds routes to free destinations only, and remembers enough to
delete every one of them.  This holds as long as no reload fails on the way: a
failed one may have added routes that nobody remembers.
-/

namespace Cortado.Macos

open Net Shell KeyedTable Transition

/-- Where the routes of a list are filed. -/
def keysOf (entries : CidrList) : Set RouteKey :=
  {key | ∃ entry ∈ entries, RouteKey.ofEntry entry = key}

namespace MacosRoutes

/-- The entry's family has a gateway. -/
def reaches (self : MacosRoutes) (entry : IpAddr × Nat) : Bool :=
  (self.gatewayFor entry.1).isSome

/-- The host route of the proxy. -/
def pin (proxyIp : IpAddr) : IpAddr × Nat :=
  (proxyIp, hostPrefix proxyIp)

/-- The IPv6 routes `teardown` deletes. -/
def v6Deleted (self : MacosRoutes) : CidrList :=
  if self.captureIpv6 then v6Split else []

/-- Everything `teardown` deletes. -/
def managed (self : MacosRoutes) : Set RouteKey :=
  keysOf ((pin self.proxyIp :: self.bypass).filter self.reaches) ∪
    keysOf v4Split ∪ keysOf self.v6Deleted

end MacosRoutes

/-- No command fails except those that are refused. -/
def Mac.Reliable (mac : Mac) : Prop :=
  (mac.faults = fun _ => none) ∧ mac.reportsRefusal = true

/-- A controller on a reliable host, whose routes stand under some keys. -/
structure Holds (base : RoutingTable) (routes : MacosRoutes)
    (keys : Set RouteKey) (mac : Mac) : Prop where
  routes : mac.routes = routes
  reliable : mac.Reliable
  overlay : Overlay base keys mac.table

variable {base : RoutingTable} {routes : MacosRoutes} {keys : Set RouteKey}
  {failed : Mac → Prop}

theorem keysOf_nil : keysOf [] = ∅ := by
  ext key
  simp [keysOf]

theorem keysOf_append (first second : CidrList) :
    keysOf (first ++ second) = keysOf first ∪ keysOf second := by
  ext key
  simp only [keysOf, Set.mem_ofPred_eq, Set.mem_union, List.mem_append,
    or_and_right, exists_or]

theorem keysOf_singleton (entry : IpAddr × Nat) :
    keysOf [entry] = {RouteKey.ofEntry entry} := by
  ext key
  simp [keysOf, eq_comm]

theorem filter_reaches_of_none {entry : IpAddr × Nat}
    (missing : routes.gatewayFor entry.1 = none) :
    [entry].filter routes.reaches = [] := by
  simp [MacosRoutes.reaches, missing]

theorem filter_reaches_of_some {entry : IpAddr × Nat} {gateway : IpAddr}
    (found : routes.gatewayFor entry.1 = some gateway) :
    [entry].filter routes.reaches = [entry] := by
  simp [MacosRoutes.reaches, found]

theorem Mac.Reliable.next_eq {mac : Mac} (reliable : mac.Reliable) :
    mac.next = mac := by
  obtain ⟨faults, _⟩ := reliable
  cases mac
  simp only at faults
  simp [Mac.next, faults]

/-! ## Commands -/

theorem holds_add (dst : IpAddr) (prefixLen : Nat) (hop : Hop) :
    Ends (Holds base routes keys) (route ⟨.add, dst, prefixLen, hop⟩)
      (fun _ => Holds base routes (keys ∪ {RouteKey.of dst prefixLen}))
      (fun _ => True) := by
  intro mac holds
  rw [route, exec_ofFun, holds.reliable.1, holds.reliable.next_eq]
  cases found : mac.table (RouteKey.of dst prefixLen) with
  | some hop =>
      simp [RouteCommand.effect, RouteCommand.key, found,
        holds.reliable.2]
  | none =>
      simp only [RouteCommand.effect, RouteCommand.key, found,
        Set.union_singleton]
      exact ⟨holds.routes, holds.reliable, holds.overlay.add found hop⟩

theorem holds_delete {dst : IpAddr} {prefixLen : Nat}
    (free : base (RouteKey.of dst prefixLen) = none) (hop : Hop) :
    Ends (Holds base routes keys)
      (quietly (route ⟨.delete, dst, prefixLen, hop⟩))
      (fun _ => Holds base routes (keys \ {RouteKey.of dst prefixLen}))
      failed := by
  apply Ends.quietly
  intro mac holds
  rw [route, exec_ofFun, holds.reliable.1, holds.reliable.next_eq]
  have overlay := holds.overlay.delete free
  cases found : mac.table (RouteKey.of dst prefixLen) with
  | some hop =>
      simp only [RouteCommand.effect, RouteCommand.key, found]
      exact ⟨holds.routes, holds.reliable, overlay⟩
  | none =>
      simp only [RouteCommand.effect, RouteCommand.key, found,
        holds.reliable.2, if_true]
      rw [Function.update_eq_self_iff.mpr found.symm] at overlay
      exact ⟨holds.routes, holds.reliable, overlay⟩

theorem holds_self {α : Type} {next : MacosRoutes → MacM α}
    {ok : α → Mac → Prop}
    (continued : Ends (Holds base routes keys) (next routes) ok failed) :
    Ends (Holds base routes keys) (self >>= next) ok failed :=
  ends_self (fun _ holds => holds.routes) continued

theorem holds_updateSelf (change : MacosRoutes → MacosRoutes) :
    Ends (Holds base routes keys) (updateSelf change)
      (fun _ => Holds base (change routes) keys) failed := by
  apply Ends.update
  intro mac holds
  exact ⟨congrArg change holds.routes, holds.reliable, holds.overlay⟩

theorem holds_addBypass (entry : IpAddr × Nat) :
    Ends (Holds base routes keys) (addBypass entry)
      (fun _ => Holds base routes
        (keys ∪ keysOf ([entry].filter routes.reaches)))
      (fun _ => True) := by
  apply holds_self
  cases found : routes.gatewayFor entry.1 with
  | none =>
      rw [filter_reaches_of_none found, keysOf_nil, Set.union_empty]
      exact Ends.pure fun _ holds => holds
  | some gateway =>
      rw [filter_reaches_of_some found, keysOf_singleton]
      exact holds_add entry.1 entry.2 (.gateway gateway)

theorem holds_deleteViaGateway {entry : IpAddr × Nat}
    (free : ∀ key ∈ keysOf ([entry].filter routes.reaches),
      base key = none) :
    Ends (Holds base routes keys) (deleteViaGateway entry)
      (fun _ => Holds base routes
        (keys \ keysOf ([entry].filter routes.reaches)))
      failed := by
  apply holds_self
  cases found : routes.gatewayFor entry.1 with
  | none =>
      rw [filter_reaches_of_none found, keysOf_nil, Set.sdiff_empty]
      exact Ends.pure fun _ holds => holds
  | some gateway =>
      rw [filter_reaches_of_some found, keysOf_singleton] at free ⊢
      exact holds_delete (free _ rfl) (.gateway gateway)

/-! ## Loops -/

section Loops

variable {body : IpAddr × Nat → MacM Unit} {wanted : IpAddr × Nat → Bool}
  {entries : CidrList}

theorem holds_forEach_add
    (each : ∀ entry ∈ entries, ∀ keys, Ends (Holds base routes keys)
      (body entry)
      (fun _ => Holds base routes (keys ∪ keysOf ([entry].filter wanted)))
      failed) :
    Ends (Holds base routes keys) (forEach body entries)
      (fun _ => Holds base routes (keys ∪ keysOf (entries.filter wanted)))
      failed := by
  have loop : Ends
      (Holds base routes (keys ∪ keysOf ([].filter wanted)))
      (forEach body entries)
      (fun _ => Holds base routes (keys ∪ keysOf (entries.filter wanted)))
      failed := by
    apply Ends.forEach fun done =>
      Holds base routes (keys ∪ keysOf (done.filter wanted))
    intro done entry rest whole
    rw [List.filter_append, keysOf_append, ← Set.union_assoc]
    exact each entry (by simp [whole]) _
  rwa [List.filter_nil, keysOf_nil, Set.union_empty] at loop

theorem holds_forEach_delete
    (each : ∀ entry ∈ entries, ∀ keys, Ends (Holds base routes keys)
      (body entry)
      (fun _ => Holds base routes (keys \ keysOf ([entry].filter wanted)))
      failed) :
    Ends (Holds base routes keys) (forEach body entries)
      (fun _ => Holds base routes (keys \ keysOf (entries.filter wanted)))
      failed := by
  have loop : Ends
      (Holds base routes (keys \ keysOf ([].filter wanted)))
      (forEach body entries)
      (fun _ => Holds base routes (keys \ keysOf (entries.filter wanted)))
      failed := by
    apply Ends.forEach fun done =>
      Holds base routes (keys \ keysOf (done.filter wanted))
    intro done entry rest whole
    rw [List.filter_append, keysOf_append, ← Set.sdiff_sdiff]
    exact each entry (by simp [whole]) _
  rwa [List.filter_nil, keysOf_nil, Set.sdiff_empty] at loop

end Loops

theorem holds_addBypasses (entries : CidrList) :
    Ends (Holds base routes keys) (forEach addBypass entries)
      (fun _ => Holds base routes
        (keys ∪ keysOf (entries.filter routes.reaches)))
      (fun _ => True) :=
  holds_forEach_add fun entry _ _ => holds_addBypass entry

theorem holds_addSplits (entries : CidrList) :
    Ends (Holds base routes keys) (forEach addSplit entries)
      (fun _ => Holds base routes (keys ∪ keysOf entries))
      (fun _ => True) := by
  have loop : Ends (Holds base routes keys) (forEach addSplit entries)
      (fun _ => Holds base routes
        (keys ∪ keysOf (entries.filter fun _ => true)))
      (fun _ => True) := by
    apply holds_forEach_add
    intro entry _ keys
    rw [List.filter_singleton, cond_true, keysOf_singleton]
    exact holds_self (holds_add entry.1 entry.2 _)
  rwa [List.filter_true] at loop

theorem holds_deleteGatewayRoutes {entries : CidrList}
    (free : ∀ key ∈ keysOf (entries.filter routes.reaches),
      base key = none) :
    Ends (Holds base routes keys) (forEach deleteViaGateway entries)
      (fun _ => Holds base routes
        (keys \ keysOf (entries.filter routes.reaches)))
      failed := by
  apply holds_forEach_delete
  intro entry member keys
  apply holds_deleteViaGateway
  rintro key ⟨same, isSame, filed⟩
  obtain ⟨isSame, wanted⟩ := List.mem_filter.mp isSame
  cases List.mem_singleton.mp isSame
  exact free key ⟨entry, List.mem_filter.mpr ⟨member, wanted⟩, filed⟩

theorem holds_deleteSplits {entries : CidrList}
    (free : ∀ key ∈ keysOf entries, base key = none) :
    Ends (Holds base routes keys) (forEach deleteSplit entries)
      (fun _ => Holds base routes (keys \ keysOf entries)) failed := by
  have loop : Ends (Holds base routes keys) (forEach deleteSplit entries)
      (fun _ => Holds base routes
        (keys \ keysOf (entries.filter fun _ => true)))
      failed := by
    apply holds_forEach_delete
    intro entry member keys
    rw [List.filter_singleton, cond_true, keysOf_singleton]
    apply holds_self
    apply holds_delete
    exact free _ ⟨entry, member, rfl⟩
  rwa [List.filter_true] at loop

/-! ## The parts of a start and a reload -/

theorem holds_pinProxy :
    Ends (Holds base routes keys) pinProxy
      (fun _ => Holds base routes (keys ∪
        keysOf ([MacosRoutes.pin routes.proxyIp].filter routes.reaches)))
      (fun _ => True) := by
  apply holds_self
  cases found : routes.gatewayFor routes.proxyIp with
  | none => exact Ends.throw fun _ _ => trivial
  | some gateway =>
      have filed : [MacosRoutes.pin routes.proxyIp].filter routes.reaches =
          [MacosRoutes.pin routes.proxyIp] := filter_reaches_of_some found
      rw [filed, keysOf_singleton]
      exact Ends.withContext (holds_add _ _ _)

theorem holds_query (output : Mac → List Char) :
    Ends (Holds base routes keys) (query output)
      (fun _ => Holds base routes keys) failed := by
  intro mac holds
  rw [query, exec_ofFun, holds.reliable.1, holds.reliable.next_eq]
  exact holds

theorem holds_defaultGateway (output : Mac → List Char) :
    Ends (Holds base routes keys) (defaultGateway output)
      (fun _ => Holds base routes keys) failed := by
  apply Ends.bind (holds_query output)
  intro text
  exact Ends.pure fun _ holds => holds

/-- The controller with the gateways it found. -/
def MacosRoutes.withGateways (self : MacosRoutes)
    (v4Gateway v6Gateway : Option IpAddr) : MacosRoutes :=
  { self with v4Gateway := v4Gateway, v6Gateway := v6Gateway }

theorem holds_readGateways :
    Ends (Holds base routes keys) readGateways
      (fun _ mac => ∃ v4Gateway v6Gateway,
        Holds base (routes.withGateways v4Gateway v6Gateway) keys mac)
      failed := by
  apply Ends.bind (holds_defaultGateway _)
  intro v4Gateway
  apply Ends.bind (holds_updateSelf _)
  intro _
  apply Ends.bind (holds_defaultGateway _)
  intro v6Gateway
  apply (holds_updateSelf _).mono (fun _ holds => holds) _
    (fun _ stopped => stopped)
  intro _ mac holds
  exact ⟨v4Gateway, v6Gateway, holds⟩

theorem holds_withDns
    (action : NetworkSetupDns → Except DnsError Unit × NetworkSetupDns) :
    Ends (Holds base routes keys) (withDns action)
      (fun _ => Holds base { routes with dns := (action routes.dns).2 } keys)
      (fun _ => True) := by
  intro mac holds
  rw [withDns, exec_ofFun, holds.routes]
  cases ended : action routes.dns with
  | mk outcome dns =>
      cases outcome with
      | error error => trivial
      | ok => exact ⟨rfl, holds.reliable, holds.overlay⟩

theorem holds_moveProxyRoute {oldIp newIp : IpAddr}
    (free : ∀ key ∈ keysOf ([MacosRoutes.pin oldIp].filter routes.reaches),
      base key = none) :
    Ends (Holds base routes keys) (moveProxyRoute oldIp newIp)
      (fun _ => Holds base { routes with proxyIp := newIp }
        (keys \ keysOf ([MacosRoutes.pin oldIp].filter routes.reaches) ∪
          keysOf ([MacosRoutes.pin newIp].filter routes.reaches)))
      (fun _ => True) := by
  apply Ends.bind (holds_deleteViaGateway free)
  intro _
  apply holds_self
  cases found : routes.gatewayFor newIp with
  | none => exact Ends.throw fun _ _ => trivial
  | some gateway =>
      have filed : [MacosRoutes.pin newIp].filter routes.reaches =
          [MacosRoutes.pin newIp] := filter_reaches_of_some found
      rw [filed, keysOf_singleton]
      apply Ends.bind (holds_add newIp (hostPrefix newIp) _)
      intro _
      exact holds_updateSelf _

theorem holds_reloadDns (plan : ReloadPlan) :
    Ends (Holds base routes keys) (reloadDns plan)
      (fun _ mac => ∃ dns dnsServer,
        Holds base { routes with dns := dns, dnsServer := dnsServer } keys
            mac ∧
          (dns = routes.dns ∨ dns = (routes.dns.reload plan.dns).2))
      (fun _ => True) := by
  unfold reloadDns
  split
  · apply Ends.bind (holds_withDns _)
    intro _
    apply (holds_updateSelf _).mono (fun _ holds => holds) _
      (fun _ stopped => stopped)
    intro _ mac holds
    exact ⟨_, _, holds, Or.inr rfl⟩
  · apply Ends.pure
    intro mac holds
    exact ⟨routes.dns, routes.dnsServer, holds, Or.inl rfl⟩

/-! ## Whole runs -/

/-- Between two calls every route of the controller is one that `teardown`
deletes. -/
structure Reclaimable (base : RoutingTable) (servers : List (List Char))
    (cfg : ValidConfig) (mac : Mac) : Prop where
  reliable : mac.Reliable
  applied : mac.routes.applied = true
  proxyIp : mac.routes.proxyIp = cfg.proxySocketAddr.ip
  bypass : ∀ entry, entry ∈ mac.routes.bypass ↔ entry ∈ cfg.bypassRoutes
  overlay : Overlay base mac.routes.managed mac.table
  dns : mac.routes.dns.Sound servers

variable {servers : List (List Char)}

theorem capturesV6_le (self : MacosRoutes) :
    keysOf (if self.capturesV6 then v6Split else []) ⊆
      keysOf self.v6Deleted := by
  unfold MacosRoutes.v6Deleted
  cases asked : self.captureIpv6 with
  | false => simp [MacosRoutes.capturesV6, asked]
  | true =>
      split
      · exact subset_rfl
      · rw [keysOf_nil]
        exact Set.empty_subset _

theorem managed_eq (self : MacosRoutes) :
    self.managed = keysOf ([MacosRoutes.pin self.proxyIp].filter self.reaches) ∪
      keysOf (self.bypass.filter self.reaches) ∪ keysOf v4Split ∪
      keysOf self.v6Deleted := by
  unfold MacosRoutes.managed
  rw [← List.singleton_append, List.filter_append, keysOf_append]

/-- The keys of a start are those `teardown` knows. -/
theorem configured_eq (self : MacosRoutes) :
    keysOf self.v6Deleted ∪
        keysOf ([MacosRoutes.pin self.proxyIp].filter self.reaches) ∪
        keysOf (self.bypass.filter self.reaches) ∪ keysOf v4Split ∪
        keysOf (if self.capturesV6 then v6Split else []) = self.managed := by
  ext key
  have captured := @capturesV6_le self key
  simp only [managed_eq, Set.mem_union]
  tauto

theorem Reclaimable.of_holds {cfg : ValidConfig} {mac : Mac}
    (holds : Holds base routes routes.managed mac)
    (applied : routes.applied = true)
    (proxyIp : routes.proxyIp = cfg.proxySocketAddr.ip)
    (bypass : ∀ entry, entry ∈ routes.bypass ↔ entry ∈ cfg.bypassRoutes)
    (sound : routes.dns.Sound servers) : Reclaimable base servers cfg mac := by
  obtain ⟨rfl, reliable, overlay⟩ := holds
  exact ⟨reliable, applied, proxyIp, bypass, overlay, sound⟩

/-- What a start does once the gateways are known. -/
theorem reclaimable_configure {cfg : ValidConfig}
    (areWords : ∀ server ∈ servers, Text.IsWord server)
    (proxyIp : routes.proxyIp = cfg.proxySocketAddr.ip)
    (bypass : routes.bypass = cfg.bypassRoutes)
    (sound : routes.dns.Sound servers) :
    Ends (Holds base routes (keysOf routes.v6Deleted))
      MacosRoutes.configure
      (fun _ => Reclaimable base servers cfg) (fun _ => True) := by
  apply Ends.bind holds_pinProxy
  intro _
  apply holds_self
  apply Ends.bind (holds_addBypasses _)
  intro _
  apply Ends.bind (holds_addSplits _)
  intro _
  apply Ends.bind (holds_addSplits _)
  intro _
  apply Ends.bind (holds_withDns _)
  intro _
  apply (holds_updateSelf _).mono (fun _ holds => holds) _
    (fun _ stopped => stopped)
  intro _ mac holds
  rw [configured_eq] at holds
  apply Reclaimable.of_holds holds rfl proxyIp
  · intro entry
    exact Iff.of_eq (congrArg (entry ∈ ·) bypass)
  · exact sound.apply areWords _

theorem reclaimable_apply {cfg : ValidConfig}
    (areWords : ∀ server ∈ servers, Text.IsWord server)
    (proxyIp : routes.proxyIp = cfg.proxySocketAddr.ip)
    (bypass : routes.bypass = cfg.bypassRoutes)
    (sound : routes.dns.Sound servers) :
    Ends (Holds base routes (keysOf routes.v6Deleted)) MacosRoutes.apply
      (fun _ => Reclaimable base servers cfg) (fun _ => True) := by
  apply Ends.bind holds_readGateways
  rintro _ mac ⟨v4Gateway, v6Gateway, holds⟩
  refine reclaimable_configure areWords ?_ ?_ ?_ mac holds
  · exact proxyIp
  · exact bypass
  · exact sound

/-! ### A reload -/

section Reload

variable {old new : ValidConfig}

/-- The keys after the proxy route is where the new configuration wants it. -/
def moved (routes : MacosRoutes) (newIp : IpAddr) : Set RouteKey :=
  if routes.proxyIp = newIp then routes.managed
  else
    routes.managed \
        keysOf ([MacosRoutes.pin routes.proxyIp].filter routes.reaches) ∪
      keysOf ([MacosRoutes.pin newIp].filter routes.reaches)

theorem holds_reloadProxyRoute
    (proxyIp : routes.proxyIp = old.proxySocketAddr.ip)
    (free : ∀ key ∈ routes.managed, base key = none) :
    Ends (Holds base routes routes.managed)
      (reloadProxyRoute (ReloadPlan.compute old new))
      (fun _ => Holds base
        { routes with proxyIp := new.proxySocketAddr.ip }
        (moved routes new.proxySocketAddr.ip))
      (fun _ => True) := by
  unfold moved reloadProxyRoute
  cases change : (ReloadPlan.compute old new).proxyRouteChange with
  | none =>
      have same := proxyIp.trans (ReloadPlan.proxyIp_of_unchanged change)
      rw [if_pos same, ← same]
      exact Ends.pure fun _ holds => holds
  | some ips =>
      obtain ⟨oldIp, newIp⟩ := ips
      obtain ⟨different, rfl, rfl⟩ :=
        ReloadPlan.proxyRouteChange_eq_some change
      rw [← proxyIp] at different ⊢
      rw [if_neg different]
      apply holds_moveProxyRoute
      intro key member
      apply free
      rw [managed_eq]
      exact Or.inl (Or.inl (Or.inl member))

theorem mem_keysOf_filter {entries : CidrList} {wanted : IpAddr × Nat → Bool}
    {key : RouteKey} : key ∈ keysOf (entries.filter wanted) ↔
      ∃ entry ∈ entries, wanted entry = true ∧ RouteKey.ofEntry entry = key := by
  constructor
  · rintro ⟨entry, member, filed⟩
    obtain ⟨member, isWanted⟩ := List.mem_filter.mp member
    exact ⟨entry, member, isWanted, filed⟩
  · rintro ⟨entry, member, isWanted, filed⟩
    exact ⟨entry, List.mem_filter.mpr ⟨member, isWanted⟩, filed⟩

theorem mem_managed {key : RouteKey} : key ∈ routes.managed ↔
    key ∈ keysOf ([MacosRoutes.pin routes.proxyIp].filter routes.reaches) ∨
      key ∈ keysOf (routes.bypass.filter routes.reaches) ∨
      key ∈ keysOf v4Split ∨ key ∈ keysOf routes.v6Deleted := by
  simp only [managed_eq, Set.mem_union, or_assoc]

/-- The controller after a reload, without its name servers. -/
def MacosRoutes.following (self : MacosRoutes) (cfg : ValidConfig) :
    MacosRoutes :=
  { self with proxyIp := cfg.proxySocketAddr.ip, bypass := cfg.bypassRoutes }

/-- The keys after the bypass loops. -/
def reloadedKeys (routes : MacosRoutes) (old new : ValidConfig) :
    Set RouteKey :=
  let plan := ReloadPlan.compute old new
  moved routes new.proxySocketAddr.ip \
      keysOf (plan.bypassRemove.filter routes.reaches) ∪
    keysOf (plan.bypassAdd.filter routes.reaches)

/-- What is deleted was on record. -/
theorem managed_of_removed {key : RouteKey}
    (bypass : ∀ entry, entry ∈ routes.bypass ↔ entry ∈ old.bypassRoutes)
    (removed : key ∈ keysOf
      ((ReloadPlan.compute old new).bypassRemove.filter routes.reaches)) :
    key ∈ routes.managed := by
  obtain ⟨entry, member, wanted, filed⟩ := mem_keysOf_filter.mp removed
  have recorded := (bypass entry).mpr (ReloadPlan.mem_bypassRemove.mp member).1
  exact mem_managed.mpr (Or.inr (Or.inl
    (mem_keysOf_filter.mpr ⟨entry, recorded, wanted, filed⟩)))

/-- A bypass route that is not deleted is on the new record. -/
theorem mem_following_of_kept {key : RouteKey}
    (bypass : ∀ entry, entry ∈ routes.bypass ↔ entry ∈ old.bypassRoutes)
    (recorded : key ∈ keysOf (routes.bypass.filter routes.reaches))
    (kept : key ∉ keysOf
      ((ReloadPlan.compute old new).bypassRemove.filter routes.reaches)) :
    key ∈ (routes.following new).managed := by
  obtain ⟨entry, member, wanted, filed⟩ := mem_keysOf_filter.mp recorded
  have stays : entry ∈ new.bypassRoutes := by
    by_contra dropped
    apply kept
    exact mem_keysOf_filter.mpr ⟨entry, ReloadPlan.mem_bypassRemove.mpr
      ⟨(bypass entry).mp member, dropped⟩, wanted, filed⟩
  exact mem_managed.mpr (Or.inr (Or.inl
    (mem_keysOf_filter.mpr ⟨entry, stays, wanted, filed⟩)))

theorem mem_following_of_moved {key : RouteKey}
    (bypass : ∀ entry, entry ∈ routes.bypass ↔ entry ∈ old.bypassRoutes)
    (standing : key ∈ moved routes new.proxySocketAddr.ip)
    (kept : key ∉ keysOf
      ((ReloadPlan.compute old new).bypassRemove.filter routes.reaches)) :
    key ∈ (routes.following new).managed := by
  unfold moved at standing
  split at standing
  · rename_i same
    rcases mem_managed.mp standing with isPin | isBypass | isSplit
    · rw [same] at isPin
      exact mem_managed.mpr (Or.inl isPin)
    · exact mem_following_of_kept bypass isBypass kept
    · exact mem_managed.mpr (Or.inr (Or.inr isSplit))
  · rcases standing with ⟨isManaged, notPin⟩ | isPin
    · rcases mem_managed.mp isManaged with isPin | isBypass | isSplit
      · exact absurd isPin notPin
      · exact mem_following_of_kept bypass isBypass kept
      · exact mem_managed.mpr (Or.inr (Or.inr isSplit))
    · exact mem_managed.mpr (Or.inl isPin)

theorem reloadedKeys_subset
    (bypass : ∀ entry, entry ∈ routes.bypass ↔ entry ∈ old.bypassRoutes) :
    reloadedKeys routes old new ⊆ (routes.following new).managed := by
  rintro key (⟨standing, kept⟩ | added)
  · exact mem_following_of_moved bypass standing kept
  · obtain ⟨entry, member, wanted, filed⟩ := mem_keysOf_filter.mp added
    have recorded := (ReloadPlan.mem_bypassAdd.mp member).1
    exact mem_managed.mpr (Or.inr (Or.inl
      (mem_keysOf_filter.mpr ⟨entry, recorded, wanted, filed⟩)))

/-- Every key on the new record was on the old one or has just been added. -/
theorem following_subset
    (bypass : ∀ entry, entry ∈ routes.bypass ↔ entry ∈ old.bypassRoutes) :
    (routes.following new).managed ⊆
      reloadedKeys routes old new ∪ routes.managed := by
  intro key recorded
  rcases mem_managed.mp recorded with isPin | isBypass | isSplit
  · by_cases same : routes.proxyIp = new.proxySocketAddr.ip
    · right
      apply mem_managed.mpr
      left
      rw [same]
      exact isPin
    · by_cases removed : key ∈ keysOf
          ((ReloadPlan.compute old new).bypassRemove.filter routes.reaches)
      · exact Or.inr (managed_of_removed bypass removed)
      · have standing : key ∈ moved routes new.proxySocketAddr.ip := by
          rw [moved, if_neg same]
          exact Or.inr isPin
        exact Or.inl (Or.inl ⟨standing, removed⟩)
  · obtain ⟨entry, member, wanted, filed⟩ := mem_keysOf_filter.mp isBypass
    by_cases before : entry ∈ old.bypassRoutes
    · exact Or.inr (mem_managed.mpr (Or.inr (Or.inl (mem_keysOf_filter.mpr
        ⟨entry, (bypass entry).mpr before, wanted, filed⟩))))
    · exact Or.inl (Or.inr (mem_keysOf_filter.mpr
        ⟨entry, ReloadPlan.mem_bypassAdd.mpr ⟨member, before⟩, wanted,
          filed⟩))
  · exact Or.inr (mem_managed.mpr (Or.inr (Or.inr isSplit)))

theorem holds_reload (new : ValidConfig)
    (areWords : ∀ server ∈ servers, Text.IsWord server)
    (applied : routes.applied = true)
    (proxyIp : routes.proxyIp = old.proxySocketAddr.ip)
    (bypass : ∀ entry, entry ∈ routes.bypass ↔ entry ∈ old.bypassRoutes)
    (sound : routes.dns.Sound servers)
    (free : ∀ key ∈ routes.managed, base key = none) :
    Ends (Holds base routes routes.managed)
      (MacosRoutes.reload (ReloadPlan.compute old new))
      (fun _ => Reclaimable base servers new) (fun _ => True) := by
  apply holds_self
  rw [if_pos applied]
  apply Ends.bind (holds_reloadProxyRoute proxyIp free)
  intro _
  apply Ends.bind (holds_deleteGatewayRoutes _)
  · intro _
    apply Ends.bind (holds_addBypasses _)
    intro _
    apply Ends.bind (holds_updateSelf _)
    intro _
    apply (holds_reloadDns _).mono (fun _ holds => holds) _
      (fun _ stopped => stopped)
    rintro _ mac ⟨dns, dnsServer, ⟨routesEq, reliable, overlay⟩, dnsEq⟩
    have onRecord : Overlay base (routes.following new).managed mac.table := by
      apply overlay.mono (reloadedKeys_subset bypass)
      intro key recorded
      rcases following_subset bypass recorded with added | before
      · exact overlay.free key added
      · exact free key before
    apply Reclaimable.of_holds ⟨routesEq, reliable, onRecord⟩ applied rfl
    · intro entry
      exact Iff.rfl
    · rcases dnsEq with rfl | rfl
      · exact sound
      · exact sound.reload areWords _
  · intro key removed
    exact free key (managed_of_removed bypass removed)

theorem Reclaimable.reload {mac after : Mac}
    (reclaimable : Reclaimable base servers old mac)
    (areWords : ∀ server ∈ servers, Text.IsWord server)
    (reloaded : (MacosRoutes.reload (ReloadPlan.compute old new)).exec mac =
      (.ok (), after)) : Reclaimable base servers new after := by
  have ends := holds_reload new areWords reclaimable.applied
    reclaimable.proxyIp reclaimable.bypass reclaimable.dns
    reclaimable.overlay.free
  exact ends.of_ok ⟨rfl, reclaimable.reliable, reclaimable.overlay⟩ reloaded

/-- A plan without effect leaves a configuration with the same routes. -/
theorem Reclaimable.of_noop {mac : Mac}
    (reclaimable : Reclaimable base servers old mac)
    (noop : (ReloadPlan.compute old new).isNoop = true) :
    Reclaimable base servers new mac := by
  obtain ⟨sameProxy, sameBypass, _⟩ := ReloadPlan.isNoop_compute noop
  have sameIp : old.proxySocketAddr.ip = new.proxySocketAddr.ip :=
    congrArg (fun proxy : ProxyConfig => proxy.addr.ip) sameProxy
  exact
    { reclaimable with
      proxyIp := reclaimable.proxyIp.trans sameIp
      bypass := fun entry =>
        (reclaimable.bypass entry).trans (sameBypass entry) }

end Reload

/-! ### Teardown -/

theorem teardown_keys (self : MacosRoutes) :
    (((self.managed \
        keysOf ([MacosRoutes.pin self.proxyIp].filter self.reaches)) \
        keysOf (self.bypass.filter self.reaches)) \ keysOf v4Split) \
        keysOf self.v6Deleted = ∅ := by
  ext key
  simp only [Set.mem_sdiff, mem_managed, Set.mem_empty_iff_false]
  tauto

theorem holds_restore :
    Ends (Holds base routes keys)
      (withDns fun dns => (.ok (), dns.restore))
      (fun _ => Holds base { routes with dns := routes.dns.restore } keys)
      failed := by
  rintro mac ⟨rfl, reliable, overlay⟩
  exact ⟨rfl, reliable, overlay⟩

theorem holds_teardown (applied : routes.applied = true)
    (free : ∀ key ∈ routes.managed, base key = none) :
    Ends (Holds base routes routes.managed) MacosRoutes.teardown
      (fun _ => Holds base
        { routes with applied := false, dns := routes.dns.restore } ∅)
      failed := by
  apply holds_self
  rw [if_pos applied]
  apply Ends.bind (holds_updateSelf _)
  intro _
  apply Ends.bind (holds_deleteViaGateway _)
  · intro _
    apply Ends.bind (holds_deleteGatewayRoutes _)
    · intro _
      apply Ends.bind (holds_deleteSplits _)
      · intro _
        apply Ends.bind (holds_deleteSplits _)
        · intro _
          rw [← teardown_keys routes]
          exact holds_restore
        · intro key member
          exact free key (mem_managed.mpr (Or.inr (Or.inr (Or.inr member))))
      · intro key member
        exact free key (mem_managed.mpr (Or.inr (Or.inr (Or.inl member))))
    · intro key member
      exact free key (mem_managed.mpr (Or.inr (Or.inl member)))
  · intro key member
    exact free key (mem_managed.mpr (Or.inl member))

theorem Reclaimable.teardown {cfg : ValidConfig} {mac : Mac}
    (reclaimable : Reclaimable base servers cfg mac) :
    ∃ after, MacosRoutes.teardown.exec mac = (.ok (), after) ∧
      after.table = base ∧ after.routes.dns.system.servers = servers := by
  have ends : Ends (Holds base mac.routes mac.routes.managed)
      MacosRoutes.teardown
      (fun _ => Holds base
        { mac.routes with applied := false, dns := mac.routes.dns.restore } ∅)
      (fun _ => False) :=
    holds_teardown reclaimable.applied reclaimable.overlay.free
  have reached := ends mac ⟨rfl, reclaimable.reliable, reclaimable.overlay⟩
  cases ended : MacosRoutes.teardown.exec mac with
  | mk outcome after =>
      rw [ended] at reached
      cases outcome with
      | error error => cases reached
      | ok =>
          refine ⟨after, rfl, reached.overlay.eq_base, ?_⟩
          rw [reached.routes]
          exact reclaimable.dns.restore

/-! ### The process -/

theorem reclaimable_reloadStep
    (areWords : ∀ server ∈ servers, Text.IsWord server)
    {tunnel next : Tunnel Mac} {loaded : Except LoadError ValidConfig}
    (reclaimable : Reclaimable base servers tunnel.currentCfg tunnel.controller)
    (stepped : tunnel.reloadStep loaded = some next) :
    Reclaimable base servers next.currentCfg next.controller := by
  rcases Tunnel.reloadStep_cases stepped with
    rfl | ⟨cfg, noop, rfl⟩ | ⟨cfg, controller, reloaded, rfl⟩
  · exact reclaimable
  · exact reclaimable.of_noop noop
  · exact reclaimable.reload areWords reloaded

/-- The table without the IPv6 routes that `teardown` deletes even where the
start never added them. -/
def Boot.left (boot : Boot) : RoutingTable := fun key =>
  if boot.captureIpv6 ∧ key ∈ v6Split.map RouteKey.ofEntry then none
  else boot.table key

theorem Boot.overlay (boot : Boot) (cfg : ValidConfig) :
    Overlay boot.left (keysOf (boot.mac cfg).routes.v6Deleted) boot.table where
  free := by
    rintro key ⟨entry, member, filed⟩
    change entry ∈ (if boot.captureIpv6 then v6Split else []) at member
    split at member
    · rename_i asked
      exact if_pos ⟨asked, List.mem_map.mpr ⟨entry, member, filed⟩⟩
    · cases member
  outside := by
    intro key notMember
    symm
    apply if_neg
    rintro ⟨asked, member⟩
    obtain ⟨entry, isSplit, filed⟩ := List.mem_map.mp member
    apply notMember
    refine ⟨entry, ?_, filed⟩
    change entry ∈ (if boot.captureIpv6 then v6Split else [])
    rwa [if_pos asked]

theorem reclaimable_of_start {boot : Boot} {cfg : ValidConfig}
    {tunnel : Tunnel Mac} (reliable : boot.Reliable)
    (areWords : ∀ server ∈ boot.dns.servers, Text.IsWord server)
    (started : boot.start cfg = .ok tunnel) :
    Reclaimable boot.left boot.dns.servers tunnel.currentCfg
      tunnel.controller := by
  have ends : Ends (Holds boot.left (boot.mac cfg).routes
      (keysOf (boot.mac cfg).routes.v6Deleted)) MacosRoutes.apply
      (fun _ => Reclaimable boot.left boot.dns.servers cfg) (fun _ => True) :=
    reclaimable_apply areWords rfl rfl
      ⟨NetworkSetupDns.faithful_discover _ _, reliable.dns⟩
  unfold Boot.start at started
  cases applied : MacosRoutes.apply.exec (boot.mac cfg) with
  | mk outcome mac =>
      rw [applied] at started
      cases outcome with
      | error error => cases started
      | ok =>
          cases started
          have calm : (boot.mac cfg).Reliable :=
            ⟨reliable.faults, reliable.refusals⟩
          exact ends.of_ok ⟨rfl, calm, boot.overlay cfg⟩ applied

/-- Where no command and no reload fails, teardown succeeds and leaves the
routing table and the name servers the start has found, whatever was reloaded
in between; only the two IPv6 routes may be missing. -/
theorem restored_by_teardown {boot : Boot} {cfg : ValidConfig}
    {tunnel last : Tunnel Mac}
    {loads : List (Except LoadError ValidConfig)} (reliable : boot.Reliable)
    (areWords : ∀ server ∈ boot.dns.servers, Text.IsWord server)
    (started : boot.start cfg = .ok tunnel)
    (ran : run Tunnel.reloadStep tunnel loads = some last) :
    ∃ after, MacosRoutes.teardown.exec last.controller = (.ok (), after) ∧
      after.table = boot.left ∧
      after.routes.dns.system.servers = boot.dns.servers := by
  have always : Always Tunnel.reloadStep
      (fun tunnel => Reclaimable boot.left boot.dns.servers tunnel.currentCfg
        tunnel.controller) tunnel loads := by
    apply always_of_invariant
    · intro tunnel loaded next reclaimable stepped
      exact reclaimable_reloadStep areWords reclaimable stepped
    · exact reclaimable_of_start reliable areWords started
  exact (always.final ran).teardown

/-- A host with a default route for IPv4 only, on which IPv6 is to be
captured all the same. -/
def exampleBoot : Boot :=
  { table := fun key =>
      if key = RouteKey.of (.v4 0) 0 then
        some (.gateway (.v4 (Ipv4Addr.ofOctets 192 168 1 1)))
      else none
    faults := fun _ => none
    reportsRefusal := true
    v4Default := "   route to: default\n    gateway: 192.168.1.1\n".toList
    v6Default := "route: writing to routing socket: not in table\n".toList
    service := "Wi-Fi".toList
    dns := { servers := ["192.168.1.1".toList], faults := fun _ => none }
    tunName := "utun4"
    captureIpv6 := true }

theorem restored_by_teardown_moved :
    ∃ tunnel last, exampleBoot.start v4ProxyConfig = .ok tunnel ∧
      run Tunnel.reloadStep tunnel [.ok movedConfig, .error .missing] =
        some last ∧
      ∃ after, MacosRoutes.teardown.exec last.controller = (.ok (), after) ∧
        after.table = exampleBoot.left ∧
        after.routes.dns.system.servers = exampleBoot.dns.servers := by
  have ran : ((exampleBoot.start v4ProxyConfig).toOption.bind fun
      tunnel => run Tunnel.reloadStep tunnel
        [.ok movedConfig, .error .missing]).isSome = true := by
    decide +kernel
  obtain ⟨last, ran⟩ := Option.isSome_iff_exists.mp ran
  obtain ⟨tunnel, started, ran⟩ := Option.bind_eq_some_iff.mp ran
  have started := Outcome.eq_ok_of_toOption_eq_some started
  refine ⟨tunnel, last, started, ran, ?_⟩
  apply restored_by_teardown ⟨rfl, rfl, rfl⟩ _ started ran
  decide +kernel

end Cortado.Macos
