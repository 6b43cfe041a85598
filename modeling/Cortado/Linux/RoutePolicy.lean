import Cortado.Linux.Boot

/-!
# The kernel routes against the bypass policy

The data path and the kernel answer the same question about a destination:
the first by matching it against the bypass list, the second by its longest
route.  After a start from a table with default routes only, both agree on a
destination exactly when it is not covered by bypass entries of length zero
and one alone, since such entries lose against the split routes.
-/

namespace Cortado.Linux

open Net KeyedTable

/-- The block of a bypass entry contains an address. -/
def Covers (entry : IpAddr × Nat) (addr : IpAddr) : Prop :=
  addr.mask entry.2 = entry.1.mask entry.2

instance (entry : IpAddr × Nat) (addr : IpAddr) :
    Decidable (Covers entry addr) :=
  inferInstanceAs (Decidable (_ = _))

/-- The table has default routes and nothing else. -/
def KernelTable.DefaultOnly (table : KernelTable) : Prop :=
  ∀ key, key.prefixLen ≠ 0 → table key = none

/-- A table routes a destination as the controller's bypass list decides. -/
def RouteManager.Follows (self : RouteManager) (table : KernelTable)
    (addr : IpAddr) : Prop :=
  match (RouteTable.new self.bypass).decide addr with
  | .direct =>
      ∃ gateway oif,
        self.gatewayFor addr = some (gateway, oif) ∧
          table.lookup addr = some { gateway := some gateway, oif := some oif }
  | .proxy =>
      table.lookup addr = some { gateway := none, oif := some self.tunIndex }

/-- The kernel routes a destination as the bypass policy decides. -/
def Host.FollowsPolicy (host : Host) (addr : IpAddr) : Prop :=
  host.manager.Follows host.kernel addr

theorem RouteKey.ofEntry_eq_of_iff (entry : IpAddr × Nat) (addr : IpAddr)
    (length : Nat) :
    RouteKey.ofEntry entry = RouteKey.of addr length ↔
      entry.2 = length ∧ Covers entry addr := by
  simp only [RouteKey.ofEntry, RouteKey.of, RouteKey.mk.injEq, Covers]
  constructor
  · intro equal
    obtain ⟨sameDst, rfl⟩ := equal
    exact ⟨rfl, sameDst.symm⟩
  · intro covers
    obtain ⟨rfl, sameDst⟩ := covers
    exact ⟨sameDst.symm, rfl⟩

/-- A covered address has the family of the entry. -/
theorem Covers.width_eq {entry : IpAddr × Nat} {addr : IpAddr}
    (covers : Covers entry addr) : addr.width = entry.1.width := by
  rw [← IpAddr.width_mask addr entry.2, covers, IpAddr.width_mask]

/-- One of the two split routes of its family covers an address. -/
theorem v4Split_covers (addr : Ipv4Addr) :
    ∃ entry ∈ v4Split, Covers entry (.v4 addr) := by
  rcases maskV4_one addr with low | high
  · refine ⟨_, List.mem_cons_self, ?_⟩
    exact congrArg IpAddr.v4 low
  · refine ⟨_, List.mem_cons_of_mem _ List.mem_cons_self, ?_⟩
    exact congrArg IpAddr.v4 high

theorem v6Split_covers (addr : Ipv6Addr) :
    ∃ entry ∈ v6Split, Covers entry (.v6 addr) := by
  rcases maskV6_one addr with low | high
  · refine ⟨_, List.mem_cons_self, ?_⟩
    exact congrArg IpAddr.v6 low
  · refine ⟨_, List.mem_cons_of_mem _ List.mem_cons_self, ?_⟩
    exact congrArg IpAddr.v6 high

namespace RouteManager

variable (self : RouteManager)

/-- The controller captures the family of an address. -/
def Captures (addr : IpAddr) : Prop :=
  addr.isIpv4 = true ∨ self.capturesV6 = true

variable {self} {addr : IpAddr}

theorem of_mem_splitKeys_iff (captured : self.Captures addr) (length : Nat) :
    RouteKey.of addr length ∈ self.splitKeys ↔ length = 1 := by
  simp only [splitKeys, List.mem_map, RouteKey.ofEntry_eq_of_iff]
  constructor
  · intro found
    obtain ⟨entry, member, rfl, _⟩ := found
    exact length_of_mem_splits member
  · intro one
    subst one
    cases addr with
    | v4 addr =>
        obtain ⟨entry, member, covers⟩ := v4Split_covers addr
        have split := List.mem_append_left
          (if self.capturesV6 then v6Split else []) member
        exact ⟨entry, split, length_of_mem_splits split, covers⟩
    | v6 addr =>
        have captures : self.capturesV6 = true := by
          simpa [Captures, IpAddr.isIpv4] using captured
        obtain ⟨entry, member, covers⟩ := v6Split_covers addr
        have split : entry ∈ v4Split ++
            if self.capturesV6 then v6Split else [] := by
          simp [captures, member]
        exact ⟨entry, split, length_of_mem_splits split, covers⟩

theorem of_mem_gatewayKeys_iff (notProxy : addr ≠ self.proxyIp)
    (length : Nat) :
    RouteKey.of addr length ∈ self.gatewayKeys ↔
      ∃ entry ∈ self.bypass, entry.2 = length ∧ Covers entry addr := by
  have notHost : RouteKey.of addr length ≠ hostKey self.proxyIp := by
    intro equal
    have entryEq :=
      (RouteKey.ofEntry_eq_hostKey_iff (addr, length) self.proxyIp).mp equal
    exact notProxy (Prod.mk.inj entryEq).1
  simp [gatewayKeys, notHost, RouteKey.ofEntry_eq_of_iff]

variable {initial : KernelTable} {gateway : IpAddr} {oif : Nat}

/-- The routes of an address in the table a start leads to. -/
theorem installed_of (defaultOnly : initial.DefaultOnly)
    (notProxy : addr ≠ self.proxyIp) (captured : self.Captures addr)
    (found : self.gatewayFor addr = some (gateway, oif))
    {length : Nat} (positive : 0 < length) :
    self.installed initial (RouteKey.of addr length) =
      if length = 1 then some self.tunHop
      else if ∃ entry ∈ self.bypass, entry.2 = length ∧ Covers entry addr then
        some { gateway := some gateway, oif := some oif }
      else none := by
  have hop : self.gatewayHop (RouteKey.of addr length) =
      some { gateway := some gateway, oif := some oif } := by
    simp [self.gatewayHop_of, found]
  have absent : initial (RouteKey.of addr length) = none := by
    apply defaultOnly
    simp only [RouteKey.of]
    omega
  simp only [installed_apply, of_mem_splitKeys_iff captured,
    of_mem_gatewayKeys_iff notProxy, hop, Option.isSome_some, and_true,
    absent]

/-- A bypass entry longer than the split routes wins. -/
theorem lookup_installed_of_long (defaultOnly : initial.DefaultOnly)
    (valid : ValidBypass self.bypass)
    (notProxy : addr ≠ self.proxyIp) (captured : self.Captures addr)
    (found : self.gatewayFor addr = some (gateway, oif))
    (long : ∃ entry ∈ self.bypass, 2 ≤ entry.2 ∧ Covers entry addr) :
    (self.installed initial).lookup addr =
      some { gateway := some gateway, oif := some oif } := by
  have routes := @installed_of self addr initial gateway oif defaultOnly
    notProxy captured found
  obtain ⟨entry, member, isLong, covers⟩ := long
  apply longestMatch_of_uniform 1
  · intro longer above within
    have notOne : longer ≠ 1 := by omega
    rw [routes (by omega), if_neg notOne]
    split
    · exact Or.inr rfl
    · exact Or.inl rfl
  · have within : entry.2 ≤ addr.width := by
      rw [covers.width_eq]
      exact valid entry member
    have notOne : entry.2 ≠ 1 := by omega
    refine ⟨entry.2, by omega, within, ?_⟩
    rw [routes (by omega), if_neg notOne, if_pos ⟨entry, member, rfl, covers⟩]

/-- Without such an entry the address goes into the tunnel. -/
theorem lookup_installed_of_not_long (defaultOnly : initial.DefaultOnly)
    (notProxy : addr ≠ self.proxyIp) (captured : self.Captures addr)
    (found : self.gatewayFor addr = some (gateway, oif))
    (short : ¬∃ entry ∈ self.bypass, 2 ≤ entry.2 ∧ Covers entry addr) :
    (self.installed initial).lookup addr = some self.tunHop := by
  have routes := @installed_of self addr initial gateway oif defaultOnly
    notProxy captured found
  apply longestMatch_eq 1
  · rw [routes (by omega), if_pos rfl]
  · cases addr <;> simp [IpAddr.width]
  · intro longer above _within
    have notOne : longer ≠ 1 := by omega
    have noEntry : ¬∃ entry ∈ self.bypass,
        entry.2 = longer ∧ Covers entry addr := by
      intro existing
      obtain ⟨entry, member, rfl, covers⟩ := existing
      exact short ⟨entry, member, by omega, covers⟩
    rw [routes (by omega), if_neg notOne, if_neg noEntry]

theorem follows_of_direct {table : KernelTable}
    (direct : (RouteTable.new self.bypass).decide addr = .direct) :
    self.Follows table addr ↔
      ∃ gateway oif,
        self.gatewayFor addr = some (gateway, oif) ∧
          table.lookup addr =
            some { gateway := some gateway, oif := some oif } := by
  simp only [Follows, direct]

theorem follows_of_proxy {table : KernelTable}
    (proxied : (RouteTable.new self.bypass).decide addr = .proxy) :
    self.Follows table addr ↔ table.lookup addr = some self.tunHop := by
  simp only [Follows, proxied, tunHop]

/-- The installed table follows the policy unless only entries that lose
against the split routes cover the address. -/
theorem follows_installed_iff (defaultOnly : initial.DefaultOnly)
    (valid : ValidBypass self.bypass)
    (notProxy : addr ≠ self.proxyIp) (captured : self.Captures addr)
    (found : self.gatewayFor addr = some (gateway, oif)) :
    self.Follows (self.installed initial) addr ↔
      ((∃ entry ∈ self.bypass, Covers entry addr) →
        ∃ entry ∈ self.bypass, 2 ≤ entry.2 ∧ Covers entry addr) := by
  have decision := RouteTable.decide_eq_direct_iff self.bypass addr
  by_cases covered : ∃ entry ∈ self.bypass, Covers entry addr
  · rw [follows_of_direct (decision.mpr covered)]
    by_cases long : ∃ entry ∈ self.bypass, 2 ≤ entry.2 ∧ Covers entry addr
    · have route := lookup_installed_of_long defaultOnly valid notProxy
        captured found long
      exact iff_of_true ⟨gateway, oif, found, route⟩ (fun _ => long)
    · have route := lookup_installed_of_not_long defaultOnly notProxy
        captured found long
      apply iff_of_false
      · intro follows
        obtain ⟨_, _, _, throughGateway⟩ := follows
        rw [route] at throughGateway
        simp [tunHop] at throughGateway
      · intro implies
        exact long (implies covered)
  · have proxied : (RouteTable.new self.bypass).decide addr = .proxy := by
      cases decided : (RouteTable.new self.bypass).decide addr with
      | direct => exact absurd (decision.mp decided) covered
      | proxy => rfl
    rw [follows_of_proxy proxied]
    apply iff_of_true
    · apply lookup_installed_of_not_long defaultOnly notProxy captured found
      intro long
      obtain ⟨entry, member, _, covers⟩ := long
      exact covered ⟨entry, member, covers⟩
    · intro existing
      exact absurd existing covered

/-- A family that is asked for and has a gateway is captured. -/
theorem captures_of_gateway
    (asked : addr.isIpv4 = true ∨ self.captureIpv6 = true)
    (found : self.gatewayFor addr = some (gateway, oif)) :
    self.Captures addr := by
  cases addr with
  | v4 addr => exact Or.inl rfl
  | v6 addr =>
      right
      have asked : self.captureIpv6 = true := by
        simpa [IpAddr.isIpv4] using asked
      have present : self.v6Gateway.isSome := by
        cases missing : self.v6Gateway with
        | none => simp [gatewayFor, missing] at found
        | some pair => rfl
      simp [capturesV6, present, asked]

end RouteManager

theorem followsPolicy_of_apply {host after : Host} (reliable : host.Reliable)
    (applied : RouteManager.apply.exec host = (.ok (), after))
    (addr : IpAddr) :
    after.FollowsPolicy addr ↔
      (host.manager.withGateways host.kernel).Follows
        ((host.manager.withGateways host.kernel).installed host.kernel)
        addr := by
  have sameGateway := gatewayFor_of_apply reliable applied addr
  obtain ⟨dns, files, rfl, _, _⟩ := exec_apply_eq_ok reliable applied
  unfold Host.FollowsPolicy RouteManager.Follows
  rw [sameGateway]

/-- After a successful start, kernel and policy agree on a destination
exactly if some bypass entry longer than the split routes covers it whenever
any entry does. -/
theorem followsPolicy_iff {host after : Host} (reliable : host.Reliable)
    (defaultOnly : host.kernel.DefaultOnly)
    (valid : ValidBypass host.manager.bypass)
    (applied : RouteManager.apply.exec host = (.ok (), after))
    {addr : IpAddr} (notProxy : addr ≠ host.manager.proxyIp)
    (hasGateway : (after.manager.gatewayFor addr).isSome)
    (captured : addr.isIpv4 = true ∨ host.manager.captureIpv6 = true) :
    after.FollowsPolicy addr ↔
      ((∃ entry ∈ host.manager.bypass, Covers entry addr) →
        ∃ entry ∈ host.manager.bypass, 2 ≤ entry.2 ∧ Covers entry addr) := by
  let self := host.manager.withGateways host.kernel
  rw [gatewayFor_of_apply reliable applied] at hasGateway
  obtain ⟨⟨gateway, oif⟩, found⟩ := Option.isSome_iff_exists.mp hasGateway
  have captures : self.Captures addr :=
    RouteManager.captures_of_gateway captured found
  have selfValid : ValidBypass self.bypass := valid
  have selfProxy : addr ≠ self.proxyIp := notProxy
  rw [followsPolicy_of_apply reliable applied]
  exact RouteManager.follows_installed_iff defaultOnly selfValid selfProxy
    captures found

/-- A bypass list that sends every IPv4 destination out directly. -/
def bypassAllConfig : ValidConfig :=
  ⟨{ proxyAddr := "203.0.113.9:1080"
     bypassCidrs := ["0.0.0.0/0"] }, by decide⟩

def publicResolver : IpAddr :=
  .v4 (Ipv4Addr.ofOctets 8 8 8 8)

theorem bypassRoutes_bypassAll :
    bypassAllConfig.bypassRoutes = [(.v4 0, 0)] := by
  decide +kernel

theorem publicResolver_ne_proxy :
    publicResolver ≠ (v4OnlyBoot.host bypassAllConfig).manager.proxyIp := by
  decide +kernel

theorem v4OnlyBoot_defaultOnly :
    (v4OnlyBoot.host bypassAllConfig).kernel.DefaultOnly := by
  intro key positive
  have different : key ≠ RouteKey.of (.v4 0) 0 := by
    intro equal
    exact positive (congrArg RouteKey.prefixLen equal)
  exact if_neg different

theorem exec_apply_bypassAll :
    ∃ after, RouteManager.apply.exec (v4OnlyBoot.host bypassAllConfig) =
        (.ok (), after) ∧
      (after.manager.gatewayFor publicResolver).isSome := by
  have reliable := v4OnlyBoot_reliable.host bypassAllConfig
  obtain ⟨after, applied⟩ := exec_apply_of_gateway reliable
    v4OnlyBoot_reliable.2 (by decide +kernel)
  refine ⟨after, applied, ?_⟩
  rw [gatewayFor_of_apply reliable applied]
  decide +kernel

theorem followsPolicy_iff_publicResolver :
    ∃ after, RouteManager.apply.exec (v4OnlyBoot.host bypassAllConfig) =
        (.ok (), after) ∧
      (after.FollowsPolicy publicResolver ↔
        ((∃ entry ∈ (v4OnlyBoot.host bypassAllConfig).manager.bypass,
            Covers entry publicResolver) →
          ∃ entry ∈ (v4OnlyBoot.host bypassAllConfig).manager.bypass,
            2 ≤ entry.2 ∧ Covers entry publicResolver)) := by
  obtain ⟨after, applied, hasGateway⟩ := exec_apply_bypassAll
  refine ⟨after, applied, ?_⟩
  exact followsPolicy_iff (v4OnlyBoot_reliable.host bypassAllConfig)
    v4OnlyBoot_defaultOnly (v4OnlyBoot.host_validBypass bypassAllConfig)
    applied publicResolver_ne_proxy hasGateway (Or.inl rfl)

/-- The policy sends the resolver out directly, the split routes capture
it. -/
theorem followsPolicy_fails_on_bypassAll :
    let host := v4OnlyBoot.host bypassAllConfig
    ∃ after,
      host.Reliable ∧ host.kernel.DefaultOnly ∧
        ValidBypass host.manager.bypass ∧
        RouteManager.apply.exec host = (.ok (), after) ∧
        publicResolver ≠ host.manager.proxyIp ∧
        (after.manager.gatewayFor publicResolver).isSome ∧
        publicResolver.isIpv4 = true ∧
        ¬after.FollowsPolicy publicResolver := by
  intro host
  have reliable : host.Reliable := v4OnlyBoot_reliable.host bypassAllConfig
  have valid := v4OnlyBoot.host_validBypass bypassAllConfig
  obtain ⟨after, applied, hasGateway⟩ := exec_apply_bypassAll
  refine ⟨after, reliable, v4OnlyBoot_defaultOnly, valid, applied,
    publicResolver_ne_proxy, hasGateway, rfl, ?_⟩
  rw [gatewayFor_of_apply reliable applied] at hasGateway
  obtain ⟨⟨gateway, oif⟩, found⟩ := Option.isSome_iff_exists.mp hasGateway
  let self := host.manager.withGateways host.kernel
  have selfValid : ValidBypass self.bypass := valid
  have selfProxy : publicResolver ≠ self.proxyIp := publicResolver_ne_proxy
  have entries : self.bypass = [(.v4 0, 0)] := bypassRoutes_bypassAll
  rw [followsPolicy_of_apply reliable applied,
    RouteManager.follows_installed_iff v4OnlyBoot_defaultOnly selfValid
      selfProxy (Or.inl rfl) found, entries]
  decide

end Cortado.Linux
