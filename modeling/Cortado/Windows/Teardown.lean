import Cortado.Lib.Transition
import Cortado.Windows.Netsh

/-!
# What the Windows controller takes back

Whichever commands fail, a process whose reloads all succeed has issued a
deletion for every route it has asked for, and a reset for every name server,
when its teardown is over.  And it deletes no route that it has not asked for.
-/

namespace Cortado.Windows

open Net Transition
open Shell (Ends)

/-- What a command asks for, or gives back.  A reset is for a family of name
servers. -/
inductive Resource where
  | route (target : RouteTarget)
  | dns (family : Family)
  deriving DecidableEq, Repr

def NetshCommand.act : NetshCommand → Custody.Act Resource
  | .addRoute target => .acquire (.route target)
  | .deleteRoute target => .release (.route target)
  | .setStatic _ dns => .acquire (.dns (.of dns))
  | .setDhcp _ family => .release (.dns family)

def Machine.acts (machine : Machine) : List (Custody.Act Resource) :=
  machine.issued.map NetshCommand.act

/-- The targets of a list of entries. -/
def targetsOf (target : IpAddr × Nat → RouteTarget) (entries : CidrList) :
    Set RouteTarget :=
  {item | ∃ entry ∈ entries, target entry = item}

/-- The routes through the gateway, if there is one. -/
def gatewayTargets (gateway : Option IpAddr)
    (targets : IpAddr → Set RouteTarget) : Set RouteTarget :=
  {target | ∃ addr ∈ gateway, target ∈ targets addr}

/-- The route to the proxy. -/
def pinTargets (gateway : Option IpAddr) (proxyIp : IpAddr) :
    Set RouteTarget :=
  gatewayTargets gateway fun addr => {pinTarget proxyIp addr}

/-- The bypass routes that entries stand for. -/
def bypassTargets (gateway : Option IpAddr) (entries : CidrList) :
    Set RouteTarget :=
  gatewayTargets gateway fun addr => targetsOf (bypassTarget addr) entries

namespace WindowsRoutes

/-- The IPv6 routes into the tunnel. -/
def capturedV6 (self : WindowsRoutes) : CidrList :=
  if self.captureIpv6 then v6Split else []

/-- The routes that the controller has on record. -/
def targets (self : WindowsRoutes) : Set RouteTarget :=
  pinTargets self.gateway self.proxyIp ∪
    bypassTargets self.gateway self.bypass ∪
    targetsOf (splitTarget self.interface) v4Split ∪
    targetsOf (splitTarget self.interface) self.capturedV6

end WindowsRoutes

/-- The controller, a bound on what is held, and routes that were asked for
at some time. -/
structure Tracks (routes : WindowsRoutes) (bound : Set Resource)
    (known : Set RouteTarget) (machine : Machine) : Prop where
  routes : machine.routes = routes
  held : Custody.held machine.acts ⊆ bound
  known : ∀ target ∈ known, .acquire (.route target) ∈ machine.acts
  earned : ∀ target, Custody.Earned machine.acts (.route target)

variable {routes : WindowsRoutes} {bound : Set Resource}
  {known : Set RouteTarget} {failed : Machine → Prop}

/-! ## Commands -/

theorem acts_issue (machine : Machine) (command : NetshCommand) :
    (machine.issue command).acts = machine.acts ++ [command.act] :=
  List.map_append

theorem Tracks.mono {machine : Machine} {more : Set Resource}
    {fewer : Set RouteTarget} (tracks : Tracks routes bound known machine)
    (wider : bound ⊆ more) (narrower : fewer ⊆ known) :
    Tracks routes more fewer machine where
  routes := tracks.routes
  held := tracks.held.trans wider
  known := fun target member => tracks.known target (narrower member)
  earned := tracks.earned

/-- A command that asks for something. -/
theorem Tracks.acquire {machine : Machine} {command : NetshCommand}
    {resource : Resource} (tracks : Tracks routes bound known machine)
    (isAct : command.act = .acquire resource) :
    Tracks routes (insert resource bound)
      (known ∪ {target | .route target = resource})
      (machine.issue command) where
  routes := tracks.routes
  held := by
    rw [acts_issue, isAct, Custody.held_concat]
    exact Set.insert_subset_insert tracks.held
  known := by
    intro target member
    rw [acts_issue, isAct, List.mem_append, List.mem_singleton]
    rcases member with old | isNew
    · exact Or.inl (tracks.known target old)
    · exact Or.inr (congrArg _ isNew)
  earned := by
    intro target
    rw [acts_issue, isAct]
    exact (tracks.earned target).concat nofun

/-- A command that gives something back. -/
theorem Tracks.release {machine : Machine} {command : NetshCommand}
    {resource : Resource} (tracks : Tracks routes bound known machine)
    (isAct : command.act = .release resource)
    (asked : ∀ target, .route target = resource → target ∈ known) :
    Tracks routes (bound \ {resource}) known (machine.issue command) where
  routes := tracks.routes
  held := by
    rw [acts_issue, isAct, Custody.held_concat]
    exact Set.sdiff_subset_sdiff_left tracks.held
  known := by
    intro target member
    rw [acts_issue]
    exact List.mem_append_left _ (tracks.known target member)
  earned := by
    intro target
    rw [acts_issue, isAct]
    apply (tracks.earned target).concat
    intro isRelease
    cases isRelease
    exact tracks.known target (asked target rfl)

theorem ends_issue {pre post : Machine → Prop} {command : NetshCommand}
    {error : CommandFault → RouteError}
    (issued : ∀ machine, pre machine → post (machine.issue command)) :
    Ends pre (issue command error) (fun _ => post) post := by
  intro machine initial
  have reached := issued machine initial
  unfold issue
  rw [Shell.exec_ofFun]
  cases machine.faults 0 with
  | none => exact reached
  | some fault => exact reached

theorem tracks_addRoute (target : RouteTarget) :
    Ends (Tracks routes bound known) (netsh (.addRoute target))
      (fun _ => Tracks routes (insert (.route target) bound)
        (insert target known))
      (Tracks routes (insert (.route target) bound) (insert target known)) := by
  apply ends_issue
  intro machine tracks
  apply (tracks.acquire rfl).mono (Set.Subset.refl _)
  intro other member
  rcases member with rfl | old
  · exact Or.inr rfl
  · exact Or.inl old

theorem tracks_addRoute_quiet (target : RouteTarget) :
    Ends (Tracks routes bound known) (netshQuiet (.addRoute target))
      (fun _ => Tracks routes (insert (.route target) bound)
        (insert target known)) failed :=
  (tracks_addRoute target).quietly

theorem tracks_deleteRoute {target : RouteTarget} (asked : target ∈ known) :
    Ends (Tracks routes bound known) (netshQuiet (.deleteRoute target))
      (fun _ => Tracks routes (bound \ {.route target}) known) failed := by
  apply Ends.quietly
  apply ends_issue
  intro machine tracks
  apply tracks.release rfl
  intro other same
  cases same
  exact asked

theorem tracks_setStatic (interface : String) (dns : IpAddr) :
    Ends (Tracks routes bound known) (setStatic interface dns)
      (fun _ => Tracks routes (insert (.dns (.of dns)) bound) known)
      (fun _ => True) := by
  have ends : Ends (Tracks routes bound known) (setStatic interface dns)
      (fun _ => Tracks routes (insert (.dns (.of dns)) bound) known)
      (Tracks routes (insert (.dns (.of dns)) bound) known) := by
    apply ends_issue
    intro machine tracks
    exact (tracks.acquire rfl).mono (Set.Subset.refl _)
      Set.subset_union_left
  exact ends.mono (fun _ holds => holds) (fun _ _ holds => holds)
    fun _ _ => trivial

theorem tracks_setDhcp (interface : String) (family : Family) :
    Ends (Tracks routes bound known) (setDhcp interface family)
      (fun _ => Tracks routes (bound \ {.dns family}) known) failed := by
  apply Ends.quietly
  apply ends_issue
  intro machine tracks
  exact tracks.release rfl nofun

theorem tracks_self {α : Type} {next : WindowsRoutes → WinM α}
    {ok : α → Machine → Prop}
    (continued : Ends (Tracks routes bound known) (next routes) ok failed) :
    Ends (Tracks routes bound known) (self >>= next) ok failed := by
  intro machine tracks
  have read : Shell.exec self machine = (.ok routes, machine) := by
    rw [← tracks.routes]
    rfl
  rw [Shell.exec_bind, read]
  exact continued machine tracks

theorem tracks_updateSelf (change : WindowsRoutes → WindowsRoutes) :
    Ends (Tracks routes bound known) (updateSelf change)
      (fun _ => Tracks (change routes) bound known) failed := by
  apply Ends.update
  intro machine tracks
  exact ⟨congrArg change tracks.routes, tracks.held, tracks.known,
    tracks.earned⟩

/-! ## Loops -/

section Loops

variable {body : IpAddr × Nat → WinM Unit}
  {target : IpAddr × Nat → RouteTarget} {entries : CidrList}

theorem targetsOf_nil : targetsOf target [] = ∅ := by
  ext item
  simp [targetsOf]

theorem targetsOf_concat (entry : IpAddr × Nat) :
    targetsOf target (entries ++ [entry]) =
      insert (target entry) (targetsOf target entries) := by
  ext item
  constructor
  · rintro ⟨other, member, rfl⟩
    rcases List.mem_append.mp member with old | isNew
    · exact Or.inr ⟨other, old, rfl⟩
    · exact Or.inl (congrArg target (List.mem_singleton.mp isNew))
  · rintro (rfl | ⟨other, old, rfl⟩)
    · exact ⟨entry, List.mem_append_right _ (List.mem_singleton_self _), rfl⟩
    · exact ⟨other, List.mem_append_left _ old, rfl⟩

theorem tracks_forEach_add
    (each : ∀ entry bound known, Ends (Tracks routes bound known) (body entry)
      (fun _ => Tracks routes (insert (.route (target entry)) bound)
        (insert (target entry) known)) failed) :
    Ends (Tracks routes bound known) (.forEach body entries)
      (fun _ => Tracks routes
        (bound ∪ Resource.route '' targetsOf target entries)
        (known ∪ targetsOf target entries)) failed := by
  have loop : Ends
      (Tracks routes (bound ∪ Resource.route '' targetsOf target [])
        (known ∪ targetsOf target [])) (.forEach body entries)
      (fun _ => Tracks routes
        (bound ∪ Resource.route '' targetsOf target entries)
        (known ∪ targetsOf target entries)) failed := by
    apply Ends.forEach fun done => Tracks routes
      (bound ∪ Resource.route '' targetsOf target done)
      (known ∪ targetsOf target done)
    intro done entry rest whole
    rw [targetsOf_concat, Set.image_insert_eq, Set.union_insert,
      Set.union_insert]
    exact each entry _ _
  rwa [targetsOf_nil, Set.image_empty, Set.union_empty,
    Set.union_empty] at loop

theorem tracks_forEach_delete
    (each : ∀ entry ∈ entries, ∀ bound,
      Ends (Tracks routes bound known) (body entry)
        (fun _ => Tracks routes (bound \ {.route (target entry)}) known)
        failed) :
    Ends (Tracks routes bound known) (.forEach body entries)
      (fun _ => Tracks routes
        (bound \ Resource.route '' targetsOf target entries) known)
      failed := by
  have loop : Ends
      (Tracks routes (bound \ Resource.route '' targetsOf target []) known)
      (.forEach body entries)
      (fun _ => Tracks routes
        (bound \ Resource.route '' targetsOf target entries) known)
      failed := by
    apply Ends.forEach fun done => Tracks routes
      (bound \ Resource.route '' targetsOf target done) known
    intro done entry rest whole
    rw [targetsOf_concat, Set.image_insert_eq, ← Set.union_singleton,
      ← Set.sdiff_sdiff]
    exact each entry (by simp [whole]) _
  rwa [targetsOf_nil, Set.image_empty, Set.sdiff_empty] at loop

end Loops

theorem gatewayTargets_none (targets : IpAddr → Set RouteTarget) :
    gatewayTargets none targets = ∅ := by
  ext target
  simp [gatewayTargets]

theorem gatewayTargets_some (addr : IpAddr)
    (targets : IpAddr → Set RouteTarget) :
    gatewayTargets (some addr) targets = targets addr := by
  ext target
  simp [gatewayTargets]

theorem tracks_addBypasses (self : WindowsRoutes) (entries : CidrList) :
    Ends (Tracks routes bound known) (.forEach self.addBypass entries)
      (fun _ => Tracks routes
        (bound ∪ Resource.route '' bypassTargets self.gateway entries)
        (known ∪ bypassTargets self.gateway entries)) failed := by
  unfold bypassTargets
  cases found : self.gateway with
  | some gateway =>
      rw [gatewayTargets_some]
      apply tracks_forEach_add
      intro entry bound known
      simp only [WindowsRoutes.addBypass, found]
      exact tracks_addRoute_quiet _
  | none =>
      rw [gatewayTargets_none, Set.image_empty, Set.union_empty,
        Set.union_empty]
      apply Ends.forEach_invariant
      intro entry _
      simp only [WindowsRoutes.addBypass, found]
      exact Ends.pure fun _ tracks => tracks

theorem tracks_deleteBypasses {self : WindowsRoutes} {entries : CidrList}
    (asked : bypassTargets self.gateway entries ⊆ known) :
    Ends (Tracks routes bound known) (.forEach self.deleteBypass entries)
      (fun _ => Tracks routes
        (bound \ Resource.route '' bypassTargets self.gateway entries) known)
      failed := by
  unfold bypassTargets at asked ⊢
  cases found : self.gateway with
  | some gateway =>
      rw [found, gatewayTargets_some] at asked
      rw [gatewayTargets_some]
      apply tracks_forEach_delete
      intro entry member bound
      simp only [WindowsRoutes.deleteBypass, found]
      exact tracks_deleteRoute (asked ⟨entry, member, rfl⟩)
  | none =>
      rw [gatewayTargets_none, Set.image_empty, Set.sdiff_empty]
      apply Ends.forEach_invariant
      intro entry _
      simp only [WindowsRoutes.deleteBypass, found]
      exact Ends.pure fun _ tracks => tracks

theorem tracks_deleteSplits {self : WindowsRoutes} {entries : CidrList}
    (asked : targetsOf (splitTarget self.interface) entries ⊆ known) :
    Ends (Tracks routes bound known) (.forEach self.deleteSplit entries)
      (fun _ => Tracks routes
        (bound \ Resource.route '' targetsOf (splitTarget self.interface)
          entries) known) failed := by
  apply tracks_forEach_delete
  intro entry member bound
  exact tracks_deleteRoute (asked ⟨entry, member, rfl⟩)

/-! ## Name servers -/

/-- The bound while name servers may be set. -/
def withDns (routes : Set Resource) (configured : Bool) : Set Resource :=
  routes ∪ {resource | configured = true ∧ ∃ family, resource = .dns family}

theorem withDns_insert (routes : Set Resource) (configured : Bool)
    (family : Family) :
    insert (.dns family) (withDns routes configured) ⊆
      withDns routes true := by
  rintro resource (rfl | route | ⟨_, isDns⟩)
  · exact Or.inr ⟨rfl, family, rfl⟩
  · exact Or.inl route
  · exact Or.inr ⟨rfl, isDns⟩

theorem withDns_reset (routes : Set Resource) (configured : Bool) :
    (withDns routes configured \ {.dns .ipv4}) \ {.dns .ipv6} ⊆
      withDns routes false := by
  rintro resource ⟨⟨route | ⟨_, family, rfl⟩, notV4⟩, notV6⟩
  · exact Or.inl route
  · cases family with
    | ipv4 => exact absurd rfl notV4
    | ipv6 => exact absurd rfl notV6

/-- The name servers of a controller, with the rest unchanged. -/
def DnsTracked (routes : WindowsRoutes) (bound : Set Resource)
    (known : Set RouteTarget) (machine : Machine) : Prop :=
  ∃ dns dnsServer,
    Tracks { routes with dns := dns, dnsServer := dnsServer }
      (withDns bound dns.configured) known machine

theorem tracks_reset (interface : String) {configured : Bool} :
    Ends (Tracks routes (withDns bound configured) known)
      (NetshDns.reset interface)
      (fun _ => Tracks routes (withDns bound false) known) failed := by
  apply Ends.bind (tracks_setDhcp interface .ipv4)
  intro _
  apply (tracks_setDhcp interface .ipv6).mono (fun _ tracks => tracks) _
    (fun _ stopped => stopped)
  intro _ machine tracks
  exact tracks.mono (withDns_reset bound configured) (Set.Subset.refl _)

theorem tracks_dnsApply (server : Option IpAddr) :
    Ends (Tracks routes (withDns bound routes.dns.configured) known)
      (NetshDns.apply server)
      (fun _ => DnsTracked routes bound known) (fun _ => True) := by
  cases server with
  | none =>
      apply Ends.pure
      intro machine tracks
      exact ⟨routes.dns, routes.dnsServer, tracks⟩
  | some dns =>
      apply tracks_self
      apply Ends.bind (tracks_setStatic _ dns)
      intro _
      apply (tracks_updateSelf _).mono (fun _ tracks => tracks) _
        (fun _ stopped => stopped)
      intro _ machine tracks
      exact ⟨_, routes.dnsServer,
        tracks.mono (withDns_insert bound _ _) (Set.Subset.refl _)⟩

theorem tracks_dnsReload (server : Option IpAddr) :
    Ends (Tracks routes (withDns bound routes.dns.configured) known)
      (NetshDns.reload server)
      (fun _ => DnsTracked routes bound known) (fun _ => True) := by
  apply tracks_self
  split
  · apply Ends.pure
    intro machine tracks
    exact ⟨routes.dns, routes.dnsServer, tracks⟩
  · cases server with
    | some dns =>
        apply Ends.bind (tracks_setStatic _ dns)
        intro _
        apply Ends.bind (tracks_updateSelf _)
        intro _
        apply (tracks_updateSelf _).mono (fun _ tracks => tracks) _
          (fun _ stopped => stopped)
        intro _ machine tracks
        exact ⟨_, routes.dnsServer,
          tracks.mono (withDns_insert bound _ _) (Set.Subset.refl _)⟩
    | none =>
        apply Ends.bind (tracks_reset _)
        intro _
        apply Ends.bind (tracks_updateSelf _)
        intro _
        apply (tracks_updateSelf _).mono (fun _ tracks => tracks) _
          (fun _ stopped => stopped)
        intro _ machine tracks
        exact ⟨_, routes.dnsServer, tracks⟩

/-- An update of the rest of the controller. -/
theorem tracked_updateSelf {change : WindowsRoutes → WindowsRoutes}
    (apart : ∀ dns dnsServer,
      change { routes with dns := dns, dnsServer := dnsServer } =
        { change routes with dns := dns, dnsServer := dnsServer }) :
    Ends (DnsTracked routes bound known) (updateSelf change)
      (fun _ => DnsTracked (change routes) bound known) failed := by
  apply Ends.exists
  intro dns
  apply Ends.exists
  intro dnsServer
  apply (tracks_updateSelf change).mono (fun _ tracks => tracks) _
    (fun _ stopped => stopped)
  intro _ machine tracks
  rw [apart] at tracks
  exact ⟨dns, dnsServer, tracks⟩

theorem tracked_reloadDns (plan : ReloadPlan) :
    Ends (Tracks routes (withDns bound routes.dns.configured) known)
      (WindowsRoutes.reloadDns plan)
      (fun _ => DnsTracked routes bound known) (fun _ => True) := by
  unfold WindowsRoutes.reloadDns
  split
  · apply Ends.bind (tracks_dnsReload _)
    intro _
    apply Ends.update
    rintro machine ⟨dns, dnsServer, tracks⟩
    exact ⟨dns, plan.dns,
      congrArg (fun self => { self with dnsServer := plan.dns }) tracks.routes,
      tracks.held, tracks.known, tracks.earned⟩
  · apply Ends.pure
    intro machine tracks
    exact ⟨routes.dns, routes.dnsServer, tracks⟩

theorem tracks_restore :
    Ends (Tracks routes (withDns bound routes.dns.configured) known)
      NetshDns.restore
      (fun _ machine => ∃ routes,
        Tracks routes (withDns bound false) known machine) failed := by
  apply tracks_self
  split
  · apply Ends.bind (tracks_reset _)
    intro _
    apply (tracks_updateSelf _).mono (fun _ tracks => tracks) _
      (fun _ stopped => stopped)
    intro _ machine tracks
    exact ⟨_, tracks⟩
  · rename_i notConfigured
    rw [Bool.not_eq_true] at notConfigured
    apply Ends.pure
    intro machine tracks
    rw [notConfigured] at tracks
    exact ⟨_, tracks⟩

/-! ## The controller -/

/-- What holds between reloads. -/
structure InService (cfg : ValidConfig) (machine : Machine) : Prop where
  applied : machine.routes.applied = true
  proxyIp : machine.routes.proxyIp = cfg.proxySocketAddr.ip
  bypass : ∀ entry, entry ∈ machine.routes.bypass ↔ entry ∈ cfg.bypassRoutes
  tracks : Tracks machine.routes
    (withDns (Resource.route '' machine.routes.targets)
      machine.routes.dns.configured) machine.routes.targets machine

theorem DnsTracked.inService {cfg : ValidConfig} {machine : Machine}
    (tracked : DnsTracked routes (Resource.route '' routes.targets)
      routes.targets machine)
    (applied : routes.applied = true)
    (proxyIp : routes.proxyIp = cfg.proxySocketAddr.ip)
    (bypass : ∀ entry, entry ∈ routes.bypass ↔ entry ∈ cfg.bypassRoutes) :
    InService cfg machine := by
  obtain ⟨dns, dnsServer, tracks⟩ := tracked
  have isRoutes := tracks.routes
  constructor
  · rw [isRoutes]
    exact applied
  · rw [isRoutes]
    exact proxyIp
  · rw [isRoutes]
    exact bypass
  · rw [isRoutes]
    exact tracks

theorem tracks_pinProxy (self : WindowsRoutes) :
    Ends (Tracks routes bound known) self.pinProxy
      (fun _ => Tracks routes
        (bound ∪ Resource.route '' pinTargets self.gateway self.proxyIp)
        (known ∪ pinTargets self.gateway self.proxyIp))
      (fun _ => True) := by
  unfold pinTargets WindowsRoutes.pinProxy
  cases self.gateway with
  | some gateway =>
      rw [gatewayTargets_some, Set.image_singleton, Set.union_singleton,
        Set.union_singleton]
      apply Ends.withContext
      exact (tracks_addRoute _).mono (fun _ tracks => tracks)
        (fun _ _ tracks => tracks) fun _ _ => trivial
  | none =>
      rw [gatewayTargets_none, Set.image_empty, Set.union_empty,
        Set.union_empty]
      exact Ends.pure fun _ tracks => tracks

theorem tracks_addSplitV4 (self : WindowsRoutes) :
    Ends (Tracks routes bound known) self.addSplitV4
      (fun _ => Tracks routes
        (bound ∪ Resource.route '' targetsOf (splitTarget self.interface)
          v4Split)
        (known ∪ targetsOf (splitTarget self.interface) v4Split))
      (fun _ => True) := by
  apply tracks_forEach_add
  intro entry bound known
  exact (tracks_addRoute _).mono (fun _ tracks => tracks)
    (fun _ _ tracks => tracks) fun _ _ => trivial

theorem tracks_addSplitV6 (self : WindowsRoutes) :
    Ends (Tracks routes bound known) self.addSplitV6
      (fun _ => Tracks routes
        (bound ∪ Resource.route '' targetsOf (splitTarget self.interface)
          self.capturedV6)
        (known ∪ targetsOf (splitTarget self.interface) self.capturedV6))
      failed := by
  apply tracks_forEach_add
  intro entry bound known
  exact tracks_addRoute_quiet _

/-- Everything that `apply` has asked for is on record. -/
theorem tracks_configure (self : WindowsRoutes) {cfg : ValidConfig}
    (proxyIp : self.proxyIp = cfg.proxySocketAddr.ip)
    (bypass : self.bypass = cfg.bypassRoutes) :
    Ends (Tracks self ∅ ∅) self.configure (fun _ => InService cfg)
      (fun _ => True) := by
  apply Ends.bind (tracks_pinProxy self)
  intro _
  apply Ends.bind (tracks_addBypasses self _)
  intro _
  apply Ends.bind (tracks_addSplitV4 self)
  intro _
  apply Ends.bind (tracks_addSplitV6 self)
  intro _
  have dns : Ends (Tracks self
      (withDns (Resource.route '' self.targets) self.dns.configured)
      self.targets) (NetshDns.apply self.dnsServer)
      (fun _ => DnsTracked self (Resource.route '' self.targets) self.targets)
      (fun _ => True) := tracks_dnsApply _
  apply Ends.bind (dns.mono _ (fun _ _ tracked => tracked)
    fun _ stopped => stopped)
  · intro _
    apply (tracked_updateSelf fun _ _ => rfl).mono (fun _ tracked => tracked) _
      (fun _ stopped => stopped)
    intro _ machine tracked
    apply tracked.inService rfl proxyIp
    intro entry
    exact iff_of_eq (congrArg (entry ∈ ·) bypass)
  · intro machine tracks
    rw [Set.empty_union, Set.empty_union, ← Set.image_union, ← Set.image_union,
      ← Set.image_union] at tracks
    exact tracks.mono Set.subset_union_left (Set.Subset.refl _)

theorem tracks_apply {cfg : ValidConfig}
    (proxyIp : routes.proxyIp = cfg.proxySocketAddr.ip)
    (bypass : routes.bypass = cfg.bypassRoutes) :
    Ends (Tracks routes ∅ ∅) WindowsRoutes.apply (fun _ => InService cfg)
      (fun _ => True) := by
  have search : Ends (Tracks routes ∅ ∅) defaultGateway
      (fun _ => Tracks routes ∅ ∅) (fun _ => True) := by
    apply Ends.current
    intro machine tracks
    apply Ends.pure
    rintro same rfl
    exact tracks
  apply Ends.bind search
  intro gateway
  apply Ends.bind (tracks_updateSelf _)
  intro _
  apply tracks_self
  exact tracks_configure _ proxyIp bypass

/-! ## Reloads -/

section Reload

variable {old new : ValidConfig}

/-- The controller after a reload, its name servers aside. -/
def WindowsRoutes.following (self : WindowsRoutes) (new : ValidConfig) :
    WindowsRoutes :=
  { self with
    proxyIp := new.proxySocketAddr.ip
    bypass := new.bypassRoutes }

theorem tracks_moveProxyRoute {self : WindowsRoutes} {oldIp newIp : IpAddr}
    (asked : pinTargets self.gateway oldIp ⊆ known) :
    Ends (Tracks routes bound known) (self.moveProxyRoute oldIp newIp)
      (fun _ => Tracks { routes with proxyIp := newIp }
        (bound \ Resource.route '' pinTargets self.gateway oldIp ∪
          Resource.route '' pinTargets self.gateway newIp)
        (known ∪ pinTargets self.gateway newIp))
      (fun _ => True) := by
  unfold pinTargets WindowsRoutes.moveProxyRoute at *
  cases found : self.gateway with
  | some gateway =>
      rw [found, gatewayTargets_some] at asked
      simp only [gatewayTargets_some, Set.image_singleton,
        Set.union_singleton]
      apply Ends.bind (tracks_deleteRoute (asked rfl))
      intro _
      apply Ends.bind ((tracks_addRoute _).mono (fun _ tracks => tracks)
        (fun _ _ tracks => tracks) fun _ _ => trivial)
      intro _
      exact tracks_updateSelf _
  | none =>
      simp only [gatewayTargets_none, Set.image_empty, Set.union_empty,
        Set.sdiff_empty]
      exact tracks_updateSelf _

/-- What is left of the pinned route, and what is new. -/
theorem tracks_reloadProxyRoute
    (proxyIp : routes.proxyIp = old.proxySocketAddr.ip)
    (asked : pinTargets routes.gateway routes.proxyIp ⊆ known) :
    Ends (Tracks routes bound known)
      (routes.reloadProxyRoute (ReloadPlan.compute old new))
      (fun _ => Tracks { routes with proxyIp := new.proxySocketAddr.ip }
        ({resource | resource ∈ bound ∧
            (resource ∈ Resource.route '' pinTargets routes.gateway
              routes.proxyIp → routes.proxyIp = new.proxySocketAddr.ip)} ∪
          Resource.route '' pinTargets routes.gateway new.proxySocketAddr.ip)
        (known ∪ pinTargets routes.gateway new.proxySocketAddr.ip))
      (fun _ => True) := by
  unfold WindowsRoutes.reloadProxyRoute
  by_cases same : old.proxySocketAddr.ip = new.proxySocketAddr.ip
  · have none : (ReloadPlan.compute old new).proxyRouteChange = none :=
      if_neg (not_not.mpr same)
    rw [none]
    have sameIp := proxyIp.trans same
    apply Ends.pure
    intro machine tracks
    have unchanged : { routes with proxyIp := new.proxySocketAddr.ip } =
        routes := by
      rw [← sameIp]
    rw [unchanged, ← sameIp]
    apply tracks.mono
    · intro resource member
      exact Or.inl ⟨member, fun _ => rfl⟩
    · exact Set.union_subset (Set.Subset.refl _) asked
  · rw [ReloadPlan.proxyRouteChange_of_ne same, ← proxyIp]
    apply (tracks_moveProxyRoute asked).mono (fun _ tracks => tracks) _
      (fun _ stopped => stopped)
    intro _ machine tracks
    apply tracks.mono _ (Set.Subset.refl _)
    rintro resource (⟨member, notPin⟩ | isNew)
    · exact Or.inl ⟨member, fun isPin => absurd isPin notPin⟩
    · exact Or.inr isNew

theorem mem_bypassTargets {gateway : Option IpAddr} {entries : CidrList}
    {target : RouteTarget} : target ∈ bypassTargets gateway entries ↔
      ∃ addr, gateway = some addr ∧
        ∃ entry ∈ entries, bypassTarget addr entry = target :=
  Iff.rfl

theorem bypassTargets_removed
    (bypass : ∀ entry, entry ∈ routes.bypass ↔ entry ∈ old.bypassRoutes) :
    bypassTargets routes.gateway (ReloadPlan.compute old new).bypassRemove ⊆
      routes.targets := by
  intro target member
  obtain ⟨addr, found, entry, removed, isTarget⟩ := mem_bypassTargets.mp member
  have before := (bypass entry).mpr (ReloadPlan.mem_bypassRemove.mp removed).1
  rw [WindowsRoutes.targets]
  exact Or.inl (Or.inl (Or.inr ⟨addr, found, entry, before, isTarget⟩))

/-- What a reload may leave behind is on record after it. -/
theorem recorded_of_reload {resource : Resource} {configured : Bool}
    (bypass : ∀ entry, entry ∈ routes.bypass ↔ entry ∈ old.bypassRoutes)
    (before : resource ∈
      withDns (Resource.route '' routes.targets) configured)
    (moved : resource ∈ Resource.route '' pinTargets routes.gateway
      routes.proxyIp → routes.proxyIp = new.proxySocketAddr.ip)
    (kept : resource ∉ Resource.route '' bypassTargets routes.gateway
      (ReloadPlan.compute old new).bypassRemove) :
    resource ∈ withDns (Resource.route '' (routes.following new).targets)
      configured := by
  rcases before with ⟨target, recorded, rfl⟩ | isDns
  · refine Or.inl ⟨target, ?_, rfl⟩
    rw [WindowsRoutes.targets] at recorded ⊢
    rcases recorded with ((isPin | isBypass) | isV4) | isV6
    · have same := moved ⟨target, isPin, rfl⟩
      rw [same] at isPin
      exact Or.inl (Or.inl (Or.inl isPin))
    · obtain ⟨addr, found, entry, member, isTarget⟩ :=
        mem_bypassTargets.mp isBypass
      have isOld := (bypass entry).mp member
      by_cases isNew : entry ∈ new.bypassRoutes
      · exact Or.inl (Or.inl (Or.inr ⟨addr, found, entry, isNew, isTarget⟩))
      · have removed := ReloadPlan.mem_bypassRemove.mpr ⟨isOld, isNew⟩
        exact absurd ⟨target, ⟨addr, found, entry, removed, isTarget⟩, rfl⟩
          kept
    · exact Or.inl (Or.inr isV4)
    · exact Or.inr isV6
  · exact Or.inr isDns

/-- What is on record after a reload was asked for. -/
theorem asked_of_following {target : RouteTarget}
    (bypass : ∀ entry, entry ∈ routes.bypass ↔ entry ∈ old.bypassRoutes)
    (recorded : target ∈ (routes.following new).targets) :
    target ∈ routes.targets ∪
      pinTargets routes.gateway new.proxySocketAddr.ip ∪
      bypassTargets routes.gateway
        (ReloadPlan.compute old new).bypassAdd := by
  rw [WindowsRoutes.targets] at recorded
  rcases recorded with ((isPin | isBypass) | isV4) | isV6
  · exact Or.inl (Or.inr isPin)
  · obtain ⟨addr, found, entry, isNew, isTarget⟩ :=
      mem_bypassTargets.mp isBypass
    by_cases isOld : entry ∈ old.bypassRoutes
    · have before := (bypass entry).mpr isOld
      rw [WindowsRoutes.targets]
      exact Or.inl (Or.inl (Or.inl (Or.inl (Or.inr
        ⟨addr, found, entry, before, isTarget⟩))))
    · have added := ReloadPlan.mem_bypassAdd.mpr ⟨isNew, isOld⟩
      exact Or.inr ⟨addr, found, entry, added, isTarget⟩
  · rw [WindowsRoutes.targets]
    exact Or.inl (Or.inl (Or.inl (Or.inr isV4)))
  · rw [WindowsRoutes.targets]
    exact Or.inl (Or.inl (Or.inr isV6))

theorem added_of_reload :
    bypassTargets routes.gateway (ReloadPlan.compute old new).bypassAdd ⊆
      (routes.following new).targets := by
  intro target member
  obtain ⟨addr, found, entry, added, isTarget⟩ := mem_bypassTargets.mp member
  have isNew := (ReloadPlan.mem_bypassAdd.mp added).1
  rw [WindowsRoutes.targets]
  exact Or.inl (Or.inl (Or.inr ⟨addr, found, entry, isNew, isTarget⟩))

theorem tracks_reload (new : ValidConfig) (applied : routes.applied = true)
    (proxyIp : routes.proxyIp = old.proxySocketAddr.ip)
    (bypass : ∀ entry, entry ∈ routes.bypass ↔ entry ∈ old.bypassRoutes) :
    Ends (Tracks routes
        (withDns (Resource.route '' routes.targets) routes.dns.configured)
        routes.targets)
      (WindowsRoutes.reload (ReloadPlan.compute old new))
      (fun _ => InService new) (fun _ => True) := by
  apply tracks_self
  rw [if_pos applied]
  have pinned : pinTargets routes.gateway routes.proxyIp ⊆ routes.targets := by
    intro target isPin
    exact Or.inl (Or.inl (Or.inl isPin))
  apply Ends.bind (tracks_reloadProxyRoute proxyIp pinned)
  intro _
  apply Ends.bind (tracks_deleteBypasses
    ((bypassTargets_removed bypass).trans Set.subset_union_left))
  intro _
  apply Ends.bind (tracks_addBypasses routes _)
  intro _
  apply Ends.bind (tracks_updateSelf _)
  intro _
  have dns : Ends (Tracks (routes.following new)
      (withDns (Resource.route '' (routes.following new).targets)
        (routes.following new).dns.configured)
      (routes.following new).targets)
      (WindowsRoutes.reloadDns (ReloadPlan.compute old new))
      (fun _ => DnsTracked (routes.following new)
        (Resource.route '' (routes.following new).targets)
        (routes.following new).targets) (fun _ => True) :=
    tracked_reloadDns _
  apply dns.mono _ _ (fun _ stopped => stopped)
  · intro machine tracks
    apply tracks.mono
    · rintro resource (⟨(⟨before, moved⟩ | isPin), kept⟩ | isAdded)
      · exact recorded_of_reload bypass before moved kept
      · obtain ⟨target, isPin, rfl⟩ := isPin
        exact Or.inl ⟨target, Or.inl (Or.inl (Or.inl isPin)), rfl⟩
      · obtain ⟨target, isAdded, rfl⟩ := isAdded
        exact Or.inl ⟨target, added_of_reload isAdded, rfl⟩
    · intro target recorded
      exact asked_of_following bypass recorded
  · intro _ machine tracked
    apply tracked.inService applied rfl
    intro entry
    exact Iff.rfl

theorem InService.reload {machine after : Machine}
    (inService : InService old machine)
    (reloaded : (WindowsRoutes.reload (ReloadPlan.compute old new)).exec
      machine = (.ok (), after)) : InService new after :=
  (tracks_reload new inService.applied inService.proxyIp inService.bypass).of_ok
    inService.tracks reloaded

/-- A plan without effect leaves a configuration with the same routes. -/
theorem InService.of_noop {machine : Machine}
    (inService : InService old machine)
    (noop : (ReloadPlan.compute old new).isNoop = true) :
    InService new machine := by
  obtain ⟨sameProxy, sameBypass, _⟩ := ReloadPlan.isNoop_compute noop
  have sameIp : old.proxySocketAddr.ip = new.proxySocketAddr.ip :=
    congrArg (fun proxy : ProxyConfig => proxy.addr.ip) sameProxy
  exact
    { inService with
      proxyIp := inService.proxyIp.trans sameIp
      bypass := fun entry => (inService.bypass entry).trans (sameBypass entry) }

end Reload

/-! ## Teardown -/

theorem tracks_unpinProxy {self : WindowsRoutes}
    (asked : pinTargets self.gateway self.proxyIp ⊆ known) :
    Ends (Tracks routes bound known) self.unpinProxy
      (fun _ => Tracks routes
        (bound \ Resource.route '' pinTargets self.gateway self.proxyIp)
        known) failed := by
  unfold pinTargets at asked ⊢
  unfold WindowsRoutes.unpinProxy
  cases found : self.gateway with
  | some gateway =>
      rw [found, gatewayTargets_some] at asked
      rw [gatewayTargets_some, Set.image_singleton]
      exact tracks_deleteRoute (asked rfl)
  | none =>
      rw [gatewayTargets_none, Set.image_empty, Set.sdiff_empty]
      exact Ends.pure fun _ tracks => tracks

/-- The four groups of deletions take back all that is on record. -/
theorem withDns_teardown (self : WindowsRoutes) (configured : Bool) :
    (((withDns (Resource.route '' self.targets) configured \
      Resource.route '' pinTargets self.gateway self.proxyIp) \
      Resource.route '' bypassTargets self.gateway self.bypass) \
      Resource.route '' targetsOf (splitTarget self.interface) v4Split) \
      Resource.route '' targetsOf (splitTarget self.interface)
        self.capturedV6 ⊆ withDns ∅ configured := by
  rintro resource ⟨⟨⟨⟨recorded | isDns, notPin⟩, notBypass⟩, notV4⟩, notV6⟩
  · obtain ⟨target, ((isPin | isBypass) | isV4) | isV6, rfl⟩ := recorded
    · exact absurd ⟨target, isPin, rfl⟩ notPin
    · exact absurd ⟨target, isBypass, rfl⟩ notBypass
    · exact absurd ⟨target, isV4, rfl⟩ notV4
    · exact absurd ⟨target, isV6, rfl⟩ notV6
  · exact Or.inr isDns

theorem withDns_empty : withDns ∅ false = ∅ := by
  ext resource
  simp [withDns]

theorem tracks_teardown (applied : routes.applied = true) :
    Ends (Tracks routes
        (withDns (Resource.route '' routes.targets) routes.dns.configured)
        routes.targets)
      WindowsRoutes.teardown
      (fun _ machine => ∃ routes known, Tracks routes ∅ known machine)
      (fun _ => False) := by
  apply tracks_self
  rw [if_pos applied]
  apply Ends.bind (tracks_updateSelf _)
  intro _
  apply Ends.bind
  · apply Ends.bind (tracks_unpinProxy fun target isPin =>
      Or.inl (Or.inl (Or.inl isPin)))
    intro _
    exact tracks_deleteBypasses fun target isBypass =>
      Or.inl (Or.inl (Or.inr isBypass))
  intro _
  apply Ends.bind (tracks_deleteSplits fun target isV4 => Or.inl (Or.inr isV4))
  intro _
  apply Ends.bind (tracks_deleteSplits fun target isV6 => Or.inr isV6)
  intro _
  have restored : Ends (Tracks { routes with applied := false }
      (withDns ∅ routes.dns.configured) routes.targets) NetshDns.restore
      (fun _ machine => ∃ after,
        Tracks after (withDns ∅ false) routes.targets machine)
      (fun _ => False) := tracks_restore
  rw [withDns_empty] at restored
  apply restored.mono _ _ (fun _ stopped => stopped)
  · intro machine tracks
    exact tracks.mono (withDns_teardown routes _) (Set.Subset.refl _)
  · rintro _ machine ⟨after, tracks⟩
    exact ⟨after, routes.targets, tracks⟩

/-! ## The process -/

theorem inService_reloadStep {tunnel next : Tunnel Machine}
    {loaded : Except LoadError ValidConfig}
    (inService : InService tunnel.currentCfg tunnel.controller)
    (stepped : tunnel.reloadStep loaded = some next) :
    InService next.currentCfg next.controller := by
  rcases Tunnel.reloadStep_cases stepped with
    rfl | ⟨cfg, noop, rfl⟩ | ⟨cfg, controller, reloaded, rfl⟩
  · exact inService
  · exact inService.of_noop noop
  · exact inService.reload reloaded

theorem inService_of_start {boot : Boot} {cfg : ValidConfig}
    {tunnel : Tunnel Machine} (started : boot.start cfg = .ok tunnel) :
    InService tunnel.currentCfg tunnel.controller := by
  have ends : Ends (Tracks (boot.machine cfg).routes ∅ ∅) WindowsRoutes.apply
      (fun _ => InService cfg) (fun _ => True) := tracks_apply rfl rfl
  have initial : Tracks (boot.machine cfg).routes ∅ ∅ (boot.machine cfg) :=
    ⟨rfl, Set.Subset.refl _, nofun, fun _ => Custody.earned_nil _⟩
  unfold Boot.start at started
  cases applied : WindowsRoutes.apply.exec (boot.machine cfg) with
  | mk outcome machine =>
      rw [applied] at started
      cases outcome with
      | error error => cases started
      | ok =>
          cases started
          exact ends.of_ok initial applied

/-- Whichever commands fail, teardown ends, and by then every request for a
route or a name server is followed by a command that takes it back, whatever
was reloaded in between.  No route is deleted before it was asked for. -/
theorem undone_by_teardown {boot : Boot} {cfg : ValidConfig}
    {tunnel last : Tunnel Machine}
    {loads : List (Except LoadError ValidConfig)}
    (started : boot.start cfg = .ok tunnel)
    (ran : run Tunnel.reloadStep tunnel loads = some last) :
    ∃ after, WindowsRoutes.teardown.exec last.controller = (.ok (), after) ∧
      (∀ earlier resource later,
        after.acts = earlier ++ .acquire resource :: later →
          .release resource ∈ later) ∧
      ∀ earlier target later,
        after.acts = earlier ++ .release (.route target) :: later →
          .acquire (.route target) ∈ earlier := by
  have always : Always Tunnel.reloadStep
      (fun tunnel => InService tunnel.currentCfg tunnel.controller)
      tunnel loads := by
    apply always_of_invariant
    · intro tunnel loaded next inService stepped
      exact inService_reloadStep inService stepped
    · exact inService_of_start started
  have inService := always.final ran
  have reached := tracks_teardown inService.applied _ inService.tracks
  cases ended : WindowsRoutes.teardown.exec last.controller with
  | mk outcome after =>
      rw [ended] at reached
      cases outcome with
      | error error => cases reached
      | ok =>
          obtain ⟨_, _, tracks⟩ := reached
          refine ⟨after, rfl, ?_, ?_⟩
          · intro earlier resource later whole
            apply Custody.release_mem_of_not_held
            rw [← whole]
            exact fun isHeld => tracks.held isHeld
          · intro earlier target later whole
            exact tracks.earned target earlier later whole

/-- A host whose third command is not run, which is a bypass route of the
start below. -/
def exampleBoot : Boot :=
  { faults := fun index => if index = 2 then some .notRun else none
    nextHop := some "192.168.1.1\r\n".toList
    interface := "cortado"
    captureIpv6 := true }

def bypassingConfig : ValidConfig :=
  ⟨{ proxyAddr := "198.51.100.30:1080"
     bypassCidrs := ["10.0.0.0/8", "192.0.2.0/24"] }, by decide⟩

/-- The proxy moves, one bypass entry goes and one comes, and the name server
changes its family. -/
def rebypassingConfig : ValidConfig :=
  ⟨{ proxyAddr := "198.51.100.31:1080"
     bypassCidrs := ["192.0.2.0/24", "2001:db8::/32"]
     dnsServer := "::1" }, by decide⟩

theorem undone_by_teardown_rebypassing :
    ∃ tunnel last, exampleBoot.start bypassingConfig = .ok tunnel ∧
      run Tunnel.reloadStep tunnel [.ok rebypassingConfig, .error .missing] =
        some last ∧
      ∃ after, WindowsRoutes.teardown.exec last.controller = (.ok (), after) ∧
        (∀ earlier resource later,
          after.acts = earlier ++ .acquire resource :: later →
            .release resource ∈ later) ∧
        ∀ earlier target later,
          after.acts = earlier ++ .release (.route target) :: later →
            .acquire (.route target) ∈ earlier := by
  have ran : ((exampleBoot.start bypassingConfig).toOption.bind fun
      tunnel => run Tunnel.reloadStep tunnel
        [.ok rebypassingConfig, .error .missing]).isSome = true := by
    decide +kernel
  obtain ⟨last, ran⟩ := Option.isSome_iff_exists.mp ran
  obtain ⟨tunnel, started, ran⟩ := Option.bind_eq_some_iff.mp ran
  have started := Outcome.eq_ok_of_toOption_eq_some started
  exact ⟨tunnel, last, started, ran, undone_by_teardown started ran⟩

end Cortado.Windows
