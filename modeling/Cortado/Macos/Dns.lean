import Cortado.Lib.Text
import Cortado.Lib.Transition
import Cortado.Net.AddrText

/-!
# The name servers of the primary network service

The macOS configurator reads and writes the list of name servers through
`networksetup`.  Any command may fail.  The list shows the override or the
user's own servers, as long as the backup could be read and `restore`, which
gives the backup away before it tries, could write it.
-/

namespace Cortado.Macos

open Net Transition

/-- How a command can go wrong; one that runs still leaves its output. -/
inductive CommandFault where
  | notRun
  | exited (status : Int) (output : List Char)

inductive DnsError where
  | notRun
  | exited (status : Int)
  deriving DecidableEq, Repr

def DnsError.message : DnsError → String
  | .notRun => "failed to run networksetup -setdnsservers"
  | .exited status =>
      "networksetup -setdnsservers exited with exit status: " ++
        toString status

/-- The list of the service, and what becomes of the next commands. -/
structure ServiceDns where
  servers : List (List Char)
  faults : Nat → Option CommandFault

def ServiceDns.next (system : ServiceDns) : ServiceDns :=
  { system with faults := fun index => system.faults (index + 1) }

/-- How the message about an empty list begins. -/
def noServers : List Char :=
  "There aren't any".toList

/-- What `networksetup -getdnsservers` prints. -/
def printServers (service : List Char) (servers : List (List Char)) :
    List Char :=
  if servers = [] then
    noServers ++ (" DNS Servers set on ".toList ++ service ++ ".\n".toList)
  else Text.unlines servers

def parseServers (text : List Char) : List (List Char) :=
  if noServers <:+: text then []
  else ((Text.lines text).map Text.trim).filter (· ≠ [])

def getServers (service : List Char) (system : ServiceDns) :
    List (List Char) × ServiceDns :=
  match system.faults 0 with
  | none => (parseServers (printServers service system.servers), system.next)
  | some .notRun => ([], system.next)
  | some (.exited _ output) => (parseServers output, system.next)

/-- An empty list is passed as the word `Empty`. -/
def setServers (servers : List (List Char)) (system : ServiceDns) :
    Except DnsError Unit × ServiceDns :=
  match system.faults 0 with
  | none => (.ok (), { system.next with servers := servers })
  | some .notRun => (.error .notRun, system.next)
  | some (.exited status _) => (.error (.exited status), system.next)

/-- The configurator together with the list it works on. -/
structure NetworkSetupDns where
  service : List Char
  current : Option IpAddr
  original : Option (List (List Char))
  system : ServiceDns

namespace NetworkSetupDns

def discover (service : List Char) (system : ServiceDns) : NetworkSetupDns :=
  { service := service
    current := none
    original := none
    system := system }

def ensureBackup (self : NetworkSetupDns) : NetworkSetupDns :=
  match self.original with
  | some _ => self
  | none =>
      let (servers, system) := getServers self.service self.system
      { self with original := some servers, system := system }

def set (self : NetworkSetupDns) (servers : List (List Char)) :
    Except DnsError Unit × NetworkSetupDns :=
  let (outcome, system) := setServers servers self.system
  (outcome, { self with system := system })

/-- Override the list with one server. -/
def overrideWith (self : NetworkSetupDns) (dns : IpAddr) :
    Except DnsError Unit × NetworkSetupDns :=
  match self.ensureBackup.set [dns.display.toList] with
  | (.error error, self) => (.error error, self)
  | (.ok (), self) => (.ok (), { self with current := some dns })

def apply (self : NetworkSetupDns) (server : Option IpAddr) :
    Except DnsError Unit × NetworkSetupDns :=
  match server with
  | some dns => self.overrideWith dns
  | none => (.ok (), self)

def reload (self : NetworkSetupDns) (server : Option IpAddr) :
    Except DnsError Unit × NetworkSetupDns :=
  if server = self.current then (.ok (), self)
  else
    match server with
    | some dns => self.overrideWith dns
    | none =>
        match self.original with
        | none => (.ok (), { self with current := none })
        | some original =>
            match self.set original with
            | (.error error, self) => (.error error, self)
            | (.ok (), self) => (.ok (), { self with current := none })

/-- A failure is only logged. -/
def restore (self : NetworkSetupDns) : NetworkSetupDns :=
  match self.current with
  | none => self
  | some _ =>
      match self.original with
      | none => { self with current := none }
      | some original =>
          let self := { self with original := none }
          { (self.set original).2 with current := none }

inductive Call where
  | apply (server : Option IpAddr)
  | reload (server : Option IpAddr)
  | restore
  deriving DecidableEq, Repr

def step (self : NetworkSetupDns) : Call → Option NetworkSetupDns
  | .apply server => some (self.apply server).2
  | .reload server => some (self.reload server).2
  | .restore => some self.restore

/-- What the list should hold. -/
def shown (servers : List (List Char)) : Option IpAddr → List (List Char)
  | none => servers
  | some dns => [dns.display.toList]

/-- The call asks for a server that is not in force. -/
def Call.asks (call : Call) (current : Option IpAddr) : Bool :=
  match call with
  | .apply server => server.isSome
  | .reload server => server.isSome && server != current
  | .restore => false

/-- The next command works if the call reads the backup or restores it. -/
def Recoverable (self : NetworkSetupDns) (call : Call) : Prop :=
  (call.asks self.current = true → self.original = none →
    self.system.faults 0 = none) ∧
  (call = .restore → self.current ≠ none → self.system.faults 0 = none)

instance (self : NetworkSetupDns) (call : Call) :
    Decidable (self.Recoverable call) :=
  inferInstanceAs (Decidable (_ ∧ _))

/-! ## The backup -/

/-- Servers of any list that was read are read back. -/
theorem parseServers_printServers {service : List Char}
    {servers : List (List Char)}
    (areWords : ∀ server ∈ servers, Text.IsWord server) :
    parseServers (printServers service servers) = servers := by
  unfold printServers
  split
  · rename_i empty
    rw [empty, parseServers, if_pos]
    exact (List.prefix_append _ _).isInfix
  · have unmarked : ¬noServers <:+: Text.unlines servers := by
      intro marked
      -- The marker has a blank, the list has none.
      have blank : ' ' ∈ Text.unlines servers :=
        marked.subset (by decide)
      obtain ⟨server, member, inLine⟩ := List.mem_flatMap.mp blank
      rcases List.mem_append.mp inLine with inServer | isBreak
      · exact (areWords server member).not_mem rfl inServer
      · revert isBreak
        decide
    rw [parseServers, if_neg unmarked, Text.lines_unlines areWords]
    have trimmed : servers.map Text.trim = servers := by
      calc servers.map Text.trim
        _ = servers.map id := List.map_congr_left fun server member =>
            (areWords server member).trim_eq
        _ = servers := List.map_id servers
    rw [trimmed, List.filter_eq_self]
    intro server member
    simpa using (areWords server member).1

/-! ## What a call does -/

variable {self : NetworkSetupDns} {servers : List (List Char)}

/-- Writing the list fails and leaves it alone, or works. -/
theorem set_cases (self : NetworkSetupDns) (list : List (List Char)) :
    (∃ error, self.set list =
      (.error error, { self with system := self.system.next })) ∨
    self.set list = (.ok (), { self with
      system := { self.system.next with servers := list } }) := by
  unfold set setServers
  cases self.system.faults 0 with
  | none => exact Or.inr rfl
  | some fault =>
      cases fault with
      | notRun => exact Or.inl ⟨_, rfl⟩
      | exited status output => exact Or.inl ⟨_, rfl⟩

theorem set_works (works : self.system.faults 0 = none)
    (list : List (List Char)) : self.set list = (.ok (), { self with
      system := { self.system.next with servers := list } }) := by
  unfold set setServers
  rw [works]

/-- The backup is the user's list, and the list shows what it should. -/
structure Faithful (servers : List (List Char)) (dns : NetworkSetupDns) :
    Prop where
  kept : ∀ original, dns.original = some original → original = servers
  unused : dns.original = none → dns.current = none
  shows : dns.system.servers = shown servers dns.current

theorem faithful_discover (service : List Char) (system : ServiceDns) :
    Faithful system.servers (discover service system) where
  kept := by
    intro original stored
    cases stored
  unused _ := rfl
  shows := rfl

theorem Faithful.ensureBackup (faithful : Faithful servers self)
    (areWords : ∀ server ∈ servers, Text.IsWord server)
    (read : self.original = none → self.system.faults 0 = none) :
    self.ensureBackup.original = some servers ∧
      self.ensureBackup.current = self.current ∧
      self.ensureBackup.system.servers = self.system.servers := by
  unfold NetworkSetupDns.ensureBackup
  cases stored : self.original with
  | some original =>
      rw [faithful.kept original stored] at stored
      exact ⟨stored, rfl, rfl⟩
  | none =>
      have shows := faithful.shows
      rw [faithful.unused stored] at shows
      simp [getServers, read stored, shows, shown, ServiceDns.next,
        parseServers_printServers areWords]

theorem Faithful.overrideWith (faithful : Faithful servers self)
    (areWords : ∀ server ∈ servers, Text.IsWord server)
    (read : self.original = none → self.system.faults 0 = none)
    (dns : IpAddr) : Faithful servers (self.overrideWith dns).2 := by
  obtain ⟨original, current, same⟩ := faithful.ensureBackup areWords read
  unfold NetworkSetupDns.overrideWith
  rcases set_cases self.ensureBackup [dns.display.toList] with
    ⟨error, failed⟩ | written
  · rw [failed]
    refine ⟨?_, ?_, ?_⟩
    · intro stored isStored
      exact (Option.some.inj (original.symm.trans isStored)).symm
    · intro missing
      cases original.symm.trans missing
    · change self.ensureBackup.system.servers = shown servers _
      rw [same, faithful.shows, current]
  · rw [written]
    refine ⟨?_, ?_, rfl⟩
    · intro stored isStored
      exact (Option.some.inj (original.symm.trans isStored)).symm
    · intro missing
      cases original.symm.trans missing

theorem Faithful.reload_none (faithful : Faithful servers self) :
    Faithful servers (self.reload none).2 := by
  unfold NetworkSetupDns.reload
  split
  · exact faithful
  · rename_i active
    cases stored : self.original with
    | none => exact absurd (faithful.unused stored).symm active
    | some original =>
        have same := faithful.kept original stored
        dsimp only
        rcases set_cases self original with ⟨error, failed⟩ | written
        · rw [failed]
          exact ⟨faithful.kept, faithful.unused, faithful.shows⟩
        · rw [written]
          exact ⟨faithful.kept, fun _ => rfl, same⟩

theorem Faithful.restore (faithful : Faithful servers self)
    (works : self.current ≠ none → self.system.faults 0 = none) :
    Faithful servers self.restore := by
  unfold NetworkSetupDns.restore
  split
  · exact faithful
  · rename_i dns active
    cases stored : self.original with
    | none =>
        rw [faithful.unused stored] at active
        cases active
    | some original =>
        have same := faithful.kept original stored
        have works : { self with original := none }.system.faults 0 = none :=
          works (by simp [active])
        dsimp only
        rw [set_works works original]
        refine ⟨?_, fun _ => rfl, same⟩
        intro list missing
        cases missing

theorem Faithful.step {next : NetworkSetupDns} {call : Call}
    (faithful : Faithful servers self)
    (areWords : ∀ server ∈ servers, Text.IsWord server)
    (stepped : self.step call = some next)
    (recoverable : self.Recoverable call) : Faithful servers next := by
  obtain ⟨read, works⟩ := recoverable
  cases call with
  | apply server =>
      cases stepped
      cases server with
      | none => exact faithful
      | some dns => exact faithful.overrideWith areWords (read rfl) dns
  | reload server =>
      cases stepped
      cases server with
      | none => exact faithful.reload_none
      | some dns =>
          unfold NetworkSetupDns.reload
          split
          · exact faithful
          · rename_i different
            exact faithful.overrideWith areWords
              (read (by simp [Call.asks, different])) dns
  | restore =>
      cases stepped
      exact faithful.restore (works rfl)

/-- In every history of calls the list shows the override in force or the
user's own servers, whatever other commands fail. -/
theorem always_shown {service : List Char} {system : ServiceDns}
    {calls : List Call}
    (areWords : ∀ server ∈ system.servers, Text.IsWord server)
    (recoverable : EveryStep step Recoverable (discover service system)
      calls) :
    Always step (fun self => self.system.servers =
      shown system.servers self.current) (discover service system) calls := by
  have faithful : Always step (Faithful system.servers)
      (discover service system) calls := by
    apply EveryStep.always _ (faithful_discover service system) recoverable
    intro self call next faithful stepped recoverable
    exact faithful.step areWords stepped recoverable
  exact faithful.mono fun _ faithful => faithful.shows

/-! ## Without faults -/

/-- No command fails, and the list shows what it should. -/
structure Sound (servers : List (List Char)) (dns : NetworkSetupDns) :
    Prop where
  faithful : Faithful servers dns
  reliable : dns.system.faults = fun _ => none

theorem Sound.overrideWith (sound : Sound servers self)
    (areWords : ∀ server ∈ servers, Text.IsWord server) (dns : IpAddr) :
    Sound servers (self.overrideWith dns).2 where
  faithful := sound.faithful.overrideWith areWords
    (fun _ => by rw [sound.reliable]) dns
  reliable := by
    cases stored : self.original <;>
      simp [NetworkSetupDns.overrideWith, NetworkSetupDns.ensureBackup, set,
        setServers, getServers, ServiceDns.next, stored, sound.reliable]

theorem Sound.apply (sound : Sound servers self)
    (areWords : ∀ server ∈ servers, Text.IsWord server)
    (server : Option IpAddr) : Sound servers (self.apply server).2 := by
  cases server with
  | none => exact sound
  | some dns => exact sound.overrideWith areWords dns

theorem Sound.reload (sound : Sound servers self)
    (areWords : ∀ server ∈ servers, Text.IsWord server)
    (server : Option IpAddr) : Sound servers (self.reload server).2 := by
  cases server with
  | none =>
      refine ⟨sound.faithful.reload_none, ?_⟩
      unfold NetworkSetupDns.reload
      split
      · exact sound.reliable
      · cases stored : self.original <;>
          simp [set, setServers, ServiceDns.next, sound.reliable]
  | some dns =>
      unfold NetworkSetupDns.reload
      split
      · exact sound
      · exact sound.overrideWith areWords dns

/-- After `restore` the list is the user's. -/
theorem Sound.restore (sound : Sound servers self) :
    self.restore.system.servers = servers := by
  have faithful := sound.faithful.restore fun _ => by rw [sound.reliable]
  have shows := faithful.shows
  have off : self.restore.current = none := by
    unfold NetworkSetupDns.restore
    split
    · assumption
    · split <;> rfl
  rwa [off] at shows

end NetworkSetupDns

/-- A service with one server, where the third command fails. -/
def exampleService : ServiceDns :=
  { servers := ["9.9.9.9".toList]
    faults := fun index => if index = 2 then some (.exited 1 []) else none }

/-- The override is set, fails to change, and is taken back. -/
def exampleCalls : List NetworkSetupDns.Call :=
  [.apply (some (.v4 (Ipv4Addr.ofOctets 1 1 1 1))),
    .reload (some (.v4 (Ipv4Addr.ofOctets 8 8 8 8))), .restore]

theorem always_shown_example :
    EveryStep NetworkSetupDns.step NetworkSetupDns.Recoverable
        (.discover "Wi-Fi".toList exampleService) exampleCalls ∧
      Always NetworkSetupDns.step
        (fun self => self.system.servers =
          NetworkSetupDns.shown exampleService.servers self.current)
        (.discover "Wi-Fi".toList exampleService) exampleCalls := by
  have recoverable : EveryStep NetworkSetupDns.step
      NetworkSetupDns.Recoverable (.discover "Wi-Fi".toList exampleService)
      exampleCalls := by
    decide +kernel
  refine ⟨recoverable, NetworkSetupDns.always_shown ?_ recoverable⟩
  decide +kernel

end Cortado.Macos
