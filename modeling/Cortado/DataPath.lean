import Mathlib.Data.Finset.Card
import Cortado.Tcp.Acceptor
import Cortado.Tuning
import Cortado.Udp.SessionTable

/-!
# The descriptors of the data path

`Tuning` divides the limit on open files between TCP connections and UDP
sessions.  The accept loop and the UDP relay keep to their shares by permits
and by the size of the session table.  The model below runs both of them side
by side on the settings they share.
-/

namespace Cortado

open Net Transition
open Udp (UdpOptions SessionId SessionTask)

namespace Udp.Relay

/-- The session with this number has not dropped its receiver yet.  Its
sockets live no longer than that. -/
def listens (relay : Relay) (id : SessionId) : Bool :=
  (relay.tasks id).any fun task => !task.isClosed

/-- The sessions that may have sockets. -/
def listeners (relay : Relay) : Finset SessionId :=
  (Finset.range relay.spawned).filter fun id => relay.listens id

variable {opts : UdpOptions} {relay next : Relay}

theorem mem_listeners {id : SessionId} :
    id ∈ relay.listeners ↔ id < relay.spawned ∧
      ∃ task, relay.tasks id = some task ∧ task.isClosed = false := by
  rw [listeners, Finset.mem_filter, Finset.mem_range, listens,
    Option.any_eq_true]
  simp only [Bool.not_eq_true']

/-- While the loop runs, every listening session has an entry of its own. -/
theorem Tabled.listeners_le (tabled : relay.Tabled opts)
    (running : relay.running = true) :
    relay.listeners.card ≤ opts.maxSessions := by
  apply Nat.le_trans _ tabled.size
  have distinct : relay.sessions.keys.Nodup := relay.sessions.nodupKeys
  rw [← List.toFinset_card_of_nodup distinct]
  let source (id : SessionId) : SocketAddr :=
    ((relay.tasks id).map SessionTask.src).getD (.v4 0 0)
  have sources : ∀ {id task}, relay.tasks id = some task →
      source id = task.src := by
    intro id task present
    simp [source, present]
  apply Finset.card_le_card_of_injOn source
  · intro id member
    obtain ⟨_, task, present, listening⟩ := mem_listeners.mp member
    have found := tabled.listed running id task present listening
    rw [Finset.mem_coe, List.mem_toFinset, sources present]
    exact AList.lookup_isSome.mp (by rw [found]; rfl)
  · intro first firstMember second secondMember same
    obtain ⟨_, task, present, listening⟩ := mem_listeners.mp firstMember
    obtain ⟨_, other, otherPresent, otherListening⟩ :=
      mem_listeners.mp secondMember
    rw [sources present, sources otherPresent] at same
    exact tabled.unique first second task other present otherPresent
      listening otherListening same

theorem listeners_of_same (tasks : next.tasks = relay.tasks)
    (spawned : next.spawned = relay.spawned) :
    next.listeners = relay.listeners := by
  unfold listeners listens
  rw [tasks, spawned]

theorem TaskChanged.listeners {id : SessionId} {task later : SessionTask}
    (changed : TaskChanged relay next id task later)
    (present : relay.tasks id = some task) :
    next.listeners ⊆ relay.listeners := by
  intro other member
  obtain ⟨born, found, holds, listening⟩ := mem_listeners.mp member
  rw [changed.spawned] at born
  rw [changed.tasks] at holds
  rw [mem_listeners]
  rcases task_of_update holds with ⟨rfl, rfl⟩ | ⟨_, was⟩
  · exact ⟨born, task, present, changed.monotone listening⟩
  · exact ⟨born, found, was, listening⟩

/-- Sessions only start while the loop runs. -/
theorem Stepped.listeners {event : Event}
    (stepped : Stepped opts relay event next)
    (stopped : next.running = false) : next.listeners ⊆ relay.listeners := by
  cases stepped with
  | diverted | overloaded | refused | continued | lost | closed | resolved
  | failed | answered | unheard | wrote | gaveUp | stored =>
      exact (listeners_of_same rfl rfl).subset
  | opened waiting =>
      have running := running_of_selecting waiting
      rw [show relay.running = false from stopped] at running
      cases running
  | @queued _ _ _ id task outbound _ _ present listening =>
      refine TaskChanged.listeners
        (?_ : TaskChanged relay _ id task { task with outbound := outbound })
        present
      exact .of_listening rfl rfl rfl rfl rfl rfl listening listening
  | @processed dead _ done =>
      obtain ⟨tasks, spawned, _⟩ :=
        processDone_frame { relay with done := done } dead
      exact (listeners_of_same tasks spawned).subset
  | session present moved =>
      obtain ⟨later, changed⟩ := moved.taskChanged present
      exact changed.listeners present

/-- The table is sound, and the sessions that may have sockets are few. -/
structure Limited (opts : UdpOptions) (relay : Relay) : Prop where
  tabled : relay.Tabled opts
  few : relay.listeners.card ≤ opts.maxSessions

theorem Limited.step {event : Event} (limited : relay.Limited opts)
    (taken : relay.step opts event = some next) : next.Limited opts := by
  have tabled := tabled_step relay event next limited.tabled taken
  refine ⟨tabled, ?_⟩
  cases running : next.running with
  | true => exact tabled.listeners_le running
  | false =>
      have fewer := Finset.card_le_card ((stepped taken).listeners running)
      exact Nat.le_trans fewer limited.few

theorem limited_start (opts : UdpOptions) (proxy : ProxyConfig) :
    (start proxy).Limited opts where
  tabled := tabled_start opts proxy
  few := Nat.zero_le _

end Udp.Relay

/-- The accept loop and the UDP relay. -/
structure DataPath where
  acceptor : Tcp.Acceptor
  relay : Udp.Relay

namespace DataPath

inductive Event where
  | tcp (event : Tcp.Event)
  | udp (event : Udp.Event)

/-- The proxy of the UDP relay is the shared one. -/
def share (acceptor : Tcp.Acceptor) (relay : Udp.Relay) : DataPath :=
  { acceptor := acceptor
    relay := { relay with proxy := acceptor.board.shared.proxy } }

def start (cfg : ValidConfig) (tuning : Tuning) : DataPath :=
  { acceptor := .start cfg tuning.maxTcpConnections
    relay := .start (ProxyConfig.fromConfig cfg) }

def step (opts : UdpOptions) (path : DataPath) : Event → Option DataPath
  | .tcp event => (path.acceptor.step event).map (share · path.relay)
  | .udp event => (path.relay.step opts event).map (share path.acceptor ·)

/-- A TCP relay has one connection to the proxy, a UDP session a connection
and a socket. -/
def descriptors (path : DataPath) : Nat :=
  path.acceptor.running + 2 * path.relay.listeners.card

/-- The limits of the two parts. -/
structure Limited (tcp : Nat) (opts : UdpOptions) (path : DataPath) : Prop where
  counted : path.acceptor.Counted tcp
  relay : path.relay.Limited opts

variable {opts : UdpOptions} {path next : DataPath}

theorem Limited.step {tcp : Nat} {event : Event} (fits : tcp < 2 ^ 64)
    (limited : path.Limited tcp opts)
    (taken : path.step opts event = some next) : next.Limited tcp opts := by
  have shared : ∀ {relay : Udp.Relay} {proxy}, relay.Limited opts →
      Udp.Relay.Limited opts { relay with proxy := proxy } := by
    intro relay proxy before
    exact ⟨before.tabled.of_same rfl rfl rfl rfl rfl, before.few⟩
  cases event with
  | tcp event =>
      obtain ⟨acceptor, moved, rfl⟩ := Option.map_eq_some_iff.mp taken
      exact ⟨limited.counted.step fits (Tcp.Acceptor.stepped moved),
        shared limited.relay⟩
  | udp event =>
      obtain ⟨relay, moved, rfl⟩ := Option.map_eq_some_iff.mp taken
      exact ⟨limited.counted, shared (limited.relay.step moved)⟩

theorem limited_start (cfg : ValidConfig) (tuning : Tuning)
    (opts : UdpOptions) :
    (start cfg tuning).Limited tuning.maxTcpConnections opts where
  counted := Tcp.Acceptor.counted_start cfg tuning.maxTcpConnections
  relay := Udp.Relay.limited_start opts (ProxyConfig.fromConfig cfg)

/-- The descriptors leave the reserve alone.  As reckoned, the relays fit into
their share of the memory if that has room for the least number of
connections; the buffers they hold exceed it by a ninth at most. -/
structure Within (probe : SystemProbe) (tuning : Tuning) (path : DataPath) :
    Prop where
  files : path.descriptors + fdReserve ≤ probe.fds
  reckoned : 128 * tuning.perConn ≤ probe.memory / 4 →
    path.acceptor.running * tuning.perConn ≤ probe.memory / 4
  held : 128 * tuning.perConn ≤ probe.memory / 4 →
    9 * (path.acceptor.running * tuning.heldPerConn) ≤ 10 * (probe.memory / 4)

theorem Limited.within {probe : SystemProbe} {tuning : Tuning}
    (limited : path.Limited tuning.maxTcpConnections opts)
    (sessions : opts.maxSessions = tuning.maxUdpSessions)
    (derived : tuning.Derived probe) (enough : 320 ≤ probe.fds) :
    path.Within probe tuning := by
  have permits := limited.counted.permits
  have few := limited.relay.few
  have running : path.acceptor.running ≤ tuning.maxTcpConnections := by
    omega
  have reckoned (room : 128 * tuning.perConn ≤ probe.memory / 4) :
      path.acceptor.running * tuning.perConn ≤ probe.memory / 4 :=
    Nat.le_trans (Nat.mul_le_mul_right _ running) (derived.memory_budget room)
  refine ⟨?_, reckoned, ?_⟩
  · obtain ⟨shares, budget⟩ := derived.fd_budget enough
    rw [sessions] at few
    unfold descriptors fdReserve
    omega
  · intro room
    calc 9 * (path.acceptor.running * tuning.heldPerConn)
        = path.acceptor.running * (9 * tuning.heldPerConn) :=
          Nat.mul_left_comm _ _ _
      _ ≤ path.acceptor.running * (10 * tuning.perConn) :=
          Nat.mul_le_mul_left _ derived.nine_mul_held_le
      _ = 10 * (path.acceptor.running * tuning.perConn) :=
          Nat.mul_left_comm _ _ _
      _ ≤ 10 * (probe.memory / 4) := Nat.mul_le_mul_left _ (reckoned room)

/-- A connection is relayed and a session opened. -/
def twoFlows : List Event :=
  let client := .v4 (Ipv4Addr.ofOctets 10 0 0 1) 5001
  let remote := .v4 (Ipv4Addr.ofOctets 192 0 2 1) 443
  [.tcp (.arrive { src := client, dst := remote }), .tcp .take,
    .tcp .acquire, .tcp .loadProxy, .tcp .spawn,
    .udp (.datagram ([1, 2, 3], client, remote))]

/-- The tuning of a host with the usual limits. -/
def usualTuning : Tuning :=
  { mtu := 1500
    relayBufSize := 264000
    relayCopyBufSize := 32768
    stackBufSize := 4096
    udpIdleTimeout := 60
    maxTcpConnections := 480
    maxUdpSessions := 120
    captureIpv6 := false }

end DataPath

end Cortado
