import Cortado.Lib.Gauge
import Cortado.Reload
import Cortado.Stats

/-!
# Accepting TCP connections

`run` accepts the connections of the network stack in a loop: it takes one,
waits for a permit, reads the shared proxy and then the shared routes, and
spawns a relay that holds the permit until it is over.  `apply_reload` stores
a new proxy and then new routes from a task of its own, at any time.
-/

namespace Cortado.Tcp

open Net Transition Ledger
open Stats (Counter Reply)

/-- A connection that the stack has accepted. -/
structure Flow where
  src : SocketAddr
  dst : SocketAddr
  deriving DecidableEq, Repr

/-- The settings of a relay.  The numbers are for the record: how many reloads
had stored their proxy when the connection was taken and when its proxy was
read, and how many had stored their routes when its routes were. -/
structure Settings where
  proxy : ProxyConfig
  routes : RouteTable
  takenAt : Nat
  proxyAt : Nat
  routesAt : Nat

/-- The arguments of `relay_tcp_connection`, and whether the permit was given
back. -/
structure Relay where
  flow : Flow
  settings : Settings
  released : Bool

/-- Where the loop is. -/
inductive Phase where
  | listening
  | acquiring (flow : Flow) (takenAt : Nat)
  | permitted (flow : Flow) (takenAt : Nat)
  | proxied (flow : Flow) (takenAt : Nat) (proxy : ProxyConfig) (proxyAt : Nat)
  /-- An abort drops the connection for which there is no permit yet. -/
  | ended (dropped : Option Flow)

namespace Phase

def inHand : Phase → List Flow
  | .listening => []
  | .acquiring flow _ => [flow]
  | .permitted flow _ => [flow]
  | .proxied flow _ _ _ => [flow]
  | .ended dropped => dropped.toList

/-- The permits that the loop holds itself. -/
def permits : Phase → Nat
  | .permitted _ _ => 1
  | .proxied _ _ _ _ => 1
  | _ => 0

end Phase

/-- The shared settings.  `storing` is a reload between its two stores.  The
configurations are for the record, the first one included, and so are the
numbers of reloads that have stored their proxy and their routes. -/
structure Board where
  shared : Shared
  storing : Option ValidConfig
  configs : List ValidConfig
  proxyStores : Nat
  routeStores : Nat

namespace Board

def new (cfg : ValidConfig) : Board :=
  { shared :=
      { proxy := ProxyConfig.fromConfig cfg
        routes := RouteTable.new cfg.bypassRoutes }
    storing := none
    configs := [cfg]
    proxyStores := 0
    routeStores := 0 }

def storeProxy (board : Board) (cfg : ValidConfig) : Option Board :=
  match board.storing with
  | none =>
      some
        { shared := { board.shared with proxy := ProxyConfig.fromConfig cfg }
          storing := some cfg
          configs := board.configs ++ [cfg]
          proxyStores := board.proxyStores + 1
          routeStores := board.routeStores }
  | some _ => none

def storeRoutes (board : Board) : Option Board :=
  board.storing.map fun cfg =>
    { board with
      shared := { board.shared with routes := RouteTable.new cfg.bypassRoutes }
      storing := none
      routeStores := board.routeStores + 1 }

/-- The routes are read after the proxy. -/
def readRoutes (board : Board) (takenAt : Nat) (proxy : ProxyConfig)
    (proxyAt : Nat) : Settings :=
  { proxy := proxy
    routes := board.shared.routes
    takenAt := takenAt
    proxyAt := proxyAt
    routesAt := board.routeStores }

/-- A configuration is the one after a number of reloads. -/
def StoredAt (board : Board) (version : Nat) (cfg : ValidConfig) : Prop :=
  board.configs[version]? = some cfg

/-- What a relay was given: a proxy that was current between the time its
connection was taken and the time it was started, and routes of that time, so
that they are at most one reload behind. -/
structure Current (board : Board) (settings : Settings) : Prop where
  proxy : ∃ cfg, board.StoredAt settings.proxyAt cfg ∧
    settings.proxy = ProxyConfig.fromConfig cfg
  routes : ∃ cfg, board.StoredAt settings.routesAt cfg ∧
    settings.routes = RouteTable.new cfg.bypassRoutes
  taken : settings.takenAt ≤ settings.proxyAt
  behind : settings.proxyAt ≤ settings.routesAt + 1

end Board

/-- The loop, its relays and the settings they share with the reloads.  The
arrivals are for the record. -/
structure Acceptor where
  queue : List Flow
  closed : Bool
  phase : Phase
  free : Nat
  board : Board
  tasks : System Counter Reply Relay
  arrived : List Flow

inductive Event where
  | arrive (flow : Flow)
  | close
  | take
  | finish
  | acquire
  | loadProxy
  | spawn
  | abort
  | advance (index : Nat)
  | resume (index : Nat) (reply : Reply)
  | release (index : Nat)
  | storeProxy (cfg : ValidConfig)
  | storeRoutes

/-- The code of a relay. -/
def Relay.entry (relay : Relay) : Stats.Script :=
  Stats.relayTcpConnection relay.settings.routes relay.flow.dst

namespace Acceptor

def start (cfg : ValidConfig) (maxTcpConnections : Nat) : Acceptor :=
  { queue := []
    closed := false
    phase := .listening
    free := maxTcpConnections
    board := .new cfg
    tasks := .new
    arrived := [] }

def relays (acceptor : Acceptor) : List Relay :=
  acceptor.tasks.tasks.map Task.tag

/-- The settings of the relays, in the order of their start. -/
def settings (acceptor : Acceptor) : List Settings :=
  acceptor.relays.map Relay.settings

/-- The relays that hold a permit. -/
def running (acceptor : Acceptor) : Nat :=
  acceptor.relays.countP fun relay => !relay.released

def arrive (acceptor : Acceptor) (flow : Flow) : Option Acceptor :=
  if acceptor.closed then none
  else
    some
      { acceptor with
        queue := acceptor.queue ++ [flow]
        arrived := acceptor.arrived ++ [flow] }

/-- `tcp_listener.next()` returns a connection. -/
def take (acceptor : Acceptor) : Option Acceptor :=
  match acceptor.phase, acceptor.queue with
  | .listening, flow :: rest =>
      some
        { acceptor with
          queue := rest
          phase := .acquiring flow acceptor.board.proxyStores }
  | _, _ => none

/-- `tcp_listener.next()` returns none. -/
def finish (acceptor : Acceptor) : Option Acceptor :=
  match acceptor.phase, acceptor.queue, acceptor.closed with
  | .listening, [], true => some { acceptor with phase := .ended none }
  | _, _, _ => none

/-- The semaphore is never closed, so that the loop waits for a permit. -/
def acquire (acceptor : Acceptor) : Option Acceptor :=
  match acceptor.phase, acceptor.free with
  | .acquiring flow takenAt, free + 1 =>
      some { acceptor with free := free, phase := .permitted flow takenAt }
  | _, _ => none

def loadProxy (acceptor : Acceptor) : Option Acceptor :=
  match acceptor.phase with
  | .permitted flow takenAt =>
      some
        { acceptor with
          phase := .proxied flow takenAt acceptor.board.shared.proxy
            acceptor.board.proxyStores }
  | _ => none

/-- The routes are read, and the relay starts. -/
def spawn (acceptor : Acceptor) : Option Acceptor :=
  match acceptor.phase with
  | .proxied flow takenAt proxy proxyAt =>
      some
        { acceptor with
          phase := .listening
          tasks := acceptor.tasks.spawn Relay.entry
            { flow := flow
              settings := acceptor.board.readRoutes takenAt proxy proxyAt
              released := false } }
  | _ => none

/-- The loop can be aborted where it awaits. -/
def abort (acceptor : Acceptor) : Option Acceptor :=
  match acceptor.phase with
  | .listening => some { acceptor with phase := .ended none }
  | .acquiring flow _ => some { acceptor with phase := .ended (some flow) }
  | _ => none

/-- The permit of a relay is dropped after its last step. -/
def release (acceptor : Acceptor) (index : Nat) : Option Acceptor :=
  acceptor.tasks.tasks[index]?.bind fun task =>
    if task.code.finished && !task.tag.released then
      some
        { acceptor with
          free := acceptor.free + 1
          tasks :=
            { acceptor.tasks with
              tasks := acceptor.tasks.tasks.set index
                { task with tag := { task.tag with released := true } } } }
    else none

def step (acceptor : Acceptor) : Event → Option Acceptor
  | .arrive flow => acceptor.arrive flow
  | .close => some { acceptor with closed := true }
  | .take => acceptor.take
  | .finish => acceptor.finish
  | .acquire => acceptor.acquire
  | .loadProxy => acceptor.loadProxy
  | .spawn => acceptor.spawn
  | .abort => acceptor.abort
  | .advance index =>
      (acceptor.tasks.advance index).map fun tasks =>
        { acceptor with tasks := tasks }
  | .resume index reply =>
      (acceptor.tasks.resume index reply).map fun tasks =>
        { acceptor with tasks := tasks }
  | .release index => acceptor.release index
  | .storeProxy cfg =>
      (acceptor.board.storeProxy cfg).map fun board =>
        { acceptor with board := board }
  | .storeRoutes =>
      acceptor.board.storeRoutes.map fun board =>
        { acceptor with board := board }

/-- Connections are relayed in the order of their arrival and none is lost;
permits are neither lost nor made, and the gauge stays below them; a relay
works with current settings, and never with older ones than a relay before
it. -/
structure Admits (limit : Nat) (acceptor : Acceptor) : Prop where
  inOrder : acceptor.relays.map Relay.flow ++ acceptor.phase.inHand ++
    acceptor.queue = acceptor.arrived
  permits : acceptor.free + acceptor.phase.permits + acceptor.running = limit
  gauge : acceptor.tasks.counters .tcpActive ≤ acceptor.running
  current : ∀ settings ∈ acceptor.settings, acceptor.board.Current settings
  monotone : acceptor.settings.Pairwise fun earlier later =>
    earlier.proxyAt ≤ later.proxyAt ∧ earlier.routesAt ≤ later.routesAt

/-! ## What a step does -/

/-- The ways in which a step changes the state. -/
inductive Stepped (acceptor : Acceptor) : Acceptor → Prop where
  | arrived (flow : Flow) :
      Stepped acceptor { acceptor with
        queue := acceptor.queue ++ [flow]
        arrived := acceptor.arrived ++ [flow] }
  | closed : Stepped acceptor { acceptor with closed := true }
  | taken {flow : Flow} {rest : List Flow}
      (listening : acceptor.phase = .listening)
      (queued : acceptor.queue = flow :: rest) :
      Stepped acceptor { acceptor with
        queue := rest
        phase := .acquiring flow acceptor.board.proxyStores }
  | ended {dropped : Option Flow}
      (hand : acceptor.phase.inHand = dropped.toList)
      (permits : acceptor.phase.permits = 0) :
      Stepped acceptor { acceptor with phase := .ended dropped }
  | acquired {flow : Flow} {takenAt free : Nat}
      (acquiring : acceptor.phase = .acquiring flow takenAt)
      (available : acceptor.free = free + 1) :
      Stepped acceptor { acceptor with
        free := free
        phase := .permitted flow takenAt }
  | loaded {flow : Flow} {takenAt : Nat}
      (permitted : acceptor.phase = .permitted flow takenAt) :
      Stepped acceptor { acceptor with
        phase := .proxied flow takenAt acceptor.board.shared.proxy
          acceptor.board.proxyStores }
  | spawned {flow : Flow} {takenAt proxyAt : Nat} {proxy : ProxyConfig}
      (proxied : acceptor.phase = .proxied flow takenAt proxy proxyAt) :
      Stepped acceptor { acceptor with
        phase := .listening
        tasks := acceptor.tasks.spawn Relay.entry
          { flow := flow
            settings := acceptor.board.readRoutes takenAt proxy proxyAt
            released := false } }
  | moved {tasks : System Counter Reply Relay}
      (moves : acceptor.tasks.Moves tasks)
      (gauged : Gauged .tcpActive acceptor.tasks →
        tasks.unfinished < 2 ^ 64 → Gauged .tcpActive tasks) :
      Stepped acceptor { acceptor with tasks := tasks }
  | released {index : Nat} {task : Task Counter Reply Relay}
      (found : acceptor.tasks.tasks[index]? = some task)
      (finished : task.code.finished = true)
      (held : task.tag.released = false) :
      Stepped acceptor { acceptor with
        free := acceptor.free + 1
        tasks :=
          { acceptor.tasks with
            tasks := acceptor.tasks.tasks.set index
              { task with tag := { task.tag with released := true } } } }
  | stored {board : Board}
      (stores : (∃ cfg, acceptor.board.storeProxy cfg = some board) ∨
        acceptor.board.storeRoutes = some board) :
      Stepped acceptor { acceptor with board := board }

variable {acceptor next : Acceptor}

theorem stepped {event : Event}
    (taken : acceptor.step event = some next) : Stepped acceptor next := by
  cases event with
  | arrive flow =>
      obtain ⟨_, taken⟩ := Option.ite_none_left_eq_some.mp taken
      cases taken
      exact .arrived flow
  | close =>
      cases taken
      exact .closed
  | take =>
      simp only [step, take] at taken
      split at taken
      · rename_i listening queued
        cases taken
        exact .taken listening queued
      · cases taken
  | finish =>
      simp only [step, finish] at taken
      split at taken
      · rename_i listening _ _
        cases taken
        exact .ended (by rw [listening]; rfl) (by rw [listening]; rfl)
      · cases taken
  | acquire =>
      simp only [step, acquire] at taken
      split at taken
      · rename_i acquiring available
        cases taken
        exact .acquired acquiring available
      · cases taken
  | loadProxy =>
      simp only [step, loadProxy] at taken
      split at taken
      · rename_i permitted
        cases taken
        exact .loaded permitted
      · cases taken
  | spawn =>
      simp only [step, spawn] at taken
      split at taken
      · rename_i proxied
        cases taken
        exact .spawned proxied
      · cases taken
  | abort =>
      simp only [step, abort] at taken
      split at taken
      · rename_i listening
        cases taken
        exact .ended (by rw [listening]; rfl) (by rw [listening]; rfl)
      · rename_i acquiring
        cases taken
        exact .ended (by rw [acquiring]; rfl) (by rw [acquiring]; rfl)
      · cases taken
  | advance index =>
      obtain ⟨tasks, advanced, rfl⟩ := Option.map_eq_some_iff.mp taken
      exact .moved (System.moves_of_advance advanced)
        fun gauged => gauged.advance advanced
  | resume index reply =>
      obtain ⟨tasks, resumed, rfl⟩ := Option.map_eq_some_iff.mp taken
      exact .moved (System.moves_of_resume resumed)
        fun gauged _ => gauged.resume resumed
  | release index =>
      obtain ⟨task, found, taken⟩ := Option.bind_eq_some_iff.mp taken
      obtain ⟨ready, taken⟩ := Option.ite_none_right_eq_some.mp taken
      cases taken
      simp only [Bool.and_eq_true, Bool.not_eq_true'] at ready
      exact .released found ready.1 ready.2
  | storeProxy cfg =>
      obtain ⟨board, stores, rfl⟩ := Option.map_eq_some_iff.mp taken
      exact .stored (.inl ⟨cfg, stores⟩)
  | storeRoutes =>
      obtain ⟨board, stores, rfl⟩ := Option.map_eq_some_iff.mp taken
      exact .stored (.inr stores)

/-! ## Permits and order -/

theorem relayCopy_guards (dst : SocketAddr) (reply : Reply) :
    (Stats.relayCopy dst (Stats.dec .tcpActive .done) reply).Guards
      Counter.tcpActive 1 := by
  cases reply with
  | copied tx rx =>
      cases ip : dst.ip with
      | v4 addr =>
          simp [Stats.relayCopy, Stats.recordTraffic, ip, Stats.inc, Stats.add,
            Stats.dec, Code.Guards]
      | v6 addr =>
          simp [Stats.relayCopy, Stats.recordTraffic, ip, Stats.inc, Stats.add,
            Stats.dec, Code.Guards]
  | copyFailed =>
      simp [Stats.relayCopy, Stats.inc, Stats.dec, Code.Guards]
  | _ => exact ⟨zero_le_one, le_refl 1⟩

theorem relayConnect_guards (dst : SocketAddr) (reply : Reply) :
    (Stats.relayConnect dst (Stats.dec .tcpActive .done) reply).Guards
      Counter.tcpActive 1 := by
  cases reply with
  | connected => exact ⟨⟨zero_le_one, le_refl 1⟩, relayCopy_guards dst⟩
  | connectFailed error =>
      by_cases handshake : Stats.isHandshakeFailure error = true
      · simp [Stats.relayConnect, handshake, Stats.inc, Stats.dec,
          Code.Guards]
      · simp [Stats.relayConnect, handshake, Stats.inc, Stats.dec,
          Code.Guards]
  | _ => exact ⟨zero_le_one, le_refl 1⟩

/-- A relay holds the gauge from its start to its end. -/
theorem entry_guards (relay : Relay) :
    relay.entry.Guards Counter.tcpActive 0 := by
  have connects := relayConnect_guards relay.flow.dst
  unfold Relay.entry Stats.relayTcpConnection
  cases relay.settings.routes.decide relay.flow.dst.ip with
  | direct =>
      simpa [Stats.withGaugeGuard, Stats.inc, Code.Guards] using connects
  | proxy =>
      simpa [Stats.withGaugeGuard, Stats.inc, Code.Guards] using connects

/-- The part of the invariant about the loop and its permits. -/
structure Counted (limit : Nat) (acceptor : Acceptor) : Prop where
  inOrder : acceptor.relays.map Relay.flow ++ acceptor.phase.inHand ++
    acceptor.queue = acceptor.arrived
  permits : acceptor.free + acceptor.phase.permits + acceptor.running = limit
  released : ∀ task ∈ acceptor.tasks.tasks,
    task.tag.released = true → task.code.finished = true
  gauged : Gauged .tcpActive acceptor.tasks

theorem counted_start (cfg : ValidConfig) (limit : Nat) :
    Counted limit (start cfg limit) where
  inOrder := rfl
  permits := rfl
  released := by
    intro task member
    cases member
  gauged := Gauged.new _

/-- A relay that is not over holds its permit. -/
theorem unfinished_le {tasks : System Counter Reply Relay}
    (released : ∀ task ∈ tasks.tasks,
      task.tag.released = true → task.code.finished = true) :
    tasks.unfinished ≤
      (tasks.tasks.map Task.tag).countP fun relay => !relay.released := by
  unfold System.unfinished
  rw [List.countP_map]
  apply List.countP_mono_left
  intro task member unfinished
  cases isReleased : task.tag.released with
  | false => simp [isReleased]
  | true =>
      rw [released task member isReleased] at unfinished
      cases unfinished

theorem running_of_relays (same : next.relays = acceptor.relays) :
    next.running = acceptor.running := by
  unfold running
  rw [same]

theorem Counted.moved {limit : Nat} (counted : Counted limit acceptor)
    (fits : limit < 2 ^ 64) {tasks : System Counter Reply Relay}
    (moves : acceptor.tasks.Moves tasks)
    (gauged : Gauged .tcpActive acceptor.tasks →
      tasks.unfinished < 2 ^ 64 → Gauged .tcpActive tasks) :
    Counted limit { acceptor with tasks := tasks } := by
  have sameRelays : relays { acceptor with tasks := tasks } =
      acceptor.relays := moves.tags
  have sameRunning := running_of_relays sameRelays
  have released : ∀ task ∈ tasks.tasks,
      task.tag.released = true → task.code.finished = true := by
    obtain ⟨index, old, moved, found, isNext, sameTag, unfinished⟩ := moves
    intro task member isReleased
    rw [isNext] at member
    rcases List.mem_or_eq_of_mem_set member with kept | rfl
    · exact counted.released task kept isReleased
    · rw [sameTag] at isReleased
      have finished :=
        counted.released old (List.mem_of_getElem? found) isReleased
      rw [finished] at unfinished
      cases unfinished
  have few := unfinished_le released
  rw [moves.tags] at few
  have permits := counted.permits
  have few : tasks.unfinished ≤ acceptor.running := few
  refine ⟨?_, ?_, released, gauged counted.gauged (by omega)⟩
  · rw [sameRelays]
    exact counted.inOrder
  · rw [sameRunning]
    exact permits

theorem Counted.spawned {limit : Nat} (counted : Counted limit acceptor)
    {flow : Flow} {takenAt proxyAt : Nat} {proxy : ProxyConfig}
    (proxied : acceptor.phase = .proxied flow takenAt proxy proxyAt)
    {relay : Relay} (isFlow : relay.flow = flow)
    (fresh : relay.released = false) :
    Counted limit { acceptor with
      phase := .listening
      tasks := acceptor.tasks.spawn Relay.entry relay } := by
  have more : relays { acceptor with
      phase := .listening
      tasks := acceptor.tasks.spawn Relay.entry relay } =
        acceptor.relays ++ [relay] := List.map_append
  refine ⟨?_, ?_, ?_, counted.gauged.spawn (entry_guards relay)⟩
  · rw [more, List.map_append, List.map_singleton, isFlow,
      ← counted.inOrder, proxied]
    exact congrArg (· ++ acceptor.queue) (List.append_nil _)
  · have permits := counted.permits
    rw [proxied] at permits
    change acceptor.free + 1 + acceptor.running = limit at permits
    unfold running
    rw [more, List.countP_append, List.countP_singleton, fresh]
    change acceptor.free + 0 + (acceptor.running + 1) = limit
    omega
  · intro task member isReleased
    rcases List.mem_append.mp member with old | isNew
    · exact counted.released task old isReleased
    · rw [List.mem_singleton.mp isNew, fresh] at isReleased
      cases isReleased

theorem Counted.release {limit : Nat} (counted : Counted limit acceptor)
    {index : Nat} {task : Task Counter Reply Relay}
    (found : acceptor.tasks.tasks[index]? = some task)
    (finished : task.code.finished = true)
    (held : task.tag.released = false) :
    Counted limit { acceptor with
      free := acceptor.free + 1
      tasks :=
        { acceptor.tasks with
          tasks := acceptor.tasks.tasks.set index
            { task with tag := { task.tag with released := true } } } } := by
  have here : acceptor.relays[index]? = some task.tag := by
    rw [relays, List.getElem?_map, found]
    rfl
  obtain ⟨inside, isHere⟩ := List.getElem?_eq_some_iff.mp here
  have guards := counted.gauged.guards task (List.mem_of_getElem? found)
  refine ⟨?_, ?_, ?_, counted.gauged.move found rfl guards⟩
  · have sameFlows : ((acceptor.tasks.tasks.set index
        { task with tag := { task.tag with released := true } }).map
          Task.tag).map Relay.flow = acceptor.relays.map Relay.flow := by
      rw [List.map_set]
      exact map_set_of_eq here rfl
    have inOrder := counted.inOrder
    rw [← sameFlows] at inOrder
    exact inOrder
  · have counts : ((acceptor.tasks.tasks.set index
        { task with tag := { task.tag with released := true } }).map
          Task.tag).countP (fun relay => !relay.released) + 1 =
            acceptor.running := by
      rw [List.map_set]
      change (acceptor.relays.set index _).countP _ + 1 = _
      rw [List.countP_set inside, isHere, held]
      have positive : 0 < acceptor.running :=
        List.countP_pos_iff.mpr ⟨task.tag, List.mem_of_getElem? here,
          by rw [held]; rfl⟩
      change acceptor.running - 1 + 0 + 1 = acceptor.running
      omega
    have permits := counted.permits
    rw [← counts] at permits
    change acceptor.free + 1 + acceptor.phase.permits +
      ((acceptor.tasks.tasks.set index _).map Task.tag).countP _ = limit
    omega
  · intro other member isReleased
    rcases List.mem_or_eq_of_mem_set member with old | rfl
    · exact counted.released other old isReleased
    · exact finished

theorem Counted.step {limit : Nat} (counted : Counted limit acceptor)
    (fits : limit < 2 ^ 64) (stepped : Stepped acceptor next) :
    Counted limit next := by
  obtain ⟨inOrder, permits, released, gauged⟩ := counted
  cases stepped with
  | arrived flow =>
      refine ⟨?_, permits, released, gauged⟩
      rw [← inOrder]
      exact (List.append_assoc _ _ _).symm
  | closed => exact ⟨inOrder, permits, released, gauged⟩
  | taken listening queued =>
      rw [listening] at inOrder permits
      rw [queued] at inOrder
      refine ⟨?_, permits, released, gauged⟩
      rw [← inOrder]
      simp [Phase.inHand, relays]
  | ended hand none =>
      rw [hand] at inOrder
      rw [none] at permits
      exact ⟨inOrder, permits, released, gauged⟩
  | acquired acquiring available =>
      rw [acquiring] at inOrder permits
      rw [available] at permits
      exact ⟨inOrder, permits, released, gauged⟩
  | loaded permitted =>
      rw [permitted] at inOrder permits
      exact ⟨inOrder, permits, released, gauged⟩
  | spawned proxied =>
      exact Counted.spawned ⟨inOrder, permits, released, gauged⟩ proxied rfl
        rfl
  | moved moves kept =>
      exact Counted.moved ⟨inOrder, permits, released, gauged⟩ fits moves kept
  | released found finished held =>
      exact Counted.release ⟨inOrder, permits, released, gauged⟩ found finished
        held
  | stored stores => exact ⟨inOrder, permits, released, gauged⟩

end Acceptor

/-! ## Settings -/

namespace Board

variable {board later : Board}

/-- The shared settings are the last ones stored, and the routes follow the
proxy. -/
structure Stored (board : Board) : Prop where
  proxy : ∃ cfg, board.StoredAt board.proxyStores cfg ∧
    board.shared.proxy = ProxyConfig.fromConfig cfg
  routes : ∃ cfg, board.StoredAt board.routeStores cfg ∧
    board.shared.routes = RouteTable.new cfg.bypassRoutes
  stores : board.configs.length = board.proxyStores + 1
  idle : board.storing = none → board.routeStores = board.proxyStores
  pending : ∀ cfg, board.storing = some cfg →
    board.proxyStores = board.routeStores + 1 ∧
      board.StoredAt board.proxyStores cfg

theorem stored_new (cfg : ValidConfig) : (new cfg).Stored where
  proxy := ⟨cfg, rfl, rfl⟩
  routes := ⟨cfg, rfl, rfl⟩
  stores := rfl
  idle := fun _ => rfl
  pending := nofun

theorem Stored.behind (stored : board.Stored) :
    board.proxyStores ≤ board.routeStores + 1 := by
  cases storing : board.storing with
  | none => exact Nat.le_succ_of_le (stored.idle storing).ge
  | some cfg => exact (stored.pending cfg storing).1.le

/-- Stores only add configurations and only raise the versions. -/
structure Extends (board later : Board) : Prop where
  configs : ∃ more, later.configs = board.configs ++ more
  proxy : board.proxyStores ≤ later.proxyStores
  routes : board.routeStores ≤ later.routeStores

theorem StoredAt.extend {version : Nat} {cfg : ValidConfig}
    (stored : board.StoredAt version cfg)
    (extended : board.Extends later) : later.StoredAt version cfg := by
  obtain ⟨more, isLater⟩ := extended.configs
  obtain ⟨inside, _⟩ := List.getElem?_eq_some_iff.mp stored
  unfold StoredAt
  rw [isLater, List.getElem?_append_left inside]
  exact stored

/-- Later configurations do not change what a relay was given. -/
theorem Current.extend {settings : Settings} (current : board.Current settings)
    (extended : board.Extends later) : later.Current settings := by
  obtain ⟨⟨cfg, proxyStored, isProxy⟩, ⟨table, routesStored, isRoutes⟩,
    taken, behind⟩ := current
  exact ⟨⟨cfg, proxyStored.extend extended, isProxy⟩,
    ⟨table, routesStored.extend extended, isRoutes⟩, taken, behind⟩

theorem Stored.storeProxy (stored : board.Stored) {cfg : ValidConfig}
    (stores : board.storeProxy cfg = some later) :
    later.Stored ∧ board.Extends later := by
  unfold Board.storeProxy at stores
  split at stores
  · rename_i idle
    cases stores
    have extended : board.Extends
        { shared := { board.shared with proxy := ProxyConfig.fromConfig cfg }
          storing := some cfg
          configs := board.configs ++ [cfg]
          proxyStores := board.proxyStores + 1
          routeStores := board.routeStores } :=
      ⟨⟨[cfg], rfl⟩, Nat.le_succ _, Nat.le_refl _⟩
    have last : (board.configs ++ [cfg])[board.proxyStores + 1]? =
        some cfg := by
      rw [← stored.stores]
      exact List.getElem?_concat_length
    obtain ⟨table, routesStored, isRoutes⟩ := stored.routes
    refine ⟨⟨⟨cfg, last, rfl⟩,
      ⟨table, routesStored.extend extended, isRoutes⟩, ?_, nofun, ?_⟩,
      extended⟩
    · rw [List.length_append, stored.stores]
      rfl
    · intro other isOther
      cases isOther
      exact ⟨congrArg (· + 1) (stored.idle idle).symm, last⟩
  · cases stores

theorem Stored.storeRoutes (stored : board.Stored)
    (stores : board.storeRoutes = some later) :
    later.Stored ∧ board.Extends later := by
  obtain ⟨cfg, pending, rfl⟩ := Option.map_eq_some_iff.mp stores
  obtain ⟨ahead, proxyStored⟩ := stored.pending cfg pending
  have routesStored := proxyStored
  rw [ahead] at routesStored
  constructor
  · exact ⟨stored.proxy, ⟨cfg, routesStored, rfl⟩, stored.stores,
      fun _ => ahead.symm, nofun⟩
  · exact ⟨⟨[], (List.append_nil _).symm⟩, Nat.le_refl _, Nat.le_succ _⟩

end Board

/-- What the loop has read for the connection in hand. -/
def Phase.Held (board : Board) (settings : List Settings) : Phase → Prop
  | .acquiring _ takenAt => takenAt ≤ board.proxyStores
  | .permitted _ takenAt => takenAt ≤ board.proxyStores
  | .proxied _ takenAt proxy proxyAt =>
      takenAt ≤ proxyAt ∧ proxyAt ≤ board.proxyStores ∧
        (∃ cfg, board.StoredAt proxyAt cfg ∧
          proxy = ProxyConfig.fromConfig cfg) ∧
        ∀ earlier ∈ settings, earlier.proxyAt ≤ proxyAt
  | _ => True

theorem Phase.Held.extend {board later : Board} {settings : List Settings}
    {phase : Phase} (held : phase.Held board settings)
    (extended : board.Extends later) : phase.Held later settings := by
  cases phase with
  | acquiring flow takenAt => exact Nat.le_trans held extended.proxy
  | permitted flow takenAt => exact Nat.le_trans held extended.proxy
  | proxied flow takenAt proxy proxyAt =>
      obtain ⟨taken, past, ⟨cfg, stored, isProxy⟩, before⟩ := held
      exact ⟨taken, Nat.le_trans past extended.proxy,
        ⟨cfg, stored.extend extended, isProxy⟩, before⟩
  | _ => trivial

namespace Acceptor

variable {acceptor next : Acceptor}

/-- The part of the invariant about the settings. -/
structure Versioned (acceptor : Acceptor) : Prop where
  stored : acceptor.board.Stored
  held : acceptor.phase.Held acceptor.board acceptor.settings
  current : ∀ settings ∈ acceptor.settings, acceptor.board.Current settings
  past : ∀ settings ∈ acceptor.settings,
    settings.proxyAt ≤ acceptor.board.proxyStores ∧
      settings.routesAt ≤ acceptor.board.routeStores
  monotone : acceptor.settings.Pairwise fun earlier later =>
    earlier.proxyAt ≤ later.proxyAt ∧ earlier.routesAt ≤ later.routesAt

theorem versioned_start (cfg : ValidConfig) (limit : Nat) :
    (start cfg limit).Versioned where
  stored := Board.stored_new cfg
  held := trivial
  current := nofun
  past := nofun
  monotone := .nil

/-- Steps of the relays do not change their settings. -/
theorem Versioned.retasked (versioned : acceptor.Versioned) {free : Nat}
    {tasks : System Counter Reply Relay}
    (same : (tasks.tasks.map Task.tag).map Relay.settings =
      acceptor.settings) :
    Versioned { acceptor with free := free, tasks := tasks } := by
  obtain ⟨stored, held, current, past, monotone⟩ := versioned
  rw [← same] at held current past monotone
  exact ⟨stored, held, current, past, monotone⟩

theorem Versioned.spawned (versioned : acceptor.Versioned)
    {flow : Flow} {takenAt proxyAt : Nat} {proxy : ProxyConfig}
    (proxied : acceptor.phase = .proxied flow takenAt proxy proxyAt) :
    Versioned { acceptor with
      phase := .listening
      tasks := acceptor.tasks.spawn Relay.entry
        { flow := flow
          settings := acceptor.board.readRoutes takenAt proxy proxyAt
          released := false } } := by
  obtain ⟨stored, held, current, past, monotone⟩ := versioned
  rw [proxied] at held
  obtain ⟨taken, bound, isProxy, before⟩ := held
  have behind := Nat.le_trans bound stored.behind
  have more : settings { acceptor with
      phase := .listening
      tasks := acceptor.tasks.spawn Relay.entry
        { flow := flow
          settings := acceptor.board.readRoutes takenAt proxy proxyAt
          released := false } } = acceptor.settings ++
            [acceptor.board.readRoutes takenAt proxy proxyAt] := by
    simp [settings, relays, System.spawn]
  refine ⟨stored, trivial, ?_, ?_, ?_⟩
  · intro settings member
    rw [more] at member
    rcases List.mem_append.mp member with old | isNew
    · exact current settings old
    · cases List.mem_singleton.mp isNew
      exact ⟨isProxy, stored.routes, taken, behind⟩
  · intro settings member
    rw [more] at member
    rcases List.mem_append.mp member with old | isNew
    · exact past settings old
    · cases List.mem_singleton.mp isNew
      exact ⟨bound, Nat.le_refl _⟩
  · rw [more, List.pairwise_append]
    refine ⟨monotone, List.pairwise_singleton _ _, ?_⟩
    intro earlier old later isNew
    cases List.mem_singleton.mp isNew
    exact ⟨before earlier old, (past earlier old).2⟩

theorem Versioned.extended (versioned : acceptor.Versioned) {board : Board}
    (stored : board.Stored) (extended : acceptor.board.Extends board) :
    Versioned { acceptor with board := board } where
  stored := stored
  held := versioned.held.extend extended
  current := by
    intro settings member
    exact (versioned.current settings member).extend extended
  past := by
    intro settings member
    obtain ⟨proxy, routes⟩ := versioned.past settings member
    exact ⟨Nat.le_trans proxy extended.proxy,
      Nat.le_trans routes extended.routes⟩
  monotone := versioned.monotone

theorem Versioned.step (versioned : acceptor.Versioned)
    (stepped : Stepped acceptor next) : next.Versioned := by
  cases stepped with
  | moved moves kept =>
      exact versioned.retasked (congrArg (List.map Relay.settings) moves.tags)
  | released found finished notYet =>
      apply versioned.retasked
      rw [settings, relays, List.map_map, List.map_map]
      exact map_set_of_eq found rfl
  | spawned proxied => exact versioned.spawned proxied
  | stored stores =>
      rcases stores with ⟨cfg, stores⟩ | stores
      · obtain ⟨stored, extended⟩ := versioned.stored.storeProxy stores
        exact versioned.extended stored extended
      · obtain ⟨stored, extended⟩ := versioned.stored.storeRoutes stores
        exact versioned.extended stored extended
  | acquired acquiring available =>
      obtain ⟨stored, held, current, past, monotone⟩ := versioned
      rw [acquiring] at held
      exact ⟨stored, held, current, past, monotone⟩
  | loaded permitted =>
      obtain ⟨stored, held, current, past, monotone⟩ := versioned
      rw [permitted] at held
      exact ⟨stored, ⟨held, Nat.le_refl _, stored.proxy,
        fun settings member => (past settings member).1⟩, current, past,
        monotone⟩
  | taken listening queued =>
      obtain ⟨stored, held, current, past, monotone⟩ := versioned
      exact ⟨stored, Nat.le_refl _, current, past, monotone⟩
  | ended hand permits =>
      obtain ⟨stored, held, current, past, monotone⟩ := versioned
      exact ⟨stored, trivial, current, past, monotone⟩
  | arrived flow =>
      obtain ⟨stored, held, current, past, monotone⟩ := versioned
      exact ⟨stored, held, current, past, monotone⟩
  | closed =>
      obtain ⟨stored, held, current, past, monotone⟩ := versioned
      exact ⟨stored, held, current, past, monotone⟩

/-- In every run, whatever the relays do and however often the settings are
stored in between, connections are admitted in order, within the permits and
with current settings. -/
theorem always_admits (cfg : ValidConfig) {limit : Nat}
    (fits : limit < 2 ^ 64) (events : List Event) :
    Always step (Admits limit) (start cfg limit) events := by
  have sound : Always step
      (fun acceptor => Counted limit acceptor ∧ acceptor.Versioned)
      (start cfg limit) events := by
    apply always_of_invariant
    · intro acceptor event next before taken
      exact ⟨before.1.step fits (stepped taken),
        before.2.step (stepped taken)⟩
    · exact ⟨counted_start cfg limit, versioned_start cfg limit⟩
  apply sound.mono
  intro acceptor holds
  have few := holds.1.gauged.le_unfinished
  have unfinished := unfinished_le holds.1.released
  exact ⟨holds.1.inOrder, holds.1.permits, Nat.le_trans few unfinished,
    holds.2.current, holds.2.monotone⟩

def exampleConfig : ValidConfig :=
  ⟨{ proxyAddr := "198.51.100.20:1080" }, by decide⟩

def reloadedConfig : ValidConfig :=
  ⟨{ proxyAddr := "198.51.100.21:1080" }, by decide⟩

/-- A reload between the permit and the two reads of the second connection,
which then has the new proxy with the old routes.  The first relay ends. -/
def reloadedRun : List Event :=
  let flow port :=
    { src := .v4 (Ipv4Addr.ofOctets 10 0 0 1) port
      dst := .v4 (Ipv4Addr.ofOctets 192 0 2 1) 443 }
  [.arrive (flow 5001), .arrive (flow 5002), .take, .acquire, .loadProxy,
    .spawn, .take, .acquire, .storeProxy reloadedConfig, .loadProxy, .spawn,
    .storeRoutes, .advance 0, .advance 0, .advance 0, .advance 1, .advance 1,
    .resume 0 (.connectFailed "refused"), .advance 0, .advance 0, .advance 0,
    .advance 0, .release 0]

theorem always_admits_reloaded :
    Always step (Admits 2) (start exampleConfig 2) reloadedRun ∧
      ∃ final, run step (start exampleConfig 2) reloadedRun = some final ∧
        final.settings.map (fun settings =>
          (settings.takenAt, settings.proxyAt, settings.routesAt)) =
            [(0, 0, 0), (0, 1, 0)] ∧
        final.tasks.counters .tcpActive = 1 := by
  constructor
  · exact always_admits exampleConfig (by decide) reloadedRun
  · have completes : (run step (start exampleConfig 2)
        reloadedRun).isSome := by
      decide +kernel
    refine ⟨_, (Option.some_get completes).symm, ?_, ?_⟩ <;>
      decide +revert +kernel

end Acceptor

end Cortado.Tcp
