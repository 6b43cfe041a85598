import Mathlib.Data.List.Infix
import Mathlib.Tactic.MkIffOfInductiveProp
import Cortado.Lib.Ledger
import Cortado.Lib.Transition
import Cortado.Net.RouteTable
import Cortado.Udp.Relay

/-!
# The counters of the relays

Each counter is a static atomic that any task may add to.  Three kinds of task
update the counters of connections, routes and traffic: a relay for every TCP
connection, the loop of `run_udp` and the writer of its replies.  A step of the
model is one atomic update or the end of one await, so that every interleaving
of the tasks is a run.
-/

namespace Cortado.Stats

open Net Udp Ledger Transition

/-- The counters that these tasks update. -/
inductive Counter where
  | tcpOpened
  | tcpClosed
  | tcpErrors
  | tcpActive
  | udpPackets
  | udpErrors
  | bytesTx
  | bytesRx
  | bytesV4
  | bytesV6
  | dnsFailures
  | routeDirect
  | routeProxy
  | connFailures
  | socksHandshakeFailures
  deriving DecidableEq, Repr

/-- What the branch of a datagram finds: a permit of the DNS semaphore, a live
session of the source, a full table, and room in the session's channel. -/
structure Admission where
  permit : Bool
  live : Bool
  full : Bool
  sent : Bool

/-- What the awaits of the tasks return.  An error of the connection is given
by its text. -/
inductive Reply where
  | connected
  | connectFailed (error : String)
  | copied (tx rx : Nat)
  | copyFailed
  | sessionDone
  | datagram (msg : UdpMsg) (admission : Admission)
  | tunnelClosed
  | writerJoined
  | reply (msg : UdpMsg)
  | repliesClosed
  | sent
  | sendFailed

abbrev Script := Code Counter Reply

def inc (counter : Counter) (next : Script) : Script :=
  .update counter 1 next

/-- An argument above 64 bits leaves the counter as its wrapped value does. -/
def add (counter : Counter) (value : Nat) (next : Script) : Script :=
  .update counter value next

def dec (counter : Counter) (next : Script) : Script :=
  .update counter (-1) next

def recordTraffic (addr : IpAddr) (bytes : Nat) (next : Script) : Script :=
  match addr with
  | .v4 _ => add .bytesV4 bytes next
  | .v6 _ => add .bytesV6 bytes next

/-- `body` with a guard that is created before it and dropped at its end. -/
def withGaugeGuard (gauge : Counter) (body : Script → Script) : Script :=
  inc gauge (body (dec gauge .done))

/-- Lower case as far as the words below can tell: apart from the capital
letters, only the Kelvin sign has an ASCII letter as its lower case. -/
def toLowercase (char : Char) : Char :=
  if char = '\u212a' then 'k' else char.toLower

def isHandshakeFailure (error : String) : Bool :=
  let text := error.toList.map toLowercase
  "socks".toList <:+: text || "authentication".toList <:+: text ||
    "handshake".toList <:+: text

/-- The relay after its connection, up to the drop of its guard. -/
def relayCopy (dst : SocketAddr) (dropped : Script) : Reply → Script
  | .copied tx rx =>
      inc .tcpClosed <|
      add .bytesTx tx <|
      add .bytesRx rx <|
      recordTraffic dst.ip (tx + rx) dropped
  | .copyFailed => inc .tcpClosed <| inc .tcpErrors dropped
  | _ => .never

def relayConnect (dst : SocketAddr) (dropped : Script) : Reply → Script
  | .connected => .await (relayCopy dst dropped)
  | .connectFailed error =>
      inc .tcpClosed <|
      inc .tcpErrors <|
      inc .connFailures <|
      if isHandshakeFailure error then inc .socksHandshakeFailures dropped
      else dropped
  | _ => .never

def relayTcpConnection (routes : RouteTable) (dst : SocketAddr) : Script :=
  inc .tcpOpened <| withGaugeGuard .tcpActive fun dropped =>
    let connect := .await (relayConnect dst dropped)
    match routes.decide dst.ip with
    | .direct => inc .routeDirect connect
    | .proxy => inc .routeProxy connect

/-- The branch of a datagram after its traffic is recorded. -/
def dispatch (opts : UdpOptions) (dst : SocketAddr) (admission : Admission) :
    Script :=
  if opts.diverts dst then
    if admission.permit then .again
    else inc .udpErrors <| inc .dnsFailures .again
  else if !admission.live && admission.full then inc .udpErrors .again
  else if admission.sent then .again
  else inc .udpErrors .again

/-- One round of the loop of `run_udp`. -/
def ingestion (opts : UdpOptions) : Reply → Script
  | .sessionDone => .again
  | .datagram (payload, _src, dst) admission =>
      inc .udpPackets <|
      add .bytesTx payload.length <|
      recordTraffic dst.ip payload.length <|
      dispatch opts dst admission
  | .tunnelClosed =>
      .await fun
        | .writerJoined => .done
        | _ => .never
  | _ => .never

/-- One round of the writer: its message, then the end of the send. -/
def replyWriter : Reply → Script
  | .reply (payload, remote, _client) =>
      .await fun
        | .sent =>
            add .bytesRx payload.length <|
            recordTraffic remote.ip payload.length .again
        | .sendFailed => .done
        | _ => .never
  | .repliesClosed => .done
  | _ => .never

inductive Kind where
  | relay (routes : RouteTable) (dst : SocketAddr)
  | ingestion (opts : UdpOptions)
  | replyWriter

def Kind.isRelay : Kind → Bool
  | .relay _ _ => true
  | _ => false

def Kind.entry : Kind → Script
  | .relay routes dst => relayTcpConnection routes dst
  | .ingestion opts => .await (Stats.ingestion opts)
  | .replyWriter => .await Stats.replyWriter

/-- The counters with the tasks that have started. -/
abbrev Tasks := System Counter Reply Kind

inductive Event where
  | relay (routes : RouteTable) (dst : SocketAddr)
  | advance (index : Nat)
  | resume (index : Nat) (reply : Reply)
  | restart (index : Nat)

namespace Tasks

def start (opts : UdpOptions) : Tasks :=
  ((System.new : Tasks).spawn Kind.entry .replyWriter).spawn Kind.entry
    (.ingestion opts)

def step (tasks : Tasks) : Event → Option Tasks
  | .relay routes dst => some (tasks.spawn Kind.entry (.relay routes dst))
  | .advance index => System.advance tasks index
  | .resume index reply => System.resume tasks index reply
  | .restart index => System.restart Kind.entry tasks index

/-- The step does not wrap a counter. -/
def NoWrap (tasks : Tasks) : Event → Prop
  | .advance index => tasks.fits index = true
  | _ => True

instance (tasks : Tasks) (event : Event) : Decidable (NoWrap tasks event) :=
  match event with
  | .relay _ _ => isTrue trivial
  | .advance index => inferInstanceAs (Decidable (tasks.fits index = true))
  | .resume _ _ => isTrue trivial
  | .restart _ => isTrue trivial

end Tasks

/-- What holds of the counters at every time. -/
@[mk_iff]
structure Ordered (counts : Counter → Int) : Prop where
  active : 0 ≤ counts .tcpActive
  handshakes : counts .socksHandshakeFailures ≤ counts .connFailures
  failures : counts .connFailures ≤ counts .tcpErrors
  errors : counts .tcpErrors ≤ counts .tcpClosed
  closed : counts .tcpClosed ≤ counts .tcpOpened

/-- What holds of the counters while every task is at rest. -/
@[mk_iff]
structure Balanced (counts : Counter → Int) : Prop where
  active : counts .tcpActive + counts .tcpClosed = counts .tcpOpened
  routed : counts .routeDirect + counts .routeProxy = counts .tcpOpened
  traffic : counts .bytesTx + counts .bytesRx =
    counts .bytesV4 + counts .bytesV6

def ordered : AddSubmonoid (Counter → Int) where
  carrier := Ordered
  zero_mem' := by
    constructor <;> exact le_refl 0
  add_mem' := by
    intro left right leftOrdered rightOrdered
    constructor
    · exact Int.add_nonneg leftOrdered.active rightOrdered.active
    · exact Int.add_le_add leftOrdered.handshakes rightOrdered.handshakes
    · exact Int.add_le_add leftOrdered.failures rightOrdered.failures
    · exact Int.add_le_add leftOrdered.errors rightOrdered.errors
    · exact Int.add_le_add leftOrdered.closed rightOrdered.closed

def balanced : AddSubmonoid (Counter → Int) where
  carrier := Balanced
  zero_mem' := by
    constructor <;> rfl
  add_mem' := by
    intro left right leftBalanced rightBalanced
    have active := congrArg₂ (· + ·) leftBalanced.active rightBalanced.active
    have routed := congrArg₂ (· + ·) leftBalanced.routed rightBalanced.routed
    have traffic :=
      congrArg₂ (· + ·) leftBalanced.traffic rightBalanced.traffic
    constructor <;> simp only [Pi.add_apply] <;> omega

/-- The gauge counts the relays that have started and not finished. -/
def holdsGauge (kind : Kind) (finished : Bool) : Bool :=
  kind.isRelay && !finished

/-- What a task has posted while it is at rest. -/
@[mk_iff]
structure Resting (kind : Kind) (finished : Bool) (posted : Counter → Int) :
    Prop where
  balanced : Balanced posted
  gauge : posted .tcpActive = if holdsGauge kind finished then 1 else 0

def law : Law Counter Kind where
  always := ordered
  resting := Resting
  looping := fun kind posted => kind.isRelay = false ∧ Resting kind false posted
  gauge := fun counter => counter = .tcpActive
  nonneg := by
    intro posted member counter gauge
    rw [gauge]
    exact Ordered.active member

theorem mem_ordered {posted : Counter → Int} :
    posted ∈ law.always ↔ Ordered posted :=
  Iff.rfl

/-- The next counter in the order. -/
def Counter.above : Counter → Option Counter
  | .tcpClosed => some .tcpOpened
  | .tcpErrors => some .tcpClosed
  | .connFailures => some .tcpErrors
  | .socksHandshakeFailures => some .connFailures
  | _ => none

/-- A counter may be raised once the one above it has been. -/
theorem Ordered.raise {posted : Counter → Int} (ordered : Ordered posted)
    (counter : Counter) {change : Int} (raised : 0 ≤ change)
    (room : ∀ upper ∈ counter.above,
      posted counter + change ≤ posted upper) :
    Ordered (posted + Pi.single counter change) := by
  obtain ⟨active, handshakes, failures, errors, closed⟩ := ordered
  cases counter <;>
    simp [ordered_iff, Counter.above] at room ⊢ <;> omega

/-- The drop of the guard ends a relay that has counted its end. -/
theorem drop_obeyed {routes : RouteTable} {dst : SocketAddr}
    {posted : Counter → Int} (ordered : Ordered posted)
    (active : posted .tcpActive = 1)
    (closed : posted .tcpClosed = posted .tcpOpened)
    (routed : posted .routeDirect + posted .routeProxy = posted .tcpOpened)
    (traffic : posted .bytesTx + posted .bytesRx =
      posted .bytesV4 + posted .bytesV6) :
    law.Obeyed (.relay routes dst) (dec .tcpActive .done) posted := by
  refine ⟨ordered, .inr rfl, ?_, ?_, ?_⟩
  · rw [ordered_iff] at ordered
    simpa [mem_ordered, ordered_iff, active] using ordered.2
  · simp [balanced_iff, active, closed, routed, traffic]
  · simp [active, holdsGauge]

theorem recordTraffic_obeyed {kind : Kind} {next : Script}
    {posted : Counter → Int} (ordered : Ordered posted) (addr : IpAddr)
    (bytes : Nat)
    (rest : ∀ family, family = .bytesV4 ∨ family = .bytesV6 →
      Ordered (posted + Pi.single family (bytes : Int)) →
      law.Obeyed kind next (posted + Pi.single family (bytes : Int))) :
    law.Obeyed kind (recordTraffic addr bytes next) posted := by
  have positive : 0 ≤ (bytes : Int) := Int.natCast_nonneg bytes
  cases addr with
  | v4 addr =>
      have recorded := ordered.raise .bytesV4 positive nofun
      exact ⟨ordered, .inl positive, rest _ (.inl rfl) recorded⟩
  | v6 addr =>
      have recorded := ordered.raise .bytesV6 positive nofun
      exact ⟨ordered, .inl positive, rest _ (.inr rfl) recorded⟩

/-- While its guard is alive, a relay has an end left to count. -/
theorem Ordered.close {posted : Counter → Int} (ordered : Ordered posted)
    (balanced : Balanced posted) (active : posted .tcpActive = 1) :
    Ordered (posted + Pi.single .tcpClosed 1) := by
  apply ordered.raise _ zero_le_one
  rintro upper ⟨⟩
  have opened := balanced.active
  omega

/-- The end of a relay leaves room for an error. -/
theorem Ordered.fail {posted : Counter → Int} (ordered : Ordered posted)
    (closing : Ordered (posted + Pi.single .tcpClosed 1)) :
    Ordered (posted + Pi.single .tcpClosed 1 + Pi.single .tcpErrors 1) := by
  apply closing.raise _ zero_le_one
  rintro upper ⟨⟩
  simpa using ordered.errors

section Relay

variable {routes : RouteTable} {dst : SocketAddr} {posted : Counter → Int}

theorem relayCopy_obeyed (ordered : Ordered posted)
    (resting : Resting (.relay routes dst) false posted) (reply : Reply)
    (possible : relayCopy dst (dec .tcpActive .done) reply ≠ .never) :
    law.Obeyed (.relay routes dst) (relayCopy dst (dec .tcpActive .done) reply)
      posted := by
  have active : posted .tcpActive = 1 := resting.gauge
  have closing := ordered.close resting.balanced active
  obtain ⟨opened, routed, traffic⟩ := resting.balanced
  cases reply with
  | copied tx rx =>
      have sent := closing.raise .bytesTx (Int.natCast_nonneg tx) nofun
      have received := sent.raise .bytesRx (Int.natCast_nonneg rx) nofun
      refine ⟨ordered, .inl zero_le_one, closing, .inl (Int.natCast_nonneg tx),
        sent, .inl (Int.natCast_nonneg rx), ?_⟩
      apply recordTraffic_obeyed received
      rintro family (rfl | rfl) recorded
      · apply drop_obeyed recorded <;> simp <;> omega
      · apply drop_obeyed recorded <;> simp <;> omega
  | copyFailed =>
      have failing := ordered.fail closing
      refine ⟨ordered, .inl zero_le_one, closing, .inl zero_le_one, ?_⟩
      apply drop_obeyed failing <;> simp <;> omega
  | _ => exact absurd rfl possible

theorem relayConnect_obeyed (ordered : Ordered posted)
    (resting : Resting (.relay routes dst) false posted) (reply : Reply)
    (possible : relayConnect dst (dec .tcpActive .done) reply ≠ .never) :
    law.Obeyed (.relay routes dst)
      (relayConnect dst (dec .tcpActive .done) reply) posted := by
  cases reply with
  | connected => exact ⟨ordered, resting, relayCopy_obeyed ordered resting⟩
  | connectFailed error =>
      have active : posted .tcpActive = 1 := resting.gauge
      have closing := ordered.close resting.balanced active
      have failing := ordered.fail closing
      have refusing := failing.raise .connFailures zero_le_one (by
        rintro upper ⟨⟩
        simpa using ordered.failures)
      have misleading := refusing.raise .socksHandshakeFailures zero_le_one (by
        rintro upper ⟨⟩
        simpa using ordered.handshakes)
      obtain ⟨opened, routed, traffic⟩ := resting.balanced
      refine ⟨ordered, .inl zero_le_one, closing, .inl zero_le_one, failing,
        .inl zero_le_one, ?_⟩
      split
      · refine ⟨refusing, .inl zero_le_one, ?_⟩
        apply drop_obeyed misleading <;> simp <;> omega
      · apply drop_obeyed refusing <;> simp <;> omega
  | _ => exact absurd rfl possible

theorem relayTcpConnection_obeyed (routes : RouteTable) (dst : SocketAddr) :
    law.Obeyed (.relay routes dst) (relayTcpConnection routes dst) 0 := by
  have idle : Ordered 0 := law.always.zero_mem
  have opened := idle.raise .tcpOpened zero_le_one nofun
  have active := opened.raise .tcpActive zero_le_one nofun
  have routed : ∀ route, route = .routeDirect ∨ route = .routeProxy →
      law.Obeyed (.relay routes dst)
        (inc route (.await (relayConnect dst (dec .tcpActive .done))))
        (0 + Pi.single .tcpOpened 1 + Pi.single .tcpActive 1) := by
    intro route either
    have counted := active.raise route zero_le_one (by
      rcases either with rfl | rfl <;> exact nofun)
    have resting : Resting (.relay routes dst) false
        (0 + Pi.single .tcpOpened 1 + Pi.single .tcpActive 1 +
          Pi.single route 1) := by
      rcases either with rfl | rfl <;>
        simp [resting_iff, balanced_iff, holdsGauge, Kind.isRelay]
    exact ⟨active, .inl zero_le_one, counted, resting,
      relayConnect_obeyed counted resting⟩
  refine ⟨idle, .inl zero_le_one, opened, .inl zero_le_one, ?_⟩
  cases routes.decide dst.ip with
  | direct => exact routed _ (.inl rfl)
  | proxy => exact routed _ (.inr rfl)

end Relay

section Udp

variable {kind : Kind} {posted : Counter → Int}

/-- What a loop has posted between two rounds. -/
structure BetweenRounds (posted : Counter → Int) : Prop where
  ordered : Ordered posted
  balanced : Balanced posted
  idle : posted .tcpActive = 0

theorem BetweenRounds.resting (between : BetweenRounds posted)
    (loop : kind.isRelay = false) (finished : Bool) :
    Resting kind finished posted := by
  refine ⟨between.balanced, ?_⟩
  rw [between.idle, holdsGauge, loop]
  rfl

theorem BetweenRounds.again (between : BetweenRounds posted)
    (loop : kind.isRelay = false) :
    law.Obeyed kind (.again : Script) posted :=
  ⟨between.ordered, loop, between.resting loop false⟩

theorem BetweenRounds.done (between : BetweenRounds posted)
    (loop : kind.isRelay = false) :
    law.Obeyed kind (.done : Script) posted :=
  ⟨between.ordered, between.resting loop true⟩

/-- An update of a counter that no balance mentions. -/
theorem BetweenRounds.inc (between : BetweenRounds posted) {counter : Counter}
    (apart : counter ∈ [.udpPackets, .udpErrors, .dnsFailures])
    {next : Script}
    (rest : ∀ later, BetweenRounds later → law.Obeyed kind next later) :
    law.Obeyed kind (inc counter next) posted := by
  obtain ⟨ordered, ⟨opened, routed, traffic⟩, idle⟩ := between
  refine ⟨ordered, .inl zero_le_one, rest _ ?_⟩
  simp only [List.mem_cons, List.not_mem_nil, or_false] at apart
  constructor
  · apply ordered.raise _ zero_le_one
    rcases apart with rfl | rfl | rfl <;> exact nofun
  · rcases apart with rfl | rfl | rfl <;>
      simp [balanced_iff, opened, routed, traffic]
  · rcases apart with rfl | rfl | rfl <;> simp [idle]

/-- Traffic is counted once by its direction and once by its family. -/
theorem BetweenRounds.traffic (between : BetweenRounds posted)
    {direction : Counter} (directed : direction ∈ [.bytesTx, .bytesRx])
    (addr : IpAddr) (bytes : Nat) {next : Script}
    (rest : ∀ later, BetweenRounds later → law.Obeyed kind next later) :
    law.Obeyed kind (add direction bytes (recordTraffic addr bytes next))
      posted := by
  have positive : 0 ≤ (bytes : Int) := Int.natCast_nonneg bytes
  obtain ⟨ordered, ⟨opened, routed, traffic⟩, idle⟩ := between
  simp only [List.mem_cons, List.not_mem_nil, or_false] at directed
  have counted := ordered.raise direction positive (by
    rcases directed with rfl | rfl <;> exact nofun)
  refine ⟨ordered, .inl positive, ?_⟩
  apply recordTraffic_obeyed counted
  intro family either recorded
  refine rest _ ⟨recorded, ?_, ?_⟩
  · rcases directed with rfl | rfl <;> rcases either with rfl | rfl <;>
      simp [balanced_iff] <;> omega
  · rcases directed with rfl | rfl <;> rcases either with rfl | rfl <;>
      simp [idle]

theorem dispatch_obeyed (loop : kind.isRelay = false) (opts : UdpOptions)
    (dst : SocketAddr) (admission : Admission)
    (between : BetweenRounds posted) :
    law.Obeyed kind (dispatch opts dst admission) posted := by
  have erring : law.Obeyed kind (inc .udpErrors .again) posted :=
    between.inc (by simp) fun _ later => later.again loop
  unfold dispatch
  split
  · split
    · exact between.again loop
    · refine between.inc (by simp) ?_
      intro erred later
      exact later.inc (by simp) fun _ last => last.again loop
  · split
    · exact erring
    · split
      · exact between.again loop
      · exact erring

theorem ingestion_obeyed (opts : UdpOptions) (between : BetweenRounds posted) :
    law.Obeyed (.ingestion opts) (Kind.entry (.ingestion opts)) posted := by
  refine ⟨between.ordered, between.resting rfl false, ?_⟩
  intro reply possible
  cases reply with
  | sessionDone => exact between.again rfl
  | datagram msg admission =>
      apply between.inc (by simp)
      intro counted later
      apply later.traffic (by simp)
      intro recorded last
      exact dispatch_obeyed rfl opts _ admission last
  | tunnelClosed =>
      refine ⟨between.ordered, between.resting rfl false, ?_⟩
      intro joined finished
      cases joined with
      | writerJoined => exact between.done rfl
      | _ => exact absurd rfl finished
  | _ => exact absurd rfl possible

theorem replyWriter_obeyed (between : BetweenRounds posted) :
    law.Obeyed .replyWriter (Kind.entry .replyWriter) posted := by
  refine ⟨between.ordered, between.resting rfl false, ?_⟩
  intro received possible
  cases received with
  | reply msg =>
      refine ⟨between.ordered, between.resting rfl false, ?_⟩
      intro outcome finished
      cases outcome with
      | sent =>
          exact between.traffic (by simp) _ _ fun _ later => later.again rfl
      | sendFailed => exact between.done rfl
      | _ => exact absurd rfl finished
  | repliesClosed => exact between.done rfl
  | _ => exact absurd rfl possible

end Udp

theorem governs : law.Governs Kind.entry := by
  have idle : BetweenRounds 0 :=
    ⟨law.always.zero_mem, balanced.zero_mem, rfl⟩
  constructor
  · intro kind
    cases kind with
    | relay routes dst => exact relayTcpConnection_obeyed routes dst
    | ingestion opts => exact ingestion_obeyed opts idle
    | replyWriter => exact replyWriter_obeyed idle
  · rintro kind posted ordered ⟨loop, resting⟩
    have between : BetweenRounds posted := by
      refine ⟨ordered, resting.balanced, ?_⟩
      rw [resting.gauge, holdsGauge, loop]
      rfl
    cases kind with
    | relay routes dst => cases loop
    | ingestion opts => exact ingestion_obeyed opts between
    | replyWriter => exact replyWriter_obeyed between

namespace Tasks

/-- The number of relays that have started and not finished. -/
def unfinishedRelays (tasks : Tasks) : Nat :=
  tasks.tasks.countP fun task => task.tag.isRelay && !task.code.finished

/-- The counters add up: always in their order, and in their balances while
every task is suspended in an await or finished. -/
structure Consistent (tasks : Tasks) : Prop where
  handshakes :
    tasks.counters .socksHandshakeFailures ≤ tasks.counters .connFailures
  failures : tasks.counters .connFailures ≤ tasks.counters .tcpErrors
  errors : tasks.counters .tcpErrors ≤ tasks.counters .tcpClosed
  closed : tasks.counters .tcpClosed ≤ tasks.counters .tcpOpened
  active : tasks.Quiet → tasks.counters .tcpActive =
    tasks.counters .tcpOpened - tasks.counters .tcpClosed
  unfinished : tasks.Quiet →
    tasks.counters .tcpActive = tasks.unfinishedRelays
  routed : tasks.Quiet →
    tasks.counters .routeDirect + tasks.counters .routeProxy =
      tasks.counters .tcpOpened
  traffic : tasks.Quiet →
    tasks.counters .bytesTx + tasks.counters .bytesRx =
      tasks.counters .bytesV4 + tasks.counters .bytesV6

theorem sound_start (opts : UdpOptions) : Sound law (start opts) :=
  (Sound.new.spawn governs .replyWriter).spawn governs (.ingestion opts)

theorem sound_step (tasks : Tasks) (event : Event) (next : Tasks)
    (sound : Sound law tasks) (stepped : step tasks event = some next)
    (fits : NoWrap tasks event) : Sound law next := by
  cases event with
  | relay routes dst =>
      cases stepped
      exact sound.spawn governs (.relay routes dst)
  | advance index => exact sound.advance fits stepped
  | resume index reply => exact sound.resume stepped
  | restart index => exact sound.restart governs stepped

theorem balanced_of_quiet {tasks : Tasks} (sound : Sound law tasks)
    (quiet : tasks.Quiet) :
    Balanced fun counter => (tasks.counters counter : Int) := by
  have member : (fun counter => (tasks.counters counter : Int)) ∈ balanced :=
    sound.counters_mem_of_quiet quiet fun _ _ _ resting => resting.balanced
  exact member

theorem consistent_of_sound (tasks : Tasks) (sound : Sound law tasks) :
    Consistent tasks := by
  have ordered : Ordered fun counter => (tasks.counters counter : Int) :=
    sound.counters_mem
  constructor
  · exact Int.ofNat_le.mp ordered.handshakes
  · exact Int.ofNat_le.mp ordered.failures
  · exact Int.ofNat_le.mp ordered.errors
  · exact Int.ofNat_le.mp ordered.closed
  · intro quiet
    have active := (balanced_of_quiet sound quiet).active
    omega
  · intro quiet
    exact sound.counter_eq_countP quiet holdsGauge
      fun _ _ _ resting => resting.gauge
  · intro quiet
    exact Int.ofNat.inj (balanced_of_quiet sound quiet).routed
  · intro quiet
    exact Int.ofNat.inj (balanced_of_quiet sound quiet).traffic

/-- In every interleaving that wraps no counter, the counters add up. -/
theorem always_consistent (opts : UdpOptions) (events : List Event)
    (fits : EveryStep step NoWrap (start opts) events) :
    Always step Consistent (start opts) events := by
  have sound := EveryStep.always sound_step (sound_start opts) fits
  exact sound.mono consistent_of_sound

end Tasks

/-- One relay copies while another fails in its handshake, the loop takes a
datagram and the writer sends the reply. -/
def mixedRun : List Event :=
  let remote : SocketAddr := .v4 (Ipv4Addr.ofOctets 198 51 100 7) 443
  let client : SocketAddr := .v4 (Ipv4Addr.ofOctets 10 0 0 1) 5353
  let routes := RouteTable.new [(.v4 (Ipv4Addr.ofOctets 198 51 100 0), 24)]
  [ .relay routes remote, .relay routes client,
    .advance 2, .advance 3, .advance 3, .advance 2, .advance 3, .advance 2,
    .resume 3 (.connectFailed "SOCKS5 handshake timed out"),
    .resume 2 .connected,
    .advance 3, .advance 3,
    .resume 1 (.datagram ([1, 2, 3], client, remote)
      { permit := false, live := true, full := false, sent := false }),
    .advance 1, .advance 1, .advance 3, .advance 3, .advance 3,
    .resume 0 (.reply ([4, 5], remote, client)), .resume 0 .sent,
    .advance 0, .advance 1, .advance 1, .restart 1, .advance 0, .restart 0,
    .resume 2 (.copied 10 20),
    .advance 2, .advance 2, .advance 2, .advance 2, .advance 2 ]

theorem mixedRun_consistent :
    EveryStep Tasks.step Tasks.NoWrap
        (Tasks.start { maxSessions := 1, dnsOverTcp := true }) mixedRun ∧
      Always Tasks.step Tasks.Consistent
        (Tasks.start { maxSessions := 1, dnsOverTcp := true }) mixedRun := by
  have fits : EveryStep Tasks.step Tasks.NoWrap
      (Tasks.start { maxSessions := 1, dnsOverTcp := true }) mixedRun := by
    decide +kernel
  exact ⟨fits, Tasks.always_consistent _ _ fits⟩

example :
    (run Tasks.step (Tasks.start { maxSessions := 1, dnsOverTcp := true })
        mixedRun).map (fun tasks =>
      ([.tcpOpened, .tcpClosed, .tcpActive, .socksHandshakeFailures, .bytesTx,
        .bytesRx, .bytesV4, .bytesV6] : List Counter).map tasks.counters) =
      some [2, 2, 0, 1, 13, 22, 35, 0] := by
  decide +kernel

end Cortado.Stats
