import Cortado.Lib.Handover
import Cortado.Udp.SessionTable

/-!
# What the sessions carry

The datagrams of a source pass through the channels of its successive
sessions.  A session can lose what is queued when it ends, but its successor
starts after that, so what reaches the relays is in order and nothing is sent
twice.  In the other direction every reply stands for one datagram of the
relay.
-/

namespace Cortado.Udp

open Net Socks Transition

/-- A datagram as the relay sees it: the SOCKS5 header has no room for the
flow information and the scope of an IPv6 destination. -/
def onWire (datagram : Datagram) : Datagram :=
  (.new datagram.1.ip datagram.1.port, datagram.2)

/-- The datagram a session accepts from some bytes. -/
def decoded (bytes : List UInt8) : Option Datagram :=
  match decodeUdp bytes with
  | .ok (some datagram) => some datagram
  | _ => none

/-- The reply a session of `src` makes of what the relay sent. -/
def replyFor (src : SocketAddr) (bytes : List UInt8) : Option UdpMsg :=
  (decoded bytes).map fun (remote, data) => (data, remote, src)

/-- A message of the tunnel as a datagram of its source. -/
def bySource : UdpMsg → SocketAddr × Datagram
  | (payload, src, dst) => (src, dst, payload)

/-- What a session is asked to carry, by source. -/
def UdpOptions.carried (opts : UdpOptions) (msg : UdpMsg) :
    Option (SocketAddr × Datagram) :=
  if opts.diverts msg.2.2 then none else some (bySource msg)

namespace SessionTask

/-- The datagrams a task still has to send. -/
def pending (task : SessionTask) : List Datagram :=
  match task.phase with
  | .sending dst payload => (dst, payload) :: task.outbound.queue
  | _ => task.outbound.queue

/-- The reply a task still has to pass on. -/
def held (task : SessionTask) : List UdpMsg :=
  match task.phase with
  | .replying msg => [msg]
  | _ => []

end SessionTask

namespace Relay

/-- The datagrams received from a source and not diverted. -/
def receivedFrom (opts : UdpOptions) (relay : Relay) (src : SocketAddr) :
    List Datagram :=
  entriesOf src (relay.incoming.filterMap opts.carried)

/-- The datagram the loop is handing over, if it is from `src`. -/
def handing (relay : Relay) (src : SocketAddr) : List Datagram :=
  entriesOf src (relay.forwarding.toList.map bySource)

/-- What the sessions of a source sent to their relays. -/
def relayedFor (relay : Relay) (src : SocketAddr) : List (List UInt8) :=
  entriesOf src relay.relayed

def arrivedAt (relay : Relay) (id : SessionId) : List (List UInt8) :=
  entriesOf id relay.arrived

def repliedBy (relay : Relay) (id : SessionId) : List UdpMsg :=
  entriesOf id relay.replied

/-- Replies on the way: each session passes on, in order, at most one reply
for each datagram of its relay. -/
structure Replying (relay : Relay) : Prop where
  handover : ∀ id task, relay.tasks id = some task →
    Handover ((relay.arrivedAt id).filterMap (replyFor task.src)) task.held
      (relay.repliedBy id)
  unborn : ∀ id, relay.tasks id = none →
    relay.arrivedAt id = [] ∧ relay.repliedBy id = []

theorem replying_start (proxy : ProxyConfig) : (start proxy).Replying where
  handover := by
    intro id task present
    cases present
  unborn := by
    intro id _
    exact ⟨rfl, rfl⟩

theorem Replying.of_same {relay next : Relay} (replying : relay.Replying)
    (tasks : next.tasks = relay.tasks) (arrived : next.arrived = relay.arrived)
    (replied : next.replied = relay.replied) : next.Replying where
  handover := by
    rw [tasks]
    simp only [arrivedAt, repliedBy, arrived, replied]
    exact replying.handover
  unborn := by
    rw [tasks]
    simp only [arrivedAt, repliedBy, arrived, replied]
    exact replying.unborn

/-- Only what concerns the changed task has to be checked. -/
theorem Replying.of_task {relay next : Relay} {id : SessionId}
    {later : SessionTask} (replying : relay.Replying)
    (tasks : next.tasks = Function.update relay.tasks id (some later))
    (arrived : ∀ other, other ≠ id →
      next.arrivedAt other = relay.arrivedAt other)
    (replied : ∀ other, other ≠ id →
      next.repliedBy other = relay.repliedBy other)
    (handover : Handover ((next.arrivedAt id).filterMap (replyFor later.src))
      later.held (next.repliedBy id)) : next.Replying where
  handover := by
    intro other found present
    rw [tasks] at present
    rcases task_of_update present with ⟨rfl, rfl⟩ | ⟨different, was⟩
    · exact handover
    · rw [arrived other different, replied other different]
      exact replying.handover other found was
  unborn := by
    intro other absent
    rw [tasks, Function.update_apply] at absent
    split at absent
    · cases absent
    · rename_i different
      rw [arrived other different, replied other different]
      exact replying.unborn other absent

/-- A task that passes nothing on may give up the reply it holds. -/
theorem Replying.of_later {relay next : Relay} {id : SessionId}
    {task later : SessionTask} (replying : relay.Replying)
    (present : relay.tasks id = some task)
    (tasks : next.tasks = Function.update relay.tasks id (some later))
    (arrived : next.arrived = relay.arrived)
    (replied : next.replied = relay.replied) (src : later.src = task.src)
    (held : later.held.Sublist task.held) : next.Replying := by
  have before := (replying.handover id task present).lose held
  apply replying.of_task tasks
  · intro other _
    simp only [arrivedAt, arrived]
  · intro other _
    simp only [repliedBy, replied]
  · simp only [arrivedAt, repliedBy, arrived, replied, src]
    exact before

theorem Replying.arrive {relay next : Relay} {id : SessionId}
    {task later : SessionTask} {bytes : List UInt8}
    (replying : relay.Replying) (present : relay.tasks id = some task)
    (tasks : next.tasks = Function.update relay.tasks id (some later))
    (arrived : next.arrived = relay.arrived ++ [(id, bytes)])
    (replied : next.replied = relay.replied) (src : later.src = task.src)
    (held : later.held = task.held ++ (replyFor task.src bytes).toList) :
    next.Replying := by
  have before := (replying.handover id task present).accept
    (replyFor task.src bytes).toList
  apply replying.of_task tasks
  · intro other different
    simp only [arrivedAt, arrived, entriesOf_append,
      entriesOf_other different.symm, List.append_nil]
  · intro other _
    simp only [repliedBy, replied]
  · have offered : (next.arrivedAt id).filterMap (replyFor task.src) =
        (relay.arrivedAt id).filterMap (replyFor task.src) ++
          (replyFor task.src bytes).toList := by
      simp only [arrivedAt, arrived, entriesOf_append, entriesOf_self,
        List.filterMap_append, List.filterMap_cons, List.filterMap_nil]
      cases replyFor task.src bytes with
      | none => rfl
      | some msg => rfl
    rw [src, offered, held]
    simp only [repliedBy, replied]
    exact before

theorem Replying.pass {relay next : Relay} {id : SessionId}
    {task later : SessionTask} {msg : UdpMsg}
    (replying : relay.Replying) (present : relay.tasks id = some task)
    (tasks : next.tasks = Function.update relay.tasks id (some later))
    (arrived : next.arrived = relay.arrived)
    (replied : next.replied = relay.replied ++ [(id, msg)])
    (src : later.src = task.src) (held : task.held = [msg])
    (empty : later.held = []) : next.Replying := by
  have before := replying.handover id task present
  rw [held] at before
  apply replying.of_task tasks
  · intro other _
    simp only [arrivedAt, arrived]
  · intro other different
    simp only [repliedBy, replied, entriesOf_append,
      entriesOf_other different.symm, List.append_nil]
  · simp only [arrivedAt, repliedBy, arrived, replied, src, empty,
      entriesOf_append, entriesOf_self]
    exact before.deliver

theorem Replying.of_moved {relay next : Relay} {id : SessionId}
    {task : SessionTask} (replying : relay.Replying)
    (present : relay.tasks id = some task)
    (moved : SessionMoved relay id task next) : next.Replying := by
  cases moved with
  | associated | stopped | took | sent | notified =>
      exact replying.of_later present rfl rfl rfl rfl (List.nil_sublist _)
  | ignored selecting rejected =>
      have unchanged : relay.tasks =
          Function.update relay.tasks id (some task) := by
        rw [← present, Function.update_eq_self]
      refine replying.arrive present unchanged rfl rfl rfl ?_
      simp [replyFor, decoded, rejected]
  | decoded selecting accepted =>
      refine replying.arrive present rfl rfl rfl rfl ?_
      rw [← SessionTask.enter_eq selecting]
      simp [replyFor, decoded, accepted, SessionTask.held, SessionTask.enter]
  | replied atReply =>
      refine replying.pass present rfl rfl rfl rfl ?_ rfl
      rw [← SessionTask.enter_eq atReply]
      rfl

theorem Replying.spawnSession {opts : UdpOptions} {relay : Relay}
    (replying : relay.Replying) (tabled : relay.Tabled opts)
    (src : SocketAddr) : (relay.spawnSession src).Replying := by
  obtain ⟨arrived, replied⟩ :=
    replying.unborn relay.spawned (tabled.fresh _ (Nat.le_refl _))
  apply replying.of_task rfl
  · intro other _
    rfl
  · intro other _
    rfl
  · change Handover ((relay.arrivedAt _).filterMap _) [] (relay.repliedBy _)
    rw [replied]
    exact .start _

theorem replying_step {opts : UdpOptions} {relay next : Relay} {event : Event}
    (tabled : relay.Tabled opts) (replying : relay.Replying)
    (taken : relay.step opts event = some next) : next.Replying := by
  cases stepped taken with
  | diverted | overloaded | refused | continued | lost | closed | resolved
  | failed | answered | unheard | wrote | gaveUp | stored =>
      exact replying.of_same rfl rfl rfl
  | opened =>
      exact (replying.spawnSession tabled _).of_same rfl rfl rfl
  | queued _ _ present =>
      exact replying.of_later present rfl rfl rfl rfl (List.Sublist.refl _)
  | processed =>
      unfold processDone
      split
      · exact replying.of_same rfl rfl rfl
      · exact replying.of_same rfl rfl rfl
  | session present moved => exact replying.of_moved present moved

/-- Datagrams on the way to the relays.  What the sessions of a source sent,
what its listening session has not sent yet and what the loop is handing over
is a selection of what was received from the source. -/
structure Forwarding (opts : UdpOptions) (relay : Relay) : Prop where
  encoded : ∀ entry ∈ relay.relayed, (decoded entry.2).isSome = true
  buffer : ∀ id task dst payload, relay.tasks id = some task →
    task.phase = .sending dst payload →
    decoded task.encBuf = some (onWire (dst, payload))
  handover : ∀ src, Handover ((relay.receivedFrom opts src).map onWire)
    ((relay.handing src).map onWire) ((relay.relayedFor src).filterMap decoded)
  pending : ∀ id task, relay.tasks id = some task → task.isClosed = false →
    Handover ((relay.receivedFrom opts task.src).map onWire)
      ((task.pending ++ relay.handing task.src).map onWire)
      ((relay.relayedFor task.src).filterMap decoded)

theorem forwarding_start (opts : UdpOptions) (proxy : ProxyConfig) :
    (start proxy).Forwarding opts where
  encoded := by
    intro entry member
    cases member
  buffer := by
    intro id task dst payload present
    cases present
  handover := by
    intro src
    exact .start _
  pending := by
    intro id task present
    cases present

/-- The loop is offered datagrams and hands over some of them. -/
theorem Forwarding.of_offer {opts : UdpOptions} {relay next : Relay}
    (forwarding : relay.Forwarding opts) (tasks : next.tasks = relay.tasks)
    (relayed : next.relayed = relay.relayed)
    (more : SocketAddr → List Datagram)
    (received : ∀ src, next.receivedFrom opts src =
      relay.receivedFrom opts src ++ more src)
    (handing : ∀ src, (next.handing src).Sublist
      (relay.handing src ++ more src)) : next.Forwarding opts where
  encoded := by
    rw [relayed]
    exact forwarding.encoded
  buffer := by
    rw [tasks]
    exact forwarding.buffer
  handover := by
    intro src
    have before := (forwarding.handover src).accept ((more src).map onWire)
    rw [← List.map_append, ← List.map_append, ← received] at before
    simp only [relayedFor, relayed]
    exact before.lose ((handing src).map onWire)
  pending := by
    intro id task present listening
    rw [tasks] at present
    have before := (forwarding.pending id task present listening).accept
      ((more task.src).map onWire)
    rw [← List.map_append, ← List.map_append, ← received,
      List.append_assoc] at before
    simp only [relayedFor, relayed]
    exact before.lose
      (((handing task.src).append_left task.pending).map onWire)

/-- A task that sends nothing keeps what it has to send, or loses it. -/
theorem Forwarding.of_task {opts : UdpOptions} {relay next : Relay}
    {id : SessionId} {task later : SessionTask}
    (forwarding : relay.Forwarding opts)
    (present : relay.tasks id = some task)
    (tasks : next.tasks = Function.update relay.tasks id (some later))
    (incoming : next.incoming = relay.incoming)
    (relayed : next.relayed = relay.relayed)
    (handing : ∀ src, (next.handing src).Sublist (relay.handing src))
    (src : later.src = task.src)
    (buffer : ∀ dst payload, later.phase = .sending dst payload →
      decoded later.encBuf = some (onWire (dst, payload)))
    (pending : later.isClosed = false → task.isClosed = false ∧
      (later.pending ++ next.handing task.src).Sublist
        (task.pending ++ relay.handing task.src)) :
    next.Forwarding opts where
  encoded := by
    rw [relayed]
    exact forwarding.encoded
  buffer := by
    intro other found dst payload holds
    rw [tasks] at holds
    rcases task_of_update holds with ⟨rfl, rfl⟩ | ⟨_, was⟩
    · exact buffer dst payload
    · exact forwarding.buffer other found dst payload was
  handover := by
    intro source
    simp only [receivedFrom, relayedFor, incoming, relayed]
    exact (forwarding.handover source).lose ((handing source).map onWire)
  pending := by
    intro other found holds listening
    simp only [receivedFrom, relayedFor, incoming, relayed]
    rw [tasks] at holds
    rcases task_of_update holds with ⟨rfl, rfl⟩ | ⟨_, was⟩
    · obtain ⟨listened, fewer⟩ := pending listening
      rw [src]
      exact (forwarding.pending other task present listened).lose
        (fewer.map onWire)
    · exact (forwarding.pending other found was listening).lose
        (((handing found.src).append_left found.pending).map onWire)

/-- Only the source of the sending task sees its log grow. -/
theorem entriesOf_relayed {relay : Relay} {src other : SocketAddr}
    (different : other ≠ src) (bytes : List UInt8) :
    entriesOf other (relay.relayed ++ [(src, bytes)]) =
      relay.relayedFor other := by
  rw [entriesOf_append, entriesOf_other different.symm, List.append_nil]
  rfl

/-- The oldest pending datagram of the only listening session of a source
leaves. -/
theorem Forwarding.sent {opts : UdpOptions} {relay : Relay}
    {id : SessionId} {task : SessionTask} {dst : SocketAddr}
    {payload : Payload} (forwarding : relay.Forwarding opts)
    (tabled : relay.Tabled opts) (present : relay.tasks id = some task)
    (sending : task.phase = .sending dst payload) :
    { relay.setTask id (task.enter .selecting) with
      relayed := relay.relayed ++
        [(task.src, task.encBuf)] }.Forwarding opts := by
  have listened : task.isClosed = false := isClosed_of_phase sending
  have content := forwarding.buffer id task dst payload present sending
  have own : (entriesOf task.src (relay.relayed ++
      [(task.src, task.encBuf)])).filterMap decoded =
        (relay.relayedFor task.src).filterMap decoded ++
          [onWire (dst, payload)] := by
    simp [relayedFor, entriesOf_self, content]
  have before := forwarding.pending id task present listened
  have split : task.pending = (dst, payload) :: task.outbound.queue := by
    rw [SessionTask.pending, sending]
  rw [split, List.cons_append, List.map_cons] at before
  exact
    { encoded := by
        intro entry member
        rcases List.mem_append.mp member with old | new
        · exact forwarding.encoded entry old
        · cases List.mem_singleton.mp new
          simp [content]
      buffer := by
        intro other found target body holds atSending
        rcases task_of_update holds with ⟨rfl, rfl⟩ | ⟨_, was⟩
        · cases atSending
        · exact forwarding.buffer other found target body was atSending
      handover := by
        intro src
        by_cases same : src = task.src
        · subst same
          simp only [relayedFor, own]
          apply before.deliver.lose
          rw [List.map_append]
          exact List.sublist_append_right _ _
        · simp only [relayedFor, entriesOf_relayed same]
          exact forwarding.handover src
      pending := by
        intro other found holds listening
        rcases task_of_update holds with ⟨rfl, rfl⟩ | ⟨different, was⟩
        · change Handover _ _ (List.filterMap decoded
            (entriesOf task.src (relay.relayed ++ _)))
          rw [own]
          exact before.deliver
        · have otherSrc : found.src ≠ task.src := by
            intro same
            exact different (tabled.unique other id found task was present
              listening listened same)
          simp only [relayedFor, entriesOf_relayed otherSrc]
          exact forwarding.pending other found was listening }

theorem Forwarding.spawnSession {opts : UdpOptions} {relay : Relay}
    (forwarding : relay.Forwarding opts) (src : SocketAddr) :
    (relay.spawnSession src).Forwarding opts where
  encoded := forwarding.encoded
  buffer := by
    intro id task dst payload present sending
    rcases task_of_update present with ⟨rfl, rfl⟩ | ⟨_, was⟩
    · cases sending
    · exact forwarding.buffer id task dst payload was sending
  handover := forwarding.handover
  pending := by
    intro id task present listening
    rcases task_of_update present with ⟨rfl, rfl⟩ | ⟨_, was⟩
    · exact forwarding.handover src
    · exact forwarding.pending id task was listening

/-- Outside of a send, what a task has to send is what its channel holds. -/
theorem pending_of_quiet {task : SessionTask}
    (quiet : ∀ dst payload, task.phase ≠ .sending dst payload) :
    task.pending = task.outbound.queue := by
  unfold SessionTask.pending
  split
  · rename_i dst payload sending
    exact (quiet dst payload sending).elim
  · rfl

/-- A task that neither takes nor sends a datagram. -/
theorem Forwarding.of_quiet {opts : UdpOptions} {relay next : Relay}
    {id : SessionId} {task later : SessionTask}
    (forwarding : relay.Forwarding opts)
    (present : relay.tasks id = some task)
    (tasks : next.tasks = Function.update relay.tasks id (some later))
    (incoming : next.incoming = relay.incoming)
    (relayed : next.relayed = relay.relayed)
    (handing : next.forwarding = relay.forwarding)
    (src : later.src = task.src)
    (quiet : ∀ dst payload, later.phase ≠ .sending dst payload)
    (before : later.isClosed = false → task.isClosed = false ∧
      (∀ dst payload, task.phase ≠ .sending dst payload) ∧
      later.outbound = task.outbound) : next.Forwarding opts := by
  have sameHanding : next.handing = relay.handing := by
    funext source
    rw [Relay.handing, Relay.handing, handing]
  apply forwarding.of_task present tasks incoming relayed
  · rw [sameHanding]
    exact fun source => List.Sublist.refl _
  · exact src
  · intro dst payload sending
    exact (quiet dst payload sending).elim
  · intro listening
    obtain ⟨listened, wasQuiet, outbound⟩ := before listening
    rw [pending_of_quiet quiet, pending_of_quiet wasQuiet, outbound,
      sameHanding]
    exact ⟨listened, List.Sublist.refl _⟩

theorem Forwarding.of_moved {opts : UdpOptions} {relay next : Relay}
    {id : SessionId} {task : SessionTask}
    (forwarding : relay.Forwarding opts) (tabled : relay.Tabled opts)
    (present : relay.tasks id = some task)
    (moved : SessionMoved relay id task next) : next.Forwarding opts := by
  cases moved with
  | associated addr associating =>
      exact forwarding.of_quiet present rfl rfl rfl rfl rfl nofun
        fun _ => ⟨isClosed_of_phase associating, by simp [associating], rfl⟩
  | decoded selecting =>
      exact forwarding.of_quiet present rfl rfl rfl rfl rfl nofun
        fun _ => ⟨isClosed_of_phase selecting, by simp [selecting], rfl⟩
  | replied replying =>
      exact forwarding.of_quiet present rfl rfl rfl rfl rfl nofun
        fun _ => ⟨isClosed_of_phase replying, by simp [replying], rfl⟩
  | stopped | notified =>
      exact forwarding.of_quiet present rfl rfl rfl rfl rfl nofun nofun
  | ignored =>
      exact forwarding.of_offer rfl rfl (fun _ => [])
        (fun _ => (List.append_nil _).symm)
        (fun _ => List.sublist_append_left _ _)
  | sent sending => exact forwarding.sent tabled present sending
  | @took dst payload outbound selecting received =>
      have queue := Channel.queue_of_recv received
      have split : task.pending = (dst, payload) :: outbound.queue := by
        rw [SessionTask.pending, selecting]
        exact queue
      refine forwarding.of_task present rfl rfl rfl
        (fun _ => List.Sublist.refl _) rfl ?_ ?_
      · intro target body sending
        cases sending
        simp [decoded, decodeUdp_encodeUdp, onWire]
      · intro _
        refine ⟨isClosed_of_phase selecting, ?_⟩
        rw [split]
        exact List.Sublist.refl _

theorem pending_of_queued {task : SessionTask} {datagram : Datagram}
    {outbound : Channel Datagram sessionChannelDepth}
    (queue : outbound.queue = task.outbound.queue ++ [datagram]) :
    ({ task with outbound := outbound } : SessionTask).pending =
      task.pending ++ [datagram] := by
  cases phase : task.phase with
  | sending dst payload => simp [SessionTask.pending, phase, queue]
  | _ => simp [SessionTask.pending, phase, queue]

/-- What the loop was handing over moves into the channel. -/
theorem Forwarding.queued {opts : UdpOptions} {relay : Relay}
    {id : SessionId} {task : SessionTask} {payload : Payload}
    {dst : SocketAddr} {outbound : Channel Datagram sessionChannelDepth}
    (forwarding : relay.Forwarding opts)
    (handed : relay.forwarding = some (payload, task.src, dst))
    (present : relay.tasks id = some task)
    (listening : task.isClosed = false)
    (sent : task.outbound.send? (dst, payload) = some outbound) :
    { relay.setTask id { task with outbound := outbound } with
      forwarding := none }.Forwarding opts := by
  have handing : relay.handing task.src = [(dst, payload)] := by
    rw [Relay.handing, handed]
    exact entriesOf_self _ _
  refine forwarding.of_task present rfl rfl rfl
    (fun _ => List.nil_sublist _) rfl ?_ ?_
  · intro target body sending
    exact forwarding.buffer id task target body present sending
  · intro _
    refine ⟨listening, ?_⟩
    rw [handing, pending_of_queued (Channel.queue_of_send sent)]
    exact (List.append_nil _).symm ▸ List.Sublist.refl _

/-- A datagram for a session is offered to the session of its source. -/
theorem receivedFrom_append {opts : UdpOptions} {relay next : Relay}
    {payload : Payload} {src dst : SocketAddr}
    (kept : opts.diverts dst = false)
    (incoming : next.incoming = relay.incoming ++ [(payload, src, dst)])
    (key : SocketAddr) :
    next.receivedFrom opts key = relay.receivedFrom opts key ++
      entriesOf key [(src, dst, payload)] := by
  have carried : opts.carried (payload, src, dst) =
      some (src, dst, payload) := by
    simp [UdpOptions.carried, kept, bySource]
  simp [receivedFrom, incoming, carried]

theorem receivedFrom_of_diverted {opts : UdpOptions} {relay next : Relay}
    {payload : Payload} {src dst : SocketAddr}
    (diverts : opts.diverts dst = true)
    (incoming : next.incoming = relay.incoming ++ [(payload, src, dst)])
    (key : SocketAddr) :
    next.receivedFrom opts key = relay.receivedFrom opts key ++ [] := by
  have carried : opts.carried (payload, src, dst) = none := by
    simp [UdpOptions.carried, diverts]
  simp [receivedFrom, incoming, carried]

theorem forwarding_step {opts : UdpOptions} {relay next : Relay}
    {event : Event} (tabled : relay.Tabled opts)
    (forwarding : relay.Forwarding opts)
    (taken : relay.step opts event = some next) : next.Forwarding opts := by
  have unchanged : ∀ src, relay.receivedFrom opts src =
      relay.receivedFrom opts src ++ [] :=
    fun _ => (List.append_nil _).symm
  have nothing : ∀ src, (relay.handing src).Sublist (relay.handing src ++ []) :=
    fun _ => List.sublist_append_left _ _
  cases stepped taken with
  | closed | resolved | failed | answered | unheard | wrote | gaveUp
  | stored =>
      exact forwarding.of_offer rfl rfl (fun _ => []) unchanged nothing
  | processed =>
      unfold processDone
      split
      · exact forwarding.of_offer rfl rfl (fun _ => []) unchanged nothing
      · exact forwarding.of_offer rfl rfl (fun _ => []) unchanged nothing
  | lost =>
      exact forwarding.of_offer rfl rfl (fun _ => []) unchanged
        (fun _ => List.nil_sublist _)
  | diverted _ diverts | overloaded _ diverts =>
      exact forwarding.of_offer rfl rfl (fun _ => [])
        (receivedFrom_of_diverted diverts rfl) nothing
  | refused _ kept =>
      exact forwarding.of_offer rfl rfl _ (receivedFrom_append kept rfl)
        (fun _ => List.sublist_append_left _ _)
  | continued _ kept =>
      exact forwarding.of_offer rfl rfl _ (receivedFrom_append kept rfl)
        (fun _ => List.sublist_append_right _ _)
  | opened _ kept =>
      exact (forwarding.spawnSession _).of_offer rfl rfl _
        (receivedFrom_append kept rfl)
        (fun _ => List.sublist_append_right _ _)
  | queued handed found present listening sent =>
      obtain ⟨other, otherPresent, rfl, _⟩ := tabled.noticed _ _ found
      cases present.symm.trans otherPresent
      exact forwarding.queued handed present listening sent
  | session present moved => exact forwarding.of_moved tabled present moved

/-- What the sessions do for their sources.  The datagrams sent for a source
decode to a selection, in order, of those received from it; the replies of a
session are a selection, in order, of what its relay sent, addressed to its
source. -/
structure Faithful (opts : UdpOptions) (relay : Relay) : Prop where
  encoded : ∀ src, ∀ bytes ∈ relay.relayedFor src,
    (decoded bytes).isSome = true
  selected : ∀ src, ((relay.relayedFor src).filterMap decoded).Sublist
    ((relay.receivedFrom opts src).map onWire)
  outbound : ∀ src,
    (∀ datagram ∈ relay.receivedFrom opts src, onWire datagram = datagram) →
    ((relay.relayedFor src).filterMap decoded).Sublist
      (relay.receivedFrom opts src)
  replies : ∀ id task, relay.tasks id = some task →
    (relay.repliedBy id).Sublist
      ((relay.arrivedAt id).filterMap (replyFor task.src))
  owned : ∀ id, relay.tasks id = none → relay.repliedBy id = []

theorem Forwarding.faithful {opts : UdpOptions} {relay : Relay}
    (forwarding : relay.Forwarding opts) (replying : relay.Replying) :
    relay.Faithful opts where
  encoded := by
    intro src bytes member
    exact forwarding.encoded _ (mem_of_mem_entriesOf member)
  selected := by
    intro src
    exact (forwarding.handover src).delivered_sublist
  outbound := by
    intro src plain
    have selected := (forwarding.handover src).delivered_sublist
    rwa [List.map_congr_left plain, List.map_id'] at selected
  replies := by
    intro id task present
    exact (replying.handover id task present).delivered_sublist
  owned := by
    intro id absent
    exact (replying.unborn id absent).2

/-- Nothing is misdelivered, duplicated or reordered in any run. -/
theorem always_faithful (opts : UdpOptions) (proxy : ProxyConfig)
    (events : List Event) :
    Always (step opts) (Faithful opts) (start proxy) events := by
  have kept : ∀ (relay : Relay) (event : Event) (next : Relay),
      relay.Tabled opts ∧ relay.Forwarding opts ∧ relay.Replying →
      relay.step opts event = some next →
      next.Tabled opts ∧ next.Forwarding opts ∧ next.Replying := by
    intro relay event next invariant taken
    obtain ⟨tabled, forwarding, replying⟩ := invariant
    exact ⟨tabled_step relay event next tabled taken,
      forwarding_step tabled forwarding taken,
      replying_step tabled replying taken⟩
  have initial : (start proxy).Tabled opts ∧ (start proxy).Forwarding opts ∧
      (start proxy).Replying :=
    ⟨tabled_start opts proxy, forwarding_start opts proxy,
      replying_start proxy⟩
  apply (always_of_invariant kept initial events).mono
  intro relay invariant
  exact invariant.2.1.faithful invariant.2.2

end Relay

/-- One datagram to the relay and its answer back. -/
example :
    (run (Relay.step { maxSessions := 1, dnsOverTcp := true })
      (Relay.start loopbackProxy)
      [.datagram ([1], clientAddr, remoteAddr), .forward,
        .session 0 (.associated loopbackProxy.addr), .session 0 .take,
        .session 0 .sent, .session 0 (.arrive (encodeUdp remoteAddr [2] [])),
        .session 0 .reply]).map
        (fun relay => ((relay.relayedFor clientAddr).filterMap decoded,
          relay.repliedBy 0)) =
      some ([(remoteAddr, [1])], [([2], remoteAddr, clientAddr)]) := by
  decide +kernel

end Cortado.Udp
