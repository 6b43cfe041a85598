import Mathlib.Data.List.AList
import Cortado.Config
import Cortado.Lib.Channel
import Cortado.Socks.UdpCodec

/-!
# The UDP relay

`run_udp` reads the datagrams of the tunnel and hands each one to the session
of its source.  A session is a task of its own: it associates with the proxy,
sends what it takes from its channel to the relay and puts what the relay
answers on the reply channel.  When it ends, its receiver is dropped first and
the loop is notified afterwards, by the address of the source alone.
-/

namespace Cortado.Udp

open Net Socks

def maxDatagram : Nat := 65535

def replyChannelDepth : Nat := 2048

def sessionChannelDepth : Nat := 256

def doneChannelDepth : Nat := 256

def dnsPort : UInt16 := 53

abbrev Payload := List UInt8

/-- A payload for a destination. -/
abbrev Datagram := SocketAddr × Payload

/-- A payload with the addresses it comes from and goes to. -/
abbrev UdpMsg := Payload × SocketAddr × SocketAddr

/-- Sessions are numbered in the order in which they are spawned. -/
abbrev SessionId := Nat

structure UdpOptions where
  maxSessions : Nat
  dnsOverTcp : Bool

/-- Datagrams that go to the DNS pool instead of a session. -/
def UdpOptions.diverts (opts : UdpOptions) (dst : SocketAddr) : Bool :=
  opts.dnsOverTcp && dst.port == dnsPort

/-- Where a session's task is. -/
inductive Phase where
  | associating
  | selecting
  | sending (dst : SocketAddr) (payload : Payload)
  | replying (msg : UdpMsg)
  | notifying
  | ended
  | panicked
  deriving DecidableEq, Repr

structure SessionTask where
  src : SocketAddr
  proxy : ProxyConfig
  relay : Option SocketAddr
  outbound : Channel Datagram sessionChannelDepth
  encBuf : List UInt8
  phase : Phase

namespace SessionTask

def spawn (src : SocketAddr) (proxy : ProxyConfig) : SessionTask :=
  { src := src
    proxy := proxy
    relay := none
    outbound := .empty
    encBuf := []
    phase := .associating }

/-- The receiver is dropped when `session_task` returns or panics. -/
def isClosed (task : SessionTask) : Bool :=
  match task.phase with
  | .notifying | .ended | .panicked => true
  | _ => false

def enter (task : SessionTask) (phase : Phase) : SessionTask :=
  { task with phase := phase }

end SessionTask

/-- A query of `dns_query_pooled`, with the answer it has to pass on. -/
structure DnsQuery where
  dst : SocketAddr
  src : SocketAddr
  query : Payload
  answer : Option Payload

/-- The loop, the tasks it spawned and their channels.  A notification
carries the session it is from for the record only, and so do the last four
fields: the loop reads none of them. -/
structure Relay where
  sessions : AList fun _ : SocketAddr => SessionId
  tasks : SessionId → Option SessionTask
  spawned : Nat
  forwarding : Option UdpMsg
  running : Bool
  done : Channel (SocketAddr × SessionId) doneChannelDepth
  replies : Channel UdpMsg replyChannelDepth
  writing : Bool
  queries : List DnsQuery
  proxy : ProxyConfig
  incoming : List UdpMsg
  relayed : List (SocketAddr × List UInt8)
  arrived : List (SessionId × List UInt8)
  replied : List (SessionId × UdpMsg)

inductive SessionEvent where
  | associated (relay : SocketAddr)
  | fail
  | idle
  | controlClosed
  | take
  | drained
  | sent
  | arrive (bytes : List UInt8)
  | reply
  | notify

inductive QueryEvent where
  | resolved (resp : Payload)
  | failed
  | reply

inductive Event where
  | datagram (msg : UdpMsg)
  | forward
  | close
  | done
  | session (id : SessionId) (event : SessionEvent)
  | query (index : Nat) (event : QueryEvent)
  | write (accepted : Bool)
  | storeProxy (proxy : ProxyConfig)

namespace Relay

def start (proxy : ProxyConfig) : Relay :=
  { sessions := ∅
    tasks := fun _ => none
    spawned := 0
    forwarding := none
    running := true
    done := .empty
    replies := .empty
    writing := true
    queries := []
    proxy := proxy
    incoming := []
    relayed := []
    arrived := []
    replied := [] }

def setTask (relay : Relay) (id : SessionId) (task : SessionTask) : Relay :=
  { relay with tasks := Function.update relay.tasks id (some task) }

/-- The task behind the sender stored for a source. -/
def stored (relay : Relay) (src : SocketAddr) : Option SessionTask :=
  (relay.sessions.lookup src).bind relay.tasks

def live (relay : Relay) (src : SocketAddr) : Bool :=
  (relay.stored src).any fun task => !task.isClosed

/-- The task and its entry in the table appear in one step of the loop. -/
def spawnSession (relay : Relay) (src : SocketAddr) : Relay :=
  { relay.setTask relay.spawned (.spawn src relay.proxy) with
    sessions := relay.sessions.insert src relay.spawned
    spawned := relay.spawned + 1 }

/-- The datagram branch up to the `try_send`, which `forward` makes. -/
def receive (opts : UdpOptions) (relay : Relay) (msg : UdpMsg) : Relay :=
  let (payload, src, dst) := msg
  let relay := { relay with incoming := relay.incoming ++ [msg] }
  if opts.diverts dst then
    if relay.queries.length < opts.maxSessions then
      { relay with
        queries := relay.queries ++
          [{ dst := dst, src := src, query := payload, answer := none }] }
    else relay
  else if relay.live src then { relay with forwarding := some msg }
  else if relay.sessions.keys.length ≥ opts.maxSessions then relay
  else { relay.spawnSession src with forwarding := some msg }

/-- `try_send` to the session of the source, which may have ended since. -/
def forward (relay : Relay) (msg : UdpMsg) : Relay :=
  let (payload, src, dst) := msg
  let relay := { relay with forwarding := none }
  match relay.sessions.lookup src with
  | none => relay
  | some id =>
      match relay.tasks id with
      | none => relay
      | some task =>
          if task.isClosed then relay
          else
            match task.outbound.send? (dst, payload) with
            | none => relay
            | some outbound =>
                relay.setTask id { task with outbound := outbound }

/-- A notification removes the entry of its source if that is closed. -/
def processDone (relay : Relay) (dead : SocketAddr) : Relay :=
  if (relay.stored dead).any SessionTask.isClosed then
    { relay with sessions := relay.sessions.erase dead }
  else relay

def sessionStep (relay : Relay) (id : SessionId) (task : SessionTask) :
    SessionEvent → Option Relay
  | .associated addr =>
      match task.phase with
      | .associating =>
          some (relay.setTask id
            { task with relay := some addr, phase := .selecting })
      | _ => none
  | .fail =>
      match task.phase with
      | .associating | .selecting | .sending _ _ =>
          some (relay.setTask id (task.enter .notifying))
      | _ => none
  | .idle | .controlClosed =>
      match task.phase with
      | .selecting => some (relay.setTask id (task.enter .notifying))
      | _ => none
  | .take =>
      match task.phase, task.outbound.recv? with
      | .selecting, some ((dst, payload), outbound) =>
          some (relay.setTask id
            { task with
              outbound := outbound
              encBuf := encodeUdp dst payload task.encBuf
              phase := .sending dst payload })
      | _, _ => none
  | .drained =>
      match task.phase, task.outbound.recv? with
      | .selecting, none =>
          -- The stored sender keeps the channel open.
          if relay.sessions.lookup task.src = some id then none
          else some (relay.setTask id (task.enter .notifying))
      | _, _ => none
  | .sent =>
      match task.phase with
      | .sending _ _ =>
          some
            { relay.setTask id (task.enter .selecting) with
              relayed := relay.relayed ++ [(task.src, task.encBuf)] }
      | _ => none
  | .arrive bytes =>
      match task.phase with
      | .selecting =>
          let received := bytes.take maxDatagram
          let relay :=
            { relay with arrived := relay.arrived ++ [(id, received)] }
          match decodeUdp received with
          | .ok (some (remote, data)) =>
              some (relay.setTask id
                (task.enter (.replying (data, remote, task.src))))
          | .ok none => some relay
          | .error _ => some (relay.setTask id (task.enter .panicked))
      | _ => none
  | .reply =>
      match task.phase with
      | .replying msg =>
          if relay.writing then
            (relay.replies.send? msg).map fun replies =>
              { relay.setTask id (task.enter .selecting) with
                replies := replies
                replied := relay.replied ++ [(id, msg)] }
          else some (relay.setTask id (task.enter .notifying))
      | _ => none
  | .notify =>
      match task.phase with
      | .notifying =>
          (relay.done.send? (task.src, id)).map fun done =>
            { relay.setTask id (task.enter .ended) with done := done }
      | _ => none

/-- A query gives its permit back when it is over. -/
def queryStep (relay : Relay) (index : Nat) (query : DnsQuery) :
    QueryEvent → Option Relay
  | .resolved resp =>
      match query.answer with
      | none =>
          some
            { relay with
              queries := relay.queries.set index
                { query with answer := some resp } }
      | some _ => none
  | .failed =>
      match query.answer with
      | none => some { relay with queries := relay.queries.eraseIdx index }
      | some _ => none
  | .reply =>
      match query.answer with
      | none => none
      | some resp =>
          if relay.writing then
            (relay.replies.send? (resp, query.dst, query.src)).map
              fun replies =>
                { relay with
                  replies := replies
                  queries := relay.queries.eraseIdx index }
          else some { relay with queries := relay.queries.eraseIdx index }

/-- The writer of replies gives up when the tunnel refuses one. -/
def write (relay : Relay) (accepted : Bool) : Option Relay :=
  if relay.writing then
    relay.replies.recv?.map fun (_, replies) =>
      if accepted then { relay with replies := replies }
      else { relay with replies := .empty, writing := false }
  else none

/-- The loop waits in its `select`. -/
def selecting (relay : Relay) : Bool :=
  relay.running && relay.forwarding.isNone

def step (opts : UdpOptions) (relay : Relay) : Event → Option Relay
  | .datagram msg =>
      if relay.selecting then some (relay.receive opts msg) else none
  | .forward => relay.forwarding.map relay.forward
  | .close =>
      if relay.selecting then
        some { relay with running := false, sessions := ∅ }
      else none
  | .done =>
      if relay.selecting then
        relay.done.recv?.map fun ((dead, _), done) =>
          { relay with done := done }.processDone dead
      else none
  | .session id event =>
      (relay.tasks id).bind fun task => relay.sessionStep id task event
  | .query index event =>
      relay.queries[index]?.bind fun query =>
        relay.queryStep index query event
  | .write accepted => relay.write accepted
  | .storeProxy proxy => some { relay with proxy := proxy }

end Relay

end Cortado.Udp
