import Mathlib.Data.List.AList
import Mathlib.Logic.Function.Basic
import Cortado.Lib.Multiplexer
import Cortado.Config
import Cortado.Dns.Wire

/-!
# The pool of DNS connections

Resolve calls, the reader tasks of the connections, `prune` and `set_proxy`
run concurrently, and a step of the model is what one of them does without
giving up the processor, so the steps of different tasks may interleave in
any order.  Three locks are held from one step to a later one: the lock around
`conns`, the lock for opening, and the lock around the writer of a connection.
Nobody waits while holding the locks around `inflight` and `last_used`, so
what is done under one of those is a single step.

The fields `epoch`, `completed`, `switches`, `since`, `draw` and `sent` only
record what happened; no step of the program reads them.
-/

namespace Cortado.Dns

open Net Multiplexer

def maxInflightPerConn : Nat := 256

def maxConnsPerTarget : Nat := 8

def maxDnsMessage : Nat := 65535

abbrev ConnId := Nat

abbrev TaskId := Nat

/-- A resolve call and whether it is in its forced second attempt. -/
abbrev AttemptId := TaskId × Bool

/-- A stored `oneshot::Sender`.  The placeholder of `allocate_id`, whose
receiver is gone, is not armed. -/
abbrev Sender := Slot AttemptId

abbrev Inflight := AList fun _ : UInt16 => Sender

inductive ResolveError where
  | tooShort
  | tooLarge
  | exhausted (server : SocketAddr)
  | connect
  | rejected
  | write
  | closed
  | timedOut
  deriving DecidableEq, Repr

def ResolveError.message : ResolveError → String
  | .tooShort => "DNS query too short"
  | .tooLarge => "DNS query too large"
  | .exhausted server =>
      "DNS connection pool exhausted for " ++ server.display
  | .connect => "failed to open pooled DNS connection"
  | .rejected => "freshly opened DNS connection rejected allocation"
  | .write => "failed to write DNS query"
  | .closed => "pooled DNS connection closed before reply"
  | .timedOut => "pooled DNS query timed out"

inductive Outcome where
  | ok (reply : Message)
  | retry (error : ResolveError)
  | fatal (error : ResolveError)
  deriving DecidableEq, Repr

/-- How `attempt` reports an error that came after the allocation of its
identifier. -/
def ResolveError.outcome : ResolveError → Outcome
  | .timedOut => .fatal .timedOut
  | error => .retry error

/-! ## Connections -/

/-- Where the reader task is: in its loop, past a `break`, past the store to
`alive`, and past the clearing of the map. -/
inductive ReaderState where
  | running
  | stopping
  | clearing
  | finished
  deriving DecidableEq, Repr

/-- A frame that was written, with the answer once the reader has it. -/
structure SentFrame where
  owner : AttemptId
  draw : Nat
  bytes : List UInt8
  answer : Option Message
  deriving DecidableEq, Repr

/-- A connection.  `draws` counts the draws from `next_id`, `server` is the
address of the bucket it belongs to, and `writer` is the call that holds the
lock around its writer. -/
structure Conn where
  server : SocketAddr
  proxy : ProxyConfig
  epoch : Nat
  writer : Option TaskId
  inflight : Inflight
  draws : Nat
  alive : Bool
  lastUsed : Nat
  reader : ReaderState
  sent : List SentFrame

namespace Conn

def store (conn : Conn) (id : UInt16) (sender : Sender) : Conn :=
  { conn with inflight := conn.inflight.insert id sender }

def vacate (conn : Conn) (id : UInt16) : Conn :=
  { conn with inflight := conn.inflight.erase id }

def append (conn : Conn) (sent : SentFrame) : Conn :=
  { conn with sent := conn.sent ++ [sent] }

/-- Record the answer to the frame at a position. -/
def answer (conn : Conn) (position : Nat) (body : Message) : Conn :=
  { conn with
    sent := conn.sent.modify position fun sent =>
      { sent with answer := some body } }

end Conn

/-- `next_id.fetch_add(1) & 0xFFFF`, after a number of draws. -/
def candidate (draws : Nat) : UInt16 :=
  (UInt64.ofNat draws &&& 0xFFFF).toUInt16

/-- The search of `allocate_id`: the draw that hit a vacant entry, if any,
and the number of draws after it. -/
def searchId (inflight : Inflight) : Nat → Nat → Option Nat × Nat
  | 0, draws => (none, draws)
  | fuel + 1, draws =>
      if candidate draws ∈ inflight then searchId inflight fuel (draws + 1)
      else (some draws, draws + 1)

def Conn.allocateId (conn : Conn) (owner : AttemptId) : Option Nat × Conn :=
  if conn.inflight.keys.length ≥ maxInflightPerConn then (none, conn)
  else
    match searchId conn.inflight 65536 conn.draws with
    | (none, draws) => (none, { conn with draws := draws })
    | (some draw, draws) =>
        (some draw,
          { conn with draws := draws }.store (candidate draw)
            { owner := owner, armed := false })

/-- The connection of `open_conn`, right after its reader was spawned. -/
def Conn.fresh (server : SocketAddr) (proxy : ProxyConfig)
    (epoch now : Nat) : Conn :=
  { server := server
    proxy := proxy
    epoch := epoch
    writer := none
    inflight := ∅
    draws := 0
    alive := true
    lastUsed := now
    reader := .running
    sent := [] }

/-! ## Tasks -/

/-- The arguments of `resolve`, and the last switch of the proxy that was
complete when it was called. -/
structure Call where
  server : SocketAddr
  query : Message
  since : Nat
  deriving DecidableEq, Repr

/-- The stages of `acquire` and `open_and_register`.  The lock for opening is
held from `recheck` on, or from `opening` on in a forced attempt. -/
inductive Acquire where
  | reuse
  | waitOpen
  | recheck
  | checkCap
  | opening
  | connecting (proxy : ProxyConfig) (epoch : Nat)
  | fresh (conn : ConnId)
  deriving DecidableEq, Repr

/-- The attempt holds the lock for opening. -/
def Acquire.holdsOpen : Acquire → Bool
  | .reuse | .waitOpen => false
  | _ => true

/-- The connection and the identifier that an attempt works with. -/
structure Lease where
  conn : ConnId
  draw : Nat
  deriving DecidableEq, Repr

def Lease.id (lease : Lease) : UInt16 :=
  candidate lease.draw

/-- The stages of an attempt that has an identifier.  In `register` it still
has to put its new connection into the map, in `ready` it waits for the lock
around the writer, and in `writing` it holds that lock. -/
inductive Progress where
  | register
  | acquired
  | ready
  | writing
  | written
  | waiting
  | writeError
  | removing (error : ResolveError)
  deriving DecidableEq, Repr

inductive Task where
  | idle
  | acquiring (call : Call) (forced : Bool) (stage : Acquire)
  | leased (call : Call) (forced : Bool) (lease : Lease) (progress : Progress)
  | done (call : Call) (result : Except ResolveError Message)
  deriving DecidableEq, Repr

/-- How `resolve` goes on after an attempt. -/
def Task.conclude (call : Call) (forced : Bool) : Outcome → Task
  | .ok reply => .done call (.ok reply)
  | .retry error =>
      if forced then .done call (.error error)
      else .acquiring call true .waitOpen
  | .fatal error => .done call (.error error)

/-! ## The pool -/

/-- What `prune` knows about the connection it looks at. -/
inductive PruneVisit where
  | alive (conn : ConnId)
  | used (conn : ConnId) (last : Nat)
  | inspected (conn : ConnId) (last : Nat) (empty : Bool)

/-- The lock around `conns`, with what its holder still has to look at. -/
inductive ConnsLock where
  | free
  | reuse (holder : TaskId) (rest : List ConnId)
  | prune (now : Nat) (todo : List ConnId) (visit : Option PruneVisit)

/-- `conns` lists the stored connections in the order of registration; the
bucket of a server are those opened for it. -/
structure Pool where
  task : TaskId → Task
  conn : ConnId → Conn
  nextConn : ConnId
  conns : List ConnId
  connsLock : ConnsLock
  openLock : Option TaskId
  proxy : ProxyConfig
  chan : AttemptId → Reply Message
  clock : Nat
  idleTimeout : Nat
  epoch : Nat
  completed : Nat
  switches : List Nat

inductive Event where
  | call (task : TaskId) (server : SocketAddr) (query : Message)
  | lockConns (task : TaskId)
  | tryNext (task : TaskId)
  | lockOpen (task : TaskId)
  | checkCap (task : TaskId)
  | loadProxy (task : TaskId)
  | connect (task : TaskId) (ok : Bool)
  | allocateFresh (task : TaskId)
  | register (task : TaskId)
  | insertSender (task : TaskId)
  | lockWriter (task : TaskId)
  | write (task : TaskId) (ok : Bool)
  | markDead (task : TaskId)
  | touch (task : TaskId)
  | receive (task : TaskId)
  | expire (task : TaskId)
  | remove (task : TaskId)
  | storeProxy (proxy : ProxyConfig)
  | clearConns (epoch : Nat)
  | pruneLock (now : Nat)
  | pruneVisit (conn : ConnId)
  | pruneLast
  | pruneEmpty
  | pruneDecide
  | pruneUnlock
  | readerIdle (conn : ConnId)
  | readerStop (conn : ConnId)
  /-- A whole frame arrives: the answer to the frame at a position, or none
  that was asked for. -/
  | readerFrame (conn : ConnId) (body : Message) (source : Option Nat)
  | readerDead (conn : ConnId)
  | readerClear (conn : ConnId)
  | tick

namespace Pool

def new (proxy : ProxyConfig) (idleTimeout : Nat) : Pool :=
  { task := fun _ => .idle
    -- A connection that does not exist yet has no reader.
    conn := fun _ =>
      { Conn.fresh (.v4 0 0) proxy 0 0 with
        alive := false
        reader := .finished }
    nextConn := 0
    conns := []
    connsLock := .free
    openLock := none
    proxy := proxy
    chan := fun _ => .pending
    clock := 0
    idleTimeout := idleTimeout
    epoch := 0
    completed := 0
    switches := [] }

def setTask (pool : Pool) (task : TaskId) (value : Task) : Pool :=
  { pool with task := Function.update pool.task task value }

def setConn (pool : Pool) (conn : ConnId) (value : Conn) : Pool :=
  { pool with conn := Function.update pool.conn conn value }

def setChan (pool : Pool) (owner : AttemptId) (reply : Reply Message) : Pool :=
  { pool with chan := Function.update pool.chan owner reply }

/-- A sender that is used or dropped settles the channel of its owner. -/
def settle (pool : Pool) (reply : Reply Message) : Option Sender → Pool
  | some { owner, armed := true } => pool.setChan owner reply
  | _ => pool

/-- `bucket.retain(|c| c.alive)` in the bucket of a server. -/
def retainAlive (pool : Pool) (server : SocketAddr) : List ConnId :=
  pool.conns.filter fun conn =>
    (pool.conn conn).server ≠ server || (pool.conn conn).alive

def bucket (pool : Pool) (server : SocketAddr) : List ConnId :=
  pool.conns.filter fun conn => (pool.conn conn).server = server

/-! ### Acquiring -/

def call (pool : Pool) (task : TaskId) (server : SocketAddr)
    (query : Message) : Option Pool :=
  match pool.task task with
  | .idle =>
      let call :=
        { server := server, query := query, since := pool.completed }
      if query.length < 12 then
        some (pool.setTask task (.done call (.error .tooShort)))
      else if query.length > maxDnsMessage then
        some (pool.setTask task (.done call (.error .tooLarge)))
      else some (pool.setTask task (.acquiring call false .reuse))
  | _ => none

/-- The start of `try_reuse`. -/
def lockConns (pool : Pool) (task : TaskId) : Option Pool :=
  match pool.connsLock, pool.task task with
  | .free, .acquiring call _ .reuse | .free, .acquiring call _ .recheck =>
      let pool := { pool with conns := pool.retainAlive call.server }
      some { pool with connsLock := .reuse task (pool.bucket call.server) }
  | _, _ => none

/-- One turn of the loop of `try_reuse`, or its end. -/
def tryNext (pool : Pool) (task : TaskId) : Option Pool :=
  match pool.connsLock, pool.task task with
  | .reuse holder rest, .acquiring call forced stage =>
      if holder = task then
        match rest with
        | [] =>
            let pool := { pool with connsLock := .free }
            match stage with
            | .reuse =>
                some (pool.setTask task (.acquiring call forced .waitOpen))
            | .recheck =>
                some (pool.setTask task (.acquiring call forced .checkCap))
            | _ => none
        | conn :: rest =>
            match (pool.conn conn).allocateId (task, forced) with
            | (none, tried) =>
                some
                  { pool.setConn conn tried with
                    connsLock := .reuse task rest }
            | (some draw, taken) =>
                let pool := pool.setConn conn taken
                some
                  { pool.setTask task
                      (.leased call forced { conn := conn, draw := draw }
                        .acquired) with
                    connsLock := .free
                    openLock :=
                      if stage.holdsOpen then none else pool.openLock }
      else none
  | _, _ => none

def lockOpen (pool : Pool) (task : TaskId) : Option Pool :=
  match pool.openLock, pool.task task with
  | none, .acquiring call forced .waitOpen =>
      let stage := if forced then .opening else .recheck
      some
        { pool.setTask task (.acquiring call forced stage) with
          openLock := some task }
  | _, _ => none

/-- An attempt that fails while it holds the lock for opening. -/
def failOpen (pool : Pool) (task : TaskId) (call : Call) (forced : Bool)
    (error : ResolveError) : Pool :=
  { pool.setTask task (.conclude call forced (.retry error)) with
    openLock := none }

def checkCap (pool : Pool) (task : TaskId) : Option Pool :=
  match pool.connsLock, pool.task task with
  | .free, .acquiring call forced .checkCap =>
      let pool := { pool with conns := pool.retainAlive call.server }
      if (pool.bucket call.server).length ≥ maxConnsPerTarget then
        some (pool.failOpen task call forced (.exhausted call.server))
      else some (pool.setTask task (.acquiring call forced .opening))
  | _, _ => none

def loadProxy (pool : Pool) (task : TaskId) : Option Pool :=
  match pool.task task with
  | .acquiring call forced .opening =>
      some (pool.setTask task
        (.acquiring call forced (.connecting pool.proxy pool.epoch)))
  | _ => none

/-- `socks::tcp_connect` returns. -/
def connect (pool : Pool) (task : TaskId) (ok : Bool) : Option Pool :=
  match pool.task task with
  | .acquiring call forced (.connecting proxy epoch) =>
      if ok then
        let conn := Conn.fresh call.server proxy epoch pool.clock
        some
          { (pool.setConn pool.nextConn conn).setTask task
              (.acquiring call forced (.fresh pool.nextConn)) with
            nextConn := pool.nextConn + 1 }
      else some (pool.failOpen task call forced .connect)
  | _ => none

def allocateFresh (pool : Pool) (task : TaskId) : Option Pool :=
  match pool.task task with
  | .acquiring call forced (.fresh conn) =>
      match (pool.conn conn).allocateId (task, forced) with
      | (none, tried) =>
          some ((pool.setConn conn tried).failOpen task call forced .rejected)
      | (some draw, taken) =>
          some ((pool.setConn conn taken).setTask task
            (.leased call forced { conn := conn, draw := draw } .register))
  | _ => none

def register (pool : Pool) (task : TaskId) : Option Pool :=
  match pool.connsLock, pool.task task with
  | .free, .leased call forced lease .register =>
      some
        { pool.setTask task (.leased call forced lease .acquired) with
          conns := pool.conns ++ [lease.conn]
          openLock := none }
  | _, _ => none

/-! ### The attempt -/

def insertSender (pool : Pool) (task : TaskId) : Option Pool :=
  match pool.task task with
  | .leased call forced lease .acquired =>
      let conn := pool.conn lease.conn
      let sender := { owner := (task, forced), armed := true }
      some
        ((((pool.settle .dropped (conn.inflight.lookup lease.id)).setChan
          (task, forced) .pending).setConn lease.conn
            (conn.store lease.id sender)).setTask task
              (.leased call forced lease .ready))
  | _ => none

def lockWriter (pool : Pool) (task : TaskId) : Option Pool :=
  match pool.task task with
  | .leased call forced lease .ready =>
      match (pool.conn lease.conn).writer with
      | none =>
          some ((pool.setConn lease.conn
            { pool.conn lease.conn with writer := some task }).setTask task
              (.leased call forced lease .writing))
      | some _ => none
  | _ => none

/-- `write_all` succeeds with the whole frame or fails without it, and the
lock around the writer is given back. -/
def write (pool : Pool) (task : TaskId) (ok : Bool) : Option Pool :=
  match pool.task task with
  | .leased call forced lease .writing =>
      let conn := { pool.conn lease.conn with writer := none }
      if ok then
        let sent :=
          { owner := (task, forced)
            draw := lease.draw
            bytes := frame lease.id call.query
            answer := none }
        some ((pool.setConn lease.conn (conn.append sent)).setTask task
          (.leased call forced lease .written))
      else
        some ((pool.setConn lease.conn conn).setTask task
          (.leased call forced lease .writeError))
  | _ => none

def markDead (pool : Pool) (task : TaskId) : Option Pool :=
  match pool.task task with
  | .leased call forced lease .writeError =>
      some ((pool.setConn lease.conn
        { pool.conn lease.conn with alive := false }).setTask task
          (.leased call forced lease (.removing .write)))
  | _ => none

def touch (pool : Pool) (task : TaskId) : Option Pool :=
  match pool.task task with
  | .leased call forced lease .written =>
      some ((pool.setConn lease.conn
        { pool.conn lease.conn with lastUsed := pool.clock }).setTask task
          (.leased call forced lease .waiting))
  | _ => none

/-- The receiver is ready: a reply, or a closed channel. -/
def receive (pool : Pool) (task : TaskId) : Option Pool :=
  match pool.task task with
  | .leased call forced lease .waiting =>
      match pool.chan (task, forced) with
      | .pending => none
      | .answered body =>
          some (pool.setTask task
            (.conclude call forced (.ok (restoreId call.query body))))
      | .dropped =>
          some (pool.setTask task
            (.leased call forced lease (.removing .closed)))
  | _ => none

/-- `query_timeout` passes; a receiver that is ready goes first. -/
def expire (pool : Pool) (task : TaskId) : Option Pool :=
  match pool.task task with
  | .leased call forced lease .waiting =>
      match pool.chan (task, forced) with
      | .pending =>
          some (pool.setTask task
            (.leased call forced lease (.removing .timedOut)))
      | _ => none
  | _ => none

def remove (pool : Pool) (task : TaskId) : Option Pool :=
  match pool.task task with
  | .leased call forced lease (.removing error) =>
      let conn := pool.conn lease.conn
      some (((pool.settle .dropped (conn.inflight.lookup lease.id)).setConn
        lease.conn (conn.vacate lease.id)).setTask task
          (.conclude call forced error.outcome))
  | _ => none

/-! ### Switching the proxy -/

def storeProxy (pool : Pool) (proxy : ProxyConfig) : Option Pool :=
  some
    { pool with
      proxy := proxy
      epoch := pool.epoch + 1
      switches := (pool.epoch + 1) :: pool.switches }

/-- The rest of a `set_proxy` call, named by its store. -/
def clearConns (pool : Pool) (epoch : Nat) : Option Pool :=
  match pool.connsLock with
  | .free =>
      if epoch ∈ pool.switches then
        some
          { pool with
            conn := fun conn =>
              if conn ∈ pool.conns then
                { pool.conn conn with alive := false }
              else pool.conn conn
            conns := []
            completed := max pool.completed epoch
            switches := pool.switches.erase epoch }
      else none
  | _ => none

/-! ### Pruning -/

/-- `prune` reads the time before it waits for the lock. -/
def pruneLock (pool : Pool) (now : Nat) : Option Pool :=
  match pool.connsLock with
  | .free =>
      if now ≤ pool.clock then
        some { pool with connsLock := .prune now pool.conns none }
      else none
  | _ => none

/-- The turn of a connection; the map is visited in any order. -/
def pruneVisit (pool : Pool) (conn : ConnId) : Option Pool :=
  match pool.connsLock with
  | .prune now todo none =>
      if conn ∈ todo then
        if (pool.conn conn).alive then
          some { pool with connsLock := .prune now todo (some (.alive conn)) }
        else
          some
            { pool with
              conns := pool.conns.erase conn
              connsLock := .prune now (todo.erase conn) none }
      else none
  | _ => none

def pruneLast (pool : Pool) : Option Pool :=
  match pool.connsLock with
  | .prune now todo (some (.alive conn)) =>
      let last := (pool.conn conn).lastUsed
      some { pool with connsLock := .prune now todo (some (.used conn last)) }
  | _ => none

def pruneEmpty (pool : Pool) : Option Pool :=
  match pool.connsLock with
  | .prune now todo (some (.used conn last)) =>
      let empty := (pool.conn conn).inflight.keys.isEmpty
      some
        { pool with
          connsLock := .prune now todo (some (.inspected conn last empty)) }
  | _ => none

/-- `duration_since` saturates at zero. -/
def pruneDecide (pool : Pool) : Option Pool :=
  match pool.connsLock with
  | .prune now todo (some (.inspected conn last empty)) =>
      let lock := .prune now (todo.erase conn) none
      if empty && pool.idleTimeout < now - last then
        some
          { pool.setConn conn { pool.conn conn with alive := false } with
            conns := pool.conns.erase conn
            connsLock := lock }
      else some { pool with connsLock := lock }
  | _ => none

def pruneUnlock (pool : Pool) : Option Pool :=
  match pool.connsLock with
  | .prune _ [] none => some { pool with connsLock := .free }
  | _ => none

/-! ### The reader -/

def setReader (pool : Pool) (conn : ConnId) (state : ReaderState) : Pool :=
  pool.setConn conn { pool.conn conn with reader := state }

/-- The idle timeout passes; with queries in flight the loop goes on. -/
def readerIdle (pool : Pool) (conn : ConnId) : Option Pool :=
  match (pool.conn conn).reader with
  | .running =>
      if (pool.conn conn).inflight.keys.isEmpty then
        some (pool.setReader conn .stopping)
      else some pool
  | _ => none

/-- End of stream, a read error, or a length below two. -/
def readerStop (pool : Pool) (conn : ConnId) : Option Pool :=
  match (pool.conn conn).reader with
  | .running => some (pool.setReader conn .stopping)
  | _ => none

/-- Remove the sender of an identifier and give it the body. -/
def deliver (pool : Pool) (conn : ConnId) (id : UInt16) (body : Message) :
    Pool :=
  (pool.settle (.answered body) ((pool.conn conn).inflight.lookup id)).setConn
    conn ((pool.conn conn).vacate id)

/-- A whole frame; its length fits into the two bytes before it. -/
def readerFrame (pool : Pool) (conn : ConnId) (body : Message)
    (source : Option Nat) : Option Pool :=
  match (pool.conn conn).reader, messageId body with
  | .running, some id =>
      if body.length ≤ maxDnsMessage then
        match source with
        | none => some (pool.deliver conn id body)
        | some position =>
            match (pool.conn conn).sent[position]? with
            | some sent =>
                if sent.answer = none ∧ candidate sent.draw = id then
                  let pool := pool.deliver conn id body
                  some (pool.setConn conn
                    ((pool.conn conn).answer position body))
                else none
            | none => none
      else none
  | _, _ => none

def readerDead (pool : Pool) (conn : ConnId) : Option Pool :=
  match (pool.conn conn).reader with
  | .stopping =>
      some (pool.setConn conn
        { pool.conn conn with alive := false, reader := .clearing })
  | _ => none

/-- Clearing the map drops every sender in it. -/
def readerClear (pool : Pool) (conn : ConnId) : Option Pool :=
  match (pool.conn conn).reader with
  | .clearing =>
      some
        { pool.setConn conn
            { pool.conn conn with inflight := ∅, reader := .finished } with
          chan := fun owner =>
            if (pool.conn conn).inflight.entries.any fun entry =>
                entry.2 = { owner := owner, armed := true } then .dropped
            else pool.chan owner }
  | _ => none

def step (pool : Pool) : Event → Option Pool
  | .call task server query => pool.call task server query
  | .lockConns task => pool.lockConns task
  | .tryNext task => pool.tryNext task
  | .lockOpen task => pool.lockOpen task
  | .checkCap task => pool.checkCap task
  | .loadProxy task => pool.loadProxy task
  | .connect task ok => pool.connect task ok
  | .allocateFresh task => pool.allocateFresh task
  | .register task => pool.register task
  | .insertSender task => pool.insertSender task
  | .lockWriter task => pool.lockWriter task
  | .write task ok => pool.write task ok
  | .markDead task => pool.markDead task
  | .touch task => pool.touch task
  | .receive task => pool.receive task
  | .expire task => pool.expire task
  | .remove task => pool.remove task
  | .storeProxy proxy => pool.storeProxy proxy
  | .clearConns epoch => pool.clearConns epoch
  | .pruneLock now => pool.pruneLock now
  | .pruneVisit conn => pool.pruneVisit conn
  | .pruneLast => pool.pruneLast
  | .pruneEmpty => pool.pruneEmpty
  | .pruneDecide => pool.pruneDecide
  | .pruneUnlock => pool.pruneUnlock
  | .readerIdle conn => pool.readerIdle conn
  | .readerStop conn => pool.readerStop conn
  | .readerFrame conn body source => pool.readerFrame conn body source
  | .readerDead conn => pool.readerDead conn
  | .readerClear conn => pool.readerClear conn
  | .tick => some { pool with clock := pool.clock + 1 }

end Pool

/-! ## Values for the runs below -/

def exampleServer : SocketAddr :=
  .v4 (Ipv4Addr.ofOctets 1 1 1 1) 53

def exampleProxy : ProxyConfig :=
  { addr := .v4 (Ipv4Addr.ofOctets 127 0 0 1) 1080
    username := none
    password := none
    connectTimeoutSecs := defaultConnectTimeoutSecs
    tcpNodelay := true }

def exampleQuery : Message :=
  List.replicate 12 0

end Cortado.Dns
