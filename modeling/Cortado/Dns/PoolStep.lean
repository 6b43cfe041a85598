import Cortado.Dns.Pool

/-!
# What one step of the pool can do

`Stepped` lists every outcome of `Pool.step` with what must hold before it.
-/

namespace Cortado.Dns

open Net Multiplexer

theorem candidate_eq (draws : Nat) : candidate draws = UInt16.ofNat draws := by
  apply UInt16.toNat_inj.mp
  have mask : (0xFFFF : UInt64).toNat = 2 ^ 16 - 1 := rfl
  simp only [candidate, UInt64.toNat_toUInt16, UInt64.toNat_and,
    UInt64.toNat_ofNat', UInt16.toNat_ofNat', mask,
    Nat.and_two_pow_sub_one_eq_mod]
  omega

/-- The connection with an identifier given away. -/
def Conn.reserve (conn : Conn) (owner : AttemptId) (draw : Nat) : Conn :=
  { conn with draws := draw + 1 }.store (candidate draw)
    { owner := owner, armed := false }

theorem searchId_cases (inflight : Inflight) (fuel draws : Nat) :
    (∃ after, draws ≤ after ∧ searchId inflight fuel draws = (none, after)) ∨
      ∃ draw, draws ≤ draw ∧ inflight.lookup (candidate draw) = none ∧
        searchId inflight fuel draws = (some draw, draw + 1) := by
  induction fuel generalizing draws with
  | zero => exact Or.inl ⟨draws, Nat.le_refl _, rfl⟩
  | succ fuel induction =>
      by_cases taken : candidate draws ∈ inflight
      · simp only [searchId, if_pos taken]
        rcases induction (draws + 1) with ⟨after, advanced, searched⟩ |
            ⟨draw, advanced, vacant, searched⟩
        · exact Or.inl ⟨after, by omega, searched⟩
        · exact Or.inr ⟨draw, by omega, vacant, searched⟩
      · simp only [searchId, if_neg taken]
        exact Or.inr ⟨draws, Nat.le_refl _, AList.lookup_eq_none.mpr taken,
          rfl⟩

/-- `allocate_id` fails, maybe after some draws, or reserves the identifier
of its last draw. -/
theorem Conn.allocateId_cases (conn : Conn) (owner : AttemptId) :
    (∃ draws, conn.draws ≤ draws ∧
      conn.allocateId owner = (none, { conn with draws := draws })) ∨
    ∃ draw, conn.draws ≤ draw ∧
      conn.inflight.lookup (candidate draw) = none ∧
      conn.allocateId owner = (some draw, conn.reserve owner draw) := by
  unfold allocateId
  by_cases full : conn.inflight.keys.length ≥ maxInflightPerConn
  · rw [if_pos full]
    exact Or.inl ⟨conn.draws, Nat.le_refl _, rfl⟩
  · rw [if_neg full]
    rcases searchId_cases conn.inflight 65536 conn.draws with
      ⟨draws, advanced, searched⟩ | ⟨draw, advanced, vacant, searched⟩
    · exact Or.inl ⟨draws, advanced, by rw [searched]⟩
    · exact Or.inr ⟨draw, advanced, vacant, by rw [searched]; rfl⟩

namespace Pool

/-- The pool after an event, by what the event found. -/
inductive Stepped (pool : Pool) : Event → Pool → Prop
  | refused {task : TaskId} {server : SocketAddr} {query : Message}
      {error : ResolveError} (idle : pool.task task = .idle) :
      Stepped pool (.call task server query) (pool.setTask task
        (.done
          { server := server, query := query, since := pool.completed }
          (.error error)))
  | called {task : TaskId} {server : SocketAddr} {query : Message}
      (idle : pool.task task = .idle) (long : 12 ≤ query.length)
      (short : query.length ≤ maxDnsMessage) :
      Stepped pool (.call task server query) (pool.setTask task
        (.acquiring
          { server := server, query := query, since := pool.completed }
          false .reuse))
  | lockedConns {task : TaskId} {call : Call} {forced : Bool}
      {stage : Acquire} (free : pool.connsLock = .free)
      (acquiring : pool.task task = .acquiring call forced stage)
      (scans : stage = .reuse ∨ stage = .recheck) :
      Stepped pool (.lockConns task)
        { pool with
          conns := pool.retainAlive call.server
          connsLock := .reuse task
            ((pool.retainAlive call.server).filter fun conn =>
              (pool.conn conn).server = call.server) }
  | missed {task : TaskId} {call : Call} {forced : Bool}
      {stage after : Acquire} (locked : pool.connsLock = .reuse task [])
      (acquiring : pool.task task = .acquiring call forced stage)
      (moves : (stage = .reuse ∧ after = .waitOpen) ∨
        (stage = .recheck ∧ after = .checkCap)) :
      Stepped pool (.tryNext task)
        { pool.setTask task (.acquiring call forced after) with
          connsLock := .free }
  | full {task : TaskId} {call : Call} {forced : Bool} {stage : Acquire}
      {conn : ConnId} {rest : List ConnId} {draws : Nat}
      (locked : pool.connsLock = .reuse task (conn :: rest))
      (acquiring : pool.task task = .acquiring call forced stage)
      (advanced : (pool.conn conn).draws ≤ draws) :
      Stepped pool (.tryNext task)
        { pool.setConn conn { pool.conn conn with draws := draws } with
          connsLock := .reuse task rest }
  | hit {task : TaskId} {call : Call} {forced : Bool} {stage : Acquire}
      {conn : ConnId} {rest : List ConnId} {draw : Nat}
      (locked : pool.connsLock = .reuse task (conn :: rest))
      (acquiring : pool.task task = .acquiring call forced stage)
      (advanced : (pool.conn conn).draws ≤ draw)
      (vacant : (pool.conn conn).inflight.lookup (candidate draw) = none) :
      Stepped pool (.tryNext task)
        { (pool.setConn conn
            ((pool.conn conn).reserve (task, forced) draw)).setTask task
              (.leased call forced { conn := conn, draw := draw }
                .acquired) with
          connsLock := .free
          openLock := if stage.holdsOpen then none else pool.openLock }
  | lockedOpen {task : TaskId} {call : Call} {forced : Bool}
      (free : pool.openLock = none)
      (acquiring : pool.task task = .acquiring call forced .waitOpen) :
      Stepped pool (.lockOpen task)
        { pool.setTask task (.acquiring call forced
            (if forced then .opening else .recheck)) with
          openLock := some task }
  | capped {task : TaskId} {call : Call} {forced : Bool}
      (free : pool.connsLock = .free)
      (acquiring : pool.task task = .acquiring call forced .checkCap) :
      Stepped pool (.checkCap task)
        ({ pool with conns := pool.retainAlive call.server }.failOpen task
          call forced (.exhausted call.server))
  | roomy {task : TaskId} {call : Call} {forced : Bool}
      (free : pool.connsLock = .free)
      (acquiring : pool.task task = .acquiring call forced .checkCap)
      (room : ((pool.retainAlive call.server).filter fun conn =>
        (pool.conn conn).server = call.server).length < maxConnsPerTarget) :
      Stepped pool (.checkCap task)
        ({ pool with conns := pool.retainAlive call.server }.setTask task
          (.acquiring call forced .opening))
  | loaded {task : TaskId} {call : Call} {forced : Bool}
      (acquiring : pool.task task = .acquiring call forced .opening) :
      Stepped pool (.loadProxy task) (pool.setTask task
        (.acquiring call forced (.connecting pool.proxy pool.epoch)))
  | connected {task : TaskId} {call : Call} {forced : Bool}
      {proxy : ProxyConfig} {epoch : Nat}
      (acquiring : pool.task task =
        .acquiring call forced (.connecting proxy epoch)) :
      Stepped pool (.connect task true)
        { (pool.setConn pool.nextConn
            (Conn.fresh call.server proxy epoch pool.clock)).setTask task
              (.acquiring call forced (.fresh pool.nextConn)) with
          nextConn := pool.nextConn + 1 }
  | unreachable {task : TaskId} {call : Call} {forced : Bool}
      {proxy : ProxyConfig} {epoch : Nat}
      (acquiring : pool.task task =
        .acquiring call forced (.connecting proxy epoch)) :
      Stepped pool (.connect task false)
        (pool.failOpen task call forced .connect)
  | allocated {task : TaskId} {call : Call} {forced : Bool} {conn : ConnId}
      {draw : Nat}
      (acquiring : pool.task task = .acquiring call forced (.fresh conn))
      (advanced : (pool.conn conn).draws ≤ draw)
      (vacant : (pool.conn conn).inflight.lookup (candidate draw) = none) :
      Stepped pool (.allocateFresh task)
        ((pool.setConn conn
          ((pool.conn conn).reserve (task, forced) draw)).setTask task
            (.leased call forced { conn := conn, draw := draw } .register))
  | notAllocated {task : TaskId} {call : Call} {forced : Bool}
      {conn : ConnId} {draws : Nat}
      (acquiring : pool.task task = .acquiring call forced (.fresh conn))
      (advanced : (pool.conn conn).draws ≤ draws) :
      Stepped pool (.allocateFresh task)
        ((pool.setConn conn
          { pool.conn conn with draws := draws }).failOpen task call forced
            .rejected)
  | registered {task : TaskId} {call : Call} {forced : Bool} {lease : Lease}
      (free : pool.connsLock = .free)
      (leased : pool.task task = .leased call forced lease .register) :
      Stepped pool (.register task)
        { pool.setTask task (.leased call forced lease .acquired) with
          conns := pool.conns ++ [lease.conn]
          openLock := none }
  | armed {task : TaskId} {call : Call} {forced : Bool} {lease : Lease}
      (leased : pool.task task = .leased call forced lease .acquired) :
      Stepped pool (.insertSender task)
        ((((pool.settle .dropped
          ((pool.conn lease.conn).inflight.lookup lease.id)).setChan
            (task, forced) .pending).setConn lease.conn
              ((pool.conn lease.conn).store lease.id
                { owner := (task, forced), armed := true })).setTask task
                  (.leased call forced lease .ready))
  | lockedWriter {task : TaskId} {call : Call} {forced : Bool} {lease : Lease}
      (leased : pool.task task = .leased call forced lease .ready)
      (free : (pool.conn lease.conn).writer = none) :
      Stepped pool (.lockWriter task)
        ((pool.setConn lease.conn
          { pool.conn lease.conn with writer := some task }).setTask task
            (.leased call forced lease .writing))
  | wrote {task : TaskId} {call : Call} {forced : Bool} {lease : Lease}
      (leased : pool.task task = .leased call forced lease .writing) :
      Stepped pool (.write task true)
        ((pool.setConn lease.conn
          ({ pool.conn lease.conn with writer := none }.append
            { owner := (task, forced)
              draw := lease.draw
              bytes := frame lease.id call.query
              answer := none })).setTask task
                (.leased call forced lease .written))
  | unwritten {task : TaskId} {call : Call} {forced : Bool} {lease : Lease}
      (leased : pool.task task = .leased call forced lease .writing) :
      Stepped pool (.write task false)
        ((pool.setConn lease.conn
          { pool.conn lease.conn with writer := none }).setTask task
            (.leased call forced lease .writeError))
  | markedDead {task : TaskId} {call : Call} {forced : Bool} {lease : Lease}
      (leased : pool.task task = .leased call forced lease .writeError) :
      Stepped pool (.markDead task)
        ((pool.setConn lease.conn
          { pool.conn lease.conn with alive := false }).setTask task
            (.leased call forced lease (.removing .write)))
  | touched {task : TaskId} {call : Call} {forced : Bool} {lease : Lease}
      (leased : pool.task task = .leased call forced lease .written) :
      Stepped pool (.touch task)
        ((pool.setConn lease.conn
          { pool.conn lease.conn with lastUsed := pool.clock }).setTask task
            (.leased call forced lease .waiting))
  | received {task : TaskId} {call : Call} {forced : Bool} {lease : Lease}
      {body : Message}
      (leased : pool.task task = .leased call forced lease .waiting)
      (answered : pool.chan (task, forced) = .answered body) :
      Stepped pool (.receive task) (pool.setTask task
        (.done call (.ok (restoreId call.query body))))
  | disconnected {task : TaskId} {call : Call} {forced : Bool}
      {lease : Lease}
      (leased : pool.task task = .leased call forced lease .waiting)
      (dropped : pool.chan (task, forced) = .dropped) :
      Stepped pool (.receive task) (pool.setTask task
        (.leased call forced lease (.removing .closed)))
  | expired {task : TaskId} {call : Call} {forced : Bool} {lease : Lease}
      (leased : pool.task task = .leased call forced lease .waiting)
      (silent : pool.chan (task, forced) = .pending) :
      Stepped pool (.expire task) (pool.setTask task
        (.leased call forced lease (.removing .timedOut)))
  | removed {task : TaskId} {call : Call} {forced : Bool} {lease : Lease}
      {error : ResolveError}
      (leased : pool.task task =
        .leased call forced lease (.removing error)) :
      Stepped pool (.remove task)
        (((pool.settle .dropped
          ((pool.conn lease.conn).inflight.lookup lease.id)).setConn
            lease.conn ((pool.conn lease.conn).vacate lease.id)).setTask task
              (.conclude call forced error.outcome))
  | stored {proxy : ProxyConfig} :
      Stepped pool (.storeProxy proxy)
        { pool with
          proxy := proxy
          epoch := pool.epoch + 1
          switches := (pool.epoch + 1) :: pool.switches }
  | cleared {epoch : Nat} (free : pool.connsLock = .free)
      (switching : epoch ∈ pool.switches) :
      Stepped pool (.clearConns epoch)
        { pool with
          conn := fun conn =>
            if conn ∈ pool.conns then { pool.conn conn with alive := false }
            else pool.conn conn
          conns := []
          completed := max pool.completed epoch
          switches := pool.switches.erase epoch }
  | pruning {now : Nat} (free : pool.connsLock = .free) :
      Stepped pool (.pruneLock now)
        { pool with connsLock := .prune now pool.conns none }
  | pruned {conn : ConnId} {now : Nat} {todo : List ConnId}
      (locked : pool.connsLock = .prune now todo none)
      (member : conn ∈ todo) (dead : (pool.conn conn).alive = false) :
      Stepped pool (.pruneVisit conn)
        { pool with
          conns := pool.conns.erase conn
          connsLock := .prune now (todo.erase conn) none }
  | visited {conn : ConnId} {now : Nat} {todo : List ConnId}
      (locked : pool.connsLock = .prune now todo none)
      (member : conn ∈ todo) :
      Stepped pool (.pruneVisit conn)
        { pool with connsLock := .prune now todo (some (.alive conn)) }
  | lastRead {conn : ConnId} {now : Nat} {todo : List ConnId}
      (locked : pool.connsLock = .prune now todo (some (.alive conn))) :
      Stepped pool .pruneLast
        { pool with
          connsLock := .prune now todo
            (some (.used conn (pool.conn conn).lastUsed)) }
  | emptyRead {conn : ConnId} {now last : Nat} {todo : List ConnId}
      (locked : pool.connsLock = .prune now todo (some (.used conn last))) :
      Stepped pool .pruneEmpty
        { pool with
          connsLock := .prune now todo (some (.inspected conn last
            (pool.conn conn).inflight.keys.isEmpty)) }
  | evicted {conn : ConnId} {now last : Nat} {todo : List ConnId}
      (locked : pool.connsLock =
        .prune now todo (some (.inspected conn last true)))
      (idle : pool.idleTimeout < now - last) :
      Stepped pool .pruneDecide
        { pool.setConn conn { pool.conn conn with alive := false } with
          conns := pool.conns.erase conn
          connsLock := .prune now (todo.erase conn) none }
  | kept {conn : ConnId} {now last : Nat} {todo : List ConnId} {empty : Bool}
      (locked : pool.connsLock =
        .prune now todo (some (.inspected conn last empty))) :
      Stepped pool .pruneDecide
        { pool with connsLock := .prune now (todo.erase conn) none }
  | unlocked {now : Nat} (locked : pool.connsLock = .prune now [] none) :
      Stepped pool .pruneUnlock { pool with connsLock := .free }
  | notIdle {conn : ConnId} (running : (pool.conn conn).reader = .running) :
      Stepped pool (.readerIdle conn) pool
  | idled {conn : ConnId} (running : (pool.conn conn).reader = .running) :
      Stepped pool (.readerIdle conn) (pool.setReader conn .stopping)
  | stopped {conn : ConnId} (running : (pool.conn conn).reader = .running) :
      Stepped pool (.readerStop conn) (pool.setReader conn .stopping)
  | strayed {conn : ConnId} {body : Message} {id : UInt16}
      (running : (pool.conn conn).reader = .running)
      (identified : messageId body = some id) :
      Stepped pool (.readerFrame conn body none) (pool.deliver conn id body)
  | answered {conn : ConnId} {body : Message} {position : Nat}
      {sent : SentFrame} (running : (pool.conn conn).reader = .running)
      (found : (pool.conn conn).sent[position]? = some sent)
      (unanswered : sent.answer = none)
      (identified : messageId body = some (candidate sent.draw)) :
      Stepped pool (.readerFrame conn body (some position))
        ((pool.deliver conn (candidate sent.draw) body).setConn conn
          (((pool.conn conn).vacate (candidate sent.draw)).answer position
            body))
  | died {conn : ConnId} (stopping : (pool.conn conn).reader = .stopping) :
      Stepped pool (.readerDead conn) (pool.setConn conn
        { pool.conn conn with alive := false, reader := .clearing })
  | cleaned {conn : ConnId} (clearing : (pool.conn conn).reader = .clearing) :
      Stepped pool (.readerClear conn)
        { pool.setConn conn
            { pool.conn conn with inflight := ∅, reader := .finished } with
          chan := fun owner =>
            if (pool.conn conn).inflight.entries.any fun entry =>
                entry.2 = { owner := owner, armed := true } then .dropped
            else pool.chan owner }
  | ticked : Stepped pool .tick { pool with clock := pool.clock + 1 }

variable {pool next : Pool}

theorem stepped_call {task : TaskId} {server : SocketAddr} {query : Message}
    (stepped : pool.call task server query = some next) :
    Stepped pool (.call task server query) next := by
  unfold call at stepped
  split at stepped
  · rename_i idle
    by_cases short : query.length < 12
    · simp only [if_pos short, Option.some.injEq] at stepped
      subst stepped
      exact .refused idle
    · by_cases large : query.length > maxDnsMessage
      · simp only [if_neg short, if_pos large, Option.some.injEq] at stepped
        subst stepped
        exact .refused idle
      · simp only [if_neg short, if_neg large, Option.some.injEq] at stepped
        subst stepped
        exact .called idle (by omega) (by omega)
  · cases stepped

theorem stepped_lockConns {task : TaskId}
    (stepped : pool.lockConns task = some next) :
    Stepped pool (.lockConns task) next := by
  unfold lockConns at stepped
  split at stepped
  · rename_i free acquiring
    cases stepped
    exact .lockedConns free acquiring (Or.inl rfl)
  · rename_i free acquiring
    cases stepped
    exact .lockedConns free acquiring (Or.inr rfl)
  · cases stepped

theorem stepped_tryNext {task : TaskId}
    (stepped : pool.tryNext task = some next) :
    Stepped pool (.tryNext task) next := by
  unfold tryNext at stepped
  split at stepped
  · rename_i holder rest call forced stage locked acquiring
    by_cases own : holder = task
    · subst own
      rw [if_pos rfl] at stepped
      cases rest with
      | nil =>
          cases stage with
          | reuse =>
              cases stepped
              exact .missed locked acquiring (Or.inl ⟨rfl, rfl⟩)
          | recheck =>
              cases stepped
              exact .missed locked acquiring (Or.inr ⟨rfl, rfl⟩)
          | _ => cases stepped
      | cons conn rest =>
          rcases (pool.conn conn).allocateId_cases (holder, forced) with
            ⟨draws, advanced, tried⟩ | ⟨draw, advanced, vacant, taken⟩
          · simp only [tried, Option.some.injEq] at stepped
            subst stepped
            exact .full locked acquiring advanced
          · simp only [taken, Option.some.injEq] at stepped
            subst stepped
            exact .hit locked acquiring advanced vacant
    · rw [if_neg own] at stepped
      cases stepped
  · cases stepped

theorem stepped_checkCap {task : TaskId}
    (stepped : pool.checkCap task = some next) :
    Stepped pool (.checkCap task) next := by
  unfold checkCap at stepped
  split at stepped
  · rename_i call forced free acquiring
    dsimp only at stepped
    split at stepped
    · cases stepped
      exact .capped free acquiring
    · rename_i room
      cases stepped
      exact .roomy free acquiring (Nat.lt_of_not_le room)
  · cases stepped

theorem stepped_allocateFresh {task : TaskId}
    (stepped : pool.allocateFresh task = some next) :
    Stepped pool (.allocateFresh task) next := by
  unfold allocateFresh at stepped
  split at stepped
  · rename_i call forced conn acquiring
    rcases (pool.conn conn).allocateId_cases (task, forced) with
      ⟨draws, advanced, tried⟩ | ⟨draw, advanced, vacant, taken⟩
    · simp only [tried, Option.some.injEq] at stepped
      subst stepped
      exact .notAllocated acquiring advanced
    · simp only [taken, Option.some.injEq] at stepped
      subst stepped
      exact .allocated acquiring advanced vacant
  · cases stepped

theorem stepped_receive {task : TaskId}
    (stepped : pool.receive task = some next) :
    Stepped pool (.receive task) next := by
  unfold receive at stepped
  split at stepped
  · rename_i call forced lease leased
    split at stepped
    · cases stepped
    · rename_i body answered
      cases stepped
      exact .received leased answered
    · rename_i dropped
      cases stepped
      exact .disconnected leased dropped
  · cases stepped

theorem stepped_pruneVisit {conn : ConnId}
    (stepped : pool.pruneVisit conn = some next) :
    Stepped pool (.pruneVisit conn) next := by
  unfold pruneVisit at stepped
  split at stepped
  · rename_i now todo locked
    split at stepped
    · rename_i member
      split at stepped
      · cases stepped
        exact .visited locked member
      · rename_i dead
        cases stepped
        exact .pruned locked member (Bool.eq_false_iff.mpr dead)
    · cases stepped
  · cases stepped

theorem stepped_pruneDecide (stepped : pool.pruneDecide = some next) :
    Stepped pool .pruneDecide next := by
  unfold pruneDecide at stepped
  split at stepped
  · rename_i now todo conn last empty locked
    by_cases evicts : (empty && decide (pool.idleTimeout < now - last)) = true
    · simp only [if_pos evicts, Option.some.injEq] at stepped
      subst stepped
      simp only [Bool.and_eq_true, decide_eq_true_eq] at evicts
      obtain ⟨rfl, idle⟩ := evicts
      exact .evicted locked idle
    · simp only [if_neg evicts, Option.some.injEq] at stepped
      subst stepped
      exact .kept locked
  · cases stepped

theorem stepped_readerFrame {conn : ConnId} {body : Message}
    {source : Option Nat}
    (stepped : pool.readerFrame conn body source = some next) :
    Stepped pool (.readerFrame conn body source) next := by
  unfold readerFrame at stepped
  split at stepped
  · rename_i id running identified
    split at stepped
    · cases source with
      | none =>
          cases stepped
          exact .strayed running identified
      | some position =>
          simp only at stepped
          split at stepped
          · rename_i sent found
            split at stepped
            · rename_i answers
              obtain ⟨unanswered, rfl⟩ := answers
              cases stepped
              have answered := Stepped.answered running found unanswered
                identified
              simpa [deliver, setConn] using answered
            · cases stepped
          · cases stepped
    · cases stepped
  · cases stepped

/-- A step on an event is one of the listed outcomes. -/
theorem stepped_of_step {event : Event}
    (stepped : pool.step event = some next) : Stepped pool event next := by
  cases event with
  | call task server query => exact stepped_call stepped
  | lockConns task => exact stepped_lockConns stepped
  | tryNext task => exact stepped_tryNext stepped
  | lockOpen task =>
      simp only [step, lockOpen] at stepped
      split at stepped <;> cases stepped
      exact .lockedOpen ‹_› ‹_›
  | checkCap task => exact stepped_checkCap stepped
  | loadProxy task =>
      simp only [step, loadProxy] at stepped
      split at stepped <;> cases stepped
      exact .loaded ‹_›
  | connect task ok =>
      simp only [step, connect] at stepped
      cases ok <;> split at stepped <;> cases stepped
      · exact .unreachable ‹_›
      · exact .connected ‹_›
  | allocateFresh task => exact stepped_allocateFresh stepped
  | register task =>
      simp only [step, register] at stepped
      split at stepped <;> cases stepped
      exact .registered ‹_› ‹_›
  | insertSender task =>
      simp only [step, insertSender] at stepped
      split at stepped <;> cases stepped
      exact .armed ‹_›
  | lockWriter task =>
      simp only [step, lockWriter] at stepped
      split at stepped
      · split at stepped <;> cases stepped
        exact .lockedWriter ‹_› ‹_›
      · cases stepped
  | write task ok =>
      simp only [step, write] at stepped
      cases ok <;> split at stepped <;> cases stepped
      · exact .unwritten ‹_›
      · exact .wrote ‹_›
  | markDead task =>
      simp only [step, markDead] at stepped
      split at stepped <;> cases stepped
      exact .markedDead ‹_›
  | touch task =>
      simp only [step, touch] at stepped
      split at stepped <;> cases stepped
      exact .touched ‹_›
  | receive task => exact stepped_receive stepped
  | expire task =>
      simp only [step, expire] at stepped
      split at stepped
      · split at stepped <;> cases stepped
        exact .expired ‹_› ‹_›
      · cases stepped
  | remove task =>
      simp only [step, remove] at stepped
      split at stepped <;> cases stepped
      exact .removed ‹_›
  | storeProxy proxy =>
      cases stepped
      exact .stored
  | clearConns epoch =>
      simp only [step, clearConns] at stepped
      split at stepped
      · split at stepped <;> cases stepped
        exact .cleared ‹_› ‹_›
      · cases stepped
  | pruneLock now =>
      simp only [step, pruneLock] at stepped
      split at stepped
      · split at stepped <;> cases stepped
        exact .pruning ‹_›
      · cases stepped
  | pruneVisit conn => exact stepped_pruneVisit stepped
  | pruneLast =>
      simp only [step, pruneLast] at stepped
      split at stepped <;> cases stepped
      exact .lastRead ‹_›
  | pruneEmpty =>
      simp only [step, pruneEmpty] at stepped
      split at stepped <;> cases stepped
      exact .emptyRead ‹_›
  | pruneDecide => exact stepped_pruneDecide stepped
  | pruneUnlock =>
      simp only [step, pruneUnlock] at stepped
      split at stepped <;> cases stepped
      exact .unlocked ‹_›
  | readerIdle conn =>
      simp only [step, readerIdle] at stepped
      split at stepped
      · split at stepped <;> cases stepped
        · exact .idled ‹_›
        · exact .notIdle ‹_›
      · cases stepped
  | readerStop conn =>
      simp only [step, readerStop] at stepped
      split at stepped <;> cases stepped
      exact .stopped ‹_›
  | readerFrame conn body source => exact stepped_readerFrame stepped
  | readerDead conn =>
      simp only [step, readerDead] at stepped
      split at stepped <;> cases stepped
      exact .died ‹_›
  | readerClear conn =>
      simp only [step, readerClear] at stepped
      split at stepped <;> cases stepped
      exact .cleaned ‹_›
  | tick =>
      cases stepped
      exact .ticked

end Pool

end Cortado.Dns
