import Cortado.Lib.Transition
import Cortado.Dns.PoolStep

/-!
# Who holds which connection and which lock

`WellFormed` collects what every interleaving keeps: connections exist before
anybody holds them, the two locks have the holders that believe to have them,
and a connection that is being opened is in nobody's bucket.
-/

namespace Cortado.Dns

open Multiplexer Transition

namespace Task

def call? : Task → Option Call
  | .idle => none
  | .acquiring call _ _ | .leased call _ _ _ | .done call _ => some call

def conn? : Task → Option ConnId
  | .acquiring _ _ (.fresh conn) => some conn
  | .leased _ _ lease _ => some lease.conn
  | _ => none

/-- The task holds the lock for opening. -/
def holdsOpen : Task → Bool
  | .acquiring _ _ stage => stage.holdsOpen
  | .leased _ _ _ .register => true
  | _ => false

/-- The task may hold the lock around `conns`. -/
def scans : Task → Bool
  | .acquiring _ _ .reuse | .acquiring _ _ .recheck => true
  | _ => false

@[simp] theorem call?_conclude (call : Call) (forced : Bool)
    (outcome : Outcome) : (conclude call forced outcome).call? = some call := by
  cases outcome <;> cases forced <;> rfl

@[simp] theorem conn?_conclude (call : Call) (forced : Bool)
    (outcome : Outcome) : (conclude call forced outcome).conn? = none := by
  cases outcome <;> cases forced <;> rfl

@[simp] theorem holdsOpen_conclude (call : Call) (forced : Bool)
    (outcome : Outcome) :
    (conclude call forced outcome).holdsOpen = false := by
  cases outcome <;> cases forced <;> rfl

end Task

def PruneVisit.conn : PruneVisit → ConnId
  | .alive conn | .used conn _ | .inspected conn _ _ => conn

/-- A connection that was never opened. -/
structure Conn.Unborn (conn : Conn) : Prop where
  inflight : conn.inflight = ∅
  draws : conn.draws = 0
  sent : conn.sent = []
  reader : conn.reader = .finished

namespace Pool

@[simp] theorem setTask_task (pool : Pool) (task : TaskId) (value : Task) :
    (pool.setTask task value).task = Function.update pool.task task value :=
  rfl

@[simp] theorem setConn_conn (pool : Pool) (conn : ConnId) (value : Conn) :
    (pool.setConn conn value).conn = Function.update pool.conn conn value :=
  rfl

theorem settle_chan (pool : Pool) (reply : Reply Message)
    (sender : Option Sender) (owner : AttemptId) :
    (pool.settle reply sender).chan owner =
      if sender = some { owner := owner, armed := true } then reply
      else pool.chan owner := by
  unfold settle
  split
  · rename_i holder
    by_cases same : owner = holder
    · simp [setChan, same]
    · simp [setChan, same, Ne.symm same]
  · rename_i notArmed
    rw [if_neg (notArmed owner)]

theorem settle_eq (pool : Pool) (reply : Reply Message)
    (sender : Option Sender) :
    pool.settle reply sender =
      { pool with chan := (pool.settle reply sender).chan } := by
  unfold settle
  split <;> rfl

@[simp] theorem settle_task (pool : Pool) (reply : Reply Message)
    (sender : Option Sender) :
    (pool.settle reply sender).task = pool.task := by
  rw [settle_eq]

@[simp] theorem settle_conn (pool : Pool) (reply : Reply Message)
    (sender : Option Sender) :
    (pool.settle reply sender).conn = pool.conn := by
  rw [settle_eq]

@[simp] theorem settle_nextConn (pool : Pool) (reply : Reply Message)
    (sender : Option Sender) :
    (pool.settle reply sender).nextConn = pool.nextConn := by
  rw [settle_eq]

@[simp] theorem settle_conns (pool : Pool) (reply : Reply Message)
    (sender : Option Sender) :
    (pool.settle reply sender).conns = pool.conns := by
  rw [settle_eq]

@[simp] theorem settle_connsLock (pool : Pool) (reply : Reply Message)
    (sender : Option Sender) :
    (pool.settle reply sender).connsLock = pool.connsLock := by
  rw [settle_eq]

/-- The scan of `try_reuse` by the task that holds the lock. -/
def Scanning (pool : Pool) (holder : TaskId) (rest : List ConnId) : Prop :=
  ∃ call forced stage, pool.task holder = .acquiring call forced stage ∧
    (stage = .reuse ∨ stage = .recheck) ∧
    ∀ conn ∈ rest, conn ∈ pool.conns ∧ (pool.conn conn).server = call.server

/-- What the holder of the lock around `conns` relies on. -/
def LockOk (pool : Pool) : ConnsLock → Prop
  | .free => True
  | .reuse holder rest => pool.Scanning holder rest
  | .prune _ todo visit =>
      todo.Nodup ∧ (∀ conn ∈ todo, conn ∈ pool.conns) ∧
        ∀ looking, visit = some looking → looking.conn ∈ todo

theorem LockOk.congr {pool next : Pool} {lock : ConnsLock}
    (ok : pool.LockOk lock) (tasks : next.task = pool.task)
    (conns : next.conns = pool.conns)
    (servers : ∀ conn ∈ pool.conns,
      (next.conn conn).server = (pool.conn conn).server) :
    next.LockOk lock := by
  cases lock with
  | free => trivial
  | reuse holder rest =>
      obtain ⟨call, forced, stage, acquiring, scans, stored⟩ := ok
      refine ⟨call, forced, stage, tasks ▸ acquiring, scans, ?_⟩
      intro conn member
      obtain ⟨inMap, serves⟩ := stored conn member
      exact ⟨conns ▸ inMap, (servers conn inMap).trans serves⟩
  | prune now todo visit =>
      obtain ⟨nodup, stored, looking⟩ := ok
      exact ⟨nodup, conns ▸ stored, looking⟩

structure WellFormed (pool : Pool) : Prop where
  nodup : pool.conns.Nodup
  pooled : ∀ {conn}, conn ∈ pool.conns → conn < pool.nextConn
  held : ∀ {task conn}, (pool.task task).conn? = some conn →
    conn < pool.nextConn
  unborn : ∀ {conn}, pool.nextConn ≤ conn → (pool.conn conn).Unborn
  served : ∀ {task conn call}, (pool.task task).conn? = some conn →
    (pool.task task).call? = some call →
      (pool.conn conn).server = call.server
  opener : ∀ {task}, (pool.task task).holdsOpen = true →
    pool.openLock = some task
  apart : ∀ {task conn}, (pool.task task).holdsOpen = true →
    (pool.task task).conn? = some conn → conn ∉ pool.conns
  lock : pool.LockOk pool.connsLock

theorem wellFormed_new (proxy : ProxyConfig) (idleTimeout : Nat) :
    (new proxy idleTimeout).WellFormed where
  nodup := List.nodup_nil
  pooled := by
    intro conn member
    cases member
  held := by
    intro task conn holds
    cases holds
  unborn := by
    intro conn _
    exact ⟨rfl, rfl, rfl, rfl⟩
  served := by
    intro task conn call holds
    cases holds
  opener := by
    intro task holds
    cases holds
  apart := by
    intro task conn holds
    cases holds
  lock := trivial

theorem not_reuse_of_free {pool : Pool} (free : pool.connsLock = .free)
    {task : TaskId} (rest : List ConnId) :
    pool.connsLock ≠ .reuse task rest := by
  rw [free]
  exact ConnsLock.noConfusion

namespace WellFormed

variable {pool : Pool} (wellFormed : pool.WellFormed)

include wellFormed

/-- Fields that no clause of the invariant mentions. -/
theorem setOthers (proxy : ProxyConfig) (chan : AttemptId → Reply Message)
    (clock epoch completed : Nat) (switches : List Nat) :
    WellFormed
      { pool with
        proxy := proxy
        chan := chan
        clock := clock
        epoch := epoch
        completed := completed
        switches := switches } where
  nodup := wellFormed.nodup
  pooled := wellFormed.pooled
  held := wellFormed.held
  unborn := wellFormed.unborn
  served := wellFormed.served
  opener := wellFormed.opener
  apart := wellFormed.apart
  lock := wellFormed.lock.congr rfl rfl fun _ _ => rfl

theorem settle (reply : Reply Message) (sender : Option Sender) :
    (pool.settle reply sender).WellFormed := by
  rw [settle_eq]
  exact wellFormed.setOthers _ _ _ _ _ _

theorem setChan (owner : AttemptId) (reply : Reply Message) :
    (pool.setChan owner reply).WellFormed :=
  wellFormed.setOthers _ _ _ _ _ _

/-- The records of existing connections may change, but not the server. -/
theorem setConns (conns : ConnId → Conn)
    (server : ∀ conn, (conns conn).server = (pool.conn conn).server)
    (unborn : ∀ conn, pool.nextConn ≤ conn → conns conn = pool.conn conn) :
    WellFormed { pool with conn := conns } where
  nodup := wellFormed.nodup
  pooled := wellFormed.pooled
  held := wellFormed.held
  unborn := by
    intro conn late
    change (conns conn).Unborn
    rw [unborn conn late]
    exact wellFormed.unborn late
  served := by
    intro task conn call holds calls
    exact (server conn).trans (wellFormed.served holds calls)
  opener := wellFormed.opener
  apart := wellFormed.apart
  lock := wellFormed.lock.congr rfl rfl fun conn _ => server conn

theorem setConn (conn : ConnId) (value : Conn)
    (server : value.server = (pool.conn conn).server)
    (born : conn < pool.nextConn) : (pool.setConn conn value).WellFormed := by
  apply wellFormed.setConns
  · intro other
    by_cases same : other = conn
    · subst same
      simpa using server
    · simp [same]
  · intro other late
    have different : other ≠ conn :=
      Nat.ne_of_gt (Nat.lt_of_lt_of_le born late)
    simp [different]

theorem notScanning {task : TaskId} {before : Task}
    (acting : pool.task task = before) (other : before.scans = false)
    (rest : List ConnId) : pool.connsLock ≠ .reuse task rest := by
  intro locked
  have lock := wellFormed.lock
  rw [locked] at lock
  obtain ⟨call, forced, stage, acquiring, scans, _⟩ := lock
  rw [← acting, acquiring] at other
  rcases scans with rfl | rfl <;> cases other

theorem born_of_reader {conn : ConnId}
    (reading : (pool.conn conn).reader ≠ .finished) :
    conn < pool.nextConn := by
  by_contra late
  exact reading (wellFormed.unborn (Nat.le_of_not_lt late)).reader

theorem born_of_sent {conn : ConnId} {sent : SentFrame}
    (member : sent ∈ (pool.conn conn).sent) : conn < pool.nextConn := by
  by_contra late
  rw [(wellFormed.unborn (Nat.le_of_not_lt late)).sent] at member
  cases member

/-- A task that does not hold the lock around `conns` changes its state. -/
theorem setTask (task : TaskId) (value : Task)
    (conn : ∀ conn, value.conn? = some conn → conn < pool.nextConn ∧
      ∀ call, value.call? = some call → (pool.conn conn).server = call.server)
    (opener : value.holdsOpen = true → pool.openLock = some task ∧
      ∀ conn, value.conn? = some conn → conn ∉ pool.conns)
    (notScanning : ∀ rest, pool.connsLock ≠ .reuse task rest) :
    (pool.setTask task value).WellFormed where
  nodup := wellFormed.nodup
  pooled := wellFormed.pooled
  held := by
    intro other held holds
    by_cases same : other = task
    · simp only [setTask_task, same, Function.update_self] at holds
      exact (conn held holds).1
    · simp only [setTask_task, Function.update_of_ne same] at holds
      exact wellFormed.held holds
  unborn := wellFormed.unborn
  served := by
    intro other held call holds calls
    by_cases same : other = task
    · simp only [setTask_task, same, Function.update_self] at holds calls
      exact (conn held holds).2 call calls
    · simp only [setTask_task, Function.update_of_ne same] at holds calls
      exact wellFormed.served holds calls
  opener := by
    intro other holds
    by_cases same : other = task
    · simp only [setTask_task, same, Function.update_self] at holds
      rw [same]
      exact (opener holds).1
    · simp only [setTask_task, Function.update_of_ne same] at holds
      exact wellFormed.opener holds
  apart := by
    intro other held holds holdsConn
    by_cases same : other = task
    · simp only [setTask_task, same, Function.update_self] at holds holdsConn
      exact (opener holds).2 held holdsConn
    · simp only [setTask_task, Function.update_of_ne same] at holds holdsConn
      exact wellFormed.apart holds holdsConn
  lock := by
    have lock := wellFormed.lock
    change (pool.setTask task value).LockOk pool.connsLock
    cases held : pool.connsLock with
    | free => trivial
    | reuse holder rest =>
        rw [held] at lock
        obtain ⟨call, forced, stage, acquiring, scan⟩ := lock
        have different : holder ≠ task := by
          intro same
          subst same
          exact notScanning rest held
        refine ⟨call, forced, stage, ?_, scan⟩
        simpa [Function.update_of_ne different] using acquiring
    | prune now todo visit =>
        rw [held] at lock
        exact lock

/-- The lock around `conns` moves on, maybe with fewer connections stored. -/
theorem setLock (conns : List ConnId) (lock : ConnsLock)
    (fewer : conns.Sublist pool.conns)
    (ok : LockOk { pool with conns := conns } lock) :
    WellFormed { pool with conns := conns, connsLock := lock } where
  nodup := wellFormed.nodup.sublist fewer
  pooled := fun member => wellFormed.pooled (fewer.subset member)
  held := wellFormed.held
  unborn := wellFormed.unborn
  served := wellFormed.served
  opener := wellFormed.opener
  apart := fun holds holdsConn stored =>
    wellFormed.apart holds holdsConn (fewer.subset stored)
  lock := by
    change LockOk { pool with conns := conns, connsLock := lock } lock
    cases lock with
    | free => trivial
    | reuse holder rest => exact ok
    | prune now todo visit => exact ok

/-- The holder of the lock for opening releases it. -/
theorem releaseOpen (task : TaskId)
    (held : pool.openLock = some task)
    (released : (pool.task task).holdsOpen = false) :
    WellFormed { pool with openLock := none } where
  nodup := wellFormed.nodup
  pooled := wellFormed.pooled
  held := wellFormed.held
  unborn := wellFormed.unborn
  served := wellFormed.served
  opener := by
    intro other holds
    have owner := wellFormed.opener holds
    rw [held] at owner
    cases owner
    rw [released] at holds
    cases holds
  apart := wellFormed.apart
  lock := wellFormed.lock.congr rfl rfl fun _ _ => rfl

/-- The lock for opening is taken while it is free. -/
theorem takeOpen (task : TaskId) (free : pool.openLock = none) :
    WellFormed { pool with openLock := some task } where
  nodup := wellFormed.nodup
  pooled := wellFormed.pooled
  held := wellFormed.held
  unborn := wellFormed.unborn
  served := wellFormed.served
  opener := by
    intro other holds
    have owner := wellFormed.opener holds
    rw [free] at owner
    cases owner
  apart := wellFormed.apart
  lock := wellFormed.lock.congr rfl rfl fun _ _ => rfl

theorem failOpen {task : TaskId} {before : Task}
    (acting : pool.task task = before) (holds : before.holdsOpen = true)
    (notScanning : ∀ rest, pool.connsLock ≠ .reuse task rest) (call : Call)
    (forced : Bool) (error : ResolveError) :
    (pool.failOpen task call forced error).WellFormed := by
  have concluded : (pool.setTask task
      (.conclude call forced (.retry error))).WellFormed := by
    apply wellFormed.setTask _ _ _ _ notScanning
    · intro conn holdsConn
      simp at holdsConn
    · intro holdsOpen
      simp at holdsOpen
  subst acting
  apply concluded.releaseOpen task (wellFormed.opener holds)
  simp

/-- A connection comes into being. -/
theorem born (value : Conn) :
    WellFormed
      { pool.setConn pool.nextConn value with
        nextConn := pool.nextConn + 1 } := by
  have older : ∀ {conn}, conn < pool.nextConn →
      (pool.setConn pool.nextConn value).conn conn = pool.conn conn := by
    intro conn before
    simp [Function.update_of_ne (Nat.ne_of_lt before)]
  refine
    { nodup := wellFormed.nodup
      pooled := fun member => Nat.lt_succ_of_lt (wellFormed.pooled member)
      held := fun holds => Nat.lt_succ_of_lt (wellFormed.held holds)
      unborn := ?_
      served := ?_
      opener := wellFormed.opener
      apart := wellFormed.apart
      lock := ?_ }
  · intro conn late
    have different : conn ≠ pool.nextConn := Nat.ne_of_gt late
    simp only [setConn_conn, Function.update_of_ne different]
    exact wellFormed.unborn (Nat.le_of_succ_le late)
  · intro task conn call holds calls
    change ((pool.setConn pool.nextConn value).conn conn).server = _
    rw [older (wellFormed.held holds)]
    exact wellFormed.served holds calls
  · refine wellFormed.lock.congr ?_ ?_ ?_
    · rfl
    · rfl
    intro conn member
    exact congrArg Conn.server (older (wellFormed.pooled member))

/-- A connection that nobody is opening any more is stored. -/
theorem push {conn : ConnId} (free : pool.connsLock = .free)
    (closed : pool.openLock = none) (absent : conn ∉ pool.conns)
    (opened : conn < pool.nextConn) :
    WellFormed { pool with conns := pool.conns ++ [conn] } where
  nodup := by
    apply List.nodup_append.mpr
    refine ⟨wellFormed.nodup, by simp, ?_⟩
    intro stored member other isConn same
    simp only [List.mem_singleton] at isConn
    subst same isConn
    exact absent member
  pooled := by
    intro stored member
    rcases List.mem_append.mp member with before | isConn
    · exact wellFormed.pooled before
    · simp only [List.mem_singleton] at isConn
      subst isConn
      exact opened
  held := wellFormed.held
  unborn := wellFormed.unborn
  served := wellFormed.served
  opener := wellFormed.opener
  apart := by
    intro task held holds
    have owner := wellFormed.opener holds
    rw [closed] at owner
    cases owner
  lock := by
    change LockOk _ pool.connsLock
    rw [free]
    trivial

/-- A task without connection and without the lock for opening. -/
theorem setTask_bare {task : TaskId} {value : Task}
    (noConn : value.conn? = none) (notOpen : value.holdsOpen = false)
    (notScanning : ∀ rest, pool.connsLock ≠ .reuse task rest) :
    (pool.setTask task value).WellFormed := by
  apply wellFormed.setTask _ _ _ _ notScanning
  · intro conn holds
    rw [noConn] at holds
    cases holds
  · intro holds
    rw [notOpen] at holds
    cases holds

/-- A task that opens a connection goes on without one. -/
theorem setTask_opening {task : TaskId} {before value : Task}
    (acting : pool.task task = before) (holds : before.holdsOpen = true)
    (noConn : value.conn? = none)
    (notScanning : ∀ rest, pool.connsLock ≠ .reuse task rest) :
    (pool.setTask task value).WellFormed := by
  subst acting
  apply wellFormed.setTask _ _ _ _ notScanning
  · intro conn holdsConn
    rw [noConn] at holdsConn
    cases holdsConn
  · intro _
    refine ⟨wellFormed.opener holds, ?_⟩
    intro conn holdsConn
    rw [noConn] at holdsConn
    cases holdsConn

/-- An attempt goes on with its lease. -/
theorem setTask_leased {task : TaskId} {call : Call} {forced : Bool}
    {lease : Lease} {progress after : Progress}
    (leased : pool.task task = .leased call forced lease progress)
    (notOpen : (Task.leased call forced lease after).holdsOpen = false) :
    (pool.setTask task (.leased call forced lease after)).WellFormed := by
  have holdsConn : (pool.task task).conn? = some lease.conn := by
    rw [leased]
    rfl
  apply wellFormed.setTask
  · rintro conn ⟨⟩
    refine ⟨wellFormed.held holdsConn, ?_⟩
    rintro call ⟨⟩
    apply wellFormed.served holdsConn
    rw [leased]
    rfl
  · intro holds
    rw [notOpen] at holds
    cases holds
  · exact wellFormed.notScanning leased rfl

theorem retainAlive (server : Net.SocketAddr)
    (free : pool.connsLock = .free) :
    WellFormed { pool with conns := pool.retainAlive server } := by
  have kept := wellFormed.setLock (pool.retainAlive server) .free
    List.filter_sublist trivial
  rw [← free] at kept
  exact kept

theorem hit {task : TaskId} {call : Call} {forced : Bool} {stage : Acquire}
    {conn : ConnId} {rest : List ConnId} {draw : Nat}
    (locked : pool.connsLock = .reuse task (conn :: rest))
    (acquiring : pool.task task = .acquiring call forced stage) :
    WellFormed
      { (pool.setConn conn
          ((pool.conn conn).reserve (task, forced) draw)).setTask task
            (.leased call forced { conn := conn, draw := draw }
              .acquired) with
        connsLock := .free
        openLock := if stage.holdsOpen then none else pool.openLock } := by
  have lock := wellFormed.lock
  rw [locked] at lock
  obtain ⟨_, _, _, scanning, scans, stored⟩ := lock
  rw [acquiring] at scanning
  cases scanning
  obtain ⟨inMap, serves⟩ := stored conn (by simp)
  have freed : WellFormed { pool with connsLock := .free } :=
    wellFormed.setLock _ _ (List.Sublist.refl _) trivial
  have reserved := freed.setConn conn
    ((pool.conn conn).reserve (task, forced) draw) rfl
    (wellFormed.pooled inMap)
  have leased := reserved.setTask task
    (.leased call forced { conn := conn, draw := draw } .acquired)
    (by
      rintro held ⟨⟩
      refine ⟨wellFormed.pooled inMap, ?_⟩
      rintro called ⟨⟩
      simpa [Conn.reserve, Conn.store] using serves)
    (by
      intro holds
      cases holds)
    (by
      intro rest scanning
      cases scanning)
  rcases scans with rfl | rfl
  · exact leased
  · apply leased.releaseOpen task
    · apply wellFormed.opener
      rw [acquiring]
      rfl
    · simp [Task.holdsOpen]

theorem registered {task : TaskId} {call : Call} {forced : Bool}
    {lease : Lease} (free : pool.connsLock = .free)
    (leased : pool.task task = .leased call forced lease .register) :
    WellFormed
      { pool.setTask task (.leased call forced lease .acquired) with
        conns := pool.conns ++ [lease.conn]
        openLock := none } := by
  have holdsOpen : (pool.task task).holdsOpen = true := by
    rw [leased]
    rfl
  have holdsConn : (pool.task task).conn? = some lease.conn := by
    rw [leased]
    rfl
  have acquired : (pool.setTask task
      (.leased call forced lease .acquired)).WellFormed :=
    wellFormed.setTask_leased leased rfl
  have released := acquired.releaseOpen task (wellFormed.opener holdsOpen)
    (by simp [Task.holdsOpen])
  exact released.push free rfl (wellFormed.apart holdsOpen holdsConn)
    (wellFormed.held holdsConn)

theorem held_leased {task : TaskId} {call : Call} {forced : Bool}
    {lease : Lease} {progress : Progress}
    (leased : pool.task task = .leased call forced lease progress) :
    lease.conn < pool.nextConn := by
  have holds : (pool.task task).conn? = some lease.conn := by
    rw [leased]
    rfl
  exact wellFormed.held holds

theorem served_leased {task : TaskId} {call : Call} {forced : Bool}
    {lease : Lease} {progress : Progress}
    (leased : pool.task task = .leased call forced lease progress) :
    (pool.conn lease.conn).server = call.server := by
  have holds : (pool.task task).conn? = some lease.conn := by
    rw [leased]
    rfl
  apply wellFormed.served holds
  rw [leased]
  rfl

/-- An attempt works on its connection and goes on. -/
theorem advance {task : TaskId} {call : Call} {forced : Bool}
    {lease : Lease} {progress after : Progress} {value : Conn}
    (leased : pool.task task = .leased call forced lease progress)
    (server : value.server = (pool.conn lease.conn).server)
    (notOpen : (Task.leased call forced lease after).holdsOpen = false) :
    ((pool.setConn lease.conn value).setTask task
      (.leased call forced lease after)).WellFormed := by
  have changed := wellFormed.setConn lease.conn value server
    (wellFormed.held_leased leased)
  exact changed.setTask_leased leased notOpen

theorem scanned {holder : TaskId} {conn : ConnId} {rest : List ConnId}
    (locked : pool.connsLock = .reuse holder (conn :: rest)) :
    conn ∈ pool.conns := by
  have lock := wellFormed.lock
  rw [locked] at lock
  obtain ⟨_, _, _, _, _, stored⟩ := lock
  exact (stored conn List.mem_cons_self).1

theorem looking {now : Nat} {todo : List ConnId} {visit : PruneVisit}
    (locked : pool.connsLock = .prune now todo (some visit)) :
    visit.conn ∈ todo := by
  have lock := wellFormed.lock
  rw [locked] at lock
  exact lock.2.2 visit rfl

theorem looking_stored {now : Nat} {todo : List ConnId} {visit : PruneVisit}
    (locked : pool.connsLock = .prune now todo (some visit)) :
    visit.conn ∈ pool.conns := by
  have inTodo := wellFormed.looking locked
  have lock := wellFormed.lock
  rw [locked] at lock
  exact lock.2.1 _ inTodo

theorem prune_look {now : Nat} {todo : List ConnId}
    {visit : Option PruneVisit}
    (locked : pool.connsLock = .prune now todo visit) (next : PruneVisit)
    (member : next.conn ∈ todo) :
    WellFormed { pool with connsLock := .prune now todo (some next) } := by
  have lock := wellFormed.lock
  rw [locked] at lock
  refine wellFormed.setLock _ _ (List.Sublist.refl _) ⟨lock.1, lock.2.1, ?_⟩
  rintro looking ⟨⟩
  exact member

theorem deliver {conn : ConnId} (id : UInt16) (body : Message)
    (reading : (pool.conn conn).reader ≠ .finished) :
    (pool.deliver conn id body).WellFormed := by
  have settled := wellFormed.settle (.answered body)
    ((pool.conn conn).inflight.lookup id)
  apply settled.setConn
  · simp [Conn.vacate]
  · simpa using wellFormed.born_of_reader reading

theorem prune_next {now : Nat} {todo conns : List ConnId} {conn : ConnId}
    {visit : Option PruneVisit}
    (locked : pool.connsLock = .prune now todo visit)
    (fewer : conns.Sublist pool.conns)
    (others : ∀ other ∈ pool.conns, other ≠ conn → other ∈ conns) :
    WellFormed
      { pool with
        conns := conns
        connsLock := .prune now (todo.erase conn) none } := by
  have lock := wellFormed.lock
  rw [locked] at lock
  obtain ⟨nodup, stored, _⟩ := lock
  refine wellFormed.setLock _ _ fewer ⟨nodup.erase conn, ?_, ?_⟩
  · intro other member
    obtain ⟨different, inTodo⟩ := nodup.mem_erase_iff.mp member
    exact others other (stored other inTodo) different
  · rintro looking ⟨⟩

theorem prune_erase {now : Nat} {todo : List ConnId} {conn : ConnId}
    {visit : Option PruneVisit}
    (locked : pool.connsLock = .prune now todo visit) :
    WellFormed
      { pool with
        conns := pool.conns.erase conn
        connsLock := .prune now (todo.erase conn) none } := by
  apply wellFormed.prune_next locked List.erase_sublist
  intro other member different
  exact (List.mem_erase_of_ne different).mpr member

theorem clear (completed : Nat) (switches : List Nat)
    (free : pool.connsLock = .free) :
    WellFormed
      { pool with
        conn := fun conn =>
          if conn ∈ pool.conns then { pool.conn conn with alive := false }
          else pool.conn conn
        conns := []
        completed := completed
        switches := switches } := by
  have dead := wellFormed.setConns
    (fun conn =>
      if conn ∈ pool.conns then { pool.conn conn with alive := false }
      else pool.conn conn)
    (by
      intro conn
      dsimp only
      split <;> rfl)
    (by
      intro conn late
      apply if_neg
      intro member
      exact Nat.not_lt.mpr late (wellFormed.pooled member))
  have emptied := dead.setLock [] .free (List.nil_sublist _) trivial
  rw [← free] at emptied
  exact emptied.setOthers _ _ _ _ completed switches

theorem missed {task : TaskId} {call : Call} {forced : Bool}
    {stage after : Acquire}
    (acquiring : pool.task task = .acquiring call forced stage)
    (moves : (stage = .reuse ∧ after = .waitOpen) ∨
      (stage = .recheck ∧ after = .checkCap)) :
    WellFormed
      { pool.setTask task (.acquiring call forced after) with
        connsLock := .free } := by
  have freed : WellFormed { pool with connsLock := .free } :=
    wellFormed.setLock _ _ (List.Sublist.refl _) trivial
  rcases moves with ⟨rfl, rfl⟩ | ⟨rfl, rfl⟩
  · exact freed.setTask_bare rfl rfl (not_reuse_of_free rfl)
  · exact freed.setTask_opening acquiring rfl rfl (not_reuse_of_free rfl)

theorem full {task : TaskId} {conn : ConnId} {rest : List ConnId}
    {draws : Nat} (locked : pool.connsLock = .reuse task (conn :: rest)) :
    WellFormed
      { pool.setConn conn { pool.conn conn with draws := draws } with
        connsLock := .reuse task rest } := by
  have lock := wellFormed.lock
  rw [locked] at lock
  obtain ⟨call, forced, stage, acquiring, scans, stored⟩ := lock
  have tried := wellFormed.setConn conn
    { pool.conn conn with draws := draws } rfl
    (wellFormed.pooled (stored conn (by simp)).1)
  refine tried.setLock _ _ (List.Sublist.refl _)
    ⟨call, forced, stage, acquiring, scans, ?_⟩
  intro other member
  obtain ⟨inMap, serves⟩ := stored other (by simp [member])
  refine ⟨inMap, ?_⟩
  by_cases same : other = conn
  · subst same
    simpa using serves
  · simpa [same] using serves

theorem lockedOpen {task : TaskId} {call : Call} {forced : Bool}
    (free : pool.openLock = none)
    (acquiring : pool.task task = .acquiring call forced .waitOpen) :
    WellFormed
      { pool.setTask task (.acquiring call forced
          (if forced then .opening else .recheck)) with
        openLock := some task } := by
  have taken := wellFormed.takeOpen task free
  refine taken.setTask _ _ ?_ ?_ (wellFormed.notScanning acquiring rfl)
  · intro conn holds
    cases forced <;> cases holds
  · intro _
    refine ⟨rfl, ?_⟩
    intro conn holds
    cases forced <;> cases holds

theorem connected {task : TaskId} {call : Call} {forced : Bool}
    {proxy : ProxyConfig} {epoch : Nat}
    (acquiring : pool.task task =
      .acquiring call forced (.connecting proxy epoch)) :
    WellFormed
      { (pool.setConn pool.nextConn
          (Conn.fresh call.server proxy epoch pool.clock)).setTask task
            (.acquiring call forced (.fresh pool.nextConn)) with
        nextConn := pool.nextConn + 1 } := by
  have holdsOpen : (pool.task task).holdsOpen = true := by
    rw [acquiring]
    rfl
  have opened := wellFormed.born
    (Conn.fresh call.server proxy epoch pool.clock)
  refine opened.setTask task _ ?_ ?_ (wellFormed.notScanning acquiring rfl)
  · rintro conn ⟨⟩
    refine ⟨Nat.lt_succ_self _, ?_⟩
    rintro called ⟨⟩
    simp [Conn.fresh]
  · intro _
    refine ⟨wellFormed.opener holdsOpen, ?_⟩
    rintro conn ⟨⟩ member
    exact Nat.lt_irrefl _ (wellFormed.pooled member)

theorem allocated {task : TaskId} {call : Call} {forced : Bool}
    {conn : ConnId} {draw : Nat}
    (acquiring : pool.task task = .acquiring call forced (.fresh conn)) :
    ((pool.setConn conn
      ((pool.conn conn).reserve (task, forced) draw)).setTask task
        (.leased call forced { conn := conn, draw := draw }
          .register)).WellFormed := by
  have holdsConn : (pool.task task).conn? = some conn := by
    rw [acquiring]
    rfl
  have holdsOpen : (pool.task task).holdsOpen = true := by
    rw [acquiring]
    rfl
  have reserved := wellFormed.setConn conn
    ((pool.conn conn).reserve (task, forced) draw) rfl
    (wellFormed.held holdsConn)
  refine reserved.setTask task _ ?_ ?_ (wellFormed.notScanning acquiring rfl)
  · rintro held ⟨⟩
    refine ⟨wellFormed.held holdsConn, ?_⟩
    rintro called ⟨⟩
    simp only [setConn_conn, Function.update_self]
    apply wellFormed.served holdsConn
    rw [acquiring]
    rfl
  · intro _
    refine ⟨wellFormed.opener holdsOpen, ?_⟩
    rintro held ⟨⟩
    exact wellFormed.apart holdsOpen holdsConn

theorem armed {task : TaskId} {call : Call} {forced : Bool} {lease : Lease}
    (leased : pool.task task = .leased call forced lease .acquired) :
    ((((pool.settle .dropped
      ((pool.conn lease.conn).inflight.lookup lease.id)).setChan
        (task, forced) .pending).setConn lease.conn
          ((pool.conn lease.conn).store lease.id
            { owner := (task, forced), armed := true })).setTask task
              (.leased call forced lease .ready)).WellFormed := by
  have settled := (wellFormed.settle .dropped
    ((pool.conn lease.conn).inflight.lookup lease.id)).setChan
      (task, forced) .pending
  have stored := settled.setConn lease.conn
    ((pool.conn lease.conn).store lease.id
      { owner := (task, forced), armed := true })
    (by simp [Pool.setChan, Conn.store])
    (by simpa [Pool.setChan] using wellFormed.held_leased leased)
  rw [← settle_task pool .dropped] at leased
  exact stored.setTask_leased leased rfl

theorem removed {task : TaskId} {call : Call} {forced : Bool}
    {lease : Lease} {error : ResolveError}
    (leased : pool.task task =
      .leased call forced lease (.removing error)) :
    (((pool.settle .dropped
      ((pool.conn lease.conn).inflight.lookup lease.id)).setConn lease.conn
        ((pool.conn lease.conn).vacate lease.id)).setTask task
          (.conclude call forced error.outcome)).WellFormed := by
  have settled := wellFormed.settle .dropped
    ((pool.conn lease.conn).inflight.lookup lease.id)
  have vacated := settled.setConn lease.conn
    ((pool.conn lease.conn).vacate lease.id)
    (by simp [Conn.vacate])
    (by simpa using wellFormed.held_leased leased)
  rw [← settle_task pool .dropped] at leased
  apply vacated.setTask_bare (by simp) (by simp)
  exact vacated.notScanning leased rfl

theorem answered {conn : ConnId} {body : Message} {position : Nat}
    {sent : SentFrame} (running : (pool.conn conn).reader = .running) :
    ((pool.deliver conn (candidate sent.draw) body).setConn conn
      (((pool.conn conn).vacate (candidate sent.draw)).answer position
        body)).WellFormed := by
  have reading : (pool.conn conn).reader ≠ .finished := by
    simp [running]
  have delivered := wellFormed.deliver (candidate sent.draw) body reading
  apply delivered.setConn
  · simp [Pool.deliver, Conn.answer]
  · simpa [Pool.deliver, Pool.setConn] using wellFormed.born_of_reader reading

theorem step {next : Pool} {event : Event}
    (stepped : Stepped pool event next) : next.WellFormed := by
  cases stepped with
  | refused idle | called idle =>
      apply wellFormed.setTask_bare rfl rfl
      exact wellFormed.notScanning idle rfl
  | @lockedConns task call forced stage free acquiring scans =>
      refine wellFormed.setLock _ _ List.filter_sublist
        ⟨call, forced, stage, acquiring, scans, ?_⟩
      intro conn member
      simpa using List.mem_filter.mp member
  | missed locked acquiring moves => exact wellFormed.missed acquiring moves
  | full locked acquiring => exact wellFormed.full locked
  | hit locked acquiring => exact wellFormed.hit locked acquiring
  | lockedOpen free acquiring => exact wellFormed.lockedOpen free acquiring
  | @capped task call forced free acquiring =>
      have kept := wellFormed.retainAlive call.server free
      exact kept.failOpen acquiring rfl (not_reuse_of_free free) _ _ _
  | @roomy task call forced free acquiring =>
      have kept := wellFormed.retainAlive call.server free
      exact kept.setTask_opening acquiring rfl rfl (not_reuse_of_free free)
  | loaded acquiring =>
      exact wellFormed.setTask_opening acquiring rfl rfl
        (wellFormed.notScanning acquiring rfl)
  | connected acquiring => exact wellFormed.connected acquiring
  | unreachable acquiring =>
      exact wellFormed.failOpen acquiring rfl
        (wellFormed.notScanning acquiring rfl) _ _ _
  | allocated acquiring => exact wellFormed.allocated acquiring
  | @notAllocated task call forced conn draws acquiring =>
      have tried := wellFormed.setConn conn
        { pool.conn conn with draws := draws } rfl
        (wellFormed.held (by rw [acquiring]; rfl))
      exact tried.failOpen acquiring rfl
        (wellFormed.notScanning acquiring rfl) _ _ _
  | registered free leased => exact wellFormed.registered free leased
  | armed leased => exact wellFormed.armed leased
  | lockedWriter leased | wrote leased | unwritten leased
  | markedDead leased | touched leased =>
      exact wellFormed.advance leased rfl rfl
  | disconnected leased | expired leased =>
      exact wellFormed.setTask_leased leased rfl
  | received leased answered =>
      apply wellFormed.setTask_bare rfl rfl
      exact wellFormed.notScanning leased rfl
  | removed leased => exact wellFormed.removed leased
  | stored => exact wellFormed.setOthers _ _ _ _ _ _
  | cleared free switching => exact wellFormed.clear _ _ free
  | pruning free =>
      refine wellFormed.setLock _ _ (List.Sublist.refl _)
        ⟨wellFormed.nodup, fun _ member => member, ?_⟩
      rintro looking ⟨⟩
  | pruned locked member dead => exact wellFormed.prune_erase locked
  | visited locked member => exact wellFormed.prune_look locked _ member
  | lastRead locked | emptyRead locked =>
      have member := wellFormed.looking locked
      exact wellFormed.prune_look locked _ member
  | evicted locked idle =>
      have dead := wellFormed.setConn _ { pool.conn _ with alive := false } rfl
        (wellFormed.pooled (wellFormed.looking_stored locked))
      exact dead.prune_erase locked
  | kept locked =>
      exact wellFormed.prune_next locked (List.Sublist.refl _)
        fun _ member _ => member
  | unlocked locked =>
      exact wellFormed.setLock _ _ (List.Sublist.refl _) trivial
  | notIdle running => exact wellFormed
  | idled running | stopped running =>
      exact wellFormed.setConn _ _ rfl
        (wellFormed.born_of_reader (by simp [running]))
  | strayed running identified =>
      exact wellFormed.deliver _ _ (by simp [running])
  | answered running => exact wellFormed.answered running
  | died stopping =>
      exact wellFormed.setConn _ _ rfl
        (wellFormed.born_of_reader (by simp [stopping]))
  | @cleaned conn clearing =>
      have finished := wellFormed.setConn conn
        { pool.conn conn with inflight := ∅, reader := .finished } rfl
        (wellFormed.born_of_reader (by simp [clearing]))
      exact finished.setOthers _ _ _ _ _ _
  | ticked => exact wellFormed.setOthers _ _ _ _ _ _

theorem of_step {next : Pool} {event : Event}
    (stepped : pool.step event = some next) : next.WellFormed :=
  wellFormed.step (stepped_of_step stepped)

end WellFormed

end Pool

end Cortado.Dns
