import Cortado.Lib.Transition
import Cortado.Dns.IdSearch
import Cortado.Dns.PoolInvariant

/-!
# The limit on queries in flight per connection

`allocate_id` checks the limit before it stores its placeholder.  The attempt
replaces the placeholder by its real sender in a second critical section,
which does not check.  In between, a frame under the same identifier makes the
reader remove the placeholder, whether it was asked for or not, and other
attempts may fill the map again.  The map therefore stays within the limit
exactly if every such insertion finds its placeholder or finds room.
-/

namespace Cortado.Dns

open Net Transition

/-- The number of entries of the map. -/
def Conn.load (conn : Conn) : Nat :=
  conn.inflight.keys.length

theorem Conn.load_store_of_mem (conn : Conn) {id : UInt16} (sender : Sender)
    (member : id ∈ conn.inflight) :
    (conn.store id sender).load = conn.load := by
  have listed := AList.mem_keys.mp member
  have pos := List.length_pos_of_mem listed
  simp only [load, store, AList.keys_insert, List.length_cons,
    List.length_erase_of_mem listed]
  omega

theorem Conn.load_store_of_not_mem (conn : Conn) {id : UInt16}
    (sender : Sender) (vacant : id ∉ conn.inflight) :
    (conn.store id sender).load = conn.load + 1 := by
  have unlisted : id ∉ conn.inflight.keys := vacant
  simp only [load, store, AList.keys_insert, List.length_cons,
    List.erase_of_not_mem unlisted]

theorem Conn.load_vacate_le (conn : Conn) (id : UInt16) :
    (conn.vacate id).load ≤ conn.load := by
  simp only [load, vacate, AList.keys_erase]
  exact List.length_erase_le

/-- `allocate_id` keeps the limit. -/
theorem Conn.load_allocateId_le (conn : Conn) (owner : AttemptId)
    (within : conn.load ≤ maxInflightPerConn) :
    (conn.allocateId owner).2.load ≤ maxInflightPerConn := by
  rcases Nat.lt_or_ge conn.load maxInflightPerConn with room | full
  · rcases conn.allocateId_cases owner with ⟨draws, _, failed⟩ |
        ⟨draw, _, vacant, taken⟩
    · rw [failed]
      exact within
    · have added : (conn.reserve owner draw).load = conn.load + 1 :=
        load_store_of_not_mem { conn with draws := draw + 1 } _
          (AList.lookup_eq_none.mp vacant)
      rw [taken, added]
      exact room
  · rw [conn.allocateId_of_full owner full]
    exact within

namespace Pool

def InflightBounded (pool : Pool) : Prop :=
  ∀ conn, (pool.conn conn).load ≤ maxInflightPerConn

/-- An attempt that inserts its sender finds its identifier in the map, or
room for one more. -/
def InsertFindsRoom (pool : Pool) : Event → Prop
  | .insertSender task =>
      ∀ call forced lease,
        pool.task task = .leased call forced lease .acquired →
          lease.id ∈ (pool.conn lease.conn).inflight ∨
            (pool.conn lease.conn).load < maxInflightPerConn
  | _ => True

variable {pool next : Pool} {event : Event}

theorem InflightBounded.update {conn : ConnId} {value : Conn}
    (bounded : pool.InflightBounded)
    (within : value.load ≤ maxInflightPerConn) (other : ConnId) :
    (Function.update pool.conn conn value other).load ≤
      maxInflightPerConn := by
  by_cases same : other = conn
  · rw [same, Function.update_self]
    exact within
  · rw [Function.update_of_ne same]
    exact bounded other

/-- Trying a connection leaves the connections as they are or allocates in
one of them. -/
theorem conn_of_tryNext {task : TaskId}
    (stepped : pool.tryNext task = some next) :
    next.conn = pool.conn ∨ ∃ conn owner, next.conn =
      Function.update pool.conn conn ((pool.conn conn).allocateId owner).2 := by
  unfold tryNext at stepped
  split at stepped
  · rename_i holder rest call forced stage locked acquiring
    by_cases own : holder = task
    · rw [if_pos own] at stepped
      cases rest with
      | nil =>
          left
          cases stage with
          | reuse | recheck =>
              cases stepped
              rfl
          | _ => cases stepped
      | cons conn rest =>
          right
          refine ⟨conn, (task, forced), ?_⟩
          dsimp only at stepped
          split at stepped <;> rename_i allocated
          · cases stepped
            rw [allocated]
            rfl
          · cases stepped
            rw [allocated]
            rfl
    · rw [if_neg own] at stepped
      cases stepped
  · cases stepped

theorem conn_of_allocateFresh {task : TaskId}
    (stepped : pool.allocateFresh task = some next) :
    ∃ conn owner, next.conn =
      Function.update pool.conn conn ((pool.conn conn).allocateId owner).2 := by
  unfold allocateFresh at stepped
  split at stepped
  · rename_i call forced conn acquiring
    refine ⟨conn, (task, forced), ?_⟩
    split at stepped <;> rename_i allocated
    · cases stepped
      rw [allocated]
      rfl
    · cases stepped
      rw [allocated]
      rfl
  · cases stepped

theorem InflightBounded.allocated {conn : ConnId} {owner : AttemptId}
    (bounded : pool.InflightBounded)
    (same : next.conn = Function.update pool.conn conn
      ((pool.conn conn).allocateId owner).2) : next.InflightBounded := by
  intro other
  rw [same]
  exact bounded.update
    ((pool.conn conn).load_allocateId_le owner (bounded conn)) other

/-- Only the insertion of a sender can exceed the limit. -/
theorem InflightBounded.step (bounded : pool.InflightBounded)
    (stepped : pool.step event = some next)
    (other : ∀ task, event ≠ .insertSender task) : next.InflightBounded := by
  cases stepped_of_step stepped with
  | full | hit =>
      rcases conn_of_tryNext stepped with same | ⟨conn, owner, same⟩
      · intro conn
        rw [same]
        exact bounded conn
      · exact bounded.allocated same
  | allocated | notAllocated =>
      obtain ⟨conn, owner, same⟩ := conn_of_allocateFresh stepped
      exact bounded.allocated same
  | armed => exact absurd rfl (other _)
  | connected => exact bounded.update (Nat.zero_le _)
  | lockedWriter | wrote | unwritten | markedDead | touched | evicted | idled
  | stopped | died =>
      exact bounded.update (bounded _)
  | cleaned => exact bounded.update (Nat.zero_le _)
  | removed =>
      intro conn
      simp only [setTask, setConn, settle_conn]
      apply bounded.update
      exact Nat.le_trans (Conn.load_vacate_le _ _) (bounded _)
  | strayed =>
      intro conn
      simp only [deliver, setConn, settle_conn]
      apply bounded.update
      exact Nat.le_trans (Conn.load_vacate_le _ _) (bounded _)
  | answered =>
      intro conn
      simp only [deliver, setConn, settle_conn, Function.update_idem]
      apply bounded.update
      exact Nat.le_trans (Conn.load_vacate_le _ _) (bounded _)
  | cleared =>
      intro conn
      dsimp only
      split
      · exact bounded conn
      · exact bounded conn
  | _ => exact bounded

/-- Storing a sender keeps the limit exactly if it finds its identifier or
room. -/
theorem load_store_le_iff (conn : Conn) (id : UInt16) (sender : Sender)
    (within : conn.load ≤ maxInflightPerConn) :
    (conn.store id sender).load ≤ maxInflightPerConn ↔
      id ∈ conn.inflight ∨ conn.load < maxInflightPerConn := by
  by_cases member : id ∈ conn.inflight
  · rw [conn.load_store_of_mem sender member]
    exact iff_of_true within (Or.inl member)
  · rw [conn.load_store_of_not_mem sender member]
    constructor
    · intro room
      exact Or.inr room
    · intro found
      exact found.resolve_left member

theorem InflightBounded.step_iff (bounded : pool.InflightBounded)
    (stepped : pool.step event = some next) :
    next.InflightBounded ↔ pool.InsertFindsRoom event := by
  by_cases other : ∀ task, event ≠ .insertSender task
  · apply iff_of_true (bounded.step stepped other)
    cases event with
    | insertSender task => exact absurd rfl (other task)
    | _ => trivial
  · simp only [not_forall, ne_eq, not_not] at other
    obtain ⟨task, rfl⟩ := other
    cases stepped_of_step stepped with
    | @armed _ call forced lease leased =>
        have exactly := load_store_le_iff (pool.conn lease.conn) lease.id
          { owner := (task, forced), armed := true } (bounded lease.conn)
        constructor
        · intro stays other held found acquired
          rw [leased] at acquired
          cases acquired
          have stored := stays lease.conn
          simp only [setTask, setConn, Function.update_self] at stored
          exact exactly.mp stored
        · intro finds conn
          simp only [setTask, setConn, setChan, settle_conn]
          apply bounded.update
          exact exactly.mpr (finds call forced lease leased)

/-- In every interleaving, and whatever the servers send, the maps stay
within the limit exactly if every insertion of a sender finds its identifier
or room. -/
theorem always_inflightBounded_iff (proxy : ProxyConfig) (idleTimeout : Nat)
    (events : List Event) :
    Always step InflightBounded (new proxy idleTimeout) events ↔
      EveryStep step InsertFindsRoom (new proxy idleTimeout) events := by
  have initial : (new proxy idleTimeout).InflightBounded := by
    intro conn
    exact Nat.zero_le _
  refine always_iff_everyStep (fun _ => True) ?_ ?_ ?_ initial
    (fun _ _ => trivial)
  · intro pool bounded
    exact bounded
  · intro pool event next _ bounded stepped
    exact bounded.step_iff stepped
  · intro pool event next _ bounded stepped finds
    exact (bounded.step_iff stepped).mpr finds

end Pool

/-! ## A placeholder that a stray frame removes -/

/-- An attempt that opens the first connection and registers it. -/
def openingAttempt (task : TaskId) : List Event :=
  [.call task exampleServer exampleQuery, .lockConns task, .tryNext task,
    .lockOpen task, .lockConns task, .tryNext task, .checkCap task,
    .loadProxy task, .connect task true, .allocateFresh task, .register task]

/-- An attempt that gets an identifier on an open connection. -/
def reusingAttempt (task : TaskId) : List Event :=
  [.call task exampleServer exampleQuery, .lockConns task, .tryNext task]

/-- 256 attempts fill the map, a frame that nobody asked for removes the
first placeholder, one more attempt takes its place, and the first attempt
inserts its sender. -/
def strayFlood : List Event :=
  openingAttempt 0 ++ ((List.range' 1 255).flatMap reusingAttempt ++
    (.readerFrame 0 exampleQuery none ::
      (reusingAttempt 256 ++ [.insertSender 0])))

namespace Pool

/-- The attempts below `high` have an identifier on the first connection, and
those from `low` on have their placeholder in its map. -/
structure Filled (pool : Pool) (low high : Nat) : Prop where
  conns : pool.conns = [0]
  free : pool.connsLock = .free
  server : (pool.conn 0).server = exampleServer
  alive : (pool.conn 0).alive = true
  running : (pool.conn 0).reader = .running
  draws : (pool.conn 0).draws = high
  keys : (pool.conn 0).inflight.keys.Perm
    ((List.range' low (high - low)).map candidate)
  first : ∃ call, pool.task 0 =
    .leased call false { conn := 0, draw := 0 } .acquired
  idle : ∀ task : Nat, high ≤ task → pool.task task = .idle

theorem Filled.load {pool : Pool} {low high : Nat}
    (filled : pool.Filled low high) : (pool.conn 0).load = high - low := by
  rw [Conn.load, filled.keys.length_eq, List.length_map, List.length_range']

theorem filled_opened :
    ∃ pool, run step (new exampleProxy 60) (openingAttempt 0) = some pool ∧
      pool.Filled 0 1 := by
  refine ⟨_, rfl, ?_⟩
  refine ⟨rfl, rfl, rfl, rfl, rfl, rfl, ?_, ⟨_, rfl⟩, ?_⟩
  · decide
  · intro task later
    have other : task ≠ 0 := by omega
    exact (Function.update_of_ne other _ _).trans (by
      simp [setConn, setTask, new, other])

/-- The identifiers of draws outside the range are vacant. -/
theorem Filled.vacant {pool : Pool} {low high draw : Nat}
    (filled : pool.Filled low high) (bounded : high ≤ 65536)
    (drawn : draw < 65536) (outside : draw < low ∨ high ≤ draw) :
    candidate draw ∉ (pool.conn 0).inflight := by
  intro member
  have listed := filled.keys.mem_iff.mp (AList.mem_keys.mp member)
  obtain ⟨other, inRange, same⟩ := List.mem_map.mp listed
  have within := List.mem_range'_1.mp inRange
  rw [candidate_eq_iff] at same
  omega

theorem Filled.allocates {pool : Pool} {low high : Nat}
    (filled : pool.Filled low high)
    (room : high - low < maxInflightPerConn) (bounded : high < 65536)
    (owner : AttemptId) :
    (pool.conn 0).allocateId owner =
      (some high, (pool.conn 0).reserve owner high) := by
  have below : (pool.conn 0).load < maxInflightPerConn := by
    rw [filled.load]
    exact room
  have vacant := filled.vacant (Nat.le_of_lt bounded) bounded
    (Or.inr (Nat.le_refl high))
  rw [← filled.draws] at vacant ⊢
  have first := candidate_add (pool.conn 0) 0
  rw [Nat.add_zero] at first
  rw [first] at vacant
  exact (pool.conn 0).allocateId_of_room owner below (by decide) vacant nofun

/-- The call of an attempt that reuses the first connection. -/
def reusingCall (pool : Pool) : Call :=
  { server := exampleServer, query := exampleQuery, since := pool.completed }

/-- The pool after one more attempt on the first connection. -/
def reused (pool : Pool) (task : TaskId) : Pool :=
  (pool.setConn 0 ((pool.conn 0).reserve (task, false) task)).setTask task
    (.leased pool.reusingCall false { conn := 0, draw := task } .acquired)

theorem Filled.run_reusingAttempt {pool : Pool} {low high : Nat}
    (filled : pool.Filled low high)
    (room : high - low < maxInflightPerConn) (bounded : high < 65536) :
    run step pool (reusingAttempt high) = some (pool.reused high) := by
  have called : pool.step (.call high exampleServer exampleQuery) =
      some (pool.setTask high (.acquiring pool.reusingCall false .reuse)) := by
    simp only [step, call, filled.idle high (Nat.le_refl high)]
    rfl
  have locked : step
      (pool.setTask high (.acquiring pool.reusingCall false .reuse))
      (.lockConns high) =
        some { pool.setTask high
            (.acquiring pool.reusingCall false .reuse) with
          connsLock := .reuse high [0] } := by
    simp [step, lockConns, setTask, filled.free, retainAlive, bucket,
      filled.conns, filled.alive, filled.server, reusingCall]
  have tried : step
      { pool.setTask high (.acquiring pool.reusingCall false .reuse) with
        connsLock := .reuse high [0] } (.tryNext high) =
      some (pool.reused high) := by
    simp [step, tryNext, setTask, setConn, Acquire.holdsOpen,
      filled.allocates room bounded, reused, filled.free]
  rw [reusingAttempt, run, called, Option.bind_some, run, locked,
    Option.bind_some, run, tried]
  rfl

/-- One more attempt puts one more placeholder into the map. -/
theorem Filled.reused {pool : Pool} {low high : Nat}
    (filled : pool.Filled low high) (started : 0 < high)
    (ordered : low ≤ high) (bounded : high < 65536) :
    (pool.reused high).Filled low (high + 1) := by
  have vacant := filled.vacant (Nat.le_of_lt bounded) bounded
    (Or.inr (Nat.le_refl high))
  have conn : (pool.reused high).conn 0 =
      (pool.conn 0).reserve (high, false) high := by
    simp only [Pool.reused, setTask, setConn, Function.update_self]
  refine ⟨filled.conns, filled.free, ?_, ?_, ?_, ?_, ?_, ?_, ?_⟩
  · rw [conn]
    exact filled.server
  · rw [conn]
    exact filled.alive
  · rw [conn]
    exact filled.running
  · rw [conn]
    rfl
  · have unlisted : candidate high ∉ (pool.conn 0).inflight.keys := vacant
    have count : high + 1 - low = high - low + 1 := by omega
    have last : low + (high - low) = high := by omega
    rw [conn, Conn.reserve, Conn.store, AList.keys_insert,
      List.erase_of_not_mem unlisted, count, List.range'_1_concat,
      List.map_append, last]
    exact (filled.keys.cons _).trans (List.perm_append_singleton _ _).symm
  · obtain ⟨call, first⟩ := filled.first
    refine ⟨call, ?_⟩
    rw [← first]
    exact Function.update_of_ne (Nat.ne_of_lt started) _ _
  · intro task later
    have other : task ≠ high := Nat.ne_of_gt later
    rw [← filled.idle task (Nat.le_of_succ_le later)]
    exact Function.update_of_ne other _ _

/-- As many attempts as there is room for. -/
theorem Filled.run_attempts {pool : Pool} {low high count : Nat}
    (filled : pool.Filled low high) (started : 0 < high)
    (ordered : low ≤ high) (room : high + count - low ≤ maxInflightPerConn)
    (bounded : high + count ≤ 65536) :
    ∃ next,
      run step pool ((List.range' high count).flatMap reusingAttempt) =
        some next ∧ next.Filled low (high + count) := by
  induction count generalizing pool high with
  | zero => exact ⟨pool, rfl, filled⟩
  | succ count induction =>
      have reused := filled.run_reusingAttempt (by omega) (by omega)
      obtain ⟨next, completed, later⟩ :=
        induction (filled.reused started ordered (by omega)) (by omega)
          (by omega) (by omega) (by omega)
      have total : high + 1 + count = high + (count + 1) := by omega
      refine ⟨next, ?_, total ▸ later⟩
      rw [List.range'_succ, List.flatMap_cons, run_append reused]
      exact completed

/-- A frame under the first identifier removes its placeholder. -/
theorem Filled.strayed {pool : Pool} {high : Nat}
    (filled : pool.Filled 0 high) (started : 0 < high) :
    ∃ next, pool.step (.readerFrame 0 exampleQuery none) = some next ∧
      next.Filled 1 high := by
  have identified : messageId exampleQuery = some (candidate 0) := by decide
  have short : exampleQuery.length ≤ maxDnsMessage := by decide
  have stepped : pool.step (.readerFrame 0 exampleQuery none) =
      some (pool.deliver 0 (candidate 0) exampleQuery) := by
    simp only [step, readerFrame, filled.running, identified, if_pos short]
  have conn : (pool.deliver 0 (candidate 0) exampleQuery).conn 0 =
      (pool.conn 0).vacate (candidate 0) := by
    simp only [deliver, setConn, Function.update_self]
  refine ⟨_, stepped, ?_⟩
  refine ⟨?_, ?_, ?_, ?_, ?_, ?_, ?_, ?_, ?_⟩
  · simp only [deliver, setConn, settle_conns, filled.conns]
  · simp only [deliver, setConn, settle_connsLock, filled.free]
  · rw [conn]
    exact filled.server
  · rw [conn]
    exact filled.alive
  · rw [conn]
    exact filled.running
  · rw [conn]
    exact filled.draws
  · have split : (List.range' 0 (high - 0)).map candidate =
        candidate 0 :: (List.range' 1 (high - 1)).map candidate := by
      obtain ⟨below, rfl⟩ := Nat.exists_eq_add_one.mpr started
      rfl
    have erased := filled.keys.erase (candidate 0)
    rw [split, List.erase_cons_head] at erased
    rw [conn, Conn.vacate, AList.keys_erase]
    exact erased
  · simp only [deliver, setConn, settle_task]
    exact filled.first
  · simp only [deliver, setConn, settle_task]
    exact filled.idle

/-- The first attempt inserts its sender unchecked. -/
theorem Filled.inserted {pool : Pool} {high : Nat}
    (filled : pool.Filled 1 high) (started : 0 < high)
    (bounded : high ≤ 65536) :
    ∃ next, pool.step (.insertSender 0) = some next ∧
      (next.conn 0).load = high := by
  have vacant : candidate 0 ∉ (pool.conn 0).inflight :=
    filled.vacant bounded (by decide) (Or.inl (by decide))
  obtain ⟨call, first⟩ := filled.first
  simp only [step, insertSender, first]
  refine ⟨_, rfl, ?_⟩
  simp only [setTask, setConn, Function.update_self]
  have added := (pool.conn 0).load_store_of_not_mem
    { owner := (0, false), armed := true } vacant
  rw [filled.load] at added
  exact added.trans (by omega)

theorem strayFlood_completes :
    ∃ pool, run step (new exampleProxy 60) strayFlood = some pool ∧
      (pool.conn 0).load = 257 := by
  obtain ⟨opened, opening, one⟩ := filled_opened
  have filling : ∃ next,
      run step opened ((List.range' 1 255).flatMap reusingAttempt) =
        some next ∧ next.Filled 0 256 :=
    one.run_attempts (by decide) (by decide) (by decide) (by decide)
  obtain ⟨full, filled, all⟩ := filling
  obtain ⟨strayed, stray, missing⟩ := all.strayed (by decide)
  have again := missing.run_reusingAttempt (by decide) (by decide)
  have refilled := missing.reused (by decide) (by decide) (by decide)
  obtain ⟨final, inserted, above⟩ := refilled.inserted (by decide) (by decide)
  refine ⟨final, ?_, above⟩
  rw [strayFlood, run_append opening, run_append filled, run, stray,
    Option.bind_some, run_append again, run, inserted]
  rfl

end Pool

/-- One frame that nobody asked for takes the map above the limit. -/
theorem inflightBounded_lost_by_stray_frame :
    ¬Always Pool.step Pool.InflightBounded (Pool.new exampleProxy 60)
      strayFlood := by
  intro always
  obtain ⟨pool, completed, above⟩ := Pool.strayFlood_completes
  have within := always.final completed 0
  rw [above] at within
  exact absurd within (by decide)

end Cortado.Dns
