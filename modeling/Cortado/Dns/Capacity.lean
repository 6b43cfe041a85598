import Cortado.Dns.PoolFrame

/-!
# The cap on connections per server

`acquire` checks the cap while it holds the lock for opening and registers
under the same lock, so its own connections stay within the cap.  The forced
second attempt takes the lock but does not check.  The bucket of a server
therefore stays within the cap exactly if every live connection that a forced
attempt registers finds room.
-/

namespace Cortado.Dns

open Net Transition

namespace Pool

/-- The connections of a bucket whose `alive` flag is true. -/
def liveCount (pool : Pool) (server : SocketAddr) : Nat :=
  (pool.bucket server).countP fun conn => (pool.conn conn).alive

def WithinCap (pool : Pool) : Prop :=
  ∀ server, pool.liveCount server ≤ maxConnsPerTarget

/-- A forced attempt that registers a live connection finds room for it. -/
def ForcedFindsRoom (pool : Pool) : Event → Prop
  | .register task =>
      ∀ call lease, pool.task task = .leased call true lease .register →
        (pool.conn lease.conn).alive = true →
          pool.liveCount call.server < maxConnsPerTarget
  | _ => True

end Pool

/-- The server for which a task has passed the check of the cap. -/
def Task.passedCap : Task → Option SocketAddr
  | .acquiring call false .opening
  | .acquiring call false (.connecting _ _)
  | .acquiring call false (.fresh _)
  | .leased call false _ .register => some call.server
  | _ => none

@[simp] theorem Task.passedCap_conclude (call : Call) (forced : Bool)
    (outcome : Outcome) : (conclude call forced outcome).passedCap = none := by
  cases outcome <;> cases forced <;> rfl

theorem Task.holdsOpen_of_passedCap {task : Task} {server : SocketAddr}
    (passed : task.passedCap = some server) : task.holdsOpen = true := by
  unfold passedCap at passed
  split at passed <;> first | rfl | cases passed

namespace Pool

variable {pool next : Pool} {event : Event}

/-- There is room for the connection of every task past the check. -/
def Roomy (pool : Pool) : Prop :=
  ∀ task server, (pool.task task).passedCap = some server →
    pool.liveCount server < maxConnsPerTarget

theorem liveCount_eq (pool : Pool) (server : SocketAddr) :
    pool.liveCount server = pool.conns.countP fun conn =>
      (pool.conn conn).alive && decide ((pool.conn conn).server = server) := by
  unfold liveCount bucket
  rw [List.countP_filter]

theorem liveCount_le (fewer : next.conns.Sublist pool.conns)
    (continues : ∀ conn ∈ pool.conns,
      (pool.conn conn).Continues (next.conn conn)) (server : SocketAddr) :
    next.liveCount server ≤ pool.liveCount server := by
  rw [liveCount_eq, liveCount_eq]
  apply Nat.le_trans fewer.countP_le
  apply List.countP_mono_left
  intro conn member counted
  have continued := continues conn member
  simp only [Bool.and_eq_true, decide_eq_true_eq] at counted ⊢
  exact ⟨continued.alive counted.1, continued.server ▸ counted.2⟩

/-- Only a registration adds live connections. -/
theorem Stepped.liveCount_le (wellFormed : pool.WellFormed)
    (stepped : Stepped pool event next)
    (other : ∀ task, event ≠ .register task) (server : SocketAddr) :
    next.liveCount server ≤ pool.liveCount server := by
  apply Pool.liveCount_le (stepped.conns_sublist other)
  intro conn member
  exact stepped.continues (wellFormed.pooled member)

theorem liveCount_registered {task : TaskId} {call : Call} {forced : Bool}
    {lease : Lease} (wellFormed : pool.WellFormed)
    (leased : pool.task task = .leased call forced lease .register)
    (server : SocketAddr) :
    liveCount
      { pool.setTask task (.leased call forced lease .acquired) with
        conns := pool.conns ++ [lease.conn]
        openLock := none } server =
      pool.liveCount server +
        if (pool.conn lease.conn).alive = true ∧ call.server = server then 1
        else 0 := by
  have serves := wellFormed.served_leased leased
  rw [liveCount_eq, liveCount_eq]
  simp only [setTask, List.countP_append, List.countP_singleton, serves,
    Bool.and_eq_true, decide_eq_true_eq]
  congr

/-- The length that `acquire` compares with the cap. -/
theorem length_retained (pool : Pool) (server : SocketAddr) :
    ((pool.retainAlive server).filter fun conn =>
      (pool.conn conn).server = server).length = pool.liveCount server := by
  rw [liveCount_eq, retainAlive, List.filter_filter, List.countP_eq_length_filter]
  congr 1
  apply List.filter_congr
  intro conn _
  by_cases same : (pool.conn conn).server = server
  · simp [same]
  · simp [same]

/-- A task past the check was there before, or has just found room. -/
theorem Stepped.passedCap (stepped : Stepped pool event next) {task : TaskId}
    {server : SocketAddr}
    (passed : (next.task task).passedCap = some server) :
    (pool.task task).passedCap = some server ∨
      pool.liveCount server < maxConnsPerTarget := by
  have bare : ∀ {actor value}, value.passedCap = none →
      (Function.update pool.task actor value task).passedCap = some server →
        (pool.task task).passedCap = some server := by
    intro actor value none updated
    by_cases same : task = actor
    · simp [same, none] at updated
    · simpa [same] using updated
  have moved : ∀ {actor value}, value.passedCap = (pool.task actor).passedCap →
      (Function.update pool.task actor value task).passedCap = some server →
        (pool.task task).passedCap = some server := by
    intro actor value kept updated
    rwa [read_update Task.passedCap rfl kept] at updated
  cases stepped with
  | refused | called | received => exact Or.inl (bare rfl passed)
  | missed locked acquiring moves =>
      rcases moves with ⟨_, rfl⟩ | ⟨_, rfl⟩ <;>
        exact Or.inl (bare (by cases ‹Bool› <;> rfl) passed)
  | hit | lockedOpen | registered | lockedWriter | wrote | unwritten
  | markedDead | touched | disconnected | expired =>
      exact Or.inl (bare (by cases ‹Bool› <;> rfl) passed)
  | capped | unreachable | notAllocated =>
      exact Or.inl (bare (by simp) passed)
  | @roomy actor call forced free acquiring room =>
      rw [length_retained] at room
      by_cases same : task = actor
      · simp only [setTask, same, Function.update_self] at passed
        cases forced with
        | false =>
            cases passed
            exact Or.inr room
        | true => cases passed
      · simp only [setTask, Function.update_of_ne same] at passed
        exact Or.inl passed
  | loaded acquiring | connected acquiring | allocated acquiring =>
      refine Or.inl (moved ?_ passed)
      rw [acquiring]
      cases ‹Bool› <;> rfl
  | armed =>
      simp only [setTask, setConn, setChan, settle_task] at passed
      exact Or.inl (bare (by cases ‹Bool› <;> rfl) passed)
  | removed =>
      simp only [setTask, setConn, settle_task] at passed
      exact Or.inl (bare (by simp) passed)
  | strayed | answered =>
      simp only [deliver, setConn, settle_task] at passed
      exact Or.inl passed
  | _ => exact Or.inl passed

theorem Roomy.step (wellFormed : pool.WellFormed) (roomy : pool.Roomy)
    (stepped : Stepped pool event next) : next.Roomy := by
  intro task server passed
  by_cases other : ∀ task, event ≠ .register task
  · apply Nat.lt_of_le_of_lt (stepped.liveCount_le wellFormed other server)
    rcases stepped.passedCap passed with before | room
    · exact roomy task server before
    · exact room
  · -- After a registration nobody holds the lock for opening.
    simp only [not_forall, ne_eq, not_not] at other
    obtain ⟨actor, rfl⟩ := other
    have opener := (wellFormed.step stepped).opener
      (Task.holdsOpen_of_passedCap passed)
    cases stepped
    cases opener

/-- A registration keeps the cap exactly if a forced one finds room. -/
theorem withinCap_registered {task : TaskId} {call : Call} {forced : Bool}
    {lease : Lease} (wellFormed : pool.WellFormed) (roomy : pool.Roomy)
    (within : pool.WithinCap)
    (leased : pool.task task = .leased call forced lease .register) :
    WithinCap
      { pool.setTask task (.leased call forced lease .acquired) with
        conns := pool.conns ++ [lease.conn]
        openLock := none } ↔
      pool.ForcedFindsRoom (.register task) := by
  constructor
  · intro stays called held forcedLease alive
    rw [leased] at forcedLease
    cases forcedLease
    have count := stays call.server
    rw [liveCount_registered wellFormed leased, if_pos ⟨alive, rfl⟩] at count
    omega
  · intro finds server
    rw [liveCount_registered wellFormed leased]
    by_cases counted :
        (pool.conn lease.conn).alive = true ∧ call.server = server
    · rw [if_pos counted]
      obtain ⟨alive, rfl⟩ := counted
      cases forced with
      | true => exact finds call lease leased alive
      | false =>
          apply roomy task
          rw [leased]
          rfl
    · rw [if_neg counted]
      exact within server

/-- What holds as long as the cap does. -/
structure Capped (pool : Pool) : Prop where
  wellFormed : pool.WellFormed
  roomy : pool.Roomy
  within : pool.WithinCap

theorem capped_new (proxy : ProxyConfig) (idleTimeout : Nat) :
    (new proxy idleTimeout).Capped where
  wellFormed := wellFormed_new proxy idleTimeout
  roomy := by
    intro task server passed
    cases passed
  within := fun _ => Nat.zero_le _

theorem Capped.withinCap_iff (capped : pool.Capped)
    (stepped : Stepped pool event next) :
    next.WithinCap ↔ pool.ForcedFindsRoom event := by
  by_cases other : ∀ task, event ≠ .register task
  · apply iff_of_true
    · intro server
      exact Nat.le_trans
        (stepped.liveCount_le capped.wellFormed other server)
        (capped.within server)
    · cases event with
      | register task => exact absurd rfl (other task)
      | _ => trivial
  · simp only [not_forall, ne_eq, not_not] at other
    obtain ⟨actor, rfl⟩ := other
    cases stepped with
    | registered free leased =>
        exact withinCap_registered capped.wellFormed capped.roomy
          capped.within leased

/-- In every interleaving, the buckets stay within the cap exactly if forced
attempts register live connections only where there is room. -/
theorem always_withinCap_iff (proxy : ProxyConfig) (idleTimeout : Nat)
    (events : List Event) :
    Always step WithinCap (new proxy idleTimeout) events ↔
      EveryStep step ForcedFindsRoom (new proxy idleTimeout) events := by
  refine always_iff_everyStep (fun _ => True) ?_ ?_ ?_
    (capped_new proxy idleTimeout) (fun _ _ => trivial)
  · intro pool capped
    exact capped.within
  · intro pool event next _ capped stepped
    exact capped.withinCap_iff (stepped_of_step stepped)
  · intro pool event next _ capped stepped finds
    have outcome := stepped_of_step stepped
    exact ⟨capped.wellFormed.step outcome,
      capped.roomy.step capped.wellFormed outcome,
      (capped.withinCap_iff outcome).mpr finds⟩

end Pool

/-! ## Too many forced attempts -/

/-- A first attempt that finds no connection and cannot open one. -/
def unreachableAttempt (task : TaskId) : List Event :=
  [.call task exampleServer exampleQuery, .lockConns task, .tryNext task,
    .lockOpen task, .lockConns task, .tryNext task, .checkCap task,
    .loadProxy task, .connect task false]

/-- A second attempt that opens a connection and registers it. -/
def forcedAttempt (task : TaskId) : List Event :=
  [.lockOpen task, .loadProxy task, .connect task true, .allocateFresh task,
    .register task]

/-- Nine calls fail while the proxy is away and retry once it is back. -/
def retryStorm : List Event :=
  (List.range 9).flatMap unreachableAttempt ++
    (List.range 9).flatMap forcedAttempt

theorem withinCap_lost_by_retries :
    ¬Always Pool.step Pool.WithinCap (Pool.new exampleProxy 60)
      retryStorm := by
  intro always
  have count : ((run Pool.step (Pool.new exampleProxy 60) retryStorm).map
      fun pool => pool.liveCount exampleServer) = some 9 := by
    decide +kernel
  obtain ⟨final, completed, nine⟩ := Option.map_eq_some_iff.mp count
  have within := always.final completed exampleServer
  rw [nine] at within
  exact absurd within (by decide)

end Cortado.Dns
