import Cortado.Dns.PoolFrame

/-!
# Switching the proxy under running calls

`set_proxy` stores the new proxy and then empties the map.  A connection is
opened through the proxy that was loaded before `tcp_connect`, and stored when
that returns, so a switch that completes in between does not see it.  If no
such connection is ever registered, the map only holds connections through
the current proxy, and a call never uses one that is older than the switches
completed before it.
-/

namespace Cortado.Dns

open Net Transition

namespace Pool

/-- While no `set_proxy` is in progress, stored connections go through the
current proxy; and no call works on a connection opened before a switch that
was complete when it started. -/
structure Isolated (pool : Pool) : Prop where
  stored : pool.switches = [] → ∀ conn ∈ pool.conns,
    (pool.conn conn).proxy = pool.proxy
  used : ∀ {task call forced lease progress},
    pool.task task = .leased call forced lease progress →
      call.since ≤ (pool.conn lease.conn).epoch

/-- The lease whose connection an event registers. -/
def registering (pool : Pool) : Event → Option Lease
  | .register task =>
      match pool.task task with
      | .leased _ _ lease .register => some lease
      | _ => none
  | _ => none

/-- A connection is registered only if no switch has completed since its
proxy was loaded. -/
def RegistersCurrent (pool : Pool) (event : Event) : Prop :=
  ∀ lease ∈ pool.registering event,
    pool.completed ≤ (pool.conn lease.conn).epoch

instance (pool : Pool) (event : Event) :
    Decidable (pool.RegistersCurrent event) :=
  inferInstanceAs (Decidable (∀ lease ∈ pool.registering event, _))

/-- The proxy a task has loaded, or its connection has, is not older than its
call. -/
def Current (pool : Pool) : Task → Prop
  | .acquiring call _ (.connecting proxy epoch) =>
      call.since ≤ epoch ∧ epoch ≤ pool.epoch ∧
        (epoch = pool.epoch → proxy = pool.proxy)
  | .acquiring call _ (.fresh conn) => call.since ≤ (pool.conn conn).epoch
  | .leased call _ lease _ => call.since ≤ (pool.conn lease.conn).epoch
  | _ => True

structure Switching (pool : Pool) : Prop where
  wellFormed : pool.WellFormed
  completed : pool.completed ≤ pool.epoch
  latest : pool.epoch ∈ pool.switches ∨ pool.completed = pool.epoch
  pending : ∀ {epoch}, epoch ∈ pool.switches → epoch ≤ pool.epoch
  opened : ∀ {conn}, conn < pool.nextConn →
    (pool.conn conn).epoch ≤ pool.epoch ∧
      ((pool.conn conn).epoch = pool.epoch →
        (pool.conn conn).proxy = pool.proxy)
  stored : ∀ {conn}, conn ∈ pool.conns →
    pool.completed ≤ (pool.conn conn).epoch
  called : ∀ {task call}, (pool.task task).call? = some call →
    call.since ≤ pool.completed
  current : ∀ task, pool.Current (pool.task task)

variable {pool next : Pool} {event : Event}

theorem Switching.isolated (switching : pool.Switching) : pool.Isolated where
  stored := by
    intro idle conn member
    have complete : pool.completed = pool.epoch := by
      rcases switching.latest with pending | complete
      · rw [idle] at pending
        cases pending
      · exact complete
    have opened := switching.opened (switching.wellFormed.pooled member)
    have recent := switching.stored member
    exact opened.2 (by omega)
  used := by
    intro task call forced lease progress leased
    have current := switching.current task
    rw [leased] at current
    exact current

theorem switching_new (proxy : ProxyConfig) (idleTimeout : Nat) :
    (new proxy idleTimeout).Switching where
  wellFormed := wellFormed_new proxy idleTimeout
  completed := Nat.le_refl _
  latest := Or.inr rfl
  pending := by
    intro epoch member
    cases member
  opened := by
    intro conn born
    exact absurd born (Nat.not_lt_zero _)
  stored := by
    intro conn member
    cases member
  called := by
    intro task call called
    cases called
  current := fun _ => trivial

/-- What a task has loaded stays current in that sense. -/
theorem Current.mono {task : Task} (current : pool.Current task)
    (epochs : pool.epoch < next.epoch ∨
      (next.epoch = pool.epoch ∧ next.proxy = pool.proxy))
    (conns : ∀ conn, task.conn? = some conn →
      (next.conn conn).epoch = (pool.conn conn).epoch) :
    next.Current task := by
  cases task with
  | idle => trivial
  | done call result => trivial
  | acquiring call forced stage =>
      cases stage with
      | connecting proxy epoch =>
          obtain ⟨since, bound, sameProxy⟩ := current
          rcases epochs with later | ⟨sameEpoch, sameStored⟩
          · exact ⟨since, by omega, by omega⟩
          · refine ⟨since, by omega, ?_⟩
            rw [sameEpoch, sameStored]
            exact sameProxy
      | fresh conn =>
          change call.since ≤ (next.conn conn).epoch
          rw [conns conn rfl]
          exact current
      | _ => trivial
  | leased call forced lease progress =>
      change call.since ≤ (next.conn lease.conn).epoch
      rw [conns lease.conn rfl]
      exact current

/-- The proxy and the records of its switches change by `set_proxy` only. -/
theorem Stepped.proxy_frame (stepped : Stepped pool event next)
    (notStore : ∀ proxy, event ≠ .storeProxy proxy)
    (notClear : ∀ epoch, event ≠ .clearConns epoch) :
    next.proxy = pool.proxy ∧ next.epoch = pool.epoch ∧
      next.completed = pool.completed ∧ next.switches = pool.switches := by
  cases stepped with
  | stored => exact absurd rfl (notStore _)
  | cleared free switching => exact absurd rfl (notClear _)
  | armed leased | removed leased =>
      simp only [setTask, setConn, setChan]
      rw [settle_eq]
      exact ⟨rfl, rfl, rfl, rfl⟩
  | strayed running identified
  | answered running found unanswered identified =>
      simp only [deliver, setConn]
      rw [settle_eq]
      exact ⟨rfl, rfl, rfl, rfl⟩
  | _ => exact ⟨rfl, rfl, rfl, rfl⟩

@[simp] theorem current_conclude (pool : Pool) (call : Call) (forced : Bool)
    (outcome : Outcome) : pool.Current (.conclude call forced outcome) := by
  cases outcome <;> cases forced <;> trivial

theorem Switching.current_step (switching : pool.Switching)
    (stepped : Stepped pool event next)
    (notStore : ∀ proxy, event ≠ .storeProxy proxy)
    (notClear : ∀ epoch, event ≠ .clearConns epoch) (task : TaskId) :
    next.Current (next.task task) := by
  obtain ⟨sameProxy, sameEpoch, _, _⟩ := stepped.proxy_frame notStore notClear
  have epochOf : ∀ {conn}, conn < pool.nextConn →
      (next.conn conn).epoch = (pool.conn conn).epoch :=
    fun born => (stepped.continues born).epoch
  have kept : ∀ other {value}, pool.task other = value →
      next.Current value := by
    rintro other value rfl
    apply (switching.current other).mono (Or.inr ⟨sameEpoch, sameProxy⟩)
    intro conn holds
    exact epochOf (switching.wellFormed.held holds)
  have acts : ∀ actor value,
      next.task = Function.update pool.task actor value →
        next.Current value → next.Current (next.task task) := by
    intro actor value updated current
    rw [updated]
    by_cases same : task = actor
    · simpa [same] using current
    · simpa [same] using kept task rfl
  have since : ∀ {actor call forced stage},
      pool.task actor = .acquiring call forced stage →
        call.since ≤ pool.completed := by
    intro actor call forced stage acquiring
    have called : (pool.task actor).call? = some call := by
      rw [acquiring]
      rfl
    exact switching.called called
  cases stepped with
  | refused | called | received | roomy => exact acts _ _ rfl trivial
  | missed locked acquiring moves =>
      refine acts _ _ rfl ?_
      rcases moves with ⟨_, rfl⟩ | ⟨_, rfl⟩ <;> trivial
  | @hit actor call forced stage conn rest draw locked acquiring =>
      have stored := switching.wellFormed.scanned locked
      refine acts _ _ rfl ?_
      change call.since ≤ Conn.epoch _
      rw [epochOf (switching.wellFormed.pooled stored)]
      exact Nat.le_trans (since acquiring) (switching.stored stored)
  | lockedOpen =>
      refine acts _ _ rfl ?_
      cases ‹Bool› <;> trivial
  | capped | unreachable | notAllocated =>
      exact acts _ _ rfl (current_conclude _ _ _ _)
  | loaded acquiring =>
      refine acts _ _ rfl ⟨?_, Nat.le_refl _, fun _ => rfl⟩
      exact Nat.le_trans (since acquiring) switching.completed
  | @connected actor call forced proxy epoch acquiring =>
      have current := switching.current actor
      rw [acquiring] at current
      refine acts _ _ rfl ?_
      change call.since ≤ Conn.epoch _
      simp only [setTask, setConn_conn, Function.update_self]
      exact current.1
  | @allocated actor call forced conn draw acquiring =>
      have current := kept actor acquiring
      exact acts _ _ rfl current
  | registered free leased | lockedWriter leased | unwritten leased
  | wrote leased | markedDead leased | touched leased | disconnected leased
  | expired leased =>
      have current := kept _ leased
      exact acts _ _ rfl current
  | @armed actor call forced lease leased =>
      have current := kept actor leased
      refine acts actor (.leased call forced lease .ready) ?_ current
      simp only [setTask, setConn, setChan, settle_task]
  | @removed actor call forced lease error leased =>
      refine acts actor (.conclude call forced error.outcome) ?_
        (current_conclude _ _ _ _)
      simp only [setTask, setConn, settle_task]
  | strayed | answered => exact kept task (by simp [deliver, setConn])
  | _ => exact kept task rfl

theorem Switching.stored_step (switching : pool.Switching)
    (stepped : Stepped pool event next) (registers : pool.RegistersCurrent event)
    {conn : ConnId} (member : conn ∈ next.conns) :
    conn < pool.nextConn ∧ pool.completed ≤ (pool.conn conn).epoch := by
  have before : ∀ {conn}, conn ∈ pool.conns →
      conn < pool.nextConn ∧ pool.completed ≤ (pool.conn conn).epoch :=
    fun member =>
      ⟨switching.wellFormed.pooled member, switching.stored member⟩
  by_cases other : ∀ task, event ≠ .register task
  · exact before ((stepped.conns_sublist other).subset member)
  · simp only [not_forall, ne_eq, not_not] at other
    obtain ⟨task, rfl⟩ := other
    cases stepped with
    | registered free leased =>
        rcases List.mem_append.mp member with isOld | isNew
        · exact before isOld
        · cases List.mem_singleton.mp isNew
          refine ⟨switching.wellFormed.held_leased leased, ?_⟩
          apply registers
          simp [registering, leased]

/-- Steps other than those of `set_proxy`. -/
theorem Switching.step_other (switching : pool.Switching)
    (stepped : Stepped pool event next) (registers : pool.RegistersCurrent event)
    (notStore : ∀ proxy, event ≠ .storeProxy proxy)
    (notClear : ∀ epoch, event ≠ .clearConns epoch) : next.Switching := by
  have nextWellFormed := switching.wellFormed.step stepped
  obtain ⟨sameProxy, sameEpoch, sameCompleted, sameSwitches⟩ :=
    stepped.proxy_frame notStore notClear
  refine
    { wellFormed := nextWellFormed
      completed := ?_
      latest := ?_
      pending := ?_
      opened := ?_
      stored := ?_
      called := ?_
      current := switching.current_step stepped notStore notClear }
  · rw [sameCompleted, sameEpoch]
    exact switching.completed
  · rw [sameCompleted, sameEpoch, sameSwitches]
    exact switching.latest
  · rw [sameEpoch, sameSwitches]
    exact switching.pending
  · intro conn bound
    rw [sameEpoch, sameProxy]
    by_cases before : conn < pool.nextConn
    · have continued := stepped.continues before
      rw [continued.epoch, continued.proxy]
      exact switching.opened before
    · obtain ⟨task, call, forced, proxy, epoch, connecting, isFresh⟩ :=
        stepped.born bound before
      have current := switching.current task
      rw [connecting] at current
      rw [isFresh]
      exact current.2
  · intro conn member
    obtain ⟨before, recent⟩ := switching.stored_step stepped registers member
    rw [sameCompleted, (stepped.continues before).epoch]
    exact recent
  · intro task call called
    rw [sameCompleted]
    rcases stepped.call? task with kept | ⟨_, new, isCalled, since, _⟩
    · rw [kept] at called
      exact switching.called called
    · rw [isCalled] at called
      cases called
      exact Nat.le_of_eq since

theorem Switching.store (switching : pool.Switching) (proxy : ProxyConfig) :
    Switching
      { pool with
        proxy := proxy
        epoch := pool.epoch + 1
        switches := (pool.epoch + 1) :: pool.switches } where
  wellFormed := switching.wellFormed.setOthers _ _ _ _ _ _
  completed := Nat.le_succ_of_le switching.completed
  latest := Or.inl List.mem_cons_self
  pending := by
    intro epoch member
    rcases List.mem_cons.mp member with rfl | before
    · exact Nat.le_refl _
    · exact Nat.le_succ_of_le (switching.pending before)
  opened := by
    intro conn bound
    have earlier := (switching.opened bound).1
    refine ⟨Nat.le_succ_of_le earlier, ?_⟩
    intro same
    dsimp only at same
    omega
  stored := switching.stored
  called := switching.called
  current := by
    intro task
    apply (switching.current task).mono
    · exact Or.inl (Nat.lt_succ_self _)
    · intro conn _
      rfl

theorem Switching.clear (switching : pool.Switching) {epoch : Nat}
    (free : pool.connsLock = .free) (member : epoch ∈ pool.switches) :
    Switching
      { pool with
        conn := fun conn =>
          if conn ∈ pool.conns then { pool.conn conn with alive := false }
          else pool.conn conn
        conns := []
        completed := max pool.completed epoch
        switches := pool.switches.erase epoch } := by
  have sameEpoch : ∀ conn,
      (if conn ∈ pool.conns then { pool.conn conn with alive := false }
        else pool.conn conn).epoch = (pool.conn conn).epoch := by
    intro conn
    split <;> rfl
  have sameProxy : ∀ conn,
      (if conn ∈ pool.conns then { pool.conn conn with alive := false }
        else pool.conn conn).proxy = (pool.conn conn).proxy := by
    intro conn
    split <;> rfl
  refine
    { wellFormed := switching.wellFormed.clear _ _ free
      completed := Nat.max_le.mpr
        ⟨switching.completed, switching.pending member⟩
      latest := ?_
      pending := fun pending =>
        switching.pending (List.mem_of_mem_erase pending)
      opened := ?_
      stored := ?_
      called := fun called =>
        Nat.le_trans (switching.called called) (Nat.le_max_left _ _)
      current := ?_ }
  · by_cases last : epoch = pool.epoch
    · right
      rw [last]
      exact Nat.max_eq_right switching.completed
    · rcases switching.latest with pending | complete
      · exact Or.inl ((List.mem_erase_of_ne (Ne.symm last)).mpr pending)
      · right
        rw [complete]
        exact Nat.max_eq_left (switching.pending member)
  · intro conn bound
    dsimp only
    rw [sameEpoch, sameProxy]
    exact switching.opened bound
  · intro conn stored
    cases stored
  · intro task
    apply (switching.current task).mono
    · exact Or.inr ⟨rfl, rfl⟩
    · intro conn _
      exact sameEpoch conn

theorem Switching.step (switching : pool.Switching)
    (stepped : Stepped pool event next)
    (registers : pool.RegistersCurrent event) : next.Switching := by
  cases event with
  | storeProxy proxy =>
      cases stepped
      exact switching.store proxy
  | clearConns epoch =>
      cases stepped with
      | cleared free member => exact switching.clear free member
  | _ => exact switching.step_other stepped registers (by simp) (by simp)

/-- In every interleaving in which no connection is registered after a switch
that its proxy predates, the pool is isolated from earlier proxies. -/
theorem always_isolated {proxy : ProxyConfig} {idleTimeout : Nat}
    {events : List Event}
    (registers : EveryStep step RegistersCurrent (new proxy idleTimeout)
      events) :
    Always step Isolated (new proxy idleTimeout) events := by
  have switching : Always step Switching (new proxy idleTimeout) events := by
    apply EveryStep.always _ (switching_new proxy idleTimeout) registers
    intro pool event next before stepped current
    exact before.step (stepped_of_step stepped) current
  apply switching.mono
  intro pool holds
  exact holds.isolated

end Pool

def otherProxy : ProxyConfig :=
  { exampleProxy with addr := .v4 (Ipv4Addr.ofOctets 127 0 0 2) 1080 }

/-- A call up to the point where it waits for `tcp_connect`. -/
def connectingCall (task : TaskId) : List Event :=
  [.call task exampleServer exampleQuery, .lockConns task, .tryNext task,
    .lockOpen task, .lockConns task, .tryNext task, .checkCap task,
    .loadProxy task]

def registration (task : TaskId) : List Event :=
  [.connect task true, .allocateFresh task, .register task]

/-- A call through each proxy, with the switch between the two calls. -/
def switchBetweenCalls : List Event :=
  connectingCall 0 ++ registration 0 ++ [.storeProxy otherProxy,
    .clearConns 1] ++ connectingCall 1 ++ registration 1

theorem always_isolated_between_calls :
    Always Pool.step Pool.Isolated (Pool.new exampleProxy 60)
      switchBetweenCalls ∧
    (run Pool.step (Pool.new exampleProxy 60) switchBetweenCalls).isSome := by
  constructor
  · apply Pool.always_isolated
    decide +kernel
  · decide +kernel

/-- The switch completes while a call waits for `tcp_connect`, and another
call follows. -/
def switchWhileConnecting : List Event :=
  connectingCall 0 ++ [.storeProxy otherProxy, .clearConns 1] ++
    registration 0 ++ [.call 1 exampleServer exampleQuery, .lockConns 1,
      .tryNext 1]

theorem isolated_lost_while_connecting :
    ∃ final, run Pool.step (Pool.new exampleProxy 60) switchWhileConnecting =
        some final ∧
      (final.switches = [] ∧
        ∃ conn ∈ final.conns, (final.conn conn).proxy ≠ final.proxy) ∧
      ∃ call lease, final.task 1 = .leased call false lease .acquired ∧
        (final.conn lease.conn).epoch < call.since := by
  have completes : (run Pool.step (Pool.new exampleProxy 60)
      switchWhileConnecting).isSome := by
    decide +kernel
  refine ⟨_, (Option.some_get completes).symm, ⟨?_, 0, ?_, ?_⟩,
    { server := exampleServer, query := exampleQuery, since := 1 },
    { conn := 0, draw := 1 }, ?_, ?_⟩ <;> decide +revert +kernel

end Cortado.Dns
