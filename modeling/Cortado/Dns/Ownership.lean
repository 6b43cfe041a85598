import Cortado.Dns.Multiplex

/-!
# The map of queries in flight

Under the assumptions on the server and on the timing, the map of a connection
that is still read holds one entry for each query without an answer, and no
other.  So nothing is left behind when the queries are over, and `prune`, which
looks at the map and decides later, evicts no connection with a query in
flight.
-/

namespace Cortado.Dns

open Multiplexer Transition

def Event.ofPrune : Event → Bool
  | .pruneLock _ | .pruneVisit _ | .pruneLast | .pruneEmpty | .pruneDecide
  | .pruneUnlock => true
  | _ => false

theorem Progress.stage_reserved {progress : Progress} :
    progress.stage = .reserved ↔
      progress = .register ∨ progress = .acquired := by
  cases progress <;> simp [stage]

namespace Pool

/-- The task has taken the identifier on the connection, has no answer, and
has not given the identifier back. -/
def Outstanding (pool : Pool) (conn : ConnId) (id : UInt16) (task : TaskId) :
    Prop :=
  ∃ call forced lease progress,
    pool.task task = .leased call forced lease progress ∧
    lease.conn = conn ∧ lease.id = id ∧
    (progress = .register ∨ progress = .acquired ∨
      ∀ body, pool.chan (task, forced) ≠ .answered body)

/-- The reader of the connection has not cleared its map. -/
def Open (pool : Pool) (conn : ConnId) : Prop :=
  conn < pool.nextConn ∧ (pool.conn conn).reader ≠ .finished

structure InflightOwned (pool : Pool) : Prop where
  keys : ∀ {conn}, pool.Open conn → ∀ id,
    id ∈ (pool.conn conn).inflight ↔ ∃ task, pool.Outstanding conn id task
  distinct : ∀ {conn id task other}, pool.Open conn →
    pool.Outstanding conn id task → pool.Outstanding conn id other →
      task = other
  empty : ∀ {conn}, pool.Open conn →
    (∀ id task, ¬pool.Outstanding conn id task) →
      (pool.conn conn).inflight.keys.isEmpty = true
  evicts : ∀ {event next conn}, event.ofPrune = true →
    step pool event = some next → conn ∈ pool.conns → conn ∉ next.conns →
      (pool.conn conn).alive = true →
        ∀ id task, ¬pool.Outstanding conn id task

variable {pool next : Pool} {event : Event}

/-! ## Reading the view -/

theorem view_closed {conn : ConnId} (isOpen : pool.Open conn) :
    pool.view.closed conn = false := by
  simp [view, isOpen.2]

theorem open_of_view {conn : ConnId} (born : conn < pool.nextConn)
    (isOpen : pool.view.closed conn = false) : pool.Open conn := by
  simp only [view, born, decide_true, Bool.true_and, decide_eq_false_iff_not]
    at isOpen
  exact ⟨born, isOpen⟩

theorem outstanding_iff {conn : ConnId} {id : UInt16} {task : TaskId} :
    pool.Outstanding conn id task ↔
      ∃ forced lease, pool.view.lease (task, forced) = some lease ∧
        lease.conn = conn ∧ lease.id = id ∧
        Unanswered pool.view (task, forced) lease := by
  constructor
  · rintro ⟨call, forced, lease, progress, leased, rfl, rfl, silent⟩
    refine ⟨forced, _, view_lease leased, rfl, rfl, ?_⟩
    rw [← or_assoc, ← Progress.stage_reserved] at silent
    exact silent
  · rintro ⟨forced, held, leased, rfl, rfl, silent⟩
    obtain ⟨call, lease, progress, isLeased, rfl⟩ := of_view_lease leased
    refine ⟨call, forced, lease, progress, isLeased, rfl, rfl, ?_⟩
    rw [← or_assoc, ← Progress.stage_reserved]
    exact silent

theorem isEmpty_keys_iff {inflight : Inflight} :
    inflight.keys.isEmpty = true ↔ ∀ id, id ∉ inflight := by
  rw [List.isEmpty_iff, List.eq_nil_iff_forall_not_mem]
  rfl

namespace Faithful

variable (faithful : pool.Faithful) {conn : ConnId} (isOpen : pool.Open conn)

include faithful isOpen

theorem mem_inflight_iff (id : UInt16) :
    id ∈ (pool.conn conn).inflight ↔
      ∃ task, pool.Outstanding conn id task := by
  have slots := faithful.view.held.slot_iff faithful.view.owned
    (view_closed isOpen) id
  rw [← AList.lookup_isSome, Option.isSome_iff_ne_none]
  refine slots.trans ?_
  constructor
  · rintro ⟨⟨task, forced⟩, lease, leased⟩
    exact ⟨task, outstanding_iff.mpr ⟨forced, lease, leased⟩⟩
  · rintro ⟨task, outstanding⟩
    obtain ⟨forced, lease, leased⟩ := outstanding_iff.mp outstanding
    exact ⟨(task, forced), lease, leased⟩

theorem outstanding_unique {id : UInt16} {task other : TaskId}
    (outstanding : pool.Outstanding conn id task)
    (otherOutstanding : pool.Outstanding conn id other) : task = other := by
  obtain ⟨forced, lease, leased, rfl, rfl, unanswered⟩ :=
    outstanding_iff.mp outstanding
  obtain ⟨otherForced, otherLease, otherLeased, sameConn, sameId,
    otherUnanswered⟩ := outstanding_iff.mp otherOutstanding
  have sameOwner := faithful.view.held.distinct leased otherLeased
    (view_closed isOpen) unanswered otherUnanswered sameConn sameId
  exact congrArg Prod.fst sameOwner

theorem isEmpty_inflight_iff :
    (pool.conn conn).inflight.keys.isEmpty = true ↔
      ∀ id task, ¬pool.Outstanding conn id task := by
  rw [isEmpty_keys_iff]
  simp only [faithful.mem_inflight_iff isOpen, not_exists]

end Faithful

/-! ## The visit of `prune` -/

/-- `prune` has seen no query in the map of the connection. -/
def SeenEmpty (pool : Pool) (conn : ConnId) : Prop :=
  ∃ now todo last,
    pool.connsLock = .prune now todo (some (.inspected conn last true))

theorem SeenEmpty.stored {conn : ConnId} (wellFormed : pool.WellFormed)
    (seen : pool.SeenEmpty conn) : conn ∈ pool.conns := by
  obtain ⟨now, todo, last, locked⟩ := seen
  exact wellFormed.looking_stored locked

theorem Stepped.seenEmpty (stepped : Stepped pool event next) {conn : ConnId}
    (seen : next.SeenEmpty conn) :
    pool.SeenEmpty conn ∨
      next.view = pool.view ∧
        (pool.conn conn).inflight.keys.isEmpty = true := by
  obtain ⟨now, todo, last, locked⟩ := seen
  cases stepped with
  | lockedConns | missed | full | hit | pruning | pruned | visited | lastRead
  | evicted | kept | unlocked => cases locked
  | emptyRead =>
      right
      simp only [ConnsLock.prune.injEq, Option.some.injEq,
        PruneVisit.inspected.injEq] at locked
      obtain ⟨rfl, rfl, rfl, rfl, empty⟩ := locked
      exact ⟨rfl, empty⟩
  | armed | removed | strayed | answered =>
      simp only [deliver, setTask, setConn, setChan, settle_connsLock]
        at locked
      exact Or.inl ⟨now, todo, last, locked⟩
  | _ => exact Or.inl ⟨now, todo, last, locked⟩

/-- While `prune` holds the lock, no query takes an identifier on a stored
connection. -/
theorem Stepped.not_leased (wellFormed : pool.WellFormed)
    (stepped : Stepped pool event next) {conn : ConnId}
    (seen : pool.SeenEmpty conn) {owner : AttemptId}
    {held : Multiplexer.Lease ConnId UInt16}
    (idle : pool.view.lease owner = none)
    (leased : next.view.lease owner = some held) : held.conn ≠ conn := by
  rintro rfl
  obtain ⟨call, lease, progress, isLeased, rfl⟩ := of_view_lease leased
  rcases stepped.leases isLeased with
    ⟨before, wasLeased⟩ | ⟨rest, scanning⟩ | ⟨called, again, fresh⟩
  · rw [view_lease wasLeased] at idle
    cases idle
  · obtain ⟨now, todo, last, locked⟩ := seen
    rw [locked] at scanning
    cases scanning
  · have unstored : lease.conn ∉ pool.conns := by
      apply wellFormed.apart
      · rw [fresh]
        rfl
      · rw [fresh]
        rfl
    exact unstored (seen.stored wellFormed)

/-! ## The invariant -/

structure Owning (pool : Pool) : Prop where
  faithful : pool.Faithful
  reading : ∀ {conn}, conn < pool.nextConn → (pool.conn conn).Reading
  unused : ∀ {conn}, pool.SeenEmpty conn → pool.Open conn →
    ∀ id, pool.view.slot conn id = none

theorem owning_new (proxy : ProxyConfig) (idleTimeout : Nat) :
    (new proxy idleTimeout).Owning where
  faithful := faithful_new proxy idleTimeout
  reading := by
    intro conn born
    cases born
  unused := by
    rintro conn ⟨now, todo, last, locked⟩
    cases locked

theorem Owning.reading_step (owning : pool.Owning)
    (stepped : Stepped pool event next) {conn : ConnId}
    (born : conn < next.nextConn) : (next.conn conn).Reading := by
  by_cases wasBorn : conn < pool.nextConn
  · exact (stepped.continues wasBorn).reading (owning.reading wasBorn)
  · obtain ⟨task, call, forced, proxy, epoch, _, isFresh⟩ :=
      stepped.born born wasBorn
    rw [isFresh]
    intro _
    exact Or.inl rfl

/-- What `prune` has seen stays true until it decides. -/
theorem Owning.unused_step (owning : pool.Owning)
    (stepped : Stepped pool event next) (assumed : pool.Assumed event)
    {conn : ConnId} (seen : next.SeenEmpty conn) (isOpen : next.Open conn)
    (id : UInt16) : next.view.slot conn id = none := by
  have wellFormed := owning.faithful.wellFormed
  have honest : False ∨ pool.Honest event := Or.inr assumed.2
  rcases stepped.seenEmpty seen with before | ⟨same, empty⟩
  · have born := wellFormed.pooled (before.stored wellFormed)
    rcases stepped.simulates wellFormed honest with same | moved
    · rw [same]
      apply owning.unused before
      apply open_of_view born
      rw [← same]
      exact view_closed isOpen
    · have wasOpen : pool.view.closed conn = false := by
        by_contra closed
        have stays := moved.closed (Bool.eq_true_of_not_eq_false closed)
        rw [view_closed isOpen] at stays
        cases stays
      have unused := owning.unused before (open_of_view born wasOpen)
      rcases owning.faithful.view.held.vacant_step wasOpen unused moved with
        vacant | ⟨owner, lease, idle, leased, here⟩
      · exact vacant id
      · exact absurd here (stepped.not_leased wellFormed before idle leased)
  · rw [same]
    exact AList.lookup_eq_none.mpr (isEmpty_keys_iff.mp empty id)

theorem Owning.step (owning : pool.Owning)
    (stepped : Stepped pool event next) (assumed : pool.Assumed event) :
    next.Owning where
  faithful := owning.faithful.step stepped assumed
  reading := owning.reading_step stepped
  unused := owning.unused_step stepped assumed

/-- A live connection leaves the map in `prune` only when it was seen
empty. -/
theorem Stepped.evicts (stepped : Stepped pool event next)
    (isPrune : event.ofPrune = true) {conn : ConnId}
    (stored : conn ∈ pool.conns) (unstored : conn ∉ next.conns)
    (alive : (pool.conn conn).alive = true) : pool.SeenEmpty conn := by
  have erased : ∀ {other}, conn ∉ pool.conns.erase other → conn = other := by
    intro other absent
    by_contra different
    exact absent ((List.mem_erase_of_ne different).mpr stored)
  cases stepped with
  | pruned locked member dead =>
      rw [erased unstored, dead] at alive
      cases alive
  | evicted locked idle =>
      rw [erased unstored]
      exact ⟨_, _, _, locked⟩
  | pruning | visited | lastRead | emptyRead | kept | unlocked =>
      exact absurd stored unstored
  | _ => cases isPrune

theorem Owning.inflightOwned (owning : pool.Owning) :
    pool.InflightOwned where
  keys := owning.faithful.mem_inflight_iff
  distinct := by
    intro conn id task other isOpen outstanding otherOutstanding
    exact owning.faithful.outstanding_unique isOpen outstanding
      otherOutstanding
  empty := by
    intro conn isOpen none
    exact (owning.faithful.isEmpty_inflight_iff isOpen).mpr none
  evicts := by
    intro event next conn isPrune stepped stored unstored alive
    have born := owning.faithful.wellFormed.pooled stored
    have isOpen : pool.Open conn := by
      refine ⟨born, ?_⟩
      intro finished
      have reads := owning.reading born alive
      simp [finished] at reads
    have seen := (stepped_of_step stepped).evicts isPrune stored unstored alive
    apply (owning.faithful.isEmpty_inflight_iff isOpen).mp
    rw [isEmpty_keys_iff]
    intro id
    exact AList.lookup_eq_none.mp (owning.unused seen isOpen id)

end Pool

end Cortado.Dns
