import Cortado.Dns.Multiplex

/-!
# Queries on a connection whose reader is gone

The reader drops every sender in the map when it ends, so an attempt that
waits for one of them is told to retry.  An attempt that was handed the
connection before but inserts its sender afterwards is not: if its write
still succeeds, it waits until the query timeout.  This is the only way to be
stranded.
-/

namespace Cortado.Dns

open Multiplexer Transition

namespace Pool

/-- An attempt waits for a reply, the reader of its connection has finished,
and its sender is still in the map. -/
def Stranded (pool : Pool) (task : TaskId) : Prop :=
  ∃ call forced lease progress,
    pool.task task = .leased call forced lease progress ∧
    (progress = .written ∨ progress = .waiting) ∧
    (pool.conn lease.conn).reader = .finished ∧
    (pool.conn lease.conn).inflight.lookup lease.id =
      some { owner := (task, forced), armed := true }

/-- Nobody is stranded, and an attempt that waits on a connection whose reader
has finished cannot time out: it has its reply, or it goes on to retry. -/
structure Unstranded (pool : Pool) : Prop where
  none : ∀ task, ¬pool.Stranded task
  retries : ∀ {task call forced lease},
    pool.task task = .leased call forced lease .waiting →
      (pool.conn lease.conn).reader = .finished →
        pool.step (.expire task) = Option.none ∧
        ((∃ body, pool.chan (task, forced) = .answered body) ∨
          pool.step (.receive task) = some (pool.setTask task
            (.leased call forced lease (.removing .closed))))

/-- No write succeeds on a connection whose reader had finished before the
sender was inserted. -/
def WritesHeard (pool : Pool) : Event → Prop
  | .write task true =>
      ∀ call forced lease,
        pool.task task = .leased call forced lease .writing →
          (pool.conn lease.conn).reader = .finished →
            (pool.conn lease.conn).inflight.lookup lease.id ≠
              some { owner := (task, forced), armed := true }
  | _ => True

variable {pool next : Pool} {event : Event}

theorem stranded_iff (wellFormed : pool.WellFormed) {task : TaskId} :
    pool.Stranded task ↔
      ∃ forced, Multiplexer.Stranded pool.view (task, forced) := by
  constructor
  · rintro ⟨call, forced, lease, progress, leased, waits, finished, stored⟩
    refine ⟨forced, _, view_lease leased, ?_, ?_, stored⟩
    · rcases waits with rfl | rfl <;> rfl
    · simp [view, finished, wellFormed.held_leased leased]
  · rintro ⟨forced, held, leased, sent, closed, stored⟩
    obtain ⟨call, lease, progress, isLeased, rfl⟩ := of_view_lease leased
    refine ⟨call, forced, lease, progress, isLeased, ?_, ?_, stored⟩
    · cases progress with
      | written => exact Or.inl rfl
      | waiting => exact Or.inr rfl
      | _ => cases sent
    · simp only [view, Bool.and_eq_true, decide_eq_true_eq] at closed
      exact closed.2

/-- An attempt that has inserted its sender is moved on by its own steps
only. -/
theorem Stepped.writes {task : TaskId} {call : Call} {forced : Bool}
    {lease : Lease} {progress : Progress} (stepped : Stepped pool event next)
    (leased : pool.task task = .leased call forced lease progress)
    (armed : progress.stage = .armed) :
    next.task task = pool.task task ∨ event = .lockWriter task ∨
      progress = .writing ∧ ∃ ok, event = .write task ok := by
  by_cases acts : event.acts task (pool.task task) = true
  · right
    rw [leased] at acts
    cases progress with
    | ready =>
        cases event with
        | lockWriter actor => exact Or.inl (congrArg _ (of_decide_eq_true acts))
        | _ => cases acts
    | writing =>
        cases event with
        | write actor ok =>
            exact Or.inr ⟨rfl, ok, congrArg (Event.write · ok)
              (of_decide_eq_true acts)⟩
        | _ => cases acts
    | _ => cases armed
  · exact Or.inl (stepped.rests (Bool.eq_false_iff.mpr acts))

theorem stranded_of_wrote {task : TaskId} {call : Call} {forced : Bool}
    {lease : Lease} (stepped : Stepped pool (.write task true) next)
    (writing : pool.task task = .leased call forced lease .writing)
    (finished : (pool.conn lease.conn).reader = .finished)
    (stored : (pool.conn lease.conn).inflight.lookup lease.id =
      some { owner := (task, forced), armed := true }) :
    next.Stranded task := by
  cases stepped with
  | wrote leased =>
      rw [writing] at leased
      cases leased
      refine ⟨call, forced, lease, .written, ?_, Or.inl rfl, ?_, ?_⟩
      · simp
      · simpa [setTask, Conn.append] using finished
      · simpa [setTask, Conn.append] using stored

/-- Whoever becomes stranded has just written to a connection that does not
listen. -/
theorem Stranded.heard {task : TaskId} (wellFormed : pool.WellFormed)
    (stepped : Stepped pool event next) (calm : ∀ task, ¬pool.Stranded task)
    (stranded : next.Stranded task) : ¬pool.WritesHeard event := by
  intro heard
  obtain ⟨forced, viewed⟩ :=
    (stranded_iff (wellFormed.step stepped)).mp stranded
  have allowed : True ∨ pool.Honest event := Or.inl trivial
  have deaf : Deaf pool.view (task, forced) := by
    rcases stepped.simulates wellFormed allowed with same | moved
    · rw [same] at viewed
      exact absurd ((stranded_iff wellFormed).mpr ⟨forced, viewed⟩) (calm task)
    · rcases viewed.before moved with before | deaf
      · exact absurd ((stranded_iff wellFormed).mpr ⟨forced, before⟩)
          (calm task)
      · exact deaf
  obtain ⟨held, leased, isArmed, closed, stored⟩ := deaf
  obtain ⟨call, lease, progress, isLeased, rfl⟩ := of_view_lease leased
  simp only [view, Bool.and_eq_true, decide_eq_true_eq] at closed
  obtain ⟨_, _, _, after, nextLeased, waits, _⟩ := stranded
  have advances : after.stage ≠ .armed ∧ after.stage ≠ .leaving := by
    rcases waits with rfl | rfl <;> simp [Progress.stage]
  rcases stepped.writes isLeased isArmed with same | rfl | ⟨rfl, ok, rfl⟩
  · rw [same, isLeased] at nextLeased
    cases nextLeased
    exact advances.1 isArmed
  · cases stepped with
    | lockedWriter acting =>
        simp only [setTask_task, Function.update_self] at nextLeased
        cases nextLeased
        exact advances.1 rfl
  · cases ok with
    | true => exact heard call forced lease isLeased closed.2 stored
    | false =>
        cases stepped with
        | unwritten acting =>
            simp only [setTask_task, Function.update_self] at nextLeased
            cases nextLeased
            exact advances.2 rfl

theorem stranded_step (wellFormed : pool.WellFormed)
    (stepped : Stepped pool event next)
    (calm : ∀ task, ¬pool.Stranded task) :
    (∀ task, ¬next.Stranded task) ↔ pool.WritesHeard event := by
  constructor
  · intro nextCalm
    cases event with
    | write task ok =>
        cases ok with
        | true =>
            intro call forced lease writing finished stored
            exact nextCalm task
              (stranded_of_wrote stepped writing finished stored)
        | false => trivial
    | _ => trivial
  · intro heard task stranded
    exact stranded.heard wellFormed stepped calm heard

/-- The channel of an attempt that waits is pending exactly as long as its
sender is in the map. -/
theorem Multiplexing.unstranded (multiplexing : pool.Multiplexing)
    (calm : ∀ task, ¬pool.Stranded task) : pool.Unstranded where
  none := calm
  retries := by
    intro task call forced lease leased finished
    have settled : pool.chan (task, forced) ≠ .pending := by
      intro pending
      have stored := multiplexing.owned.stored (view_lease leased)
        (by simp [Progress.stage]) pending
      exact calm task
        ⟨call, forced, lease, .waiting, leased, Or.inr rfl, finished, stored⟩
    constructor
    · -- The branch of a pending channel is excluded by `settled`.
      simp only [Pool.step, expire, leased]
    · cases replied : pool.chan (task, forced) with
      | pending => exact absurd replied settled
      | answered body => exact Or.inl ⟨body, rfl⟩
      | dropped =>
          right
          simp only [Pool.step, receive, leased, replied]

structure Calm (pool : Pool) : Prop where
  multiplexing : pool.Multiplexing
  calm : ∀ task, ¬pool.Stranded task

theorem calm_new (proxy : ProxyConfig) (idleTimeout : Nat) :
    (new proxy idleTimeout).Calm where
  multiplexing := multiplexing_new proxy idleTimeout
  calm := by
    rintro task ⟨_, _, _, _, leased, _⟩
    cases leased

/-- In every interleaving, nobody is ever stranded exactly if no write
succeeds for a sender inserted after the reader has finished. -/
theorem always_unstranded_iff (proxy : ProxyConfig) (idleTimeout : Nat)
    (events : List Event) :
    Always step Unstranded (new proxy idleTimeout) events ↔
      EveryStep step WritesHeard (new proxy idleTimeout) events := by
  refine always_iff_everyStep (fun _ => True) ?_ ?_ ?_
    (calm_new proxy idleTimeout) (fun _ _ => trivial)
  · intro pool calm
    exact calm.multiplexing.unstranded calm.calm
  · intro pool event next _ calm stepped
    have outcome := stepped_of_step stepped
    rw [← stranded_step calm.multiplexing.wellFormed outcome calm.calm]
    constructor
    · intro unstranded
      exact unstranded.none
    · exact (calm.multiplexing.step outcome).unstranded
  · intro pool event next _ calm stepped heard
    have outcome := stepped_of_step stepped
    exact ⟨calm.multiplexing.step outcome,
      (stranded_step calm.multiplexing.wellFormed outcome calm.calm).mpr heard⟩

end Pool

/-- A call gets a new connection and its identifier, and the stream ends
before it inserts its sender. -/
def closeBeforeInsert : List Event :=
  [.call 0 exampleServer exampleQuery, .lockConns 0, .tryNext 0, .lockOpen 0,
    .lockConns 0, .tryNext 0, .checkCap 0, .loadProxy 0, .connect 0 true,
    .allocateFresh 0, .register 0, .readerStop 0, .readerDead 0,
    .readerClear 0, .insertSender 0, .lockWriter 0, .write 0 true, .touch 0]

theorem stranded_by_closeBeforeInsert :
    (∃ pool, run Pool.step (Pool.new exampleProxy 60) closeBeforeInsert =
        some pool ∧ pool.Stranded 0) ∧
      ∃ pool call, run Pool.step (Pool.new exampleProxy 60)
          (closeBeforeInsert ++ [.expire 0, .remove 0]) = some pool ∧
        pool.task 0 = .done call (.error .timedOut) := by
  have waits : (run Pool.step (Pool.new exampleProxy 60)
      closeBeforeInsert).isSome := by
    decide +kernel
  have ends : (run Pool.step (Pool.new exampleProxy 60)
      (closeBeforeInsert ++ [.expire 0, .remove 0])).isSome := by
    decide +kernel
  constructor
  · refine ⟨_, (Option.some_get waits).symm,
      { server := exampleServer, query := exampleQuery, since := 0 }, false,
      { conn := 0, draw := 0 }, .waiting, ?_, Or.inr rfl, ?_, ?_⟩ <;>
      decide +revert +kernel
  · refine ⟨_, { server := exampleServer, query := exampleQuery, since := 0 },
      (Option.some_get ends).symm, ?_⟩
    decide +revert +kernel

end Cortado.Dns
