import Mathlib.Data.Prod.Lex
import Mathlib.Logic.Relation
import Cortado.Lib.Liveness
import Cortado.Dns.PoolFrame

/-!
# Every query returns

Three locks are held while others run: `open_lock`, under which connections
are opened, the lock around `conns`, which is given back without waiting for
anything else, and the lock around the writer of a connection, under which a
call waits for its socket only.  So nobody waits in a circle.  Every step of a
call brings it nearer to its end, and nothing that others do moves it back.
Writing a query has no time limit; in a fair run every call of `resolve`
returns unless its own write never does, or that of a call whose writer it
needs.
-/

namespace Cortado.Dns

open Multiplexer Transition

/-- Who takes steps.  Starting a call, a pruning pass or a switch of the proxy
is up to the surroundings, and so is what the server sends and when the socket
takes what is written. -/
inductive Actor where
  | call (task : TaskId)
  | pruner
  | switcher (epoch : Nat)
  | reader (conn : ConnId)
  deriving DecidableEq

def Event.actor? : Event → Option Actor
  | .lockConns task | .tryNext task | .lockOpen task | .checkCap task
  | .loadProxy task | .connect task _ | .allocateFresh task | .register task
  | .insertSender task | .lockWriter task | .markDead task | .touch task
  | .receive task | .expire task | .remove task => some (.call task)
  | .pruneVisit _ | .pruneLast | .pruneEmpty | .pruneDecide | .pruneUnlock =>
      some .pruner
  | .clearConns epoch => some (.switcher epoch)
  | .readerDead conn | .readerClear conn => some (.reader conn)
  | _ => none

namespace Task

/-- The connection to which the call writes, with its writer locked. -/
def writesTo : Task → Option ConnId
  | .leased _ _ lease .writing => some lease.conn
  | _ => none

/-- The call has not returned and does not wait for its socket. -/
def active : Task → Bool
  | .leased _ _ _ .writing => false
  | .acquiring _ _ _ | .leased _ _ _ _ => true
  | _ => false

/-- The next step needs the lock around `conns`. -/
def needsConns : Task → Bool
  | .acquiring _ _ .reuse | .acquiring _ _ .recheck
  | .acquiring _ _ .checkCap | .leased _ _ _ .register => true
  | _ => false

/-- The next step needs the lock for opening. -/
def needsOpen : Task → Bool
  | .acquiring _ _ .waitOpen => true
  | _ => false

/-- The connection whose writer the next step needs. -/
def needsWriter : Task → Option ConnId
  | .leased _ _ lease .ready => some lease.conn
  | _ => none

theorem active_of_holdsOpen {task : Task} (holds : task.holdsOpen = true) :
    task.active = true := by
  cases task with
  | acquiring call forced stage => rfl
  | leased call forced lease progress =>
      cases progress with
      | register => rfl
      | _ => cases holds
  | idle => cases holds
  | done call result => cases holds

theorem needsOpen_of_holdsOpen {task : Task} (holds : task.holdsOpen = true) :
    task.needsOpen = false := by
  cases task with
  | acquiring call forced stage =>
      cases stage with
      | waitOpen => cases holds
      | _ => rfl
  | _ => rfl

theorem needsWriter_of_needsOpen {task : Task}
    (needs : task.needsOpen = true) : task.needsWriter = none := by
  cases task with
  | leased call forced lease progress => cases needs
  | _ => rfl

theorem needsWriter_of_holdsOpen {task : Task}
    (holds : task.holdsOpen = true) : task.needsWriter = none := by
  cases task with
  | leased call forced lease progress =>
      cases progress with
      | ready => cases holds
      | _ => rfl
  | _ => rfl

theorem eq_ready {task : Task} {conn : ConnId}
    (needs : task.needsWriter = some conn) : ∃ call forced lease,
      task = .leased call forced lease .ready ∧ lease.conn = conn := by
  cases task with
  | leased call forced lease progress =>
      cases progress with
      | ready =>
          cases needs
          exact ⟨call, forced, lease, rfl, rfl⟩
      | _ => cases needs
  | _ => cases needs

theorem eq_writing {task : Task} {conn : ConnId}
    (writes : task.writesTo = some conn) : ∃ call forced lease,
      task = .leased call forced lease .writing ∧ lease.conn = conn := by
  cases task with
  | leased call forced lease progress =>
      cases progress with
      | writing =>
          cases writes
          exact ⟨call, forced, lease, rfl, rfl⟩
      | _ => cases writes
  | _ => cases writes

theorem not_needsOpen {task : Task} (needs : task.needsConns = true) :
    ¬task.needsOpen = true := by
  cases task with
  | acquiring call forced stage =>
      cases stage with
      | waitOpen => cases needs
      | _ => simp [needsOpen]
  | _ => simp [needsOpen]

end Task

def ConnsLock.holder : ConnsLock → Option Actor
  | .free => none
  | .reuse task _ => some (.call task)
  | .prune _ _ _ => some .pruner

namespace Pool

variable {pool next : Pool} {event : Event}

/-- The actor has an event that is enabled. -/
abbrev Runs (pool : Pool) (who : Actor) : Prop :=
  Able step Event.actor? pool who

/-! ## Who can run -/

theorem runs_scan {task : TaskId} {rest : List ConnId}
    (wellFormed : pool.WellFormed)
    (locked : pool.connsLock = .reuse task rest) : pool.Runs (.call task) := by
  have ok := wellFormed.lock
  rw [locked] at ok
  obtain ⟨call, forced, stage, acquiring, scans, _⟩ := ok
  refine ⟨.tryNext task, rfl, ?_⟩
  simp only [step, tryNext, locked, acquiring, if_true]
  cases rest with
  | nil => rcases scans with rfl | rfl <;> rfl
  | cons conn rest =>
      dsimp only
      split <;> rfl

theorem runs_prune {now : Nat} {todo : List ConnId} {visit : Option PruneVisit}
    (locked : pool.connsLock = .prune now todo visit) : pool.Runs .pruner := by
  cases visit with
  | none =>
      cases todo with
      | nil => exact ⟨.pruneUnlock, rfl, by simp [step, pruneUnlock, locked]⟩
      | cons conn todo =>
          refine ⟨.pruneVisit conn, rfl, ?_⟩
          simp only [step, pruneVisit, locked, List.mem_cons_self, if_true]
          split <;> rfl
  | some visit =>
      cases visit with
      | alive conn => exact ⟨.pruneLast, rfl, by simp [step, pruneLast, locked]⟩
      | used conn last =>
          exact ⟨.pruneEmpty, rfl, by simp [step, pruneEmpty, locked]⟩
      | inspected conn last empty =>
          refine ⟨.pruneDecide, rfl, ?_⟩
          simp only [step, pruneDecide, locked]
          split <;> rfl

/-- The lock around `conns` is never in the hands of somebody who waits. -/
theorem runs_of_holder {who : Actor} (wellFormed : pool.WellFormed)
    (holds : pool.connsLock.holder = some who) : pool.Runs who := by
  cases locked : pool.connsLock with
  | free =>
      rw [locked] at holds
      cases holds
  | reuse task rest =>
      rw [locked] at holds
      cases holds
      exact runs_scan wellFormed locked
  | prune now todo visit =>
      rw [locked] at holds
      cases holds
      exact runs_prune locked

/-- A call that needs no writer runs if the lock that it needs is free. -/
theorem runs_call {task : TaskId} (active : (pool.task task).active = true)
    (conns : (pool.task task).needsConns = true → pool.connsLock = .free)
    (opening : (pool.task task).needsOpen = true → pool.openLock = none)
    (writer : (pool.task task).needsWriter = none) :
    pool.Runs (.call task) := by
  cases state : pool.task task with
  | idle =>
      rw [state] at active
      cases active
  | done call result =>
      rw [state] at active
      cases active
  | acquiring call forced stage =>
      rw [state] at conns opening
      cases stage with
      | reuse | recheck =>
          exact ⟨.lockConns task, rfl, by simp [step, lockConns, state, conns rfl]⟩
      | waitOpen =>
          exact ⟨.lockOpen task, rfl, by simp [step, lockOpen, state, opening rfl]⟩
      | checkCap =>
          refine ⟨.checkCap task, rfl, ?_⟩
          simp only [step, checkCap, state, conns rfl]
          split <;> rfl
      | opening => exact ⟨.loadProxy task, rfl, by simp [step, loadProxy, state]⟩
      | connecting proxy epoch =>
          exact ⟨.connect task false, rfl, by simp [step, connect, state]⟩
      | fresh conn =>
          refine ⟨.allocateFresh task, rfl, ?_⟩
          simp only [step, allocateFresh, state]
          split <;> rfl
  | leased call forced lease progress =>
      rw [state] at conns active writer
      cases progress with
      | register =>
          exact ⟨.register task, rfl, by simp [step, register, state, conns rfl]⟩
      | acquired =>
          exact ⟨.insertSender task, rfl, by simp [step, insertSender, state]⟩
      | ready => cases writer
      | writing => cases active
      | written => exact ⟨.touch task, rfl, by simp [step, touch, state]⟩
      | writeError => exact ⟨.markDead task, rfl, by simp [step, markDead, state]⟩
      | removing error => exact ⟨.remove task, rfl, by simp [step, remove, state]⟩
      | waiting =>
          cases heard : pool.chan (task, forced) with
          | pending =>
              exact ⟨.expire task, rfl, by simp [step, expire, state, heard]⟩
          | answered body =>
              exact ⟨.receive task, rfl, by simp [step, receive, state, heard]⟩
          | dropped =>
              exact ⟨.receive task, rfl, by simp [step, receive, state, heard]⟩

/-- A call runs if the writer it needs is free. -/
theorem runs_of_writer {task : TaskId} {conn : ConnId}
    (needs : (pool.task task).needsWriter = some conn)
    (free : (pool.conn conn).writer = none) : pool.Runs (.call task) := by
  obtain ⟨call, forced, lease, ready, rfl⟩ := Task.eq_ready needs
  exact ⟨.lockWriter task, rfl, by simp [step, lockWriter, ready, free]⟩

/-! ## Nobody waits in a circle -/

/-- The lock for opening is in the hands of the call that it is recorded
for. -/
def Opened (pool : Pool) : Prop :=
  ∀ task, pool.openLock = some task → (pool.task task).holdsOpen = true

theorem Opened.step (opened : pool.Opened)
    (stepped : Stepped pool event next) : next.Opened := by
  have moved : ∀ {actor before value}, pool.task actor = before →
      before.holdsOpen = false ∨ value.holdsOpen = true →
      ∀ task, pool.openLock = some task →
        (Function.update pool.task actor value task).holdsOpen = true := by
    rintro actor before value rfl allowed task held
    by_cases same : task = actor
    · subst same
      rw [Function.update_self]
      have holds := opened task held
      rcases allowed with free | holding
      · rw [free] at holds
        cases holds
      · exact holding
    · rw [Function.update_of_ne same]
      exact opened task held
  cases stepped with
  | refused acting | called acting => exact moved acting (Or.inl rfl)
  | missed locked acting moves =>
      apply moved acting
      rcases moves with ⟨rfl, rfl⟩ | ⟨rfl, rfl⟩
      · exact Or.inl rfl
      · exact Or.inr rfl
  | @hit task call forced stage conn rest draw locked acting =>
      intro other held
      by_cases holding : stage.holdsOpen = true
      · simp [holding] at held
      · rw [if_neg holding] at held
        exact moved acting (Or.inl (Bool.eq_false_iff.mpr holding)) other held
  | @lockedOpen task call forced free acting =>
      intro other held
      cases held
      simp only [setTask, Function.update_self]
      cases forced <;> rfl
  | roomy free acting | loaded acting | connected acting
  | allocated acting => exact moved acting (Or.inr rfl)
  | capped | unreachable | notAllocated | registered =>
      intro task held
      cases held
  | lockedWriter acting | wrote acting | unwritten acting | markedDead acting
  | touched acting | received acting | disconnected acting
  | expired acting => exact moved acting (Or.inl rfl)
  | armed acting =>
      rw [settle_eq]
      exact moved acting (Or.inl rfl)
  | removed acting =>
      rw [settle_eq]
      exact moved acting (Or.inl rfl)
  | strayed | answered =>
      simp only [deliver]
      rw [settle_eq]
      exact opened
  | _ => exact opened

/-- What a step does to the writer of a connection: nothing, its release, or
its taking by a call that writes from now on. -/
theorem Stepped.writer (stepped : Stepped pool event next) (conn : ConnId) :
    (next.conn conn).writer = (pool.conn conn).writer ∨
      (next.conn conn).writer = none ∨
      (pool.conn conn).writer = none ∧ ∃ task,
        (next.conn conn).writer = some task ∧
          (next.task task).writesTo = some conn := by
  have same : ∀ {other value}, value.writer = (pool.conn other).writer →
      (Function.update pool.conn other value conn).writer =
        (pool.conn conn).writer := by
    intro other value kept
    exact read_update Conn.writer rfl kept conn
  have released : ∀ {other value}, value.writer = none →
      (Function.update pool.conn other value conn).writer =
          (pool.conn conn).writer ∨
        (Function.update pool.conn other value conn).writer = none ∨
        (pool.conn conn).writer = none ∧ ∃ task,
          (Function.update pool.conn other value conn).writer = some task ∧
            (next.task task).writesTo = some conn := by
    intro other value free
    by_cases here : conn = other
    · subst here
      rw [Function.update_self]
      exact Or.inr (Or.inl free)
    · rw [Function.update_of_ne here]
      exact Or.inl rfl
  cases stepped with
  | full | hit | allocated | notAllocated | markedDead | touched | evicted
  | idled | stopped | died | cleaned => exact Or.inl (same rfl)
  | connected | wrote | unwritten =>
      refine released ?_
      rfl
  | armed | removed | strayed =>
      left
      simp only [deliver, setTask, setConn, setChan, settle_conn]
      exact same rfl
  | answered =>
      left
      simp only [deliver, setConn, settle_conn, Function.update_idem]
      exact same rfl
  | cleared =>
      left
      dsimp only
      split <;> rfl
  | @lockedWriter task call forced lease leased free =>
      by_cases here : conn = lease.conn
      · subst here
        refine Or.inr (Or.inr ⟨free, task, ?_, ?_⟩)
        · simp [setTask]
        · simp [Task.writesTo]
      · left
        simp [setTask, here]
  | _ => exact Or.inl rfl

/-- The writer of a connection changes hands by way of its release. -/
theorem Stepped.writer_passes (stepped : Stepped pool event next)
    {conn : ConnId} {task : TaskId}
    (held : (pool.conn conn).writer = some task) :
    (next.conn conn).writer = some task ∨
      (next.conn conn).writer = none := by
  rcases stepped.writer conn with same | free | ⟨wasFree, _⟩
  · exact Or.inl (same.trans held)
  · exact Or.inr free
  · rw [held] at wasFree
    cases wasFree

/-- The writer of a connection is in the hands of a call that writes to it. -/
def Writers (pool : Pool) : Prop :=
  ∀ conn task, (pool.conn conn).writer = some task →
    (pool.task task).writesTo = some conn

theorem Writers.step (writers : pool.Writers)
    (stepped : Stepped pool event next) : next.Writers := by
  intro conn task held
  rcases stepped.writer conn with same | free | ⟨_, taker, taken, writes⟩
  · have before : (pool.conn conn).writer = some task := same ▸ held
    obtain ⟨call, forced, lease, writing, here⟩ :=
      Task.eq_writing (writers conn task before)
    by_cases ends : ∃ ok, event = .write task ok
    · -- The end of the write would have given the writer back.
      obtain ⟨ok, rfl⟩ := ends
      cases stepped with
      | wrote leased | unwritten leased =>
          rw [writing] at leased
          cases leased
          subst here
          simp [setTask, Conn.append] at held
    · have rests : event.acts task (pool.task task) = false := by
        rw [writing]
        cases event with
        | write actor ok =>
            apply decide_eq_false
            rintro rfl
            exact ends ⟨ok, rfl⟩
        | _ => rfl
      rw [stepped.rests rests]
      exact writers conn task before
  · rw [free] at held
    cases held
  · rw [taken] at held
    cases held
    exact writes

/-- An actor waits for another one that holds the lock it needs. -/
inductive Awaits (pool : Pool) : Actor → Actor → Prop
  | conns {task : TaskId} {holder : Actor}
      (needs : (pool.task task).needsConns = true)
      (held : pool.connsLock.holder = some holder) :
      Awaits pool (.call task) holder
  | opening {task opener : TaskId}
      (needs : (pool.task task).needsOpen = true)
      (held : pool.openLock = some opener) :
      Awaits pool (.call task) (.call opener)
  | writing {task writer : TaskId} {conn : ConnId}
      (needs : (pool.task task).needsWriter = some conn)
      (held : (pool.conn conn).writer = some writer) :
      Awaits pool (.call task) (.call writer)
  | clearing {epoch : Nat} {holder : Actor}
      (held : pool.connsLock.holder = some holder) :
      Awaits pool (.switcher epoch) holder

/-- The actor has begun something that it has not finished, and is not at the
mercy of a socket. -/
def Pending (pool : Pool) : Actor → Prop
  | .call task => (pool.task task).active = true
  | .pruner => pool.connsLock.holder = some .pruner
  | .switcher epoch => epoch ∈ pool.switches
  | .reader conn => (pool.conn conn).reader = .stopping ∨
      (pool.conn conn).reader = .clearing

/-- Whoever has something to finish is able to go on, or waits, directly or
through others, for somebody who is.  Only a call that needs the writer of its
connection may wait for a call which is writing there. -/
def DeadlockFree (pool : Pool) : Prop :=
  ∀ who, pool.Pending who →
    (∃ other, Relation.ReflTransGen pool.Awaits who other ∧
      pool.Runs other) ∨
    ∃ task conn writer, who = .call task ∧
      (pool.task task).needsWriter = some conn ∧
      pool.Awaits (.call task) (.call writer) ∧
      (pool.task writer).writesTo = some conn

theorem eq_free_of_holder (free : pool.connsLock.holder = none) :
    pool.connsLock = .free := by
  cases locked : pool.connsLock with
  | free => rfl
  | reuse task rest =>
      rw [locked] at free
      cases free
  | prune now todo visit =>
      rw [locked] at free
      cases free

/-- A call that waits neither for the lock for opening nor for a writer. -/
theorem reaches_call {task : TaskId} (wellFormed : pool.WellFormed)
    (active : (pool.task task).active = true)
    (opening : (pool.task task).needsOpen = false)
    (writer : (pool.task task).needsWriter = none) : ∃ other,
      Relation.ReflTransGen pool.Awaits (.call task) other ∧
        pool.Runs other := by
  have notOpening : (pool.task task).needsOpen = true →
      pool.openLock = none := by
    intro needs
    rw [opening] at needs
    cases needs
  by_cases needs : (pool.task task).needsConns = true
  · cases held : pool.connsLock.holder with
    | none =>
        exact ⟨_, .refl, runs_call active (fun _ => eq_free_of_holder held)
          notOpening writer⟩
    | some holder =>
        exact ⟨holder, .single (.conns needs held),
          runs_of_holder wellFormed held⟩
  · exact ⟨_, .refl, runs_call active (fun isNeeded => absurd isNeeded needs)
      notOpening writer⟩

/-- A call that waits for the lock for opening. -/
theorem reaches_opener {task : TaskId} (wellFormed : pool.WellFormed)
    (opened : pool.Opened) (active : (pool.task task).active = true)
    (needs : (pool.task task).needsOpen = true) : ∃ other,
      Relation.ReflTransGen pool.Awaits (.call task) other ∧
        pool.Runs other := by
  cases held : pool.openLock with
  | none =>
      refine ⟨_, .refl, runs_call active ?_ (fun _ => held)
        (Task.needsWriter_of_needsOpen needs)⟩
      intro alsoConns
      exact absurd needs (Task.not_needsOpen alsoConns)
  | some opener =>
      have holds := opened opener held
      obtain ⟨other, chain, runs⟩ := reaches_call wellFormed
        (Task.active_of_holdsOpen holds) (Task.needsOpen_of_holdsOpen holds)
        (Task.needsWriter_of_holdsOpen holds)
      exact ⟨other, .head (.opening needs held) chain, runs⟩

/-- What the arguments about progress rely on. -/
structure Progressing (pool : Pool) : Prop where
  wellFormed : pool.WellFormed
  opened : pool.Opened
  writers : pool.Writers

theorem Progressing.deadlockFree (progressing : pool.Progressing) :
    pool.DeadlockFree := by
  have wellFormed := progressing.wellFormed
  intro who pending
  cases who with
  | call task =>
      have active : (pool.task task).active = true := pending
      cases writer : (pool.task task).needsWriter with
      | none =>
          left
          by_cases needs : (pool.task task).needsOpen = true
          · exact reaches_opener wellFormed progressing.opened active needs
          · exact reaches_call wellFormed active (Bool.eq_false_iff.mpr needs)
              writer
      | some conn =>
          cases held : (pool.conn conn).writer with
          | none => exact Or.inl ⟨_, .refl, runs_of_writer writer held⟩
          | some holder =>
              exact Or.inr ⟨task, conn, holder, rfl, writer,
                .writing writer held, progressing.writers conn holder held⟩
  | pruner => exact Or.inl ⟨_, .refl, runs_of_holder wellFormed pending⟩
  | switcher epoch =>
      left
      have switching : epoch ∈ pool.switches := pending
      cases held : pool.connsLock.holder with
      | none =>
          refine ⟨_, .refl, .clearConns epoch, rfl, ?_⟩
          simp [step, clearConns, eq_free_of_holder held, switching]
      | some holder =>
          exact ⟨holder, .single (.clearing held),
            runs_of_holder wellFormed held⟩
  | reader conn =>
      left
      rcases pending with stopping | clearing
      · exact ⟨_, .refl, .readerDead conn, rfl,
          by simp [step, readerDead, stopping]⟩
      · exact ⟨_, .refl, .readerClear conn, rfl,
          by simp [step, readerClear, clearing]⟩

theorem progressing_new (proxy : ProxyConfig) (idleTimeout : Nat) :
    (new proxy idleTimeout).Progressing where
  wellFormed := wellFormed_new proxy idleTimeout
  opened := by
    intro task held
    cases held
  writers := by
    intro conn task held
    cases held

theorem Progressing.step (progressing : pool.Progressing)
    (stepped : pool.step event = some next) : next.Progressing where
  wellFormed := progressing.wellFormed.of_step stepped
  opened := progressing.opened.step (stepped_of_step stepped)
  writers := progressing.writers.step (stepped_of_step stepped)

/-- In no interleaving do calls, pruning, switches of the proxy and readers
block each other.  Only a call that is to write to the same connection ever
waits for a call whose write does not return. -/
theorem always_deadlockFree (proxy : ProxyConfig) (idleTimeout : Nat)
    (events : List Event) :
    Always step DeadlockFree (new proxy idleTimeout) events := by
  have always : Always step Progressing (new proxy idleTimeout) events :=
    always_of_invariant (fun _ _ _ progressing => progressing.step)
      (progressing_new proxy idleTimeout) events
  exact always.mono fun _ progressing => progressing.deadlockFree

/-! ## How far a call is from its end -/

/-- What a step does to the lock around `conns`: nothing, a step of its
holder, or its taking. -/
theorem Stepped.lock (stepped : Stepped pool event next) :
    next.connsLock = pool.connsLock ∨
    (∃ who, pool.connsLock.holder = some who ∧ event.actor? = some who ∧
      (next.connsLock.holder = some who ∨ next.connsLock = .free)) ∨
    (pool.connsLock = .free ∧
      ((∃ task rest, event = .lockConns task ∧
          next.connsLock = .reuse task rest) ∨
        event.actor? = none ∧ next.connsLock.holder = some .pruner)) := by
  cases stepped with
  | lockedConns free => exact Or.inr (Or.inr ⟨free, Or.inl ⟨_, _, rfl, rfl⟩⟩)
  | missed locked | hit locked =>
      refine Or.inr (Or.inl ⟨_, ?_, rfl, Or.inr rfl⟩)
      rw [locked]
      rfl
  | full locked =>
      refine Or.inr (Or.inl ⟨_, ?_, rfl, Or.inl rfl⟩)
      rw [locked]
      rfl
  | pruning free => exact Or.inr (Or.inr ⟨free, Or.inr ⟨rfl, rfl⟩⟩)
  | pruned locked | visited locked | lastRead locked | emptyRead locked
  | evicted locked | kept locked =>
      refine Or.inr (Or.inl ⟨_, ?_, rfl, Or.inl rfl⟩)
      rw [locked]
      rfl
  | unlocked locked =>
      refine Or.inr (Or.inl ⟨_, ?_, rfl, Or.inr rfl⟩)
      rw [locked]
      rfl
  | armed | removed | strayed | answered =>
      left
      simp [setTask, setConn, setChan, deliver]
  | _ => exact Or.inl rfl

end Pool

/-- The stages of an attempt from its end. -/
def Acquire.rank : Acquire → Nat
  | .reuse => 17
  | .waitOpen => 16
  | .recheck => 15
  | .checkCap => 14
  | .opening => 13
  | .connecting _ _ => 12
  | .fresh _ => 11

def Progress.rank : Progress → Nat
  | .register => 10
  | .acquired => 9
  | .ready => 8
  | .writing => 7
  | .written | .writeError => 6
  | .waiting => 5
  | .removing _ => 4

/-- The second attempt is the last one. -/
def Task.rank : Task → Nat
  | .idle => 40
  | .acquiring _ forced stage => (if forced then 0 else 20) + stage.rank
  | .leased _ forced _ progress => (if forced then 0 else 20) + progress.rank
  | .done _ _ => 0

theorem Task.rank_conclude (call : Call) (forced : Bool) (outcome : Outcome) :
    (conclude call forced outcome).rank ≤ if forced then 0 else 16 := by
  cases outcome <;> cases forced <;> simp [conclude, rank, Acquire.rank]

namespace Pool

variable {pool next : Pool} {event : Event}

/-- The stage of a call, whether it holds the lock around `conns`, and how
many connections it has still to try. -/
def callRank (pool : Pool) (task : TaskId) : ℕ ×ₗ ℕ :=
  match pool.connsLock with
  | .reuse holder rest =>
      if holder = task then toLex (2 * (pool.task task).rank, rest.length)
      else toLex (2 * (pool.task task).rank + 1, 0)
  | _ => toLex (2 * (pool.task task).rank + 1, 0)

theorem callRank_of_holder {task : TaskId} {rest : List ConnId}
    (locked : pool.connsLock = .reuse task rest) :
    pool.callRank task =
      toLex (2 * (pool.task task).rank, rest.length) := by
  simp only [callRank, locked, if_true]

theorem callRank_of_not_holder {task : TaskId}
    (other : pool.connsLock.holder ≠ some (.call task)) :
    pool.callRank task = toLex (2 * (pool.task task).rank + 1, 0) := by
  unfold callRank
  split
  · rename_i holder rest locked
    apply if_neg
    rintro rfl
    rw [locked] at other
    exact other rfl
  · rfl

theorem callRank_bounds (pool : Pool) (task : TaskId) :
    toLex (2 * (pool.task task).rank, 0) ≤ pool.callRank task ∧
      pool.callRank task < toLex (2 * (pool.task task).rank + 2, 0) := by
  unfold callRank
  split
  · split
    · constructor
      · exact Prod.Lex.toLex_le_toLex.mpr (Or.inr ⟨rfl, Nat.zero_le _⟩)
      · exact Prod.Lex.toLex_lt_toLex.mpr (Or.inl (by omega))
    · constructor
      · exact Prod.Lex.toLex_le_toLex.mpr (Or.inl (Nat.lt_succ_self _))
      · exact Prod.Lex.toLex_lt_toLex.mpr (Or.inl (Nat.lt_succ_self _))
  · constructor
    · exact Prod.Lex.toLex_le_toLex.mpr (Or.inl (Nat.lt_succ_self _))
    · exact Prod.Lex.toLex_lt_toLex.mpr (Or.inl (Nat.lt_succ_self _))

theorem callRank_lt {task : TaskId}
    (lower : (next.task task).rank < (pool.task task).rank) :
    next.callRank task < pool.callRank task := by
  have upper := (next.callRank_bounds task).2
  have below : toLex (2 * (next.task task).rank + 2, 0) ≤
      toLex (2 * (pool.task task).rank, 0) := by
    rcases Nat.lt_or_eq_of_le (Nat.succ_le_of_lt lower) with less | same
    · exact Prod.Lex.toLex_le_toLex.mpr (Or.inl (by omega))
    · refine Prod.Lex.toLex_le_toLex.mpr (Or.inr ⟨?_, Nat.le_refl _⟩)
      dsimp only
      omega
  exact lt_of_lt_of_le (lt_of_lt_of_le upper below)
    (pool.callRank_bounds task).1

/-- Every step of a call brings it nearer to its end. -/
theorem Stepped.callRank_own (stepped : Stepped pool event next)
    {task : TaskId} (own : event.actor? = some (.call task)) :
    next.callRank task < pool.callRank task := by
  have lowered : ∀ {before value}, pool.task task = before →
      value.rank < before.rank →
      (Function.update pool.task task value task).rank <
        (pool.task task).rank := by
    rintro before value rfl lower
    rwa [Function.update_self]
  have failed : ∀ {call forced stage outcome},
      pool.task task = .acquiring call forced stage →
      (Function.update pool.task task (.conclude call forced outcome)
        task).rank < (pool.task task).rank := by
    intro call forced stage outcome acting
    apply lowered acting
    have small := Task.rank_conclude call forced outcome
    cases forced <;> cases stage <;>
      simp only [Task.rank, Acquire.rank, if_true, if_false,
        Bool.false_eq_true] at small ⊢ <;> omega
  cases stepped with
  | lockedConns free acquiring scans =>
      cases own
      rw [callRank_of_holder rfl, callRank_of_not_holder (by simp [free,
        ConnsLock.holder])]
      exact Prod.Lex.toLex_lt_toLex.mpr (Or.inl (Nat.lt_succ_self _))
  | full locked acquiring =>
      cases own
      rw [callRank_of_holder rfl, callRank_of_holder locked]
      exact Prod.Lex.toLex_lt_toLex.mpr
        (Or.inr ⟨rfl, Nat.lt_succ_self _⟩)
  | missed locked acting moves =>
      cases own
      apply callRank_lt
      apply lowered acting
      rcases moves with ⟨rfl, rfl⟩ | ⟨rfl, rfl⟩ <;>
        simp [Task.rank, Acquire.rank]
  | @lockedOpen _ call forced free acting =>
      cases own
      apply callRank_lt
      apply lowered acting
      cases forced <;> simp [Task.rank, Acquire.rank]
  | @hit _ call forced stage conn rest draw locked acting =>
      cases own
      apply callRank_lt
      apply lowered acting
      cases stage <;> simp [Task.rank, Acquire.rank, Progress.rank]
  | roomy free acting | loaded acting | connected acting
  | allocated acting =>
      cases own
      apply callRank_lt
      apply lowered acting
      simp [Task.rank, Acquire.rank, Progress.rank]
  | capped free acting | unreachable acting | notAllocated acting =>
      cases own
      exact callRank_lt (failed acting)
  | registered free acting | lockedWriter acting | markedDead acting
  | touched acting | received acting | disconnected acting
  | expired acting =>
      cases own
      apply callRank_lt
      apply lowered acting
      simp [Task.rank, Progress.rank]
  | armed acting =>
      cases own
      apply callRank_lt
      simp only [setTask, setConn, setChan, settle_task]
      apply lowered acting
      simp [Task.rank, Progress.rank]
  | @removed _ call forced lease error acting =>
      cases own
      apply callRank_lt
      simp only [setTask, setConn, settle_task]
      apply lowered acting
      have small := Task.rank_conclude call forced error.outcome
      cases forced <;>
        simp only [Task.rank, Progress.rank, if_true, if_false,
          Bool.false_eq_true] at small ⊢ <;> omega
  | _ => cases own

end Pool

/-- A task is moved on by its own steps, by its call and by its socket. -/
theorem Event.acts_cases {event : Event} {task : TaskId} {state : Task}
    (acts : event.acts task state = true) :
    event.actor? = some (.call task) ∨
      (∃ server query, event = .call task server query) ∨
      ∃ ok, event = .write task ok := by
  unfold Event.acts at acts
  split at acts <;> simp only [decide_eq_true_eq, Bool.false_eq_true] at acts
  all_goals subst acts
  all_goals first
    | exact Or.inl rfl
    | exact Or.inr (Or.inl ⟨_, _, rfl⟩)
    | exact Or.inr (Or.inr ⟨_, rfl⟩)

namespace Pool

variable {pool next : Pool} {event : Event}

theorem Stepped.callRank_acts (stepped : Stepped pool event next)
    {task : TaskId} (acts : event.acts task (pool.task task) = true) :
    next.callRank task < pool.callRank task := by
  rcases Event.acts_cases acts with own | ⟨server, query, rfl⟩ | ⟨ok, rfl⟩
  · exact stepped.callRank_own own
  · apply callRank_lt
    cases stepped with
    | refused idle | called idle => simp [idle, Task.rank, Acquire.rank]
  · apply callRank_lt
    cases stepped with
    | wrote leased | unwritten leased =>
        simp [setConn, leased, Task.rank, Progress.rank]

/-- Nothing moves a call back. -/
theorem Stepped.callRank_le (stepped : Stepped pool event next)
    {task : TaskId} (other : event.actor? ≠ some (.call task)) :
    next.callRank task ≤ pool.callRank task := by
  by_cases acts : event.acts task (pool.task task) = true
  · exact le_of_lt (stepped.callRank_acts acts)
  have rests := stepped.rests (Bool.eq_false_iff.mpr acts)
  have notHolder : pool.connsLock.holder ≠ some (.call task) →
      next.connsLock.holder ≠ some (.call task) →
      next.callRank task ≤ pool.callRank task := by
    intro before after
    rw [callRank_of_not_holder before, callRank_of_not_holder after, rests]
  rcases stepped.lock with same | ⟨who, held, acted, after⟩ |
    ⟨free, ⟨holder, rest, rfl, taken⟩ | ⟨_, pruning⟩⟩
  · apply le_of_eq
    unfold callRank
    rw [same, rests]
  · have another : some who ≠ some (Actor.call task) := acted ▸ other
    apply notHolder
    · rwa [held]
    · rcases after with kept | released
      · rwa [kept]
      · simp [released, ConnsLock.holder]
  · apply notHolder
    · simp [free, ConnsLock.holder]
    · rw [taken]
      exact other
  · apply notHolder
    · simp [free, ConnsLock.holder]
    · simp [pruning]

/-! ## The locks are given back -/

theorem Stepped.lock_kept (stepped : Stepped pool event next) {who : Actor}
    (held : pool.connsLock.holder = some who)
    (other : event.actor? ≠ some who) : next.connsLock = pool.connsLock := by
  rcases stepped.lock with same | ⟨holder, holds, acted, _⟩ | ⟨free, _⟩
  · exact same
  · rw [held] at holds
    cases holds
    exact absurd acted other
  · rw [free] at held
    cases held

theorem Stepped.lock_passes (stepped : Stepped pool event next) {who : Actor}
    (held : pool.connsLock.holder = some who) :
    next.connsLock.holder = some who ∨ next.connsLock.holder = none := by
  rcases stepped.lock with same | ⟨holder, holds, _, kept | freed⟩ | ⟨free, _⟩
  · exact Or.inl (same ▸ held)
  · exact Or.inl (kept.trans (holds.symm.trans held))
  · exact Or.inr (by simp [freed, ConnsLock.holder])
  · rw [free] at held
    cases held

theorem Stepped.openLock_passes (stepped : Stepped pool event next)
    {task : TaskId} (held : pool.openLock = some task) :
    next.openLock = some task ∨ next.openLock = none := by
  cases stepped with
  | @hit _ call forced stage =>
      dsimp only
      split
      · exact Or.inr rfl
      · exact Or.inl held
  | lockedOpen free =>
      rw [free] at held
      cases held
  | capped | unreachable | notAllocated | registered => exact Or.inr rfl
  | armed | removed | strayed | answered =>
      simp only [deliver, setTask, setConn, setChan]
      rw [settle_eq]
      exact Or.inl held
  | _ => exact Or.inl held

/-- How far a pruning pass is from its end. -/
def pruneRank (pool : Pool) : ℕ ×ₗ ℕ :=
  match pool.connsLock with
  | .prune _ todo none => toLex (todo.length, 3)
  | .prune _ todo (some (.alive _)) => toLex (todo.length, 2)
  | .prune _ todo (some (.used _ _)) => toLex (todo.length, 1)
  | .prune _ todo (some (.inspected _ _ _)) => toLex (todo.length, 0)
  | _ => toLex (0, 0)

theorem Stepped.pruneRank_own (stepped : Stepped pool event next)
    (wellFormed : pool.WellFormed) (own : event.actor? = some .pruner)
    (holds : next.connsLock.holder = some .pruner) :
    next.pruneRank < pool.pruneRank := by
  have shorter : ∀ {conn : ConnId} {todo : List ConnId} (first second : Nat),
      conn ∈ todo → toLex ((todo.erase conn).length, first) <
        toLex (todo.length, second) := by
    intro conn todo first second member
    rw [List.length_erase_of_mem member]
    refine Prod.Lex.toLex_lt_toLex.mpr (Or.inl ?_)
    exact Nat.sub_lt (List.length_pos_of_mem member) Nat.one_pos
  have closer : ∀ {todo : List ConnId} {first second : Nat},
      first < second → toLex (todo.length, first) <
        toLex (todo.length, second) := by
    intro todo first second less
    exact Prod.Lex.toLex_lt_toLex.mpr (Or.inr ⟨rfl, less⟩)
  cases stepped with
  | pruned locked member =>
      simp only [pruneRank, locked]
      exact shorter _ _ member
  | visited locked | lastRead locked | emptyRead locked =>
      simp only [pruneRank, locked]
      exact closer (Nat.lt_succ_self _)
  | evicted locked | kept locked =>
      simp only [pruneRank, locked]
      exact shorter _ _ (wellFormed.looking locked)
  | unlocked locked => cases holds
  | _ => cases own

/-- Only who has something to finish runs. -/
theorem pending_of_runs {who : Actor} (runs : pool.Runs who) :
    pool.Pending who := by
  obtain ⟨event, acts, enabled⟩ := runs
  obtain ⟨next, stepped⟩ := Option.isSome_iff_exists.mp enabled
  cases stepped_of_step stepped with
  | lockedConns free acting | missed locked acting | full locked acting
  | hit locked acting | lockedOpen free acting | capped free acting
  | roomy free acting | loaded acting | connected acting
  | unreachable acting | allocated acting | notAllocated acting
  | registered free acting | armed acting | lockedWriter acting
  | markedDead acting | touched acting | received acting
  | disconnected acting | expired acting | removed acting =>
      cases acts
      simp [Pending, acting, Task.active]
  | cleared free switching =>
      cases acts
      exact switching
  | pruned locked | visited locked | lastRead locked | emptyRead locked
  | evicted locked | kept locked | unlocked locked =>
      cases acts
      simp [Pending, locked, ConnsLock.holder]
  | died stopping =>
      cases acts
      exact Or.inl stopping
  | cleaned clearing =>
      cases acts
      exact Or.inr clearing
  | _ => cases acts

/-- Time passes. -/
def idling (pool : Pool) : Trace step where
  state time := { pool with clock := pool.clock + time }
  event _ := .tick
  steps _ := rfl

theorem idling_fair (nothing : ∀ who, ¬pool.Pending who) :
    pool.idling.Fair Event.actor? := by
  intro who able
  obtain ⟨time, _, runs⟩ := able 0
  apply absurd (pending_of_runs runs)
  cases who with
  | call task => exact nothing (.call task)
  | pruner => exact nothing .pruner
  | switcher epoch => exact nothing (.switcher epoch)
  | reader conn => exact nothing (.reader conn)

/-! ## Fair runs -/

section Fair

variable {trace : Trace step} {proxy : ProxyConfig} {idleTimeout : Nat}

theorem trace_progressing (initial : trace.state 0 = new proxy idleTimeout)
    (time : Nat) : (trace.state time).Progressing :=
  trace.invariant (fun _ _ _ progressing => progressing.step)
    (initial ▸ progressing_new proxy idleTimeout) time

theorem trace_stepped (trace : Trace step) (time : Nat) :
    Stepped (trace.state time) (trace.event time)
      (trace.state (time + 1)) :=
  stepped_of_step (trace.steps time)

/-- A call is moved on finitely often. -/
theorem call_finite (trace : Trace step) (task : TaskId) :
    ¬Often (fun time => trace.Acts Event.actor? (.call task) time ∨
      (trace.event time).acts task ((trace.state time).task task) = true) := by
  apply trace.not_often_falls (fun pool => pool.callRank task) 0
  · intro time _ moves
    rcases moves with own | acts
    · exact (trace_stepped trace time).callRank_own own
    · exact (trace_stepped trace time).callRank_acts acts
  · intro time _ rests
    exact (trace_stepped trace time).callRank_le (fun own =>
      rests (Or.inl own))

theorem call_acts_finite (trace : Trace step) (task : TaskId) :
    ¬Often (trace.Acts Event.actor? (.call task)) := by
  intro often
  exact call_finite trace task (often.mono fun _ => Or.inl)

/-- Nobody keeps the lock around `conns`. -/
theorem often_free (initial : trace.state 0 = new proxy idleTimeout)
    (fair : trace.Fair Event.actor?) :
    Often (fun time => (trace.state time).connsLock.holder = none) := by
  apply fair.often_released fun pool => pool.connsLock.holder
  · intro time who held
    exact (trace_stepped trace time).lock_passes held
  · intro who start held
    exact Often.of_always fun time later =>
      runs_of_holder (trace_progressing initial time).wellFormed
        (held time later)
  · intro who start held
    cases who with
    | call task => exact call_acts_finite trace task
    | pruner =>
        apply trace.not_often_falls pruneRank start
        · intro time later own
          exact (trace_stepped trace time).pruneRank_own
            (trace_progressing initial time).wellFormed own
            (held (time + 1) (Nat.le_succ_of_le later))
        · intro time later other
          have kept := (trace_stepped trace time).lock_kept
            (held time later) other
          apply le_of_eq
          unfold pruneRank
          rw [kept]
    | switcher epoch | reader conn =>
        intro often
        have holds := held start (Nat.le_refl _)
        cases locked : (trace.state start).connsLock with
        | _ =>
            rw [locked] at holds
            cases holds

/-- Nobody keeps the lock for opening. -/
theorem often_unopened (initial : trace.state 0 = new proxy idleTimeout)
    (fair : trace.Fair Event.actor?) :
    Often (fun time => (trace.state time).openLock = none) := by
  have released : Often (fun time =>
      (trace.state time).openLock.map Actor.call = none) := by
    apply fair.often_released fun pool => pool.openLock.map Actor.call
    · intro time who held
      obtain ⟨task, opens, rfl⟩ := Option.map_eq_some_iff.mp held
      rcases (trace_stepped trace time).openLock_passes opens with
        kept | freed
      · exact Or.inl (by simp [kept])
      · exact Or.inr (by simp [freed])
    · intro who start held first
      -- The holder needs at most the lock around `conns`.
      obtain ⟨time, later, free⟩ := often_free initial fair (max start first)
      obtain ⟨task, opens, rfl⟩ := Option.map_eq_some_iff.mp
        (held time (by omega))
      have holds := (trace_progressing initial time).opened task opens
      refine ⟨time, by omega, runs_call (Task.active_of_holdsOpen holds)
        (fun _ => eq_free_of_holder free) ?_
        (Task.needsWriter_of_holdsOpen holds)⟩
      intro needs
      rw [Task.needsOpen_of_holdsOpen holds] at needs
      cases needs
    · intro who start held
      obtain ⟨task, opens, rfl⟩ := Option.map_eq_some_iff.mp
        (held start (Nat.le_refl _))
      exact call_acts_finite trace task
  exact released.mono fun _ => Option.map_eq_none_iff.mp

/-- A call that stays where it is and waits for no writer has returned or
writes. -/
theorem not_active_of_stays (initial : trace.state 0 = new proxy idleTimeout)
    (fair : trace.Fair Event.actor?) {task : TaskId} {start : Nat}
    {state : Task} (stays : ∀ time, start ≤ time →
      (trace.state time).task task = state)
    (writer : state.needsWriter = none) : state.active = false := by
  by_contra isActive
  have active : state.active = true := Bool.not_eq_false _ ▸ isActive
  apply fair.not_often_able (call_acts_finite trace task)
  intro first
  by_cases needs : state.needsOpen = true
  · obtain ⟨time, later, free⟩ :=
      often_unopened initial fair (max start first)
    have same := stays time (by omega)
    refine ⟨time, by omega, runs_call (same ▸ active) ?_ (fun _ => free)
      (same ▸ writer)⟩
    intro alsoConns
    rw [same] at alsoConns
    exact absurd needs (Task.not_needsOpen alsoConns)
  · obtain ⟨time, later, free⟩ := often_free initial fair (max start first)
    have same := stays time (by omega)
    refine ⟨time, by omega, runs_call (same ▸ active)
      (fun _ => eq_free_of_holder free) ?_ (same ▸ writer)⟩
    intro opening
    rw [same] at opening
    exact absurd opening needs

/-- For a call that waits for ever for the writer of a connection, another one
writes to it for ever. -/
theorem writesTo_of_stays (initial : trace.state 0 = new proxy idleTimeout)
    (fair : trace.Fair Event.actor?) {task : TaskId} {start : Nat}
    {conn : ConnId} (stays : ∀ time, start ≤ time →
      ((trace.state time).task task).needsWriter = some conn) :
    ∃ writer time, ∀ later, time ≤ later →
      ((trace.state later).task writer).writesTo = some conn := by
  have passes : ∀ time who,
      ((trace.state time).conn conn).writer = some who →
        ((trace.state (time + 1)).conn conn).writer = some who ∨
          ((trace.state (time + 1)).conn conn).writer = none := by
    intro time who held
    exact (trace_stepped trace time).writer_passes held
  rcases trace.often_released_or_kept (fun pool => (pool.conn conn).writer)
    passes with often | ⟨writer, time, keeps⟩
  · exfalso
    apply fair.not_often_able (call_acts_finite trace task)
    intro first
    obtain ⟨time, later, free⟩ := often (max start first)
    exact ⟨time, by omega, runs_of_writer (stays time (by omega)) free⟩
  · refine ⟨writer, time, fun later after => ?_⟩
    exact (trace_progressing initial later).writers conn writer
      (keeps later after)

/-- In every fair run a call of `resolve` returns, or is left for ever with a
write that does not: its own one, or the one of the call that holds the writer
for which it waits. -/
theorem call_returns (trace : Trace step) (fair : trace.Fair Event.actor?)
    (initial : trace.state 0 = new proxy idleTimeout) {task : TaskId}
    {call : Call} {start : Nat}
    (called : ((trace.state start).task task).call? = some call) :
    ∃ time, start ≤ time ∧
      ((∃ result, (trace.state time).task task = .done call result) ∨
        ∃ writer conn, ∀ later, time ≤ later →
          ((trace.state later).task writer).writesTo = some conn ∧
            (writer = task ∨
              ((trace.state later).task task).needsWriter = some conn)) := by
  obtain ⟨quiet, rests⟩ := not_often.mp (call_finite trace task)
  have kept : ∀ time, start ≤ time →
      ((trace.state time).task task).call? = some call := by
    intro time later
    induction time, later using Nat.le_induction with
    | base => exact called
    | succ time later induction =>
        rcases (trace_stepped trace time).call? task with same | ⟨idle, _⟩
        · rw [same, induction]
        · rw [idle] at induction
          cases induction
  have same : ∀ time, max start quiet ≤ time →
      (trace.state time).task task =
        (trace.state (max start quiet)).task task := by
    intro time later
    apply trace.stays (fun pool => pool.task task) _ later
    intro time later
    apply (trace_stepped trace time).rests (Bool.eq_false_iff.mpr _)
    intro acts
    exact rests time (by omega) (Or.inr acts)
  have isCall := kept (max start quiet) (by omega)
  cases needs : ((trace.state (max start quiet)).task task).needsWriter with
  | some conn =>
      have waits : ∀ time, max start quiet ≤ time →
          ((trace.state time).task task).needsWriter = some conn := by
        intro time later
        rw [same time later, needs]
      obtain ⟨writer, time, writes⟩ := writesTo_of_stays initial fair waits
      refine ⟨max time (max start quiet), by omega,
        Or.inr ⟨writer, conn, fun later after => ?_⟩⟩
      exact ⟨writes later (by omega), Or.inr (waits later (by omega))⟩
  | none =>
      have idle := not_active_of_stays initial fair same needs
      refine ⟨max start quiet, by omega, ?_⟩
      cases state : (trace.state (max start quiet)).task task with
      | idle =>
          rw [state] at isCall
          cases isCall
      | acquiring other forced stage =>
          rw [state] at idle
          cases idle
      | leased other forced lease progress =>
          refine Or.inr ⟨task, lease.conn, fun later after => ?_⟩
          rw [same later after, state]
          rw [state] at idle needs
          cases progress with
          | writing => exact ⟨rfl, Or.inl rfl⟩
          | ready => cases needs
          | _ => cases idle
      | done other result =>
          rw [state] at isCall
          cases isCall
          exact Or.inl ⟨result, rfl⟩

/-- A call for which both attempts find the proxy unreachable. -/
theorem call_returns_unreachable : ∃ trace : Trace step,
    trace.Fair Event.actor? ∧ trace.state 0 = new exampleProxy 60 ∧
      ((trace.state 1).task 0).call? =
        some { server := exampleServer, query := exampleQuery, since := 0 } ∧
      ∃ time, 1 ≤ time ∧
        ((∃ result, (trace.state time).task 0 = .done
            { server := exampleServer, query := exampleQuery, since := 0 }
            result) ∨
          ∃ writer conn, ∀ later, time ≤ later →
            ((trace.state later).task writer).writesTo = some conn ∧
              (writer = 0 ∨
                ((trace.state later).task 0).needsWriter = some conn)) := by
  let events : List Event :=
    [.call 0 exampleServer exampleQuery, .lockConns 0, .tryNext 0,
      .lockOpen 0, .lockConns 0, .tryNext 0, .checkCap 0, .loadProxy 0,
      .connect 0 false, .lockOpen 0, .loadProxy 0, .connect 0 false]
  obtain ⟨final, reached, nothing⟩ : ∃ final,
      run step (new exampleProxy 60) events = some final ∧
        ∀ who, ¬final.Pending who := by
    refine ⟨_, rfl, ?_⟩
    intro who pending
    cases who with
    | call task =>
        by_cases same : task = 0
        · subst same
          cases pending
        · simp [Pending, failOpen, setTask, same, new, Task.active]
            at pending
    | pruner => cases pending
    | switcher epoch => cases pending
    | reader conn => rcases pending with stopping | clearing <;> contradiction
  obtain ⟨trace, fair, initial, visits⟩ :=
    (idling_fair nothing).exists_append reached
  have afterCall := Option.some.inj (visits 1 (by decide))
  have called : ((trace.state 1).task 0).call? =
      some { server := exampleServer, query := exampleQuery, since := 0 } := by
    rw [← afterCall]
    rfl
  exact ⟨trace, fair, initial, called, call_returns trace fair initial called⟩

end Fair

end Pool

end Cortado.Dns
