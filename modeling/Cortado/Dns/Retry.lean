import Cortado.Dns.PoolFrame

/-!
# What a call puts on the wire

A call of `resolve` makes at most two attempts, and an attempt writes at most
one frame.  The second attempt opens a connection of its own, so no connection
ever carries the query of a call twice.
-/

namespace Cortado.Dns

open Transition

/-- The attempt has written its frame. -/
def Progress.hasWritten : Progress → Bool
  | .written | .waiting | .removing _ => true
  | _ => false

/-- A call in this state may have a frame of an attempt on a connection. -/
def Task.MayHaveWritten : Task → Bool → ConnId → Prop
  | .idle, _, _ => False
  | .acquiring _ again stage, forced, conn =>
      again = true ∧ forced = false ∧ stage ≠ .fresh conn
  | .leased _ again lease progress, forced, conn =>
      (forced = again ∧ lease.conn = conn ∧ progress.hasWritten = true) ∨
        (again = true ∧ forced = false ∧ lease.conn ≠ conn)
  | .done _ _, _, _ => True

/-- The second attempt does not look for a connection to reuse. -/
def Task.Direct : Task → Prop
  | .acquiring _ again stage => again = true → stage ≠ .reuse ∧ stage ≠ .recheck
  | _ => True

theorem Task.direct_conclude (call : Call) (forced : Bool)
    (outcome : Outcome) : (conclude call forced outcome).Direct := by
  cases outcome <;> cases forced <;> simp [conclude, Direct]

/-- Once it has ended, an attempt may have written anywhere. -/
theorem Task.mayHaveWritten_conclude (call : Call) {again forced : Bool}
    (outcome : Outcome) (conn : ConnId)
    (ended : forced = again ∨ forced = false) :
    (conclude call again outcome).MayHaveWritten forced conn := by
  cases outcome with
  | ok reply => trivial
  | fatal error => trivial
  | retry error =>
      cases again with
      | true => trivial
      | false =>
          rcases ended with rfl | rfl <;> exact ⟨rfl, rfl, by simp⟩

namespace Pool

variable {pool next : Pool} {event : Event}

/-- Whose frames a connection has carried. -/
def owners (pool : Pool) (conn : ConnId) : List AttemptId :=
  (pool.conn conn).sent.map SentFrame.owner

/-- The frames of a call are on at most two connections, one on each. -/
structure WrittenOnce (pool : Pool) : Prop where
  once : ∀ conn, ((pool.owners conn).map Prod.fst).Nodup
  single : ∀ {owner first second}, owner ∈ pool.owners first →
    owner ∈ pool.owners second → first = second
  twice : ∀ {task : TaskId} {conns : List ConnId}, conns.Nodup →
    (∀ conn ∈ conns, ∃ forced, (task, forced) ∈ pool.owners conn) →
      conns.length ≤ 2

/-- Every frame is accounted for by the state of its call. -/
structure Accounted (pool : Pool) : Prop where
  wellFormed : pool.WellFormed
  direct : ∀ task, (pool.task task).Direct
  written : ∀ {task forced conn}, (task, forced) ∈ pool.owners conn →
    (pool.task task).MayHaveWritten forced conn
  nodup : ∀ conn, (pool.owners conn).Nodup
  single : ∀ {owner first second}, owner ∈ pool.owners first →
    owner ∈ pool.owners second → first = second
  apart : ∀ {task first second}, (task, false) ∈ pool.owners first →
    (task, true) ∈ pool.owners second → first ≠ second

theorem Accounted.writtenOnce (accounted : pool.Accounted) :
    pool.WrittenOnce where
  once := by
    intro conn
    refine (accounted.nodup conn).map_on ?_
    rintro ⟨task, first⟩ isFirst ⟨other, second⟩ isSecond same
    cases same
    cases first <;> cases second
    · rfl
    · exact absurd rfl (accounted.apart isFirst isSecond)
    · exact absurd rfl (accounted.apart isSecond isFirst)
    · rfl
  single := accounted.single
  twice := by
    intro task conns nodup carries
    by_contra many
    obtain ⟨first, second, third, rest, rfl⟩ : ∃ first second third rest,
        conns = first :: second :: third :: rest := by
      match conns, many with
      | first :: second :: third :: rest, _ => exact ⟨_, _, _, _, rfl⟩
      | [], many | [_], many | [_, _], many => simp at many
    simp only [List.nodup_cons, List.mem_cons, not_or] at nodup
    obtain ⟨⟨firstSecond, firstThird, _⟩, ⟨secondThird, _⟩, _⟩ := nodup
    obtain ⟨one, isOne⟩ := carries first (by simp)
    obtain ⟨two, isTwo⟩ := carries second (by simp)
    obtain ⟨three, isThree⟩ := carries third (by simp)
    -- Two of the three connections belong to the same attempt.
    have same : one = two ∨ one = three ∨ two = three := by
      cases one <;> cases two <;> cases three <;> simp
    rcases same with rfl | rfl | rfl
    · exact firstSecond (accounted.single isOne isTwo)
    · exact firstThird (accounted.single isOne isThree)
    · exact secondThird (accounted.single isTwo isThree)

theorem accounted_new (proxy : ProxyConfig) (idleTimeout : Nat) :
    (new proxy idleTimeout).Accounted where
  wellFormed := wellFormed_new proxy idleTimeout
  direct _ := trivial
  written := by
    intro task forced conn member
    cases member
  nodup _ := List.nodup_nil
  single := by
    intro owner first second member
    cases member
  apart := by
    intro task first second member
    cases member

/-- Only `write` adds a frame, at the end of those of its connection. -/
theorem Stepped.owners (wellFormed : pool.WellFormed)
    (stepped : Stepped pool event next) :
    (∀ conn, next.owners conn = pool.owners conn) ∨
      ∃ task call forced lease,
        pool.task task = .leased call forced lease .writing ∧
        next.task task = .leased call forced lease .written ∧
        ∀ conn, next.owners conn =
          if conn = lease.conn then pool.owners conn ++ [(task, forced)]
          else pool.owners conn := by
  have kept : ∀ {other value}, value.sent.map SentFrame.owner =
      (pool.conn other).sent.map SentFrame.owner → ∀ conn,
      (Function.update pool.conn other value conn).sent.map SentFrame.owner =
        (pool.conn conn).sent.map SentFrame.owner := by
    intro other value same conn
    exact read_update (fun record : Conn => record.sent.map SentFrame.owner)
      rfl same conn
  cases stepped with
  | @wrote task call forced lease leased =>
      refine Or.inr ⟨task, call, forced, lease, leased, by simp, ?_⟩
      intro conn
      by_cases here : conn = lease.conn
      · subst here
        simp [Pool.owners, setTask, Conn.append]
      · simp [Pool.owners, setTask, here]
  | full | hit | allocated | notAllocated | lockedWriter | unwritten
  | markedDead | touched | evicted | idled | stopped | died | cleaned =>
      refine Or.inl (kept ?_)
      rfl
  | connected =>
      refine Or.inl (kept ?_)
      rw [(wellFormed.unborn (Nat.le_refl _)).sent]
      rfl
  | armed | removed =>
      left
      intro conn
      simp only [Pool.owners, setTask, setConn, setChan, settle_conn]
      refine kept ?_ conn
      rfl
  | cleared =>
      left
      intro conn
      dsimp only [Pool.owners]
      split <;> rfl
  | strayed =>
      left
      intro conn
      simp only [Pool.owners, deliver, setConn, settle_conn]
      refine kept ?_ conn
      rfl
  | @answered other body position =>
      left
      intro conn
      simp only [Pool.owners, deliver, setConn, settle_conn,
        Function.update_idem]
      refine kept ?_ conn
      apply List.ext_getElem?
      intro index
      simp only [Conn.answer, Conn.vacate, List.getElem?_map,
        List.getElem?_modify]
      cases (pool.conn other).sent[index]? with
      | none => rfl
      | some sent => split <;> rfl
  | _ => exact Or.inl fun _ => rfl

theorem Accounted.born (accounted : pool.Accounted) {owner : AttemptId}
    {conn : ConnId} (member : owner ∈ pool.owners conn) :
    conn < pool.nextConn := by
  by_contra late
  have unborn := accounted.wellFormed.unborn (Nat.le_of_not_lt late)
  rw [Pool.owners, unborn.sent] at member
  cases member

theorem Accounted.direct_step (accounted : pool.Accounted)
    (stepped : Stepped pool event next) (task : TaskId) :
    (next.task task).Direct := by
  have moved : ∀ {actor value}, value.Direct →
      (Function.update pool.task actor value task).Direct := by
    intro actor value direct
    by_cases same : task = actor
    · subst same
      rwa [Function.update_self]
    · rw [Function.update_of_ne same]
      exact accounted.direct task
  cases stepped with
  | refused | received => exact moved trivial
  | called => exact moved (by simp [Task.Direct])
  | missed locked acting moves =>
      apply moved
      rcases moves with ⟨rfl, rfl⟩ | ⟨rfl, rfl⟩ <;> simp [Task.Direct]
  | @lockedOpen _ call forced => exact moved (by cases forced <;> simp [Task.Direct])
  | roomy | loaded | connected => exact moved (by simp [Task.Direct])
  | capped | unreachable | notAllocated =>
      exact moved (Task.direct_conclude _ _ _)
  | hit | allocated | registered | lockedWriter | wrote | unwritten
  | markedDead | touched | disconnected | expired => exact moved trivial
  | armed =>
      simp only [setTask, setConn, setChan, settle_task]
      exact moved trivial
  | removed =>
      simp only [setTask, setConn, settle_task]
      exact moved (Task.direct_conclude _ _ _)
  | strayed | answered =>
      simp only [deliver, setConn, settle_task]
      exact accounted.direct task
  | _ => exact accounted.direct task

/-- A step of a call does not disown what it has written. -/
theorem Accounted.written_step (accounted : pool.Accounted)
    (stepped : Stepped pool event next) {task : TaskId} {forced : Bool}
    {conn : ConnId} (member : (task, forced) ∈ pool.owners conn) :
    (next.task task).MayHaveWritten forced conn := by
  have before := accounted.written member
  have moved : ∀ {actor state value}, pool.task actor = state →
      (state.MayHaveWritten forced conn →
        value.MayHaveWritten forced conn) →
      (Function.update pool.task actor value task).MayHaveWritten
        forced conn := by
    rintro actor state value rfl implies
    by_cases same : task = actor
    · subst same
      rw [Function.update_self]
      exact implies before
    · rwa [Function.update_of_ne same]
  have advanced : ∀ {actor call again lease first second},
      pool.task actor = .leased call again lease first →
      (first.hasWritten = true → second.hasWritten = true) →
      (Function.update pool.task actor (.leased call again lease second)
        task).MayHaveWritten forced conn := by
    intro actor call again lease first second leased written
    apply moved leased
    rintro (⟨isAgain, isConn, hasWritten⟩ | ⟨isSecond, isFirst, other⟩)
    · exact Or.inl ⟨isAgain, isConn, written hasWritten⟩
    · exact Or.inr ⟨isSecond, isFirst, other⟩
  cases stepped with
  | refused idle | called idle => exact moved idle False.elim
  | missed locked acting moves =>
      apply moved acting
      rintro ⟨isSecond, isFirst, _⟩
      refine ⟨isSecond, isFirst, ?_⟩
      rcases moves with ⟨_, rfl⟩ | ⟨_, rfl⟩ <;> simp
  | @hit actor call again stage other rest draw locked acting =>
      apply moved acting
      rintro ⟨isSecond, isFirst, _⟩
      have scanning := accounted.wellFormed.lock
      rw [locked] at scanning
      obtain ⟨_, _, _, acquiring, scans, _⟩ := scanning
      rw [acting] at acquiring
      cases acquiring
      have direct := accounted.direct actor
      rw [acting] at direct
      obtain ⟨notReuse, notRecheck⟩ := direct isSecond
      exact (scans.elim notReuse notRecheck).elim
  | @lockedOpen actor call again free acting =>
      apply moved acting
      rintro ⟨isSecond, isFirst, _⟩
      exact ⟨isSecond, isFirst, by cases again <;> simp⟩
  | roomy free acting | loaded acting =>
      apply moved acting
      rintro ⟨isSecond, isFirst, _⟩
      exact ⟨isSecond, isFirst, by simp⟩
  | connected acting =>
      apply moved acting
      rintro ⟨isSecond, isFirst, _⟩
      refine ⟨isSecond, isFirst, ?_⟩
      simpa using Nat.ne_of_gt (accounted.born member)
  | allocated acting =>
      apply moved acting
      rintro ⟨isSecond, isFirst, other⟩
      exact Or.inr ⟨isSecond, isFirst, by simpa using other⟩
  | capped free acting | unreachable acting | notAllocated acting =>
      apply moved acting
      rintro ⟨_, isFirst, _⟩
      exact Task.mayHaveWritten_conclude _ _ _ (Or.inr isFirst)
  | registered free leased | lockedWriter leased | wrote leased
  | unwritten leased | markedDead leased =>
      apply advanced leased
      intro written
      cases written
  | armed leased =>
      simp only [setTask, setConn, setChan, settle_task]
      apply advanced leased
      intro written
      cases written
  | touched leased | disconnected leased | expired leased =>
      apply advanced leased
      intro _
      rfl
  | received leased => exact moved leased fun _ => trivial
  | removed leased =>
      simp only [setTask, setConn, settle_task]
      apply moved leased
      rintro (⟨isAgain, _⟩ | ⟨_, isFirst, _⟩)
      · exact Task.mayHaveWritten_conclude _ _ _ (Or.inl isAgain)
      · exact Task.mayHaveWritten_conclude _ _ _ (Or.inr isFirst)
  | strayed | answered =>
      simp only [deliver, setConn, settle_task]
      exact before
  | _ => exact before

theorem Accounted.step (accounted : pool.Accounted)
    (stepped : pool.step event = some next) : next.Accounted := by
  have outcome := stepped_of_step stepped
  have wellFormed := accounted.wellFormed.of_step stepped
  have direct := accounted.direct_step outcome
  rcases outcome.owners accounted.wellFormed with
    same | ⟨task, call, forced, lease, ready, written, appended⟩
  · exact
      { wellFormed := wellFormed
        direct := direct
        written := fun member =>
          accounted.written_step outcome (same _ ▸ member)
        nodup := fun conn => same conn ▸ accounted.nodup conn
        single := fun isFirst isSecond =>
          accounted.single (same _ ▸ isFirst) (same _ ▸ isSecond)
        apart := fun isFirst isSecond =>
          accounted.apart (same _ ▸ isFirst) (same _ ▸ isSecond) }
  -- The attempt has written nothing before, and a second one writes on a
  -- connection that the first did not write on.
  have fresh : ∀ conn, (task, forced) ∉ pool.owners conn := by
    intro conn member
    have written := accounted.written member
    rw [ready] at written
    rcases written with ⟨_, _, hasWritten⟩ | ⟨isSecond, isFirst, _⟩
    · cases hasWritten
    · rw [isSecond] at isFirst
      cases isFirst
  have elsewhere : ∀ {other}, (task, other) ∈ pool.owners lease.conn →
      False := by
    intro other member
    have written := accounted.written member
    rw [ready] at written
    rcases written with ⟨_, _, hasWritten⟩ | ⟨_, _, different⟩
    · cases hasWritten
    · exact different rfl
  have members : ∀ {owner conn}, owner ∈ next.owners conn →
      owner ∈ pool.owners conn ∨ conn = lease.conn ∧ owner = (task, forced) := by
    intro owner conn member
    rw [appended] at member
    split at member
    · rename_i here
      rcases List.mem_append.mp member with old | new
      · exact Or.inl old
      · exact Or.inr ⟨here, List.mem_singleton.mp new⟩
    · exact Or.inl member
  exact
    { wellFormed := wellFormed
      direct := direct
      written := by
        intro other again conn member
        rcases members member with old | ⟨rfl, isNew⟩
        · exact accounted.written_step outcome old
        · cases isNew
          rw [written]
          exact Or.inl ⟨rfl, rfl, rfl⟩
      nodup := by
        intro conn
        rw [appended]
        split
        · rw [← List.concat_eq_append]
          exact (accounted.nodup conn).concat (fresh conn)
        · exact accounted.nodup conn
      single := by
        intro owner first second isFirst isSecond
        rcases members isFirst with oldFirst | ⟨rfl, rfl⟩ <;>
          rcases members isSecond with oldSecond | ⟨rfl, isNew⟩
        · exact accounted.single oldFirst oldSecond
        · exact absurd (isNew ▸ oldFirst) (fresh first)
        · exact absurd oldSecond (fresh second)
        · rfl
      apart := by
        rintro other first second isFirst isSecond rfl
        rcases members isFirst with oldFirst | ⟨rfl, isNew⟩ <;>
          rcases members isSecond with oldSecond | ⟨here, isNew'⟩
        · exact accounted.apart oldFirst oldSecond rfl
        · cases isNew'
          exact elsewhere (here ▸ oldFirst)
        · cases isNew
          exact elsewhere oldSecond
        · cases isNew
          cases isNew' }

/-- In every interleaving a call writes at most two frames, the second on a
connection that did not carry the first. -/
theorem always_writtenOnce (proxy : ProxyConfig) (idleTimeout : Nat)
    (events : List Event) :
    Always step WrittenOnce (new proxy idleTimeout) events := by
  have always : Always step Accounted (new proxy idleTimeout) events :=
    always_of_invariant (fun _ _ _ accounted => accounted.step)
      (accounted_new proxy idleTimeout) events
  exact always.mono fun _ accounted => accounted.writtenOnce

end Pool

end Cortado.Dns
