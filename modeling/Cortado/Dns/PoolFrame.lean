import Cortado.Dns.PoolInvariant

/-!
# What a step of the pool leaves alone

A connection keeps its server, its proxy and the epoch it was opened in, and
is never revived.  Connections enter the map by registration only, and a
finished call stays as it is.
-/

namespace Cortado.Dns

open Multiplexer

/-- A connection that is alive has a reader which has not cleared the flag. -/
def Conn.Reading (conn : Conn) : Prop :=
  conn.alive = true → conn.reader = .running ∨ conn.reader = .stopping

/-- How the record of a connection may change. -/
structure Conn.Continues (before after : Conn) : Prop where
  server : after.server = before.server
  proxy : after.proxy = before.proxy
  epoch : after.epoch = before.epoch
  alive : after.alive = true → before.alive = true
  draws : before.draws ≤ after.draws
  running : after.reader = .running → before.reader = .running
  reading : before.Reading → after.Reading

theorem Conn.Continues.refl (conn : Conn) : conn.Continues conn :=
  ⟨rfl, rfl, rfl, id, Nat.le_refl _, id, id⟩

/-- A connection may die, and its reader may go on to its end. -/
theorem Conn.Continues.dead (conn : Conn) {reader : ReaderState}
    (later : reader = .running → conn.reader = .running) :
    conn.Continues { conn with alive := false, reader := reader } :=
  ⟨rfl, rfl, rfl, by simp, Nat.le_refl _, later, by simp [Conn.Reading]⟩

/-- The query has a length that `resolve` accepts. -/
def Call.Admitted (call : Call) : Prop :=
  12 ≤ call.query.length ∧ call.query.length ≤ maxDnsMessage

/-- A call that ends or starts over holds no connection. -/
theorem Task.conclude_ne_leased (call : Call) (forced : Bool)
    (outcome : Outcome) {leased : Call} {again : Bool} {lease : Lease}
    {progress : Progress} :
    conclude call forced outcome ≠ .leased leased again lease progress := by
  intro concluded
  have noConn := congrArg Task.conn? concluded
  rw [Task.conn?_conclude] at noConn
  cases noConn

/-- The event moves the task on from the state it is in. -/
def Event.acts (event : Event) (task : TaskId) (state : Task) : Bool :=
  match event, state with
  | .call actor _ _, .idle
  | .tryNext actor, .acquiring _ _ _
  | .lockOpen actor, .acquiring _ _ .waitOpen
  | .checkCap actor, .acquiring _ _ .checkCap
  | .loadProxy actor, .acquiring _ _ .opening
  | .connect actor _, .acquiring _ _ (.connecting _ _)
  | .allocateFresh actor, .acquiring _ _ (.fresh _)
  | .register actor, .leased _ _ _ .register
  | .insertSender actor, .leased _ _ _ .acquired
  | .lockWriter actor, .leased _ _ _ .ready
  | .write actor _, .leased _ _ _ .writing
  | .markDead actor, .leased _ _ _ .writeError
  | .touch actor, .leased _ _ _ .written
  | .receive actor, .leased _ _ _ .waiting
  | .expire actor, .leased _ _ _ .waiting
  | .remove actor, .leased _ _ _ (.removing _) => actor = task
  | _, _ => false

namespace Pool

variable {pool next : Pool} {event : Event}

/-- Other tasks are where they were. -/
theorem Stepped.rests (stepped : Stepped pool event next) {task : TaskId}
    (rests : event.acts task (pool.task task) = false) :
    next.task task = pool.task task := by
  have others : ∀ {actor value}, actor ≠ task →
      Function.update pool.task actor value task = pool.task task := by
    intro actor value different
    exact Function.update_of_ne (Ne.symm different) _ _
  have acting : ∀ {actor before}, pool.task actor = before →
      event.acts actor before = true → actor ≠ task := by
    rintro actor before rfl acts rfl
    rw [rests] at acts
    cases acts
  cases stepped with
  | refused acts | called acts => exact others (acting acts (by simp [Event.acts]))
  | missed locked acts | hit locked acts | lockedOpen free acts
  | capped free acts | roomy free acts | loaded acts | connected acts
  | unreachable acts | allocated acts | notAllocated acts
  | registered free acts | markedDead acts | touched acts | received acts
  | disconnected acts | expired acts | lockedWriter acts | wrote acts
  | unwritten acts =>
      exact others (acting acts (by simp [Event.acts]))
  | armed acts | removed acts =>
      simp only [setTask, setConn, setChan, settle_task]
      exact others (acting acts (by simp [Event.acts]))
  | strayed | answered => simp [deliver, setConn]
  | _ => rfl

/-- A finished call stays as it is. -/
theorem Stepped.done (stepped : Stepped pool event next) {task : TaskId}
    {call : Call} {result : Except ResolveError Message}
    (finished : pool.task task = .done call result) :
    next.task task = .done call result := by
  rw [stepped.rests, finished]
  rw [finished]
  cases event <;> rfl

theorem continues_update {table : ConnId → Conn} {conn : ConnId}
    {value : Conn} (continued : (table conn).Continues value)
    (other : ConnId) :
    (table other).Continues (Function.update table conn value other) := by
  by_cases same : other = conn
  · subst same
    simpa using continued
  · simpa [same] using Conn.Continues.refl (table other)

theorem Stepped.continues (stepped : Stepped pool event next) {conn : ConnId}
    (born : conn < pool.nextConn) :
    (pool.conn conn).Continues (next.conn conn) := by
  cases stepped with
  | full locked acquiring advanced =>
      refine continues_update ?_ conn
      exact ⟨rfl, rfl, rfl, id, advanced, id, id⟩
  | hit locked acquiring advanced =>
      refine continues_update ?_ conn
      exact ⟨rfl, rfl, rfl, id, Nat.le_succ_of_le advanced, id, id⟩
  | connected acquiring =>
      simp only [setTask, setConn_conn,
        Function.update_of_ne (Nat.ne_of_lt born)]
      exact .refl _
  | allocated acquiring advanced =>
      refine continues_update ?_ conn
      exact ⟨rfl, rfl, rfl, id, Nat.le_succ_of_le advanced, id, id⟩
  | notAllocated acquiring advanced =>
      refine continues_update ?_ conn
      exact ⟨rfl, rfl, rfl, id, advanced, id, id⟩
  | armed leased =>
      simp only [setTask, setConn_conn, setChan, settle_conn]
      refine continues_update ?_ conn
      exact ⟨rfl, rfl, rfl, id, Nat.le_refl _, id, id⟩
  | lockedWriter leased | wrote leased | unwritten leased =>
      refine continues_update ?_ conn
      exact ⟨rfl, rfl, rfl, id, Nat.le_refl _, id, id⟩
  | markedDead leased => exact continues_update (.dead _ id) conn
  | touched leased =>
      refine continues_update ?_ conn
      exact ⟨rfl, rfl, rfl, id, Nat.le_refl _, id, id⟩
  | removed leased =>
      simp only [setTask, setConn_conn, settle_conn]
      refine continues_update ?_ conn
      exact ⟨rfl, rfl, rfl, id, Nat.le_refl _, id, id⟩
  | cleared free switching =>
      dsimp only
      split
      · exact .dead _ id
      · exact .refl _
  | evicted locked idle => exact continues_update (.dead _ id) conn
  | idled running | stopped running =>
      refine continues_update ?_ conn
      exact ⟨rfl, rfl, rfl, id, Nat.le_refl _, by simp,
        by simp [Conn.Reading]⟩
  | strayed running identified =>
      simp only [deliver, setConn_conn, settle_conn]
      refine continues_update ?_ conn
      exact ⟨rfl, rfl, rfl, id, Nat.le_refl _, id, id⟩
  | answered running found unanswered identified =>
      simp only [deliver, setConn_conn, settle_conn, Function.update_idem]
      refine continues_update ?_ conn
      exact ⟨rfl, rfl, rfl, id, Nat.le_refl _, id, id⟩
  | died stopping => exact continues_update (.dead _ (by simp)) conn
  | cleaned clearing =>
      refine continues_update ?_ conn
      refine ⟨rfl, rfl, rfl, id, Nat.le_refl _, by simp, ?_⟩
      intro reading alive
      have running := reading alive
      simp [clearing] at running
  | _ => exact .refl _

/-- An entry is replaced by one that reads the same. -/
theorem read_update {κ α β : Type} [DecidableEq κ] {table : κ → α} {key : κ}
    {before value : α} (read : α → β) (found : table key = before)
    (kept : read value = read before) (other : κ) :
    read (Function.update table key value other) = read (table other) := by
  by_cases same : other = key
  · subst same
    simpa [found] using kept
  · simp [same]

/-- A task keeps its call.  A new call knows the switches completed before it,
and is refused unless its query has an admissible length. -/
theorem Stepped.call? (stepped : Stepped pool event next) (task : TaskId) :
    (next.task task).call? = (pool.task task).call? ∨
      pool.task task = .idle ∧ ∃ call, (next.task task).call? = some call ∧
        call.since = pool.completed ∧
        (call.Admitted ∨ ∃ error, next.task task =
          .done call (.error error)) := by
  cases stepped with
  | @refused actor server query error idle =>
      by_cases same : task = actor
      · subst same
        refine Or.inr ⟨idle,
          { server := server, query := query, since := pool.completed },
          ?_, rfl, Or.inr ⟨error, ?_⟩⟩
        · simp [Task.call?]
        · simp
      · simp [same]
  | @called actor server query idle long short =>
      by_cases same : task = actor
      · subst same
        refine Or.inr ⟨idle,
          { server := server, query := query, since := pool.completed },
          ?_, rfl, Or.inl ⟨long, short⟩⟩
        simp [Task.call?]
      · simp [same]
  | missed locked acquiring | hit locked acquiring | lockedOpen free acquiring
  | roomy free acquiring | loaded acquiring | connected acquiring
  | allocated acquiring =>
      refine Or.inl (read_update Task.call? acquiring ?_ task)
      rfl
  | capped free acquiring | unreachable acquiring | notAllocated acquiring =>
      refine Or.inl (read_update Task.call? acquiring ?_ task)
      exact Task.call?_conclude _ _ _
  | registered free leased | lockedWriter leased | wrote leased
  | unwritten leased | markedDead leased | touched leased | received leased
  | disconnected leased | expired leased =>
      refine Or.inl (read_update Task.call? leased ?_ task)
      rfl
  | armed leased =>
      simp only [setTask, setConn, setChan, settle_task]
      refine Or.inl (read_update Task.call? leased ?_ task)
      rfl
  | removed leased =>
      simp only [setTask, setConn, settle_task]
      refine Or.inl (read_update Task.call? leased ?_ task)
      exact Task.call?_conclude _ _ _
  | strayed | answered => simp [deliver, setConn]
  | _ => exact Or.inl rfl

theorem Stepped.nextConn_le (stepped : Stepped pool event next) :
    pool.nextConn ≤ next.nextConn := by
  cases stepped with
  | connected => exact Nat.le_succ _
  | armed | removed | strayed | answered =>
      simp only [deliver, setTask, setConn, setChan, settle_nextConn]
      exact Nat.le_refl _
  | _ => exact Nat.le_refl _

/-- A new connection is one that a task was waiting for. -/
theorem Stepped.born (stepped : Stepped pool event next) {conn : ConnId}
    (bound : conn < next.nextConn) (new : ¬conn < pool.nextConn) :
    ∃ task call forced proxy epoch, pool.task task =
        .acquiring call forced (.connecting proxy epoch) ∧
      next.conn conn = Conn.fresh call.server proxy epoch pool.clock := by
  cases stepped with
  | @connected task call forced proxy epoch acquiring =>
      refine ⟨task, call, forced, proxy, epoch, acquiring, ?_⟩
      have isNew : conn = pool.nextConn :=
        Nat.le_antisymm (Nat.le_of_lt_succ bound) (Nat.le_of_not_lt new)
      simp [setTask, isNew]
  | armed | removed | strayed | answered =>
      simp only [deliver, setTask, setConn, setChan, settle_nextConn]
        at bound
      exact absurd bound new
  | _ => exact absurd bound new

/-- Connections enter the map by registration only. -/
theorem Stepped.conns_sublist (stepped : Stepped pool event next)
    (other : ∀ task, event ≠ .register task) :
    next.conns.Sublist pool.conns := by
  cases stepped with
  | registered free leased => exact absurd rfl (other _)
  | lockedConns free acquiring scans => exact List.filter_sublist
  | capped free acquiring => exact List.filter_sublist
  | roomy free acquiring room => exact List.filter_sublist
  | cleared free switching => exact List.nil_sublist _
  | pruned locked member dead => exact List.erase_sublist
  | evicted locked idle => exact List.erase_sublist
  | armed leased =>
      simp only [setTask, setConn, setChan, settle_conns]
      exact List.Sublist.refl _
  | removed leased =>
      simp only [setTask, setConn, settle_conns]
      exact List.Sublist.refl _
  | strayed running identified =>
      simp only [deliver, setConn, settle_conns]
      exact List.Sublist.refl _
  | answered running found unanswered identified =>
      simp only [deliver, setConn, settle_conns]
      exact List.Sublist.refl _
  | _ => exact List.Sublist.refl _

/-- A task that has an identifier had it before, or takes it now: from a
connection of the map that it scans, or from the one it has just opened. -/
theorem Stepped.leases (stepped : Stepped pool event next) {task : TaskId}
    {call : Call} {forced : Bool} {lease : Lease} {progress : Progress}
    (leased : next.task task = .leased call forced lease progress) :
    (∃ before, pool.task task = .leased call forced lease before) ∨
    (∃ rest, pool.connsLock = .reuse task (lease.conn :: rest)) ∨
    ∃ called again, pool.task task =
      .acquiring called again (.fresh lease.conn) := by
  have moved : ∀ {actor before value},
      pool.task actor = before →
      (value = .leased call forced lease progress →
        (∃ progress, before = .leased call forced lease progress) ∨
        (∃ rest, pool.connsLock = .reuse actor (lease.conn :: rest)) ∨
        ∃ called again, before = .acquiring called again (.fresh lease.conn)) →
      Function.update pool.task actor value task =
        .leased call forced lease progress →
      (∃ before, pool.task task = .leased call forced lease before) ∨
      (∃ rest, pool.connsLock = .reuse task (lease.conn :: rest)) ∨
      ∃ called again, pool.task task =
        .acquiring called again (.fresh lease.conn) := by
    rintro actor before value rfl taken updated
    by_cases same : task = actor
    · subst same
      rw [Function.update_self] at updated
      exact taken updated
    · rw [Function.update_of_ne same] at updated
      exact Or.inl ⟨progress, updated⟩
  cases stepped with
  | refused acting | called acting =>
      exact moved acting (by simp) leased
  | missed locked acting | lockedOpen free acting | roomy free acting
  | loaded acting | connected acting =>
      exact moved acting (by simp) leased
  | capped free acting | unreachable acting | notAllocated acting =>
      exact moved acting (absurd · (Task.conclude_ne_leased _ _ _)) leased
  | hit locked acting =>
      refine moved acting ?_ leased
      rintro ⟨⟩
      exact Or.inr (Or.inl ⟨_, locked⟩)
  | allocated acting =>
      refine moved acting ?_ leased
      rintro ⟨⟩
      exact Or.inr (Or.inr ⟨_, _, rfl⟩)
  | registered free acting | lockedWriter acting | wrote acting
  | unwritten acting | markedDead acting | touched acting | disconnected acting
  | expired acting =>
      refine moved acting ?_ leased
      rintro ⟨⟩
      exact Or.inl ⟨_, rfl⟩
  | armed acting =>
      simp only [setTask, setConn, setChan, settle_task] at leased
      refine moved acting ?_ leased
      rintro ⟨⟩
      exact Or.inl ⟨_, rfl⟩
  | received acting => exact moved acting (by simp) leased
  | removed acting =>
      simp only [setTask, setConn, settle_task] at leased
      exact moved acting (absurd · (Task.conclude_ne_leased _ _ _)) leased
  | strayed | answered =>
      simp only [deliver, setConn, settle_task] at leased
      exact Or.inl ⟨progress, leased⟩
  | _ => exact Or.inl ⟨progress, leased⟩

/-- What a step does to the frames of a connection: nothing, one more frame,
or the answer to one of them. -/
theorem Stepped.sent_cases (wellFormed : pool.WellFormed)
    (stepped : Stepped pool event next) (conn : ConnId) :
    (next.conn conn).sent = (pool.conn conn).sent ∨
      (∃ task call forced lease,
        pool.task task = .leased call forced lease .writing ∧
        conn = lease.conn ∧
        (next.conn conn).sent = (pool.conn conn).sent ++
          [{ owner := (task, forced)
             draw := lease.draw
             bytes := frame lease.id call.query
             answer := none }]) ∨
      ∃ body position asked,
        event = .readerFrame conn body (some position) ∧
        (pool.conn conn).sent[position]? = some asked ∧
        asked.answer = none ∧
        messageId body = some (candidate asked.draw) := by
  have kept : ∀ {other value}, value.sent = (pool.conn other).sent →
      (Function.update pool.conn other value conn).sent =
        (pool.conn conn).sent := by
    intro other value same
    exact read_update Conn.sent rfl same conn
  cases stepped with
  | full | hit | allocated | notAllocated | lockedWriter | unwritten
  | markedDead | touched | evicted | idled | stopped | died | cleaned =>
      refine Or.inl (kept ?_)
      rfl
  | connected =>
      left
      refine kept ?_
      rw [(wellFormed.unborn (Nat.le_refl _)).sent]
      rfl
  | armed | removed | strayed =>
      simp only [deliver, setTask, setConn, setChan, settle_conn]
      refine Or.inl (kept ?_)
      rfl
  | @wrote task call forced lease leased =>
      by_cases here : conn = lease.conn
      · subst here
        refine Or.inr (Or.inl ⟨task, call, forced, lease, leased, rfl, ?_⟩)
        simp [setTask, Conn.append]
      · left
        simp [setTask, here]
  | cleared =>
      left
      dsimp only
      split <;> rfl
  | @answered other body position asked running found unanswered identified =>
      by_cases here : conn = other
      · subst here
        exact Or.inr (Or.inr ⟨body, position, asked, rfl, found, unanswered,
          identified⟩)
      · left
        simp [deliver, here]
  | _ => exact Or.inl rfl

/-- The answer to a frame is recorded. -/
theorem Stepped.sent_answered {conn : ConnId} {body : Message}
    {position : Nat}
    (stepped : Stepped pool (.readerFrame conn body (some position)) next) :
    (next.conn conn).sent = (pool.conn conn).sent.modify position
      fun sent => { sent with answer := some body } := by
  cases stepped with
  | answered running found unanswered identified =>
      simp [Conn.answer, Conn.vacate]

/-- A frame was written before, maybe without its answer, or is being
written. -/
theorem Stepped.sent (wellFormed : pool.WellFormed)
    (stepped : Stepped pool event next) {conn : ConnId} {sent : SentFrame}
    (member : sent ∈ (next.conn conn).sent) :
    (∃ before ∈ (pool.conn conn).sent, before.owner = sent.owner ∧
      before.draw = sent.draw ∧ before.bytes = sent.bytes ∧
      (sent.answer = before.answer ∨
        ∃ body, sent.answer = some body ∧ 2 ≤ body.length)) ∨
    ∃ task call forced lease,
      pool.task task = .leased call forced lease .writing ∧
      conn = lease.conn ∧
      sent =
        { owner := (task, forced)
          draw := lease.draw
          bytes := frame lease.id call.query
          answer := none } := by
  rcases stepped.sent_cases wellFormed conn with
    same | ⟨task, call, forced, lease, leased, here, appended⟩ |
      ⟨body, position, asked, rfl, _, _, identified⟩
  · rw [same] at member
    exact Or.inl ⟨sent, member, rfl, rfl, rfl, Or.inl rfl⟩
  · rw [appended, List.mem_append, List.mem_singleton] at member
    rcases member with isOld | isNew
    · exact Or.inl ⟨sent, isOld, rfl, rfl, rfl, Or.inl rfl⟩
    · exact Or.inr ⟨task, call, forced, lease, leased, here, isNew⟩
  · rw [stepped.sent_answered] at member
    obtain ⟨before, isBefore, rfl | rfl⟩ := mem_of_mem_modify member
    · exact Or.inl ⟨_, isBefore, rfl, rfl, rfl, Or.inl rfl⟩
    · refine Or.inl ⟨before, isBefore, rfl, rfl, rfl, Or.inr ⟨body, rfl, ?_⟩⟩
      exact length_of_messageId identified

/-- Frames with an answer stay. -/
theorem Stepped.answered_kept (wellFormed : pool.WellFormed)
    (stepped : Stepped pool event next) {conn : ConnId} {sent : SentFrame}
    {body : Message} (member : sent ∈ (pool.conn conn).sent)
    (answered : sent.answer = some body) : sent ∈ (next.conn conn).sent := by
  rcases stepped.sent_cases wellFormed conn with
    same | ⟨_, _, _, _, _, _, appended⟩ |
      ⟨_, position, asked, rfl, found, unanswered, _⟩
  · rwa [same]
  · rw [appended]
    exact List.mem_append_left _ member
  · rw [stepped.sent_answered]
    apply mem_modify_of_ne found member
    rintro rfl
    rw [unanswered] at answered
    cases answered

end Pool

end Cortado.Dns
