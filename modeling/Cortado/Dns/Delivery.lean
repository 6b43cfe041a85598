import Cortado.Dns.Multiplex

/-!
# Replies reach the calls that asked for them

Assume that the server answers each frame at most once and under its
identifier, and that attempts and answers are over before the counter of the
connection has come round.  Then a call returns the body that its server gave
for a frame this very call has written, under the identifier of its query.
-/

namespace Cortado.Dns

open Multiplexer Transition

theorem Task.conclude_ne_ok (call : Call) (forced : Bool)
    (error : ResolveError) (called : Call) (reply : Message) :
    conclude call forced error.outcome ≠ .done called (.ok reply) := by
  cases error <;> cases forced <;> simp [ResolveError.outcome, conclude]

theorem Task.conclude_retry_ne_ok (call : Call) (forced : Bool)
    (error : ResolveError) (called : Call) (reply : Message) :
    conclude call forced (.retry error) ≠ .done called (.ok reply) := by
  cases forced <;> simp [conclude]

namespace Pool

/-- Every reply is the answer to a frame of its own call, and every frame is
the query of its call under a new identifier. -/
structure Paired (pool : Pool) : Prop where
  replies : ∀ {task call reply}, pool.task task = .done call (.ok reply) →
    ∃ conn sent body, sent ∈ (pool.conn conn).sent ∧ sent.owner.1 = task ∧
      sent.answer = some body ∧ (pool.conn conn).server = call.server ∧
      reply = call.query.take 2 ++ body.drop 2
  frames : ∀ {conn sent}, sent ∈ (pool.conn conn).sent →
    ∃ call, (pool.task sent.owner.1).call? = some call ∧
      (pool.conn conn).server = call.server ∧
      call.query.length ≤ maxDnsMessage ∧
      sent.bytes = toBeBytes (UInt16.ofNat call.query.length) ++
        toBeBytes (candidate sent.draw) ++ call.query.drop 2

/-- A frame of the call, with an answer that has an identifier. -/
def Wrote (pool : Pool) (conn : ConnId) (sent : SentFrame) : Prop :=
  ∃ call, (pool.task sent.owner.1).call? = some call ∧
    (pool.conn conn).server = call.server ∧ call.Admitted ∧
    sent.bytes = frame (candidate sent.draw) call.query ∧
    ∀ body, sent.answer = some body → 2 ≤ body.length

structure Delivering (pool : Pool) : Prop where
  faithful : pool.Faithful
  admitted : ∀ {task call}, (pool.task task).call? = some call →
    call.Admitted ∨ ∃ error, pool.task task = .done call (.error error)
  written : ∀ {conn sent}, sent ∈ (pool.conn conn).sent →
    pool.Wrote conn sent
  replied : ∀ {task call reply}, pool.task task = .done call (.ok reply) →
    ∃ conn sent body, sent ∈ (pool.conn conn).sent ∧ sent.owner.1 = task ∧
      sent.answer = some body ∧ reply = restoreId call.query body

variable {pool next : Pool} {event : Event}

theorem Delivering.paired (delivering : pool.Delivering) : pool.Paired where
  replies := by
    intro task call reply finished
    obtain ⟨conn, sent, body, member, isOwner, answered, rfl⟩ :=
      delivering.replied finished
    obtain ⟨written, calls, serves, admitted, _, long⟩ :=
      delivering.written member
    rw [isOwner, finished] at calls
    cases calls
    refine ⟨conn, sent, body, member, isOwner, answered, serves, ?_⟩
    apply restoreId_eq _ (long body answered)
    exact Nat.le_trans (by decide) admitted.1
  frames := by
    intro conn sent member
    obtain ⟨call, calls, serves, admitted, bytes, _⟩ :=
      delivering.written member
    refine ⟨call, calls, serves, admitted.2, ?_⟩
    rw [bytes]
    exact frame_eq (Nat.le_trans (by decide) admitted.1)

theorem delivering_new (proxy : ProxyConfig) (idleTimeout : Nat) :
    (new proxy idleTimeout).Delivering where
  faithful := faithful_new proxy idleTimeout
  admitted := by
    intro task call calls
    cases calls
  written := by
    intro conn sent member
    cases member
  replied := by
    intro task call reply finished
    cases finished

/-- A call that returns has received a reply before. -/
theorem Stepped.finishes (stepped : Stepped pool event next) {task : TaskId}
    {call : Call} {reply : Message}
    (finished : next.task task = .done call (.ok reply)) :
    pool.task task = .done call (.ok reply) ∨
      ∃ forced lease body,
        pool.task task = .leased call forced lease .waiting ∧
        pool.chan (task, forced) = .answered body ∧
        reply = restoreId call.query body := by
  have moved : ∀ {actor value}, value ≠ .done call (.ok reply) →
      Function.update pool.task actor value task = .done call (.ok reply) →
        pool.task task = .done call (.ok reply) := by
    intro actor value different updated
    by_cases same : task = actor
    · rw [same, Function.update_self] at updated
      exact absurd updated different
    · rwa [Function.update_of_ne same] at updated
  cases stepped with
  | refused | called | missed | hit | lockedOpen | roomy | loaded | connected
  | allocated | registered | lockedWriter | wrote | unwritten | markedDead
  | touched | disconnected | expired => exact Or.inl (moved (by simp) finished)
  | capped | unreachable | notAllocated =>
      exact Or.inl (moved (Task.conclude_retry_ne_ok _ _ _ _ _) finished)
  | armed =>
      simp only [setTask, setConn, setChan, settle_task] at finished
      exact Or.inl (moved (by simp) finished)
  | removed =>
      simp only [setTask, setConn, settle_task] at finished
      exact Or.inl (moved (Task.conclude_ne_ok _ _ _ _ _) finished)
  | @received actor called forced lease body leased answered =>
      by_cases same : task = actor
      · subst same
        simp only [setTask_task, Function.update_self] at finished
        cases finished
        exact Or.inr ⟨forced, lease, body, leased, answered, rfl⟩
      · simp only [setTask_task, Function.update_of_ne same] at finished
        exact Or.inl finished
  | strayed | answered =>
      simp only [deliver, setConn, settle_task] at finished
      exact Or.inl finished
  | _ => exact Or.inl finished

theorem Stepped.call?_kept (stepped : Stepped pool event next)
    {task : TaskId} {call : Call}
    (calls : (pool.task task).call? = some call) :
    (next.task task).call? = some call := by
  rcases stepped.call? task with kept | ⟨idle, _⟩
  · rw [kept]
    exact calls
  · rw [idle] at calls
    cases calls

theorem Delivering.written_step (delivering : pool.Delivering)
    (stepped : Stepped pool event next) {conn : ConnId} {sent : SentFrame}
    (member : sent ∈ (next.conn conn).sent) : next.Wrote conn sent := by
  have wellFormed := delivering.faithful.wellFormed
  rcases stepped.sent wellFormed member with
    ⟨before, isBefore, sameOwner, sameDraw, sameBytes, answers⟩ |
    ⟨task, call, forced, lease, leased, rfl, rfl⟩
  · obtain ⟨call, calls, serves, admitted, bytes, long⟩ :=
      delivering.written isBefore
    have continued := stepped.continues (wellFormed.born_of_sent isBefore)
    refine ⟨call, ?_, continued.server.trans serves, admitted, ?_, ?_⟩
    · rw [← sameOwner]
      exact stepped.call?_kept calls
    · rw [← sameBytes, ← sameDraw]
      exact bytes
    · intro body answered
      rcases answers with same | ⟨_, isBody, longBody⟩
      · rw [same] at answered
        exact long body answered
      · rw [isBody] at answered
        cases answered
        exact longBody
  · have calls : (pool.task task).call? = some call := by
      rw [leased]
      rfl
    have continued := stepped.continues (wellFormed.held_leased leased)
    have admitted : call.Admitted := by
      rcases delivering.admitted calls with admitted | ⟨error, refused⟩
      · exact admitted
      · rw [leased] at refused
        cases refused
    refine ⟨call, stepped.call?_kept calls,
      continued.server.trans (wellFormed.served_leased leased), admitted, rfl,
      ?_⟩
    rintro body ⟨⟩

theorem Delivering.replied_step (delivering : pool.Delivering)
    (stepped : Stepped pool event next) {task : TaskId} {call : Call}
    {reply : Message} (finished : next.task task = .done call (.ok reply)) :
    ∃ conn sent body, sent ∈ (next.conn conn).sent ∧ sent.owner.1 = task ∧
      sent.answer = some body ∧ reply = restoreId call.query body := by
  have wellFormed := delivering.faithful.wellFormed
  rcases stepped.finishes finished with
    before | ⟨forced, lease, body, leased, answered, isReply⟩
  · obtain ⟨conn, sent, body, member, isOwner, answered, isReply⟩ :=
      delivering.replied before
    exact ⟨conn, sent, body,
      stepped.answered_kept wellFormed member answered, isOwner, answered,
      isReply⟩
  · obtain ⟨viewed, member, isOwner, isAnswer⟩ :=
      delivering.faithful.view.answered _ _ body (view_lease leased)
        (by simp [Progress.stage]) answered
    obtain ⟨sent, isSent, rfl⟩ := List.mem_map.mp member
    refine ⟨lease.conn, sent, body,
      stepped.answered_kept wellFormed isSent isAnswer, ?_, isAnswer, isReply⟩
    exact congrArg Prod.fst isOwner

theorem Delivering.step (delivering : pool.Delivering)
    (stepped : Stepped pool event next) (assumed : pool.Assumed event) :
    next.Delivering where
  faithful := delivering.faithful.step stepped assumed
  admitted := by
    intro task call calls
    rcases stepped.call? task with kept | ⟨_, new, isNew, _, admitted⟩
    · rw [kept] at calls
      rcases delivering.admitted calls with admitted | ⟨error, refused⟩
      · exact Or.inl admitted
      · exact Or.inr ⟨error, stepped.done refused⟩
    · rw [isNew] at calls
      cases calls
      exact admitted
  written := delivering.written_step stepped
  replied := delivering.replied_step stepped

/-- In every interleaving under the assumptions, no reply reaches a call that
did not ask for it. -/
theorem always_paired {proxy : ProxyConfig} {idleTimeout : Nat}
    {events : List Event}
    (assumed : EveryStep step Assumed (new proxy idleTimeout) events) :
    Always step Paired (new proxy idleTimeout) events := by
  have delivering : Always step Delivering (new proxy idleTimeout)
      events := by
    apply EveryStep.always _ (delivering_new proxy idleTimeout) assumed
    intro pool event next before stepped assumed
    exact before.step (stepped_of_step stepped) assumed
  apply delivering.mono
  intro pool holds
  exact holds.paired

end Pool

theorem always_paired_swapped :
    Always Pool.step Pool.Paired (Pool.new exampleProxy 60) swappedAnswers ∧
      ∃ final first second, run Pool.step (Pool.new exampleProxy 60)
          swappedAnswers = some final ∧
        final.task 0 = .done first (.ok [0, 0, 66]) ∧
        final.task 1 = .done second (.ok [18, 52, 77]) := by
  refine ⟨Pool.always_paired swappedAnswers_assumed, ?_⟩
  have completes : (run Pool.step (Pool.new exampleProxy 60)
      swappedAnswers).isSome := by
    decide +kernel
  refine ⟨_, { server := exampleServer, query := exampleQuery, since := 0 },
    { server := exampleServer, query := otherQuery, since := 0 },
    (Option.some_get completes).symm, ?_, ?_⟩ <;> decide +revert +kernel

end Cortado.Dns
