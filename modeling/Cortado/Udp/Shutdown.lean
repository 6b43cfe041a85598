import Mathlib.Algebra.Order.BigOperators.Group.Finset
import Mathlib.Data.Prod.Lex
import Cortado.Lib.Liveness
import Cortado.Udp.SessionTable

/-!
# How the UDP relay ends

When the tunnel is closed, `run_udp` drops its senders and waits for the
writer of replies, which ends when no session holds a sender any more.  But a
session keeps its sender until its notification is in the channel, and nobody
takes notifications out of the channel now.  So there may be no more sessions
than the channel has room for.
-/

namespace Cortado.Udp

open Net Transition

/-- The task of the session still owns its sender of replies. -/
def SessionTask.holdsReplies (task : SessionTask) : Bool :=
  match task.phase with
  | .ended | .panicked => false
  | _ => true

/-- The tunnel takes the replies it is given. -/
def Event.Accepting (event : Event) : Prop :=
  event ≠ .write false

/-- A bound on the steps to the end of a session. -/
def Phase.weight : Phase → Nat
  | .associating | .sending _ _ | .replying _ => 3
  | .selecting => 2
  | .notifying => 1
  | .ended | .panicked => 0

namespace Relay

variable {opts : UdpOptions} {relay next : Relay} {event : Event}

/-- The session with this number is not over. -/
def lasts (relay : Relay) (id : SessionId) : Bool :=
  (relay.tasks id).any SessionTask.holdsReplies

/-- How many sessions are not over. -/
def lasting (relay : Relay) : Nat :=
  ((Finset.range relay.spawned).filter fun id => relay.lasts id).card

/-- `writer.await` is over: the writer has given up, or every sender is gone
and every reply is written. -/
def Returned (relay : Relay) : Prop :=
  relay.running = false ∧ (relay.writing = false ∨
    (relay.replies.queue = [] ∧ relay.queries = [] ∧ relay.lasting = 0))

/-! ## Notifications pile up -/

theorem lasting_of_same (spawned : next.spawned = relay.spawned)
    (same : ∀ id, next.lasts id = relay.lasts id) :
    next.lasting = relay.lasting := by
  unfold lasting
  rw [spawned]
  congr 1
  apply Finset.filter_congr
  intro id _
  rw [same]

theorem lasts_setTask (relay : Relay) (id other : SessionId)
    (task : SessionTask) : (relay.setTask id task).lasts other =
      if other = id then task.holdsReplies else relay.lasts other := by
  unfold lasts setTask
  dsimp only
  rw [Function.update_apply]
  split <;> rfl

/-- A task that goes on changes nothing. -/
theorem lasts_of_kept {id : SessionId} {task later : SessionTask}
    (present : relay.tasks id = some task)
    (kept : later.holdsReplies = task.holdsReplies) (other : SessionId) :
    (relay.setTask id later).lasts other = relay.lasts other := by
  rw [lasts_setTask]
  split
  · rename_i same
    rw [same, kept, lasts, present]
    rfl
  · rfl

theorem lasting_ended {id : SessionId} {task later : SessionTask}
    (bound : id < relay.spawned) (present : relay.tasks id = some task)
    (lasted : task.holdsReplies = true) (ended : later.holdsReplies = false) :
    (relay.setTask id later).lasting + 1 = relay.lasting := by
  have member : id ∈ (Finset.range relay.spawned).filter
      fun id => relay.lasts id := by
    rw [Finset.mem_filter, Finset.mem_range]
    exact ⟨bound, by simp [lasts, present, lasted]⟩
  have erased : ((Finset.range (relay.setTask id later).spawned).filter
      fun other => (relay.setTask id later).lasts other) =
      ((Finset.range relay.spawned).filter fun id => relay.lasts id).erase
        id := by
    ext other
    simp only [Finset.mem_filter, Finset.mem_erase, lasts_setTask]
    split
    · simp [*]
    · simp [*, setTask]
  unfold lasting
  rw [erased, Finset.card_erase_add_one member]

/-- After the end of the loop a session that ends leaves a notification. -/
theorem Stepped.outstanding (stepped : Stepped opts relay event next)
    (tabled : relay.Tabled opts) (closed : relay.running = false) :
    next.running = false ∧
      next.lasting + next.done.queue.length =
        relay.lasting + relay.done.queue.length := by
  have waits : relay.selecting ≠ true := by
    simp [selecting, closed]
  have kept : ∀ {id task later}, relay.tasks id = some task →
      later.holdsReplies = task.holdsReplies →
      (relay.setTask id later).lasting = relay.lasting := by
    intro id task later present same
    exact lasting_of_same rfl (lasts_of_kept present same)
  have phase : ∀ {task : SessionTask} {phase}, task.phase = phase →
      task.holdsReplies = (task.enter phase).holdsReplies := by
    intro task phase atPhase
    rw [SessionTask.enter_eq atPhase]
  cases stepped with
  | diverted waiting | overloaded waiting | refused waiting
  | continued waiting | opened waiting | closed waiting
  | processed waiting => exact absurd waiting waits
  | lost | resolved | failed | answered | unheard | wrote | gaveUp
  | stored => exact ⟨closed, rfl⟩
  | queued forwarding found present listening =>
      exact ⟨closed, congrArg (· + _) (kept present rfl)⟩
  | @session id _ task _ present moved =>
      cases moved with
      | associated addr atPhase =>
          exact ⟨closed, congrArg (· + _) (kept present (phase atPhase).symm)⟩
      | took atPhase =>
          exact ⟨closed, congrArg (· + _) (kept present (phase atPhase).symm)⟩
      | sent atPhase =>
          exact ⟨closed, congrArg (· + _) (kept present (phase atPhase).symm)⟩
      | decoded atPhase =>
          exact ⟨closed, congrArg (· + _) (kept present (phase atPhase).symm)⟩
      | replied atPhase =>
          exact ⟨closed, congrArg (· + _) (kept present (phase atPhase).symm)⟩
      | ignored => exact ⟨closed, rfl⟩
      | stopped listening =>
          refine ⟨closed, congrArg (· + _) (kept present ?_)⟩
          unfold SessionTask.isClosed at listening
          unfold SessionTask.holdsReplies
          split at listening <;> simp_all [SessionTask.enter]
      | notified notifying queued =>
          have bound : id < relay.spawned := by
            by_contra late
            rw [tabled.fresh id (Nat.le_of_not_lt late)] at present
            cases present
          refine ⟨closed, ?_⟩
          have ended : (task.enter .ended).holdsReplies = false := rfl
          have fewer := lasting_ended bound present (phase notifying) ended
          rw [Channel.queue_of_send queued, List.length_append]
          change (relay.setTask id _).lasting + _ = _
          simp only [List.length_singleton]
          omega

theorem writing_processDone (relay : Relay) (dead : SocketAddr) :
    (relay.processDone dead).writing = relay.writing := by
  unfold processDone
  split <;> rfl

/-- Only a refused reply stops the writer early. -/
theorem writing_step (accepting : event.Accepting)
    (taken : relay.step opts event = some next) :
    next.writing = relay.writing := by
  cases stepped taken with
  | gaveUp => exact absurd rfl accepting
  | processed => exact writing_processDone _ _
  | session _ moved => cases moved <;> rfl
  | diverted | overloaded | refused | continued | opened | lost | queued
  | closed | resolved | failed | answered | unheard | wrote | stored => rfl

/-- What the end of the relay keeps up: `total` sessions are not over or have
left a notification. -/
structure Closing (opts : UdpOptions) (total : Nat) (relay : Relay) :
    Prop where
  tabled : relay.Tabled opts
  closed : relay.running = false
  writing : relay.writing = true
  outstanding : relay.lasting + relay.done.queue.length = total

theorem Closing.step {total : Nat} (closing : relay.Closing opts total)
    (accepting : event.Accepting)
    (taken : relay.step opts event = some next) :
    next.Closing opts total := by
  obtain ⟨closed, outstanding⟩ :=
    (stepped taken).outstanding closing.tabled closing.closed
  exact
    { tabled := tabled_step _ _ _ closing.tabled taken
      closed := closed
      writing := (writing_step accepting taken).trans closing.writing
      outstanding := outstanding.trans closing.outstanding }

theorem Closing.run {total : Nat} {events : List Event}
    (closing : relay.Closing opts total)
    (accepting : ∀ event ∈ events, event.Accepting)
    (completed : run (Relay.step opts) relay events = some next) :
    next.Closing opts total := by
  induction events generalizing relay with
  | nil =>
      cases completed
      exact closing
  | cons event events induction =>
      obtain ⟨middle, taken, rest⟩ := Option.bind_eq_some_iff.mp completed
      apply induction (closing.step (accepting event (by simp)) taken) _ rest
      intro later member
      exact accepting later (List.mem_cons_of_mem _ member)

/-! ## With room for all notifications the relay can end -/

def weight (relay : Relay) (id : SessionId) : Nat :=
  (relay.tasks id).elim 0 fun task => task.phase.weight

/-- What the sessions have still to do. -/
def work (relay : Relay) : Nat :=
  ∑ id ∈ Finset.range relay.spawned, relay.weight id

/-- The sessions come first, then the queries, then the replies. -/
def rank (relay : Relay) : ℕ ×ₗ (ℕ ×ₗ ℕ) :=
  toLex (relay.work,
    toLex (relay.queries.length, relay.replies.queue.length))

theorem work_setTask_lt {id : SessionId} {task later : SessionTask}
    (bound : id < relay.spawned) (present : relay.tasks id = some task)
    (less : later.phase.weight < task.phase.weight) :
    (relay.setTask id later).work < relay.work := by
  have weights : ∀ other, (relay.setTask id later).weight other =
      if other = id then later.phase.weight else relay.weight other := by
    intro other
    unfold weight setTask
    dsimp only
    rw [Function.update_apply]
    split <;> rfl
  have before : relay.weight id = task.phase.weight := by
    rw [weight, present]
    rfl
  apply Finset.sum_lt_sum
  · intro other _
    rw [weights]
    split
    · rename_i same
      rw [same, before]
      exact Nat.le_of_lt less
    · exact Nat.le_refl _
  · refine ⟨id, Finset.mem_range.mpr bound, ?_⟩
    rw [weights, if_pos rfl, before]
    exact less

/-- A session that is not over can go on towards its end. -/
theorem session_advances (opts : UdpOptions) {id : SessionId} {task : SessionTask}
    (bound : id < relay.spawned) (present : relay.tasks id = some task)
    (lasts : task.holdsReplies = true) (writing : relay.writing = true)
    (written : relay.replies.queue = [])
    (room : relay.done.queue.length < doneChannelDepth) :
    ∃ event next, relay.step opts (.session id event) = some next ∧
      next.work < relay.work := by
  have less : ∀ phase : Phase, phase.weight < task.phase.weight →
      (relay.setTask id (task.enter phase)).work < relay.work := by
    intro phase lower
    exact work_setTask_lt bound present lower
  have roomy : relay.replies.queue.length < replyChannelDepth := by
    rw [written]
    exact Nat.zero_lt_succ _
  cases phase : task.phase with
  | associating | sending =>
      refine ⟨.fail, relay.setTask id (task.enter .notifying), ?_,
        less .notifying ?_⟩
      · simp [step, present, sessionStep, phase]
      · simp [phase, Phase.weight]
  | selecting =>
      refine ⟨.idle, relay.setTask id (task.enter .notifying), ?_,
        less .notifying ?_⟩
      · simp [step, present, sessionStep, phase]
      · simp [phase, Phase.weight]
  | replying msg =>
      obtain ⟨replies, sent⟩ := Channel.exists_send roomy msg
      refine ⟨.reply,
        { relay.setTask id (task.enter .selecting) with
          replies := replies
          replied := relay.replied ++ [(id, msg)] }, ?_, less .selecting ?_⟩
      · simp [step, present, sessionStep, phase, writing, sent]
      · simp [phase, Phase.weight]
  | notifying =>
      obtain ⟨done, sent⟩ := Channel.exists_send room (task.src, id)
      refine ⟨.notify,
        { relay.setTask id (task.enter .ended) with done := done }, ?_,
        less .ended ?_⟩
      · simp [step, present, sessionStep, phase, sent]
      · simp [phase, Phase.weight]
  | ended | panicked => simp [SessionTask.holdsReplies, phase] at lasts

/-- A query that is not over can end. -/
theorem query_advances (opts : UdpOptions) {query : DnsQuery}
    {rest : List DnsQuery}
    (pending : relay.queries = query :: rest)
    (writing : relay.writing = true) (written : relay.replies.queue = []) :
    ∃ event next, relay.step opts (.query 0 event) = some next ∧
      next.work = relay.work ∧ next.queries = rest := by
  have roomy : relay.replies.queue.length < replyChannelDepth := by
    rw [written]
    exact Nat.zero_lt_succ _
  cases answer : query.answer with
  | none =>
      refine ⟨.failed, { relay with queries := rest }, ?_, rfl, rfl⟩
      simp [step, pending, queryStep, answer]
  | some resp =>
      obtain ⟨replies, sent⟩ :=
        Channel.exists_send roomy (resp, query.dst, query.src)
      refine ⟨.reply, { relay with replies := replies, queries := rest }, ?_,
        rfl, rfl⟩
      simp [step, pending, queryStep, answer, writing, sent]

theorem Closing.advances {total : Nat} (closing : relay.Closing opts total)
    (room : total ≤ doneChannelDepth) (waits : ¬relay.Returned) :
    ∃ event next, event.Accepting ∧ relay.step opts event = some next ∧
      next.Closing opts total ∧ next.rank < relay.rank := by
  have writing := closing.writing
  by_cases written : relay.replies.queue = []
  · cases pending : relay.queries with
    | cons query rest =>
        obtain ⟨event, next, taken, sameWork, queries⟩ :=
          query_advances opts pending writing written
        have accepting : (Event.query 0 event).Accepting := by
          simp [Event.Accepting]
        refine ⟨_, next, accepting, taken, closing.step accepting taken, ?_⟩
        refine Prod.Lex.toLex_lt_toLex.mpr (Or.inr ⟨sameWork, ?_⟩)
        refine Prod.Lex.toLex_lt_toLex.mpr (Or.inl ?_)
        simp [queries, pending]
    | nil =>
        have some : relay.lasting ≠ 0 := by
          intro ended
          exact waits ⟨closing.closed, Or.inr ⟨written, pending, ended⟩⟩
        obtain ⟨id, member⟩ := Finset.card_ne_zero.mp some
        rw [Finset.mem_filter, Finset.mem_range] at member
        obtain ⟨bound, lasts⟩ := member
        obtain ⟨task, present, holds⟩ := (Option.any_eq_true _ _).mp lasts
        have vacant : relay.done.queue.length < doneChannelDepth := by
          have outstanding := closing.outstanding
          omega
        obtain ⟨event, next, taken, less⟩ := session_advances opts
          bound present holds writing written vacant
        have accepting : (Event.session id event).Accepting := by
          simp [Event.Accepting]
        refine ⟨_, next, accepting, taken, closing.step accepting taken, ?_⟩
        exact Prod.Lex.toLex_lt_toLex.mpr (Or.inl less)
  · cases received : relay.replies.recv? with
    | none => exact absurd (Channel.queue_of_recv_none received) written
    | some taken =>
        obtain ⟨msg, replies⟩ := taken
        have taken : relay.step opts (.write true) =
            some { relay with replies := replies } := by
          simp [Relay.step, write, writing, received]
        have accepting : (Event.write true).Accepting := by
          simp [Event.Accepting]
        refine ⟨_, _, accepting, taken, closing.step accepting taken, ?_⟩
        refine Prod.Lex.toLex_lt_toLex.mpr (Or.inr ⟨rfl, ?_⟩)
        refine Prod.Lex.toLex_lt_toLex.mpr (Or.inr ⟨rfl, ?_⟩)
        simp [Channel.queue_of_recv received]

/-! ## Many sessions -/

theorem lasting_spawnSession (relay : Relay) (src : SocketAddr) :
    (relay.spawnSession src).lasting = relay.lasting + 1 := by
  have lasts : ∀ id, (relay.spawnSession src).lasts id =
      if id = relay.spawned then true else relay.lasts id :=
    fun id => lasts_setTask relay relay.spawned id _
  have same : (Finset.range relay.spawned).filter
      (fun id => (relay.spawnSession src).lasts id) =
      (Finset.range relay.spawned).filter fun id => relay.lasts id := by
    apply Finset.filter_congr
    intro id member
    rw [lasts, if_neg (Nat.ne_of_lt (Finset.mem_range.mp member))]
  have isNew : relay.spawned ∉ (Finset.range relay.spawned).filter
      fun id => relay.lasts id := by
    simp
  change ((Finset.range (relay.spawned + 1)).filter
    fun id => (relay.spawnSession src).lasts id).card = _
  rw [Finset.range_add_one, Finset.filter_insert,
    if_pos (by rw [lasts, if_pos rfl]), same,
    Finset.card_insert_of_notMem isNew]
  rfl

/-- `try_send` ends no session. -/
theorem lasting_forward (relay : Relay) (msg : UdpMsg) :
    (relay.forward msg).sessions = relay.sessions ∧
      (relay.forward msg).forwarding = none ∧
      (relay.forward msg).running = relay.running ∧
      (relay.forward msg).writing = relay.writing ∧
      (relay.forward msg).done = relay.done ∧
      (relay.forward msg).lasting = relay.lasting := by
  obtain ⟨payload, src, dst⟩ := msg
  simp only [forward]
  split
  · exact ⟨rfl, rfl, rfl, rfl, rfl, rfl⟩
  · rename_i id found
    split
    · exact ⟨rfl, rfl, rfl, rfl, rfl, rfl⟩
    · rename_i task present
      split
      · exact ⟨rfl, rfl, rfl, rfl, rfl, rfl⟩
      · split
        · exact ⟨rfl, rfl, rfl, rfl, rfl, rfl⟩
        · refine ⟨rfl, rfl, rfl, rfl, rfl, ?_⟩
          exact lasting_of_same rfl (lasts_of_kept present rfl)

/-- A datagram of a new source opens a session. -/
theorem datagram_opens {src dst : SocketAddr} (tabled : relay.Tabled opts)
    (waiting : relay.selecting = true) (kept : opts.diverts dst = false)
    (new : src ∉ relay.sessions.keys)
    (room : relay.sessions.keys.length < opts.maxSessions) :
    ∃ next, run (step opts) relay [.datagram ([], src, dst), .forward] =
        some next ∧
      next.Tabled opts ∧ next.selecting = true ∧
      next.sessions.keys = src :: relay.sessions.keys ∧
      next.writing = relay.writing ∧ next.done = relay.done ∧
      next.lasting = relay.lasting + 1 := by
  have dead : relay.live src = false := by
    rw [live, stored, AList.lookup_eq_none.mpr (mt AList.mem_keys.mpr new)]
    rfl
  let opened :=
    { relay.spawnSession src with
      incoming := relay.incoming ++ [([], src, dst)]
      forwarding := some ([], src, dst) }
  have received : relay.step opts (.datagram ([], src, dst)) =
      some opened := by
    have isDead : { relay with
        incoming := relay.incoming ++ [([], src, dst)] }.live src = false :=
      dead
    simp only [step, waiting, if_true, receive, kept, isDead,
      Bool.false_eq_true, if_false, Nat.not_le.mpr room]
    rfl
  have forwarded : opened.step opts .forward =
      some (opened.forward ([], src, dst)) := rfl
  obtain ⟨sessions, forwarding, running, writing, done, lasting⟩ :=
    lasting_forward opened ([], src, dst)
  refine ⟨opened.forward ([], src, dst), ?_, ?_, ?_, ?_, writing, done, ?_⟩
  · rw [run, received, Option.bind_some, run, forwarded]
    rfl
  · exact tabled_step _ _ _ (tabled_step _ _ _ tabled received) forwarded
  · rw [selecting, forwarding, running]
    change (relay.running && true) = true
    rw [running_of_selecting waiting]
    rfl
  · rw [sessions]
    change (relay.sessions.insert src relay.spawned).keys = _
    rw [AList.keys_insert, List.erase_of_not_mem new]
  · rw [lasting]
    exact lasting_spawnSession relay src

theorem exists_crowd {dst : SocketAddr} (kept : opts.diverts dst = false)
    (sources : List SocketAddr) (tabled : relay.Tabled opts)
    (waiting : relay.selecting = true)
    (nodup : (relay.sessions.keys ++ sources).Nodup)
    (room : relay.sessions.keys.length + sources.length ≤
      opts.maxSessions) :
    ∃ events next, run (step opts) relay events = some next ∧
      next.selecting = true ∧ next.writing = relay.writing ∧
      next.done = relay.done ∧
      next.lasting = relay.lasting + sources.length := by
  induction sources generalizing relay with
  | nil => exact ⟨[], relay, rfl, waiting, rfl, rfl, rfl⟩
  | cons src sources induction =>
      rw [List.length_cons] at room
      have nodup := List.nodup_middle.mp nodup
      obtain ⟨middle, opened, isTabled, isWaiting, keys, writing, done,
        lasting⟩ := datagram_opens tabled waiting kept
          (fun member => (List.nodup_cons.mp nodup).1
            (List.mem_append_left _ member)) (by omega)
      obtain ⟨events, next, completed, ends, sameWriting, sameDone, count⟩ :=
        induction isTabled isWaiting (keys ▸ nodup)
          (by rw [keys, List.length_cons]; omega)
      refine ⟨_, next, run_append opened ▸ completed, ends,
        sameWriting.trans writing, sameDone.trans done, ?_⟩
      rw [count, lasting, List.length_cons]
      omega

/-- After the end of the loop `run_udp` can return, without a refused reply,
exactly if the channel has room for the notifications of all sessions that are
not over. -/
theorem shutdown_returns_iff {proxy : ProxyConfig} {events : List Event}
    (reached : run (step opts) (start proxy) events = some relay)
    (closed : relay.running = false) (writing : relay.writing = true) :
    (∃ more final, (∀ event ∈ more, event.Accepting) ∧
      run (step opts) relay more = some final ∧ final.Returned) ↔
      relay.lasting + relay.done.queue.length ≤ doneChannelDepth := by
  have tabled : relay.Tabled opts :=
    (always_of_invariant tabled_step (tabled_start opts proxy) events).final
      reached
  have closing : relay.Closing opts
      (relay.lasting + relay.done.queue.length) :=
    ⟨tabled, closed, writing, rfl⟩
  constructor
  · rintro ⟨more, final, accepting, completed, _, ended⟩
    have final := closing.run accepting completed
    have outstanding := final.outstanding
    rcases ended with refused | ⟨_, _, noneLeft⟩
    · rw [final.writing] at refused
      cases refused
    · rw [noneLeft, Nat.zero_add] at outstanding
      rw [← outstanding]
      exact Channel.bounded _
  · intro room
    apply exists_run_of_rank rank _ closing
    intro state closing waits
    exact closing.advances room waits

/-- With one session more than the channel has room for, the relay hangs. -/
theorem shutdown_hangs_crowded : ∃ relay events,
    run (step { maxSessions := 257, dnsOverTcp := true })
      (start loopbackProxy) events = some relay ∧
      relay.running = false ∧ relay.writing = true ∧
      ¬∃ more final, (∀ event ∈ more, event.Accepting) ∧
        run (step { maxSessions := 257, dnsOverTcp := true }) relay more =
          some final ∧ final.Returned := by
  let sources : List SocketAddr :=
    (List.range 257).map fun index => .v4 0 (UInt16.ofNat index)
  have length : sources.length = 257 := by
    rw [List.length_map, List.length_range]
  have nodup : sources.Nodup := by decide +kernel
  have kept : UdpOptions.diverts
      { maxSessions := 257, dnsOverTcp := true } remoteAddr = false := rfl
  obtain ⟨events, crowd, completed, waiting, writing, done, lasting⟩ :=
    exists_crowd kept sources (tabled_start _ loopbackProxy) rfl nodup
      (Nat.le_of_eq ((Nat.zero_add _).trans length))
  let relay := { crowd with running := false, sessions := ∅ }
  have closed : step { maxSessions := 257, dnsOverTcp := true } crowd .close =
      some relay := by
    simp only [step, waiting, if_true]
    rfl
  have reached : run (step { maxSessions := 257, dnsOverTcp := true })
      (start loopbackProxy) (events ++ [.close]) = some relay := by
    rw [run_append completed, run, closed]
    rfl
  have count : relay.lasting + relay.done.queue.length = 257 := by
    change crowd.lasting + crowd.done.queue.length = 257
    rw [lasting, done, length]
    rfl
  refine ⟨relay, _, reached, rfl, writing, ?_⟩
  rw [shutdown_returns_iff reached rfl writing, count]
  decide

end Relay

end Cortado.Udp
