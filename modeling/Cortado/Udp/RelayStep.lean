import Cortado.Udp.Relay

/-!
# What one step of the UDP relay can do

`SessionMoved` lists the outcomes of a step of a session's task, `Stepped`
those of any step, with what must hold before it.
-/

namespace Cortado.Udp

open Net Socks

theorem SessionTask.enter_eq {task : SessionTask} {phase : Phase}
    (atPhase : task.phase = phase) : task.enter phase = task := by
  rw [← atPhase]
  rfl

namespace Relay

/-- A task found after one task changed is that one, or was there before. -/
theorem task_of_update {tasks : SessionId → Option SessionTask}
    {id other : SessionId} {later found : SessionTask}
    (holds : Function.update tasks id (some later) other = some found) :
    (other = id ∧ found = later) ∨ (other ≠ id ∧ tasks other = some found) := by
  rw [Function.update_apply] at holds
  split at holds
  · exact Or.inl ⟨‹_›, (Option.some.inj holds).symm⟩
  · exact Or.inr ⟨‹_›, holds⟩

/-- What a session's task can do in one step. -/
inductive SessionMoved (relay : Relay) (id : SessionId) (task : SessionTask) :
    Relay → Prop
  | associated (addr : SocketAddr) (associating : task.phase = .associating) :
      SessionMoved relay id task (relay.setTask id
        { task with relay := some addr, phase := .selecting })
  | stopped (listening : task.isClosed = false) :
      SessionMoved relay id task (relay.setTask id (task.enter .notifying))
  | took {dst : SocketAddr} {payload : Payload}
      {outbound : Channel Datagram sessionChannelDepth}
      (selecting : task.phase = .selecting)
      (received : task.outbound.recv? = some ((dst, payload), outbound)) :
      SessionMoved relay id task (relay.setTask id
        { task with
          outbound := outbound
          encBuf := encodeUdp dst payload task.encBuf
          phase := .sending dst payload })
  | sent {dst : SocketAddr} {payload : Payload}
      (sending : task.phase = .sending dst payload) :
      SessionMoved relay id task
        { relay.setTask id (task.enter .selecting) with
          relayed := relay.relayed ++ [(task.src, task.encBuf)] }
  | ignored {bytes : List UInt8} (selecting : task.phase = .selecting)
      (rejected : decodeUdp bytes = .ok none) :
      SessionMoved relay id task
        { relay with arrived := relay.arrived ++ [(id, bytes)] }
  | decoded {bytes : List UInt8} {remote : SocketAddr} {data : Payload}
      (selecting : task.phase = .selecting)
      (accepted : decodeUdp bytes = .ok (some (remote, data))) :
      SessionMoved relay id task
        { relay.setTask id
            (task.enter (.replying (data, remote, task.src))) with
          arrived := relay.arrived ++ [(id, bytes)] }
  | replied {msg : UdpMsg} {replies : Channel UdpMsg replyChannelDepth}
      (replying : task.phase = .replying msg) :
      SessionMoved relay id task
        { relay.setTask id (task.enter .selecting) with
          replies := replies
          replied := relay.replied ++ [(id, msg)] }
  | notified {done : Channel (SocketAddr × SessionId) doneChannelDepth}
      (notifying : task.phase = .notifying)
      (queued : relay.done.send? (task.src, id) = some done) :
      SessionMoved relay id task
        { relay.setTask id (task.enter .ended) with done := done }

theorem stopped_of_phase {relay : Relay} {id : SessionId}
    {task : SessionTask} {phase : Phase} (atPhase : task.phase = phase)
    (listening : (task.enter phase).isClosed = false) :
    SessionMoved relay id task (relay.setTask id (task.enter .notifying)) :=
  .stopped (SessionTask.enter_eq atPhase ▸ listening)

/-- Whatever arrives, the task does not panic. -/
theorem sessionMoved {relay next : Relay} {id : SessionId}
    {task : SessionTask} {event : SessionEvent}
    (stepped : relay.sessionStep id task event = some next) :
    SessionMoved relay id task next := by
  cases phase : task.phase with
  | associating =>
      cases event with
      | associated addr =>
          simp only [sessionStep, phase, Option.some.injEq] at stepped
          exact stepped ▸ .associated addr phase
      | fail =>
          simp only [sessionStep, phase, Option.some.injEq] at stepped
          exact stepped ▸ stopped_of_phase phase rfl
      | _ => simp [sessionStep, phase] at stepped
  | selecting =>
      cases event with
      | fail | idle | controlClosed =>
          simp only [sessionStep, phase, Option.some.injEq] at stepped
          exact stepped ▸ stopped_of_phase phase rfl
      | take =>
          cases received : task.outbound.recv? with
          | none => simp [sessionStep, phase, received] at stepped
          | some taken =>
              obtain ⟨⟨dst, payload⟩, outbound⟩ := taken
              simp only [sessionStep, phase, received,
                Option.some.injEq] at stepped
              exact stepped ▸ .took phase received
      | drained =>
          cases received : task.outbound.recv? with
          | some taken => simp [sessionStep, phase, received] at stepped
          | none =>
              simp only [sessionStep, phase, received] at stepped
              split at stepped
              · cases stepped
              · cases stepped
                exact stopped_of_phase phase rfl
      | arrive bytes =>
          obtain ⟨decoded, outcome⟩ := decodeUdp_total (bytes.take maxDatagram)
          simp only [sessionStep, phase, outcome] at stepped
          cases decoded with
          | none =>
              cases stepped
              exact .ignored phase outcome
          | some accepted =>
              obtain ⟨remote, data⟩ := accepted
              cases stepped
              exact .decoded phase outcome
      | _ => simp [sessionStep, phase] at stepped
  | sending dst payload =>
      cases event with
      | fail =>
          simp only [sessionStep, phase, Option.some.injEq] at stepped
          exact stepped ▸ stopped_of_phase phase rfl
      | sent =>
          simp only [sessionStep, phase, Option.some.injEq] at stepped
          exact stepped ▸ .sent phase
      | _ => simp [sessionStep, phase] at stepped
  | replying msg =>
      cases event with
      | reply =>
          simp only [sessionStep, phase] at stepped
          split at stepped
          · obtain ⟨replies, _, result⟩ := Option.map_eq_some_iff.mp stepped
            exact result ▸ .replied phase
          · cases stepped
            exact stopped_of_phase phase rfl
      | _ => simp [sessionStep, phase] at stepped
  | notifying =>
      cases event with
      | notify =>
          simp only [sessionStep, phase] at stepped
          obtain ⟨done, queued, result⟩ := Option.map_eq_some_iff.mp stepped
          exact result ▸ .notified phase queued
      | _ => simp [sessionStep, phase] at stepped
  | ended => cases event <;> simp [sessionStep, phase] at stepped
  | panicked => cases event <;> simp [sessionStep, phase] at stepped

/-- The relay after an event, by what the event found. -/
inductive Stepped (opts : UdpOptions) (relay : Relay) :
    Event → Relay → Prop
  | diverted {payload : Payload} {src dst : SocketAddr}
      (waiting : relay.selecting = true) (diverts : opts.diverts dst = true) :
      Stepped opts relay (.datagram (payload, src, dst))
        { relay with
          incoming := relay.incoming ++ [(payload, src, dst)]
          queries := relay.queries ++
            [{ dst := dst, src := src, query := payload, answer := none }] }
  | overloaded {payload : Payload} {src dst : SocketAddr}
      (waiting : relay.selecting = true) (diverts : opts.diverts dst = true) :
      Stepped opts relay (.datagram (payload, src, dst))
        { relay with incoming := relay.incoming ++ [(payload, src, dst)] }
  | refused {payload : Payload} {src dst : SocketAddr}
      (waiting : relay.selecting = true) (kept : opts.diverts dst = false) :
      Stepped opts relay (.datagram (payload, src, dst))
        { relay with incoming := relay.incoming ++ [(payload, src, dst)] }
  | continued {payload : Payload} {src dst : SocketAddr}
      (waiting : relay.selecting = true) (kept : opts.diverts dst = false)
      (live : relay.live src = true) :
      Stepped opts relay (.datagram (payload, src, dst))
        { relay with
          incoming := relay.incoming ++ [(payload, src, dst)]
          forwarding := some (payload, src, dst) }
  | opened {payload : Payload} {src dst : SocketAddr}
      (waiting : relay.selecting = true) (kept : opts.diverts dst = false)
      (dead : relay.live src = false)
      (room : relay.sessions.keys.length < opts.maxSessions) :
      Stepped opts relay (.datagram (payload, src, dst))
        { relay.spawnSession src with
          incoming := relay.incoming ++ [(payload, src, dst)]
          forwarding := some (payload, src, dst) }
  | lost {msg : UdpMsg} (forwarding : relay.forwarding = some msg) :
      Stepped opts relay .forward { relay with forwarding := none }
  | queued {payload : Payload} {src dst : SocketAddr} {id : SessionId}
      {task : SessionTask} {outbound : Channel Datagram sessionChannelDepth}
      (forwarding : relay.forwarding = some (payload, src, dst))
      (found : relay.sessions.lookup src = some id)
      (present : relay.tasks id = some task)
      (listening : task.isClosed = false)
      (sent : task.outbound.send? (dst, payload) = some outbound) :
      Stepped opts relay .forward
        { relay.setTask id { task with outbound := outbound } with
          forwarding := none }
  | closed (waiting : relay.selecting = true) :
      Stepped opts relay .close { relay with running := false, sessions := ∅ }
  | processed {dead : SocketAddr} {id : SessionId}
      {done : Channel (SocketAddr × SessionId) doneChannelDepth}
      (waiting : relay.selecting = true)
      (received : relay.done.recv? = some ((dead, id), done)) :
      Stepped opts relay .done ({ relay with done := done }.processDone dead)
  | session {id : SessionId} {event : SessionEvent} {task : SessionTask}
      {next : Relay} (present : relay.tasks id = some task)
      (moved : SessionMoved relay id task next) :
      Stepped opts relay (.session id event) next
  | resolved {index : Nat} {query : DnsQuery} {resp : Payload}
      (isQuery : relay.queries[index]? = some query) :
      Stepped opts relay (.query index (.resolved resp))
        { relay with
          queries := relay.queries.set index
            { query with answer := some resp } }
  | failed {index : Nat} :
      Stepped opts relay (.query index .failed)
        { relay with queries := relay.queries.eraseIdx index }
  | answered {index : Nat} {query : DnsQuery} {resp : Payload}
      {replies : Channel UdpMsg replyChannelDepth}
      (isQuery : relay.queries[index]? = some query)
      (isAnswer : query.answer = some resp) (writing : relay.writing = true) :
      Stepped opts relay (.query index .reply)
        { relay with
          replies := replies
          queries := relay.queries.eraseIdx index }
  | unheard {index : Nat} (silent : relay.writing = false) :
      Stepped opts relay (.query index .reply)
        { relay with queries := relay.queries.eraseIdx index }
  | wrote {replies : Channel UdpMsg replyChannelDepth} :
      Stepped opts relay (.write true) { relay with replies := replies }
  | gaveUp :
      Stepped opts relay (.write false)
        { relay with replies := .empty, writing := false }
  | stored {proxy : ProxyConfig} :
      Stepped opts relay (.storeProxy proxy) { relay with proxy := proxy }

theorem stepped_of_receive {opts : UdpOptions} {relay : Relay}
    (waiting : relay.selecting = true) (msg : UdpMsg) :
    Stepped opts relay (.datagram msg) (relay.receive opts msg) := by
  obtain ⟨payload, src, dst⟩ := msg
  simp only [receive]
  split
  · split
    · exact .diverted waiting ‹_›
    · exact .overloaded waiting ‹_›
  · have kept : opts.diverts dst = false := Bool.eq_false_iff.mpr ‹_›
    split
    · exact .continued waiting kept ‹_›
    · have dead : relay.live src = false := Bool.eq_false_iff.mpr ‹_›
      split
      · exact .refused waiting kept
      · exact .opened waiting kept dead (Nat.lt_of_not_ge ‹_›)

theorem stepped_of_forward {opts : UdpOptions} {relay : Relay} {msg : UdpMsg}
    (forwarding : relay.forwarding = some msg) :
    Stepped opts relay .forward (relay.forward msg) := by
  obtain ⟨payload, src, dst⟩ := msg
  simp only [forward]
  split
  · exact .lost forwarding
  · rename_i id found
    split
    · exact .lost forwarding
    · rename_i task present
      split
      · exact .lost forwarding
      · have listening : task.isClosed = false := Bool.eq_false_iff.mpr ‹_›
        split
        · exact .lost forwarding
        · exact .queued forwarding found present listening ‹_›

theorem stepped_of_query {opts : UdpOptions} {relay next : Relay}
    {index : Nat} {query : DnsQuery} {event : QueryEvent}
    (isQuery : relay.queries[index]? = some query)
    (answered : relay.queryStep index query event = some next) :
    Stepped opts relay (.query index event) next := by
  cases event with
  | resolved resp =>
      simp only [queryStep] at answered
      split at answered
      · cases answered
        exact .resolved isQuery
      · cases answered
  | failed =>
      simp only [queryStep] at answered
      split at answered
      · cases answered
        exact .failed
      · cases answered
  | reply =>
      simp only [queryStep] at answered
      split at answered
      · cases answered
      · rename_i resp isAnswer
        split at answered
        · rename_i writing
          obtain ⟨replies, _, rfl⟩ := Option.map_eq_some_iff.mp answered
          exact .answered isQuery isAnswer writing
        · rename_i silent
          cases answered
          exact .unheard (Bool.eq_false_iff.mpr silent)

theorem stepped_of_write {opts : UdpOptions} {relay next : Relay}
    {accepted : Bool} (written : relay.write accepted = some next) :
    Stepped opts relay (.write accepted) next := by
  unfold write at written
  split at written
  · obtain ⟨⟨_, replies⟩, _, rfl⟩ := Option.map_eq_some_iff.mp written
    cases accepted with
    | true => exact .wrote
    | false => exact .gaveUp
  · cases written

theorem stepped {opts : UdpOptions} {relay next : Relay} {event : Event}
    (taken : relay.step opts event = some next) :
    Stepped opts relay event next := by
  cases event with
  | datagram msg =>
      obtain ⟨waiting, result⟩ := Option.ite_none_right_eq_some.mp taken
      cases result
      exact stepped_of_receive waiting msg
  | forward =>
      obtain ⟨msg, forwarding, rfl⟩ := Option.map_eq_some_iff.mp taken
      exact stepped_of_forward forwarding
  | close =>
      obtain ⟨waiting, result⟩ := Option.ite_none_right_eq_some.mp taken
      cases result
      exact .closed waiting
  | done =>
      obtain ⟨waiting, result⟩ := Option.ite_none_right_eq_some.mp taken
      obtain ⟨⟨⟨dead, id⟩, done⟩, received, rfl⟩ :=
        Option.map_eq_some_iff.mp result
      exact .processed waiting received
  | session id event =>
      obtain ⟨task, present, moved⟩ := Option.bind_eq_some_iff.mp taken
      exact .session present (sessionMoved moved)
  | query index event =>
      obtain ⟨query, isQuery, answered⟩ := Option.bind_eq_some_iff.mp taken
      exact stepped_of_query isQuery answered
  | write accepted => exact stepped_of_write taken
  | storeProxy proxy =>
      cases taken
      exact .stored

end Relay

end Cortado.Udp
