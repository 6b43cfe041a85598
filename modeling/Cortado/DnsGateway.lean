import Mathlib.Data.List.Perm.Subperm
import Cortado.Dns.Delivery
import Cortado.Udp.RelayStep

/-!
# DNS queries from end to end

The UDP relay gives every datagram for port 53 to a task of its own.  The task
resolves the query through the pool and passes the answer on to the client.
The model below is the relay and the pool side by side: a query of the one has
a call of the other.
-/

namespace Cortado

open Net Transition
open Udp (Relay UdpMsg UdpOptions DnsQuery)
open Dns (Pool TaskId Message toBeBytes candidate)

/-- The datagram a query came with. -/
def Udp.DnsQuery.datagram (query : DnsQuery) : UdpMsg :=
  (query.query, query.src, query.dst)

/-- An event of a query's task. -/
def Udp.Event.isQuery : Udp.Event → Bool
  | .query _ _ => true
  | _ => false

/-- The start of a call. -/
def Dns.Event.isCall : Dns.Event → Bool
  | .call _ _ _ => true
  | _ => false

/-- The relay and the pool.  `calls` names the call of every query of the
relay; `answered` records the datagrams that were answered, with the replies,
and is read by no step. -/
structure DnsGateway where
  relay : Relay
  pool : Pool
  calls : List TaskId
  nextTask : TaskId
  answered : List (UdpMsg × UdpMsg)

namespace DnsGateway

inductive Event where
  | relay (event : Udp.Event)
  | pool (event : Dns.Event)
  | resolve (index : Nat)
  | resolved (index : Nat)
  | reply (index : Nat)

def start (proxy : ProxyConfig) (idleTimeout : Nat) : DnsGateway :=
  { relay := .start proxy
    pool := .new proxy idleTimeout
    calls := []
    nextTask := 0
    answered := [] }

/-- A new query of the relay gets a call that was not made yet. -/
def adopt (gateway : DnsGateway) (relay : Relay) : DnsGateway :=
  if gateway.relay.queries.length < relay.queries.length then
    { gateway with
      relay := relay
      calls := gateway.calls ++ [gateway.nextTask]
      nextTask := gateway.nextTask + 1 }
  else { gateway with relay := relay }

/-- `dns_query_pooled` calls `resolve`. -/
def resolve (gateway : DnsGateway) (index : Nat) : Option DnsGateway :=
  match gateway.calls[index]?, gateway.relay.queries[index]? with
  | some task, some query =>
      (gateway.pool.step (.call task query.dst query.query)).map fun pool =>
        { gateway with pool := pool }
  | _, _ => none

/-- The call of `resolve` is over. -/
def resolved (opts : UdpOptions) (gateway : DnsGateway) (index : Nat) :
    Option DnsGateway :=
  gateway.calls[index]?.bind fun task =>
    match gateway.pool.task task with
    | .done _ (.ok resp) =>
        (gateway.relay.step opts (.query index (.resolved resp))).map
          fun relay => { gateway with relay := relay }
    | .done _ (.error _) =>
        (gateway.relay.step opts (.query index .failed)).map fun relay =>
          { gateway with
            relay := relay
            calls := gateway.calls.eraseIdx index }
    | _ => none

/-- The answer is sent to the writer, if there still is one. -/
def reply (opts : UdpOptions) (gateway : DnsGateway) (index : Nat) :
    Option DnsGateway :=
  gateway.relay.queries[index]?.bind fun query =>
    (gateway.relay.step opts (.query index .reply)).map fun relay =>
      { gateway with
        relay := relay
        calls := gateway.calls.eraseIdx index
        answered :=
          if gateway.relay.writing then
            gateway.answered ++
              (query.answer.map fun resp =>
                (query.datagram, resp, query.dst, query.src)).toList
          else gateway.answered }

/-- Queries and calls are only started and ended together. -/
def step (opts : UdpOptions) (gateway : DnsGateway) :
    Event → Option DnsGateway
  | .relay event =>
      if event.isQuery then none
      else (gateway.relay.step opts event).map gateway.adopt
  | .pool event =>
      if event.isCall then none
      else
        (gateway.pool.step event).map fun pool =>
          { gateway with pool := pool }
  | .resolve index => gateway.resolve index
  | .resolved index => gateway.resolved opts index
  | .reply index => gateway.reply opts index

/-- The step of the pool in an event. -/
def poolEvent? (gateway : DnsGateway) : Event → Option Dns.Event
  | .pool event => some event
  | .resolve index =>
      match gateway.calls[index]?, gateway.relay.queries[index]? with
      | some task, some query => some (.call task query.dst query.query)
      | _, _ => none
  | _ => none

/-- What is assumed of the DNS servers and of the timing. -/
def Assumed (gateway : DnsGateway) (event : Event) : Prop :=
  ∀ poolEvent ∈ gateway.poolEvent? event, gateway.pool.Assumed poolEvent

/-- The datagrams that are to be resolved. -/
def received (opts : UdpOptions) (gateway : DnsGateway) : List UdpMsg :=
  gateway.relay.incoming.filter fun msg => opts.diverts msg.2.2

/-- Every reply answers a datagram of its own: it goes back to where that came
from, under its identifier, with the body that the server it was for gave for
a frame with this very query. -/
structure AnswersOwn (opts : UdpOptions) (gateway : DnsGateway) : Prop where
  genuine : ∀ {query src dst reply},
    ((query, src, dst), reply) ∈ gateway.answered →
    ∃ conn sent body, sent ∈ (gateway.pool.conn conn).sent ∧
      (gateway.pool.conn conn).server = dst ∧
      sent.bytes = toBeBytes (UInt16.ofNat query.length) ++
        toBeBytes (candidate sent.draw) ++ query.drop 2 ∧
      sent.answer = some body ∧
      reply = (query.take 2 ++ body.drop 2, dst, src)
  once : (gateway.answered.map Prod.fst).Subperm (gateway.received opts)

/-! ## What a step does -/

/-- The relay moves on without a query. -/
def Aside (relay next : Relay) : Prop :=
  next.queries = relay.queries ∧ relay.incoming <+: next.incoming

/-- The relay has a new query. -/
def Admits (opts : UdpOptions) (relay next : Relay) : Prop :=
  ∃ query : DnsQuery, query.answer = none ∧ opts.diverts query.dst = true ∧
    next.queries = relay.queries ++ [query] ∧
    next.incoming = relay.incoming ++ [query.datagram]

theorem aside_of_eq {relay next : Relay}
    (queries : next.queries = relay.queries)
    (incoming : next.incoming = relay.incoming) : Aside relay next :=
  ⟨queries, incoming ▸ List.prefix_rfl⟩

theorem aside_of_session {relay next : Relay} {id : Udp.SessionId}
    {task : Udp.SessionTask}
    (moved : Relay.SessionMoved relay id task next) : Aside relay next := by
  cases moved with
  | associated | stopped | took | sent | ignored | decoded | replied
  | notified => exact aside_of_eq rfl rfl

theorem aside_of_done (relay : Relay) (dead : SocketAddr) :
    Aside relay (relay.processDone dead) := by
  unfold Relay.processDone
  split
  · exact aside_of_eq rfl rfl
  · exact aside_of_eq rfl rfl

/-- No step but those of the queries takes a query away. -/
theorem aside_or_admits {opts : UdpOptions} {relay next : Relay}
    {event : Udp.Event} (taken : relay.step opts event = some next)
    (other : event.isQuery = false) :
    Aside relay next ∨ Admits opts relay next := by
  cases Relay.stepped taken with
  | diverted _ diverts => exact Or.inr ⟨_, rfl, diverts, rfl, rfl⟩
  | overloaded | refused | continued | opened =>
      exact Or.inl ⟨rfl, List.prefix_append _ _⟩
  | lost | queued | closed | wrote | gaveUp | stored =>
      exact Or.inl (aside_of_eq rfl rfl)
  | processed => exact Or.inl (aside_of_done { relay with done := _ } _)
  | session _ moved => exact Or.inl (aside_of_session moved)
  | resolved | failed | answered | unheard => cases other

/-- The relay takes a query off its list. -/
def Closes (relay next : Relay) (index : Nat) : Prop :=
  next.queries = relay.queries.eraseIdx index ∧
    next.incoming = relay.incoming

/-- The gateway after a step, by what the step found. -/
inductive Stepped (opts : UdpOptions) (gateway : DnsGateway) :
    DnsGateway → Prop
  | aside {relay : Relay} (moved : Aside gateway.relay relay) :
      Stepped opts gateway { gateway with relay := relay }
  | admitted {relay : Relay} (moved : Admits opts gateway.relay relay) :
      Stepped opts gateway
        { gateway with
          relay := relay
          calls := gateway.calls ++ [gateway.nextTask]
          nextTask := gateway.nextTask + 1 }
  | pooled {event : Dns.Event} {pool : Pool}
      (moved : gateway.pool.Stepped event pool)
      (kept : ∀ task, gateway.pool.task task = .idle →
        pool.task task = .idle) :
      Stepped opts gateway { gateway with pool := pool }
  | called {index : Nat} {task : TaskId} {query : DnsQuery} {pool : Pool}
      (isCall : gateway.calls[index]? = some task)
      (isQuery : gateway.relay.queries[index]? = some query)
      (moved : gateway.pool.Stepped (.call task query.dst query.query) pool) :
      Stepped opts gateway { gateway with pool := pool }
  | answered {index : Nat} {task : TaskId} {query : DnsQuery}
      {call : Dns.Call} {resp : Message} {relay : Relay}
      (isCall : gateway.calls[index]? = some task)
      (isQuery : gateway.relay.queries[index]? = some query)
      (finished : gateway.pool.task task = .done call (.ok resp))
      (queries : relay.queries = gateway.relay.queries.set index
        { query with answer := some resp })
      (incoming : relay.incoming = gateway.relay.incoming) :
      Stepped opts gateway { gateway with relay := relay }
  | dropped {index : Nat} {relay : Relay}
      (closes : Closes gateway.relay relay index) :
      Stepped opts gateway
        { gateway with
          relay := relay
          calls := gateway.calls.eraseIdx index }
  | replied {index : Nat} {query : DnsQuery} {resp : Message} {relay : Relay}
      (isQuery : gateway.relay.queries[index]? = some query)
      (isAnswer : query.answer = some resp)
      (closes : Closes gateway.relay relay index) :
      Stepped opts gateway
        { gateway with
          relay := relay
          calls := gateway.calls.eraseIdx index
          answered := gateway.answered ++
            [(query.datagram, resp, query.dst, query.src)] }

variable {opts : UdpOptions} {gateway next : DnsGateway}

theorem stepped_of_relay {event : Udp.Event} {relay : Relay}
    (taken : gateway.relay.step opts event = some relay)
    (other : event.isQuery = false) :
    Stepped opts gateway (gateway.adopt relay) := by
  unfold adopt
  rcases aside_or_admits taken other with moved | moved
  · rw [moved.1, if_neg (Nat.lt_irrefl _)]
    exact .aside moved
  · have longer : gateway.relay.queries.length < relay.queries.length := by
      obtain ⟨query, _, _, queries, _⟩ := moved
      rw [queries, List.length_append]
      exact Nat.lt_succ_self _
    rw [if_pos longer]
    exact .admitted moved

theorem stepped_of_pool {event : Dns.Event} {pool : Pool}
    (taken : gateway.pool.step event = some pool)
    (other : event.isCall = false) :
    Stepped opts gateway { gateway with pool := pool } := by
  have moved := Pool.stepped_of_step taken
  refine .pooled moved ?_
  intro task idle
  rw [moved.rests, idle]
  rw [idle]
  cases event with
  | call actor server query => cases other
  | _ => rfl

theorem stepped_of_resolve {index : Nat}
    (taken : gateway.resolve index = some next) :
    Stepped opts gateway next := by
  unfold resolve at taken
  split at taken
  · rename_i task query isCall isQuery
    obtain ⟨pool, moved, rfl⟩ := Option.map_eq_some_iff.mp taken
    exact .called isCall isQuery (Pool.stepped_of_step moved)
  · cases taken

theorem stepped_of_resolved {index : Nat}
    (taken : gateway.resolved opts index = some next) :
    Stepped opts gateway next := by
  obtain ⟨task, isCall, taken⟩ := Option.bind_eq_some_iff.mp taken
  split at taken
  · rename_i call resp finished
    obtain ⟨relay, moved, rfl⟩ := Option.map_eq_some_iff.mp taken
    cases Relay.stepped moved with
    | resolved isQuery => exact .answered isCall isQuery finished rfl rfl
  · obtain ⟨relay, moved, rfl⟩ := Option.map_eq_some_iff.mp taken
    cases Relay.stepped moved with
    | failed => exact .dropped ⟨rfl, rfl⟩
  · cases taken

theorem stepped_of_reply {index : Nat}
    (taken : gateway.reply opts index = some next) :
    Stepped opts gateway next := by
  obtain ⟨query, isQuery, taken⟩ := Option.bind_eq_some_iff.mp taken
  obtain ⟨relay, moved, rfl⟩ := Option.map_eq_some_iff.mp taken
  cases Relay.stepped moved with
  | answered isSame isAnswer writing =>
      cases isQuery.symm.trans isSame
      rw [if_pos writing, isAnswer]
      exact .replied isQuery isAnswer ⟨rfl, rfl⟩
  | unheard silent =>
      rw [if_neg (Bool.eq_false_iff.mp silent)]
      exact .dropped ⟨rfl, rfl⟩

theorem stepped {event : Event} (taken : gateway.step opts event = some next) :
    Stepped opts gateway next := by
  cases event with
  | relay event =>
      obtain ⟨other, taken⟩ := Option.ite_none_left_eq_some.mp taken
      obtain ⟨relay, moved, rfl⟩ := Option.map_eq_some_iff.mp taken
      exact stepped_of_relay moved (Bool.eq_false_iff.mpr other)
  | pool event =>
      obtain ⟨other, taken⟩ := Option.ite_none_left_eq_some.mp taken
      obtain ⟨pool, moved, rfl⟩ := Option.map_eq_some_iff.mp taken
      exact stepped_of_pool moved (Bool.eq_false_iff.mpr other)
  | resolve index => exact stepped_of_resolve taken
  | resolved index => exact stepped_of_resolved taken
  | reply index => exact stepped_of_reply taken

/-! ## Queries and their calls -/

theorem exists_of_eraseIdx {calls : List TaskId} {queries : List DnsQuery}
    {index other : Nat} {task : TaskId} {query : DnsQuery}
    (isCall : (calls.eraseIdx index)[other]? = some task)
    (isQuery : (queries.eraseIdx index)[other]? = some query) :
    ∃ position : Nat, calls[position]? = some task ∧
      queries[position]? = some query := by
  rw [List.getElem?_eraseIdx] at isCall isQuery
  by_cases before : other < index
  · rw [if_pos before] at isCall isQuery
    exact ⟨other, isCall, isQuery⟩
  · rw [if_neg before] at isCall isQuery
    exact ⟨other + 1, isCall, isQuery⟩

theorem cases_of_append {calls : List TaskId} {queries : List DnsQuery}
    (aligned : calls.length = queries.length) {new task : TaskId}
    {newQuery query : DnsQuery} {index : Nat}
    (isCall : (calls ++ [new])[index]? = some task)
    (isQuery : (queries ++ [newQuery])[index]? = some query) :
    (calls[index]? = some task ∧ queries[index]? = some query) ∨
      (task = new ∧ query = newQuery) := by
  by_cases before : index < calls.length
  · rw [List.getElem?_append_left before] at isCall
    rw [List.getElem?_append_left (aligned ▸ before)] at isQuery
    exact Or.inl ⟨isCall, isQuery⟩
  · have late := Nat.le_of_not_lt before
    rw [List.getElem?_append_right late] at isCall
    rw [List.getElem?_append_right (aligned ▸ late)] at isQuery
    obtain ⟨_, isNew⟩ := List.getElem?_eq_some_iff.mp isCall
    obtain ⟨_, isNewQuery⟩ := List.getElem?_eq_some_iff.mp isQuery
    rw [List.getElem_singleton] at isNew isNewQuery
    exact Or.inr ⟨isNew.symm, isNewQuery.symm⟩

/-- A call works for its query. -/
structure Serves (pool : Pool) (task : TaskId) (query : DnsQuery) : Prop where
  asks : ∀ call, (pool.task task).call? = some call →
    call.server = query.dst ∧ call.query = query.query
  answers : ∀ resp, query.answer = some resp →
    ∃ call, pool.task task = .done call (.ok resp)

/-- The calls that were made are those of the queries, and the replies are
what they returned. -/
structure Linked (opts : UdpOptions) (gateway : DnsGateway) : Prop where
  aligned : gateway.calls.length = gateway.relay.queries.length
  distinct : gateway.calls.Nodup
  young : ∀ task ∈ gateway.calls, task < gateway.nextTask
  unused : ∀ task, gateway.nextTask ≤ task → gateway.pool.task task = .idle
  serves : ∀ {index : Nat} {task query},
    gateway.calls[index]? = some task →
    gateway.relay.queries[index]? = some query →
    Serves gateway.pool task query
  logged : ∀ {query src dst reply},
    ((query, src, dst), reply) ∈ gateway.answered →
    ∃ task call resp, gateway.pool.task task = .done call (.ok resp) ∧
      call.server = dst ∧ call.query = query ∧ reply = (resp, dst, src)
  once : (gateway.answered.map Prod.fst ++
    gateway.relay.queries.map DnsQuery.datagram).Subperm
      (gateway.received opts)

theorem linked_start (opts : UdpOptions) (proxy : ProxyConfig)
    (idleTimeout : Nat) : Linked opts (start proxy idleTimeout) where
  aligned := rfl
  distinct := List.nodup_nil
  young := by
    intro task member
    cases member
  unused := by
    intro task _
    rfl
  serves := by
    intro index task query isCall
    cases isCall
  logged := by
    intro query src dst reply member
    cases member
  once := List.nil_subperm

theorem received_of_extended {relay : Relay}
    (longer : gateway.relay.incoming <+: relay.incoming) :
    (gateway.received opts).Sublist
      (received opts { gateway with relay := relay }) :=
  longer.sublist.filter _

theorem Linked.aside (linked : Linked opts gateway) {relay : Relay}
    (moved : Aside gateway.relay relay) :
    Linked opts { gateway with relay := relay } where
  aligned := by rw [moved.1, linked.aligned]
  distinct := linked.distinct
  young := linked.young
  unused := linked.unused
  serves := by
    intro index task query isCall isQuery
    rw [moved.1] at isQuery
    exact linked.serves isCall isQuery
  logged := linked.logged
  once := by
    rw [moved.1]
    exact linked.once.trans (received_of_extended moved.2).subperm

theorem Linked.admitted (linked : Linked opts gateway) {relay : Relay}
    (moved : Admits opts gateway.relay relay) :
    Linked opts { gateway with
      relay := relay
      calls := gateway.calls ++ [gateway.nextTask]
      nextTask := gateway.nextTask + 1 } := by
  obtain ⟨new, unanswered, diverts, queries, incoming⟩ := moved
  refine ⟨?_, ?_, ?_, ?_, ?_, linked.logged, ?_⟩
  · rw [queries, List.length_append, List.length_append, linked.aligned]
    rfl
  · rw [← List.concat_eq_append]
    apply linked.distinct.concat
    intro member
    exact Nat.lt_irrefl _ (linked.young _ member)
  · intro task member
    rcases List.mem_append.mp member with before | isNew
    · exact Nat.lt_succ_of_lt (linked.young task before)
    · rw [List.mem_singleton.mp isNew]
      exact Nat.lt_succ_self _
  · intro task late
    exact linked.unused task (Nat.le_of_succ_le late)
  · intro index task query isCall isQuery
    rw [queries] at isQuery
    rcases cases_of_append linked.aligned isCall isQuery with
      ⟨isCall, isQuery⟩ | ⟨rfl, rfl⟩
    · exact linked.serves isCall isQuery
    · have idle := linked.unused gateway.nextTask (Nat.le_refl _)
      constructor
      · intro call calls
        rw [idle] at calls
        cases calls
      · intro resp answered
        rw [unanswered] at answered
        cases answered
  · have more : received opts { gateway with relay := relay } =
        gateway.received opts ++ [new.datagram] := by
      unfold received
      rw [incoming, List.filter_append]
      congr 1
      exact List.filter_cons_of_pos diverts
    change List.Subperm _ (received opts { gateway with relay := relay })
    rw [queries, List.map_append, ← List.append_assoc, more]
    exact linked.once.append (List.Subperm.refl _)

/-- Calls go on with the same query, and what they return stays. -/
theorem Serves.pooled {pool later : Pool} {task : TaskId} {query : DnsQuery}
    (serves : Serves pool task query)
    (calls : (later.task task).call? = (pool.task task).call?)
    (kept : ∀ call result, pool.task task = .done call result →
      later.task task = .done call result) :
    Serves later task query where
  asks := by
    intro call called
    rw [calls] at called
    exact serves.asks call called
  answers := by
    intro resp answered
    obtain ⟨call, finished⟩ := serves.answers resp answered
    exact ⟨call, kept call _ finished⟩

theorem Linked.logged_step (linked : Linked opts gateway) {pool : Pool}
    {event : Dns.Event} (moved : gateway.pool.Stepped event pool)
    {query : Udp.Payload} {src dst : SocketAddr} {reply : UdpMsg}
    (member : ((query, src, dst), reply) ∈ gateway.answered) :
    ∃ task call resp, pool.task task = .done call (.ok resp) ∧
      call.server = dst ∧ call.query = query ∧ reply = (resp, dst, src) := by
  obtain ⟨task, call, resp, finished, asked⟩ := linked.logged member
  exact ⟨task, call, resp, moved.done finished, asked⟩

theorem Linked.pooled (linked : Linked opts gateway) {pool : Pool}
    {event : Dns.Event} (moved : gateway.pool.Stepped event pool)
    (kept : ∀ task, gateway.pool.task task = .idle →
      pool.task task = .idle) :
    Linked opts { gateway with pool := pool } where
  aligned := linked.aligned
  distinct := linked.distinct
  young := linked.young
  unused := by
    intro task late
    exact kept task (linked.unused task late)
  serves := by
    intro index task query isCall isQuery
    apply (linked.serves isCall isQuery).pooled
    · rcases moved.call? task with same | ⟨idle, call, calls, _⟩
      · exact same
      · rw [kept task idle] at calls
        cases calls
    · intro call result finished
      exact moved.done finished
  logged := linked.logged_step moved
  once := linked.once

/-- A call that starts is the one of its query. -/
theorem asks_of_called {pool later : Pool} {task : TaskId}
    {server : SocketAddr} {query : Message}
    (moved : pool.Stepped (.call task server query) later) (call : Dns.Call)
    (calls : (later.task task).call? = some call) :
    call.server = server ∧ call.query = query := by
  cases moved with
  | refused idle =>
      simp only [Pool.setTask_task, Function.update_self] at calls
      cases calls
      exact ⟨rfl, rfl⟩
  | called idle long short =>
      simp only [Pool.setTask_task, Function.update_self] at calls
      cases calls
      exact ⟨rfl, rfl⟩

theorem rests_of_called {pool later : Pool} {task other : TaskId}
    {server : SocketAddr} {query : Message}
    (moved : pool.Stepped (.call task server query) later)
    (different : other ≠ task) : later.task other = pool.task other := by
  cases moved with
  | refused idle => exact Function.update_of_ne different _ _
  | called idle long short => exact Function.update_of_ne different _ _

theorem Linked.called (linked : Linked opts gateway) {index : Nat}
    {task : TaskId} {query : DnsQuery} {pool : Pool}
    (isCall : gateway.calls[index]? = some task)
    (isQuery : gateway.relay.queries[index]? = some query)
    (moved : gateway.pool.Stepped (.call task query.dst query.query) pool) :
    Linked opts { gateway with pool := pool } where
  aligned := linked.aligned
  distinct := linked.distinct
  young := linked.young
  unused := by
    intro other late
    have different : other ≠ task := by
      rintro rfl
      have young := linked.young _ (List.mem_of_getElem? isCall)
      exact Nat.not_le_of_lt young late
    rw [rests_of_called moved different]
    exact linked.unused other late
  serves := by
    intro position other served isOther isServed
    by_cases same : other = task
    · subst same
      have here : position = index :=
        (List.getElem?_inj (List.getElem?_eq_some_iff.mp isOther).1
          linked.distinct).mp (isOther.trans isCall.symm)
      subst here
      cases isQuery.symm.trans isServed
      refine ⟨asks_of_called moved, ?_⟩
      intro resp answered
      obtain ⟨call, finished⟩ := (linked.serves isOther isServed).answers
        resp answered
      exact ⟨call, moved.done finished⟩
    · have rests := rests_of_called moved same
      apply (linked.serves isOther isServed).pooled
      · rw [rests]
      · intro call result finished
        exact moved.done finished
  logged := linked.logged_step moved
  once := linked.once

theorem Linked.answered (linked : Linked opts gateway) {index : Nat}
    {task : TaskId} {query : DnsQuery} {call : Dns.Call} {resp : Message}
    {relay : Relay} (isCall : gateway.calls[index]? = some task)
    (isQuery : gateway.relay.queries[index]? = some query)
    (finished : gateway.pool.task task = .done call (.ok resp))
    (queries : relay.queries = gateway.relay.queries.set index
      { query with answer := some resp })
    (incoming : relay.incoming = gateway.relay.incoming) :
    Linked opts { gateway with relay := relay } where
  aligned := by rw [queries, List.length_set, linked.aligned]
  distinct := linked.distinct
  young := linked.young
  unused := linked.unused
  serves := by
    intro position other served isOther isServed
    rw [queries] at isServed
    by_cases same : position = index
    · subst same
      cases isCall.symm.trans isOther
      rw [List.getElem?_set_self (List.getElem?_eq_some_iff.mp isQuery).1]
        at isServed
      cases isServed
      refine ⟨(linked.serves isCall isQuery).asks, ?_⟩
      intro other isResp
      cases isResp
      exact ⟨call, finished⟩
    · rw [List.getElem?_set_ne (Ne.symm same)] at isServed
      exact linked.serves isOther isServed
  logged := linked.logged
  once := by
    have same : received opts { gateway with relay := relay } =
        gateway.received opts := by
      unfold received
      rw [incoming]
    have sameMap : relay.queries.map DnsQuery.datagram =
        gateway.relay.queries.map DnsQuery.datagram := by
      have here : (gateway.relay.queries.map DnsQuery.datagram)[index]? =
          some query.datagram := by
        rw [List.getElem?_map, isQuery]
        rfl
      obtain ⟨bound, isHere⟩ := List.getElem?_eq_some_iff.mp here
      rw [queries, List.map_set]
      change List.set _ index query.datagram = _
      rw [← isHere, List.set_getElem_self]
    rw [same, sameMap]
    exact linked.once

theorem Linked.closed (linked : Linked opts gateway) {index : Nat}
    {relay : Relay} (closes : Closes gateway.relay relay index) :
    (gateway.calls.eraseIdx index).length = relay.queries.length ∧
      (gateway.calls.eraseIdx index).Nodup ∧
      (∀ task ∈ gateway.calls.eraseIdx index, task < gateway.nextTask) ∧
      ∀ {position : Nat} {task query},
        (gateway.calls.eraseIdx index)[position]? = some task →
        relay.queries[position]? = some query →
        Serves gateway.pool task query := by
  have fewer := List.eraseIdx_sublist gateway.calls index
  refine ⟨?_, linked.distinct.sublist fewer, ?_, ?_⟩
  · rw [closes.1, List.length_eraseIdx, List.length_eraseIdx, linked.aligned]
  · intro task member
    exact linked.young task (fewer.subset member)
  · intro position task query isCall isQuery
    rw [closes.1] at isQuery
    obtain ⟨other, isCall, isQuery⟩ := exists_of_eraseIdx isCall isQuery
    exact linked.serves isCall isQuery

theorem received_of_closes {index : Nat} {relay : Relay}
    (closes : Closes gateway.relay relay index) :
    relay.incoming.filter (fun msg => opts.diverts msg.2.2) =
      gateway.received opts := by
  rw [closes.2]
  rfl

theorem Linked.dropped (linked : Linked opts gateway) {index : Nat}
    {relay : Relay} (closes : Closes gateway.relay relay index) :
    Linked opts { gateway with
      relay := relay
      calls := gateway.calls.eraseIdx index } := by
  obtain ⟨aligned, distinct, young, serves⟩ := linked.closed closes
  refine ⟨aligned, distinct, young, linked.unused, serves, linked.logged, ?_⟩
  unfold received
  rw [received_of_closes closes, closes.1]
  have fewer := List.eraseIdx_sublist gateway.relay.queries index
  have shorter := (fewer.map DnsQuery.datagram).append_left
    (gateway.answered.map Prod.fst)
  exact shorter.subperm.trans linked.once

theorem Linked.replied (linked : Linked opts gateway) {index : Nat}
    {query : DnsQuery} {resp : Message} {relay : Relay}
    (isQuery : gateway.relay.queries[index]? = some query)
    (isAnswer : query.answer = some resp)
    (closes : Closes gateway.relay relay index) :
    Linked opts { gateway with
      relay := relay
      calls := gateway.calls.eraseIdx index
      answered := gateway.answered ++
        [(query.datagram, resp, query.dst, query.src)] } := by
  obtain ⟨aligned, distinct, young, serves⟩ := linked.closed closes
  obtain ⟨bound, isHere⟩ := List.getElem?_eq_some_iff.mp isQuery
  refine ⟨aligned, distinct, young, linked.unused, serves, ?_, ?_⟩
  · intro payload src dst reply member
    rcases List.mem_append.mp member with before | isNew
    · exact linked.logged before
    · have callBound : index < gateway.calls.length := linked.aligned ▸ bound
      have served := linked.serves (List.getElem?_eq_getElem callBound) isQuery
      obtain ⟨call, finished⟩ := served.answers resp isAnswer
      obtain ⟨server, asked⟩ := served.asks call (by rw [finished]; rfl)
      cases List.mem_singleton.mp isNew
      exact ⟨_, call, resp, finished, server, asked, rfl⟩
  · unfold received
    rw [received_of_closes closes, closes.1, List.map_append,
      List.append_assoc]
    have moved : ([query.datagram] ++
        (gateway.relay.queries.eraseIdx index).map DnsQuery.datagram).Perm
          (gateway.relay.queries.map DnsQuery.datagram) := by
      have perm := (List.getElem_cons_eraseIdx_perm bound).map
        DnsQuery.datagram
      rwa [isHere] at perm
    exact ((moved.append_left _).subperm).trans linked.once

theorem Linked.step (linked : Linked opts gateway)
    (stepped : Stepped opts gateway next) : Linked opts next := by
  cases stepped with
  | aside moved => exact linked.aside moved
  | admitted moved => exact linked.admitted moved
  | pooled moved kept => exact linked.pooled moved kept
  | called isCall isQuery moved => exact linked.called isCall isQuery moved
  | answered isCall isQuery finished queries incoming =>
      exact linked.answered isCall isQuery finished queries incoming
  | dropped closes => exact linked.dropped closes
  | replied isQuery isAnswer closes =>
      exact linked.replied isQuery isAnswer closes

/-! ## The pool in the gateway -/

theorem pool_of_step {event : Event}
    (taken : gateway.step opts event = some next) :
    next.pool = gateway.pool ∨
      ∃ poolEvent ∈ gateway.poolEvent? event,
        gateway.pool.step poolEvent = some next.pool := by
  cases event with
  | relay event =>
      obtain ⟨_, taken⟩ := Option.ite_none_left_eq_some.mp taken
      obtain ⟨relay, _, rfl⟩ := Option.map_eq_some_iff.mp taken
      left
      unfold adopt
      split <;> rfl
  | pool event =>
      obtain ⟨_, taken⟩ := Option.ite_none_left_eq_some.mp taken
      obtain ⟨pool, moved, rfl⟩ := Option.map_eq_some_iff.mp taken
      exact .inr ⟨event, rfl, moved⟩
  | resolve index =>
      change gateway.resolve index = some next at taken
      unfold resolve at taken
      split at taken
      · rename_i task query isCall isQuery
        obtain ⟨pool, moved, rfl⟩ := Option.map_eq_some_iff.mp taken
        refine .inr ⟨.call task query.dst query.query, ?_, moved⟩
        simp [poolEvent?, isCall, isQuery]
      · cases taken
  | resolved index =>
      obtain ⟨task, _, taken⟩ := Option.bind_eq_some_iff.mp taken
      left
      split at taken
      · obtain ⟨relay, _, rfl⟩ := Option.map_eq_some_iff.mp taken
        rfl
      · obtain ⟨relay, _, rfl⟩ := Option.map_eq_some_iff.mp taken
        rfl
      · cases taken
  | reply index =>
      obtain ⟨query, _, taken⟩ := Option.bind_eq_some_iff.mp taken
      obtain ⟨relay, _, rfl⟩ := Option.map_eq_some_iff.mp taken
      exact .inl rfl

theorem delivering_step {event : Event}
    (delivering : gateway.pool.Delivering)
    (taken : gateway.step opts event = some next)
    (assumed : gateway.Assumed event) : next.pool.Delivering := by
  rcases pool_of_step taken with same | ⟨poolEvent, isEvent, moved⟩
  · rw [same]
    exact delivering
  · exact delivering.step (Pool.stepped_of_step moved)
      (assumed poolEvent isEvent)

theorem wellFormed_step {event : Event}
    (wellFormed : gateway.pool.WellFormed)
    (taken : gateway.step opts event = some next) :
    next.pool.WellFormed := by
  rcases pool_of_step taken with same | ⟨poolEvent, _, moved⟩
  · rw [same]
    exact wellFormed
  · exact wellFormed.of_step moved

/-- The timing is no assumption in a run with few queries. -/
theorem everyStep_assumed {opts : UdpOptions} {proxy : ProxyConfig}
    {idleTimeout : Nat} {events : List Event}
    (few : EveryStep (step opts)
      (fun gateway event => gateway.pool.FewDraws ∧
        ∀ poolEvent ∈ gateway.poolEvent? event, gateway.pool.Honest poolEvent)
      (start proxy idleTimeout) events) :
    EveryStep (step opts) Assumed (start proxy idleTimeout) events := by
  have initial : (start proxy idleTimeout).pool.WellFormed :=
    Pool.wellFormed_new proxy idleTimeout
  have kept : ∀ (gateway : DnsGateway) event next,
      gateway.pool.WellFormed → gateway.step opts event = some next →
        next.pool.WellFormed :=
    fun _ _ _ wellFormed taken => wellFormed_step wellFormed taken
  refine few.mono_of_invariant ?_ kept initial
  intro gateway event wellFormed ⟨draws, honest⟩ poolEvent isEvent
  refine ⟨?_, honest poolEvent isEvent⟩
  intro task call forced lease progress leased
  exact Nat.le_trans (draws _ (wellFormed.held_leased leased))
    (Nat.le_add_left _ _)

theorem answersOwn_of_linked (linked : Linked opts gateway)
    (delivering : gateway.pool.Delivering) : AnswersOwn opts gateway where
  genuine := by
    intro query src dst reply member
    obtain ⟨task, call, resp, finished, rfl, rfl, rfl⟩ := linked.logged member
    have paired := delivering.paired
    obtain ⟨conn, sent, body, isSent, isOwner, isAnswer, server, isReply⟩ :=
      paired.replies finished
    obtain ⟨written, calls, _, _, bytes⟩ := paired.frames isSent
    rw [isOwner, finished] at calls
    cases calls
    exact ⟨conn, sent, body, isSent, server, bytes, isAnswer,
      by rw [isReply]⟩
  once := by
    have some := List.sublist_append_left (gateway.answered.map Prod.fst)
      (gateway.relay.queries.map DnsQuery.datagram)
    exact some.subperm.trans linked.once

/-- In every run of the relay and the pool, whatever clients send and however
the tasks interleave, a DNS datagram is answered at most once, and with the
answer of the server it was for to this very query. -/
theorem always_answersOwn (opts : UdpOptions) {proxy : ProxyConfig}
    {idleTimeout : Nat} {events : List Event}
    (assumed : EveryStep (step opts) Assumed (start proxy idleTimeout)
      events) :
    Always (step opts) (AnswersOwn opts) (start proxy idleTimeout) events := by
  have sound : Always (step opts)
      (fun gateway => Linked opts gateway ∧ gateway.pool.Delivering)
      (start proxy idleTimeout) events := by
    apply EveryStep.always _ _ assumed
    · intro gateway event next before taken assumed
      exact ⟨before.1.step (stepped taken),
        delivering_step before.2 taken assumed⟩
    · exact ⟨linked_start opts proxy idleTimeout,
        Pool.delivering_new proxy idleTimeout⟩
  apply sound.mono
  intro gateway holds
  exact answersOwn_of_linked holds.1 holds.2

/-- Two clients ask the same server over one connection, and the answers come
in the other order. -/
def swappedClients : List Event :=
  let ask client := (Dns.exampleQuery, client, Dns.exampleServer)
  let first := .v4 (Ipv4Addr.ofOctets 10 0 0 1) 5001
  let second := .v4 (Ipv4Addr.ofOctets 10 0 0 1) 5002
  [.relay (.datagram (ask first)), .resolve 0,
    .pool (.lockConns 0), .pool (.tryNext 0), .pool (.lockOpen 0),
    .pool (.lockConns 0), .pool (.tryNext 0), .pool (.checkCap 0),
    .pool (.loadProxy 0), .pool (.connect 0 true),
    .pool (.allocateFresh 0), .pool (.register 0),
    .pool (.insertSender 0), .pool (.lockWriter 0), .pool (.write 0 true),
    .relay (.datagram (ask second)), .resolve 1,
    .pool (.lockConns 1), .pool (.tryNext 1), .pool (.insertSender 1),
    .pool (.lockWriter 1), .pool (.write 1 true), .pool (.touch 0),
    .pool (.touch 1),
    .pool (.readerFrame 0 [0, 1, 77] (some 1)),
    .pool (.readerFrame 0 [0, 0, 66] (some 0)),
    .pool (.receive 1), .resolved 1, .reply 1,
    .pool (.receive 0), .resolved 0, .reply 0]

def exampleOptions : UdpOptions :=
  { maxSessions := 2, dnsOverTcp := true }

theorem always_answersOwn_swapped :
    Always (step exampleOptions) (AnswersOwn exampleOptions)
        (start Dns.exampleProxy 60) swappedClients ∧
      ∃ final, run (step exampleOptions) (start Dns.exampleProxy 60)
          swappedClients = some final ∧
        final.answered.map (fun answer => (answer.2.1, answer.2.2.2.port)) =
          [([0, 0, 77], 5002), ([0, 0, 66], 5001)] := by
  constructor
  · apply always_answersOwn
    apply everyStep_assumed
    decide +kernel
  · have completes : (run (step exampleOptions) (start Dns.exampleProxy 60)
        swappedClients).isSome := by
      decide +kernel
    refine ⟨_, (Option.some_get completes).symm, ?_⟩
    decide +revert +kernel

end DnsGateway

end Cortado
