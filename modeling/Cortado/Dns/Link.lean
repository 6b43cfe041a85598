import Cortado.Dns.Ownership
import Cortado.Dns.Reader

/-!
# The pool over byte streams

The reader tasks receive bytes, not frames.  Here a server puts its answers on
the stream of a connection, the reader of the connection takes them from it
byte by byte, and the bodies it extracts are what reaches the pool.  As long
as no idle timeout falls between the two bytes of a length, these bodies are
the answers, and the maps of the pool hold exactly the queries in flight.  One
that does makes the reader take part of an answer for another one, under the
identifier of a query that was never answered.
-/

namespace Cortado.Dns

open Multiplexer Transition

/-! ## The receiving side of a connection -/

/-- The reader of a connection, and the answers that the server has put on its
stream, each with the position of the frame it answers. -/
structure Inlet where
  inbound : Inbound
  answers : List (Nat × Message)

namespace Inlet

def start : Inlet :=
  { inbound := .start, answers := [] }

def bodies (inlet : Inlet) : List Message :=
  inlet.answers.map Prod.snd

def stream (inlet : Inlet) : List UInt8 :=
  inlet.bodies.flatMap encode

/-- The number of bodies that the reader has extracted. -/
def extracted (inlet : Inlet) : Nat :=
  inlet.inbound.reader.delivered.length

/-- The reader takes the next byte of the stream. -/
def advance (inlet : Inlet) : Option Inlet :=
  inlet.stream[inlet.inbound.arrived]?.map fun byte =>
    { inlet with
      inbound :=
        { reader := inlet.inbound.reader.feedByte byte
          arrived := inlet.inbound.arrived + 1 } }

/-- The body that the reader has extracted on the way to another state. -/
def extractedBy (inlet next : Inlet) : Option Message :=
  next.inbound.reader.delivered[inlet.extracted]?

/-- The frame that the next extracted body answers, if it is an answer. -/
def source (inlet : Inlet) (body : Message) : Option Nat :=
  match inlet.answers[inlet.extracted]? with
  | some (position, answer) => if answer = body then some position else none
  | none => none

/-- The frame whose answer is complete with the next byte. -/
def completes (inlet : Inlet) : Option Nat :=
  (inlet.advance.bind inlet.extractedBy).bind inlet.source

end Inlet

/-! ## The pool and the streams of its connections -/

structure Link where
  pool : Pool
  inlet : ConnId → Inlet

/-- The reader of a connection reads. -/
def Event.reads : Event → Bool
  | .readerIdle _ | .readerStop _ | .readerFrame _ _ _ => true
  | _ => false

inductive LinkEvent where
  | pool (event : Event)
  /-- The server answers the frame at a position. -/
  | answer (conn : ConnId) (position : Nat) (body : Message)
  | arrive (conn : ConnId)
  /-- The idle timeout. -/
  | expire (conn : ConnId)
  /-- End of stream or a read error. -/
  | close (conn : ConnId)

namespace Link

def new (proxy : ProxyConfig) (idleTimeout : Nat) : Link :=
  { pool := .new proxy idleTimeout, inlet := fun _ => .start }

def setInlet (link : Link) (conn : ConnId) (inlet : Inlet) : Link :=
  { link with inlet := Function.update link.inlet conn inlet }

def act (link : Link) (event : Event) : Option Link :=
  (link.pool.step event).map fun pool => { link with pool := pool }

/-- The server answers a frame it has received, once, under the identifier of
the frame. -/
def answer (link : Link) (conn : ConnId) (position : Nat) (body : Message) :
    Option Link :=
  let inlet := link.inlet conn
  match (link.pool.conn conn).sent[position]? with
  | some sent =>
      if messageId body = some (candidate sent.draw) ∧
          body.length ≤ maxDnsMessage ∧
          position ∉ inlet.answers.map Prod.fst then
        some (link.setInlet conn
          { inlet with answers := inlet.answers ++ [(position, body)] })
      else none
  | none => none

/-- The reader takes a byte.  A body that it completes goes to the pool, and a
length below two ends the loop. -/
def arrive (link : Link) (conn : ConnId) : Option Link :=
  let inlet := link.inlet conn
  match (link.pool.conn conn).reader, inlet.advance with
  | .running, some next =>
      match inlet.extractedBy next, next.inbound.reader.phase with
      | some body, _ =>
          (link.setInlet conn next).act
            (.readerFrame conn body (inlet.source body))
      | none, .stopped => (link.setInlet conn next).act (.readerStop conn)
      | none, _ => some (link.setInlet conn next)
  | _, _ => none

/-- The timeout covers the length bytes only. -/
def expire (link : Link) (conn : ConnId) : Option Link :=
  let inlet := link.inlet conn
  let pending := !(link.pool.conn conn).inflight.keys.isEmpty
  match inlet.inbound.reader.phase with
  | .length _ =>
      (link.setInlet conn
        { inlet with
          inbound :=
            { inlet.inbound with
              reader := inlet.inbound.reader.expire pending } }).act
        (.readerIdle conn)
  | _ => none

def step (link : Link) : LinkEvent → Option Link
  | .pool event => if event.reads then none else link.act event
  | .answer conn position body => link.answer conn position body
  | .arrive conn => link.arrive conn
  | .expire conn => link.expire conn
  | .close conn => link.act (.readerStop conn)

/-- An answer is complete before the counter has come round to its
identifier. -/
def Prompt (link : Link) : LinkEvent → Prop
  | .arrive conn =>
      ∀ position ∈ (link.inlet conn).completes,
        ∀ sent ∈ (link.pool.conn conn).sent[position]?,
          (link.pool.conn conn).draws ≤ sent.draw + idWindow
  | _ => True

/-- The assumptions on the timing, for one step. -/
def Timely (link : Link) (event : LinkEvent) : Prop :=
  link.pool.Timely ∧ link.Prompt event

/-- No timeout falls between the two length bytes of an answer. -/
def SparesLengths (link : Link) : LinkEvent → Prop
  | .expire conn =>
      ¬splitsLength (link.inlet conn).bodies
        (link.inlet conn).inbound.arrived
  | _ => True

end Link

/-! ## Readers in step with their streams -/

namespace Inlet

variable {inlet next : Inlet} {conn after : Conn}

/-- The reader has taken the first bytes of the stream, without a loss. -/
structure Aligned (inlet : Inlet) : Prop where
  arrived : inlet.inbound.arrived ≤ inlet.stream.length
  reader : inlet.inbound.reader =
    Reader.start.feed (inlet.stream.take inlet.inbound.arrived)

/-- The stream holds answers to frames of the connection, and the frames with
an answer are those of which the reader has extracted it. -/
structure Fits (inlet : Inlet) (conn : Conn) : Prop where
  sendable : ∀ body ∈ inlet.bodies, Sendable body
  asked : ∀ {position body}, (position, body) ∈ inlet.answers →
    ∃ sent, conn.sent[position]? = some sent ∧
      messageId body = some (candidate sent.draw)
  once : (inlet.answers.map Prod.fst).Nodup
  answered : ∀ {position sent}, conn.sent[position]? = some sent →
    sent.answer ≠ none →
      position ∈ (inlet.answers.take inlet.extracted).map Prod.fst
  aligned : conn.reader = .running → inlet.Aligned

theorem aligned_start : start.Aligned :=
  ⟨Nat.le_refl _, rfl⟩

theorem advance_eq (advanced : inlet.advance = some next) : ∃ byte,
    inlet.stream[inlet.inbound.arrived]? = some byte ∧
      next =
        { inlet with
          inbound :=
            { reader := inlet.inbound.reader.feedByte byte
              arrived := inlet.inbound.arrived + 1 } } := by
  obtain ⟨byte, found, rfl⟩ := Option.map_eq_some_iff.mp advanced
  exact ⟨byte, found, rfl⟩

theorem source_eq {position : Nat} {body : Message}
    (found : inlet.answers[inlet.extracted]? = some (position, body)) :
    inlet.source body = some position := by
  simp [source, found]

theorem Aligned.advance (aligned : inlet.Aligned)
    (advanced : inlet.advance = some next) : next.Aligned := by
  obtain ⟨byte, found, rfl⟩ := advance_eq advanced
  obtain ⟨bound, isByte⟩ := List.getElem?_eq_some_iff.mp found
  refine ⟨bound, ?_⟩
  change inlet.inbound.reader.feedByte byte =
    Reader.start.feed (inlet.stream.take (inlet.inbound.arrived + 1))
  rw [List.take_add_one, found, Reader.feed_append, ← aligned.reader]
  rfl

/-- More answers leave what was read as it is. -/
theorem Aligned.append (aligned : inlet.Aligned) (answer : Nat × Message) :
    Aligned { inlet with answers := inlet.answers ++ [answer] } := by
  have grown : stream { inlet with answers := inlet.answers ++ [answer] } =
      inlet.stream ++ encode answer.2 := by
    simp [stream, bodies]
  constructor
  · rw [grown, List.length_append]
    exact Nat.le_add_right_of_le aligned.arrived
  · rw [grown, List.take_append_of_le_length aligned.arrived]
    exact aligned.reader

section Reading

variable (fits : inlet.Fits conn) (aligned : inlet.Aligned)

include fits aligned

/-- The reader holds a length byte exactly between the two bytes of one, and
has not stopped. -/
theorem phase_of_aligned :
    Reader.HoldsLengthByte
      (splitsLength inlet.bodies inlet.inbound.arrived)
      inlet.inbound.reader.phase := by
  have held := Reader.phase_of_seen fits.sendable
    (List.take_append_drop inlet.inbound.arrived inlet.stream) []
  rw [List.length_take, Nat.min_eq_left aligned.arrived] at held
  rw [aligned.reader]
  exact held

theorem not_stopped : inlet.inbound.reader.phase ≠ .stopped := by
  intro stopped
  rcases phase_of_aligned fits aligned with
    ⟨_, byte, holds⟩ | ⟨_, holds | ⟨need, got, holds⟩⟩
  all_goals
    rw [stopped] at holds
    cases holds

/-- The extracted bodies are the first ones of the answers. -/
theorem delivered_of_aligned :
    inlet.inbound.reader.delivered <+: inlet.bodies := by
  rw [aligned.reader]
  exact Reader.delivered_of_seen fits.sendable
    (List.take_append_drop inlet.inbound.arrived inlet.stream)

/-- An expiry that spares the lengths costs nothing. -/
theorem expire_of_aligned
    (spared : ¬splitsLength inlet.bodies inlet.inbound.arrived) :
    inlet.inbound.reader.expire true = inlet.inbound.reader := by
  rcases phase_of_aligned fits aligned with ⟨splits, _⟩ | ⟨_, holdsNone⟩
  · exact absurd splits spared
  · exact Reader.expire_of_none holdsNone

end Reading

theorem extracted_le (advanced : inlet.advance = some next) :
    inlet.extracted ≤ next.extracted := by
  obtain ⟨byte, _, rfl⟩ := advance_eq advanced
  exact (inlet.inbound.reader.delivered_feedByte byte).length_le

namespace Fits

/-- The connection goes on without an answer to one of its frames. -/
theorem goesOn (fits : inlet.Fits conn)
    (sent : ∃ more, (∀ frame ∈ more, frame.answer = none) ∧
      after.sent = conn.sent ++ more)
    (aligned : after.reader = .running → inlet.Aligned) :
    inlet.Fits after where
  sendable := fits.sendable
  asked := by
    intro position body member
    obtain ⟨asked, found, identified⟩ := fits.asked member
    obtain ⟨more, _, appended⟩ := sent
    refine ⟨asked, ?_, identified⟩
    rw [appended, List.getElem?_append_left
      (List.getElem?_eq_some_iff.mp found).1, found]
  once := fits.once
  answered := by
    intro position frame found isAnswered
    obtain ⟨more, silent, appended⟩ := sent
    rw [appended] at found
    by_cases within : position < conn.sent.length
    · rw [List.getElem?_append_left within] at found
      exact fits.answered found isAnswered
    · rw [List.getElem?_append_right (Nat.le_of_not_lt within)] at found
      exact absurd (silent frame (List.mem_of_getElem? found)) isAnswered
  aligned := aligned

/-- The pool records an answer that the reader has extracted. -/
theorem record (fits : inlet.Fits conn) {position : Nat} {body : Message}
    (read : position ∈ (inlet.answers.take inlet.extracted).map Prod.fst)
    (sent : after.sent = conn.sent.modify position fun sent =>
      { sent with answer := some body })
    (aligned : after.reader = .running → inlet.Aligned) :
    inlet.Fits after where
  sendable := fits.sendable
  asked := by
    intro other answer member
    obtain ⟨asked, found, identified⟩ := fits.asked member
    refine ⟨_, by rw [sent, List.getElem?_modify, found]; rfl, ?_⟩
    split <;> exact identified
  once := fits.once
  answered := by
    intro other frame found isAnswered
    by_cases same : position = other
    · exact same ▸ read
    · rw [sent, List.getElem?_modify_ne _ _ same] at found
      exact fits.answered found isAnswered
  aligned := aligned

/-- The reader goes on without having extracted anything. -/
theorem setInbound (fits : inlet.Fits conn) {inbound : Inbound}
    (kept : inlet.extracted ≤ inbound.reader.delivered.length)
    (aligned : conn.reader = .running →
      Aligned { inlet with inbound := inbound }) :
    Fits { inlet with inbound := inbound } conn where
  sendable := fits.sendable
  asked := fits.asked
  once := fits.once
  answered := by
    intro position sent found isAnswered
    apply List.Sublist.subset _ (fits.answered found isAnswered)
    exact (List.take_sublist_take_left kept).map _
  aligned := aligned

theorem advance (fits : inlet.Fits conn)
    (advanced : inlet.advance = some next) : next.Fits conn := by
  have kept := extracted_le advanced
  have aligned : conn.reader = .running → next.Aligned := by
    intro running
    exact (fits.aligned running).advance advanced
  obtain ⟨byte, _, rfl⟩ := advance_eq advanced
  exact fits.setInbound kept aligned

theorem append (fits : inlet.Fits conn) {position : Nat} {body : Message}
    {sent : SentFrame} (found : conn.sent[position]? = some sent)
    (identified : messageId body = some (candidate sent.draw))
    (bounded : body.length ≤ maxDnsMessage)
    (fresh : position ∉ inlet.answers.map Prod.fst) :
    Fits { inlet with answers := inlet.answers ++ [(position, body)] }
      conn where
  sendable := by
    intro other member
    simp only [bodies, List.map_append, List.map_cons, List.map_nil,
      List.mem_append, List.mem_singleton] at member
    rcases member with isOld | rfl
    · exact fits.sendable other isOld
    · exact ⟨length_of_messageId identified, bounded⟩
  asked := by
    intro other otherBody member
    rcases List.mem_append.mp member with isOld | isNew
    · exact fits.asked isOld
    · cases List.mem_singleton.mp isNew
      exact ⟨sent, found, identified⟩
  once := by
    rw [List.map_append, List.nodup_append]
    refine ⟨fits.once, List.nodup_singleton _, ?_⟩
    intro old isOld new isNew
    rw [List.map_singleton, List.mem_singleton] at isNew
    rintro rfl
    subst isNew
    exact fresh isOld
  answered := by
    intro other frame isFrame isAnswered
    have read := fits.answered isFrame isAnswered
    change other ∈ ((inlet.answers ++ [(position, body)]).take
      inlet.extracted).map Prod.fst
    rw [List.take_append, List.map_append]
    exact List.mem_append_left _ read
  aligned := by
    intro running
    exact (fits.aligned running).append (position, body)

/-- What an aligned reader extracts is the next answer. -/
theorem extracts (fits : inlet.Fits conn) (aligned : inlet.Aligned)
    (advanced : inlet.advance = some next) {body : Message}
    (extracted : inlet.extractedBy next = some body) : ∃ position,
      inlet.answers[inlet.extracted]? = some (position, body) ∧
        position ∈ (next.answers.take next.extracted).map Prod.fst := by
  have first := delivered_of_aligned (fits.advance advanced)
    (aligned.advance advanced)
  obtain ⟨rest, whole⟩ := first
  have within := (List.getElem?_eq_some_iff.mp extracted).1
  have isBody : next.bodies[inlet.extracted]? = some body := by
    rw [← whole, List.getElem?_append_left within]
    exact extracted
  rw [bodies, List.getElem?_map] at isBody
  obtain ⟨⟨position, answer⟩, found, rfl⟩ := Option.map_eq_some_iff.mp isBody
  refine ⟨position, ?_, ?_⟩
  · obtain ⟨byte, _, rfl⟩ := advance_eq advanced
    exact found
  · rw [← List.getElem?_take_of_lt within] at found
    exact List.mem_map_of_mem (List.mem_of_getElem? found)

/-- The next answer is one that the pool has not recorded. -/
theorem unanswered (fits : inlet.Fits conn) {position : Nat} {body : Message}
    (found : inlet.answers[inlet.extracted]? = some (position, body))
    {sent : SentFrame} (isSent : conn.sent[position]? = some sent) :
    sent.answer = none := by
  by_contra isAnswered
  have read := fits.answered isSent isAnswered
  rw [List.map_take] at read
  obtain ⟨index, bound, earlier⟩ := List.mem_take_iff_getElem.mp read
  have later : (inlet.answers.map Prod.fst)[inlet.extracted]? =
      some position := by
    rw [List.getElem?_map, found]
    rfl
  obtain ⟨within, isPosition⟩ := List.getElem?_eq_some_iff.mp later
  have same := (fits.once.getElem_inj_iff).mp (earlier.trans isPosition.symm)
  omega

end Fits

end Inlet

/-! ## Runs of the link -/

/-- The loop of a reader goes on after the idle timeout only with queries in
flight. -/
theorem Pool.readerIdle_eq {pool next : Pool} {conn : ConnId}
    (idled : pool.readerIdle conn = some next) :
    (pool.conn conn).reader = .running ∧
      ((next.conn conn).reader = .running →
        (pool.conn conn).inflight.keys.isEmpty = false) := by
  unfold readerIdle at idled
  split at idled
  · rename_i running
    refine ⟨running, ?_⟩
    split at idled
    · cases idled
      simp [setReader]
    · rename_i pending
      exact fun _ => Bool.eq_false_iff.mpr pending
  · cases idled

namespace Link

variable {link next : Link} {event : LinkEvent}

structure Linked (link : Link) : Prop where
  owning : link.pool.Owning
  unborn : ∀ {conn}, link.pool.nextConn ≤ conn → link.inlet conn = .start
  fits : ∀ conn, (link.inlet conn).Fits (link.pool.conn conn)

theorem linked_new (proxy : ProxyConfig) (idleTimeout : Nat) :
    (new proxy idleTimeout).Linked where
  owning := Pool.owning_new proxy idleTimeout
  unborn := fun _ => rfl
  fits := by
    intro conn
    refine ⟨?_, ?_, List.nodup_nil, ?_, ?_⟩
    · intro body member
      cases member
    · intro position body member
      cases member
    · intro position sent found
      cases found
    · intro _
      exact Inlet.aligned_start

namespace Linked

variable (linked : link.Linked)

include linked

theorem born {conn : ConnId}
    (running : (link.pool.conn conn).reader = .running) :
    conn < link.pool.nextConn := by
  apply linked.owning.faithful.wellFormed.born_of_reader
  rw [running]
  exact ReaderState.noConfusion

/-- A step of the pool that answers no frame of a connection. -/
theorem fits_step {pool : Pool} {event : Event}
    (stepped : Pool.Stepped link.pool event pool) {conn : ConnId}
    (other : ∀ body position,
      event ≠ .readerFrame conn body (some position)) :
    (link.inlet conn).Fits (pool.conn conn) := by
  apply (linked.fits conn).goesOn
  · rcases stepped.sent_cases linked.owning.faithful.wellFormed conn with
      same | ⟨_, _, _, _, _, _, appended⟩ | ⟨body, position, _, isFrame, _⟩
    · exact ⟨[], by simp, by rw [same, List.append_nil]⟩
    · exact ⟨_, by simp, appended⟩
    · exact absurd isFrame (other body position)
  · intro running
    by_cases born : conn < link.pool.nextConn
    · exact (linked.fits conn).aligned
        ((stepped.continues born).running running)
    · rw [linked.unborn (Nat.le_of_not_lt born)]
      exact Inlet.aligned_start

/-- A step of the pool that answers no frame at all. -/
theorem act {event : Event} (acted : link.act event = some next)
    (assumed : link.pool.Assumed event)
    (other : ∀ conn body position,
      event ≠ .readerFrame conn body (some position)) : next.Linked := by
  obtain ⟨pool, taken, rfl⟩ := Option.map_eq_some_iff.mp acted
  have stepped := Pool.stepped_of_step taken
  exact ⟨linked.owning.step stepped assumed,
    fun late => linked.unborn (Nat.le_trans stepped.nextConn_le late),
    fun conn => linked.fits_step stepped (other conn)⟩

/-- The inlet of a connection that has been opened. -/
theorem setInlet {conn : ConnId} {inlet : Inlet}
    (born : conn < link.pool.nextConn)
    (fits : inlet.Fits (link.pool.conn conn)) :
    (link.setInlet conn inlet).Linked where
  owning := linked.owning
  unborn := by
    intro other late
    have different : other ≠ conn := Nat.ne_of_gt (Nat.lt_of_lt_of_le born late)
    simp only [Link.setInlet, Function.update_of_ne different]
    exact linked.unborn late
  fits := by
    intro other
    by_cases same : other = conn
    · subst same
      simpa [Link.setInlet] using fits
    · simpa [Link.setInlet, same] using linked.fits other

theorem answer {conn : ConnId} {position : Nat} {body : Message}
    (answered : link.answer conn position body = some next) :
    next.Linked := by
  simp only [Link.answer] at answered
  split at answered
  · rename_i sent found
    split at answered
    · rename_i allowed
      cases answered
      apply linked.setInlet
      · exact linked.owning.faithful.wellFormed.born_of_sent
          (List.mem_of_getElem? found)
      · exact (linked.fits conn).append found allowed.1 allowed.2.1
          allowed.2.2
    · cases answered
  · cases answered

/-- The byte completes an answer, and the pool takes it for the answer that it
is. -/
theorem extract {conn : ConnId} {inlet : Inlet} {body : Message}
    (timely : link.Timely (.arrive conn))
    (running : (link.pool.conn conn).reader = .running)
    (advanced : (link.inlet conn).advance = some inlet)
    (extracted : (link.inlet conn).extractedBy inlet = some body)
    (acted : (link.setInlet conn inlet).act
      (.readerFrame conn body ((link.inlet conn).source body)) =
        some next) : next.Linked := by
  have fits := linked.fits conn
  obtain ⟨position, found, read⟩ :=
    fits.extracts (fits.aligned running) advanced extracted
  have source := Inlet.source_eq found
  have completes : (link.inlet conn).completes = some position := by
    simp [Inlet.completes, advanced, extracted, source]
  have received : (link.setInlet conn inlet).Linked :=
    linked.setInlet (linked.born running) (fits.advance advanced)
  rw [source] at acted
  obtain ⟨pool, taken, rfl⟩ := Option.map_eq_some_iff.mp acted
  have stepped := Pool.stepped_of_step taken
  have assumed : link.pool.Assumed (.readerFrame conn body (some position)) :=
    ⟨timely.1, timely.2 position completes⟩
  refine ⟨linked.owning.step stepped assumed, ?_, ?_⟩
  · intro other late
    exact received.unborn (Nat.le_trans stepped.nextConn_le late)
  · intro other
    by_cases same : other = conn
    · subst same
      apply (received.fits other).record _ stepped.sent_answered
      · intro stillRunning
        exact (received.fits other).aligned
          ((stepped.continues (linked.born running)).running stillRunning)
      · simpa [Link.setInlet] using read
    · apply received.fits_step stepped
      rintro _ _ ⟨⟩
      exact same rfl

theorem arrive {conn : ConnId} (timely : link.Timely (.arrive conn))
    (arrived : link.arrive conn = some next) : next.Linked := by
  simp only [Link.arrive] at arrived
  split at arrived
  · rename_i inlet running advanced
    have fits := (linked.fits conn).advance advanced
    split at arrived
    · rename_i body extracted
      exact linked.extract timely running advanced extracted arrived
    · rename_i stopped
      have aligned := ((linked.fits conn).aligned running).advance advanced
      exact absurd stopped (Inlet.not_stopped fits aligned)
    · cases arrived
      exact linked.setInlet (linked.born running) fits
  · cases arrived

theorem expire {conn : ConnId} (timely : link.Timely (.expire conn))
    (spared : link.SparesLengths (.expire conn))
    (expired : link.expire conn = some next) : next.Linked := by
  simp only [Link.expire] at expired
  split at expired
  · obtain ⟨pool, taken, rfl⟩ := Option.map_eq_some_iff.mp expired
    replace taken : link.pool.step (.readerIdle conn) = some pool := taken
    have acted : link.act (.readerIdle conn) =
        some { link with pool := pool } := by
      rw [Link.act, taken]
      rfl
    have idled : Link.Linked { link with pool := pool } := by
      apply linked.act acted ⟨timely.1, trivial⟩
      rintro _ _ _ ⟨⟩
    obtain ⟨running, goesOn⟩ := Pool.readerIdle_eq taken
    apply idled.setInlet
    · exact Nat.lt_of_lt_of_le (linked.born running)
        (Pool.stepped_of_step taken).nextConn_le
    · apply (idled.fits conn).setInbound
      · exact Nat.le_of_eq (congrArg _ (Reader.delivered_expire _ _).symm)
      · intro stillRunning
        rw [goesOn stillRunning, Bool.not_false,
          Inlet.expire_of_aligned (linked.fits conn)
            ((linked.fits conn).aligned running) spared]
        exact (linked.fits conn).aligned running
  · cases expired

theorem step (stepped : link.step event = some next)
    (timely : link.Timely event) (spared : link.SparesLengths event) :
    next.Linked := by
  cases event with
  | pool event =>
      simp only [Link.step] at stepped
      split at stepped
      · cases stepped
      · rename_i notReading
        cases event with
        | readerIdle | readerStop | readerFrame => exact absurd rfl notReading
        | _ =>
            apply linked.act stepped ⟨timely.1, trivial⟩
            rintro _ _ _ ⟨⟩
  | answer conn position body => exact linked.answer stepped
  | arrive conn => exact linked.arrive timely stepped
  | expire conn => exact linked.expire timely spared stepped
  | close conn =>
      apply linked.act stepped ⟨timely.1, trivial⟩
      rintro _ _ _ ⟨⟩

end Linked

/-- A byte on the stream of a connection can always be taken. -/
theorem Linked.arrive_isSome (linked : link.Linked) {conn : ConnId}
    (running : (link.pool.conn conn).reader = .running)
    (more : (link.inlet conn).inbound.arrived <
      (link.inlet conn).stream.length) :
    (link.arrive conn).isSome = true := by
  have fits := linked.fits conn
  obtain ⟨inlet, advanced⟩ : ∃ inlet,
      (link.inlet conn).advance = some inlet := by
    rw [Inlet.advance, List.getElem?_eq_getElem more]
    exact ⟨_, rfl⟩
  simp only [Link.arrive, running, advanced]
  split
  · rename_i body extracted
    obtain ⟨position, found, _⟩ :=
      fits.extracts (fits.aligned running) advanced extracted
    have isAnswer := List.mem_of_getElem? found
    obtain ⟨sent, isSent, identified⟩ := fits.asked isAnswer
    have bounded := (fits.sendable body (List.mem_map_of_mem isAnswer)).2
    simp [Link.act, Link.setInlet, Inlet.source_eq found, Pool.step,
      Pool.readerFrame, running, identified, isSent,
      fits.unanswered found isSent, maxDnsMessage, bounded]
  · simp [Link.act, Link.setInlet, Pool.step, Pool.readerStop, running]
  · rfl

/-! ## Runs that meet the assumptions -/

/-- A step of the link is a step of the pool, or the pool rests. -/
theorem step_pool (stepped : link.step event = some next) :
    next.pool = link.pool ∨
      ∃ poolEvent, link.pool.step poolEvent = some next.pool := by
  have acts : ∀ {other : Link} {poolEvent : Event},
      other.act poolEvent = some next → other.pool = link.pool →
        ∃ poolEvent, link.pool.step poolEvent = some next.pool := by
    intro other poolEvent acted same
    obtain ⟨pool, taken, rfl⟩ := Option.map_eq_some_iff.mp acted
    exact ⟨poolEvent, same ▸ taken⟩
  cases event with
  | pool event =>
      simp only [step] at stepped
      split at stepped
      · cases stepped
      · exact Or.inr (acts stepped rfl)
  | answer conn position body =>
      simp only [step, answer] at stepped
      split at stepped
      · split at stepped
        · cases stepped
          exact Or.inl rfl
        · cases stepped
      · cases stepped
  | arrive conn =>
      simp only [step, arrive] at stepped
      split at stepped
      · split at stepped
        · exact Or.inr (acts stepped rfl)
        · exact Or.inr (acts stepped rfl)
        · cases stepped
          exact Or.inl rfl
      · cases stepped
  | expire conn =>
      simp only [step, expire] at stepped
      split at stepped
      · exact Or.inr (acts stepped rfl)
      · cases stepped
  | close conn => exact Or.inr (acts stepped rfl)

theorem everyStep_timely {proxy : ProxyConfig} {idleTimeout : Nat}
    {events : List LinkEvent}
    (few : EveryStep step (fun link _ => link.pool.FewDraws)
      (new proxy idleTimeout) events) :
    EveryStep step Timely (new proxy idleTimeout) events := by
  have implies : ∀ (link : Link) (event : LinkEvent),
      link.pool.WellFormed → link.pool.FewDraws → link.Timely event := by
    intro link event wellFormed draws
    refine ⟨draws.timely wellFormed, ?_⟩
    cases event with
    | arrive conn =>
        intro position _ sent isSent
        have born := wellFormed.born_of_sent (List.mem_of_getElem? isSent)
        exact Nat.le_trans (draws conn born) (Nat.le_add_left _ _)
    | _ => trivial
  apply few.mono_of_invariant implies
  · intro link event next wellFormed stepped
    rcases step_pool stepped with same | ⟨poolEvent, taken⟩
    · rw [same]
      exact wellFormed
    · exact wellFormed.of_step taken
  · exact Pool.wellFormed_new proxy idleTimeout

instance (link : Link) : (event : LinkEvent) →
    Decidable (link.SparesLengths event)
  | .expire _ => inferInstanceAs (Decidable (¬_))
  | .pool _ | .answer _ _ _ | .arrive _ | .close _ => isTrue trivial

/-- In every interleaving in which the idle timeouts spare the lengths, the
maps hold exactly the queries in flight. -/
theorem always_inflightOwned {proxy : ProxyConfig} {idleTimeout : Nat}
    {events : List LinkEvent}
    (timely : EveryStep step Timely (new proxy idleTimeout) events)
    (spared : EveryStep step SparesLengths (new proxy idleTimeout) events) :
    Always step (fun link => link.pool.InflightOwned)
      (new proxy idleTimeout) events := by
  have linked : Always step Linked (new proxy idleTimeout) events := by
    apply EveryStep.always _ (linked_new proxy idleTimeout) (timely.and spared)
    intro link event next before stepped met
    exact before.step stepped met.1 met.2
  apply linked.mono
  intro link holds
  exact holds.owning.inflightOwned

end Link

/-- The first call writes its query, and the second one has just taken an
identifier on the same connection. -/
def sharedConnection : List LinkEvent :=
  let events : List Event :=
    [.call 0 exampleServer exampleQuery, .lockConns 0, .tryNext 0,
      .lockOpen 0, .lockConns 0, .tryNext 0, .checkCap 0, .loadProxy 0,
      .connect 0 true, .allocateFresh 0, .register 0, .insertSender 0,
      .lockWriter 0, .write 0 true, .touch 0,
      .call 1 exampleServer otherQuery, .lockConns 1, .tryNext 1]
  events.map .pool

/-- The second call writes its query too, and both are answered, with expiries
around the first of the answers. -/
def sparedAnswers : List LinkEvent :=
  sharedConnection ++
    [.pool (.insertSender 1), .pool (.lockWriter 1), .pool (.write 1 true),
      .pool (.touch 1), .expire 0, .answer 0 1 [0, 1, 77],
      .answer 0 0 [0, 0, 66]] ++
    List.replicate 5 (.arrive 0) ++ [.expire 0] ++
    List.replicate 5 (.arrive 0) ++ [.pool (.receive 1), .pool (.receive 0)]

theorem always_inflightOwned_spared :
    Always Link.step (fun link => link.pool.InflightOwned)
        (Link.new exampleProxy 60) sparedAnswers ∧
      (run Link.step (Link.new exampleProxy 60)
        (sparedAnswers.take 31)).map (fun link =>
          (link.pool.conn 0).inflight.keys) = some [0] ∧
      (run Link.step (Link.new exampleProxy 60) sparedAnswers).map
        (fun link => (link.pool.conn 0).inflight.keys) = some [] := by
  refine ⟨Link.always_inflightOwned ?_ ?_, ?_, ?_⟩
  · apply Link.everyStep_timely
    decide +kernel
  · decide +kernel
  · decide +kernel
  · decide +kernel

/-- The answer to the first query, with an expiry after its first byte.  The
reader takes the second length byte and the first byte of the body for a
length, and finds the identifier of the second query in what follows. -/
def splitAnswer : List LinkEvent :=
  sharedConnection ++
    [.answer 0 0 ([0, 0, 1] ++ List.replicate 254 0), .arrive 0, .expire 0] ++
    List.replicate 258 (.arrive 0)

theorem inflightOwned_fails_on_split_length :
    EveryStep Link.step Link.Timely (Link.new exampleProxy 60) splitAnswer ∧
      ∃ final, run Link.step (Link.new exampleProxy 60) splitAnswer =
          some final ∧
        (final.pool.conn 0).reader = .running ∧
        final.pool.Outstanding 0 1 1 ∧
        1 ∉ (final.pool.conn 0).inflight := by
  constructor
  · apply Link.everyStep_timely
    decide +kernel
  · have visible : (run Link.step (Link.new exampleProxy 60)
        splitAnswer).map (fun link =>
          ((link.pool.conn 0).reader, (link.pool.conn 0).inflight.keys,
            link.pool.task 1)) =
        some (.running, [0], .leased
          { server := exampleServer, query := otherQuery, since := 0 } false
          { conn := 0, draw := 1 } .acquired) := by
      decide +kernel
    obtain ⟨final, completed, seen⟩ := Option.map_eq_some_iff.mp visible
    simp only [Prod.mk.injEq] at seen
    obtain ⟨running, keys, leased⟩ := seen
    refine ⟨final, completed, running, ?_, ?_⟩
    · exact ⟨_, _, _, _, leased, rfl, rfl, Or.inr (Or.inl rfl)⟩
    · intro member
      rw [AList.mem_keys, keys] at member
      cases member with
      | tail _ later => cases later

end Cortado.Dns
