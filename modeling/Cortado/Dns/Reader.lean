import Cortado.Lib.Transition
import Cortado.Dns.Wire

/-!
# The reader task of a pooled connection

The task reads two length bytes under the idle timeout and then the body
without one.  When the timeout drops the first read, bytes which that read has
consumed are lost; the loop goes on if queries are pending.  The reader
therefore extracts the bodies that were sent exactly when no expiry falls
between the two bytes of a length.
-/

namespace Cortado.Dns

open Transition

/-- What the task is waiting for, with the bytes it already holds. -/
inductive ReadPhase where
  | length (got : List UInt8)
  | body (need : Nat) (got : List UInt8)
  | stopped
  deriving DecidableEq, Repr

structure Reader where
  phase : ReadPhase
  delivered : List Message
  deriving DecidableEq, Repr

inductive ReadEvent where
  | arrive (chunk : List UInt8)
  /-- The idle timeout, with or without queries pending. -/
  | expire (pending : Bool)
  /-- End of stream or a read error. -/
  | close
  deriving DecidableEq, Repr

namespace Reader

def start : Reader :=
  { phase := .length [], delivered := [] }

/-- The next byte goes to whichever read is under way. -/
def feedByte (reader : Reader) (byte : UInt8) : Reader :=
  match reader.phase with
  | .length [] => { reader with phase := .length [byte] }
  | .length (high :: _) =>
      let len := (fromBeBytes high byte).toNat
      if len < 2 then { reader with phase := .stopped }
      else { reader with phase := .body len [] }
  | .body need got =>
      let got := got ++ [byte]
      if got.length < need then { reader with phase := .body need got }
      else
        { phase := .length []
          delivered := reader.delivered ++ [got] }
  | .stopped => reader

def feed (reader : Reader) (chunk : List UInt8) : Reader :=
  chunk.foldl feedByte reader

/-- An expiry drops the read of the length bytes. -/
def expire (reader : Reader) (pending : Bool) : Reader :=
  match reader.phase with
  | .length _ =>
      if pending then { reader with phase := .length [] }
      else { reader with phase := .stopped }
  | _ => reader

end Reader

/-- The reader and the number of bytes that have arrived so far. -/
structure Inbound where
  reader : Reader
  arrived : Nat
  deriving DecidableEq, Repr

def Inbound.start : Inbound :=
  { reader := Reader.start, arrived := 0 }

def Inbound.step (inbound : Inbound) : ReadEvent → Option Inbound
  | .arrive chunk =>
      some
        { reader := inbound.reader.feed chunk
          arrived := inbound.arrived + chunk.length }
  | .expire pending =>
      some { inbound with reader := inbound.reader.expire pending }
  | .close =>
      some { inbound with reader := { inbound.reader with phase := .stopped } }

/-- The bytes that arrive during a run. -/
def arrivals (events : List ReadEvent) : List UInt8 :=
  events.flatMap fun
    | .arrive chunk => chunk
    | _ => []

/-- The connection stays open, and expiries come while queries are pending. -/
def Pending : ReadEvent → Prop
  | .arrive _ => True
  | .expire pending => pending = true
  | .close => False

/-- A body that the length bytes can announce and the reader accepts. -/
def Sendable (body : Message) : Prop :=
  2 ≤ body.length ∧ body.length ≤ 65535

/-- A position of the stream lies between the two length bytes of a body. -/
def splitsLength : List Message → Nat → Prop
  | [], _ => False
  | body :: bodies, position =>
      position = 1 ∨
        (2 + body.length ≤ position ∧
          splitsLength bodies (position - (2 + body.length)))

instance : DecidablePred Sendable :=
  fun _ => inferInstanceAs (Decidable (_ ∧ _))

instance decidableSplitsLength : ∀ bodies position,
    Decidable (splitsLength bodies position)
  | [], _ => isFalse id
  | body :: bodies, position =>
      have := decidableSplitsLength bodies (position - (2 + body.length))
      inferInstanceAs (Decidable (_ ∨ _ ∧ _))

/-! ## Reading without expiries -/

namespace Reader

theorem feed_append (reader : Reader) (first second : List UInt8) :
    reader.feed (first ++ second) = (reader.feed first).feed second :=
  List.foldl_append

theorem feed_body_partial {need : Nat} {delivered : List Message} :
    ∀ {part got : List UInt8}, (got ++ part).length < need →
      feed { phase := .body need got, delivered := delivered } part =
        { phase := .body need (got ++ part), delivered := delivered } := by
  intro part
  induction part with
  | nil =>
      intro got _short
      simp [feed]
  | cons byte part induction =>
      intro got short
      have regroup : got ++ byte :: part = (got ++ [byte]) ++ part := by simp
      rw [regroup] at short ⊢
      have shorter : (got ++ [byte]).length < need := by
        simp only [List.length_append] at short ⊢
        omega
      rw [← induction short]
      change feed (feedByte _ byte) part = _
      simp only [feedByte, if_pos shorter]

theorem feed_body_full {need : Nat} {delivered : List Message} :
    ∀ {part got : List UInt8}, part ≠ [] → (got ++ part).length = need →
      feed { phase := .body need got, delivered := delivered } part =
        { phase := .length [], delivered := delivered ++ [got ++ part] } := by
  intro part
  induction part with
  | nil =>
      intro got nonempty
      exact absurd rfl nonempty
  | cons byte part induction =>
      intro got _nonempty full
      have regroup : got ++ byte :: part = (got ++ [byte]) ++ part := by simp
      rw [regroup] at full ⊢
      change feed (feedByte _ byte) part = _
      cases part with
      | nil =>
          have complete : ¬(got ++ [byte]).length < need := by
            simp only [List.append_nil] at full
            omega
          simp only [feedByte, if_neg complete, List.append_nil]
          rfl
      | cons next part =>
          have shorter : (got ++ [byte]).length < need := by
            simp only [List.length_append, List.length_cons] at full ⊢
            omega
          simp only [feedByte, if_pos shorter]
          exact induction (by simp) full

/-- The two length bytes of an acceptable body lead to the body. -/
theorem feed_length {body : Message} (sendable : Sendable body)
    (delivered : List Message) :
    feed { phase := .length [], delivered := delivered }
        (toBeBytes (UInt16.ofNat body.length)) =
      { phase := .body body.length [], delivered := delivered } := by
  obtain ⟨atLeast, atMost⟩ := sendable
  have small : body.length < 65536 := by omega
  have announced : (UInt16.ofNat body.length).toNat = body.length := by
    simp only [UInt16.toNat_ofNat']
    omega
  have decoded := fromBeBytes_of_toNat body.length small
  have accepted : ¬body.length < 2 := by omega
  simp only [feed, toBeBytes, announced, List.foldl_cons, List.foldl_nil,
    feedByte, decoded, if_neg accepted]

theorem feed_encode {body : Message} (sendable : Sendable body)
    (delivered : List Message) :
    feed { phase := .length [], delivered := delivered } (encode body) =
      { phase := .length [], delivered := delivered ++ [body] } := by
  have nonempty : body ≠ [] := by
    intro empty
    have atLeast := sendable.1
    simp [empty] at atLeast
  rw [encode, feed_append, feed_length sendable]
  exact feed_body_full nonempty rfl

theorem feed_encodes {bodies : List Message}
    (sendable : ∀ body ∈ bodies, Sendable body) :
    ∀ delivered, feed { phase := .length [], delivered := delivered }
        (bodies.flatMap encode) =
      { phase := .length [], delivered := delivered ++ bodies } := by
  induction bodies with
  | nil =>
      intro delivered
      simp [feed]
  | cons body bodies induction =>
      intro delivered
      have bodySendable := sendable body List.mem_cons_self
      have restSendable : ∀ other ∈ bodies, Sendable other := by
        intro other member
        exact sendable other (List.mem_cons_of_mem _ member)
      rw [List.flatMap_cons, feed_append, feed_encode bodySendable,
        induction restSendable]
      simp

/-- Bodies that were extracted stay extracted. -/
theorem delivered_feedByte (reader : Reader) (byte : UInt8) :
    reader.delivered <+: (reader.feedByte byte).delivered := by
  unfold feedByte
  split
  · exact List.prefix_rfl
  · dsimp only
    split <;> exact List.prefix_rfl
  · dsimp only
    split
    · exact List.prefix_rfl
    · exact List.prefix_append _ _
  · exact List.prefix_rfl

theorem delivered_feed (reader : Reader) (chunk : List UInt8) :
    reader.delivered <+: (reader.feed chunk).delivered := by
  induction chunk generalizing reader with
  | nil => exact List.prefix_rfl
  | cons byte chunk induction =>
      exact (reader.delivered_feedByte byte).trans
        (induction (reader.feedByte byte))

theorem delivered_expire (reader : Reader) (pending : Bool) :
    (reader.expire pending).delivered = reader.delivered := by
  unfold expire
  split
  · split <;> rfl
  · rfl

/-- Part of the stream leads to the first of the bodies. -/
theorem delivered_of_seen {bodies : List Message}
    (sendable : ∀ body ∈ bodies, Sendable body) {seen rest : List UInt8}
    (stream : seen ++ rest = bodies.flatMap encode) :
    (start.feed seen).delivered <+: bodies := by
  have extended := (start.feed seen).delivered_feed rest
  rw [← feed_append, stream, start, feed_encodes sendable] at extended
  exact extended

/-- The reader holds a single length byte, or else nothing or part of a
body. -/
def HoldsLengthByte (split : Prop) (phase : ReadPhase) : Prop :=
  (split ∧ ∃ byte, phase = .length [byte]) ∨
    (¬split ∧ (phase = .length [] ∨ ∃ need got, phase = .body need got))

/-- What the reader holds after a proper part of one encoded body. -/
theorem phase_of_short {body : Message} (sendable : Sendable body)
    {seen later : List UInt8} (stream : seen ++ later = encode body)
    (incomplete : later ≠ []) (delivered : List Message) :
    HoldsLengthByte (seen.length = 1)
      (feed { phase := .length [], delivered := delivered } seen).phase := by
  cases seen with
  | nil =>
      right
      exact ⟨by simp, Or.inl rfl⟩
  | cons high seen =>
      cases seen with
      | nil =>
          left
          exact ⟨rfl, high, rfl⟩
      | cons low part =>
          right
          refine ⟨by simp, Or.inr ⟨body.length, part, ?_⟩⟩
          have heads : [high, low] = toBeBytes (UInt16.ofNat body.length) ∧
              part ++ later = body := by
            simp only [encode, toBeBytes, List.cons_append, List.nil_append,
              List.cons.injEq] at stream ⊢
            exact ⟨⟨stream.1, stream.2.1, trivial⟩, stream.2.2⟩
          have short : ([] ++ part).length < body.length := by
            have positive := List.length_pos_of_ne_nil incomplete
            rw [← heads.2]
            simp only [List.nil_append, List.length_append]
            omega
          have regroup : high :: low :: part = [high, low] ++ part := rfl
          rw [regroup, feed_append, heads.1, feed_length sendable,
            feed_body_partial short]
          rfl

theorem splitsLength_beyond (body : Message) (bodies : List Message)
    (position : Nat) :
    splitsLength (body :: bodies) (2 + body.length + position) ↔
      splitsLength bodies position := by
  have shift : 2 + body.length + position - (2 + body.length) = position := by
    omega
  simp only [splitsLength, shift]
  constructor
  · intro splits
    rcases splits with first | later
    · omega
    · exact later.2
  · intro splits
    exact Or.inr ⟨by omega, splits⟩

theorem splitsLength_within {body : Message} {position : Nat}
    (within : position < 2 + body.length) (bodies : List Message) :
    splitsLength (body :: bodies) position ↔ position = 1 := by
  simp only [splitsLength]
  constructor
  · intro splits
    rcases splits with first | later
    · exact first
    · omega
  · intro first
    exact Or.inl first

/-- What the reader holds after part of the stream: a single length byte
exactly at the positions which split a length, otherwise none or part of a
body. -/
theorem phase_of_seen {bodies : List Message}
    (sendable : ∀ body ∈ bodies, Sendable body) :
    ∀ {seen rest : List UInt8}, seen ++ rest = bodies.flatMap encode →
      ∀ delivered,
        HoldsLengthByte (splitsLength bodies seen.length)
          (feed { phase := .length [], delivered := delivered }
            seen).phase := by
  induction bodies with
  | nil =>
      intro seen rest stream delivered
      have empty : seen = [] := by
        simp only [List.flatMap_nil, List.append_eq_nil_iff] at stream
        exact stream.1
      subst empty
      right
      exact ⟨fun splits => splits, Or.inl rfl⟩
  | cons body bodies induction =>
      intro seen rest stream delivered
      have bodySendable := sendable body List.mem_cons_self
      have restSendable : ∀ other ∈ bodies, Sendable other := by
        intro other member
        exact sendable other (List.mem_cons_of_mem _ member)
      have beyond : ∀ further, further ++ rest = bodies.flatMap encode →
          seen = encode body ++ further →
          HoldsLengthByte (splitsLength (body :: bodies) seen.length)
            (feed { phase := .length [], delivered := delivered }
              seen).phase := by
        intro further restEq seenEq
        have continued := induction restSendable restEq (delivered ++ [body])
        rw [← feed_encode bodySendable, ← feed_append, ← seenEq] at continued
        rw [← splitsLength_beyond body bodies further.length,
          ← length_encode, ← List.length_append, ← seenEq] at continued
        exact continued
      rw [List.flatMap_cons] at stream
      rcases List.append_eq_append_iff.mp stream with
        ⟨later, bodyEq, restEq⟩ | ⟨further, seenEq, restEq⟩
      · cases later with
        | nil =>
            apply beyond []
            · simpa using restEq
            · simpa using bodyEq.symm
        | cons byte later =>
            have within : seen.length < 2 + body.length := by
              rw [← length_encode, bodyEq]
              simp
            rw [splitsLength_within within]
            exact phase_of_short bodySendable bodyEq.symm (by simp) delivered
      · exact beyond further restEq.symm seenEq

/-! ## Bytes the reader can account for -/

def held : ReadPhase → Nat
  | .length got => got.length
  | .body _ got => 2 + got.length
  | .stopped => 0

/-- Bytes that went into delivered bodies or are still held. -/
def accounted (reader : Reader) : Nat :=
  (reader.delivered.map fun body => 2 + body.length).sum + held reader.phase

theorem length_encodes (bodies : List Message) :
    (bodies.flatMap encode).length =
      (bodies.map fun body => 2 + body.length).sum := by
  rw [List.length_flatMap]
  simp only [length_encode]

theorem accounted_feedByte_le (reader : Reader) (byte : UInt8) :
    (reader.feedByte byte).accounted ≤ reader.accounted + 1 := by
  obtain ⟨phase, delivered⟩ := reader
  cases phase with
  | length got =>
      cases got with
      | nil => simp [feedByte, accounted, held]
      | cons high got =>
          simp only [feedByte]
          split
          · simp only [accounted, held]
            omega
          · simp only [accounted, held, List.length_cons, List.length_nil]
            omega
  | body need got =>
      simp only [feedByte]
      split
      · simp only [accounted, held, List.length_append, List.length_cons,
          List.length_nil]
        omega
      · simp only [accounted, held, List.map_append, List.sum_append,
          List.map_cons, List.map_nil, List.sum_cons, List.sum_nil,
          List.length_append, List.length_cons, List.length_nil]
        omega
  | stopped => simp [feedByte, accounted]

theorem accounted_feed_le (reader : Reader) (chunk : List UInt8) :
    (reader.feed chunk).accounted ≤ reader.accounted + chunk.length := by
  induction chunk generalizing reader with
  | nil => simp [feed]
  | cons byte chunk induction =>
      have first := accounted_feedByte_le reader byte
      have rest := induction (reader.feedByte byte)
      simp only [List.length_cons]
      change ((reader.feedByte byte).feed chunk).accounted ≤ _
      omega

theorem accounted_expire_le (reader : Reader) :
    (reader.expire true).accounted ≤ reader.accounted := by
  obtain ⟨phase, delivered⟩ := reader
  cases phase <;> simp [expire, accounted, held]

end Reader

/-- Some byte that arrived is neither delivered nor held. -/
def Inbound.Lost (inbound : Inbound) : Prop :=
  inbound.reader.accounted < inbound.arrived

/-- A byte once lost stays lost. -/
theorem Inbound.lost_step {inbound next : Inbound} {event : ReadEvent}
    (lost : inbound.Lost) (pending : Pending event)
    (stepped : inbound.step event = some next) : next.Lost := by
  cases event with
  | arrive chunk =>
      cases stepped
      have bound := inbound.reader.accounted_feed_le chunk
      unfold Inbound.Lost at lost ⊢
      simp only
      omega
  | expire isPending =>
      have isPending : isPending = true := pending
      subst isPending
      cases stepped
      exact Nat.lt_of_le_of_lt inbound.reader.accounted_expire_le lost
  | close => exact absurd pending id

theorem Inbound.lost_run {inbound final : Inbound} {events : List ReadEvent}
    (lost : inbound.Lost) (pending : ∀ event ∈ events, Pending event)
    (completed : run Inbound.step inbound events = some final) :
    final.Lost := by
  induction events generalizing inbound with
  | nil =>
      cases completed
      exact lost
  | cons event events induction =>
      obtain ⟨next, stepped, rest⟩ := Option.bind_eq_some_iff.mp completed
      have headPending := pending event List.mem_cons_self
      apply induction (Inbound.lost_step lost headPending stepped) _ rest
      intro other member
      exact pending other (List.mem_cons_of_mem _ member)

theorem Inbound.arrived_run {inbound final : Inbound}
    {events : List ReadEvent}
    (completed : run Inbound.step inbound events = some final) :
    final.arrived = inbound.arrived + (arrivals events).length := by
  induction events generalizing inbound with
  | nil =>
      cases completed
      simp [arrivals]
  | cons event events induction =>
      obtain ⟨next, stepped, rest⟩ := Option.bind_eq_some_iff.mp completed
      have later := induction rest
      have flat : arrivals (event :: events) =
          arrivals [event] ++ arrivals events := by
        simp [arrivals]
      rw [later, flat, List.length_append]
      cases event <;> cases stepped <;> simp [arrivals]
      omega

/-! ## Which expiries the framing survives -/

/-- An expiry while a length byte is held loses that byte. -/
theorem Reader.accounted_expire_of_byte {reader : Reader} {byte : UInt8}
    (holds : reader.phase = .length [byte]) :
    (reader.expire true).accounted < reader.accounted := by
  simp [Reader.expire, Reader.accounted, Reader.held, holds]

/-- An expiry that finds half of a length loses it. -/
theorem Inbound.lost_of_byte {seen : List UInt8} {byte : UInt8}
    (holds : (Reader.start.feed seen).phase = .length [byte]) :
    Inbound.Lost
      { reader := (Reader.start.feed seen).expire true
        arrived := seen.length } := by
  have less := Reader.accounted_expire_of_byte holds
  have bound := Reader.accounted_feed_le Reader.start seen
  have none : Reader.start.accounted = 0 := rfl
  unfold Inbound.Lost
  simp only
  omega

theorem Reader.expire_of_none {reader : Reader}
    (holdsNone : reader.phase = .length [] ∨
      ∃ need got, reader.phase = .body need got) :
    reader.expire true = reader := by
  obtain ⟨phase, delivered⟩ := reader
  rcases holdsNone with empty | ⟨need, got, body⟩
  · simp only at empty
    subst empty
    rfl
  · simp only at body
    subst body
    rfl

/-- A reader that lost a byte of the stream has not delivered all of it. -/
theorem not_delivered_of_lost {bodies : List Message} {inbound : Inbound}
    {events : List ReadEvent} (lost : inbound.Lost)
    (pending : ∀ event ∈ events, Pending event)
    (stream : inbound.arrived + (arrivals events).length =
      (bodies.flatMap encode).length) :
    (run Inbound.step inbound events).map (·.reader.delivered) ≠
      some bodies := by
  intro delivered
  obtain ⟨final, completed, all⟩ := Option.map_eq_some_iff.mp delivered
  have finalLost : final.reader.accounted < final.arrived :=
    Inbound.lost_run lost pending completed
  rw [Inbound.arrived_run completed, stream, Reader.length_encodes] at finalLost
  simp only [Reader.accounted, all] at finalLost
  omega

/-- No expiry may fall between the two bytes of a length. -/
def SparesLengths (bodies : List Message) (inbound : Inbound)
    (event : ReadEvent) : Prop :=
  event = .expire true → ¬splitsLength bodies inbound.arrived

instance (bodies : List Message) (inbound : Inbound) (event : ReadEvent) :
    Decidable (SparesLengths bodies inbound event) :=
  inferInstanceAs (Decidable (_ → ¬_))

/-- From a reader in step with the stream, the rest is extracted exactly if
the remaining expiries spare the lengths. -/
theorem delivered_iff_of_inStep {bodies : List Message}
    (sendable : ∀ body ∈ bodies, Sendable body) {events : List ReadEvent}
    (pending : ∀ event ∈ events, Pending event) :
    ∀ seen : List UInt8, seen ++ arrivals events = bodies.flatMap encode →
      let inbound : Inbound :=
        { reader := Reader.start.feed seen, arrived := seen.length }
      (run Inbound.step inbound events).map (·.reader.delivered) =
          some bodies ↔
        EveryStep Inbound.step (SparesLengths bodies) inbound events := by
  induction events with
  | nil =>
      intro seen stream inbound
      have complete : seen = bodies.flatMap encode := by
        simpa [arrivals] using stream
      have delivered : inbound.reader.delivered = bodies := by
        simp only [inbound, complete, Reader.start,
          Reader.feed_encodes sendable, List.nil_append]
      exact iff_of_true (congrArg some delivered) trivial
  | cons event events induction =>
      intro seen stream inbound
      have restPending : ∀ other ∈ events, Pending other := by
        intro other member
        exact pending other (List.mem_cons_of_mem _ member)
      cases event with
      | arrive chunk =>
          have laterStream :
              (seen ++ chunk) ++ arrivals events = bodies.flatMap encode := by
            rw [← stream]
            simp [arrivals]
          have later := induction restPending (seen ++ chunk) laterStream
          simp only [Reader.feed_append, List.length_append] at later
          have stepped : inbound.step (.arrive chunk) = some
              { reader := (Reader.start.feed seen).feed chunk
                arrived := seen.length + chunk.length } := rfl
          simp only [run, EveryStep, stepped, Option.bind_some,
            Option.some.injEq, forall_eq']
          rw [later]
          constructor
          · intro every
            refine ⟨?_, every⟩
            intro isExpire
            cases isExpire
          · intro every
            exact every.2
      | expire isPending =>
          have isPending : isPending = true :=
            pending _ List.mem_cons_self
          subst isPending
          have laterStream : seen ++ arrivals events =
              bodies.flatMap encode := stream
          have stepped : inbound.step (.expire true) = some
              { inbound with reader := inbound.reader.expire true } := rfl
          simp only [run, EveryStep, stepped, Option.bind_some,
            Option.some.injEq, forall_eq']
          rcases Reader.phase_of_seen sendable laterStream [] with
            ⟨splits, byte, holds⟩ | ⟨spares, holdsNone⟩
          · have lost : Inbound.Lost
                { inbound with reader := inbound.reader.expire true } :=
              Inbound.lost_of_byte holds
            have lengths : seen.length + (arrivals events).length =
                (bodies.flatMap encode).length := by
              rw [← laterStream, List.length_append]
            apply iff_of_false
            · exact not_delivered_of_lost lost restPending lengths
            · intro every
              exact every.1 rfl splits
          · have same : inbound.reader.expire true = inbound.reader :=
              Reader.expire_of_none holdsNone
            rw [same]
            have later := induction restPending seen laterStream
            constructor
            · intro delivered
              exact ⟨fun _ => spares, later.mp delivered⟩
            · intro every
              exact later.mpr every.2
      | close => exact absurd (pending _ List.mem_cons_self) id

/-- However the stream is cut into chunks, the bodies are extracted exactly
if no expiry falls between the two bytes of a length. -/
theorem delivered_iff {bodies : List Message}
    (sendable : ∀ body ∈ bodies, Sendable body) {events : List ReadEvent}
    (pending : ∀ event ∈ events, Pending event)
    (stream : arrivals events = bodies.flatMap encode) :
    (run Inbound.step Inbound.start events).map (·.reader.delivered) =
        some bodies ↔
      EveryStep Inbound.step (SparesLengths bodies) Inbound.start events :=
  delivered_iff_of_inStep sendable pending [] stream

/-- Two bodies in four chunks, with expiries before the first one, inside it
and inside the second one. -/
theorem delivered_iff_chunks :
    let bodies : List Message := [[7, 9, 4], [1, 2]]
    let events : List ReadEvent :=
      [.expire true, .arrive [0, 3, 7], .expire true, .arrive [9, 4, 0],
        .arrive [2, 1], .expire true, .arrive [2]]
    EveryStep Inbound.step (SparesLengths bodies) Inbound.start events ∧
      (run Inbound.step Inbound.start events).map (·.reader.delivered) =
        some bodies := by
  intro bodies events
  have spares : EveryStep Inbound.step (SparesLengths bodies) Inbound.start
      events := by
    decide
  refine ⟨spares, (delivered_iff ?_ ?_ ?_).mpr spares⟩
  · decide
  · simp [events, Pending]
  · decide

/-- One body, with an expiry after its first length byte: the reader
takes the second byte for the first of a length and waits for a body that was
never sent. -/
theorem delivered_fails_on_split_length :
    let bodies : List Message := [[7, 9]]
    let events : List ReadEvent :=
      [.arrive [0], .expire true, .arrive [2, 7, 9]]
    (∀ body ∈ bodies, Sendable body) ∧
      (∀ event ∈ events, Pending event) ∧
      arrivals events = bodies.flatMap encode ∧
      (run Inbound.step Inbound.start events).map (·.reader.delivered) ≠
        some bodies := by
  refine ⟨by decide, by simp [Pending], by decide, by decide⟩

end Cortado.Dns
