import Cortado.Lib.Channel
import Cortado.Lib.Pieces
import Cortado.Lib.Transition

/-!
# The uplink of the Windows device

A thread reads packets from the Wintun session and puts them into a channel.
`poll_read` copies as much of a packet as the buffer takes and keeps the rest
for the next call, while the uplink sends what one read returned as one
packet.  A packet that is longer than the buffer therefore arrives in the
stack in pieces.
-/

namespace Cortado.Windows

open Pieces Transition

def channelDepth : Nat := 4096

/-- What `receive_blocking` returns. -/
structure Packet where
  bytes : List UInt8
  nonempty : bytes ≠ []
  short : bytes.length ≤ 65535
  deriving DecidableEq

/-- A packet of which only the bytes before the offset were read. -/
structure Remainder where
  packet : Packet
  offset : Nat
  unread : offset < packet.bytes.length
  deriving DecidableEq

structure WindowsTun where
  incoming : Channel Packet channelDepth
  pending : Option Remainder

/-- `Poll<io::Result<()>>` with the bytes that were put into the buffer. -/
inductive Poll where
  | ready (bytes : List UInt8)
  | pending
  deriving DecidableEq, Repr

/-- The packet with the bytes before the offset read, if some are left. -/
def Packet.after (packet : Packet) (offset : Nat) : Option Remainder :=
  if unread : offset < packet.bytes.length then
    some { packet := packet, offset := offset, unread := unread }
  else none

/-- `poll_read` into a buffer with room for `remaining` bytes.  The channel is
closed once the reader thread has hung up. -/
def WindowsTun.pollRead (tun : WindowsTun) (hungUp : Bool)
    (remaining : Nat) : Poll × WindowsTun :=
  match tun.pending with
  | some { packet, offset, .. } =>
      let unread := packet.bytes.drop offset
      let take := min unread.length remaining
      (.ready (unread.take take),
        { tun with pending := packet.after (offset + take) })
  | none =>
      match tun.incoming.recv? with
      | some (packet, incoming) =>
          let take := min packet.bytes.length remaining
          (.ready (packet.bytes.take take),
            { incoming := incoming, pending := packet.after take })
      | none => if hungUp then (.ready [], tun) else (.pending, tun)

/-- The loop of the uplink: it ends at the end of the stream or when the
stack refuses a packet. -/
inductive UplinkState where
  | running
  | ended
  | refused
  deriving DecidableEq, Repr

/-- The reader thread, the device and the uplink.  `received` and `items`
record the packets of the session and what the stack was given. -/
structure Bridge where
  held : Option Packet
  hungUp : Bool
  tun : WindowsTun
  uplink : UplinkState
  received : List Packet
  items : List (List UInt8)

inductive Event where
  | receive (packet : Packet)
  | handOver
  | hangUp
  | read (accepted : Bool)

namespace Bridge

def new : Bridge :=
  { held := none
    hungUp := false
    tun := { incoming := .empty, pending := none }
    uplink := .running
    received := []
    items := [] }

/-- `receive_blocking` returns a packet. -/
def receive (bridge : Bridge) (packet : Packet) : Option Bridge :=
  match bridge.held, bridge.hungUp with
  | none, false =>
      some
        { bridge with
          held := some packet
          received := bridge.received ++ [packet] }
  | _, _ => none

/-- `blocking_send` finds room in the channel. -/
def handOver (bridge : Bridge) : Option Bridge :=
  match bridge.held with
  | some packet =>
      (bridge.tun.incoming.send? packet).map fun incoming =>
        { bridge with
          held := none
          tun := { bridge.tun with incoming := incoming } }
  | none => none

/-- `receive_blocking` fails, and the thread drops its sender. -/
def hangUp (bridge : Bridge) : Option Bridge :=
  match bridge.held, bridge.hungUp with
  | none, false => some { bridge with hungUp := true }
  | _, _ => none

/-- One turn of the loop of the uplink with a buffer of `mtu` bytes. -/
def read (mtu : Nat) (bridge : Bridge) (accepted : Bool) : Option Bridge :=
  match bridge.uplink with
  | .running =>
      match bridge.tun.pollRead bridge.hungUp mtu with
      | (.pending, _) => none
      | (.ready [], tun) => some { bridge with tun := tun, uplink := .ended }
      | (.ready bytes, tun) =>
          if accepted then
            some { bridge with tun := tun, items := bridge.items ++ [bytes] }
          else some { bridge with tun := tun, uplink := .refused }
  | _ => none

def step (mtu : Nat) (bridge : Bridge) : Event → Option Bridge
  | .receive packet => bridge.receive packet
  | .handOver => bridge.handOver
  | .hangUp => bridge.hangUp
  | .read accepted => bridge.read mtu accepted

/-- Nothing is on its way, and the stack did not refuse anything. -/
structure Drained (bridge : Bridge) : Prop where
  held : bridge.held = none
  queue : bridge.tun.incoming.queue = []
  pending : bridge.tun.pending = none
  accepted : bridge.uplink ≠ .refused

instance (bridge : Bridge) : Decidable bridge.Drained :=
  decidable_of_iff
    (bridge.held = none ∧ bridge.tun.incoming.queue = [] ∧
      bridge.tun.pending = none ∧ bridge.uplink ≠ .refused)
    ⟨fun ⟨held, queue, pending, accepted⟩ => ⟨held, queue, pending, accepted⟩,
      fun ⟨held, queue, pending, accepted⟩ => ⟨held, queue, pending, accepted⟩⟩

end Bridge

/-! ## What a read returns -/

variable {size : Nat}

def Packet.pieces (size : Nat) (packet : Packet) : List (List UInt8) :=
  Pieces.pieces size packet.bytes

/-- The bytes that were not read yet. -/
def Remainder.bytes (rest : Remainder) : List UInt8 :=
  rest.packet.bytes.drop rest.offset

theorem Remainder.bytes_ne_nil (rest : Remainder) : rest.bytes ≠ [] := by
  apply List.ne_nil_of_length_pos
  rw [bytes, List.length_drop]
  have unread := rest.unread
  omega

/-- The reads that a remainder still takes. -/
def restPieces (size : Nat) : Option Remainder → List (List UInt8)
  | some rest => pieces size rest.bytes
  | none => []

/-- The reads that the device still takes. -/
def WindowsTun.outstanding (size : Nat) (tun : WindowsTun) :
    List (List UInt8) :=
  restPieces size tun.pending ++ tun.incoming.queue.flatMap (Packet.pieces size)

/-- A read takes the first piece of what is left of a packet. -/
theorem pieces_unread (positive : 0 < size) (packet : Packet) {offset : Nat}
    {unread : List UInt8} (suffix : packet.bytes.drop offset = unread)
    (within : offset ≤ packet.bytes.length) :
    pieces size unread = unread.take (min unread.length size) ::
      restPieces size (packet.after (offset + min unread.length size)) := by
  have length : unread.length = packet.bytes.length - offset := by
    rw [← suffix, List.length_drop]
  by_cases fits : unread.length ≤ size
  · have exhausted : packet.after (offset + unread.length) = none := by
      rw [Packet.after, dif_neg]
      omega
    rw [pieces_of_le fits, Nat.min_eq_left fits, List.take_length, exhausted]
    rfl
  · have long : size < unread.length := Nat.lt_of_not_le fits
    have left : offset + size < packet.bytes.length := by omega
    rw [pieces_of_gt positive long, Nat.min_eq_right (Nat.le_of_lt long),
      Packet.after, dif_pos left]
    simp only [restPieces, Remainder.bytes, ← suffix, List.drop_drop]

theorem take_ne_nil (positive : 0 < size) {bytes : List UInt8}
    (nonempty : bytes ≠ []) : bytes.take (min bytes.length size) ≠ [] := by
  have some := List.length_pos_of_ne_nil nonempty
  apply List.ne_nil_of_length_pos
  rw [List.length_take]
  omega

/-- A read that is ready returns the next piece, or nothing at the end. -/
theorem WindowsTun.pollRead_ready (positive : 0 < size) {tun next : WindowsTun}
    {hungUp : Bool} {bytes : List UInt8}
    (polled : tun.pollRead hungUp size = (.ready bytes, next)) :
    (bytes = [] ∧ next = tun) ∨
      (bytes ≠ [] ∧
        tun.outstanding size = bytes :: next.outstanding size) := by
  unfold pollRead at polled
  split at polled
  · rename_i packet offset unread kept
    cases polled
    right
    constructor
    · exact take_ne_nil positive (Remainder.bytes_ne_nil ⟨packet, offset, unread⟩)
    · have cut := pieces_unread positive packet rfl (Nat.le_of_lt unread)
      simp only [outstanding, kept, restPieces, Remainder.bytes, cut,
        List.cons_append]
  · rename_i kept
    split at polled
    · rename_i packet incoming received
      cases polled
      right
      constructor
      · exact take_ne_nil positive packet.nonempty
      · have cut := pieces_unread positive packet List.drop_zero
          (Nat.zero_le _)
        rw [Nat.zero_add] at cut
        simp only [outstanding, kept, restPieces, Channel.queue_of_recv received,
          List.flatMap_cons, Packet.pieces, cut, List.cons_append,
          List.nil_append]
    · split at polled
      · cases polled
        exact Or.inl ⟨rfl, rfl⟩
      · cases polled

/-- A read is ready as long as something is outstanding. -/
theorem WindowsTun.pollRead_of_outstanding (positive : 0 < size)
    {tun : WindowsTun} (hungUp : Bool) (more : tun.outstanding size ≠ []) :
    ∃ bytes next, bytes ≠ [] ∧
      tun.pollRead hungUp size = (.ready bytes, next) := by
  unfold pollRead
  split
  · rename_i packet offset unread kept
    exact ⟨_, _, take_ne_nil positive
      (Remainder.bytes_ne_nil ⟨packet, offset, unread⟩), rfl⟩
  · rename_i kept
    split
    · rename_i packet incoming received
      exact ⟨_, _, take_ne_nil positive packet.nonempty, rfl⟩
    · rename_i nothing
      rw [outstanding, kept, Channel.queue_of_recv_none nothing] at more
      exact absurd rfl more

theorem WindowsTun.outstanding_eq_nil {tun : WindowsTun}
    (nothing : tun.outstanding size = []) :
    tun.pending = none ∧ tun.incoming.queue = [] := by
  obtain ⟨rest, queued⟩ := List.append_eq_nil_iff.mp nothing
  constructor
  · cases kept : tun.pending with
    | none => rfl
    | some remainder =>
        rw [kept] at rest
        exact absurd rest (pieces_ne_nil size _)
  · cases waiting : tun.incoming.queue with
    | nil => rfl
    | cons packet queue =>
        rw [waiting, List.flatMap_cons] at queued
        exact absurd (List.append_eq_nil_iff.mp queued).1 (pieces_ne_nil size _)

namespace Bridge

variable {bridge next : Bridge} {event : Event}

theorem read_cases (positive : 0 < size) {accepted : Bool}
    (stepped : bridge.read size accepted = some next) :
    bridge.uplink = .running ∧
      (next = { bridge with uplink := .ended } ∨
        ∃ bytes tun,
          bridge.tun.outstanding size = bytes :: tun.outstanding size ∧
          (next = { bridge with tun := tun, items := bridge.items ++ [bytes] } ∨
            next = { bridge with tun := tun, uplink := .refused })) := by
  unfold read at stepped
  split at stepped
  · rename_i running
    refine ⟨running, ?_⟩
    split at stepped
    · cases stepped
    · rename_i tun polled
      cases stepped
      rcases WindowsTun.pollRead_ready positive polled with ⟨_, rfl⟩ |
          ⟨nonempty, _⟩
      · exact Or.inl rfl
      · exact absurd rfl nonempty
    · rename_i bytes tun nonempty polled
      rcases WindowsTun.pollRead_ready positive polled with ⟨empty, _⟩ |
          ⟨_, taken⟩
      · exact absurd empty nonempty
      · refine Or.inr ⟨bytes, tun, taken, ?_⟩
        split at stepped
        · cases stepped
          exact Or.inl rfl
        · cases stepped
          exact Or.inr rfl
  · cases stepped

/-- The pieces of the packet that the reader thread holds. -/
def heldPieces (size : Nat) (bridge : Bridge) : List (List UInt8) :=
  bridge.held.toList.flatMap (Packet.pieces size)

/-- What was read and what is on its way are the pieces of the packets, in
their order; only a refused piece is missing. -/
def Conserved (size : Nat) (bridge : Bridge) : Prop :=
  ∃ lost, (bridge.uplink ≠ .refused → lost = []) ∧
    bridge.received.flatMap (Packet.pieces size) =
      bridge.items ++ (lost ++ (bridge.tun.outstanding size ++
        bridge.heldPieces size))

theorem conserved_new (size : Nat) : new.Conserved size :=
  ⟨[], fun _ => rfl, rfl⟩

theorem Conserved.step (positive : 0 < size) (conserved : bridge.Conserved size)
    (stepped : bridge.step size event = some next) : next.Conserved size := by
  obtain ⟨lost, kept, pieces⟩ := conserved
  cases event with
  | receive packet =>
      simp only [Bridge.step, receive] at stepped
      split at stepped
      · rename_i free _
        cases stepped
        refine ⟨lost, kept, ?_⟩
        simp only [heldPieces, free, Option.toList_none, List.flatMap_nil,
          List.append_nil] at pieces
        simp only [List.flatMap_append, pieces, heldPieces, Option.toList_some,
          List.append_assoc]
      · cases stepped
  | handOver =>
      simp only [Bridge.step, handOver] at stepped
      split at stepped
      · rename_i packet held
        obtain ⟨incoming, sent, rfl⟩ := Option.map_eq_some_iff.mp stepped
        refine ⟨lost, kept, ?_⟩
        simp only [heldPieces, held] at pieces
        simp only [pieces, heldPieces, WindowsTun.outstanding,
          Channel.queue_of_send sent, List.flatMap_append, List.append_assoc,
          Option.toList_none, Option.toList_some, List.flatMap_nil,
          List.append_nil]
      · cases stepped
  | hangUp =>
      simp only [Bridge.step, hangUp] at stepped
      split at stepped
      · cases stepped
        exact ⟨lost, kept, pieces⟩
      · cases stepped
  | read accepted =>
      obtain ⟨running, outcome⟩ := read_cases positive stepped
      have none : lost = [] := kept (by rw [running]; nofun)
      rw [none] at pieces
      rcases outcome with rfl | ⟨bytes, tun, taken, rfl | rfl⟩
      · exact ⟨[], fun _ => rfl, pieces⟩
      · refine ⟨[], fun _ => rfl, ?_⟩
        simp only [pieces, taken, heldPieces, List.append_assoc,
          List.cons_append, List.nil_append]
      · refine ⟨[bytes], fun accepting => absurd rfl accepting, ?_⟩
        simp only [pieces, taken, heldPieces, List.cons_append,
          List.nil_append]

/-- In every run the pieces are conserved. -/
theorem conserved_of_run (positive : 0 < size) {events : List Event}
    (completed : run (step size) new events = some bridge) :
    bridge.Conserved size := by
  have always : Always (Bridge.step size) (Conserved size) new events := by
    apply always_of_invariant
    · intro state event next conserved stepped
      exact conserved.step positive stepped
    · exact conserved_new size
  exact always.final completed

theorem Conserved.items_of_drained (conserved : bridge.Conserved size)
    (drained : bridge.Drained) :
    bridge.items = (bridge.received.map Packet.bytes).flatMap (pieces size) := by
  obtain ⟨lost, kept, pieces⟩ := conserved
  rw [List.flatMap_map]
  simp only [kept drained.accepted, WindowsTun.outstanding, drained.pending,
    restPieces, drained.queue, heldPieces, drained.held, Option.toList_none,
    List.flatMap_nil, List.append_nil] at pieces
  exact pieces.symm

theorem Conserved.items_initial (conserved : bridge.Conserved size) :
    bridge.items <+:
      (bridge.received.map Packet.bytes).flatMap (pieces size) := by
  obtain ⟨lost, _, pieces⟩ := conserved
  rw [List.flatMap_map]
  exact ⟨_, pieces.symm⟩

/-! ## Reading everything -/

theorem read_of_outstanding (positive : 0 < size)
    (running : bridge.uplink = .running)
    (more : bridge.tun.outstanding size ≠ []) :
    ∃ bytes tun,
      bridge.step size (.read true) =
        some { bridge with tun := tun, items := bridge.items ++ [bytes] } ∧
      bridge.tun.outstanding size = bytes :: tun.outstanding size := by
  obtain ⟨bytes, tun, nonempty, polled⟩ :=
    WindowsTun.pollRead_of_outstanding positive bridge.hungUp more
  rcases WindowsTun.pollRead_ready positive polled with ⟨empty, _⟩ |
      ⟨_, taken⟩
  · exact absurd empty nonempty
  · refine ⟨bytes, tun, ?_, taken⟩
    cases bytes with
    | nil => exact absurd rfl nonempty
    | cons first rest => simp [step, read, running, polled]

/-- A running uplink reads everything that the channel holds. -/
theorem exists_reads (positive : 0 < size)
    (running : bridge.uplink = .running) (free : bridge.held = none) :
    ∃ events final, run (step size) bridge events = some final ∧
      final.Drained ∧ final.uplink = .running ∧
      final.hungUp = bridge.hungUp ∧ final.received = bridge.received := by
  induction reads : bridge.tun.outstanding size generalizing bridge with
  | nil =>
      obtain ⟨pending, queue⟩ := WindowsTun.outstanding_eq_nil reads
      refine ⟨[], bridge, rfl, ⟨free, queue, pending, ?_⟩, running, rfl, rfl⟩
      rw [running]
      nofun
  | cons first rest induction =>
      obtain ⟨bytes, tun, stepped, taken⟩ :=
        read_of_outstanding positive running (by rw [reads]; nofun)
      rw [reads] at taken
      let later : Bridge :=
        { bridge with tun := tun, items := bridge.items ++ [bytes] }
      have laterRunning : later.uplink = .running := running
      obtain ⟨events, final, completed, drained, others⟩ :=
        induction laterRunning free (List.cons.inj taken).2.symm
      refine ⟨.read true :: events, final, ?_, drained, others⟩
      rw [run, stepped]
      exact completed

/-- Every sequence of packets can be received and read to its end. -/
theorem exists_drained (positive : 0 < size) (packets : List Packet) :
    ∃ events final, run (step size) new events = some final ∧
      final.Drained ∧ final.uplink = .running ∧ final.hungUp = false ∧
      final.received = packets := by
  induction packets using List.reverseRecOn with
  | nil =>
      refine ⟨[], new, rfl, ⟨rfl, rfl, rfl, ?_⟩, rfl, rfl, rfl⟩
      nofun
  | append_singleton packets packet induction =>
      obtain ⟨events, before, completed, drained, running, listening, same⟩ :=
        induction
      let incoming : Channel Packet channelDepth :=
        ⟨[packet], (by decide : 1 ≤ channelDepth)⟩
      let given : Bridge :=
        { before with
          tun := { before.tun with incoming := incoming }
          received := before.received ++ [packet] }
      have sent : before.tun.incoming.send? packet = some incoming := by
        simp [Channel.send?, drained.queue, channelDepth, incoming]
      have handed : run (step size) before [.receive packet, .handOver] =
          some given := by
        simp [run, step, receive, handOver, drained.held, listening, sent,
          given]
      have givenRunning : given.uplink = .running := running
      obtain ⟨reads, final, readAll, finished, finalRunning, finalListening,
        received⟩ := exists_reads positive givenRunning drained.held
      refine ⟨events ++ ([.receive packet, .handOver] ++ reads), final, ?_,
        finished, finalRunning, finalListening.trans listening, ?_⟩
      · rw [run_append completed, run_append handed]
        exact readAll
      · rw [received, ← same]

/-- The stack is given the packets of the session, one item a packet, exactly
if every packet fits into the buffer. -/
theorem uplink_preserves_iff {mtu : Nat} (positive : 0 < mtu)
    (packets : List Packet) :
    (∃ events final, run (step mtu) new events = some final ∧
      final.received = packets ∧ final.Drained) ∧
    ∀ events final, run (step mtu) new events = some final →
      final.received = packets →
        (final.Drained →
          (final.items = packets.map Packet.bytes ↔
            ∀ packet ∈ packets, packet.bytes.length ≤ mtu)) ∧
        ((∀ packet ∈ packets, packet.bytes.length ≤ mtu) →
          final.items <+: packets.map Packet.bytes) := by
  constructor
  · obtain ⟨events, final, completed, drained, _, _, received⟩ :=
      exists_drained positive packets
    exact ⟨events, final, completed, received, drained⟩
  · intro events final completed received
    have conserved := conserved_of_run positive completed
    constructor
    · intro drained
      rw [conserved.items_of_drained drained, received,
        flatMap_pieces_eq_iff positive, List.forall_mem_map]
    · intro fit
      have initial := conserved.items_initial
      rw [received, flatMap_pieces_of_fit (List.forall_mem_map.mpr fit)]
        at initial
      exact initial

end Bridge

/-! ## A packet that is longer than the buffer -/

/-- A packet of zeros. -/
def zeros (length : Nat) (some : 0 < length) (short : length ≤ 65535) :
    Packet :=
  { bytes := List.replicate length 0
    nonempty := by
      apply List.ne_nil_of_length_pos
      rw [List.length_replicate]
      exact some
    short := by
      rw [List.length_replicate]
      exact short }

def fullPacket : Packet :=
  zeros 576 (by decide) (by decide)

def longPacket : Packet :=
  zeros 577 (by decide) (by decide)

theorem uplink_preserves_fullPacket :
    ∃ events final, run (Bridge.step 576) Bridge.new events = some final ∧
      final.received = [fullPacket] ∧ final.Drained ∧
      final.items = [fullPacket.bytes] := by
  obtain ⟨⟨events, final, completed, received, drained⟩, exactly⟩ :=
    Bridge.uplink_preserves_iff (by decide : 0 < 576) [fullPacket]
  have fits : ∀ packet ∈ [fullPacket], packet.bytes.length ≤ 576 := by
    intro packet member
    rw [List.mem_singleton.mp member]
    exact Nat.le_of_eq List.length_replicate
  exact ⟨events, final, completed, received, drained,
    ((exactly events final completed received).1 drained).mpr fits⟩

/-- One byte more than the buffer takes is one item more. -/
theorem uplink_splits_longPacket :
    ∃ final,
      run (Bridge.step 576) Bridge.new
        [.receive longPacket, .handOver, .read true, .read true] =
          some final ∧
      final.received = [longPacket] ∧ final.Drained ∧
      final.items ≠ [longPacket.bytes] := by
  have computed : ((run (Bridge.step 576) Bridge.new
      [.receive longPacket, .handOver, .read true, .read true]).map
        fun bridge => (decide bridge.Drained, bridge.received,
          bridge.items.length)) =
      some (true, [longPacket], 2) := by
    decide +kernel
  obtain ⟨final, completed, observed⟩ := Option.map_eq_some_iff.mp computed
  simp only [Prod.mk.injEq, decide_eq_true_eq] at observed
  obtain ⟨drained, received, two⟩ := observed
  refine ⟨final, completed, received, drained, ?_⟩
  intro one
  rw [one] at two
  exact absurd two (by decide)

end Cortado.Windows
