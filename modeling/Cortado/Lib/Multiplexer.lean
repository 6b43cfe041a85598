import Mathlib.Logic.Basic
import Mathlib.Data.List.Basic

/-!
# Multiplexing over recycled identifiers

Owners send requests over shared connections.  An owner draws an identifier
from the counter of a connection, reserves the slot of that identifier, arms
it with a reply channel, sends its frame, and leaves with a reply or by
emptying the slot.  Frames arriving on a connection empty the slot of their
identifier, and a connection that closes empties all of its slots.

`Owned` holds whatever arrives.  `Faithful` holds if only answers arrive, and
if owners and answers are gone before the counter has come round to the same
identifier: then no reply reaches another owner, and the slots are exactly the
requests without an answer.
-/

namespace Multiplexer

inductive Stage where
  | reserved
  | armed
  | sent
  | leaving
  deriving DecidableEq, Repr

/-- What an owner holds: its identifier on a connection, and the value of the
counter that gave it. -/
structure Lease (κ ι : Type*) where
  conn : κ
  id : ι
  draw : Nat
  stage : Stage

structure Slot (ω : Type*) where
  owner : ω
  armed : Bool
  deriving DecidableEq

inductive Reply (β : Type*) where
  | pending
  | answered (body : β)
  | dropped

/-- A frame on the wire, with the answer once it has arrived. -/
structure Frame (ω β : Type*) where
  owner : ω
  draw : Nat
  answer : Option β

@[ext]
structure State (κ ω ι β : Type*) where
  lease : ω → Option (Lease κ ι)
  slot : κ → ι → Option (Slot ω)
  reply : ω → Reply β
  sent : κ → List (Frame ω β)
  draws : κ → Nat
  closed : κ → Bool

variable {κ ω ι β : Type*} [DecidableEq κ] [DecidableEq ω] [DecidableEq ι]

namespace State

def setLease (state : State κ ω ι β) (owner : ω)
    (lease : Option (Lease κ ι)) : State κ ω ι β :=
  { state with
    lease := fun other => if other = owner then lease else state.lease other }

def setSlot (state : State κ ω ι β) (conn : κ) (id : ι)
    (slot : Option (Slot ω)) : State κ ω ι β :=
  { state with
    slot := fun other otherId =>
      if other = conn ∧ otherId = id then slot else state.slot other otherId }

def setReply (state : State κ ω ι β) (owner : ω) (reply : Reply β) :
    State κ ω ι β :=
  { state with
    reply := fun other => if other = owner then reply else state.reply other }

def setDraws (state : State κ ω ι β) (conn : κ) (draws : Nat) :
    State κ ω ι β :=
  { state with
    draws := fun other => if other = conn then draws else state.draws other }

def setSent (state : State κ ω ι β) (conn : κ) (sent : List (Frame ω β)) :
    State κ ω ι β :=
  { state with
    sent := fun other => if other = conn then sent else state.sent other }

/-- Dropping the sender of an armed slot closes its owner's channel. -/
def discard (state : State κ ω ι β) : Option (Slot ω) → State κ ω ι β
  | some { owner, armed := true } => state.setReply owner .dropped
  | _ => state

/-- A frame for an identifier empties its slot and, if armed, answers its
owner. -/
def deliver (state : State κ ω ι β) (conn : κ) (id : ι) (body : β) :
    State κ ω ι β :=
  match state.slot conn id with
  | some { owner, armed := true } =>
      (state.setReply owner (.answered body)).setSlot conn id none
  | _ => state.setSlot conn id none

/-- Record the answer of the frame at a position. -/
def mark (state : State κ ω ι β) (conn : κ) (position : Nat) (body : β) :
    State κ ω ι β :=
  state.setSent conn ((state.sent conn).modify position
    fun frame => { frame with answer := some body })

open Classical in
/-- Closing a connection drops all of its senders. -/
noncomputable def close (state : State κ ω ι β) (conn : κ) : State κ ω ι β :=
  { state with
    slot := fun other id => if other = conn then none else state.slot other id
    reply := fun owner =>
      if ∃ id, state.slot conn id = some { owner := owner, armed := true } then
        .dropped
      else state.reply owner
    closed := fun other => if other = conn then true else state.closed other }

end State

/-- One step of the owners, of a reader, or of the remote end.  The flag says
whether the remote end may send frames that answer nothing or come late. -/
inductive Step (ident : Nat → ι) (window : Nat) (misbehaves : Prop) :
    State κ ω ι β → State κ ω ι β → Prop
  | reserve {state : State κ ω ι β} {owner : ω} {conn : κ} {draw : Nat}
      (idle : state.lease owner = none) (drawn : state.draws conn ≤ draw)
      (vacant : state.slot conn (ident draw) = none) :
      Step ident window misbehaves state
        (((state.setLease owner
          (some
            { conn := conn
              id := ident draw
              draw := draw
              stage := .reserved })).setSlot conn (ident draw)
          (some { owner := owner, armed := false })).setDraws conn (draw + 1))
  | search {state : State κ ω ι β} {conn : κ} {draws : Nat}
      (advanced : state.draws conn ≤ draws) :
      Step ident window misbehaves state (state.setDraws conn draws)
  | arm {state : State κ ω ι β} {owner : ω} {lease : Lease κ ι}
      (leased : state.lease owner = some lease)
      (stage : lease.stage = .reserved) :
      Step ident window misbehaves state
        ((((state.discard (state.slot lease.conn lease.id)).setReply owner
          .pending).setSlot lease.conn lease.id
            (some { owner := owner, armed := true })).setLease owner
              (some { lease with stage := .armed }))
  | write {state : State κ ω ι β} {owner : ω} {lease : Lease κ ι}
      (leased : state.lease owner = some lease)
      (stage : lease.stage = .armed) :
      Step ident window misbehaves state
        ((state.setLease owner (some { lease with stage := .sent })).setSent
          lease.conn (state.sent lease.conn ++
            [{ owner := owner, draw := lease.draw, answer := none }]))
  | quit {state : State κ ω ι β} {owner : ω} {lease : Lease κ ι}
      (leased : state.lease owner = some lease)
      (stage : lease.stage = .armed ∨ lease.stage = .sent) :
      Step ident window misbehaves state
        (state.setLease owner (some { lease with stage := .leaving }))
  | stray {state : State κ ω ι β} {conn : κ} {id : ι} {body : β}
      (allowed : misbehaves) :
      Step ident window misbehaves state (state.deliver conn id body)
  | answer {state : State κ ω ι β} {conn : κ} {position : Nat}
      {frame : Frame ω β} {body : β}
      (found : (state.sent conn)[position]? = some frame)
      (unanswered : frame.answer = none)
      (inTime : misbehaves ∨ state.draws conn ≤ frame.draw + window) :
      Step ident window misbehaves state
        ((state.deliver conn (ident frame.draw) body).mark conn position body)
  | finish {state : State κ ω ι β} {owner : ω} {lease : Lease κ ι} {body : β}
      (leased : state.lease owner = some lease)
      (stage : lease.stage = .sent)
      (replied : state.reply owner = .answered body) :
      Step ident window misbehaves state (state.setLease owner none)
  | release {state : State κ ω ι β} {owner : ω} {lease : Lease κ ι}
      (leased : state.lease owner = some lease)
      (stage : lease.stage = .leaving) :
      Step ident window misbehaves state
        (((state.discard (state.slot lease.conn lease.id)).setSlot lease.conn
          lease.id none).setLease owner none)
  | close {state : State κ ω ι β} (conn : κ) :
      Step ident window misbehaves state (state.close conn)

/-! ## Reading the updated state -/

namespace State

variable (state : State κ ω ι β)

omit [DecidableEq κ] [DecidableEq ι] in
@[simp] theorem discard_reply (slot : Option (Slot ω)) (owner : ω) :
    (state.discard slot).reply owner =
      if slot = some { owner := owner, armed := true } then .dropped
      else state.reply owner := by
  unfold discard
  split
  · rename_i holder
    by_cases same : owner = holder
    · simp [setReply, same]
    · simp [setReply, same, Ne.symm same]
  · rename_i notArmed
    rw [if_neg]
    intro armed
    exact notArmed owner armed

@[simp] theorem deliver_reply (conn : κ) (id : ι) (body : β) (owner : ω) :
    (state.deliver conn id body).reply owner =
      if state.slot conn id = some { owner := owner, armed := true } then
        .answered body
      else state.reply owner := by
  unfold deliver
  split
  · rename_i holder armed
    by_cases same : owner = holder
    · simp [armed, same, setSlot, setReply]
    · simp [armed, same, Ne.symm same, setSlot, setReply]
  · rename_i notArmed
    rw [if_neg (notArmed owner)]
    rfl

@[simp] theorem deliver_slot (conn : κ) (id : ι) (body : β) (other : κ)
    (otherId : ι) : (state.deliver conn id body).slot other otherId =
      if other = conn ∧ otherId = id then none
      else state.slot other otherId := by
  unfold deliver
  split <;> rfl

@[simp] theorem deliver_lease (conn : κ) (id : ι) (body : β) :
    (state.deliver conn id body).lease = state.lease := by
  unfold deliver
  split <;> rfl

@[simp] theorem deliver_sent (conn : κ) (id : ι) (body : β) :
    (state.deliver conn id body).sent = state.sent := by
  unfold deliver
  split <;> rfl

@[simp] theorem deliver_draws (conn : κ) (id : ι) (body : β) :
    (state.deliver conn id body).draws = state.draws := by
  unfold deliver
  split <;> rfl

@[simp] theorem deliver_closed (conn : κ) (id : ι) (body : β) :
    (state.deliver conn id body).closed = state.closed := by
  unfold deliver
  split <;> rfl

omit [DecidableEq κ] [DecidableEq ι] in
@[simp] theorem discard_lease (slot : Option (Slot ω)) :
    (state.discard slot).lease = state.lease := by
  unfold discard
  split <;> rfl

omit [DecidableEq κ] [DecidableEq ι] in
@[simp] theorem discard_slot (slot : Option (Slot ω)) :
    (state.discard slot).slot = state.slot := by
  unfold discard
  split <;> rfl

omit [DecidableEq κ] [DecidableEq ι] in
@[simp] theorem discard_sent (slot : Option (Slot ω)) :
    (state.discard slot).sent = state.sent := by
  unfold discard
  split <;> rfl

omit [DecidableEq κ] [DecidableEq ι] in
@[simp] theorem discard_draws (slot : Option (Slot ω)) :
    (state.discard slot).draws = state.draws := by
  unfold discard
  split <;> rfl

omit [DecidableEq κ] [DecidableEq ι] in
@[simp] theorem discard_closed (slot : Option (Slot ω)) :
    (state.discard slot).closed = state.closed := by
  unfold discard
  split <;> rfl

end State

/-- Every slot belongs to the lease of its owner, armed slots are the ones
with a pending reply, and so are pending replies the ones with a slot. -/
structure Owned (state : State κ ω ι β) : Prop where
  leased : ∀ {conn id owner armed},
    state.slot conn id = some { owner := owner, armed := armed } →
      ∃ lease, state.lease owner = some lease ∧ lease.conn = conn ∧
        lease.id = id ∧ (armed = true ↔ lease.stage ≠ .reserved)
  pending : ∀ {conn id owner},
    state.slot conn id = some { owner := owner, armed := true } →
      state.reply owner = .pending
  stored : ∀ {owner lease}, state.lease owner = some lease →
    lease.stage ≠ .reserved → state.reply owner = .pending →
      state.slot lease.conn lease.id =
        some { owner := owner, armed := true }

namespace Owned

variable {state next : State κ ω ι β} (owned : Owned state)

include owned

omit [DecidableEq κ] [DecidableEq ω] [DecidableEq ι] in
/-- An owner has at most one slot. -/
theorem unique {conn other : κ} {id otherId : ι} {owner : ω}
    {armed otherArmed : Bool}
    (first : state.slot conn id = some { owner := owner, armed := armed })
    (second : state.slot other otherId =
      some { owner := owner, armed := otherArmed }) :
    conn = other ∧ id = otherId := by
  obtain ⟨lease, leased, rfl, rfl, _⟩ := owned.leased first
  obtain ⟨lease', leased', rfl, rfl, _⟩ := owned.leased second
  rw [leased] at leased'
  cases leased'
  exact ⟨rfl, rfl⟩

omit [DecidableEq κ] [DecidableEq ω] [DecidableEq ι] in
/-- Emptying slots keeps the invariant if the channels of the armed ones are
settled. -/
theorem vacate (sameLease : next.lease = state.lease)
    (slots : ∀ conn id, next.slot conn id = state.slot conn id ∨
      next.slot conn id = none)
    (replies : ∀ owner, next.reply owner = state.reply owner ∨
      (next.reply owner ≠ .pending ∧
        ∀ conn id, next.slot conn id ≠
          some { owner := owner, armed := true }))
    (settled : ∀ conn id owner,
      state.slot conn id = some { owner := owner, armed := true } →
        next.slot conn id = none → next.reply owner ≠ .pending) :
    Owned next := by
  refine ⟨?_, ?_, ?_⟩
  · intro conn id owner armed found
    rcases slots conn id with same | emptied
    · rw [sameLease]
      exact owned.leased (same ▸ found)
    · rw [emptied] at found
      cases found
  · intro conn id owner found
    rcases slots conn id with same | emptied
    · have before := owned.pending (same ▸ found)
      rcases replies owner with kept | ⟨_, absent⟩
      · rw [kept]
        exact before
      · exact absurd found (absent conn id)
    · rw [emptied] at found
      cases found
  · intro owner lease leased stage pending
    rcases replies owner with kept | ⟨notPending, _⟩
    · rw [sameLease] at leased
      rw [kept] at pending
      have before := owned.stored leased stage pending
      rcases slots lease.conn lease.id with same | emptied
      · rw [same]
        exact before
      · rw [← kept] at pending
        exact absurd pending (settled _ _ _ before emptied)
    · exact absurd pending notPending

omit [DecidableEq κ] [DecidableEq ι] in
/-- A lease whose owner has a slot may move between the later stages. -/
theorem restage {owner : ω} {lease : Lease κ ι} (stage : Stage)
    (leased : state.lease owner = some lease)
    (before : lease.stage ≠ .reserved) (after : stage ≠ .reserved) :
    Owned (state.setLease owner (some { lease with stage := stage })) := by
  refine ⟨?_, @owned.pending, ?_⟩
  · intro conn id other armed found
    obtain ⟨held, isHeld, atConn, atId, isArmed⟩ := owned.leased found
    by_cases same : other = owner
    · subst same
      rw [leased] at isHeld
      cases isHeld
      refine ⟨{ lease with stage := stage }, by simp [State.setLease],
        atConn, atId, ?_⟩
      simpa [before, after] using isArmed
    · exact ⟨held, by simp [State.setLease, same, isHeld], atConn, atId,
        isArmed⟩
  · intro other held isHeld late pending
    by_cases same : other = owner
    · subst same
      simp only [State.setLease, if_true, Option.some.injEq] at isHeld
      subst isHeld
      have stored := owned.stored leased before pending
      exact stored
    · simp only [State.setLease, if_neg same] at isHeld
      exact owned.stored isHeld late pending

omit [DecidableEq κ] [DecidableEq ι] in
/-- An owner without slot may give up its lease. -/
theorem leave {owner : ω}
    (slotless : ∀ conn id armed, state.slot conn id ≠
      some { owner := owner, armed := armed }) :
    Owned (state.setLease owner none) := by
  refine ⟨?_, @owned.pending, ?_⟩
  · intro conn id other armed found
    obtain ⟨held, isHeld, rest⟩ := owned.leased found
    have different : other ≠ owner := by
      intro same
      subst same
      exact slotless conn id armed found
    exact ⟨held, by simp [State.setLease, different, isHeld], rest⟩
  · intro other held isHeld late pending
    by_cases same : other = owner
    · simp [State.setLease, same] at isHeld
    · simp only [State.setLease, if_neg same] at isHeld
      exact owned.stored isHeld late pending

/-- An owner without slot may take an empty one for a new lease. -/
theorem fill {owner : ω} (lease : Lease κ ι)
    (slotless : ∀ conn id armed, state.slot conn id ≠
      some { owner := owner, armed := armed })
    (vacant : state.slot lease.conn lease.id = none)
    (leases : ∀ other, next.lease other =
      if other = owner then some lease else state.lease other)
    (slots : ∀ conn id, next.slot conn id =
      if conn = lease.conn ∧ id = lease.id then
        some { owner := owner, armed := decide (lease.stage ≠ .reserved) }
      else state.slot conn id)
    (replies : ∀ other, other ≠ owner → next.reply other = state.reply other)
    (opened : lease.stage ≠ .reserved → next.reply owner = .pending) :
    Owned next := by
  have others : ∀ {conn id other armed},
      state.slot conn id = some { owner := other, armed := armed } →
        other ≠ owner := by
    intro conn id other armed found same
    subst same
    exact slotless conn id armed found
  refine ⟨?_, ?_, ?_⟩
  · intro conn id other armed found
    rw [slots] at found
    by_cases here : conn = lease.conn ∧ id = lease.id
    · rw [if_pos here] at found
      cases found
      exact ⟨lease, by simp [leases], here.1.symm, here.2.symm, by simp⟩
    · rw [if_neg here] at found
      obtain ⟨held, isHeld, rest⟩ := owned.leased found
      exact ⟨held, by simp [leases, others found, isHeld], rest⟩
  · intro conn id other found
    rw [slots] at found
    by_cases here : conn = lease.conn ∧ id = lease.id
    · rw [if_pos here] at found
      simp only [Option.some.injEq, Slot.mk.injEq, decide_eq_true_eq] at found
      rw [← found.1, opened found.2]
    · rw [if_neg here] at found
      rw [replies other (others found)]
      exact owned.pending found
  · intro other held isHeld late pending
    rw [leases] at isHeld
    by_cases same : other = owner
    · subst same
      rw [if_pos rfl] at isHeld
      cases isHeld
      simp [slots, late]
    · rw [if_neg same] at isHeld
      rw [replies other same] at pending
      have before := owned.stored isHeld late pending
      have elsewhere : ¬(held.conn = lease.conn ∧ held.id = lease.id) := by
        intro here
        rw [here.1, here.2, vacant] at before
        cases before
      rw [slots, if_neg elsewhere]
      exact before

omit [DecidableEq ω] [DecidableEq ι] in
theorem setDraws (conn : κ) (draws : Nat) :
    Owned (state.setDraws conn draws) :=
  ⟨owned.leased, owned.pending, owned.stored⟩

omit [DecidableEq ω] [DecidableEq ι] in
theorem setSent (conn : κ) (sent : List (Frame ω β)) :
    Owned (state.setSent conn sent) :=
  ⟨owned.leased, owned.pending, owned.stored⟩

omit [DecidableEq κ] [DecidableEq ω] [DecidableEq ι] in
/-- The slot at the place of a lease is its owner's, if the owner has any. -/
theorem slotless_of_vacant {owner : ω} {lease : Lease κ ι}
    (leased : state.lease owner = some lease)
    (vacant : state.slot lease.conn lease.id = none) (conn : κ) (id : ι)
    (armed : Bool) :
    state.slot conn id ≠ some { owner := owner, armed := armed } := by
  intro found
  obtain ⟨held, isHeld, rfl, rfl, _⟩ := owned.leased found
  rw [leased] at isHeld
  cases isHeld
  rw [vacant] at found
  cases found

/-- Dropping whatever a slot holds. -/
theorem empty (conn : κ) (id : ι) :
    Owned ((state.discard (state.slot conn id)).setSlot conn id none) := by
  apply owned.vacate
  · simp [State.setSlot]
  · intro other otherId
    by_cases here : other = conn ∧ otherId = id
    · exact Or.inr (by simp [State.setSlot, here])
    · exact Or.inl (by simp [State.setSlot, here])
  · intro owner
    by_cases stored :
        state.slot conn id = some { owner := owner, armed := true }
    · right
      refine ⟨by simp [State.setSlot, stored], ?_⟩
      intro other otherId found
      by_cases here : other = conn ∧ otherId = id
      · simp [State.setSlot, here] at found
      · simp only [State.setSlot, State.discard_slot, if_neg here] at found
        exact here (owned.unique found stored)
    · exact Or.inl (by simp [State.setSlot, stored])
  · intro other otherId owner found emptied
    by_cases here : other = conn ∧ otherId = id
    · obtain ⟨rfl, rfl⟩ := here
      simp [State.setSlot, found]
    · simp [State.setSlot, here, found] at emptied

theorem deliver (conn : κ) (id : ι) (body : β) :
    Owned (state.deliver conn id body) := by
  apply owned.vacate
  · simp
  · intro other otherId
    by_cases here : other = conn ∧ otherId = id
    · exact Or.inr (by simp [here])
    · exact Or.inl (by simp [here])
  · intro owner
    by_cases stored :
        state.slot conn id = some { owner := owner, armed := true }
    · right
      refine ⟨by simp [stored], ?_⟩
      intro other otherId found
      by_cases here : other = conn ∧ otherId = id
      · simp [here] at found
      · simp only [State.deliver_slot, if_neg here] at found
        exact here (owned.unique found stored)
    · exact Or.inl (by simp [stored])
  · intro other otherId owner found emptied
    by_cases here : other = conn ∧ otherId = id
    · obtain ⟨rfl, rfl⟩ := here
      simp [found]
    · simp [here, found] at emptied

omit [DecidableEq ω] [DecidableEq ι] in
theorem close (conn : κ) : Owned (state.close conn) := by
  apply owned.vacate
  · rfl
  · intro other id
    by_cases here : other = conn
    · exact Or.inr (by simp [State.close, here])
    · exact Or.inl (by simp [State.close, here])
  · intro owner
    by_cases stored :
        ∃ id, state.slot conn id = some { owner := owner, armed := true }
    · right
      refine ⟨by simp [State.close, stored], ?_⟩
      intro other otherId found
      obtain ⟨id, stored⟩ := stored
      by_cases here : other = conn
      · simp [State.close, here] at found
      · simp only [State.close, if_neg here] at found
        exact here (owned.unique found stored).1
    · exact Or.inl (by simp [State.close, stored])
  · intro other id owner found emptied
    by_cases here : other = conn
    · subst here
      have stored : ∃ id, state.slot other id =
          some { owner := owner, armed := true } := ⟨id, found⟩
      simp [State.close, stored]
    · simp [State.close, here, found] at emptied

omit owned in
theorem step {ident : Nat → ι} {window : Nat} {misbehaves : Prop}
    (owned : Owned state)
    (stepped : Step ident window misbehaves state next) : Owned next := by
  cases stepped with
  | @reserve owner conn draw idle drawn vacant =>
      apply Owned.setDraws
      have slotless : ∀ other id armed, state.slot other id ≠
          some { owner := owner, armed := armed } := by
        intro other id armed found
        obtain ⟨held, isHeld, _⟩ := owned.leased found
        rw [idle] at isHeld
        cases isHeld
      exact owned.fill _ slotless vacant (fun _ => rfl) (fun _ _ => rfl)
        (fun _ _ => rfl) (fun late => absurd rfl late)
  | search advanced => exact owned.setDraws _ _
  | @arm owner lease leased stage =>
      have emptied := owned.empty lease.conn lease.id
      have vacant : ((state.discard (state.slot lease.conn lease.id)).setSlot
          lease.conn lease.id none).slot lease.conn lease.id = none := by
        simp [State.setSlot]
      have stillLeased : ((state.discard
          (state.slot lease.conn lease.id)).setSlot lease.conn lease.id
            none).lease owner = some lease := by
        simp [State.setSlot, leased]
      have slotless := emptied.slotless_of_vacant stillLeased vacant
      refine emptied.fill { lease with stage := .armed } slotless vacant
        ?_ ?_ ?_ ?_
      · intro other
        simp [State.setLease, State.setSlot, State.setReply]
      · intro other id
        by_cases here : other = lease.conn ∧ id = lease.id
        · simp [State.setLease, State.setSlot, State.setReply, here]
        · simp [State.setLease, State.setSlot, State.setReply, here]
      · intro other different
        simp [State.setLease, State.setSlot, State.setReply, different]
      · intro _
        simp [State.setLease, State.setSlot, State.setReply]
  | write leased stage =>
      have late := owned.restage .sent leased (by simp [stage]) (by simp)
      exact late.setSent _ _
  | quit leased stage =>
      apply owned.restage .leaving leased _ (by simp)
      rcases stage with stage | stage <;> simp [stage]
  | stray allowed => exact owned.deliver _ _ _
  | answer found unanswered inTime => exact (owned.deliver _ _ _).setSent _ _
  | finish leased stage replied =>
      apply owned.leave
      intro conn id armed found
      obtain ⟨held, isHeld, _, _, isArmed⟩ := owned.leased found
      rw [leased] at isHeld
      cases isHeld
      have late : armed = true := isArmed.mpr (by simp [stage])
      subst late
      rw [owned.pending found] at replied
      cases replied
  | @release owner lease leased stage =>
      have emptied := owned.empty lease.conn lease.id
      apply emptied.leave
      apply emptied.slotless_of_vacant
      · simp only [State.setSlot, State.discard_lease]
        exact leased
      · simp [State.setSlot]
  | close conn => exact owned.close conn

end Owned

/-- Every owner is gone before the counter has come round to its
identifier. -/
def Timely (window : Nat) (state : State κ ω ι β) : Prop :=
  ∀ owner lease, state.lease owner = some lease →
    state.draws lease.conn ≤ lease.draw + window

/-- Draws stand for owners: leases carry the identifier of their draw, and no
two owners, be it by lease or by frame, share a draw on one connection. -/
structure Stamped (ident : Nat → ι) (state : State κ ω ι β) : Prop where
  identified : ∀ {owner lease}, state.lease owner = some lease →
    lease.id = ident lease.draw ∧ lease.draw < state.draws lease.conn
  framed : ∀ {conn frame}, frame ∈ state.sent conn →
    frame.draw < state.draws conn
  distinct : ∀ {owner other lease otherLease},
    state.lease owner = some lease → state.lease other = some otherLease →
      lease.conn = otherLease.conn → lease.draw = otherLease.draw →
        owner = other
  written : ∀ {owner lease frame}, state.lease owner = some lease →
    frame ∈ state.sent lease.conn → frame.draw = lease.draw →
      frame.owner = owner ∧ lease.stage ≠ .reserved ∧ lease.stage ≠ .armed

/-- Every lease of a state continues one of the state before. -/
def Continues (state next : State κ ω ι β) : Prop :=
  ∀ {owner lease}, next.lease owner = some lease →
    ∃ before, state.lease owner = some before ∧ before.conn = lease.conn ∧
      before.id = lease.id ∧ before.draw = lease.draw ∧
      (lease.stage = .reserved → before.stage = .reserved) ∧
      (lease.stage = .armed →
        before.stage = .reserved ∨ before.stage = .armed)

omit [DecidableEq κ] [DecidableEq ω] [DecidableEq ι] in
theorem continues_of_eq {state next : State κ ω ι β}
    (same : next.lease = state.lease) : Continues state next := by
  intro owner lease leased
  rw [same] at leased
  exact ⟨lease, leased, rfl, rfl, rfl, id, Or.inr⟩

omit [DecidableEq κ] [DecidableEq ι] in
theorem continues_setLease_none (state : State κ ω ι β) (owner : ω) :
    Continues state (state.setLease owner none) := by
  intro other lease leased
  by_cases same : other = owner
  · simp [State.setLease, same] at leased
  · simp only [State.setLease, if_neg same] at leased
    exact ⟨lease, leased, rfl, rfl, rfl, id, Or.inr⟩

omit [DecidableEq κ] [DecidableEq ι] in
theorem continues_restage {state : State κ ω ι β} {owner : ω}
    {lease : Lease κ ι} (stage : Stage)
    (leased : state.lease owner = some lease)
    (notReserved : stage ≠ .reserved)
    (armed : stage = .armed → lease.stage = .reserved) :
    Continues state
      (state.setLease owner (some { lease with stage := stage })) := by
  intro other held isHeld
  by_cases same : other = owner
  · subst same
    simp only [State.setLease, if_true, Option.some.injEq] at isHeld
    subst isHeld
    exact ⟨lease, leased, rfl, rfl, rfl, fun late => absurd late notReserved,
      fun isArmed => Or.inl (armed isArmed)⟩
  · simp only [State.setLease, if_neg same] at isHeld
    exact ⟨held, isHeld, rfl, rfl, rfl, id, Or.inr⟩

omit [DecidableEq κ] [DecidableEq ω] [DecidableEq ι] in
/-- Steps that only continue leases, mark frames and advance counters. -/
theorem Stamped.mono {ident : Nat → ι} {state next : State κ ω ι β}
    (stamped : Stamped ident state) (leases : Continues state next)
    (frames : ∀ {conn frame}, frame ∈ next.sent conn →
      ∃ before ∈ state.sent conn,
        before.owner = frame.owner ∧ before.draw = frame.draw)
    (draws : ∀ conn, state.draws conn ≤ next.draws conn) :
    Stamped ident next := by
  refine ⟨?_, ?_, ?_, ?_⟩
  · intro owner lease leased
    obtain ⟨before, isBefore, sameConn, sameId, sameDraw, _⟩ := leases leased
    have stamp := stamped.identified isBefore
    have advanced := draws lease.conn
    rw [sameConn, sameId, sameDraw] at stamp
    exact ⟨stamp.1, by omega⟩
  · intro conn frame member
    obtain ⟨before, isBefore, _, sameDraw⟩ := frames member
    have stamp := stamped.framed isBefore
    have advanced := draws conn
    omega
  · intro owner other lease otherLease leased otherLeased sameConn sameDraw
    obtain ⟨_, isFirst, firstConn, _, firstDraw, _⟩ := leases leased
    obtain ⟨_, isSecond, secondConn, _, secondDraw, _⟩ := leases otherLeased
    apply stamped.distinct isFirst isSecond
    · rw [firstConn, secondConn, sameConn]
    · rw [firstDraw, secondDraw, sameDraw]
  · intro owner lease frame leased member sameDraw
    obtain ⟨held, isHeld, heldConn, _, heldDraw, reserved, armed⟩ :=
      leases leased
    obtain ⟨before, isBefore, sameOwner, beforeDraw⟩ := frames member
    rw [← heldConn] at isBefore
    obtain ⟨isOwner, notReserved, notArmed⟩ := stamped.written isHeld isBefore
      (by rw [beforeDraw, sameDraw, heldDraw])
    refine ⟨sameOwner.symm.trans isOwner, ?_, ?_⟩
    · intro isReserved
      exact notReserved (reserved isReserved)
    · intro isArmed
      rcases armed isArmed with wasReserved | wasArmed
      · exact notReserved wasReserved
      · exact notArmed wasArmed

theorem Stamped.reserve {ident : Nat → ι} {state : State κ ω ι β}
    {owner : ω} {conn : κ} {draw : Nat} {slot : Option (Slot ω)}
    (stamped : Stamped ident state) (drawn : state.draws conn ≤ draw) :
    Stamped ident (((state.setLease owner
      (some
        { conn := conn
          id := ident draw
          draw := draw
          stage := .reserved })).setSlot conn (ident draw) slot).setDraws conn
            (draw + 1)) := by
  have identified := @stamped.identified
  have framed := @stamped.framed
  have distinct := @stamped.distinct
  have written := @stamped.written
  -- The new draw is beyond all draws of the connection so far.
  refine ⟨?_, ?_, ?_, ?_⟩ <;>
    simp only [State.setLease, State.setSlot, State.setDraws] <;> grind

omit [DecidableEq ι] in
theorem Stamped.write {ident : Nat → ι} {state : State κ ω ι β}
    {owner : ω} {lease : Lease κ ι} (stamped : Stamped ident state)
    (leased : state.lease owner = some lease) :
    Stamped ident
      ((state.setLease owner (some { lease with stage := .sent })).setSent
        lease.conn (state.sent lease.conn ++
          [{ owner := owner, draw := lease.draw, answer := none }])) := by
  have identified := @stamped.identified
  have framed := @stamped.framed
  have distinct := @stamped.distinct
  have written := @stamped.written
  refine ⟨?_, ?_, ?_, ?_⟩ <;>
    simp only [State.setLease, State.setSent] <;> grind

section Modify

variable {α : Type*} {items : List α} {position : Nat} {change : α → α}
  {item other : α}

theorem mem_of_mem_modify (member : other ∈ items.modify position change) :
    ∃ item ∈ items, other = item ∨ other = change item := by
  obtain ⟨index, atIndex⟩ := List.mem_iff_getElem?.mp member
  rw [List.getElem?_modify] at atIndex
  obtain ⟨item, found, isChanged⟩ := Option.map_eq_some_iff.mp atIndex
  refine ⟨item, List.mem_iff_getElem?.mpr ⟨index, found⟩, ?_⟩
  by_cases same : position = index
  · exact Or.inr (by simpa [same] using isChanged.symm)
  · exact Or.inl (by simpa [same] using isChanged.symm)

theorem mem_modify_self (found : items[position]? = some item) :
    change item ∈ items.modify position change := by
  apply List.mem_iff_getElem?.mpr
  exact ⟨position, by simp [found]⟩

theorem mem_modify_of_ne (found : items[position]? = some item)
    (member : other ∈ items) (different : other ≠ item) :
    other ∈ items.modify position change := by
  obtain ⟨index, atIndex⟩ := List.mem_iff_getElem?.mp member
  have elsewhere : position ≠ index := by
    rintro rfl
    rw [found] at atIndex
    cases atIndex
    exact different rfl
  apply List.mem_iff_getElem?.mpr
  exact ⟨index, by simp [atIndex, elsewhere]⟩

end Modify

theorem Stamped.step {ident : Nat → ι} {window : Nat} {misbehaves : Prop}
    {state next : State κ ω ι β} (stamped : Stamped ident state)
    (stepped : Step ident window misbehaves state next) :
    Stamped ident next := by
  have sameFrames : ∀ {conn : κ} {frame : Frame ω β},
      frame ∈ state.sent conn → ∃ before ∈ state.sent conn,
        before.owner = frame.owner ∧ before.draw = frame.draw := by
    intro conn frame member
    exact ⟨frame, member, rfl, rfl⟩
  have sameDraws : ∀ conn, state.draws conn ≤ state.draws conn :=
    fun conn => Nat.le_refl _
  cases stepped with
  | reserve idle drawn vacant => exact stamped.reserve drawn
  | @search conn draws advanced =>
      refine stamped.mono (continues_of_eq ?_) ?_ ?_
      · rfl
      · exact sameFrames
      intro other
      by_cases same : other = conn
      · simp [State.setDraws, same, advanced]
      · simp [State.setDraws, same]
  | arm leased stage =>
      refine stamped.mono ?_ ?_ ?_
      · intro other lease isLeased
        apply continues_restage .armed leased (by simp) (fun _ => stage)
        simpa [State.setLease, State.setSlot, State.setReply] using isLeased
      · intro conn frame member
        apply sameFrames
        simpa [State.setLease, State.setSlot, State.setReply] using member
      · intro conn
        simp [State.setLease, State.setSlot, State.setReply]
  | write leased stage => exact stamped.write leased
  | quit leased stage =>
      exact stamped.mono (continues_restage .leaving leased (by simp) (by simp))
        sameFrames sameDraws
  | stray allowed =>
      refine stamped.mono (continues_of_eq (by simp)) ?_ ?_
      · intro conn frame member
        exact sameFrames (by simpa using member)
      · intro conn
        simp
  | @answer conn position frame body found unanswered inTime =>
      refine stamped.mono (continues_of_eq ?_) ?_ ?_
      · simp [State.mark, State.setSent]
      · intro other marked member
        by_cases same : other = conn
        · subst same
          simp only [State.mark, State.setSent, if_true,
            State.deliver_sent] at member
          obtain ⟨before, isBefore, rfl | rfl⟩ := mem_of_mem_modify member
          · exact ⟨_, isBefore, rfl, rfl⟩
          · exact ⟨_, isBefore, rfl, rfl⟩
        · apply sameFrames
          simpa [State.mark, State.setSent, same] using member
      · intro other
        simp [State.mark, State.setSent]
  | finish leased stage replied =>
      exact stamped.mono (continues_setLease_none _ _) sameFrames sameDraws
  | @release owner lease leased stage =>
      refine stamped.mono ?_ ?_ ?_
      · intro other held isHeld
        apply continues_setLease_none state owner
        simpa [State.setLease, State.setSlot] using isHeld
      · intro conn frame member
        apply sameFrames
        simpa [State.setLease, State.setSlot] using member
      · intro conn
        simp [State.setLease, State.setSlot]
  | close conn =>
      exact stamped.mono (continues_of_eq rfl) sameFrames sameDraws

/-- The request of a lease has no answer yet. -/
def Unanswered (state : State κ ω ι β) (owner : ω) (lease : Lease κ ι) :
    Prop :=
  lease.stage = .reserved ∨ ∀ body, state.reply owner ≠ .answered body

/-- Requests without an answer keep their slots while the connection is
open. -/
def Held (state : State κ ω ι β) : Prop :=
  ∀ owner lease, state.lease owner = some lease →
    state.closed lease.conn = false → Unanswered state owner lease →
      ∃ armed, state.slot lease.conn lease.id =
        some { owner := owner, armed := armed }

/-- Replies are answers to the owner's own frame. -/
def Answered (state : State κ ω ι β) : Prop :=
  ∀ owner lease body, state.lease owner = some lease →
    lease.stage ≠ .reserved → state.reply owner = .answered body →
      ∃ frame ∈ state.sent lease.conn,
        frame.owner = owner ∧ frame.answer = some body

/-- What holds as long as only answers arrive, and in time. -/
structure Faithful (ident : Nat → ι) (state : State κ ω ι β) : Prop where
  owned : Owned state
  stamped : Stamped ident state
  held : Held state
  answered : Answered state

omit [DecidableEq κ] [DecidableEq ι] in
/-- Moving a lease between the later stages, or ending it. -/
theorem Held.restage {state : State κ ω ι β} {owner : ω} {lease : Lease κ ι}
    (held : Held state) (leased : state.lease owner = some lease)
    (moved : Option (Lease κ ι))
    (continued : ∀ after, moved = some after →
      after.conn = lease.conn ∧ after.id = lease.id ∧
        after.stage ≠ .reserved) :
    Held (state.setLease owner moved) := by
  intro other otherLease isHeld isOpen unanswered
  by_cases same : other = owner
  · simp only [State.setLease, if_pos same] at isHeld
    obtain ⟨sameConn, sameId, late⟩ := continued otherLease isHeld
    rw [sameConn] at isOpen
    rw [sameConn, sameId, same]
    apply held _ _ leased isOpen
    rcases unanswered with reserved | silent
    · exact absurd reserved late
    · exact Or.inr (same ▸ silent)
  · simp only [State.setLease, if_neg same] at isHeld
    exact held _ _ isHeld isOpen unanswered

theorem Held.reserve {ident : Nat → ι} {state : State κ ω ι β} {owner : ω}
    {conn : κ} {draw : Nat} (held : Held state)
    (vacant : state.slot conn (ident draw) = none) :
    Held (((state.setLease owner
      (some
        { conn := conn
          id := ident draw
          draw := draw
          stage := .reserved })).setSlot conn (ident draw)
      (some { owner := owner, armed := false })).setDraws conn (draw + 1)) := by
  intro other lease isHeld isOpen unanswered
  by_cases same : other = owner
  · simp only [State.setDraws, State.setSlot, State.setLease, if_pos same,
      Option.some.injEq] at isHeld
    subst isHeld same
    exact ⟨false, by simp [State.setDraws, State.setSlot]⟩
  · simp only [State.setDraws, State.setSlot, State.setLease,
      if_neg same] at isHeld
    obtain ⟨armed, stored⟩ := held _ _ isHeld isOpen unanswered
    refine ⟨armed, ?_⟩
    have outside : ¬(lease.conn = conn ∧ lease.id = ident draw) := by
      rintro ⟨sameConn, sameId⟩
      rw [sameConn, sameId, vacant] at stored
      cases stored
    simp only [State.setDraws, State.setSlot, if_neg outside]
    exact stored

omit [DecidableEq κ] [DecidableEq ι] in
theorem Answered.restage {state : State κ ω ι β} {owner : ω}
    {lease : Lease κ ι} (answered : Answered state)
    (leased : state.lease owner = some lease)
    (moved : Option (Lease κ ι))
    (continued : ∀ after, moved = some after →
      after.conn = lease.conn ∧ lease.stage ≠ .reserved) :
    Answered (state.setLease owner moved) := by
  intro other otherLease body isHeld late replied
  by_cases same : other = owner
  · simp only [State.setLease, if_pos same] at isHeld
    obtain ⟨sameConn, notReserved⟩ := continued otherLease isHeld
    subst same
    rw [sameConn]
    exact answered _ _ _ leased notReserved replied
  · simp only [State.setLease, if_neg same] at isHeld
    exact answered _ _ _ isHeld late replied

omit [DecidableEq ω] [DecidableEq ι] in
theorem Answered.append {state : State κ ω ι β} (answered : Answered state)
    (conn : κ) (frame : Frame ω β) :
    Answered (state.setSent conn (state.sent conn ++ [frame])) := by
  intro owner lease body leased late replied
  obtain ⟨earlier, member, rest⟩ := answered _ _ _ leased late replied
  refine ⟨earlier, ?_, rest⟩
  by_cases here : lease.conn = conn
  · subst here
    simp [State.setSent, member]
  · simpa [State.setSent, here] using member

omit [DecidableEq ω] [DecidableEq ι] in
theorem Held.close {state : State κ ω ι β} (owned : Owned state)
    (held : Held state) (conn : κ) : Held (state.close conn) := by
  intro owner lease leased isOpen unanswered
  have different : lease.conn ≠ conn := by
    intro same
    simp [State.close, same] at isOpen
  -- Only owners on the closed connection are dropped.
  have replies : (state.close conn).reply owner = state.reply owner := by
    apply if_neg
    rintro ⟨id, stored⟩
    obtain ⟨dropped, isDropped, atConn, _⟩ := owned.leased stored
    change state.lease owner = some lease at leased
    rw [leased] at isDropped
    cases isDropped
    exact different atConn
  simp only [State.close, if_neg different] at isOpen ⊢
  apply held _ _ leased isOpen
  simpa only [Unanswered, replies] using unanswered

namespace Faithful

variable {ident : Nat → ι} {window : Nat} {state next : State κ ω ι β}
  (recycles : ∀ left right, ident left = ident right →
    left < right + window → right < left + window → left = right)
  (faithful : Faithful ident state) (timely : Timely window state)

include recycles faithful timely

omit [DecidableEq κ] [DecidableEq ω] [DecidableEq ι] in
/-- The slot at the place of a lease is held by its own owner. -/
theorem slot_owner {owner other : ω} {lease : Lease κ ι}
    {armed : Bool} (leased : state.lease owner = some lease)
    (found : state.slot lease.conn lease.id =
      some { owner := other, armed := armed }) : other = owner := by
  obtain ⟨held, isHeld, sameConn, sameId, _⟩ := faithful.owned.leased found
  have ownDraw := faithful.stamped.identified leased
  have otherDraw := faithful.stamped.identified isHeld
  have ownTime := timely owner lease leased
  have otherTime := timely other held isHeld
  rw [sameConn] at otherDraw otherTime
  have sameIdent : ident held.draw = ident lease.draw := by
    rw [← ownDraw.1, ← otherDraw.1]
    exact sameId
  apply faithful.stamped.distinct isHeld leased sameConn
  exact recycles _ _ sameIdent (by omega) (by omega)

omit [DecidableEq κ] [DecidableEq ω] [DecidableEq ι] in
/-- In time, an answer finds the slot of the owner of its frame, or none. -/
theorem answer_owner {conn : κ} {frame : Frame ω β} {other : ω}
    {armed : Bool} (sent : frame ∈ state.sent conn)
    (inTime : state.draws conn ≤ frame.draw + window)
    (found : state.slot conn (ident frame.draw) =
      some { owner := other, armed := armed }) :
    frame.owner = other ∧ armed = true := by
  obtain ⟨lease, leased, rfl, sameId, isArmed⟩ := faithful.owned.leased found
  have ownDraw := faithful.stamped.identified leased
  have frameDraw := faithful.stamped.framed sent
  have ownTime := timely other lease leased
  have sameIdent : ident frame.draw = ident lease.draw := by
    rw [← ownDraw.1]
    exact sameId.symm
  have sameDraw : frame.draw = lease.draw :=
    recycles _ _ sameIdent (by omega) (by omega)
  obtain ⟨sameOwner, notReserved, _⟩ :=
    faithful.stamped.written leased sent sameDraw
  exact ⟨sameOwner, isArmed.mpr notReserved⟩

omit [DecidableEq κ] [DecidableEq ω] [DecidableEq ι] in
/-- Whatever an owner does at its own place leaves the others alone. -/
theorem undisturbed {owner other : ω} {lease otherLease : Lease κ ι}
    {armed : Bool} (leased : state.lease owner = some lease)
    (different : other ≠ owner)
    (stored : state.slot otherLease.conn otherLease.id =
      some { owner := other, armed := armed }) :
    ¬(otherLease.conn = lease.conn ∧ otherLease.id = lease.id) := by
  rintro ⟨sameConn, sameId⟩
  rw [sameConn, sameId] at stored
  exact different (faithful.slot_owner recycles timely leased stored)

omit [DecidableEq κ] [DecidableEq ι] in
theorem discard_reply_of_ne {owner other : ω} {lease : Lease κ ι}
    (leased : state.lease owner = some lease) (different : other ≠ owner) :
    (state.discard (state.slot lease.conn lease.id)).reply other =
      state.reply other := by
  rw [State.discard_reply, if_neg]
  intro stored
  exact different (faithful.slot_owner recycles timely leased stored)

omit [DecidableEq κ] [DecidableEq ι] in
/-- A step at the place of one owner, for the requests of the others. -/
theorem held_other {owner other : ω} {lease otherLease : Lease κ ι}
    (leased : state.lease owner = some lease) (different : other ≠ owner)
    (slots : ∀ conn id, ¬(conn = lease.conn ∧ id = lease.id) →
      next.slot conn id = state.slot conn id)
    (replies : next.reply other =
      (state.discard (state.slot lease.conn lease.id)).reply other)
    (otherLeased : state.lease other = some otherLease)
    (isOpen : state.closed otherLease.conn = false)
    (unanswered : Unanswered next other otherLease) :
    ∃ armed, next.slot otherLease.conn otherLease.id =
      some { owner := other, armed := armed } := by
  rw [faithful.discard_reply_of_ne recycles timely leased different]
    at replies
  simp only [Unanswered, replies] at unanswered
  obtain ⟨armed, stored⟩ := faithful.held _ _ otherLeased isOpen unanswered
  refine ⟨armed, ?_⟩
  rw [slots _ _ (faithful.undisturbed recycles timely leased different stored)]
  exact stored

theorem held_arm {owner : ω} {lease : Lease κ ι}
    (leased : state.lease owner = some lease) :
    Held ((((state.discard (state.slot lease.conn lease.id)).setReply owner
      .pending).setSlot lease.conn lease.id
        (some { owner := owner, armed := true })).setLease owner
          (some { lease with stage := .armed })) := by
  intro other held isHeld isOpen unanswered
  by_cases same : other = owner
  · simp only [State.setLease, if_pos same, Option.some.injEq] at isHeld
    subst isHeld same
    exact ⟨true, by simp [State.setLease, State.setSlot, State.setReply]⟩
  · simp only [State.setLease, if_neg same, State.setSlot, State.setReply,
      State.discard_lease] at isHeld
    simp only [State.setLease, State.setSlot, State.setReply,
      State.discard_closed] at isOpen
    refine faithful.held_other recycles timely leased same ?_ ?_ isHeld isOpen
      unanswered
    · intro conn id outside
      simp [State.setLease, State.setSlot, State.setReply, outside]
    · simp [State.setLease, State.setSlot, State.setReply, same]

theorem held_release {owner : ω} {lease : Lease κ ι}
    (leased : state.lease owner = some lease) :
    Held (((state.discard (state.slot lease.conn lease.id)).setSlot lease.conn
      lease.id none).setLease owner none) := by
  intro other held isHeld isOpen unanswered
  by_cases same : other = owner
  · simp [State.setLease, same] at isHeld
  · simp only [State.setLease, if_neg same, State.setSlot,
      State.discard_lease] at isHeld
    simp only [State.setLease, State.setSlot, State.discard_closed] at isOpen
    refine faithful.held_other recycles timely leased same ?_ ?_ isHeld isOpen
      unanswered
    · intro conn id outside
      simp [State.setLease, State.setSlot, outside]
    · simp [State.setLease, State.setSlot]

/-- An answer in time empties the slot of a request that is answered by it. -/
theorem held_answer {conn : κ} {position : Nat} {frame : Frame ω β} {body : β}
    (sent : frame ∈ state.sent conn)
    (inTime : state.draws conn ≤ frame.draw + window) :
    Held ((state.deliver conn (ident frame.draw) body).mark conn position
      body) := by
  intro owner lease leased isOpen unanswered
  simp only [State.mark, State.setSent, State.deliver_lease,
    State.deliver_closed] at leased isOpen
  simp only [Unanswered, State.mark, State.setSent, State.deliver_reply]
    at unanswered
  have before : Unanswered state owner lease := by
    rcases unanswered with reserved | silent
    · exact Or.inl reserved
    · right
      intro reply answered
      apply silent reply
      rw [if_neg, answered]
      intro stored
      rw [faithful.owned.pending stored] at answered
      cases answered
  obtain ⟨armed, stored⟩ := faithful.held _ _ leased isOpen before
  have outside : ¬(lease.conn = conn ∧ lease.id = ident frame.draw) := by
    rintro ⟨rfl, sameId⟩
    rw [sameId] at stored
    obtain ⟨_, rfl⟩ := faithful.answer_owner recycles timely sent inTime stored
    rcases unanswered with reserved | silent
    · obtain ⟨held, isHeld, _, _, isArmed⟩ := faithful.owned.leased stored
      rw [leased] at isHeld
      cases isHeld
      exact isArmed.mp rfl reserved
    · exact silent body (if_pos stored)
  refine ⟨armed, ?_⟩
  simp only [State.mark, State.setSent, State.deliver_slot, if_neg outside]
  exact stored

theorem held_step (stepped : Step ident window False state next) :
    Held next := by
  cases stepped with
  | reserve idle drawn vacant => exact faithful.held.reserve vacant
  | search advanced => exact faithful.held
  | arm leased stage => exact faithful.held_arm recycles timely leased
  | write leased stage =>
      apply faithful.held.restage leased
      rintro _ ⟨⟩
      exact ⟨rfl, rfl, by simp⟩
  | quit leased stage =>
      apply faithful.held.restage leased
      rintro _ ⟨⟩
      exact ⟨rfl, rfl, by simp⟩
  | stray allowed => exact allowed.elim
  | answer found unanswered inTime =>
      have sent := List.mem_iff_getElem?.mpr ⟨_, found⟩
      exact faithful.held_answer recycles timely sent
        (inTime.resolve_left id)
  | finish leased stage replied =>
      apply faithful.held.restage leased
      rintro _ ⟨⟩
  | release leased stage => exact faithful.held_release recycles timely leased
  | close conn => exact Held.close faithful.owned faithful.held conn

theorem answered_answer {conn : κ} {position : Nat} {frame : Frame ω β}
    {body : β} (found : (state.sent conn)[position]? = some frame)
    (unanswered : frame.answer = none)
    (inTime : state.draws conn ≤ frame.draw + window) :
    Answered ((state.deliver conn (ident frame.draw) body).mark conn position
      body) := by
  intro owner lease reply leased late answered
  simp only [State.mark, State.setSent, State.deliver_lease,
    State.deliver_reply, State.deliver_sent] at leased answered ⊢
  by_cases stored : state.slot conn (ident frame.draw) =
      some { owner := owner, armed := true }
  · rw [if_pos stored] at answered
    cases answered
    have sent := List.mem_iff_getElem?.mpr ⟨_, found⟩
    obtain ⟨isOwner, _⟩ :=
      faithful.answer_owner recycles timely sent inTime stored
    obtain ⟨held, isHeld, rfl, _⟩ := faithful.owned.leased stored
    rw [leased] at isHeld
    cases isHeld
    rw [if_pos rfl]
    exact ⟨_, mem_modify_self found, isOwner, rfl⟩
  · rw [if_neg stored] at answered
    obtain ⟨earlier, member, isOwner, isAnswer⟩ :=
      faithful.answered _ _ _ leased late answered
    refine ⟨earlier, ?_, isOwner, isAnswer⟩
    by_cases same : lease.conn = conn
    · subst same
      rw [if_pos rfl]
      apply mem_modify_of_ne found member
      rintro rfl
      rw [unanswered] at isAnswer
      cases isAnswer
    · rw [if_neg same]
      exact member

theorem answered_step (stepped : Step ident window False state next) :
    Answered next := by
  cases stepped with
  | @reserve owner conn draw idle drawn vacant =>
      intro other lease body leased late answered
      by_cases same : other = owner
      · simp only [State.setDraws, State.setSlot, State.setLease, if_pos same,
          Option.some.injEq] at leased
        subst leased
        exact absurd rfl late
      · simp only [State.setDraws, State.setSlot, State.setLease,
          if_neg same] at leased
        exact faithful.answered _ _ _ leased late answered
  | search advanced => exact faithful.answered
  | @arm owner lease leased stage =>
      intro other held body isHeld late answered
      by_cases same : other = owner
      · simp [State.setLease, State.setSlot, State.setReply, same] at answered
      · simp only [State.setLease, State.setSlot, State.setReply, if_neg same,
          State.discard_lease, State.discard_sent] at isHeld answered ⊢
        rw [faithful.discard_reply_of_ne recycles timely leased same]
          at answered
        exact faithful.answered _ _ _ isHeld late answered
  | write leased stage =>
      apply Answered.append
      apply faithful.answered.restage leased
      rintro _ ⟨⟩
      exact ⟨rfl, by simp [stage]⟩
  | quit leased stage =>
      apply faithful.answered.restage leased
      rintro _ ⟨⟩
      refine ⟨rfl, ?_⟩
      rcases stage with stage | stage <;> simp [stage]
  | stray allowed => exact allowed.elim
  | answer found unanswered inTime =>
      exact faithful.answered_answer recycles timely found unanswered
        (inTime.resolve_left id)
  | finish leased stage replied =>
      apply faithful.answered.restage leased
      rintro _ ⟨⟩
  | @release owner lease leased stage =>
      intro other held body isHeld late answered
      by_cases same : other = owner
      · simp [State.setLease, same] at isHeld
      · simp only [State.setLease, State.setSlot, if_neg same,
          State.discard_lease, State.discard_sent] at isHeld answered ⊢
        rw [faithful.discard_reply_of_ne recycles timely leased same]
          at answered
        exact faithful.answered _ _ _ isHeld late answered
  | close conn =>
      intro owner lease body leased late answered
      apply faithful.answered _ _ _ leased late
      simp only [State.close] at answered
      split at answered
      · cases answered
      · exact answered

/-- A step from a state whose owners are all in time. -/
theorem step (stepped : Step ident window False state next) :
    Faithful ident next :=
  ⟨faithful.owned.step stepped, faithful.stamped.step stepped,
    faithful.held_step recycles timely stepped,
    faithful.answered_step recycles timely stepped⟩

end Faithful

/-- An owner waits for a reply on a closed connection that still stores its
slot, which nobody will ever empty. -/
def Stranded (state : State κ ω ι β) (owner : ω) : Prop :=
  ∃ lease, state.lease owner = some lease ∧ lease.stage = .sent ∧
    state.closed lease.conn = true ∧
    state.slot lease.conn lease.id = some { owner := owner, armed := true }

/-- An owner has armed a slot of a connection that is closed already. -/
def Deaf (state : State κ ω ι β) (owner : ω) : Prop :=
  ∃ lease, state.lease owner = some lease ∧ lease.stage = .armed ∧
    state.closed lease.conn = true ∧
    state.slot lease.conn lease.id = some { owner := owner, armed := true }

/-- Owners are stranded by writing to a connection that does not listen. -/
theorem Stranded.before {ident : Nat → ι} {window : Nat} {misbehaves : Prop}
    {state next : State κ ω ι β} {owner : ω}
    (stepped : Step ident window misbehaves state next)
    (stranded : Stranded next owner) :
    Stranded state owner ∨ Deaf state owner := by
  obtain ⟨lease, leased, sent, closed, stored⟩ := stranded
  cases stepped with
  | reserve idle drawn vacant =>
      simp only [State.setLease, State.setSlot, State.setDraws] at *
      grind [Stranded]
  | search advanced => exact Or.inl ⟨lease, leased, sent, closed, stored⟩
  | arm leased stage =>
      simp only [State.setLease, State.setSlot, State.setReply,
        State.discard_lease, State.discard_slot, State.discard_closed] at *
      grind [Stranded]
  | write leased stage =>
      simp only [State.setLease, State.setSent] at *
      grind [Stranded, Deaf]
  | quit leased stage =>
      simp only [State.setLease] at *
      grind [Stranded]
  | stray allowed =>
      simp only [State.deliver_lease, State.deliver_slot,
        State.deliver_closed] at *
      grind [Stranded]
  | answer found unanswered inTime =>
      simp only [State.mark, State.setSent, State.deliver_lease,
        State.deliver_slot, State.deliver_closed] at *
      grind [Stranded]
  | finish leased stage replied =>
      simp only [State.setLease] at *
      grind [Stranded]
  | release leased stage =>
      simp only [State.setLease, State.setSlot, State.discard_lease,
        State.discard_slot, State.discard_closed] at *
      grind [Stranded]
  | close conn =>
      simp only [State.close] at *
      grind [Stranded]

/-! ## The slots of an open connection -/

section Open

variable {ident : Nat → ι} {window : Nat} {misbehaves : Prop}
  {state next : State κ ω ι β} {conn : κ}

omit [DecidableEq κ] [DecidableEq ω] [DecidableEq ι] in
/-- While a connection is open, its slots are those of the requests without an
answer. -/
theorem Held.slot_iff (owned : Owned state) (held : Held state)
    (isOpen : state.closed conn = false) (id : ι) :
    state.slot conn id ≠ none ↔
      ∃ owner lease, state.lease owner = some lease ∧ lease.conn = conn ∧
        lease.id = id ∧ Unanswered state owner lease := by
  constructor
  · intro occupied
    obtain ⟨⟨owner, armed⟩, found⟩ := Option.ne_none_iff_exists'.mp occupied
    obtain ⟨lease, leased, sameConn, sameId, stage⟩ := owned.leased found
    refine ⟨owner, lease, leased, sameConn, sameId, ?_⟩
    cases armed with
    | false =>
        by_contra answered
        exact absurd (stage.mpr fun reserved => answered (Or.inl reserved))
          (by simp)
    | true =>
        right
        intro body answered
        rw [owned.pending found] at answered
        cases answered
  · rintro ⟨owner, lease, leased, rfl, rfl, unanswered⟩
    obtain ⟨armed, found⟩ := held owner lease leased isOpen unanswered
    rw [found]
    exact Option.some_ne_none _

omit [DecidableEq κ] [DecidableEq ω] [DecidableEq ι] in
/-- Requests without an answer have different identifiers. -/
theorem Held.distinct (held : Held state) {owner other : ω}
    {lease otherLease : Lease κ ι} (leased : state.lease owner = some lease)
    (otherLeased : state.lease other = some otherLease)
    (isOpen : state.closed lease.conn = false)
    (unanswered : Unanswered state owner lease)
    (otherUnanswered : Unanswered state other otherLease)
    (sameConn : otherLease.conn = lease.conn)
    (sameId : otherLease.id = lease.id) : owner = other := by
  obtain ⟨armed, found⟩ := held owner lease leased isOpen unanswered
  obtain ⟨otherArmed, otherFound⟩ := held other otherLease otherLeased
    (sameConn ▸ isOpen) otherUnanswered
  rw [sameConn, sameId, found] at otherFound
  cases otherFound
  rfl

theorem Step.closed (stepped : Step ident window misbehaves state next)
    (closed : state.closed conn = true) : next.closed conn = true := by
  cases stepped with
  | close other =>
      simp only [State.close]
      split
      · rfl
      · exact closed
  | arm | release | stray | answer =>
      simpa [State.setLease, State.setSlot, State.setReply, State.mark,
        State.setSent] using closed
  | _ => exact closed

/-- An open connection without slots gets one by a new request only. -/
theorem Held.vacant_step (held : Held state)
    (isOpen : state.closed conn = false)
    (vacant : ∀ id, state.slot conn id = none)
    (stepped : Step ident window misbehaves state next) :
    (∀ id, next.slot conn id = none) ∨
      ∃ owner lease, state.lease owner = none ∧
        next.lease owner = some lease ∧ lease.conn = conn := by
  cases stepped with
  | @reserve owner other draw idle drawn vacantId =>
      by_cases same : other = conn
      · subst same
        right
        refine ⟨owner, _, idle, if_pos rfl, ?_⟩
        rfl
      · left
        intro id
        simp [State.setDraws, State.setSlot, State.setLease, Ne.symm same,
          vacant]
  | @arm owner lease leased reserved =>
      left
      intro id
      have elsewhere : conn ≠ lease.conn := by
        rintro rfl
        obtain ⟨armed, found⟩ :=
          held owner lease leased isOpen (Or.inl reserved)
        rw [vacant] at found
        cases found
      simp [State.setSlot, State.setLease, State.setReply, elsewhere, vacant]
  | stray | answer | release | close =>
      left
      intro id
      simp [State.setSlot, State.setLease, State.mark, State.setSent,
        State.close, vacant]
  | _ => exact Or.inl vacant

end Open

end Multiplexer
