import Mathlib.Data.List.Basic

/-!
# Bounded channels

A channel of a fixed depth hands its messages over in the order in which they
were put in.  Sending fails exactly when the channel is full.
-/

/-- Messages waiting in a channel, oldest first. -/
structure Channel (α : Type*) (depth : Nat) where
  queue : List α
  bounded : queue.length ≤ depth

namespace Channel

variable {α : Type*} {depth : Nat}

def empty : Channel α depth :=
  ⟨[], Nat.zero_le depth⟩

def send? (channel : Channel α depth) (message : α) :
    Option (Channel α depth) :=
  if room : channel.queue.length < depth then
    some
      ⟨channel.queue ++ [message], by
        rw [List.length_append, List.length_singleton]
        exact room⟩
  else none

def recv? : Channel α depth → Option (α × Channel α depth)
  | ⟨[], _⟩ => none
  | ⟨message :: queue, bounded⟩ =>
      some (message, ⟨queue, Nat.le_of_succ_le bounded⟩)

theorem queue_of_send {channel later : Channel α depth} {message : α}
    (sent : channel.send? message = some later) :
    later.queue = channel.queue ++ [message] := by
  unfold send? at sent
  split at sent
  · cases sent
    rfl
  · cases sent

theorem queue_of_recv {channel later : Channel α depth} {message : α}
    (received : channel.recv? = some (message, later)) :
    channel.queue = message :: later.queue := by
  obtain ⟨queue, bounded⟩ := channel
  cases queue with
  | nil => cases received
  | cons head rest =>
      cases received
      rfl

/-- A channel with room takes a message. -/
theorem exists_send {channel : Channel α depth}
    (room : channel.queue.length < depth) (message : α) :
    ∃ later, channel.send? message = some later := by
  unfold send?
  rw [dif_pos room]
  exact ⟨_, rfl⟩

theorem queue_of_recv_none {channel : Channel α depth}
    (nothing : channel.recv? = none) : channel.queue = [] := by
  obtain ⟨queue, bounded⟩ := channel
  cases queue with
  | nil => rfl
  | cons head rest => cases nothing

end Channel
