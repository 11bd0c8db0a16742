import Mathlib.Data.List.Basic

/-!
# Bounded channels

A first-in first-out channel with a fixed capacity between any number of senders and one
receiver. A send never waits: it appends its message or gives it back. A receive waits
for a message and reports the end only once every sender is gone and nothing is left.

`Ledger` relates a channel to what has passed through it: what was sent is what was
received, in the same order, followed by what still stands in the buffer. The messages
are arbitrary.
-/

namespace Channels

universe u
variable {Message : Type u}

structure Channel (Message : Type u) where
  capacity : Nat
  buffer : List Message
  sender : Bool
  receiver : Bool
  deriving DecidableEq, Repr

inductive TrySendError where
  | full
  | disconnected
  deriving DecidableEq, Repr

/-- What a receive that returned yields. -/
inductive Received (Message : Type u) where
  | message (message : Message)
  | disconnected
  deriving DecidableEq, Repr

namespace Channel

/-- A new channel with both of its ends. -/
def new (capacity : Nat) : Channel Message where
  capacity := capacity
  buffer := []
  sender := true
  receiver := true

variable (channel : Channel Message)

/-- Append a message if there is room for it. -/
def trySend (message : Message) : Except TrySendError (Channel Message) :=
  if !channel.receiver then .error .disconnected
  else if channel.capacity ≤ channel.buffer.length then .error .full
  else .ok { channel with buffer := channel.buffer ++ [message] }

/-- Take the first message, or nothing yet while a sender may still send one. -/
def recv : Option (Received Message × Channel Message) :=
  match channel.buffer with
  | message :: rest => some (.message message, { channel with buffer := rest })
  | [] => if channel.sender then none else some (.disconnected, channel)

/-- The last sender is dropped. -/
def dropSender : Channel Message := { channel with sender := false }

/-- The receiver is dropped. -/
def dropReceiver : Channel Message := { channel with receiver := false }

end Channel

variable {channel next : Channel Message} {message : Message} {sent received : List Message}

/-- An accepted message stands last in the buffer, and nothing else changes. -/
theorem Channel.trySend_ok (accepted : channel.trySend message = .ok next) :
    next = { channel with buffer := channel.buffer ++ [message] } ∧
      channel.buffer.length < channel.capacity := by
  unfold Channel.trySend at accepted
  split at accepted
  · cases accepted
  · split at accepted
    · cases accepted
    · rename_i room
      cases accepted
      exact ⟨rfl, Nat.lt_of_not_le room⟩

/-- A received message stood first in the buffer. -/
theorem Channel.recv_message (taken : channel.recv = some (.message message, next)) :
    channel.buffer = message :: next.buffer ∧
      next = { channel with buffer := next.buffer } := by
  unfold Channel.recv at taken
  split at taken
  · rename_i first rest buffered
    cases taken
    exact ⟨buffered, rfl⟩
  · split at taken <;> cases taken

/-- A receive drops no sender. -/
theorem Channel.recv_sender (taken : channel.recv = some (.message message, next)) :
    next.sender = channel.sender := by
  rw [(Channel.recv_message taken).2]

/-- The end is reported when every sender is gone and nothing is left. -/
theorem Channel.recv_disconnected (ended : channel.recv = some (.disconnected, next)) :
    channel.buffer = [] ∧ channel.sender = false ∧ next = channel := by
  unfold Channel.recv at ended
  split at ended
  · cases ended
  · rename_i empty
    split at ended
    · cases ended
    · rename_i gone
      cases ended
      exact ⟨empty, by simpa using gone, rfl⟩

/-- A receive without a sender never waits. -/
theorem Channel.recv_enabled (gone : channel.sender = false) : channel.recv.isSome := by
  unfold Channel.recv
  split
  · rfl
  · rw [gone]
    rfl

/-- What was sent through a channel, what was received from it and what it holds. -/
structure Ledger (sent received : List Message) (channel : Channel Message) : Prop where
  balance : sent = received ++ channel.buffer
  bounded : channel.buffer.length ≤ channel.capacity

namespace Ledger

/-- The ledger of a new channel. -/
theorem new (capacity : Nat) : Ledger [] [] (Channel.new capacity : Channel Message) :=
  ⟨rfl, Nat.zero_le _⟩

/-- An accepted message is sent. -/
theorem send (ledger : Ledger sent received channel)
    (accepted : channel.trySend message = .ok next) :
    Ledger (sent ++ [message]) received next := by
  obtain ⟨rfl, room⟩ := Channel.trySend_ok accepted
  constructor
  · rw [ledger.balance, List.append_assoc]
  · rw [List.length_append, List.length_singleton]
    exact room

/-- A message that is taken is received. -/
theorem receive (ledger : Ledger sent received channel)
    (taken : channel.recv = some (.message message, next)) :
    Ledger sent (received ++ [message]) next := by
  obtain ⟨buffered, same⟩ := Channel.recv_message taken
  constructor
  · rw [ledger.balance, buffered, List.append_assoc, List.singleton_append]
  · have bounded := ledger.bounded
    rw [buffered, List.length_cons] at bounded
    rw [same]
    exact Nat.le_of_succ_le bounded

/-- Nothing is sent or received when an end is dropped. -/
theorem dropped (ledger : Ledger sent received channel) (buffer : next.buffer = channel.buffer)
    (capacity : next.capacity = channel.capacity) : Ledger sent received next := by
  constructor
  · rw [ledger.balance, buffer]
  · rw [buffer, capacity]
    exact ledger.bounded

end Ledger

end Channels
