import Orihsus.AuditWriter

/-!
# Steps of the audit writer

`Moves` lists what a step of the writer can do. Every law of this file is a case analysis
of it, and says what one step does to the commands, to the offers, to the file in use or
to the failures, in terms of what is read off the steps taken so far.
-/

namespace Orihsus.Audit

open Channels (Channel Ledger)

variable {Record : Type}

/-! ## What a step does -/

/-- What the thread did with a command: hand a record to a file, swap onto another file
or keep the one it has. -/
inductive Effect (Record : Type) where
  | write (record : Record) (sink : Sink)
  | install (path : String) (ticket : Nat) (sink : Sink)
  | keep (path : String) (ticket : Nat)
  deriving DecidableEq, Repr

namespace Effect

/-- The command that was carried out. -/
def command : Effect Record → Command Record
  | .write record _ => .record record
  | .install path ticket _ => .reopen path ticket
  | .keep path ticket => .reopen path ticket

/-- The file that was installed. -/
def installed : Effect Record → Option Sink
  | .install _ _ sink => some sink
  | _ => none

/-- The call of `write_all` that was made. -/
def written : Effect Record → Option (Record × Sink)
  | .write record sink => some (record, sink)
  | _ => none

end Effect

/-- The record of a command. -/
def Command.offered : Command Record → Option Record
  | .record given => some given
  | .reopen _ _ => none

/-- The ticket of a command. -/
def Command.ticket : Command Record → Option Nat
  | .record _ => none
  | .reopen _ ticket => some ticket

/-- The record of an accepted offer. -/
def Offer.accepted (offer : Offer Record) : Option Record :=
  match offer.state with
  | .accepted => some offer.record
  | _ => none

/-- The command that the thread has in its hands. -/
def Phase.inHand : Phase Record → List (Command Record)
  | .writing record _ => [.record record]
  | .opening path ticket => [.reopen path ticket]
  | _ => []

/-- The failure that the thread has yet to count. -/
def Phase.uncounted : Phase Record → List IoError
  | .counting error => [error]
  | .countingFlush error => [error]
  | _ => []

/-- The thread has left its loop. -/
def Phase.ending : Phase Record → Bool
  | .flushing => true
  | .countingFlush _ => true
  | .returned _ => true
  | _ => false

namespace Service

/-- The command, if the channel takes it now. -/
def sent (service : Service Record) (command : Command Record) : Option (Command Record) :=
  if service.channel.sender then
    match service.channel.trySend command with
    | .ok _ => some command
    | .error _ => none
  else none

/-- The command that a step puts into the channel. -/
def sends (service : Service Record) : Action Record → Option (Command Record)
  | .tryRecord record => service.sent (.record record)
  | .reopen path => service.sent (.reopen path service.reopens.length)
  | _ => none

/-- The command that a step takes out of the channel. -/
def takes (service : Service Record) : Action Record → Option (Command Record)
  | .receive =>
      match service.channel.recv with
      | some (.message command, _) => some command
      | _ => none
  | _ => none

/-- The command that a step carries out. -/
def effect (service : Service Record) : Action Record → Option (Effect Record)
  | .writeAll _ =>
      match service.thread.phase with
      | .writing record _ => some (.write record service.thread.sink)
      | _ => none
  | .openAppend opened =>
      match service.thread.phase, opened with
      | .opening path ticket, .again file => some (.install path ticket ⟨some ticket, file⟩)
      | .opening path ticket, .fresh _ =>
          some (.install path ticket ⟨some ticket, service.files.length⟩)
      | .opening path ticket, .failed _ => some (.keep path ticket)
      | _, _ => none
  | _ => none

/-- The error of a `write_all` or a `flush` that failed. -/
def failure : Action Record → Option IoError
  | .writeAll (.failed _ error) => some error
  | .flush error => error
  | _ => none

/-- The step relation, one constructor for each thing that can happen. -/
inductive Moves (encoder : Encoder Record) (service : Service Record) :
    Action Record → Service Record → Prop
  | ticked (elapsed : Nat) :
      Moves encoder service (.tick elapsed) { service with clock := service.clock + elapsed }
  | accepted {record : Record} {channel : Channel (Command Record)}
      (sent : service.sent (.record record) = some (.record record))
      (enqueued : service.channel.trySend (.record record) = .ok channel) :
      Moves encoder service (.tryRecord record)
        { service with channel := channel, offers := service.offers ++ [⟨record, .accepted⟩] }
  | refused {record : Record} (unsent : service.sent (.record record) = none) :
      Moves encoder service (.tryRecord record)
        { service with offers := service.offers ++ [⟨record, .refused⟩] }
  | dropped {call : Nat} {record : Record}
      (present : service.offers[call]? = some ⟨record, .refused⟩) :
      Moves encoder service (.countDrop call) { service with
        offers := service.offers.set call ⟨record, .dropped⟩
        writer := { service.writer with dropped := service.writer.dropped + 1, dropWarned := true }
        stderr := service.stderr ++ warnOnce service.writer.dropWarned dropWarning }
  | asked {path : String} {channel : Channel (Command Record)} {deadline : Nat}
      (sent : service.sent (.reopen path service.reopens.length) =
        some (.reopen path service.reopens.length))
      (enqueued : service.channel.trySend (.reopen path service.reopens.length) = .ok channel) :
      Moves encoder service (.reopen path) { service with
        channel := channel
        reopens := service.reopens ++ [⟨path, .pending, .waiting deadline⟩] }
  | denied {path : String} {error : AuditError}
      (unsent : service.sent (.reopen path service.reopens.length) = none) :
      Moves encoder service (.reopen path)
        { service with reopens := service.reopens ++ [⟨path, .pending, .returned (.error error)⟩] }
  | answered {call deadline : Nat} {path : String} {reply : Oneshot}
      {answer : Except AuditError Unit}
      (present : service.reopens[call]? = some ⟨path, reply, .waiting deadline⟩)
      (given : awaited reply deadline service.clock .reopenTimeout = some answer) :
      Moves encoder service (.awaitReply call)
        { service with reopens := service.reopens.set call ⟨path, reply, .returned answer⟩ }
  | encoded {record : Record} {channel : Channel (Command Record)} {line : List UInt8}
      (phase : service.thread.phase = .receiving)
      (taken : service.channel.recv = some (.message (.record record), channel))
      (text : encoder.encode record = .ok line) :
      Moves encoder service .receive
        ({ service with channel := channel }.withPhase (.writing record (line ++ [newline])))
  | skipped {record : Record} {channel : Channel (Command Record)} {text : String}
      (phase : service.thread.phase = .receiving)
      (taken : service.channel.recv = some (.message (.record record), channel))
      (unencoded : encoder.encode record = .error text) :
      Moves encoder service .receive { service with
        channel := channel
        thread := { service.thread with
          firstError := service.thread.firstError <|>
            some (.other ("serialize audit record: " ++ text)) } }
  | turned {path : String} {ticket : Nat} {channel : Channel (Command Record)}
      (phase : service.thread.phase = .receiving)
      (taken : service.channel.recv = some (.message (.reopen path ticket), channel)) :
      Moves encoder service .receive
        ({ service with channel := channel }.withPhase (.opening path ticket))
  | ended {channel : Channel (Command Record)} (phase : service.thread.phase = .receiving)
      (gone : service.channel.recv = some (.disconnected, channel)) :
      Moves encoder service .receive (service.withPhase .flushing)
  | wrote {record : Record} {line : List UInt8}
      (phase : service.thread.phase = .writing record line) :
      Moves encoder service (.writeAll .done)
        ((service.appendTo service.thread.sink.file line).withPhase .receiving)
  | failed {record : Record} {line : List UInt8} {count : Nat} {error : IoError}
      (phase : service.thread.phase = .writing record line) :
      Moves encoder service (.writeAll (.failed count error))
        ((service.appendTo service.thread.sink.file (line.take count)).withPhase (.counting error))
  | reinstalled {path : String} {ticket file : Nat}
      (phase : service.thread.phase = .opening path ticket) (known : file < service.files.length) :
      Moves encoder service (.openAppend (.again file))
        ((service.install ticket file).reply ticket (.ok ()))
  | installed {path : String} {ticket : Nat} {contents : List UInt8}
      (phase : service.thread.phase = .opening path ticket) :
      Moves encoder service (.openAppend (.fresh contents))
        (({ service with files := service.files ++ [contents] }.install ticket
          service.files.length).reply ticket (.ok ()))
  | kept {path : String} {ticket : Nat} {error : IoError}
      (phase : service.thread.phase = .opening path ticket) :
      Moves encoder service (.openAppend (.failed error))
        ((service.withPhase .receiving).reply ticket (.error (.io error)))
  | flushed (phase : service.thread.phase = .flushing) :
      Moves encoder service (.flush none) (service.finish service.thread.firstError)
  | unflushed {error : IoError} (phase : service.thread.phase = .flushing) :
      Moves encoder service (.flush (some error)) (service.withPhase (.countingFlush error))
  | countedWrite {error : IoError} (phase : service.thread.phase = .counting error) :
      Moves encoder service .countFailure { service.counted with
        thread := { service.counted.thread with
          phase := .receiving
          firstError := service.thread.firstError <|> some error } }
  | countedFlush {error : IoError} (phase : service.thread.phase = .countingFlush error) :
      Moves encoder service .countFailure
        (service.counted.finish (service.thread.firstError <|> some error))
  | closed {action : Action Record} {waiting : Closing}
      (quiet : action = .shutdown ∧ waiting = .joining ∨
        action = .shutdownBounded ∧ ∃ deadline, waiting = .supervised deadline .pending)
      (serving : service.closing = .serving) :
      Moves encoder service action { service with
        channel := service.channel.dropSender
        writer := { service.writer with handle := false }
        closing := if service.writer.handle then waiting else .returned (.ok ()) }
  | supervised {deadline : Nat} {result : Except AuditError Unit}
      (waiting : service.closing = .supervised deadline .pending)
      (phase : service.thread.phase = .returned result) :
      Moves encoder service .supervise
        { service with closing := .supervised deadline (.sent result) }
  | joined {result : Except AuditError Unit} (waiting : service.closing = .joining)
      (phase : service.thread.phase = .returned result) :
      Moves encoder service .join { service with closing := .returned result }
  | awaited {deadline : Nat} {done : Oneshot} {result : Except AuditError Unit}
      (waiting : service.closing = .supervised deadline done)
      (given : Service.awaited done deadline service.clock .shutdownTimeout = some result) :
      Moves encoder service .join { service with closing := .returned result }
  | detached {writer : AuditWriter} {stderr : List String}
      (serving : service.closing = .serving) (dropped : writer.dropped = service.writer.dropped)
      (failures : writer.writeFailures = service.writer.writeFailures) :
      Moves encoder service .drop { service with
        channel := service.channel.dropSender
        writer := writer
        closing := .detached
        stderr := stderr }

variable {encoder : Encoder Record} {first before after last service : Service Record}
  {action : Action Record} {command : Command Record} {record : Record}
  {trace : List (Runs.Transition (Service Record) (Action Record))}
  {path : String} {error : IoError} {ticket : Nat}

/-- What the channel accepts of a writer that can send is sent. -/
theorem sent_ok {channel : Channel (Command Record)} (sender : service.channel.sender = true)
    (enqueued : service.channel.trySend command = .ok channel) :
    service.sent command = some command := by
  rw [sent, if_pos sender, enqueued]

/-- What the channel rejects is not sent. -/
theorem sent_error {error : Channels.TrySendError}
    (full : service.channel.trySend command = .error error) : service.sent command = none := by
  rw [sent, full]
  exact ite_self none

/-- A writer that was shut down sends nothing. -/
theorem sent_gone (gone : service.channel.sender = false) : service.sent command = none := by
  rw [sent, gone]
  rfl

/-- What the channel takes now is what is sent. -/
theorem sent_some {taken : Command Record} (sent : service.sent command = some taken) :
    taken = command ∧ service.channel.sender = true := by
  unfold Service.sent at sent
  split at sent
  · rename_i sender
    split at sent
    · cases sent
      exact ⟨rfl, sender⟩
    · cases sent
  · cases sent

/-- An offer is accepted or refused. -/
theorem tryRecord_moves : Moves encoder service (.tryRecord record) (service.tryRecord record) := by
  unfold tryRecord
  cases sender : service.channel.sender with
  | false => exact .refused (sent_gone sender)
  | true =>
    cases tried : service.channel.trySend (.record record) with
    | ok channel => exact .accepted (sent_ok sender tried) tried
    | error reason => exact .refused (sent_error tried)

/-- A reopen is asked for or denied. -/
theorem reopen_moves : Moves encoder service (.reopen path) (service.reopen path) := by
  unfold reopen
  cases sender : service.channel.sender with
  | false => exact .denied (sent_gone sender)
  | true =>
    cases tried : service.channel.trySend (.reopen path service.reopens.length) with
    | ok channel => exact .asked (sent_ok sender tried) tried
    | error reason =>
      cases reason with
      | full | disconnected => exact .denied (sent_error tried)

/-- What the thread makes of what it receives. -/
theorem receive_moves (received : before.receive encoder = some after) :
    Moves encoder before .receive after := by
  unfold receive at received
  split at received
  · rename_i record channel phase taken
    split at received
    · rename_i line text
      cases received
      exact .encoded phase taken text
    · rename_i text unencoded
      cases received
      exact .skipped phase taken unencoded
  · rename_i path ticket channel phase taken
    cases received
    exact .turned phase taken
  · rename_i channel phase gone
    cases received
    exact .ended phase gone
  · cases received

/-- A record is written, or the error is kept. -/
theorem writeAll_moves {written : Written} (wrote : before.writeAll written = some after) :
    Moves encoder before (.writeAll written) after := by
  unfold writeAll at wrote
  split at wrote
  · rename_i record line phase
    cases written with
    | done =>
      cases wrote
      exact .wrote phase
    | failed count error =>
      cases wrote
      exact .failed phase
  · cases wrote

/-- A file is installed, or the old one is kept. -/
theorem openAppend_moves {opened : Opened} (turned : before.openAppend opened = some after) :
    Moves encoder before (.openAppend opened) after := by
  unfold openAppend at turned
  split at turned
  · rename_i path ticket phase
    cases opened with
    | again file =>
      dsimp only at turned
      split at turned
      · rename_i known
        cases turned
        exact .reinstalled phase known
      · cases turned
    | fresh contents =>
      cases turned
      exact .installed phase
    | failed error =>
      cases turned
      exact .kept phase
  · cases turned

/-- The flush at the end succeeds or fails. -/
theorem flush_moves {error : Option IoError} (flushed : before.flush error = some after) :
    Moves encoder before (.flush error) after := by
  unfold flush at flushed
  split at flushed
  · rename_i phase
    cases flushed
    exact .flushed phase
  · rename_i error phase
    cases flushed
    exact .unflushed phase
  · cases flushed

/-- A failure is counted once, of a write or of the flush. -/
theorem countFailure_moves (counted : before.countFailure = some after) :
    Moves encoder before .countFailure after := by
  unfold countFailure at counted
  split at counted
  · rename_i error phase
    cases counted
    exact .countedWrite phase
  · rename_i error phase
    cases counted
    exact .countedFlush phase
  · cases counted

/-- Both shutdowns take the handle and drop the sender. -/
theorem close_moves {waiting : Closing} (closed : before.close waiting = some after)
    (quiet : action = .shutdown ∧ waiting = .joining ∨
      action = .shutdownBounded ∧ ∃ deadline, waiting = .supervised deadline .pending) :
    Moves encoder before action after := by
  unfold close at closed
  split at closed
  · rename_i serving
    cases closed
    exact .closed quiet serving
  · cases closed

/-- A shutdown returns what the thread or its supervisor returned. -/
theorem join_moves (joined : before.join = some after) : Moves encoder before .join after := by
  unfold join at joined
  split at joined
  · rename_i result waiting phase
    cases joined
    exact .joined waiting phase
  · rename_i deadline done waiting
    obtain ⟨result, given, rfl⟩ := Option.map_eq_some_iff.mp joined
    exact .awaited waiting given
  · cases joined

/-- Every step is one of the moves. -/
theorem step_moves (stepped : Step encoder before action after) :
    Moves encoder before action after := by
  unfold Step at stepped
  cases action with
  | tick elapsed =>
    cases stepped
    exact .ticked elapsed
  | tryRecord record =>
    cases stepped
    exact tryRecord_moves
  | countDrop call =>
    simp only [perform, countDrop] at stepped
    split at stepped
    · rename_i record present
      cases stepped
      exact .dropped present
    · cases stepped
  | reopen path =>
    cases stepped
    exact reopen_moves
  | awaitReply call =>
    simp only [perform, awaitReply] at stepped
    split at stepped
    · rename_i path reply deadline present
      obtain ⟨answer, given, rfl⟩ := Option.map_eq_some_iff.mp stepped
      exact .answered present given
    · cases stepped
  | receive => exact receive_moves stepped
  | writeAll written => exact writeAll_moves stepped
  | openAppend opened => exact openAppend_moves stepped
  | flush error => exact flush_moves stepped
  | countFailure => exact countFailure_moves stepped
  | shutdown => exact close_moves stepped (.inl ⟨rfl, rfl⟩)
  | shutdownBounded => exact close_moves stepped (.inr ⟨rfl, _, rfl⟩)
  | supervise =>
    simp only [perform, supervise] at stepped
    split at stepped
    · rename_i deadline result waiting phase
      cases stepped
      exact .supervised waiting phase
    · cases stepped
  | join => exact join_moves stepped
  | drop =>
    simp only [perform, detach] at stepped
    split at stepped
    · rename_i serving
      cases stepped
      exact .detached serving rfl rfl
    · cases stepped

/-- A `write_all` deals with the record in hand. -/
theorem effect_write {line : List UInt8} {written : Written}
    (phase : service.thread.phase = .writing record line) :
    service.effect (.writeAll written) = some (.write record service.thread.sink) := by
  simp only [effect, phase]

/-- A file that was open before is installed. -/
theorem effect_again {ticket file : Nat}
    (phase : service.thread.phase = .opening path ticket) :
    service.effect (.openAppend (.again file)) =
      some (.install path ticket ⟨some ticket, file⟩) := by
  simp only [effect, phase]

/-- So is a file that is opened for the first time. -/
theorem effect_fresh {contents : List UInt8}
    (phase : service.thread.phase = .opening path ticket) :
    service.effect (.openAppend (.fresh contents)) =
      some (.install path ticket ⟨some ticket, service.files.length⟩) := by
  simp only [effect, phase]

/-- A file that cannot be opened leaves the old one in use. -/
theorem effect_keep (phase : service.thread.phase = .opening path ticket) :
    service.effect (.openAppend (.failed error)) = some (.keep path ticket) := by
  simp only [effect, phase]

/-! ## What is read off a run -/

/-- The commands that entered the channel. -/
def enqueued (trace : List (Runs.Transition (Service Record) (Action Record))) :
    List (Command Record) :=
  trace.filterMap fun taken => taken.before.sends taken.label

/-- The commands that left the channel. -/
def dequeued (trace : List (Runs.Transition (Service Record) (Action Record))) :
    List (Command Record) :=
  trace.filterMap fun taken => taken.before.takes taken.label

/-- What the thread did with them. -/
def effects (trace : List (Runs.Transition (Service Record) (Action Record))) :
    List (Effect Record) :=
  trace.filterMap fun taken => taken.before.effect taken.label

/-- The calls of `write_all`. -/
def writes (trace : List (Runs.Transition (Service Record) (Action Record))) :
    List (Record × Sink) :=
  (effects trace).filterMap Effect.written

/-- The errors of `write_all` and `flush`. -/
def failures (trace : List (Runs.Transition (Service Record) (Action Record))) : List IoError :=
  trace.filterMap fun taken => failure taken.label

/-- The accepted records, in the order of their offers. -/
def accepted (service : Service Record) : List Record := service.offers.filterMap Offer.accepted

/-! ## First in, first out -/

variable {sent received : List (Command Record)} {done : List (Effect Record)}
  {errors : List IoError} {start : Sink}

/-- A step that neither sends nor receives. -/
theorem ledger_still (ledger : Ledger sent received before.channel)
    (unsent : before.sends action = none) (untaken : before.takes action = none)
    (buffer : after.channel.buffer = before.channel.buffer)
    (capacity : after.channel.capacity = before.channel.capacity) :
    Ledger (sent ++ (before.sends action).toList) (received ++ (before.takes action).toList)
      after.channel := by
  simp only [unsent, untaken, Option.toList_none, List.append_nil]
  exact ledger.dropped buffer capacity

/-- The channel is first in, first out, over every step. -/
theorem step_ledger (moved : Moves encoder before action after)
    (ledger : Ledger sent received before.channel) :
    Ledger (sent ++ (before.sends action).toList) (received ++ (before.takes action).toList)
      after.channel := by
  cases moved with
  | accepted sent enqueued | asked sent enqueued =>
    simp only [sends, sent, takes, Option.toList_none, Option.toList_some, List.append_nil]
    exact ledger.send enqueued
  | refused unsent | denied unsent => exact ledger_still ledger unsent rfl rfl rfl
  | encoded phase taken | skipped phase taken | turned phase taken =>
    simp only [sends, takes, taken, Option.toList_none, Option.toList_some, List.append_nil]
    exact ledger.receive taken
  | ended phase gone => exact ledger_still ledger rfl (by rw [takes, gone]) rfl rfl
  | closed quiet serving =>
    rcases quiet with ⟨rfl, _⟩ | ⟨rfl, _⟩
    · exact ledger_still ledger rfl rfl rfl rfl
    · exact ledger_still ledger rfl rfl rfl rfl
  | _ => exact ledger_still ledger rfl rfl rfl rfl

/-- A step that touches neither the commands nor the thread's hands. -/
theorem carried_still (carried : received = done.map Effect.command ++ before.thread.phase.inHand)
    (untaken : before.takes action = none) (undone : before.effect action = none)
    (hands : after.thread.phase.inHand = before.thread.phase.inHand) :
    received ++ (before.takes action).toList =
      (done ++ (before.effect action).toList).map Effect.command ++ after.thread.phase.inHand := by
  simp only [untaken, undone, hands, Option.toList_none, List.append_nil]
  exact carried

/-- A step that carries out the command in the thread's hands. -/
theorem carried_done {effect : Effect Record}
    (carried : received = done.map Effect.command ++ before.thread.phase.inHand)
    (untaken : before.takes action = none) (acted : before.effect action = some effect)
    (held : before.thread.phase.inHand = [effect.command])
    (empty : after.thread.phase.inHand = []) :
    received ++ (before.takes action).toList =
      (done ++ (before.effect action).toList).map Effect.command ++ after.thread.phase.inHand := by
  rw [untaken, acted, empty, carried, held, List.map_append]
  simp

/-- A step that takes a command into the thread's hands. -/
theorem carried_taken (carried : received = done.map Effect.command ++ before.thread.phase.inHand)
    (taken : before.takes action = some command) (undone : before.effect action = none)
    (empty : before.thread.phase.inHand = []) (held : after.thread.phase.inHand = [command]) :
    received ++ (before.takes action).toList =
      (done ++ (before.effect action).toList).map Effect.command ++ after.thread.phase.inHand := by
  rw [taken, undone, held, carried, empty]
  simp

/-- Whatever left the channel was carried out, save what the thread has in its hands. -/
theorem step_carried (encodes : ∀ record, ∃ line, encoder.encode record = .ok line)
    (moved : Moves encoder before action after)
    (carried : received = done.map Effect.command ++ before.thread.phase.inHand) :
    received ++ (before.takes action).toList =
      (done ++ (before.effect action).toList).map Effect.command ++ after.thread.phase.inHand := by
  cases moved with
  | encoded phase taken | turned phase taken =>
    exact carried_taken carried (by rw [takes, taken]) rfl (by rw [phase]; rfl) rfl
  | @skipped record channel text phase taken unencoded =>
    obtain ⟨line, encoded⟩ := encodes record
    rw [unencoded] at encoded
    cases encoded
  | ended phase gone =>
    exact carried_still carried (by rw [takes, gone]) rfl (by rw [phase]; rfl)
  | wrote phase | failed phase =>
    exact carried_done carried rfl (effect_write phase) (by rw [phase]; rfl) rfl
  | reinstalled phase known =>
    exact carried_done carried rfl (effect_again phase) (by rw [phase]; rfl) rfl
  | installed phase =>
    exact carried_done carried rfl (effect_fresh phase) (by rw [phase]; rfl) rfl
  | kept phase =>
    exact carried_done carried rfl (effect_keep phase) (by rw [phase]; rfl) rfl
  | flushed phase | unflushed phase | countedWrite phase | countedFlush phase =>
    exact carried_still carried rfl rfl (by rw [phase]; rfl)
  | closed quiet serving =>
    rcases quiet with ⟨rfl, _⟩ | ⟨rfl, _⟩
    · exact carried_still carried rfl rfl rfl
    · exact carried_still carried rfl rfl rfl
  | _ => exact carried_still carried rfl rfl rfl

/-! ## Accepted or dropped -/

/-- One entry of a list, with what stands around it, before and after it is set. -/
theorem set_split {Value : Type} {list : List Value} {index : Nat} {old : Value}
    (present : list[index]? = some old) (new : Value) :
    ∃ front back, list = front ++ old :: back ∧ list.set index new = front ++ new :: back := by
  obtain ⟨bound, rfl⟩ := List.getElem?_eq_some_iff.mp present
  obtain ⟨front, back, whole, _, replaced⟩ := @List.exists_of_set _ index new list bound
  exact ⟨front, back, whole, replaced⟩

/-- A step that enqueues no record accepts none. -/
theorem accepted_still (same : sent.filterMap Command.offered = before.accepted)
    (unsent : (before.sends action).toList.filterMap Command.offered = [])
    (offers : after.accepted = before.accepted) :
    (sent ++ (before.sends action).toList).filterMap Command.offered = after.accepted := by
  rw [List.filterMap_append, unsent, List.append_nil, offers]
  exact same

/-- The records that entered the channel are the accepted ones. -/
theorem step_accepted (moved : Moves encoder before action after)
    (same : sent.filterMap Command.offered = before.accepted) :
    (sent ++ (before.sends action).toList).filterMap Command.offered = after.accepted := by
  cases moved with
  | accepted sent enqueued =>
    simp only [sends, sent, Option.toList_some, List.filterMap_append, accepted]
    rw [same]
    rfl
  | refused unsent =>
    refine accepted_still same (by simp only [sends, unsent]; rfl) ?_
    simp [accepted, Offer.accepted]
  | @dropped call record present =>
    refine accepted_still same rfl ?_
    obtain ⟨front, back, whole, replaced⟩ := set_split present ⟨record, .dropped⟩
    simp only [accepted, replaced]
    rw [whole, List.filterMap_append, List.filterMap_append]
    rfl
  | asked sent enqueued =>
    refine accepted_still same ?_ rfl
    simp only [sends, sent]
    rfl
  | denied unsent => exact accepted_still same (by simp only [sends, unsent]; rfl) rfl
  | closed quiet serving =>
    rcases quiet with ⟨rfl, _⟩ | ⟨rfl, _⟩
    · exact accepted_still same rfl rfl
    · exact accepted_still same rfl rfl
  | _ => exact accepted_still same rfl rfl

/-- A call of `try_record` that has counted its record. -/
def Counted (service : Service Record) : Prop :=
  service.writer.dropped = service.offers.countP fun offer => offer.state = .dropped

/-- The counter of drops counts the offers that were dropped. -/
theorem step_counted (moved : Moves encoder before action after) (counted : before.Counted) :
    after.Counted := by
  unfold Counted at counted ⊢
  cases moved with
  | accepted | refused => simpa using counted
  | @dropped call record present =>
    obtain ⟨front, back, whole, replaced⟩ := set_split present ⟨record, .dropped⟩
    rw [replaced]
    rw [whole] at counted
    simp only [List.countP_append, List.countP_cons] at counted ⊢
    simp only [reduceCtorEq, decide_false, Bool.false_eq_true, if_false, decide_true,
      if_true] at counted ⊢
    omega
  | detached serving dropped failures => rw [dropped, counted]
  | _ => exact counted

/-- An offer whose call has returned keeps its outcome. -/
theorem step_offer {call : Nat} {offer : Offer Record} (moved : Moves encoder before action after)
    (present : before.offers[call]? = some offer) (settled : offer.state ≠ .refused) :
    after.offers[call]? = some offer := by
  have bound : call < before.offers.length := (List.getElem?_eq_some_iff.mp present).1
  cases moved with
  | accepted | refused =>
    dsimp only
    rw [List.getElem?_append_left bound]
    exact present
  | @dropped other record refused =>
    dsimp only
    have apart : other ≠ call := by
      intro equal
      subst equal
      rw [refused] at present
      cases present
      exact settled rfl
    rw [List.getElem?_set_ne apart]
    exact present
  | _ => exact present

/-! ## Which file a record goes to -/

/-- The file in use after some effects: the last that was installed. -/
def inUse (start : Sink) (done : List (Effect Record)) : Sink :=
  ((done.filterMap Effect.installed).getLast?).getD start

/-- Every record went to the file in use when its turn came. -/
def Directed (start : Sink) (done : List (Effect Record)) : Prop :=
  ∀ front record target back, done = front ++ .write record target :: back →
    target = inUse start front

/-- An installed file is in use. -/
theorem inUse_install {sink : Sink} : inUse start (done ++ [.install path ticket sink]) = sink := by
  simp [inUse, Effect.installed]

/-- Any other effect leaves the file in use. -/
theorem inUse_other {effect : Effect Record} (none : effect.installed = none) :
    inUse start (done ++ [effect]) = inUse start done := by
  simp [inUse, none]

/-- One more effect: a record goes to the file in use, everything else is free. -/
theorem Directed.extend {effect : Effect Record} (directed : Directed start done)
    (aimed : ∀ record target, effect = .write record target → target = inUse start done) :
    Directed start (done ++ [effect]) := by
  intro front record target back whole
  rcases List.eq_nil_or_concat back with rfl | ⟨shorter, final, rfl⟩
  · obtain ⟨rfl, same⟩ := List.append_inj' whole rfl
    exact aimed record target (List.singleton_inj.mp same)
  · rw [List.concat_eq_append, ← List.cons_append, ← List.append_assoc] at whole
    obtain ⟨rest, _⟩ := List.append_inj' whole rfl
    exact directed front record target shorter rest

/-- The thread's file is the one in use, and every record went where it should. -/
structure Aimed (start : Sink) (done : List (Effect Record)) (service : Service Record) :
    Prop where
  current : service.thread.sink = inUse start done
  directed : Directed start done

/-- A step without an effect. -/
theorem aimed_still (aimed : Aimed start done before) (undone : before.effect action = none)
    (sink : after.thread.sink = before.thread.sink) :
    Aimed start (done ++ (before.effect action).toList) after := by
  rw [undone, Option.toList_none, List.append_nil]
  exact ⟨sink.trans aimed.current, aimed.directed⟩

/-- A step with an effect that keeps the thread's file the one in use. -/
theorem aimed_effect {effect : Effect Record} (aimed : Aimed start done before)
    (acted : before.effect action = some effect)
    (current : after.thread.sink = inUse start (done ++ [effect]))
    (directed : ∀ record target, effect = .write record target → target = inUse start done) :
    Aimed start (done ++ (before.effect action).toList) after := by
  rw [acted, Option.toList_some]
  exact ⟨current, aimed.directed.extend directed⟩

/-- A step that swaps no file in; a record is written to the thread's file. -/
theorem aimed_held {effect : Effect Record} (aimed : Aimed start done before)
    (acted : before.effect action = some effect) (none : effect.installed = none)
    (directed : ∀ record target, effect = .write record target → target = before.thread.sink)
    (sink : after.thread.sink = before.thread.sink) :
    Aimed start (done ++ (before.effect action).toList) after := by
  refine aimed_effect aimed acted ?_ ?_
  · rw [sink, aimed.current, inUse_other none]
  · intro record target same
    rw [directed record target same, aimed.current]

/-- A file is swapped in. -/
theorem aimed_install {sink : Sink} (aimed : Aimed start done before)
    (acted : before.effect action = some (.install path ticket sink))
    (swapped : after.thread.sink = sink) :
    Aimed start (done ++ (before.effect action).toList) after := by
  refine aimed_effect aimed acted ?_ ?_
  · rw [swapped, inUse_install]
  · intro other target same
    cases same

/-- Every step writes to the file in use. -/
theorem step_aimed (moved : Moves encoder before action after) (aimed : Aimed start done before) :
    Aimed start (done ++ (before.effect action).toList) after := by
  cases moved with
  | wrote phase | failed phase =>
    refine aimed_held aimed (effect_write phase) rfl ?_ rfl
    intro other target same
    cases same
    rfl
  | reinstalled phase known => exact aimed_install aimed (effect_again phase) rfl
  | installed phase => exact aimed_install aimed (effect_fresh phase) rfl
  | kept phase => exact aimed_held aimed (effect_keep phase) rfl nofun rfl
  | closed quiet serving =>
    rcases quiet with ⟨rfl, _⟩ | ⟨rfl, _⟩
    · exact aimed_still aimed rfl rfl
    · exact aimed_still aimed rfl rfl
  | _ => exact aimed_still aimed rfl rfl

/-! ## Failures -/

/-- The failures so far: those that were counted, the first of them kept, and the one the
thread has yet to count. -/
structure Tallied (errors : List IoError) (service : Service Record) : Prop where
  tally : ∃ earlier, errors = earlier ++ service.thread.phase.uncounted ∧
    service.writer.writeFailures = earlier.length ∧ service.thread.firstError = earlier.head?

/-- A step that neither fails nor counts. -/
theorem tallied_still (tallied : Tallied errors before) (unfailed : failure action = none)
    (uncounted : after.thread.phase.uncounted = before.thread.phase.uncounted)
    (failures : after.writer.writeFailures = before.writer.writeFailures)
    (kept : after.thread.firstError = before.thread.firstError) :
    Tallied (errors ++ (failure action).toList) after := by
  rw [unfailed, Option.toList_none, List.append_nil]
  obtain ⟨earlier, whole, count, head⟩ := tallied.tally
  exact ⟨earlier, by rw [uncounted, whole], by rw [failures, count], by rw [kept, head]⟩

/-- A failure is kept to be counted. -/
theorem tallied_failed (tallied : Tallied errors before)
    (failed : failure action = some error) (quiet : before.thread.phase.uncounted = [])
    (uncounted : after.thread.phase.uncounted = [error])
    (failures : after.writer.writeFailures = before.writer.writeFailures)
    (kept : after.thread.firstError = before.thread.firstError) :
    Tallied (errors ++ (failure action).toList) after := by
  obtain ⟨earlier, whole, count, head⟩ := tallied.tally
  rw [quiet, List.append_nil] at whole
  subst whole
  refine ⟨errors, ?_, by rw [failures, count], by rw [kept, head]⟩
  rw [failed, uncounted, Option.toList_some]

/-- The failure in hand is counted, and kept if it is the first. -/
theorem tallied_counted (tallied : Tallied errors before)
    (unfailed : failure action = none) (held : before.thread.phase.uncounted = [error])
    (quiet : after.thread.phase.uncounted = [])
    (failures : after.writer.writeFailures = before.writer.writeFailures + 1)
    (kept : after.thread.firstError = (before.thread.firstError <|> some error)) :
    Tallied (errors ++ (failure action).toList) after := by
  rw [unfailed, Option.toList_none, List.append_nil]
  obtain ⟨earlier, whole, count, head⟩ := tallied.tally
  refine ⟨earlier ++ [error], ?_, ?_, ?_⟩
  · rw [quiet, whole, held, List.append_nil]
  · rw [failures, count, List.length_append, List.length_singleton]
  · rw [kept, head]
    cases earlier with
    | nil | cons => rfl

/-- Every failure is counted once, and the first is kept. -/
theorem step_tallied (encodes : ∀ record, ∃ line, encoder.encode record = .ok line)
    (moved : Moves encoder before action after) (tallied : Tallied errors before) :
    Tallied (errors ++ (failure action).toList) after := by
  cases moved with
  | encoded phase taken text => exact tallied_still tallied rfl (by rw [phase]; rfl) rfl rfl
  | @skipped record channel text phase taken unencoded =>
    obtain ⟨line, encoded⟩ := encodes record
    rw [unencoded] at encoded
    cases encoded
  | turned phase | ended phase | wrote phase =>
    exact tallied_still tallied rfl (by rw [phase]; rfl) rfl rfl
  | failed phase => exact tallied_failed tallied rfl (by rw [phase]; rfl) rfl rfl rfl
  | reinstalled phase | installed phase | kept phase | flushed phase =>
    exact tallied_still tallied rfl (by rw [phase]; rfl) rfl rfl
  | unflushed phase => exact tallied_failed tallied rfl (by rw [phase]; rfl) rfl rfl rfl
  | countedWrite phase | countedFlush phase =>
    exact tallied_counted tallied rfl (by rw [phase]; rfl) rfl rfl rfl
  | closed quiet serving =>
    rcases quiet with ⟨rfl, _⟩ | ⟨rfl, _⟩
    · exact tallied_still tallied rfl rfl rfl rfl
    · exact tallied_still tallied rfl rfl rfl rfl
  | detached serving dropped failures => exact tallied_still tallied rfl rfl failures rfl
  | _ => exact tallied_still tallied rfl rfl rfl rfl

end Service

end Orihsus.Audit
