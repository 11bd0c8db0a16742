import Orihsus.AuditSteps

/-!
# Delivery of audit records

What an accepted record can rely on, over every run of the writer: every command that
enters the channel is carried out once and in order, a record goes to the file installed
by the last successful open before it, and a shutdown that waited for the thread finds
every accepted record handed to `write_all`, every failure counted and the first of them
reported. Once the sender is gone, the thread needs no one else to come to its end.
-/

namespace Orihsus.Audit

open Channels (Channel Ledger)

variable {Record : Type}

namespace Service

variable {encoder : Encoder Record} {first before after last service : Service Record}
  {action : Action Record} {command : Command Record} {record : Record}
  {trace earlier later : List (Runs.Transition (Service Record) (Action Record))}

/-! ## The end of the thread -/

/-- The thread leaves its loop only over an empty channel without a sender, and a shutdown
that waited for it returns what it returned. -/
structure Ended (service : Service Record) : Prop where
  emptied : service.thread.phase.ending = true →
    service.channel.sender = false ∧ service.channel.buffer = []
  result : ∀ result, service.thread.phase = .returned result →
    result = verdict service.thread.firstError
  serving : service.closing = .serving → service.writer.handle = true
  closed : service.closing ≠ .serving → service.channel.sender = false
  supervised : ∀ deadline done, service.closing = .supervised deadline done →
    done = .pending ∨ ∃ result, done = .sent result ∧ service.thread.phase = .returned result
  returned : ∀ result, service.closing = .returned result →
    result = .error .shutdownTimeout ∨ service.thread.phase = .returned result

/-- A step of a thread that has not returned. -/
theorem ended_thread (ended : before.Ended)
    (running : ∀ result, before.thread.phase ≠ .returned result)
    (emptied : after.thread.phase.ending = true →
      after.channel.sender = false ∧ after.channel.buffer = [])
    (result : ∀ result, after.thread.phase = .returned result →
      result = verdict after.thread.firstError)
    (sender : after.channel.sender = before.channel.sender)
    (closing : after.closing = before.closing)
    (handle : after.writer.handle = before.writer.handle) : after.Ended where
  emptied := emptied
  result := result
  serving := by
    rw [closing, handle]
    exact ended.serving
  closed := by
    rw [closing, sender]
    exact ended.closed
  supervised := by
    intro deadline done waiting
    rw [closing] at waiting
    rcases ended.supervised deadline done waiting with pending | ⟨given, _, phase⟩
    · exact .inl pending
    · exact absurd phase (running given)
  returned := by
    intro given finished
    rw [closing] at finished
    rcases ended.returned given finished with late | phase
    · exact .inl late
    · exact absurd phase (running given)

/-- A step of a thread that stays in its loop. -/
theorem ended_loop (ended : before.Ended) (running : before.thread.phase.ending = false)
    (still : after.thread.phase.ending = false)
    (sender : after.channel.sender = before.channel.sender)
    (closing : after.closing = before.closing)
    (handle : after.writer.handle = before.writer.handle) : after.Ended := by
  refine ended_thread ended ?_ ?_ ?_ sender closing handle
  · intro result phase
    rw [phase] at running
    cases running
  · intro ending
    rw [ending] at still
    cases still
  · intro result phase
    rw [phase] at still
    cases still

/-- A step of a thread that has left its loop and not yet returned. -/
theorem ended_flush (ended : before.Ended) (ending : before.thread.phase.ending = true)
    (running : ∀ result, before.thread.phase ≠ .returned result)
    (result : ∀ result, after.thread.phase = .returned result →
      result = verdict after.thread.firstError)
    (sender : after.channel.sender = before.channel.sender)
    (buffer : after.channel.buffer = before.channel.buffer)
    (closing : after.closing = before.closing)
    (handle : after.writer.handle = before.writer.handle) : after.Ended := by
  refine ended_thread ended running ?_ result sender closing handle
  intro _
  rw [sender, buffer]
  exact ended.emptied ending

/-- A step of a shutdown that is under way. -/
theorem ended_shutdown (ended : before.Ended) (underway : before.closing ≠ .serving)
    (still : after.closing ≠ .serving)
    (supervised : ∀ deadline done, after.closing = .supervised deadline done →
      done = .pending ∨ ∃ result, done = .sent result ∧ before.thread.phase = .returned result)
    (returned : ∀ result, after.closing = .returned result →
      result = .error .shutdownTimeout ∨ before.thread.phase = .returned result)
    (thread : after.thread = before.thread) (channel : after.channel = before.channel) :
    after.Ended where
  emptied := by
    rw [thread, channel]
    exact ended.emptied
  result := by
    rw [thread]
    exact ended.result
  serving := fun serving => absurd serving still
  closed := by
    intro _
    rw [channel]
    exact ended.closed underway
  supervised := by
    rw [thread]
    exact supervised
  returned := by
    rw [thread]
    exact returned

/-- A step that only the callers see. -/
theorem ended_still (ended : before.Ended) (thread : after.thread = before.thread)
    (channel : after.channel = before.channel) (closing : after.closing = before.closing)
    (handle : after.writer.handle = before.writer.handle) : after.Ended where
  emptied := by
    rw [thread, channel]
    exact ended.emptied
  result := by
    rw [thread]
    exact ended.result
  serving := by
    rw [closing, handle]
    exact ended.serving
  closed := by
    rw [closing, channel]
    exact ended.closed
  supervised := by
    rw [closing, thread]
    exact ended.supervised
  returned := by
    rw [closing, thread]
    exact ended.returned

/-- A command is sent only while the thread is in its loop. -/
theorem ended_sent {taken : Command Record} {channel : Channel (Command Record)}
    (ended : before.Ended) (sent : before.sent command = some taken)
    (enqueued : before.channel.trySend command = .ok channel)
    (placed : after.channel = channel) (thread : after.thread = before.thread)
    (closing : after.closing = before.closing)
    (handle : after.writer.handle = before.writer.handle) : after.Ended := by
  obtain ⟨_, sender⟩ := sent_some sent
  have running : before.thread.phase.ending = false := by
    cases ending : before.thread.phase.ending with
    | false => rfl
    | true =>
      rw [(ended.emptied ending).1] at sender
      cases sender
  refine ended_loop ended running (by rw [thread]; exact running) ?_ closing handle
  rw [placed, (Channel.trySend_ok enqueued).1]

/-- Every step keeps the end in order. -/
theorem step_ended (moved : Moves encoder before action after) (ended : before.Ended) :
    after.Ended := by
  cases moved with
  | accepted sent enqueued | asked sent enqueued =>
    exact ended_sent ended sent enqueued rfl rfl rfl rfl
  | encoded phase taken | turned phase taken =>
    refine ended_loop ended (by rw [phase]; rfl) rfl ?_ rfl rfl
    exact Channel.recv_sender taken
  | skipped phase taken unencoded =>
    refine ended_loop ended (by rw [phase]; rfl) (by dsimp only; rw [phase]; rfl) ?_ rfl rfl
    exact Channel.recv_sender taken
  | ended phase gone =>
    obtain ⟨empty, sender, _⟩ := Channel.recv_disconnected gone
    refine ended_thread ended ?_ ?_ ?_ rfl rfl rfl
    · intro result returned
      rw [phase] at returned
      cases returned
    · exact fun _ => ⟨sender, empty⟩
    · intro result returned
      cases returned
  | wrote phase | failed phase | reinstalled phase | installed phase | kept phase =>
    exact ended_loop ended (by rw [phase]; rfl) rfl rfl rfl rfl
  | flushed phase | countedFlush phase =>
    refine ended_flush ended (by rw [phase]; rfl) ?_ ?_ rfl rfl rfl rfl
    · intro result returned
      rw [phase] at returned
      cases returned
    · intro result returned
      cases returned
      rfl
  | unflushed phase =>
    refine ended_flush ended (by rw [phase]; rfl) ?_ ?_ rfl rfl rfl rfl
    · intro result returned
      rw [phase] at returned
      cases returned
    · intro result returned
      cases returned
  | countedWrite phase => exact ended_loop ended (by rw [phase]; rfl) rfl rfl rfl rfl
  | @closed action waiting quiet serving =>
    have waits : (if before.writer.handle then waiting else .returned (.ok ())) = waiting :=
      if_pos (ended.serving serving)
    rw [waits]
    have opened : waiting = .joining ∨ ∃ deadline, waiting = .supervised deadline .pending := by
      rcases quiet with ⟨_, joining⟩ | ⟨_, supervised⟩
      · exact .inl joining
      · exact .inr supervised
    constructor
    · exact fun ending => ⟨rfl, (ended.emptied ending).2⟩
    · exact ended.result
    · intro still
      rcases opened with rfl | ⟨deadline, rfl⟩ <;> cases still
    · exact fun _ => rfl
    · intro deadline done still
      rcases opened with rfl | ⟨deadline, rfl⟩ <;> cases still
      exact .inl rfl
    · intro result still
      rcases opened with rfl | ⟨deadline, rfl⟩ <;> cases still
  | @supervised deadline result waiting phase =>
    refine ended_shutdown ended (by rw [waiting]; exact Closing.noConfusion) Closing.noConfusion
      ?_ ?_ rfl rfl
    · intro later done still
      cases still
      exact .inr ⟨result, rfl, phase⟩
    · intro given still
      cases still
  | @joined result waiting phase =>
    refine ended_shutdown ended (by rw [waiting]; exact Closing.noConfusion) Closing.noConfusion
      ?_ ?_ rfl rfl
    · intro later done still
      cases still
    · intro given still
      cases still
      exact .inr phase
  | @awaited deadline done result waiting given =>
    refine ended_shutdown ended (by rw [waiting]; exact Closing.noConfusion) Closing.noConfusion
      ?_ ?_ rfl rfl
    · intro later done still
      cases still
    · intro answer still
      cases still
      rcases ended.supervised deadline done waiting with rfl | ⟨sent, rfl, phase⟩
      · left
        simp only [Service.awaited] at given
        split at given
        · cases given
          rfl
        · cases given
      · right
        cases given
        exact phase
  | detached serving dropped failures =>
    refine ⟨fun ending => ⟨rfl, (ended.emptied ending).2⟩, ended.result, ?_, fun _ => rfl, ?_, ?_⟩
    · intro still
      cases still
    · intro later done still
      cases still
    · intro given still
      cases still
  | _ => exact ended_still ended rfl rfl rfl rfl

/-! ## Reopened files -/

/-- The tickets of the commands that are not carried out yet. -/
def pending (service : Service Record) : List Nat :=
  (service.thread.phase.inHand ++ service.channel.buffer).filterMap Command.ticket

/-- Tickets are carried out in the order of the calls, so a call that was answered well
has its own file in use or a later one. -/
structure Ticketed (service : Service Record) : Prop where
  ordered : service.pending.Pairwise (· < ·)
  bounded : ∀ ticket ∈ service.pending, ticket < service.reopens.length
  older : ∀ installer, service.thread.sink.installer = some installer →
    installer < service.reopens.length ∧ ∀ ticket ∈ service.pending, installer < ticket
  answered : ∀ (ticket : Nat) call, service.reopens[ticket]? = some call →
    call.reply = .sent (.ok ()) →
      ∃ installer, service.thread.sink.installer = some installer ∧ ticket ≤ installer
  returned : ∀ (ticket : Nat) call, service.reopens[ticket]? = some call →
    call.wait = .returned (.ok ()) → call.reply = .sent (.ok ())

/-- A step that leaves the tickets. -/
theorem ticketed_still (ticketed : before.Ticketed) (pending : after.pending = before.pending)
    (sink : after.thread.sink = before.thread.sink) (reopens : after.reopens = before.reopens) :
    after.Ticketed := by
  constructor
  · rw [pending]
    exact ticketed.ordered
  · rw [pending, reopens]
    exact ticketed.bounded
  · rw [pending, reopens, sink]
    exact ticketed.older
  · rw [reopens, sink]
    exact ticketed.answered
  · rw [reopens]
    exact ticketed.returned

/-- One more call, whose ticket is put into the channel or not. -/
theorem ticketed_called {call : ReopenCall} (ticketed : before.Ticketed)
    (pending : after.pending = before.pending ∨
      after.pending = before.pending ++ [before.reopens.length])
    (sink : after.thread.sink = before.thread.sink)
    (reopens : after.reopens = before.reopens ++ [call]) (unanswered : call.reply = .pending)
    (unreturned : call.wait ≠ .returned (.ok ())) : after.Ticketed := by
  have length : after.reopens.length = before.reopens.length + 1 := by
    rw [reopens, List.length_append, List.length_singleton]
  have waiting : ∀ ticket ∈ after.pending,
      ticket ∈ before.pending ∨ ticket = before.reopens.length := by
    intro ticket member
    rcases pending with same | longer
    · rw [same] at member
      exact .inl member
    · rw [longer] at member
      simpa using member
  have earlier : ∀ (ticket : Nat) found, after.reopens[ticket]? = some found →
      before.reopens[ticket]? = some found ∨ found = call := by
    intro ticket found present
    rw [reopens] at present
    by_cases bound : ticket < before.reopens.length
    · rw [List.getElem?_append_left bound] at present
      exact .inl present
    · rw [List.getElem?_append_right (Nat.le_of_not_lt bound)] at present
      exact .inr (List.mem_singleton.mp (List.mem_of_getElem? present))
  constructor
  · rcases pending with same | longer
    · rw [same]
      exact ticketed.ordered
    · rw [longer, List.pairwise_append]
      refine ⟨ticketed.ordered, List.pairwise_singleton _ _, ?_⟩
      intro ticket member next single
      rw [List.mem_singleton.mp single]
      exact ticketed.bounded ticket member
  · intro ticket member
    rcases waiting ticket member with inside | rfl
    · have bound := ticketed.bounded ticket inside
      omega
    · omega
  · intro installer installed
    rw [sink] at installed
    obtain ⟨bound, newer⟩ := ticketed.older installer installed
    refine ⟨by omega, ?_⟩
    intro ticket member
    rcases waiting ticket member with inside | rfl
    · exact newer ticket inside
    · exact bound
  · intro ticket found present answered
    rw [sink]
    rcases earlier ticket found present with inside | rfl
    · exact ticketed.answered ticket found inside answered
    · rw [unanswered] at answered
      cases answered
  · intro ticket found present returned
    rcases earlier ticket found present with inside | rfl
    · exact ticketed.returned ticket found inside returned
    · exact absurd returned unreturned

/-- A wait that yields success yields the reply. -/
theorem awaited_ok {reply : Oneshot} {deadline now : Nat} {late : AuditError}
    (given : awaited reply deadline now late = some (.ok ())) : reply = .sent (.ok ()) := by
  cases reply with
  | pending =>
    simp only [awaited] at given
    split at given
    · cases given
    · cases given
  | sent answer =>
    cases given
    rfl
  | closed => cases given

/-- An answered call has its reply. -/
theorem ticketed_answered {call deadline : Nat} {path : String} {reply : Oneshot}
    {answer : Except AuditError Unit} (ticketed : before.Ticketed)
    (present : before.reopens[call]? = some ⟨path, reply, .waiting deadline⟩)
    (given : awaited reply deadline before.clock .reopenTimeout = some answer) :
    Ticketed { before with
      reopens := before.reopens.set call ⟨path, reply, .returned answer⟩ } := by
  have bound : call < before.reopens.length := (List.getElem?_eq_some_iff.mp present).1
  have split : ∀ (ticket : Nat) found,
      (before.reopens.set call ⟨path, reply, .returned answer⟩)[ticket]? = some found →
        before.reopens[ticket]? = some found ∨
          ticket = call ∧ found = ⟨path, reply, .returned answer⟩ := by
    intro ticket found placed
    by_cases same : call = ticket
    · subst same
      rw [List.getElem?_set_self bound] at placed
      exact .inr ⟨rfl, (Option.some.inj placed).symm⟩
    · rw [List.getElem?_set_ne same] at placed
      exact .inl placed
  have length : (before.reopens.set call ⟨path, reply, .returned answer⟩).length =
      before.reopens.length := List.length_set
  constructor
  · exact ticketed.ordered
  · intro ticket member
    exact Nat.lt_of_lt_of_eq (ticketed.bounded ticket member) length.symm
  · intro installer installed
    obtain ⟨bound, newer⟩ := ticketed.older installer installed
    exact ⟨Nat.lt_of_lt_of_eq bound length.symm, newer⟩
  · intro ticket found placed answered
    rcases split ticket found placed with inside | ⟨rfl, rfl⟩
    · exact ticketed.answered ticket found inside answered
    · exact ticketed.answered ticket _ present answered
  · intro ticket found placed returned
    rcases split ticket found placed with inside | ⟨rfl, rfl⟩
    · exact ticketed.returned ticket found inside returned
    · cases returned
      exact awaited_ok given

/-- The calls after one of them is answered. -/
theorem reply_found {ticket asked : Nat} {answer : Except AuditError Unit} {call : ReopenCall}
    (found : (service.reply ticket answer).reopens[asked]? = some call) :
    (service.reopens[asked]? = some call ∧ asked ≠ ticket) ∨
      ∃ earlier, service.reopens[asked]? = some earlier ∧ asked = ticket ∧
        call = { earlier with reply := .sent answer } := by
  simp only [reply, List.getElem?_modify] at found
  obtain ⟨earlier, present, same⟩ := Option.map_eq_some_iff.mp found
  by_cases equal : ticket = asked
  · right
    rw [if_pos equal] at same
    exact ⟨earlier, present, equal.symm, same.symm⟩
  · left
    rw [if_neg equal] at same
    rw [present, ← same]
    exact ⟨rfl, fun other => equal other.symm⟩

/-- The thread answers the call whose command it had in its hands. A call that succeeds
has its file installed. -/
theorem ticketed_replied {path : String} {ticket : Nat} {answer : Except AuditError Unit}
    (ticketed : before.Ticketed) (phase : before.thread.phase = .opening path ticket)
    (hands : after.thread.phase.inHand = []) (channel : after.channel = before.channel)
    (reopens : after.reopens = (before.reply ticket answer).reopens)
    (swapped : after.thread.sink.installer = some ticket ∨
      after.thread.sink = before.thread.sink ∧ answer ≠ .ok ()) : after.Ticketed := by
  have pending : before.pending = ticket :: after.pending := by
    rw [Service.pending, Service.pending, phase, hands, channel]
    rfl
  have length : after.reopens.length = before.reopens.length := by
    rw [reopens, reply, List.length_modify]
  have ordered := ticketed.ordered
  have bounded := ticketed.bounded
  have older := ticketed.older
  rw [pending] at ordered bounded older
  obtain ⟨first, rest⟩ := List.pairwise_cons.mp ordered
  have latest : ∀ installer, before.thread.sink.installer = some installer →
      ∃ newer, after.thread.sink.installer = some newer ∧ installer ≤ newer := by
    intro installer installed
    rcases swapped with swapped | ⟨same, _⟩
    · exact ⟨ticket, swapped,
        Nat.le_of_lt ((older installer installed).2 ticket List.mem_cons_self)⟩
    · exact ⟨installer, by rw [same, installed], Nat.le_refl _⟩
  constructor
  · exact rest
  · intro waiting member
    rw [length]
    exact bounded waiting (List.mem_cons_of_mem _ member)
  · intro installer installed
    rw [length]
    rcases swapped with swapped | ⟨same, _⟩
    · rw [swapped] at installed
      cases installed
      exact ⟨bounded ticket List.mem_cons_self, first⟩
    · rw [same] at installed
      obtain ⟨bound, newer⟩ := older installer installed
      exact ⟨bound, fun waiting member => newer waiting (List.mem_cons_of_mem _ member)⟩
  · intro asked call found answered
    rw [reopens] at found
    rcases reply_found found with ⟨present, _⟩ | ⟨earlier, present, rfl, rfl⟩
    · obtain ⟨installer, installed, bound⟩ := ticketed.answered asked call present answered
      obtain ⟨newer, placed, later⟩ := latest installer installed
      exact ⟨newer, placed, Nat.le_trans bound later⟩
    · rcases swapped with swapped | ⟨_, failed⟩
      · exact ⟨asked, swapped, Nat.le_refl _⟩
      · cases answered
        exact absurd rfl failed
  · intro asked call found returned
    rw [reopens] at found
    rcases reply_found found with ⟨present, _⟩ | ⟨earlier, present, rfl, rfl⟩
    · exact ticketed.returned asked call present returned
    · -- a call that returned had its answer, so its command is not in the thread's hands
      have sent := ticketed.returned asked earlier present returned
      obtain ⟨installer, installed, bound⟩ := ticketed.answered asked earlier present sent
      have below := (older installer installed).2 asked List.mem_cons_self
      omega

/-- Commands that leave the tickets as they are. -/
theorem pending_eq (same : (after.thread.phase.inHand ++ after.channel.buffer).filterMap
      Command.ticket =
    (before.thread.phase.inHand ++ before.channel.buffer).filterMap Command.ticket) :
    after.pending = before.pending := same

/-- Every step keeps the tickets. -/
theorem step_ticketed (moved : Moves encoder before action after) (ticketed : before.Ticketed) :
    after.Ticketed := by
  cases moved with
  | accepted sent enqueued =>
    refine ticketed_still ticketed (pending_eq ?_) rfl rfl
    rw [(Channel.trySend_ok enqueued).1, ← List.append_assoc, List.filterMap_append]
    exact List.append_nil _
  | asked sent enqueued =>
    refine ticketed_called ticketed (.inr ?_) rfl rfl rfl Waiting.noConfusion
    rw [pending, (Channel.trySend_ok enqueued).1, ← List.append_assoc, List.filterMap_append]
    rfl
  | @denied path error unsent =>
    refine ticketed_called ticketed (.inl rfl) rfl rfl rfl ?_
    intro returned
    cases returned
  | answered present given => exact ticketed_answered ticketed present given
  | encoded phase taken | skipped phase taken | turned phase taken =>
    refine ticketed_still ticketed (pending_eq ?_) rfl rfl
    rw [phase, (Channel.recv_message taken).1]
    rfl
  | ended phase gone =>
    exact ticketed_still ticketed (pending_eq (by rw [phase]; rfl)) rfl rfl
  | wrote phase | failed phase =>
    exact ticketed_still ticketed (pending_eq (by rw [phase]; rfl)) rfl rfl
  | reinstalled phase | installed phase =>
    exact ticketed_replied ticketed phase rfl rfl rfl (.inl rfl)
  | kept phase =>
    refine ticketed_replied ticketed phase rfl rfl rfl (.inr ⟨rfl, ?_⟩)
    intro equal
    cases equal
  | flushed phase | unflushed phase | countedWrite phase | countedFlush phase =>
    exact ticketed_still ticketed (pending_eq (by rw [phase]; rfl)) rfl rfl
  | _ => exact ticketed_still ticketed rfl rfl rfl

/-- The call with this ticket has returned. -/
def Reopened (service : Service Record) (ticket : Nat) (answer : Except AuditError Unit) : Prop :=
  ∃ call, service.reopens[ticket]? = some call ∧ call.wait = .returned answer

/-- A reply stays as it was given. -/
theorem reopened_reply {ticket asked : Nat} {answer given : Except AuditError Unit}
    (reopened : before.Reopened ticket answer)
    (reopens : after.reopens = (before.reply asked given).reopens) :
    after.Reopened ticket answer := by
  obtain ⟨call, present, returned⟩ := reopened
  unfold Reopened
  rw [reopens, reply, List.getElem?_modify, present]
  refine ⟨_, rfl, ?_⟩
  dsimp only
  split
  · exact returned
  · exact returned

/-- A call that has returned stays so. -/
theorem step_reopened {ticket : Nat} {answer : Except AuditError Unit}
    (moved : Moves encoder before action after) (reopened : before.Reopened ticket answer) :
    after.Reopened ticket answer := by
  obtain ⟨call, present, returned⟩ := reopened
  have bound : ticket < before.reopens.length := (List.getElem?_eq_some_iff.mp present).1
  cases moved with
  | asked | denied =>
    exact ⟨call, by dsimp only; rw [List.getElem?_append_left bound, present], returned⟩
  | @answered other deadline path reply answer waiting given =>
    have apart : other ≠ ticket := by
      intro equal
      subst equal
      rw [waiting] at present
      cases present
      cases returned
    exact ⟨call, by dsimp only; rw [List.getElem?_set_ne apart, present], returned⟩
  | reinstalled | installed | kept => exact reopened_reply ⟨call, present, returned⟩ rfl
  | _ => exact ⟨call, present, returned⟩

/-! ## The thread comes to its end -/

/-- The steps that the thread takes by itself. -/
def ofThread : Action Record → Bool
  | .receive | .writeAll _ | .openAppend _ | .flush _ | .countFailure => true
  | _ => false

/-- The steps the thread has ahead of it at most, once the sender is gone. -/
def work (service : Service Record) : Nat :=
  3 * service.channel.buffer.length +
    match service.thread.phase with
    | .returned _ => 0
    | .countingFlush _ => 1
    | .flushing => 2
    | .receiving => 3
    | .counting _ => 4
    | .opening _ _ => 4
    | .writing _ _ => 5

/-- What the thread can do next while it has not returned, when no sender is left. -/
theorem thread_enabled (encodes : ∀ record, ∃ line, encoder.encode record = .ok line)
    (gone : service.channel.sender = false)
    (running : ∀ result, service.thread.phase ≠ .returned result) :
    ∃ action after, ofThread action = true ∧ Step encoder service action after ∧
      after.work < service.work ∧ after.closing = service.closing ∧
      after.channel.sender = false := by
  cases phase : service.thread.phase with
  | receiving =>
    obtain ⟨⟨received, channel⟩, taken⟩ := Option.isSome_iff_exists.mp
      (Channel.recv_enabled gone)
    cases received with
    | disconnected =>
      refine ⟨.receive, service.withPhase .flushing, rfl, ?_, ?_, rfl, gone⟩
      · simp only [Step, perform, receive, phase, taken]
      · simp only [work, withPhase, phase]
        omega
    | message command =>
      obtain ⟨buffered, _⟩ := Channel.recv_message taken
      have sender := (Channel.recv_sender taken).trans gone
      cases command with
      | record record =>
        obtain ⟨line, text⟩ := encodes record
        refine ⟨.receive,
          { service with channel := channel }.withPhase (.writing record (line ++ [newline])), rfl,
          ?_, ?_, rfl, sender⟩
        · simp only [Step, perform, receive, phase, taken, text]
        · simp only [work, withPhase, phase, buffered, List.length_cons]
          omega
      | reopen path ticket =>
        refine ⟨.receive, { service with channel := channel }.withPhase (.opening path ticket), rfl,
          ?_, ?_, rfl, sender⟩
        · simp only [Step, perform, receive, phase, taken]
        · simp only [work, withPhase, phase, buffered, List.length_cons]
          omega
  | writing record line =>
    refine ⟨.writeAll .done,
      (service.appendTo service.thread.sink.file line).withPhase .receiving, rfl, ?_, ?_, rfl, gone⟩
    · simp only [Step, perform, writeAll, phase]
    · simp only [work, withPhase, appendTo, phase]
      omega
  | counting error =>
    refine ⟨.countFailure, { service.counted with
      thread := { service.counted.thread with
        phase := .receiving
        firstError := service.thread.firstError <|> some error } }, rfl, ?_, ?_, rfl, gone⟩
    · simp only [Step, perform, countFailure, phase]
    · simp only [work, counted, phase]
      omega
  | opening path ticket =>
    refine ⟨.openAppend (.failed (.os 0)),
      (service.withPhase .receiving).reply ticket (.error (.io (.os 0))), rfl, ?_, ?_, rfl, gone⟩
    · simp only [Step, perform, openAppend, phase]
    · simp only [work, withPhase, reply, phase]
      omega
  | flushing =>
    refine ⟨.flush none, service.finish service.thread.firstError, rfl, ?_, ?_, rfl, gone⟩
    · simp only [Step, perform, flush, phase]
    · simp only [work, finish, phase, Channel.dropReceiver]
      omega
  | countingFlush error =>
    refine ⟨.countFailure, service.counted.finish (service.thread.firstError <|> some error), rfl,
      ?_, ?_, rfl, gone⟩
    · simp only [Step, perform, countFailure, phase]
    · simp only [work, counted, finish, phase, Channel.dropReceiver]
      omega
  | returned result => exact absurd phase (running result)

/-- Without a sender the thread comes to its end by itself. -/
theorem thread_returns (encodes : ∀ record, ∃ line, encoder.encode record = .ok line)
    (gone : service.channel.sender = false) :
    ∃ more final result, Runs.Run (Step encoder) service more final ∧
      (∀ taken ∈ more, ofThread taken.label = true) ∧
      final.thread.phase = .returned result ∧ final.closing = service.closing := by
  -- every step of the thread has less work ahead of it
  generalize amount : service.work = count
  induction count using Nat.strongRecOn generalizing service with
  | ind count inductionHypothesis =>
    by_cases finished : ∃ result, service.thread.phase = .returned result
    · obtain ⟨result, phase⟩ := finished
      exact ⟨[], service, result, .start, fun _ member => absurd member List.not_mem_nil, phase,
        rfl⟩
    · have running : ∀ result, service.thread.phase ≠ .returned result :=
        fun result phase => finished ⟨result, phase⟩
      obtain ⟨action, after, own, stepped, less, closing, sender⟩ :=
        thread_enabled encodes gone running
      obtain ⟨more, final, result, onward, threads, phase, kept⟩ :=
        inductionHypothesis after.work (by omega) sender rfl
      refine ⟨_, final, result, Runs.Run.join .start stepped onward, ?_, phase,
        kept.trans closing⟩
      intro taken member
      rcases List.mem_cons.mp member with rfl | inside
      · exact own
      · exact threads taken inside

/-- A shutdown that waits returns, once the thread has come to its end. -/
theorem shutdown_returns (encodes : ∀ record, ∃ line, encoder.encode record = .ok line)
    (ended : service.Ended)
    (waiting : service.closing = .joining ∨
      ∃ deadline done, service.closing = .supervised deadline done) :
    ∃ more final result, Runs.Run (Step encoder) service more final ∧
      final.closing = .returned result := by
  have gone : service.channel.sender = false := by
    apply ended.closed
    rcases waiting with joining | ⟨deadline, done, supervised⟩
    · rw [joining]
      exact Closing.noConfusion
    · rw [supervised]
      exact Closing.noConfusion
  obtain ⟨more, final, result, onward, _, phase, closing⟩ := thread_returns encodes gone
  have finalEnded : final.Ended :=
    onward.invariant Ended ended fun _ _ _ stepped => step_ended (step_moves stepped)
  rcases waiting with joining | ⟨deadline, done, supervised⟩
  · have joined : Step encoder final .join { final with closing := .returned result } := by
      simp only [Step, perform, join, closing, joining, phase]
    exact ⟨_, _, result, onward.extend joined, rfl⟩
  · rw [supervised] at closing
    rcases finalEnded.supervised deadline done closing with rfl | ⟨given, rfl, _⟩
    · have watched : Step encoder final .supervise
          { final with closing := .supervised deadline (.sent result) } := by
        simp only [Step, perform, supervise, closing, phase]
      have joined : Step encoder { final with closing := .supervised deadline (.sent result) }
          .join { final with closing := .returned result } := rfl
      exact ⟨_, _, result, (onward.extend watched).extend joined, rfl⟩
    · have joined : Step encoder final .join { final with closing := .returned given } := by
        simp only [Step, perform, join, closing, Service.awaited, Option.map_some]
      exact ⟨_, _, given, onward.extend joined, rfl⟩

/-! ## Whole runs -/

/-- The record that a step offers. -/
def offer : Action Record → Option Record
  | .tryRecord record => some record
  | _ => none

/-- The records that were offered, in the order of their calls. -/
def offered (trace : List (Runs.Transition (Service Record) (Action Record))) : List Record :=
  trace.filterMap fun taken => offer taken.label

/-- Every call of `try_record` is on the list of offers. -/
theorem step_offered (moved : Moves encoder before action after) :
    after.offers.map Offer.record = before.offers.map Offer.record ++ (offer action).toList := by
  cases moved with
  | accepted | refused => exact List.map_append
  | @dropped call record present =>
    obtain ⟨front, back, whole, replaced⟩ := set_split present ⟨record, .dropped⟩
    dsimp only
    rw [replaced, whole, List.map_append, List.map_append]
    exact (List.append_nil _).symm
  | closed quiet serving =>
    rcases quiet with ⟨rfl, _⟩ | ⟨rfl, _⟩
    · exact (List.append_nil _).symm
    · exact (List.append_nil _).symm
  | _ => exact (List.append_nil _).symm

/-- A shutdown with a deadline is under way, or it ran into its deadline. -/
def Hurried (service : Service Record) : Prop :=
  (∃ deadline done, service.closing = .supervised deadline done) ∨
    service.closing = .returned (.error .shutdownTimeout)

/-- Only `shutdown_bounded` has a deadline. -/
theorem step_hurried (moved : Moves encoder before action after) (ended : before.Ended)
    (hurried : after.Hurried) : before.Hurried ∨ action = .shutdownBounded := by
  cases moved with
  | @closed action waiting quiet serving =>
    rw [Hurried, if_pos (ended.serving serving)] at hurried
    rcases quiet with ⟨rfl, rfl⟩ | ⟨rfl, _⟩
    · rcases hurried with ⟨_, _, impossible⟩ | impossible <;> cases impossible
    · exact .inr rfl
  | supervised waiting | awaited waiting => exact .inl (.inl ⟨_, _, waiting⟩)
  | @joined result waiting phase =>
    rcases hurried with ⟨_, _, impossible⟩ | late
    · cases impossible
    · -- the thread itself never answers with a deadline
      have given := ended.result result phase
      cases late
      cases kept : before.thread.firstError with
      | none | some =>
        rw [kept] at given
        cases given
  | detached serving dropped failures =>
    rcases hurried with ⟨_, _, impossible⟩ | impossible <;> cases impossible
  | _ => exact .inl hurried

/-- All the books of the writer, after a run. -/
structure Books (start : Sink) (trace : List (Runs.Transition (Service Record) (Action Record)))
    (service : Service Record) : Prop where
  ledger : Ledger (enqueued trace) (dequeued trace) service.channel
  carried : dequeued trace = (effects trace).map Effect.command ++ service.thread.phase.inHand
  accepted : (enqueued trace).filterMap Command.offered = service.accepted
  offered : service.offers.map Offer.record = Service.offered trace
  counted : service.Counted
  aimed : Aimed start (effects trace) service
  tallied : Tallied (failures trace) service
  ended : service.Ended
  ticketed : service.Ticketed
  hurried : service.Hurried → ∃ taken ∈ trace, taken.label = .shutdownBounded

/-- The books of a writer that was just started. -/
theorem books_started {contents : List UInt8} {capacity : Nat}
    (started : spawn contents capacity = .ok first) : Books first.thread.sink [] first := by
  unfold spawn at started
  split at started
  · cases started
  · cases started
    refine ⟨Ledger.new capacity, rfl, rfl, rfl, rfl, ⟨rfl, ?_⟩, ⟨[], rfl, rfl, rfl⟩, ?_, ?_, ?_⟩
    · intro front record target back whole
      simp [effects] at whole
    · refine ⟨?_, ?_, fun _ => rfl, fun closed => absurd rfl closed, ?_, ?_⟩
      · intro ending
        cases ending
      · intro result returned
        cases returned
      · intro deadline done waiting
        cases waiting
      · intro result returned
        cases returned
    · refine ⟨.nil, ?_, ?_, ?_, ?_⟩
      · intro ticket member
        cases member
      · intro installer installed
        cases installed
      · intro ticket call present
        cases present
      · intro ticket call present
        cases present
    · intro hurried
      rcases hurried with ⟨_, _, impossible⟩ | impossible <;> cases impossible

/-- The books of every run. -/
theorem run_books (encodes : ∀ record, ∃ line, encoder.encode record = .ok line)
    {contents : List UInt8} {capacity : Nat} (started : spawn contents capacity = .ok first)
    (run : Runs.Run (Step encoder) first trace last) : Books first.thread.sink trace last := by
  induction run with
  | start => exact books_started started
  | @extend trace current next action earlier stepped books =>
    have moved := step_moves stepped
    constructor
    · rw [enqueued, dequeued, Runs.filterMap_extend, Runs.filterMap_extend]
      exact step_ledger moved books.ledger
    · rw [dequeued, effects, Runs.filterMap_extend, Runs.filterMap_extend]
      exact step_carried encodes moved books.carried
    · rw [enqueued, Runs.filterMap_extend]
      exact step_accepted moved books.accepted
    · rw [offered, Runs.filterMap_extend, step_offered moved, books.offered]
      rfl
    · exact step_counted moved books.counted
    · rw [effects, Runs.filterMap_extend]
      exact step_aimed moved books.aimed
    · rw [failures, Runs.filterMap_extend]
      exact step_tallied encodes moved books.tallied
    · exact step_ended moved books.ended
    · exact step_ticketed moved books.ticketed
    · intro hurried
      rcases step_hurried moved books.ended hurried with before | label
      · obtain ⟨taken, member, label⟩ := books.hurried before
        exact ⟨taken, List.mem_append_left _ member, label⟩
      · exact ⟨_, List.mem_append_right _ (List.mem_singleton_self _), label⟩

/-- The records handed to `write_all` are those of the commands that were carried out. -/
theorem written_offered (done : List (Effect Record)) :
    (done.filterMap Effect.written).map Prod.fst =
      (done.map Effect.command).filterMap Command.offered := by
  induction done with
  | nil => rfl
  | cons effect rest inductionHypothesis =>
    cases effect with
    | write record sink => exact congrArg (record :: ·) inductionHypothesis
    | install | keep => exact inductionHypothesis

/-- What the callers of the writer can rely on after a run. -/
structure Delivered (first : Service Record)
    (trace : List (Runs.Transition (Service Record) (Action Record))) (last : Service Record)
    (encoder : Encoder Record) : Prop where
  /-- Every offer is accepted, dropped or about to be counted as dropped. -/
  offered : last.offers.map Offer.record = Service.offered trace
  /-- The accepted ones are those that entered the channel. -/
  accepted : (enqueued trace).filterMap Command.offered = last.accepted
  dropped : last.writer.dropped = last.offers.countP fun offer => offer.state = .dropped
  /-- An outcome that was returned is never replaced. -/
  settled : ∀ taken ∈ trace, ∀ (call : Nat) offer, taken.before.offers[call]? = some offer →
    offer.state ≠ .refused → last.offers[call]? = some offer
  /-- Commands are carried out once and in the order in which they entered the channel. -/
  inOrder : (effects trace).map Effect.command <+: enqueued trace
  written : (writes trace).map Prod.fst <+: last.accepted
  /-- A record goes to the file of the last successful open before it. -/
  directed : Directed first.thread.sink (effects trace)
  /-- Once a `reopen` has returned well, its own file or a later one is written. -/
  renewed : ∀ earlier taken later, trace = earlier ++ taken :: later → ∀ ticket,
    taken.after.Reopened ticket (.ok ()) → ∀ write ∈ writes later,
      ∃ installer, write.2.installer = some installer ∧ ticket ≤ installer
  /-- Every failure is counted, save the one that the thread is about to count. -/
  failed : last.writer.writeFailures + last.thread.phase.uncounted.length =
    (failures trace).length
  /-- A shutdown that waited for the thread leaves nothing behind. -/
  returned : ∀ result, last.closing = .returned result → result ≠ .error .shutdownTimeout →
    (effects trace).map Effect.command = enqueued trace ∧
      (writes trace).map Prod.fst = last.accepted ∧
      last.writer.writeFailures = (failures trace).length ∧
      result = verdict (failures trace).head?
  /-- Only `shutdown_bounded` gives up waiting. -/
  hurried : last.closing = .returned (.error .shutdownTimeout) →
    ∃ taken ∈ trace, taken.label = .shutdownBounded
  /-- A shutdown that waits can return. -/
  returns : last.closing = .joining ∨ (∃ deadline done, last.closing = .supervised deadline done) →
    ∃ more final result, Runs.Run (Step encoder) last more final ∧
      final.closing = .returned result

/-- A write goes to the thread's file. -/
theorem effect_aimed {effect : Effect Record} {write : Record × Sink}
    (acted : service.effect action = some effect) (written : effect.written = some write) :
    write.2 = service.thread.sink := by
  unfold Service.effect at acted
  split at acted
  · split at acted
    · cases acted
      cases written
      rfl
    · cases acted
  · split at acted <;> cases acted <;> cases written
  · cases acted

/-- The file in use when a write is made, after a `reopen` that returned well. -/
theorem write_renewed {ticket : Nat} {write : Record × Sink} (ticketed : service.Ticketed)
    (reopened : service.Reopened ticket (.ok ()))
    (wrote : (service.effect action).bind Effect.written = some write) :
    ∃ installer, write.2.installer = some installer ∧ ticket ≤ installer := by
  obtain ⟨call, present, returned⟩ := reopened
  obtain ⟨installer, installed, bound⟩ := ticketed.answered ticket call present
    (ticketed.returned ticket call present returned)
  obtain ⟨effect, acted, written⟩ := Option.bind_eq_some_iff.mp wrote
  exact ⟨installer, by rw [effect_aimed acted written, installed], bound⟩

/-- A write that was made in a run was made by one of its steps. -/
theorem writes_mem {write : Record × Sink} (member : write ∈ writes trace) :
    ∃ taken ∈ trace, (taken.before.effect taken.label).bind Effect.written = some write := by
  obtain ⟨effect, inside, written⟩ := List.mem_filterMap.mp member
  obtain ⟨taken, recorded, acted⟩ := List.mem_filterMap.mp inside
  exact ⟨taken, recorded, by rw [acted]; exact written⟩

/-- Everything that was enqueued is carried out once the thread has come to its end. -/
theorem Books.emptied {start : Sink} (books : Books start trace last)
    (ending : last.thread.phase.ending = true) :
    (effects trace).map Effect.command = enqueued trace := by
  rw [books.ledger.balance, (books.ended.emptied ending).2, books.carried, List.append_nil]
  cases phase : last.thread.phase with
  | flushing | countingFlush error | returned result => exact (List.append_nil _).symm
  | receiving | writing record line | counting error | opening path ticket =>
    rw [phase] at ending
    cases ending

/-- In every run of the writer, whatever its callers and its files do, accepted records
are delivered.

Proof: every step keeps the books of the run, and each part is read off them. -/
theorem accepted_records_delivered (encoder : Encoder Record)
    (encodes : ∀ record, ∃ line, encoder.encode record = .ok line) {contents : List UInt8}
    {capacity : Nat} {first last : Service Record}
    {trace : List (Runs.Transition (Service Record) (Action Record))}
    (started : spawn contents capacity = .ok first)
    (run : Runs.Run (Step encoder) first trace last) : Delivered first trace last encoder := by
  have books := run_books encodes started run
  have inOrder : (effects trace).map Effect.command <+: enqueued trace := by
    rw [books.ledger.balance, books.carried, List.append_assoc]
    exact List.prefix_append _ _
  constructor
  · exact books.offered
  · exact books.accepted
  · exact books.counted
  · intro taken member call offer present settled
    obtain ⟨earlier, later, rfl⟩ := List.append_of_mem member
    obtain ⟨_, stepped, onward⟩ := run.split
    have kept := step_offer (step_moves stepped) present settled
    exact onward.invariant (fun service => service.offers[call]? = some offer) kept
      fun _ _ _ stepped present => step_offer (step_moves stepped) present settled
  · exact inOrder
  · rw [writes, written_offered, ← books.accepted]
    exact inOrder.filterMap _
  · exact books.aimed.directed
  · intro earlier taken later whole ticket reopened write member
    obtain ⟨step, inside, wrote⟩ := writes_mem member
    subst whole
    obtain ⟨upTo, stepped, onward⟩ := run.split
    obtain ⟨front, back, rfl⟩ := List.append_of_mem inside
    obtain ⟨reached, _, _⟩ := onward.split
    have prior : Runs.Run (Step encoder) first (earlier ++ taken :: front) step.before :=
      upTo.join stepped reached
    have still : step.before.Reopened ticket (.ok ()) :=
      reached.invariant (fun service => service.Reopened ticket (.ok ())) reopened
        fun _ _ _ stepped => step_reopened (step_moves stepped)
    exact write_renewed (run_books encodes started prior).ticketed still wrote
  · obtain ⟨counted, whole, count, _⟩ := books.tallied.tally
    rw [whole, List.length_append, count]
  · intro result closing waited
    have phase := (books.ended.returned result closing).resolve_left waited
    have emptied := books.emptied (by rw [phase]; rfl)
    refine ⟨emptied, ?_, ?_⟩
    · rw [writes, written_offered, emptied, books.accepted]
    · obtain ⟨counted, whole, count, head⟩ := books.tallied.tally
      rw [phase] at whole
      have all : failures trace = counted := whole.trans (List.append_nil _)
      refine ⟨by rw [count, all], ?_⟩
      rw [books.ended.result result phase, head, all]
  · exact fun late => books.hurried (.inr late)
  · exact fun waiting => shutdown_returns encodes books.ended waiting

/-- An encoder of two records, for concrete runs. -/
def sampleEncoder : Encoder Bool where
  encode record := .ok (if record then [123, 49, 125] else [123, 48, 125])
  plain := by
    intro record line encoded
    cases record <;> cases encoded <;> decide

/-- A writer of these with room for two commands. -/
def sampleWriter : Service Bool where
  writer := ⟨0, 0, false, false, true⟩
  channel := .new 2
  thread := ⟨.receiving, ⟨none, 0⟩, none, false⟩
  files := [[]]
  offers := []
  reopens := []
  closing := .serving
  clock := 0
  stderr := []

/-- A record and a `reopen` fill the channel, a second record is dropped, a third goes to
the new file, and the flush of the shutdown fails. -/
def rotation : List (Action Bool) :=
  [.tryRecord true, .reopen "new", .tryRecord true, .countDrop 1, .receive,
    .writeAll (.failed 1 (.os 28)), .countFailure, .receive, .openAppend (.fresh []),
    .awaitReply 0, .tryRecord false, .shutdown, .receive, .writeAll .done, .receive,
    .flush (some (.os 5)), .countFailure, .join]

/-- What a run with a failed write, a dropped record, a rotation and a waiting shutdown
delivers. -/
theorem rotation_delivered : (∀ record, ∃ line, sampleEncoder.encode record = .ok line) ∧
    spawn [] 2 = .ok sampleWriter ∧
    Delivered sampleWriter (Runs.steps (·.perform sampleEncoder) sampleWriter rotation)
      (Runs.reached (·.perform sampleEncoder) sampleWriter rotation) sampleEncoder ∧
    writes (Runs.steps (·.perform sampleEncoder) sampleWriter rotation) =
      [(true, ⟨none, 0⟩), (false, ⟨some 0, 1⟩)] ∧
    (Runs.reached (·.perform sampleEncoder) sampleWriter rotation).closing =
      .returned (.error (.io (.os 28))) :=
  ⟨fun _ => ⟨_, rfl⟩, rfl,
    accepted_records_delivered sampleEncoder (fun _ => ⟨_, rfl⟩)
      (show spawn [] 2 = .ok sampleWriter from rfl) (Runs.replay_run (by decide +kernel)),
    by decide +kernel, by decide +kernel⟩

/-- Two records are accepted and the first write fails. A bounded shutdown then waits its
five seconds and returns before the thread has come to the second record. -/
def hurriedShutdown : List (Action Bool) :=
  [.tryRecord true, .tryRecord false, .receive, .writeAll (.failed 1 (.os 28)), .countFailure,
    .shutdownBounded, .tick auditShutdownTimeout, .join]

/-- A bounded shutdown that runs into its deadline returns with an accepted record unwritten,
and with the timeout in place of the first error. -/
theorem bounded_shutdown_abandons :
    let trace := Runs.steps (·.perform sampleEncoder) sampleWriter hurriedShutdown
    let last := Runs.reached (·.perform sampleEncoder) sampleWriter hurriedShutdown
    spawn [] 2 = .ok sampleWriter ∧
      (Runs.record (·.perform sampleEncoder) sampleWriter hurriedShutdown).isSome ∧
      last.closing = .returned (.error .shutdownTimeout) ∧ last.accepted = [true, false] ∧
      (writes trace).map Prod.fst = [true] ∧
      verdict (failures trace).head? = .error (.io (.os 28)) := by
  refine ⟨rfl, ?_, ?_, ?_, ?_, ?_⟩
  all_goals decide +kernel

end Service

end Orihsus.Audit
