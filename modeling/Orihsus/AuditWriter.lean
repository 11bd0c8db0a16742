import Orihsus.Channel
import Orihsus.Runs

/-!
# The audit writer

`AuditWriter` of `src/audit.rs`: callers offer records and ask for another file over one
bounded channel, and a single thread takes the commands in order. Every operation on
shared memory is a step of its own, so calls of `try_record` and `reopen`, the thread and
`shutdown` interleave freely; the environment chooses what each write, open and flush
answers. A write that fails may have put any number of its bytes into the file.

A record is whatever the encoder takes. The encoder is library code: its text never has a
newline in it. The bounds on waiting are counts of nanoseconds. Counters are natural
numbers, and a print to the standard error stream succeeds.
-/

namespace Orihsus.Audit

open Channels (Channel Received TrySendError)

/-- The byte that ends a line. -/
def newline : UInt8 := 10

/-- `serde_json::to_vec`. -/
structure Encoder (Record : Type) where
  encode : Record → Except String (List UInt8)
  plain : ∀ record line, encode record = .ok line → newline ∉ line

/-- `AUDIT_REOPEN_TIMEOUT`: five seconds. -/
def auditReopenTimeout : Nat := 5 * 1000000000

/-- `AUDIT_SHUTDOWN_TIMEOUT`: five seconds. -/
def auditShutdownTimeout : Nat := 5 * 1000000000

/-- `std::io::Error`. -/
inductive IoError where
  | os (code : Nat)
  | other (text : String)
  deriving DecidableEq, Repr

inductive AuditError where
  | io (error : IoError)
  | invalidCapacity (capacity : Nat)
  | writerPanicked
  | reopenQueueFull
  | reopenTimeout
  | shutdownTimeout
  deriving DecidableEq, Repr

/-- A command of the channel. A ticket names the call that waits for the reply. -/
inductive Command (Record : Type) where
  | record (record : Record)
  | reopen (path : String) (ticket : Nat)
  deriving DecidableEq, Repr

/-- An open file: the `reopen` that installed it, if one did, and the file behind it. -/
structure Sink where
  installer : Option Nat
  file : Nat
  deriving DecidableEq, Repr

/-- Where the thread stands in `write_loop`. -/
inductive Phase (Record : Type) where
  | receiving
  | writing (record : Record) (line : List UInt8)
  | counting (error : IoError)
  | opening (path : String) (ticket : Nat)
  | flushing
  | countingFlush (error : IoError)
  | returned (result : Except AuditError Unit)
  deriving DecidableEq

/-- The thread with its local variables. -/
structure WriteLoop (Record : Type) where
  phase : Phase Record
  sink : Sink
  firstError : Option IoError
  writeWarned : Bool
  deriving DecidableEq

/-- A channel for one answer. -/
inductive Oneshot where
  | pending
  | sent (answer : Except AuditError Unit)
  | closed
  deriving DecidableEq

/-- A call of `reopen` waits for its reply until a deadline. -/
inductive Waiting where
  | waiting (deadline : Nat)
  | returned (answer : Except AuditError Unit)
  deriving DecidableEq

structure ReopenCall where
  path : String
  reply : Oneshot
  wait : Waiting
  deriving DecidableEq

/-- How far a call of `try_record` has got: `refused` has yet to count its record. -/
inductive Offering where
  | accepted
  | refused
  | dropped
  deriving DecidableEq, Repr

structure Offer (Record : Type) where
  record : Record
  state : Offering
  deriving DecidableEq, Repr

/-- What has become of the handle. `shutdown_bounded` waits for the thread that joins. -/
inductive Closing where
  | serving
  | joining
  | supervised (deadline : Nat) (done : Oneshot)
  | returned (result : Except AuditError Unit)
  | detached
  deriving DecidableEq

/-- The handle. Its `tx` is there as long as the channel has its sender. -/
structure AuditWriter where
  dropped : Nat
  writeFailures : Nat
  dropWarned : Bool
  detachWarned : Bool
  handle : Bool
  deriving DecidableEq, Repr

/-- The writer with its channel, its thread, the bytes of every file it has opened, the
calls made of it and what it printed. A call is named by its position. -/
structure Service (Record : Type) where
  writer : AuditWriter
  channel : Channel (Command Record)
  thread : WriteLoop Record
  files : List (List UInt8)
  offers : List (Offer Record)
  reopens : List ReopenCall
  closing : Closing
  clock : Nat
  stderr : List String
  deriving DecidableEq

/-- What `write_all` answers. A failed one has written a first part of its bytes. -/
inductive Written where
  | done
  | failed (written : Nat) (error : IoError)
  deriving DecidableEq, Repr

/-- What `open_append` answers: a file that was open before, one that was not, with what
it already holds, or an error. -/
inductive Opened where
  | again (file : Nat)
  | fresh (contents : List UInt8)
  | failed (error : IoError)
  deriving DecidableEq, Repr

inductive Action (Record : Type) where
  | tick (elapsed : Nat)
  | tryRecord (record : Record)
  | countDrop (call : Nat)
  | reopen (path : String)
  | awaitReply (call : Nat)
  | receive
  | writeAll (written : Written)
  | openAppend (opened : Opened)
  | flush (error : Option IoError)
  | countFailure
  | shutdown
  | shutdownBounded
  | supervise
  | join
  | drop
  deriving DecidableEq

def writeWarning : String :=
  "orihsus: audit write failed; the audit log may be incomplete " ++
    "(further failures are only counted)"

def dropWarning : String :=
  "orihsus: audit record dropped; the queue is full or the writer is " ++
    "gone (further drops are only counted)"

def detachWarning : String :=
  "orihsus: audit writer detached without a final flush; unflushed " ++ "records may be lost"

/-- `warn_once`: what is printed, given whether it was printed before. -/
def warnOnce (flag : Bool) (message : String) : List String := if flag then [] else [message]

/-- The result of `write_loop`. -/
def verdict : Option IoError → Except AuditError Unit
  | some error => .error (.io error)
  | none => .ok ()

namespace Service

variable {Record : Type}

/-- `spawn`, over a file with what it already holds. -/
def spawn (contents : List UInt8) (capacity : Nat) : Except AuditError (Service Record) :=
  if capacity = 0 then .error (.invalidCapacity capacity)
  else .ok {
    writer := ⟨0, 0, false, false, true⟩
    channel := .new capacity
    thread := ⟨.receiving, ⟨none, 0⟩, none, false⟩
    files := [contents]
    offers := []
    reopens := []
    closing := .serving
    clock := 0
    stderr := [] }

/-- `AuditWriter::start`. -/
def start (opened : Except IoError (List UInt8)) (capacity : Nat) :
    Except AuditError (Service Record) :=
  match opened with
  | .error error => .error (.io error)
  | .ok contents => spawn contents capacity

variable (service : Service Record)

/-- `AuditWriter::try_record` up to its counter. -/
def tryRecord (record : Record) : Service Record :=
  let refused := { service with offers := service.offers ++ [⟨record, .refused⟩] }
  if !service.channel.sender then refused
  else
    match service.channel.trySend (.record record) with
    | .ok channel =>
        { service with channel := channel, offers := service.offers ++ [⟨record, .accepted⟩] }
    | .error _ => refused

/-- The end of a call of `try_record` that was refused. -/
def countDrop (call : Nat) : Option (Service Record) :=
  match service.offers[call]? with
  | some ⟨record, .refused⟩ => some { service with
      offers := service.offers.set call ⟨record, .dropped⟩
      writer := { service.writer with dropped := service.writer.dropped + 1, dropWarned := true }
      stderr := service.stderr ++ warnOnce service.writer.dropWarned dropWarning }
  | _ => none

/-- `AuditWriter::reopen` up to its wait. -/
def reopen (path : String) : Service Record :=
  let called (wait : Waiting) := service.reopens ++ [⟨path, .pending, wait⟩]
  if !service.channel.sender then
    { service with reopens := called (.returned (.error .writerPanicked)) }
  else
    match service.channel.trySend (.reopen path service.reopens.length) with
    | .ok channel =>
        { service with
          channel := channel
          reopens := called (.waiting (service.clock + auditReopenTimeout)) }
    | .error .full => { service with reopens := called (.returned (.error .reopenQueueFull)) }
    | .error .disconnected =>
        { service with reopens := called (.returned (.error .writerPanicked)) }

/-- What a wait for a reply yields: the reply first, and the deadline only without one. -/
def awaited (reply : Oneshot) (deadline now : Nat) (late : AuditError) :
    Option (Except AuditError Unit) :=
  match reply with
  | .sent answer => some answer
  | .closed => some (.error .writerPanicked)
  | .pending => if deadline ≤ now then some (.error late) else none

/-- The end of a call of `AuditWriter::reopen`. -/
def awaitReply (call : Nat) : Option (Service Record) :=
  match service.reopens[call]? with
  | some ⟨path, reply, .waiting deadline⟩ =>
      (awaited reply deadline service.clock .reopenTimeout).map fun answer =>
        { service with reopens := service.reopens.set call ⟨path, reply, .returned answer⟩ }
  | _ => none

/-- Move the thread. -/
def withPhase (phase : Phase Record) : Service Record :=
  { service with thread := { service.thread with phase := phase } }

/-- One turn of `write_loop` takes a command and, for a record, makes its line. -/
def receive (encoder : Encoder Record) : Option (Service Record) :=
  match service.thread.phase, service.channel.recv with
  | .receiving, some (.message (.record record), channel) =>
      match encoder.encode record with
      | .ok line =>
          some ({ service with channel := channel }.withPhase (.writing record (line ++ [newline])))
      | .error text =>
          some { service with
            channel := channel
            thread := { service.thread with
              firstError := service.thread.firstError <|>
                some (.other ("serialize audit record: " ++ text)) } }
  | .receiving, some (.message (.reopen path ticket), channel) =>
      some ({ service with channel := channel }.withPhase (.opening path ticket))
  | .receiving, some (.disconnected, _) => some (service.withPhase .flushing)
  | _, _ => none

/-- Append to a file. -/
def appendTo (file : Nat) (bytes : List UInt8) : Service Record :=
  { service with files := service.files.modify file (· ++ bytes) }

/-- `sink.write_all`. -/
def writeAll (written : Written) : Option (Service Record) :=
  match service.thread.phase with
  | .writing _ line =>
      match written with
      | .done => some ((service.appendTo service.thread.sink.file line).withPhase .receiving)
      | .failed count error =>
          some ((service.appendTo service.thread.sink.file (line.take count)).withPhase
            (.counting error))
  | _ => none

/-- Answer a call of `reopen`. It may have given up. -/
def reply (ticket : Nat) (answer : Except AuditError Unit) : Service Record :=
  { service with
    reopens := service.reopens.modify ticket fun call => { call with reply := .sent answer } }

/-- Swap the thread onto another file. -/
def install (ticket file : Nat) : Service Record :=
  { service with
    thread := { service.thread with phase := .receiving, sink := ⟨some ticket, file⟩ } }

/-- `open_append` and the swap of `write_loop`. -/
def openAppend (opened : Opened) : Option (Service Record) :=
  match service.thread.phase with
  | .opening _ ticket =>
      match opened with
      | .again file =>
          if file < service.files.length then
            some ((service.install ticket file).reply ticket (.ok ()))
          else none
      | .fresh contents =>
          some (({ service with files := service.files ++ [contents] }.install ticket
            service.files.length).reply ticket (.ok ()))
      | .failed error =>
          some ((service.withPhase .receiving).reply ticket (.error (.io error)))
  | _ => none

/-- The end of `write_loop`, which drops the receiver. -/
def finish (firstError : Option IoError) : Service Record :=
  { service with
    channel := service.channel.dropReceiver
    thread := { service.thread with
      phase := .returned (verdict firstError)
      firstError := firstError } }

/-- `sink.flush`. -/
def flush (error : Option IoError) : Option (Service Record) :=
  match service.thread.phase, error with
  | .flushing, none => some (service.finish service.thread.firstError)
  | .flushing, some error => some (service.withPhase (.countingFlush error))
  | _, _ => none

/-- Count a failed operation of the sink. -/
def counted : Service Record :=
  { service with
    writer := { service.writer with writeFailures := service.writer.writeFailures + 1 }
    thread := { service.thread with writeWarned := true }
    stderr := service.stderr ++ warnOnce service.thread.writeWarned writeWarning }

/-- What `write_loop` does after a failed `write_all` or `flush`. -/
def countFailure : Option (Service Record) :=
  match service.thread.phase with
  | .counting error =>
      some { service.counted with
        thread := { service.counted.thread with
          phase := .receiving
          firstError := service.thread.firstError <|> some error } }
  | .countingFlush error => some (service.counted.finish (service.thread.firstError <|> some error))
  | _ => none

/-- The start of `shutdown` and `shutdown_bounded`. -/
def close (waiting : Closing) : Option (Service Record) :=
  match service.closing with
  | .serving => some { service with
      channel := service.channel.dropSender
      writer := { service.writer with handle := false }
      closing := if service.writer.handle then waiting else .returned (.ok ()) }
  | _ => none

/-- The thread that `shutdown_bounded` spawns joins the writer's. -/
def supervise : Option (Service Record) :=
  match service.closing, service.thread.phase with
  | .supervised deadline .pending, .returned result =>
      some { service with closing := .supervised deadline (.sent result) }
  | _, _ => none

/-- The end of `shutdown` and `shutdown_bounded`. -/
def join : Option (Service Record) :=
  match service.closing, service.thread.phase with
  | .joining, .returned result => some { service with closing := .returned result }
  | .supervised deadline done, _ =>
      (awaited done deadline service.clock .shutdownTimeout).map fun result =>
        { service with closing := .returned result }
  | _, _ => none

/-- Dropping the handle without a shutdown. -/
def detach : Option (Service Record) :=
  match service.closing with
  | .serving => some { service with
      channel := service.channel.dropSender
      writer := { service.writer with
        handle := false
        detachWarned := service.writer.detachWarned || service.writer.handle }
      closing := .detached
      stderr := service.stderr ++
        if service.writer.handle then warnOnce service.writer.detachWarned detachWarning else [] }
  | _ => none

/-- One step, if it is enabled. -/
def perform (encoder : Encoder Record) : Action Record → Option (Service Record)
  | .tick elapsed => some { service with clock := service.clock + elapsed }
  | .tryRecord record => some (service.tryRecord record)
  | .countDrop call => service.countDrop call
  | .reopen path => some (service.reopen path)
  | .awaitReply call => service.awaitReply call
  | .receive => service.receive encoder
  | .writeAll written => service.writeAll written
  | .openAppend opened => service.openAppend opened
  | .flush error => service.flush error
  | .countFailure => service.countFailure
  | .shutdown => service.close .joining
  | .shutdownBounded =>
      service.close (.supervised (service.clock + auditShutdownTimeout) .pending)
  | .supervise => service.supervise
  | .join => service.join
  | .drop => service.detach

/-- The step relation of the runs. -/
def Step (encoder : Encoder Record) (before : Service Record) (action : Action Record)
    (after : Service Record) : Prop :=
  before.perform encoder action = some after

end Service

end Orihsus.Audit
