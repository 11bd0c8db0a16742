import Mathlib.Logic.Function.Basic
import Orihsus.AuditWriter
import Orihsus.Channel
import Orihsus.HotReload
import Orihsus.UsageMonitor

/-!
# The polling worker and its history

`UsageMonitor` of `src/usage.rs` runs a task that asks the usage endpoint about every key in
rounds, and `UsageHistoryWriter` a thread that appends what was learned to one file a day.
The keys come over a watch channel and the records go over a bounded one. Every other party
may act between any two steps: a reload replaces the keys while a round is under way, the
history thread falls behind or fails to write, requests use the pool, and the shutdown can
come at any time.

The answers of the endpoint, the wall clock and what a write to the disk achieves are chosen
by the environment. The fetches of a round run side by side and start at one instant. The
JSON text of a record is a parameter, and a file is named by the first ten characters of the
time, which the library writes in ASCII. A monitor without a history, which only the tests
start, is left out.
-/

namespace Orihsus.Usage

open Audit (newline warnOnce Written)
open Channels (Channel)
open Pool (PoolPolicy Secret System)
open Reload (Watch)

/-! ## One fetch -/

/-- What the stream of a body yields. -/
inductive Piece where
  | chunk (bytes : List UInt8)
  | failed
  deriving DecidableEq, Repr

/-- What became of a request to the endpoint. -/
inductive Exchange where
  | unsent
  | answered (status : Nat) (contentLength : Option Nat) (pieces : List Piece)
  deriving DecidableEq, Repr

/-- `BODY_LIMIT` of the usage endpoint. -/
def bodyLimit : Nat := 64 * 1024

/-- The bound on one fetch: ten seconds. -/
def fetchTimeout : Nat := 10 * 1000000000

/-- The loop over the stream of a body. -/
def readBody (limit : Nat) (body : List UInt8) :
    List Piece → Except UsageFetchError (List UInt8)
  | [] => .ok body
  | .failed :: _ => .error .transport
  | .chunk bytes :: rest =>
      if limit < body.length + bytes.length then .error .bodyTooLarge
      else readBody limit (body ++ bytes) rest

/-- `HttpUsageFetcher::fetch` inside its timeout. -/
def fetch : Exchange → Except UsageFetchError (List UInt8)
  | .unsent => .error .transport
  | .answered status contentLength pieces =>
      if status < 200 ∨ 300 ≤ status then .error .httpStatus
      else if contentLength.any (bodyLimit < ·) then .error .bodyTooLarge
      else readBody bodyLimit [] pieces

/-! ## The history -/

/-- `USAGE_HISTORY_QUEUE_CAPACITY`. -/
def usageHistoryQueueCapacity : Nat := 4096

/-- `HISTORY_WARNING`. -/
def historyWarning : String :=
  "orihsus: usage history write failed or record dropped; polling remains active"

/-- Where the history thread stands. -/
inductive Writing where
  | receiving
  | writing (record : UsageKeySnapshot)
  | returned
  deriving DecidableEq, Repr

/-- The record that the thread has taken and not yet dealt with. -/
def Writing.inHand : Writing → List UsageKeySnapshot
  | .writing record => [record]
  | _ => []

/-- `UsageHistoryWriter` and its sinks: the writer's own and the clone of the worker. `files`
is what stands in the directory under a name. -/
structure UsageHistory where
  channel : Channel UsageKeySnapshot
  ownSink : Bool
  workerSink : Bool
  dropped : Nat
  warned : Bool
  writeFailures : Nat
  thread : Writing
  files : String → List UInt8
  stderr : List String

/-- The name of the file for a record. -/
def dayFile (record : UsageKeySnapshot) : String :=
  String.ofList (record.timestamp.toList.take 10) ++ ".jsonl"

namespace UsageHistory

/-- `UsageHistoryWriter::start_with_capacity` with the worker's clone of the sink. -/
def start (files : String → List UInt8) (capacity : Nat) : UsageHistory where
  channel := .new (max capacity 1)
  ownSink := true
  workerSink := true
  dropped := 0
  warned := false
  writeFailures := 0
  thread := .receiving
  files := files
  stderr := []

variable (history : UsageHistory)

/-- `UsageHistorySink::try_record`. -/
def tryRecord (record : UsageKeySnapshot) : UsageHistory :=
  match history.channel.trySend record with
  | .ok channel => { history with channel := channel }
  | .error _ =>
      { history with
        dropped := history.dropped + 1
        stderr := history.stderr ++ warnOnce history.warned historyWarning
        warned := true }

/-- A sink goes, and with the last one the sending end of the channel. -/
def dropSinks (own worker : Bool) : UsageHistory :=
  let ownSink := history.ownSink && !own
  let workerSink := history.workerSink && !worker
  { history with
    ownSink := ownSink
    workerSink := workerSink
    channel := if ownSink || workerSink then history.channel else history.channel.dropSender }

/-- The thread takes a record, or ends. -/
def receive : Option UsageHistory :=
  match history.thread, history.channel.recv with
  | .receiving, some (.message record, channel) =>
      some { history with channel := channel, thread := .writing record }
  | .receiving, some (.disconnected, channel) =>
      some { history with channel := channel.dropReceiver, thread := .returned }
  | _, _ => none

/-- The bytes that a write of a line puts into its file. -/
def put (line : List UInt8) : Written → List UInt8
  | .done => line
  | .failed count _ => line.take count

/-- `write_history_record` and the count of its failures. A failed one may have written any
first part of its line. -/
def write (encode : UsageKeySnapshot → List UInt8) (written : Written) : Option UsageHistory :=
  match history.thread with
  | .writing record =>
      let day := dayFile record
      let appended := { history with
        thread := .receiving
        files := Function.update history.files day
          (history.files day ++ put (encode record ++ [newline]) written) }
      match written with
      | .done => some appended
      | .failed _ _ =>
          some { appended with
            writeFailures := history.writeFailures + 1
            stderr := history.stderr ++ warnOnce history.warned historyWarning
            warned := true }
  | _ => none

end UsageHistory

/-! ## The worker and the monitor -/

/-- Where the worker stands: before a round, in the fetches of one, going through their
results, in its `select!`, or past its end. -/
inductive Worker where
  | starting
  | fetching (now : Int) (due : Nat)
      (fetches : List (Secret × Option (Except UsageFetchError (List UInt8))))
  | observing (now : Int) (results : List (Secret × Except UsageFetchError (List UInt8)))
  | resting (wake : Nat)
  | returned

/-- What has become of the handle. -/
inductive Closing where
  | serving
  | awaitingWorker
  | joiningHistory
  | returned
  | detached
  deriving DecidableEq, Repr

/-- The monitor with the pool that it reports to. `seen` is the version of the keys that the
worker was last told of. -/
structure UsageMonitor where
  keys : Watch (List Secret)
  seen : Nat
  stop : Bool
  worker : Worker
  history : UsageHistory
  closing : Closing
  snapshots : UsageSnapshotStore
  system : System

/-- What may happen next. The environment answers the fetches and the writes; `other` is
whatever else acts on the pool, and the clock. -/
inductive Action where
  | replaceKeys (keys : List Secret)
  | borrow (now : Int)
  | answer (index : Nat) (exchange : Exchange)
  | expire (index : Nat)
  | collect
  | observe (read : Nat)
  | rest
  | elapse
  | change
  | stop
  | receive
  | write (written : Written)
  | shutdown
  | awaitWorker
  | join
  | drop
  | other (action : Pool.Action)

/-- What is fixed for a run. -/
structure Polling where
  libraries : Libraries
  encode : UsageKeySnapshot → List UInt8
  softThresholdPercent : Rat
  pollInterval : Nat
  policy : PoolPolicy

namespace UsageMonitor

def clock (monitor : UsageMonitor) : Nat := monitor.system.clock

/-- `UsageMonitor::start` over an empty store of snapshots. -/
def start (keys : List Secret) (files : String → List UInt8) (system : System) :
    UsageMonitor where
  keys := { value := keys, version := 0 }
  seen := 0
  stop := false
  worker := .starting
  history := .start files usageHistoryQueueCapacity
  closing := .serving
  snapshots := []
  system := system

/-- The worker's task ends and drops its sink. -/
def workerReturns (monitor : UsageMonitor) : UsageMonitor :=
  { monitor with worker := .returned, history := monitor.history.dropSinks false true }

end UsageMonitor

namespace Polling

variable (polling : Polling)

/-- What the loop of `poll_once_with_observers` keeps of a response. -/
def kept (monitor : UsageMonitor) (now : Int) (key : Secret) (body : List UInt8) :
    UsageMonitor :=
  match parseHistoryRecord polling.libraries body now key with
  | some snapshot =>
      { monitor with
        history := monitor.history.tryRecord snapshot
        snapshots := monitor.snapshots.update snapshot }
  | none => monitor

/-- What the loop of `poll_once_with_observers` reports of a response. -/
def reported (monitor : UsageMonitor) (now : Int) (key : Secret) (body : List UInt8)
    (read : Nat) : Option UsageMonitor :=
  match evaluate polling.libraries body now polling.softThresholdPercent with
  | none => some monitor
  | some cooldown =>
      (monitor.system.perform polling.policy polling.libraries.fingerprint
        (.reportProactiveCooldown (polling.libraries.fingerprint key.asStr) cooldown read)).map
          fun result => { monitor with system := result.1 }

/-- Fill in the result of a fetch that has none. -/
def resolve (monitor : UsageMonitor) (index : Nat) (late : Bool)
    (result : Except UsageFetchError (List UInt8)) : Option UsageMonitor :=
  match monitor.worker with
  | .fetching now due fetches =>
      match fetches[index]? with
      | some (key, none) =>
          if late = true ∧ monitor.clock < due then none
          else some { monitor with
            worker := .fetching now due (fetches.set index (key, some result)) }
      | _ => none
  | _ => none

/-- The results of a round, once each fetch has one. -/
def collected (fetches : List (Secret × Option (Except UsageFetchError (List UInt8)))) :
    Option (List (Secret × Except UsageFetchError (List UInt8))) :=
  fetches.mapM fun fetch => fetch.2.map fun result => (fetch.1, result)

/-- One step, if it is enabled. -/
def perform (monitor : UsageMonitor) : Action → Option UsageMonitor
  | .replaceKeys keys => some { monitor with keys := (monitor.keys.sendReplace keys).1 }
  | .borrow now =>
      match monitor.worker with
      | .starting =>
          some { monitor with
            worker := .fetching now (monitor.clock + fetchTimeout)
              (monitor.keys.value.map fun key => (key, none)) }
      | _ => none
  | .answer index exchange => resolve monitor index false (fetch exchange)
  | .expire index => resolve monitor index true (.error .timeout)
  | .collect =>
      match monitor.worker with
      | .fetching now _ fetches =>
          (collected fetches).map fun results =>
            { monitor with worker := .observing now results }
      | _ => none
  | .observe read =>
      match monitor.worker with
      | .observing now ((_, .error _) :: rest) =>
          some { monitor with worker := .observing now rest }
      | .observing now ((key, .ok body) :: rest) =>
          polling.reported { polling.kept monitor now key body with
            worker := .observing now rest } now key body read
      | _ => none
  | .rest =>
      match monitor.worker with
      | .observing _ [] =>
          some { monitor with worker := .resting (monitor.clock + polling.pollInterval) }
      | _ => none
  | .elapse =>
      match monitor.worker with
      | .resting wake =>
          if wake ≤ monitor.clock then some { monitor with worker := .starting } else none
      | _ => none
  | .change =>
      match monitor.worker with
      | .resting _ =>
          if monitor.seen = monitor.keys.version then none
          else some { monitor with seen := monitor.keys.version, worker := .starting }
      | _ => none
  | .stop =>
      match monitor.worker with
      | .resting _ => if monitor.stop then some monitor.workerReturns else none
      | _ => none
  | .receive => monitor.history.receive.map fun history => { monitor with history := history }
  | .write written =>
      (monitor.history.write polling.encode written).map fun history =>
        { monitor with history := history }
  | .shutdown =>
      if monitor.closing = .serving then
        some { monitor with stop := true, closing := .awaitingWorker }
      else none
  | .awaitWorker =>
      match monitor.closing, monitor.worker with
      | .awaitingWorker, .returned =>
          some { monitor with
            history := monitor.history.dropSinks true false
            closing := .joiningHistory }
      | _, _ => none
  | .join =>
      if monitor.closing = .joiningHistory ∧ monitor.history.thread = .returned then
        some { monitor with closing := .returned }
      else none
  | .drop =>
      if monitor.closing = .serving then
        some { monitor with
          stop := true
          history := monitor.history.dropSinks true false
          closing := .detached }
      else none
  | .other action =>
      (monitor.system.perform polling.policy polling.libraries.fingerprint action).map
        fun result => { monitor with system := result.1 }

/-- The step relation of the runs. -/
def Step (before : UsageMonitor) (action : Action) (after : UsageMonitor) : Prop :=
  polling.perform before action = some after

end Polling

end Orihsus.Usage
