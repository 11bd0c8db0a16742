import Orihsus.AuditDelivery
import Orihsus.AuditRuns
import Orihsus.Queue

/-!
# The gateway with all of its requests

`GatewayState` of `src/gateway.rs` is shared by every request: the pool, the runtime store,
the admission queue, the slots for streams and the audit sink. Here any number of requests
are under way at once. Each is a handler of `Handler`, and the steps of different handlers,
of the queue, of the writer of the log, of a reload and of the clock follow one another in
any order.

The queue is that of `Queue`. A handler that waits for admission has a call on it, and its
permit is dropped in a step of its own after the request is over; a stream has a slot as
well, which is dropped before the permit. The log is the writer of `AuditWriter`, and a
record is offered to it in the step that makes it. The requests of the other routes are
recorded too. The handle of the writer can be given up only when no handler and no stream
holds the state any more.

How a body comes in is modelled in `BodyBudget`; here its end is arbitrary.
-/

namespace Orihsus.Gateway

open Pool (AttemptResult PoolPolicy Secret System)
open Queue (Hall)
open Semaphores (Semaphore)

/-! ## The model -/

/-- What the handlers read and write. -/
structure Shared where
  system : System
  runtime : RuntimeState
  wall : Int
  deriving DecidableEq, Repr

/-- The shared part of what a handler sees. -/
def Shared.of (handling : Handling) : Shared :=
  ⟨handling.proxy.system, handling.runtime, handling.wall⟩

/-- What is fixed for a run: the gateway and the library functions. -/
structure House where
  gateway : GatewayState
  libraries : Libraries
  policy : PoolPolicy
  fingerprint : String → String
  render : Json → List UInt8
  encoder : Audit.Encoder AuditRecord

/-- The gateway as the loop of the request at a position sees it. -/
def House.setup (house : House) (position : Nat) : Setup where
  gateway := house.gateway
  libraries := house.libraries
  policy := house.policy
  fingerprint := house.fingerprint
  request := position

/-- What a request brings with it, and when it came. -/
structure Guest where
  headers : HeaderMap
  api : UpstreamApi
  generatedId : String
  requestStart : Nat
  deriving DecidableEq, Repr

/-- The handler of a request whose tracker has this position. -/
def Guest.handler (house : House) (guest : Guest) (position : Nat) : Handler where
  setup := house.setup position
  headers := guest.headers
  api := guest.api
  generatedId := guest.generatedId
  render := house.render

/-- A request that has not taken a step. -/
def Guest.arriving (guest : Guest) (shared : Shared) : Handling where
  proxy :=
    { system := shared.system
      stage := .preparing
      model := ""
      requestStart := guest.requestStart
      lastResponse := none
      attempts := [] }
  runtime := shared.runtime
  wall := shared.wall
  audit := RequestAudit.fromHeaders guest.headers
  records := []
  station := .arriving (.checking .first)

/-- A request at the gateway: what it keeps of its own, the position of its tracker, its call
on the admission queue and whether it has a slot for a stream. The shared parts in `own` are
those of its last step. -/
structure Visit where
  guest : Guest
  own : Handling
  tracker : Option Nat
  call : Option Nat
  slot : Bool
  deriving DecidableEq, Repr

/-- What a handler keeps of its own, with the shared parts as they are. -/
def Handling.under (handling : Handling) (shared : Shared) : Handling :=
  { handling with
    proxy := { handling.proxy with system := shared.system }
    runtime := shared.runtime
    wall := shared.wall }

/-- What its handler sees. -/
def Visit.view (visit : Visit) (shared : Shared) : Handling := visit.own.under shared

/-- The handler or the task of the request is over. -/
def Station.finished : Station → Bool
  | .answered _ | .streamed _ | .dropped => true
  | _ => false

/-- The task of the request streams events. -/
def Station.streams : Station → Bool
  | .streaming prepared _ _ _ _ => prepared.streaming
  | _ => false

/-- The gateway. -/
structure Traffic where
  shared : Shared
  hall : Hall
  streamSlots : Semaphore Nat
  log : Audit.Service AuditRecord
  visits : List Visit
  deriving DecidableEq

/-- A step of a handler, of what it leaves behind, of the queue, of the log or of the rest of
the program. -/
inductive TrafficAction where
  | tick (elapsed : Nat)
  | arrive (headers : HeaderMap) (api : UpstreamApi) (generatedId : String)
  | acquire (id : Nat)
  | visit (id : Nat) (action : HandlerAction)
  | dropSlot (id : Nat)
  | dropPermit (id : Nat)
  | queue (action : Queue.Action)
  | cooldown (target : String) (cooldown read : Nat)
  | update (state : RuntimeState)
  | updateWithKeys (keys : List Secret) (state : RuntimeState)
  | setWall (wall : Int)
  | aside (record : AuditRecord)
  | log (action : Audit.Action AuditRecord)

/-- `max_streams` of `GatewayState::with_runtime`. -/
def maxStreams (maxConcurrency : Nat) : Nat := max (maxConcurrency / 4) 1

namespace Traffic

/-- A gateway that has just been assembled. -/
def opened (shared : Shared) (maxConcurrency maxQueue waitTimeout : Nat)
    (log : Audit.Service AuditRecord) : Traffic where
  shared := shared
  hall := .opened maxConcurrency maxQueue waitTimeout
  streamSlots := .new (maxStreams maxConcurrency)
  log := log
  visits := []

variable (house : House) (traffic : Traffic)

/-- The position of a request's tracker; the next one is its own as long as it has none. -/
def position (visit : Visit) : Nat := visit.tracker.getD traffic.shared.system.callers.length

/-- The queue after a step of a handler: admission ends as the call on the queue did, and a
handler that is dropped in the queue drops its call. -/
def hallAfter (visit : Visit) : HandlerAction → Option Hall
  | .admission (.ok ()) =>
      match visit.call.bind fun call => traffic.hall.calls[call]? with
      | some .permitted => some traffic.hall
      | _ => none
  | .admission (.error error) =>
      match visit.call.bind fun call => traffic.hall.calls[call]? with
      | some (.ended (.refused reason)) => if reason = error then some traffic.hall else none
      | _ => none
  | .cancel =>
      match visit.own.station with
      | .arriving _ => visit.call.bind fun call => traffic.hall.perform (.cancel call)
      | _ => some traffic.hall
  | .other _ | .update _ | .updateWithKeys _ _ | .setWall _ => none
  | _ => some traffic.hall

/-- The slots after a step that leads a handler here, and whether it took one. -/
def slotsAfter (next : Handling) : HandlerAction → Option (Semaphore Nat × Bool)
  | .finalize slotFree =>
      match traffic.streamSlots.tryAcquire 1 with
      | .ok taken =>
          if slotFree then
            some (if next.station.streams then (taken, true) else (traffic.streamSlots, false))
          else none
      | .error _ => if slotFree then none else some (traffic.streamSlots, false)
  | _ => some (traffic.streamSlots, false)

/-- The tracker after a step of a handler. -/
def trackerAfter (visit : Visit) : HandlerAction → Option Nat
  | .serve => some traffic.shared.system.callers.length
  | _ => visit.tracker

/-- The gateway after a step of a handler. What the step has recorded is offered to the log. -/
def visited (id : Nat) (visit : Visit) (action : HandlerAction) (next : Handling) (hall : Hall)
    (slots : Semaphore Nat) (taken : Bool) : Traffic where
  shared := .of next
  hall := hall
  streamSlots := slots
  log := (next.records.drop visit.own.records.length).foldl Audit.Service.tryRecord traffic.log
  visits := traffic.visits.set id
    { visit with
      own := next
      tracker := traffic.trackerAfter visit action
      slot := visit.slot || taken }

/-- A step of the log that no handler takes. -/
def logs : Audit.Action AuditRecord → Bool
  | .tick _ | .tryRecord _ => false
  | .shutdown | .shutdownBounded | .drop =>
      traffic.visits.all fun visit => visit.own.station.finished
  | _ => true

/-- A call of the pool. -/
def calls (action : Pool.Action) : Option Traffic :=
  (traffic.shared.system.perform house.policy house.fingerprint action).map fun result =>
    { traffic with shared := { traffic.shared with system := result.1 } }

/-- One step, if it is enabled. -/
def perform : TrafficAction → Option Traffic
  | .tick elapsed =>
      (traffic.calls house (.tick elapsed)).map fun ticked =>
        { ticked with
          hall := { traffic.hall with clock := traffic.hall.clock + elapsed }
          log := { traffic.log with clock := traffic.log.clock + elapsed } }
  | .arrive headers api generatedId =>
      let guest : Guest := ⟨headers, api, generatedId, traffic.shared.system.clock⟩
      some { traffic with
        visits := traffic.visits ++ [⟨guest, guest.arriving traffic.shared, none, none, false⟩] }
  | .acquire id =>
      match traffic.visits[id]? with
      | some visit =>
          if visit.own.station = .arriving .queued ∧ visit.call = none then
            some { traffic with
              hall := { traffic.hall with calls := traffic.hall.calls ++ [.trying] }
              visits := traffic.visits.set id
                { visit with call := some traffic.hall.calls.length } }
          else none
      | none => none
  | .visit id action =>
      (traffic.visits[id]?).bind fun visit =>
        (traffic.hallAfter visit action).bind fun hall =>
          ((visit.guest.handler house (traffic.position visit)).perform
              (visit.view traffic.shared) action).bind fun next =>
            (traffic.slotsAfter next action).map fun slots =>
              traffic.visited id visit action next hall slots.1 slots.2
  | .dropSlot id =>
      match traffic.visits[id]? with
      | some visit =>
          if visit.own.station.finished ∧ visit.slot then
            some { traffic with
              streamSlots := traffic.streamSlots.release 1
              visits := traffic.visits.set id { visit with slot := false } }
          else none
      | none => none
  | .dropPermit id =>
      match traffic.visits[id]? with
      | some visit =>
          if visit.own.station.finished ∧ visit.slot = false then
            (visit.call.bind fun call => traffic.hall.perform (.drop call)).map fun hall =>
              { traffic with hall := hall }
          else none
      | none => none
  | .queue action =>
      match action with
      | .proceed _ | .closeConcurrency | .closeSlots =>
          (traffic.hall.perform action).map fun hall => { traffic with hall := hall }
      | _ => none
  | .cooldown target cooldown read =>
      traffic.calls house (.reportProactiveCooldown target cooldown read)
  | .update state => some { traffic with shared := { traffic.shared with runtime := state } }
  | .updateWithKeys keys state =>
      (traffic.calls house (.replaceKeys keys)).map fun replaced =>
        { replaced with shared := { replaced.shared with
            runtime :=
              match traffic.shared.system.pool.replaceKeys house.fingerprint keys with
              | .ok _ => state
              | .error _ => traffic.shared.runtime } }
  | .setWall wall => some { traffic with shared := { traffic.shared with wall := wall } }
  | .aside record => some { traffic with log := traffic.log.tryRecord record }
  | .log action =>
      if traffic.logs action then
        (traffic.log.perform house.encoder action).map fun log => { traffic with log := log }
      else none

/-- The step relation of the runs. -/
def Step (before : Traffic) (action : TrafficAction) (after : Traffic) : Prop :=
  before.perform house action = some after

variable {house traffic}

/-! ## Inversion of one step -/

variable {before after first last : Traffic} {action : TrafficAction}
  {trace : List (Runs.Transition Traffic TrafficAction)}

/-- What a step does to the shared parts. Only a handler asks for its own tracker. -/
inductive Shares (house : House) (asker : Option Nat) (before : Shared) : Shared → Prop
  | nothing : Shares house asker before before
  | pool {call : Pool.Action} {system : System} {answer : Option AttemptResult}
      (asked : ∀ request, calledRequest call = some request → asker = some request)
      (performed : before.system.perform house.policy house.fingerprint call =
        some (system, answer)) : Shares house asker before { before with system := system }
  | update (state : RuntimeState) : Shares house asker before { before with runtime := state }
  | updateWithKeys {keys : List Secret} {state : RuntimeState} {system : System}
      {answer : Option AttemptResult}
      (performed : before.system.perform house.policy house.fingerprint (.replaceKeys keys) =
        some (system, answer)) :
      Shares house asker before { before with
        system := system
        runtime :=
          match before.system.pool.replaceKeys house.fingerprint keys with
          | .ok _ => state
          | .error _ => before.runtime }
  | setWall (wall : Int) : Shares house asker before { before with wall := wall }

/-- Every way a step can go. -/
inductive Turn (house : House) (before : Traffic) : TrafficAction → Traffic → Prop
  | ticked {elapsed : Nat} {shared : Shared} (shares : Shares house none before.shared shared) :
      Turn house before (.tick elapsed) { before with
        shared := shared
        hall := { before.hall with clock := before.hall.clock + elapsed }
        log := { before.log with clock := before.log.clock + elapsed } }
  | arrived (headers : HeaderMap) (api : UpstreamApi) (generatedId : String) (guest : Guest) :
      Turn house before (.arrive headers api generatedId) { before with
        visits := before.visits ++ [⟨guest, guest.arriving before.shared, none, none, false⟩] }
  | acquired {id : Nat} {visit : Visit} (present : before.visits[id]? = some visit)
      (queued : visit.own.station = .arriving .queued) (uncalled : visit.call = none) :
      Turn house before (.acquire id) { before with
        hall := { before.hall with calls := before.hall.calls ++ [.trying] }
        visits := before.visits.set id { visit with call := some before.hall.calls.length } }
  | visited {id : Nat} {visit : Visit} {action : HandlerAction} {next : Handling} {hall : Hall}
      {slots : Semaphore Nat} {taken : Bool} (present : before.visits[id]? = some visit)
      (halls : before.hallAfter visit action = some hall)
      (stepped : (visit.guest.handler house (before.position visit)).Step
        (visit.view before.shared) action next)
      (slotted : before.slotsAfter next action = some (slots, taken)) :
      Turn house before (.visit id action) (before.visited id visit action next hall slots taken)
  | unslotted {id : Nat} {visit : Visit} (present : before.visits[id]? = some visit)
      (finished : visit.own.station.finished = true) (held : visit.slot = true) :
      Turn house before (.dropSlot id) { before with
        streamSlots := before.streamSlots.release 1
        visits := before.visits.set id { visit with slot := false } }
  | unpermitted {id call : Nat} {visit : Visit} {hall : Hall}
      (present : before.visits[id]? = some visit) (finished : visit.own.station.finished = true)
      (free : visit.slot = false) (called : visit.call = some call)
      (dropped : Hall.Step before.hall (.drop call) hall) :
      Turn house before (.dropPermit id) { before with hall := hall }
  | queued {action : Queue.Action} {hall : Hall} (stepped : Hall.Step before.hall action hall)
      (undropped : ∀ call, action ≠ .drop call) (unopened : action ≠ .acquire)
      (uncancelled : ∀ call, action ≠ .cancel call) :
      Turn house before (.queue action) { before with hall := hall }
  | shared {action : TrafficAction} {shared : Shared} (quiet : ∀ record, action ≠ .aside record)
      (shares : Shares house none before.shared shared) :
      Turn house before action { before with shared := shared }
  | aside (record : AuditRecord) :
      Turn house before (.aside record) { before with log := before.log.tryRecord record }
  | logged {action : Audit.Action AuditRecord} {log : Audit.Service AuditRecord}
      (free : before.logs action = true)
      (stepped : Audit.Service.Step house.encoder before.log action log) :
      Turn house before (.log action) { before with log := log }

/-- A call changes what is shared. -/
theorem calls_shares {call : Pool.Action} (unasked : calledRequest call = none)
    (called : before.calls house call = some after) :
    ∃ shared, Shares house none before.shared shared ∧
      after = { before with shared := shared } := by
  obtain ⟨⟨system, answer⟩, performed, rfl⟩ := Option.map_eq_some_iff.mp called
  refine ⟨_, .pool ?_ performed, rfl⟩
  intro request asked
  rw [unasked] at asked
  cases asked

/-- The inversion of a step. -/
theorem step_turn (stepped : Step house before action after) : Turn house before action after := by
  unfold Step perform at stepped
  cases action with
  | tick elapsed =>
    obtain ⟨ticked, called, rfl⟩ := Option.map_eq_some_iff.mp stepped
    obtain ⟨shared, shares, rfl⟩ := calls_shares rfl called
    exact .ticked shares
  | arrive headers api generatedId =>
    cases stepped
    exact .arrived headers api generatedId _
  | acquire id =>
    dsimp only at stepped
    split at stepped
    · rename_i visit present
      split at stepped
      · rename_i waits
        cases stepped
        exact .acquired present waits.1 waits.2
      · cases stepped
    · cases stepped
  | visit id action =>
    obtain ⟨visit, present, rest⟩ := Option.bind_eq_some_iff.mp stepped
    obtain ⟨hall, halls, more⟩ := Option.bind_eq_some_iff.mp rest
    obtain ⟨next, performed, last⟩ := Option.bind_eq_some_iff.mp more
    obtain ⟨⟨slots, taken⟩, slotted, rfl⟩ := Option.map_eq_some_iff.mp last
    exact .visited present halls performed slotted
  | dropSlot id =>
    dsimp only at stepped
    split at stepped
    · rename_i visit present
      split at stepped
      · rename_i held
        cases stepped
        exact .unslotted present held.1 held.2
      · cases stepped
    · cases stepped
  | dropPermit id =>
    dsimp only at stepped
    split at stepped
    · rename_i visit present
      split at stepped
      · rename_i finished
        obtain ⟨hall, released, rfl⟩ := Option.map_eq_some_iff.mp stepped
        obtain ⟨call, called, dropped⟩ := Option.bind_eq_some_iff.mp released
        exact .unpermitted present finished.1 finished.2 called dropped
      · cases stepped
    · cases stepped
  | queue action =>
    cases action with
    | proceed | closeConcurrency | closeSlots =>
      obtain ⟨hall, performed, rfl⟩ := Option.map_eq_some_iff.mp stepped
      exact .queued performed (fun _ => Queue.Action.noConfusion) Queue.Action.noConfusion
        fun _ => Queue.Action.noConfusion
    | tick | acquire | cancel | drop => cases stepped
  | cooldown target cooldown read =>
    obtain ⟨shared, shares, rfl⟩ := calls_shares rfl stepped
    exact .shared (fun _ => TrafficAction.noConfusion) shares
  | update state =>
    cases stepped
    exact .shared (fun _ => TrafficAction.noConfusion) (.update state)
  | updateWithKeys keys state =>
    obtain ⟨replaced, called, rfl⟩ := Option.map_eq_some_iff.mp stepped
    obtain ⟨⟨system, answer⟩, performed, rfl⟩ := Option.map_eq_some_iff.mp called
    exact .shared (fun _ => TrafficAction.noConfusion) (.updateWithKeys performed)
  | setWall wall =>
    cases stepped
    exact .shared (fun _ => TrafficAction.noConfusion) (.setWall wall)
  | aside record =>
    cases stepped
    exact .aside record
  | log action =>
    dsimp only at stepped
    split at stepped
    · rename_i free
      obtain ⟨log, performed, rfl⟩ := Option.map_eq_some_iff.mp stepped
      exact .logged free performed
    · cases stepped

end Traffic

end Orihsus.Gateway
