import Orihsus.Queue
import Orihsus.Startup

/-!
# The accept loop

`serve` of `src/server.rs`: the loop that accepts sockets, the tasks it spawns for them and
the drain at the end. A socket is given a task only with a permit of the connection cap,
which the task holds to its end. Every poll of the loop and of a task is a step of its own,
so sockets, failures of `accept`, requests, ends of connections and the shutdown fall
between any two of them. `tokio::select!` takes any of its branches that is ready, and
`join_next` yields any task that is over.

What a connection serves is not looked at here: it comes to a first request or not, and its
future resolves or panics at any time. A task is named by its position; one that was reaped
keeps it.
-/

namespace Orihsus.Serving

open Semaphores (Books Semaphore total)
open Startup (Http1Limits)

/-- `std::io::Error` as `accept_retry_delay` tells its kinds apart. -/
inductive AcceptError where
  | interrupted
  | connectionAborted
  | other (code : Nat)
  deriving DecidableEq, Repr

/-- `ACCEPT_RETRY_DELAY`: a hundred milliseconds. -/
def retryDelay : Nat := 100 * 1000000

/-- `accept_retry_delay`. -/
def acceptRetryDelay : AcceptError → Nat
  | .interrupted | .connectionAborted => 0
  | .other _ => retryDelay

/-- `CONNECTION_TASK_WARNING`. -/
def connectionTaskWarning : String :=
  "orihsus: a connection task panicked or was cancelled; continuing to serve"

/-- `ACCEPT_FAILURE_WARNING`. -/
def acceptFailureWarning : String :=
  "orihsus: accept failed; retrying (further accept failures are not logged)"

/-- How a task came to its end. -/
inductive Ending where
  | served
  | watchdog
  | panicked
  | aborted
  deriving DecidableEq, Repr

/-- `ReapOutcome`. -/
inductive ReapOutcome where
  | completed
  | failed
  deriving DecidableEq, Repr

/-- What `join_next` makes of a task that is over. -/
def Ending.outcome : Ending → ReapOutcome
  | .served | .watchdog => .completed
  | .panicked | .aborted => .failed

/-- A task of the set. The bound on the first request runs from the first poll; `requested`
says that the service has been called. -/
inductive Connection where
  | spawned
  | running (deadline : Nat) (requested : Bool)
  | finished (ending : Ending)
  | reaped (ending : Ending)
  deriving DecidableEq, Repr

/-- What happens to a connection by itself. -/
inductive Event where
  | start
  | request
  | resolve
  | panic
  | expire
  deriving DecidableEq, Repr

namespace Connection

/-- The permits of the cap that a task holds. -/
def permits : Connection → Nat
  | .spawned | .running _ _ => 1
  | .finished _ | .reaped _ => 0

/-- The task is over and has not been reaped. -/
def isFinished : Connection → Bool
  | .finished _ => true
  | _ => false

/-- The task is still in the set. -/
def inSet : Connection → Bool
  | .reaped _ => false
  | _ => true

/-- A poll of a task. The watchdog looks for the first request before the clock, and is
silent for good once it has seen one. -/
def advance (limits : Http1Limits) (now : Nat) : Connection → Event → Option Connection
  | .spawned, .start => some (.running (now + limits.headerReadTimeout) false)
  | .running deadline _, .request => some (.running deadline true)
  | .running _ _, .resolve => some (.finished .served)
  | .running _ _, .panic => some (.finished .panicked)
  | .running deadline requested, .expire =>
      if deadline ≤ now ∧ requested = false then some (.finished .watchdog) else none
  | _, _ => none

end Connection

/-- Where `serve` stands: in its loop, in the sleep after a failed `accept`, in the drain,
after `abort_all`, or past its end. -/
inductive Stage where
  | accepting
  | backingOff (wake : Nat)
  | draining (deadline : Nat)
  | aborting
  | returned
  deriving DecidableEq, Repr

/-- The loop is still open for sockets. -/
def Stage.open_ : Stage → Bool
  | .accepting | .backingOff _ => true
  | _ => false

/-- `serve` with its cap, its set of tasks and what it printed. -/
structure Listener where
  connectionCap : Semaphore Nat
  connections : List Connection
  stage : Stage
  shutdown : Bool
  connectionWarned : Bool
  acceptWarned : Bool
  stderr : List String
  clock : Nat
  deriving DecidableEq, Repr

inductive Action where
  | tick (elapsed : Nat)
  | shutDown
  | accept
  | acceptFails (error : AcceptError)
  | retry
  | reap (id : Nat)
  | stop
  | drain (id : Nat)
  | abortAll
  | finish
  | connection (id : Nat) (event : Event)
  | cancel (id : Nat)
  deriving DecidableEq, Repr

/-- What is fixed for a run. -/
structure Serve where
  limits : Http1Limits
  drainTimeout : Nat

namespace Listener

/-- `serve` as it starts. -/
def started (maxConnections now : Nat) : Listener where
  connectionCap := .new maxConnections
  connections := []
  stage := .accepting
  shutdown := false
  connectionWarned := false
  acceptWarned := false
  stderr := []
  clock := now

variable (listener : Listener)

/-- The set is empty. -/
def isEmpty : Bool := listener.connections.all fun connection => !connection.inSet

/-- The accepted socket gets a task if the cap has a permit, and is closed otherwise. -/
def accepted : Listener :=
  match listener.connectionCap.tryAcquire 1 with
  | .ok connectionCap =>
      { listener with
        connectionCap := connectionCap
        connections := listener.connections ++ [.spawned] }
  | .error _ => listener

/-- A failed `accept`: the one warning, and the sleep if there is one. -/
def acceptFailed (error : AcceptError) : Listener :=
  { listener with
    stderr := listener.stderr ++ Audit.warnOnce listener.acceptWarned acceptFailureWarning
    acceptWarned := true
    stage :=
      if acceptRetryDelay error = 0 then .accepting
      else .backingOff (listener.clock + acceptRetryDelay error) }

/-- A task is taken out of the set. -/
def remove (id : Nat) (ending : Ending) : Listener :=
  { listener with connections := listener.connections.set id (.reaped ending) }

/-- `reap_next_connection`. -/
def reapNextConnection (id : Nat) (ending : Ending) : Listener :=
  match ending.outcome with
  | .completed => listener.remove id ending
  | .failed =>
      { listener.remove id ending with
        stderr := listener.stderr ++
          Audit.warnOnce listener.connectionWarned connectionTaskWarning
        connectionWarned := true }

/-- A task moves on; one that is over has dropped its permit. -/
def moved (id : Nat) (next : Connection) : Listener :=
  { listener with
    connectionCap :=
      if next.isFinished then listener.connectionCap.release 1 else listener.connectionCap
    connections := listener.connections.set id next }

end Listener

namespace Serve

variable (serve : Serve)

/-- One step, if it is enabled. The timeout of the drain polls `join_next` first. -/
def perform (listener : Listener) : Action → Option Listener
  | .tick elapsed => some { listener with clock := listener.clock + elapsed }
  | .shutDown => some { listener with shutdown := true }
  | .accept => if listener.stage = .accepting then some listener.accepted else none
  | .acceptFails error =>
      if listener.stage = .accepting then some (listener.acceptFailed error) else none
  | .retry =>
      match listener.stage with
      | .backingOff wake =>
          if wake ≤ listener.clock then some { listener with stage := .accepting } else none
      | _ => none
  | .reap id =>
      match listener.stage, listener.connections[id]? with
      | .accepting, some (.finished ending) => some (listener.reapNextConnection id ending)
      | _, _ => none
  | .stop =>
      if listener.stage = .accepting ∧ listener.shutdown = true then
        some { listener with stage := .draining (listener.clock + serve.drainTimeout) }
      else none
  | .drain id =>
      match listener.stage, listener.connections[id]? with
      | .draining _, some (.finished ending) | .aborting, some (.finished ending) =>
          some (listener.remove id ending)
      | _, _ => none
  | .abortAll =>
      match listener.stage with
      | .draining deadline =>
          if deadline ≤ listener.clock ∧ listener.isEmpty = false ∧
              listener.connections.any Connection.isFinished = false then
            some { listener with stage := .aborting }
          else none
      | _ => none
  | .finish =>
      match listener.stage with
      | .draining _ | .aborting =>
          if listener.isEmpty then some { listener with stage := .returned } else none
      | _ => none
  | .connection id event =>
      (listener.connections[id]?).bind fun connection =>
        (connection.advance serve.limits listener.clock event).map (listener.moved id)
  | .cancel id =>
      match listener.stage, listener.connections[id]? with
      | .aborting, some .spawned | .aborting, some (.running _ _) =>
          some (listener.moved id (.finished .aborted))
      | _, _ => none

/-- The step relation of the runs. -/
def Step (before : Listener) (action : Action) (after : Listener) : Prop :=
  serve.perform before action = some after

/-! ## Inversion of one step -/

/-- Every way a step can go. -/
inductive Turn (serve : Serve) (before : Listener) : Action → Listener → Prop
  | waited (elapsed : Nat) :
      Turn serve before (.tick elapsed) { before with clock := before.clock + elapsed }
  | signalled : Turn serve before .shutDown { before with shutdown := true }
  | spawned {connectionCap : Semaphore Nat} (accepting : before.stage = .accepting)
      (taken : before.connectionCap.tryAcquire 1 = .ok connectionCap) :
      Turn serve before .accept
        { before with
          connectionCap := connectionCap
          connections := before.connections ++ [.spawned] }
  | closed (accepting : before.stage = .accepting) : Turn serve before .accept before
  | failed (error : AcceptError) (accepting : before.stage = .accepting) :
      Turn serve before (.acceptFails error) (before.acceptFailed error)
  | retried {wake : Nat} (asleep : before.stage = .backingOff wake) (due : wake ≤ before.clock) :
      Turn serve before .retry { before with stage := .accepting }
  | reaped {id : Nat} {ending : Ending} (accepting : before.stage = .accepting)
      (finished : before.connections[id]? = some (.finished ending)) :
      Turn serve before (.reap id) (before.reapNextConnection id ending)
  | stopped (accepting : before.stage = .accepting) (shutdown : before.shutdown = true) :
      Turn serve before .stop
        { before with stage := .draining (before.clock + serve.drainTimeout) }
  | drained {id : Nat} {ending : Ending}
      (leaving : (∃ deadline, before.stage = .draining deadline) ∨ before.stage = .aborting)
      (finished : before.connections[id]? = some (.finished ending)) :
      Turn serve before (.drain id) (before.remove id ending)
  | aborted {deadline : Nat} (draining : before.stage = .draining deadline)
      (due : deadline ≤ before.clock) :
      Turn serve before .abortAll { before with stage := .aborting }
  | ended (leaving : (∃ deadline, before.stage = .draining deadline) ∨ before.stage = .aborting)
      (empty : before.isEmpty = true) :
      Turn serve before .finish { before with stage := .returned }
  | moved {id : Nat} {connection next : Connection} {event : Event}
      (present : before.connections[id]? = some connection)
      (advanced : connection.advance serve.limits before.clock event = some next) :
      Turn serve before (.connection id event) (before.moved id next)
  | cancelled {id : Nat} {connection : Connection} (aborting : before.stage = .aborting)
      (present : before.connections[id]? = some connection) (alive : connection.permits = 1) :
      Turn serve before (.cancel id) (before.moved id (.finished .aborted))

variable {serve : Serve} {before after first middle last : Listener} {action : Action} {id : Nat}
  {connection next : Connection} {event : Event} {maxConnections now : Nat}
  {trace earlier later : List (Runs.Transition Listener Action)}

/-- Every step goes one of these ways. -/
theorem step_turn (stepped : serve.Step before action after) : Turn serve before action after := by
  cases action with
  | tick elapsed =>
    cases stepped
    exact .waited elapsed
  | shutDown =>
    cases stepped
    exact .signalled
  | accept =>
    simp only [Step, perform] at stepped
    split at stepped
    · rename_i accepting
      cases stepped
      unfold Listener.accepted
      split
      · rename_i taken
        exact .spawned accepting taken
      · exact .closed accepting
    · cases stepped
  | acceptFails error =>
    simp only [Step, perform] at stepped
    split at stepped
    · rename_i accepting
      cases stepped
      exact .failed error accepting
    · cases stepped
  | retry =>
    simp only [Step, perform] at stepped
    split at stepped
    · rename_i asleep
      split at stepped
      · rename_i due
        cases stepped
        exact .retried asleep due
      · cases stepped
    · cases stepped
  | reap id =>
    simp only [Step, perform] at stepped
    split at stepped
    · rename_i accepting finished
      cases stepped
      exact .reaped accepting finished
    · cases stepped
  | stop =>
    simp only [Step, perform] at stepped
    split at stepped
    · rename_i ready
      cases stepped
      exact .stopped ready.1 ready.2
    · cases stepped
  | drain id =>
    simp only [Step, perform] at stepped
    split at stepped
    · rename_i draining finished
      cases stepped
      exact .drained (.inl ⟨_, draining⟩) finished
    · rename_i aborting finished
      cases stepped
      exact .drained (.inr aborting) finished
    · cases stepped
  | abortAll =>
    simp only [Step, perform] at stepped
    split at stepped
    · rename_i draining
      split at stepped
      · rename_i ready
        cases stepped
        exact .aborted draining ready.1
      · cases stepped
    · cases stepped
  | finish =>
    simp only [Step, perform] at stepped
    split at stepped
    · rename_i draining
      split at stepped
      · rename_i empty
        cases stepped
        exact .ended (.inl ⟨_, draining⟩) empty
      · cases stepped
    · rename_i aborting
      split at stepped
      · rename_i empty
        cases stepped
        exact .ended (.inr aborting) empty
      · cases stepped
    · cases stepped
  | connection id event =>
    obtain ⟨connection, present, moved⟩ := Option.bind_eq_some_iff.mp stepped
    obtain ⟨next, advanced, rfl⟩ := Option.map_eq_some_iff.mp moved
    exact .moved present advanced
  | cancel id =>
    simp only [Step, perform] at stepped
    split at stepped
    · rename_i aborting present
      cases stepped
      exact .cancelled aborting present rfl
    · rename_i aborting present
      cases stepped
      exact .cancelled aborting present rfl
    · cases stepped

/-! ## The connection cap -/

/-- A poll keeps the permit or ends the task and drops it. -/
theorem advance_permits (advanced : connection.advance serve.limits now event = some next) :
    next.isFinished = true ∧ connection.permits = 1 ∧ next.permits = 0 ∨
      next.isFinished = false ∧ next.permits = connection.permits := by
  unfold Connection.advance at advanced
  split at advanced
  · cases advanced
    exact .inr ⟨rfl, rfl⟩
  · cases advanced
    exact .inr ⟨rfl, rfl⟩
  · cases advanced
    exact .inl ⟨rfl, rfl, rfl⟩
  · cases advanced
    exact .inl ⟨rfl, rfl, rfl⟩
  · split at advanced
    · cases advanced
      exact .inl ⟨rfl, rfl, rfl⟩
    · cases advanced
  · cases advanced

/-- Every permit of the cap is free or held by one task, and nobody waits for one. -/
def Balanced (maxConnections : Nat) (listener : Listener) : Prop :=
  Books Connection.permits (fun _ => none) maxConnections listener.connectionCap
    listener.connections

/-- A finished connection gives its permit back. -/
theorem remove_balanced {ending : Ending} (balanced : Balanced maxConnections before)
    (finished : before.connections[id]? = some (.finished ending)) :
    Balanced maxConnections (before.remove id ending) :=
  balanced.move finished (balanced.keep finished rfl (.inl rfl))

/-- No step loses or makes a permit of the cap. -/
theorem step_balanced (stepped : serve.Step before action after)
    (balanced : Balanced maxConnections before) : Balanced maxConnections after := by
  cases step_turn stepped with
  | waited | signalled | closed | failed | retried | stopped | aborted | ended => exact balanced
  | spawned accepting taken =>
    obtain ⟨unheld, line, _, _⟩ := Semaphore.tryAcquire_ok taken
    exact balanced.enter unheld line
  | @reaped id ending accepting finished =>
    have removed := remove_balanced balanced finished
    unfold Listener.reapNextConnection
    split
    · exact removed
    · exact removed
  | drained leaving finished => exact remove_balanced balanced finished
  | moved present advanced =>
    unfold Balanced Listener.moved
    rcases advance_permits advanced with ⟨ended, held, dropped⟩ | ⟨alive, same⟩
    · rw [if_pos ended]
      exact balanced.move present (balanced.give present (by rw [held, dropped]) rfl)
    · rw [alive]
      exact balanced.move present (balanced.keep present same (.inl rfl))
  | cancelled aborting present alive =>
    exact balanced.move present (balanced.give present alive rfl)

/-- So the books balance in every run. -/
theorem run_balanced (run : Runs.Run serve.Step (.started maxConnections now) trace last) :
    Balanced maxConnections last :=
  run.invariant (Balanced maxConnections) Books.start fun _ _ _ => step_balanced

/-- Once the loop is left it is not entered again, and no socket gets a task. -/
theorem step_left (stepped : serve.Step before action after)
    (left : before.stage.open_ = false) :
    after.stage.open_ = false ∧ after.connections.length = before.connections.length := by
  have barred (accepting : before.stage = .accepting) : False := by
    rw [accepting] at left
    cases left
  cases step_turn stepped with
  | waited | signalled => exact ⟨left, rfl⟩
  | spawned accepting | closed accepting | failed _ accepting | reaped accepting
  | stopped accepting => exact absurd accepting barred
  | retried asleep =>
    rw [asleep] at left
    cases left
  | drained leaving finished => exact ⟨left, List.length_set⟩
  | aborted | ended => exact ⟨rfl, rfl⟩
  | moved | cancelled => exact ⟨left, List.length_set⟩

/-- When `serve` has returned, its set is empty. -/
def Emptied (listener : Listener) : Prop :=
  listener.stage = .returned → ∀ connection ∈ listener.connections, connection.inSet = false

/-- Only a connection in the set goes on. -/
theorem advance_inSet (advanced : connection.advance serve.limits now event = some next) :
    connection.inSet = true := by
  cases connection with
  | reaped ending => cases advanced
  | _ => rfl

/-- `serve` returns with an empty set, which stays so. -/
theorem step_emptied (stepped : serve.Step before action after) (emptied : Emptied before) :
    Emptied after := by
  intro returned
  cases step_turn stepped with
  | waited | signalled | closed => exact emptied returned
  | spawned accepting =>
    rw [accepting] at returned
    cases returned
  | failed error accepting =>
    unfold Listener.acceptFailed at returned
    dsimp only at returned
    split at returned <;> cases returned
  | retried | stopped | aborted => cases returned
  | @reaped id ending accepting finished =>
    unfold Listener.reapNextConnection at returned
    split at returned
    · rw [Listener.remove, accepting] at returned
      cases returned
    · rw [Listener.remove, accepting] at returned
      cases returned
  | drained leaving finished =>
    rcases leaving with ⟨deadline, draining⟩ | aborting
    · rw [Listener.remove, draining] at returned
      cases returned
    · rw [Listener.remove, aborting] at returned
      cases returned
  | ended leaving empty =>
    intro connection member
    simpa using List.all_eq_true.mp empty connection member
  | moved present advanced =>
    have outside := emptied returned _ (List.mem_of_getElem? present)
    rw [advance_inSet advanced] at outside
    cases outside
  | cancelled aborting present alive =>
    rw [Listener.moved, aborting] at returned
    cases returned

/-- What holds of a state of `serve`: the tasks that are alive stay within the cap, every
permit is free or held by one of them, and once it has returned nothing is left. -/
structure WithinCap (maxConnections : Nat) (listener : Listener) : Prop where
  bounded : total Connection.permits listener.connections ≤ maxConnections
  exactly : listener.connectionCap.available + total Connection.permits listener.connections =
    maxConnections
  returned : listener.stage = .returned →
    listener.connectionCap.available = maxConnections ∧
      ∀ connection ∈ listener.connections, ∃ ending, connection = .reaped ending

/-- The free permits and those of the connections make up the cap. -/
theorem Balanced.exactly {listener : Listener} (balanced : Balanced maxConnections listener) :
    listener.connectionCap.available + total Connection.permits listener.connections =
      maxConnections := by
  rw [Semaphore.available_eq (balanced.unlined fun _ _ => rfl)]
  exact balanced.permits

/-- A task that is no longer in the set was reaped. -/
theorem reaped_of_not_inSet (outside : connection.inSet = false) :
    ∃ ending, connection = .reaped ending := by
  cases connection with
  | reaped ending => exact ⟨ending, rfl⟩
  | _ => cases outside

/-- Connections stay within the cap. In every state of every interleaving of sockets,
failures, requests, ends of connections and the shutdown, the tasks that are alive are at
most as many as the cap has permits, and every permit is free or held by one of them. After
the loop was left no socket gets a task, and once `serve` has returned every task was reaped
and every permit is free.

Proof: every step keeps the books of the permits. -/
theorem connections_within_cap
    (upTo : Runs.Run serve.Step (.started maxConnections now) earlier middle)
    (onward : Runs.Run serve.Step middle later last) :
    WithinCap maxConnections last ∧
      (middle.stage.open_ = false →
        last.stage.open_ = false ∧ last.connections.length = middle.connections.length) := by
  have balanced := run_balanced (upTo.append onward)
  have emptied : Emptied last :=
    (upTo.append onward).invariant Emptied nofun fun _ _ _ => step_emptied
  constructor
  · refine ⟨balanced.held_le, balanced.exactly, ?_⟩
    intro returned
    have outside := emptied returned
    have free : last.connectionCap.available = maxConnections := by
      apply balanced.idle
      intro connection member
      obtain ⟨ending, rfl⟩ := reaped_of_not_inSet (outside connection member)
      exact ⟨rfl, rfl⟩
    exact ⟨free, fun connection member => reaped_of_not_inSet (outside connection member)⟩
  · intro left
    exact onward.invariant
      (fun listener => listener.stage.open_ = false ∧
        listener.connections.length = middle.connections.length) ⟨left, rfl⟩
      fun _ _ _ stepped holds =>
        ⟨(step_left stepped holds.1).1, (step_left stepped holds.1).2.trans holds.2⟩

/-- A server with the default limits and half a minute to drain. -/
def sampleServe : Serve := ⟨⟨10_000_000_000, 65_536⟩, 30_000_000_000⟩

/-- Three sockets under a cap of two, then the shutdown. -/
def overCap : List Action :=
  [.accept, .connection 0 .start, .accept, .accept, .connection 0 .request, .shutDown, .stop]

/-- Both connections end, and `serve` returns. -/
def bothEnd : List Action :=
  [.connection 1 .start, .connection 0 .resolve, .connection 1 .resolve, .drain 1, .drain 0,
    .finish]

/-- A cap of two admits two connections, and `serve` returns when both have ended. -/
theorem connections_within_cap_two :
    let left := Runs.reached sampleServe.perform (.started 2 0) overCap
    let final := Runs.reached sampleServe.perform left bothEnd
    left.connections.length = 2 ∧ left.stage.open_ = false ∧ final.stage = .returned ∧
      WithinCap 2 final ∧ final.connections.length = left.connections.length := by
  have upTo : (Runs.record sampleServe.perform (.started 2 0) overCap).isSome := by decide +kernel
  have onward :
      (Runs.record sampleServe.perform (Runs.reached sampleServe.perform (.started 2 0) overCap)
        bothEnd).isSome := by
    decide +kernel
  have within := connections_within_cap (Runs.replay_run upTo) (Runs.replay_run onward)
  exact ⟨by decide +kernel, by decide +kernel, by decide +kernel, within.1,
    (within.2 (by decide +kernel)).2⟩

end Serve

end Orihsus.Serving
