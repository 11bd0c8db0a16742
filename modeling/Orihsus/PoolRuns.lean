import Orihsus.Runs
import Orihsus.Pool

/-!
# Concurrent use of the pool

Any number of requests share one pool. A call of `next` is not atomic: it takes
the lock once to try a selection, reads the clock, takes the lock again to
compute the earliest recovery, and may then sleep. Each of these is a step of
its own, so steps of other requests, reports, reloads and the clock can fall
between any two of them. Every other method holds the lock for its whole body
and is one step.

A report carries a selection that some call handed out; the fields of a
selection are private to the pool, and this is the only way to obtain one. The
list of selections handed out records history for the guard alone.
-/

namespace Orihsus.Pool

/-- Where a call of `next` stands between two of its steps. `recovering` holds
the clock it read when it compared the time with its deadline. -/
inductive CallPhase where
  | idle
  | selecting
  | missed
  | recovering (now : Nat)
  | sleeping (wake : Nat)
  deriving DecidableEq, Repr

/-- A request with the call it has in progress. -/
structure Caller where
  attempts : RequestAttempts
  phase : CallPhase
  deriving DecidableEq, Repr

namespace Caller

/-- The start of `RequestAttempts::next`, before its loop. -/
def next (caller : Caller) : Caller × Option AttemptResult :=
  if caller.attempts.max ≤ caller.attempts.used.length then (caller, some .exhausted)
  else ({ caller with phase := .selecting }, none)

/-- One step of the loop of `RequestAttempts::next`, with the answer if the call
returns. A sleeping call has no step before its wake-up time. -/
def advance (policy : PoolPolicy) (caller : Caller) (state : PoolState) (now : Nat) :
    Option (Caller × PoolState × Option AttemptResult) :=
  match caller.phase with
  | .idle => none
  | .selecting =>
      match caller.attempts.trySelectUnused policy state now with
      | some (selection, claimed) =>
          some (⟨caller.attempts.markUsed selection, .idle⟩, claimed, some (.selected selection))
      | none => some (⟨caller.attempts, .missed⟩, state, none)
  | .missed =>
      if caller.attempts.hasUnused then some (⟨caller.attempts, .recovering now⟩, state, none)
      else some (⟨caller.attempts, .idle⟩, state, some .exhausted)
  | .recovering read =>
      let earliest := caller.attempts.earliestRecovery state now
      if caller.attempts.deadline ≤ read then
        some (⟨caller.attempts, .idle⟩, state, some (.unavailable (earliest.getD read - read)))
      else
        match earliest with
        | none => some (⟨caller.attempts, .idle⟩, state, some (.unavailable 0))
        | some recovery =>
            if recovery ≤ read then some (⟨caller.attempts, .selecting⟩, state, none)
            else
              some (⟨caller.attempts, .sleeping (min recovery caller.attempts.deadline)⟩, state,
                none)
  | .sleeping wake =>
      if wake ≤ now then some (⟨caller.attempts, .selecting⟩, state, none) else none

end Caller

/-- The pool with its clock, its requests and the selections handed out so far. -/
structure System where
  pool : PoolState
  clock : Nat
  callers : List Caller
  issued : List Selection
  deriving DecidableEq, Repr

/-- What a party may do next. A request is named by its position. -/
inductive Action where
  | tick (elapsed : Nat)
  | request (model : Option String)
  | setModel (request : Nat) (model : String)
  | next (request : Nat)
  | nextImmediate (request : Nat)
  | advance (request : Nat)
  | reportSuccess (selection : Selection)
  | reportFailure (selection : Selection) (failure : Failure) (jitter : Nat → Nat)
  | reportProactiveCooldown (fingerprint : String) (cooldown : Nat) (read : Nat)
  | reportLivenessFailure (selection : Selection) (model : String)
  | replaceKeys (keys : List Secret)

namespace System

/-- The selection an answer carries. -/
def answered : Option AttemptResult → List Selection
  | some (.selected selection) => [selection]
  | _ => []

/-- Record one call's step: its request, the pool it left and its answer. -/
def called (system : System) (request : Nat) (caller : Caller) (pool : PoolState)
    (answer : Option AttemptResult) : System × Option AttemptResult :=
  ({ system with
      pool := pool
      callers := system.callers.set request caller
      issued := system.issued ++ answered answer }, answer)

/-- Replace the pool and nothing else. -/
def withPool (system : System) (pool : PoolState) : System × Option AttemptResult :=
  ({ system with pool := pool }, none)

variable (policy : PoolPolicy) (fingerprint : String → String)

/-- One step, if the action is enabled: the system it leaves and the answer a
call returned, if one did. A refused reload changes nothing. -/
def perform (system : System) : Action → Option (System × Option AttemptResult)
  | .tick elapsed => some ({ system with clock := system.clock + elapsed }, none)
  | .request model =>
      some ({ system with
        callers := system.callers ++
          [⟨system.pool.requestWithModel policy model system.clock, .idle⟩] }, none)
  | .setModel request model => do
      let caller ← system.callers[request]?
      guard (caller.phase = .idle)
      pure (system.called request ⟨caller.attempts.setModel model, .idle⟩ system.pool none)
  | .next request => do
      let caller ← system.callers[request]?
      guard (caller.phase = .idle)
      pure (system.called request caller.next.1 system.pool caller.next.2)
  | .nextImmediate request => do
      let caller ← system.callers[request]?
      guard (caller.phase = .idle)
      let (attempts, pool, answer) := caller.attempts.nextImmediate policy system.pool system.clock
      pure (system.called request ⟨attempts, .idle⟩ pool (some answer))
  | .advance request => do
      let caller ← system.callers[request]?
      let (advanced, pool, answer) ← caller.advance policy system.pool system.clock
      pure (system.called request advanced pool answer)
  | .reportSuccess selection => do
      guard (selection ∈ system.issued)
      pure (system.withPool (system.pool.reportSuccess selection))
  | .reportFailure selection failure jitter => do
      guard (selection ∈ system.issued)
      pure (system.withPool
        (system.pool.reportFailure policy jitter selection failure system.clock))
  | .reportProactiveCooldown target cooldown read => do
      guard (read ≤ system.clock)
      pure (system.withPool (system.pool.reportProactiveCooldown target cooldown read))
  | .reportLivenessFailure selection model => do
      guard (selection ∈ system.issued)
      pure (system.withPool
        (system.pool.reportLivenessFailure policy selection model system.clock))
  | .replaceKeys keys =>
      match system.pool.replaceKeys fingerprint keys with
      | .ok pool => some (system.withPool pool)
      | .error _ => some (system, none)

/-- The step relation of the runs. -/
def Step (before : System) (action : Action) (after : System) : Prop :=
  (before.perform policy fingerprint action).map Prod.fst = some after

instance (before : System) (action : Action) (after : System) :
    Decidable (Step policy fingerprint before action after) :=
  inferInstanceAs (Decidable (_ = _))

/-- The answer a call returned in a step, if one did. -/
def answer (before : System) (action : Action) : Option AttemptResult :=
  (before.perform policy fingerprint action).bind Prod.snd

/-- A freshly built pool, before any request. -/
def Initial (system : System) : Prop :=
  ∃ keys, PoolState.withJitter fingerprint keys policy = .ok system.pool ∧
    system.callers = [] ∧ system.issued = []

/-- The system that `with_jitter` starts, at time zero. -/
def started (keys : List Secret) : System where
  pool := { entries := keys.map (KeyEntry.fresh fingerprint), cursor := 0, nextId := 0 }
  clock := 0
  callers := []
  issued := []

/-- A started pool is initial. -/
theorem started_initial {keys : List Secret} (valid : policy.validate = .ok ())
    (nonempty : keys ≠ []) : Initial policy fingerprint (started fingerprint keys) := by
  refine ⟨keys, ?_, rfl, rfl⟩
  rw [PoolState.withJitter, valid]
  simp [nonempty, started, bind, Except.bind, pure, Except.pure]

/-- A small valid policy for concrete runs. -/
def samplePolicy : PoolPolicy where
  backoffInitial := 5
  backoffMax := 60
  breakerThreshold := 2
  breakerCooldown := 60
  waitTimeout := 30
  maxAttempts := 2

/-- The plainest injective fingerprint, for concrete runs. -/
def sampleFingerprint (secret : String) : String := secret

/-- The state that an action leads to in them. -/
def sampleNext (before : System) (action : Action) : Option System :=
  (before.perform samplePolicy sampleFingerprint action).map Prod.fst

/-- A system whose only key is `a`. -/
def onlyA : System := started sampleFingerprint [⟨"a"⟩]

/-- The lease of this key with an id. -/
def leaseOfA (id : Nat) : Selection := ⟨"a", ⟨"a"⟩, id⟩

/-- A system of three keys. -/
def freshABC : System := started sampleFingerprint [⟨"a"⟩, ⟨"b"⟩, ⟨"c"⟩]

/-- One request leases the first two of them. -/
def leaseTwice : List Action := [.request none, .nextImmediate 0, .nextImmediate 0]

end System

end Orihsus.Pool
