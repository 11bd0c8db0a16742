import Mathlib.Algebra.Ring.Nat
import Orihsus.FirstMatch

/-!
# The key pool

The pool of upstream keys of `src/pool.rs`, one definition for each function.
Every method takes the state lock once, so each is one atomic function of the
state; `now` is the clock it reads. The selection counter is only advanced with
the lock held and is kept in the same state.

Instants and durations are counts of nanoseconds. Counters are natural numbers;
no run that can happen reaches the width of their machine types. The backoff step
alone wraps as its type does, since its laws are stated for every value it can
hold. The fingerprint of a secret is a truncated digest from another crate and
stays a parameter. So does the value drawn by the jitter, which a call may or may
not ask for.
-/

namespace Orihsus.Pool

/-- `Duration::from_secs`. -/
def fromSecs (seconds : Nat) : Nat := seconds * 1000000000

/-- `Duration::MAX`: a full `u64` of seconds and all but one nanosecond of the next. -/
def durationMax : Nat := (2 ^ 64 - 1) * 1000000000 + 999999999

/-- `Duration::saturating_mul`. -/
def saturatingMul (duration : Nat) (factor : Nat) : Nat :=
  min (duration * factor) durationMax

/-- `MAX_COOLDOWN`: ninety days. -/
def maxCooldown : Nat := fromSecs (90 * 24 * 3600)

/-- A configured secret, such as an upstream key. -/
structure Secret where
  asStr : String
  deriving DecidableEq, Repr

/-- The last six characters of a secret, shown by the status endpoint. -/
def keySuffix (secret : String) : String :=
  String.ofList ((secret.toList.reverse.take 6).reverse)

/-- Tuning knobs for the key pool. -/
structure PoolPolicy where
  backoffInitial : Nat
  backoffMax : Nat
  breakerThreshold : Nat
  breakerCooldown : Nat
  waitTimeout : Nat
  maxAttempts : Nat
  deriving DecidableEq, Repr

inductive PoolError where
  | emptyKeys
  | invalidPolicy (message : String)
  deriving DecidableEq, Repr

/-- `PoolPolicy::validate`: the checks in source order, the first failure reported. -/
def PoolPolicy.validate (policy : PoolPolicy) : Except PoolError Unit :=
  if policy.backoffInitial = 0 then
    .error (.invalidPolicy "backoff_initial must be greater than zero")
  else if policy.backoffMax < policy.backoffInitial then
    .error (.invalidPolicy "backoff_max must be >= backoff_initial")
  else if policy.breakerThreshold = 0 then
    .error (.invalidPolicy "breaker_threshold must be at least 1")
  else if policy.breakerCooldown = 0 then
    .error (.invalidPolicy "breaker_cooldown must be greater than zero")
  else if policy.waitTimeout = 0 then
    .error (.invalidPolicy "wait_timeout must be greater than zero")
  else if ¬ (1 ≤ policy.maxAttempts ∧ policy.maxAttempts ≤ 2) then
    .error (.invalidPolicy "max_attempts must be 1 or 2")
  else .ok ()

inductive CoolingReason where
  | proactiveUsage
  | usageLimit
  | rateLimited
  | unavailable
  | circuitBreaker
  deriving DecidableEq, Repr

/-- One key with its live health. `lastFailureBy` is the id of the last report or
claim that changed the failure state; `livenessCooling` is keyed by model. -/
structure KeyEntry where
  key : Secret
  fingerprint : String
  statusId : String
  coolingUntil : Option Nat
  coolingReason : Option CoolingReason
  coolingBy : Option Nat
  consecutiveFailures : Nat
  backoffStep : Nat
  lastFailureBy : Option Nat
  halfOpen : Bool
  livenessCooling : List (String × Nat)
  deriving DecidableEq, Repr

/-- The state behind the pool's lock, with the selection counter. -/
structure PoolState where
  entries : List KeyEntry
  cursor : Nat
  nextId : Nat
  deriving DecidableEq, Repr

/-- A lease on a key, identified by its selection id. -/
structure Selection where
  fingerprint : String
  key : Secret
  id : Nat
  deriving DecidableEq, Repr

inductive AttemptResult where
  | selected (selection : Selection)
  | unavailable (retryAfter : Nat)
  | exhausted
  deriving DecidableEq, Repr

inductive UsageDimension where
  | weekly
  | monthly
  | fiveHour
  deriving DecidableEq, Repr

/-- Classification of an upstream failure reported for a selection. -/
inductive Failure where
  | usageLimit (dimension : UsageDimension) (cooldown : Nat)
  | rateLimited (retryAfter : Option Nat)
  | unavailable (retryAfter : Option Nat)
  | server
  | network
  deriving DecidableEq, Repr

/-- A key captured when a request started. -/
structure RequestCandidate where
  fingerprint : String
  key : Secret
  deriving DecidableEq, Repr

/-- The attempt tracker of one request, pinned to the keys it captured. -/
structure RequestAttempts where
  candidates : List RequestCandidate
  used : List String
  max : Nat
  deadline : Nat
  model : Option String
  deriving DecidableEq, Repr

/-! ## Deadlines and backoff -/

/-- `deadline_after`: the cooldown is clamped before it is added. -/
def deadlineAfter (now : Nat) (cooldown : Nat) : Nat :=
  now + min cooldown maxCooldown

/-- The doubling loop of `backoff_at`, with the iterations that remain. -/
def backoffLoop (policy : PoolPolicy) : Nat → Nat → Nat
  | 0, duration => duration
  | remaining + 1, duration =>
      if policy.backoffMax ≤ duration then duration
      else backoffLoop policy remaining (min (saturatingMul duration 2) policy.backoffMax)

/-- `backoff_at`: at most twenty doublings, capped at `backoff_max`. -/
def backoffAt (policy : PoolPolicy) (step : Nat) : Nat :=
  min (backoffLoop policy (min step 20) policy.backoffInitial) policy.backoffMax

/-- `backoff_step += 1` on a `u32`, as the release build computes it. -/
def nextStep (step : Nat) : Nat := (step + 1) % 2 ^ 32

/-! ## One key's transitions -/

namespace KeyEntry

/-- The key as `with_jitter` and `replace_keys` build it for a new secret. -/
def fresh (fingerprint : String → String) (key : Secret) : KeyEntry where
  key := key
  fingerprint := fingerprint key.asStr
  statusId := keySuffix key.asStr
  coolingUntil := none
  coolingReason := none
  coolingBy := none
  consecutiveFailures := 0
  backoffStep := 0
  lastFailureBy := none
  halfOpen := false
  livenessCooling := []

/-- The key is globally cooling: its deadline is after the given time. -/
def isCooling (entry : KeyEntry) (now : Nat) : Bool :=
  entry.coolingUntil.any (fun deadline => now < deadline)

/-- An existing deadline strictly later than a reported one absorbs the report. -/
def absorbs (entry : KeyEntry) (deadline : Nat) : Bool :=
  entry.coolingUntil.any (fun existing => deadline < existing)

/-- The key is cooling for the request's model, if the request has one. -/
def isLivenessCooling (entry : KeyEntry) (model : Option String) (now : Nat) : Bool :=
  model.any (fun name => (entry.livenessCooling.lookup name).any (fun deadline => now < deadline))

/-- The three fields every cooldown writes together. -/
def cool (entry : KeyEntry) (deadline : Nat) (reason : CoolingReason) (id : Nat) : KeyEntry :=
  { entry with
    coolingUntil := some deadline
    coolingReason := some reason
    coolingBy := some id }

/-- What an accepted success leaves: every failure field reset, the per-model
liveness kept. -/
def reset (entry : KeyEntry) : KeyEntry :=
  { entry with
    backoffStep := 0
    consecutiveFailures := 0
    coolingUntil := none
    coolingReason := none
    coolingBy := none
    halfOpen := false
    lastFailureBy := none }

/-- A success is ignored when a newer report owns the failure state. -/
def ignoresSuccess (entry : KeyEntry) (id : Nat) : Bool :=
  entry.lastFailureBy.any (fun newer => id < newer)

/-- The key after `report_success`. -/
def recordSuccess (entry : KeyEntry) (id : Nat) : KeyEntry :=
  if entry.ignoresSuccess id then entry else entry.reset

/-- The key after `report_proactive_cooldown`, and whether the cursor advances. -/
def recordProactive (entry : KeyEntry) (id : Nat) (deadline : Nat) : KeyEntry × Bool :=
  if entry.absorbs deadline then (entry, false)
  else ({ entry.cool deadline .proactiveUsage id with lastFailureBy := some id }, true)

/-- The cooldown of a 429 or 401/403 report: a positive Retry-After as it stands,
otherwise the jittered backoff, flagged so that the step grows. -/
def retryCooldown (policy : PoolPolicy) (jitter : Nat → Nat) (entry : KeyEntry)
    (retryAfter : Option Nat) : Nat × Bool :=
  match retryAfter with
  | some given =>
      if 0 < given then (given, false)
      else (min (jitter (backoffAt policy entry.backoffStep)) policy.backoffMax, true)
  | none => (min (jitter (backoffAt policy entry.backoffStep)) policy.backoffMax, true)

/-- The `RateLimited` and `Unavailable` arms of `report_failure`, which differ in
the recorded reason only. -/
def recordRetry (policy : PoolPolicy) (jitter : Nat → Nat) (entry : KeyEntry) (id : Nat)
    (reason : CoolingReason) (retryAfter : Option Nat) (now : Nat) : KeyEntry × Bool :=
  let (cooldown, backedOff) := entry.retryCooldown policy jitter retryAfter
  let newDeadline := deadlineAfter now cooldown
  if entry.absorbs newDeadline then (entry, false)
  else
    ({ entry.cool newDeadline reason id with
        backoffStep := if backedOff then nextStep entry.backoffStep else entry.backoffStep
        lastFailureBy := some id }, true)

/-- The key after `report_failure`, and whether the cursor advances. -/
def recordFailure (policy : PoolPolicy) (jitter : Nat → Nat) (entry : KeyEntry) (id : Nat)
    (failure : Failure) (now : Nat) : KeyEntry × Bool :=
  match failure with
  | .usageLimit _ cooldown =>
      let newDeadline := deadlineAfter now cooldown
      if entry.absorbs newDeadline then (entry, false)
      else ({ entry.cool newDeadline .usageLimit id with lastFailureBy := some id }, true)
  | .rateLimited retryAfter => entry.recordRetry policy jitter id .rateLimited retryAfter now
  | .unavailable retryAfter => entry.recordRetry policy jitter id .unavailable retryAfter now
  | .server => (entry, false)
  | .network =>
      let counted := { entry with
        consecutiveFailures := entry.consecutiveFailures + 1
        lastFailureBy := some id }
      if policy.breakerThreshold ≤ counted.consecutiveFailures then
        let newDeadline := deadlineAfter now policy.breakerCooldown
        if counted.absorbs newDeadline then (counted, false)
        else
          ({ counted.cool newDeadline .circuitBreaker id with
              consecutiveFailures := 0
              halfOpen := true }, true)
      else (counted, false)

/-- The claim a selection puts on a recovering key. -/
def claim (policy : PoolPolicy) (entry : KeyEntry) (id : Nat) (now : Nat) : KeyEntry :=
  if entry.halfOpen then
    { entry.cool (deadlineAfter now policy.breakerCooldown) .circuitBreaker id with
      lastFailureBy := some id }
  else entry

/-- `liveness_cooling.insert`: the model's deadline is replaced. -/
def recordLiveness (entry : KeyEntry) (model : String) (deadline : Nat) : KeyEntry :=
  { entry with
    livenessCooling := (model, deadline) ::
      entry.livenessCooling.filter (fun cooled => cooled.1 ≠ model) }

/-- The health a key keeps when `replace_keys` lists its fingerprint again. -/
def carried (previous : KeyEntry) (fingerprint : String → String) (key : Secret) : KeyEntry :=
  { previous with
    key := key
    fingerprint := fingerprint key.asStr
    statusId := keySuffix key.asStr }

end KeyEntry

/-! ## The pool's methods -/

namespace PoolState

/-- The entry a fingerprint finds. -/
def lookup (state : PoolState) (fingerprint : String) : Option KeyEntry :=
  FirstMatch.lookup KeyEntry.fingerprint state.entries fingerprint

/-- Rewrite the entry a fingerprint finds. -/
def adjust (state : PoolState) (fingerprint : String) (change : KeyEntry → KeyEntry) : PoolState :=
  { state with entries := FirstMatch.update KeyEntry.fingerprint fingerprint change state.entries }

/-- `KeyPool::with_jitter`. -/
def withJitter (fingerprint : String → String) (keys : List Secret) (policy : PoolPolicy) :
    Except PoolError PoolState := do
  policy.validate
  if keys.isEmpty then .error .emptyKeys
  else pure { entries := keys.map (KeyEntry.fresh fingerprint), cursor := 0, nextId := 0 }

/-- One entry of the list `replace_keys` builds from the old one. -/
def replacement (fingerprint : String → String) (state : PoolState) (key : Secret) : KeyEntry :=
  match state.lookup (fingerprint key.asStr) with
  | some previous => previous.carried fingerprint key
  | none => KeyEntry.fresh fingerprint key

/-- `KeyPool::replace_keys`: health follows the fingerprint, the cursor stays an
index and is only clamped. -/
def replaceKeys (fingerprint : String → String) (state : PoolState) (keys : List Secret) :
    Except PoolError PoolState :=
  if keys.isEmpty then .error .emptyKeys
  else .ok { state with
    entries := keys.map (state.replacement fingerprint)
    cursor := min state.cursor (keys.length - 1) }

/-- The entry at an offset from the cursor is not cooling. -/
def availableAt (state : PoolState) (now : Nat) (offset : Nat) : Bool :=
  (state.entries[(state.cursor + offset) % state.entries.length]?).any
    (fun entry => !entry.isCooling now)

/-- `advance_cursor`: the first offset from one to the number of keys whose entry
is not cooling. The cursor's own entry is tried last, and nothing moves when
every key is cooling. -/
def advanceCursor (state : PoolState) (now : Nat) : PoolState :=
  if state.entries.length = 0 then state
  else
    match (List.range' 1 state.entries.length).find? (state.availableAt now) with
    | some offset => { state with cursor := (state.cursor + offset) % state.entries.length }
    | none => state

/-- `KeyPool::request_with_model`: the captured keys, in cursor order. -/
def candidates (state : PoolState) : List RequestCandidate :=
  (List.range state.entries.length).filterMap fun offset =>
    (state.entries[(state.cursor + offset) % state.entries.length]?).map fun entry =>
      { fingerprint := entry.fingerprint, key := entry.key }

def requestWithModel (policy : PoolPolicy) (state : PoolState) (model : Option String)
    (now : Nat) : RequestAttempts where
  candidates := state.candidates
  used := []
  max := policy.maxAttempts
  deadline := deadlineAfter now policy.waitTimeout
  model := model

/-- `KeyPool::report_liveness_failure`. -/
def reportLivenessFailure (policy : PoolPolicy) (state : PoolState) (selection : Selection)
    (model : String) (now : Nat) : PoolState :=
  state.adjust selection.fingerprint
    (fun entry => entry.recordLiveness model (deadlineAfter now policy.backoffInitial))

/-- `KeyPool::report_success`. -/
def reportSuccess (state : PoolState) (selection : Selection) : PoolState :=
  state.adjust selection.fingerprint (fun entry => entry.recordSuccess selection.id)

/-- `KeyPool::report_proactive_cooldown`: `now` was read before the lock was
taken; the report id is drawn with the lock held, and only for a live key. -/
def reportProactiveCooldown (state : PoolState) (fingerprint : String) (cooldown : Nat)
    (now : Nat) : PoolState :=
  match state.lookup fingerprint with
  | none => state
  | some entry =>
      let deadline := deadlineAfter now cooldown
      let reported := { state.adjust fingerprint
          (fun entry => (entry.recordProactive state.nextId deadline).1) with
        nextId := state.nextId + 1 }
      if (entry.recordProactive state.nextId deadline).2 then reported.advanceCursor now
      else reported

/-- `KeyPool::report_failure`. -/
def reportFailure (policy : PoolPolicy) (jitter : Nat → Nat) (state : PoolState)
    (selection : Selection) (failure : Failure) (now : Nat) : PoolState :=
  match state.lookup selection.fingerprint with
  | none => state
  | some entry =>
      let reported := state.adjust selection.fingerprint
        (fun entry => (entry.recordFailure policy jitter selection.id failure now).1)
      if (entry.recordFailure policy jitter selection.id failure now).2 then
        reported.advanceCursor now
      else reported

end PoolState

/-! ## Selection -/

namespace RequestAttempts

/-- The test of `try_select_unused`: not yet used, in the live pool, and cooling
neither globally nor for the request's model. -/
def eligible (attempts : RequestAttempts) (state : PoolState) (now : Nat)
    (candidate : RequestCandidate) : Bool :=
  if candidate.fingerprint ∈ attempts.used then false
  else
    match state.lookup candidate.fingerprint with
    | some entry => !entry.isCooling now && !entry.isLivenessCooling attempts.model now
    | none => false

/-- `RequestAttempts::try_select_unused`: the first eligible candidate in captured
order, claimed when it is half-open. -/
def trySelectUnused (policy : PoolPolicy) (attempts : RequestAttempts) (state : PoolState)
    (now : Nat) : Option (Selection × PoolState) :=
  match attempts.candidates.find? (attempts.eligible state now) with
  | none => none
  | some candidate =>
      let selection : Selection :=
        { fingerprint := candidate.fingerprint, key := candidate.key, id := state.nextId }
      some (selection, { state.adjust candidate.fingerprint
          (fun entry => entry.claim policy selection.id now) with
        nextId := state.nextId + 1 })

/-- `RequestAttempts::has_unused`. -/
def hasUnused (attempts : RequestAttempts) : Bool :=
  attempts.candidates.any (fun candidate => candidate.fingerprint ∉ attempts.used)

/-- The deadline `earliest_recovery` reads for one candidate: the later of its
global and its per-model deadline, whichever exist. -/
def recoveryDeadline (attempts : RequestAttempts) (state : PoolState)
    (candidate : RequestCandidate) : Option Nat :=
  match state.lookup candidate.fingerprint with
  | none => none
  | some entry =>
      match entry.coolingUntil,
          attempts.model.bind (fun model => entry.livenessCooling.lookup model) with
      | some globally, some modelled => some (Nat.max globally modelled)
      | some globally, none => some globally
      | none, some modelled => some modelled
      | none, none => none

/-- `RequestAttempts::earliest_recovery`: the least deadline still ahead, over
every captured candidate, used or not. -/
def earliestRecovery (attempts : RequestAttempts) (state : PoolState) (now : Nat) :
    Option Nat :=
  ((attempts.candidates.filterMap (attempts.recoveryDeadline state)).filter
    (fun deadline => now < deadline)).min?

/-- `RequestAttempts::set_model`. -/
def setModel (attempts : RequestAttempts) (model : String) : RequestAttempts :=
  { attempts with model := some model }

/-- The bookkeeping of a successful selection. -/
def markUsed (attempts : RequestAttempts) (selection : Selection) : RequestAttempts :=
  { attempts with used := attempts.used ++ [selection.fingerprint] }

/-- `RequestAttempts::next_immediate`. -/
def nextImmediate (policy : PoolPolicy) (attempts : RequestAttempts) (state : PoolState)
    (now : Nat) : RequestAttempts × PoolState × AttemptResult :=
  if attempts.max ≤ attempts.used.length then (attempts, state, .exhausted)
  else
    match attempts.trySelectUnused policy state now with
    | some (selection, claimed) => (attempts.markUsed selection, claimed, .selected selection)
    | none => (attempts, state, .exhausted)

end RequestAttempts

end Orihsus.Pool
