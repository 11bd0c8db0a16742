import Orihsus.AuditWriter
import Orihsus.BodyBudget
import Orihsus.Failover
import Orihsus.Queue

/-!
# Starting the gateway

`assemble` of `src/app.rs` and the listener of `src/server.rs`, with every conversion,
assertion and library bound on a configured number that aborts the process when it fails,
and what validation of the configuration guarantees about them. Building the HTTP client,
opening the audit file and allocating the channel of `queue_capacity` records depend on the
machine; the file is given as it is opened, and memory is not modelled. The parts that
`assemble` builds are the ones that the modules of the pool, the reloads, the bodies and
the deadlines start from.
-/

namespace Orihsus.Startup

open Orihsus.Configuration
open Audit (AuditError IoError)
open Bodies (BodyBudget)
open Gateway (GatewayState RuntimeState)
open Pool (PoolError PoolPolicy PoolState)
open Queue (AdmissionQueue)
open Reload (Deployment RuntimeConfigSnapshot poolPolicy)
open Semaphores (Semaphore)

/-! ## Constructors -/

/-- Why the gateway does not start. A failed `expect` or `assert`, its own or a
library's, aborts the process. -/
inductive StartupError where
  | panicked
  | pool (error : PoolError)
  | audit (error : AuditError)
  deriving DecidableEq, Repr

/-- `assert!`. -/
def require (condition : Bool) : Except StartupError Unit :=
  if condition then .ok () else .error .panicked

/-- `u32::try_from(..).expect(..)`. -/
def expectU32 (value : Nat) : Except StartupError Nat := do
  require (value ≤ u32Max)
  pure value

/-- `Semaphore::new`, which refuses more permits than it can count. -/
def newSemaphore (permits : Nat) : Except StartupError (Semaphore Nat) := do
  require (permits ≤ maxPermits)
  pure (.new permits)

/-- The policy of `assemble`, with its conversion. -/
def assemblePolicy (config : Config) : Except StartupError PoolPolicy := do
  let breakerThreshold ← expectU32 config.keyFailureHandling.breakerThreshold
  pure { poolPolicy config with breakerThreshold := breakerThreshold }

/-- `AdmissionQueue::new`, with its assertions. -/
def newAdmissionQueue (maxConcurrency maxQueue waitTimeout : Nat) :
    Except StartupError AdmissionQueue := do
  require (0 < maxConcurrency)
  require (0 < waitTimeout)
  let concurrency ← newSemaphore maxConcurrency
  let queueSlots ← newSemaphore maxQueue
  pure { AdmissionQueue.new maxConcurrency maxQueue waitTimeout with
    concurrency := concurrency, queueSlots := queueSlots }

/-- `BodyBudget::new`, with its assertions. -/
def newBodyBudget (capacity permitsPerRequest : Nat) : Except StartupError BodyBudget := do
  require (0 < capacity)
  require (permitsPerRequest ≤ capacity)
  let sem ← newSemaphore capacity
  pure { sem := sem, permitsPerRequest := permitsPerRequest, capacity := capacity }

/-- The number of stream slots of `GatewayState::with_runtime`. -/
def maxStreams (maxConcurrency : Nat) : Nat := max (maxConcurrency / 4) 1

/-- The timeouts that `assemble` gives to the gateway. -/
def assembleGateway (config : Config) : GatewayState where
  timeouts :=
    { bodyRead := config.server.bodyReadTimeout
      upstreamHeader := config.server.upstreamResponseHeaderTimeout
      firstEvent := config.server.firstEventTimeout
      interEvent := config.server.interEventTimeout
      upstreamErrorBody := config.server.upstreamErrorBodyTimeout
      responseWrite := config.server.responseWriteTimeout }
  modelEventTimeouts := config.server.modelEventTimeouts

/-- `AppRuntime`, with what `GatewayState` holds besides. -/
structure AppRuntime (Record : Type) where
  pool : PoolState
  queue : AdmissionQueue
  runtime : RuntimeState
  audit : Audit.Service Record
  bodyBudget : BodyBudget
  streamSlots : Semaphore Nat
  gateway : GatewayState

/-- `assemble`. -/
def assemble {Record : Type} (fingerprint : String → String)
    (opened : Except IoError (List UInt8)) (config : Config) :
    Except StartupError (AppRuntime Record) := do
  let policy ← assemblePolicy config
  let pool ← (PoolState.withJitter fingerprint config.keys policy).mapError .pool
  let queue ← newAdmissionQueue config.limits.maxConcurrency config.limits.maxQueue
    config.limits.queueWaitTimeout
  let runtime := (RuntimeConfigSnapshot.fromConfig config).runtimeState config.models
  let audit ← (Audit.Service.start opened config.audit.queueCapacity).mapError .audit
  let permitsPerRequest ← expectU32 config.limits.maxBodyBytes
  let bodyBudget ← newBodyBudget config.limits.maxInflightBodyBytes permitsPerRequest
  let streamSlots ← newSemaphore (maxStreams queue.snapshot.maxConcurrency)
  let gateway := assembleGateway config
  pure { pool, queue, runtime, audit, bodyBudget, streamSlots, gateway }

/-- The limits of a connection, as `build_builder` sets them. -/
structure Http1Limits where
  headerReadTimeout : Nat
  maxHeaderBytes : Nat
  deriving DecidableEq, Repr

/-- `Http1Limits::from_settings`. -/
def Http1Limits.fromSettings (settings : Server) : Http1Limits where
  headerReadTimeout := settings.readHeaderTimeout
  maxHeaderBytes := settings.maxHeaderBytes

/-- `build_builder`: the size of the HTTP/1 buffer, for which the library has a minimum,
and of an HTTP/2 header list. -/
def buildBuilder (limits : Http1Limits) : Except StartupError (Nat × Nat) := do
  require (8192 ≤ limits.maxHeaderBytes)
  let maxHeaderListSize ← expectU32 limits.maxHeaderBytes
  pure (limits.maxHeaderBytes, maxHeaderListSize)

/-- Every semaphore that a configuration sizes: admission, queue, bodies, streams and
connections. -/
def semaphoreSizes (config : Config) : List Nat :=
  [config.limits.maxConcurrency, config.limits.maxQueue, config.limits.maxInflightBodyBytes,
    maxStreams config.limits.maxConcurrency, config.server.maxConnections]

/-! ## What each check guarantees -/

variable {raw : RawConfig} {config : Config} {libraries : Libraries}

/-- What the loop over the credentials accepts: names and tokens that are not blank and
that neither repeat nor have been seen. -/
theorem gatewayKeysFrom_ok {entries : List RawGatewayKey} {names tokens : List String}
    {keys : List Gateway.GatewayKey} (accepted : gatewayKeysFrom names tokens entries = .ok keys) :
    ((keys.map fun key => key.name).Nodup ∧
        ∀ key ∈ keys, key.name ∉ names ∧ blank key.name = false) ∧
      ((keys.map fun key => key.token.asStr).Nodup ∧
        ∀ key ∈ keys, key.token.asStr ∉ tokens ∧ blank key.token.asStr = false) := by
  induction entries generalizing names tokens keys with
  | nil =>
    cases accepted
    simp
  | cons entry rest inductionHypothesis =>
    unfold gatewayKeysFrom at accepted
    obtain ⟨_, named, accepted⟩ := bind_ok accepted
    obtain ⟨_, tokened, accepted⟩ := bind_ok accepted
    obtain ⟨_, freshName, accepted⟩ := bind_ok accepted
    obtain ⟨_, freshToken, accepted⟩ := bind_ok accepted
    obtain ⟨later, following, accepted⟩ := bind_ok accepted
    have named := reject_ok named
    have tokened := reject_ok tokened
    have freshName := reject_ok freshName
    have freshToken := reject_ok freshToken
    simp only [Bool.or_eq_false_iff] at named
    cases accepted
    obtain ⟨⟨distinctNames, laterNames⟩, distinctTokens, laterTokens⟩ :=
      inductionHypothesis following
    refine ⟨⟨?_, ?_⟩, ?_, ?_⟩
    · rw [List.map_cons, List.nodup_cons]
      refine ⟨?_, distinctNames⟩
      intro member
      obtain ⟨key, inside, same⟩ := List.mem_map.mp member
      exact (laterNames key inside).1 (same ▸ List.mem_cons_self)
    · intro key member
      rcases List.mem_cons.mp member with rfl | inside
      · exact ⟨by simpa using freshName, named.1⟩
      · exact ⟨fun seen => (laterNames key inside).1 (List.mem_cons_of_mem _ seen),
          (laterNames key inside).2⟩
    · rw [List.map_cons, List.nodup_cons]
      refine ⟨?_, distinctTokens⟩
      intro member
      obtain ⟨key, inside, same⟩ := List.mem_map.mp member
      exact (laterTokens key inside).1 (same ▸ List.mem_cons_self)
    · intro key member
      rcases List.mem_cons.mp member with rfl | inside
      · exact ⟨by simpa using freshToken, tokened⟩
      · exact ⟨fun seen => (laterTokens key inside).1 (List.mem_cons_of_mem _ seen),
          (laterTokens key inside).2⟩

/-- Texts that are pairwise distinct and not blank. -/
def Proper (texts : List String) : Prop := texts.Nodup ∧ ∀ text ∈ texts, blank text = false

/-- Accepted gateway credentials have distinct names and tokens, none of them blank. -/
theorem gatewayKeysOf_ok {keys : List Gateway.GatewayKey}
    (accepted : gatewayKeysOf raw = .ok keys) :
    Proper (keys.map fun key => key.name) ∧ Proper (keys.map fun key => key.token.asStr) := by
  unfold gatewayKeysOf at accepted
  obtain ⟨_, _, accepted⟩ := bind_ok accepted
  split at accepted
  · rename_i token _
    obtain ⟨_, given, accepted⟩ := bind_ok accepted
    have given := reject_ok given
    cases accepted
    refine ⟨⟨List.nodup_singleton _, ?_⟩, List.nodup_singleton _, ?_⟩
    · intro text member
      obtain rfl := List.mem_singleton.mp member
      change blank "legacy" = false
      decide
    · intro text member
      obtain rfl := List.mem_singleton.mp member
      exact given
  · obtain ⟨_, _, accepted⟩ := bind_ok accepted
    obtain ⟨⟨distinctNames, names⟩, distinctTokens, tokens⟩ := gatewayKeysFrom_ok accepted
    refine ⟨⟨distinctNames, ?_⟩, distinctTokens, ?_⟩
    · intro text member
      obtain ⟨key, inside, rfl⟩ := List.mem_map.mp member
      exact (names key inside).2
    · intro text member
      obtain ⟨key, inside, rfl⟩ := List.mem_map.mp member
      exact (tokens key inside).2
  · cases accepted

/-- An accepted address is one of the loopback. -/
theorem listenOf_ok {parseIp : String → Option IpAddr} {listen : SocketAddr}
    (accepted : listenOf parseIp raw = .ok listen) : listen.ip.isLoopback = true := by
  unfold listenOf at accepted
  dsimp only at accepted
  split at accepted
  · cases accepted
  · obtain ⟨_, loopback, accepted⟩ := bind_ok accepted
    have loopback := reject_ok loopback
    cases accepted
    simpa using loopback

/-- The loop over the keys keeps all of them and accepts no blank one. -/
theorem keysFrom_ok {fingerprint : String → String} {rawKeys : List RawKey}
    {aliases later : List (String × String)} {keys : List String}
    (accepted : keysFrom fingerprint aliases rawKeys = .ok (keys, later)) :
    keys.length = rawKeys.length ∧ ∀ key ∈ keys, blank key = false := by
  induction rawKeys generalizing aliases later keys with
  | nil =>
    cases accepted
    simp
  | cons rawKey rest inductionHypothesis =>
    unfold keysFrom at accepted
    obtain ⟨_, given, accepted⟩ := bind_ok accepted
    obtain ⟨_, _, accepted⟩ := bind_ok accepted
    obtain ⟨⟨more, final⟩, following, accepted⟩ := bind_ok accepted
    have given := reject_ok given
    obtain ⟨length, others⟩ := inductionHypothesis following
    cases accepted
    refine ⟨by rw [List.length_cons, List.length_cons, length], ?_⟩
    intro key member
    rcases List.mem_cons.mp member with rfl | inside
    · exact given
    · exact others key inside

/-- Accepted upstream keys are some, distinct and not blank. -/
theorem keysOf_ok {fingerprint : String → String} {keys : List Pool.Secret}
    {aliases : List (String × String)} (accepted : keysOf fingerprint raw = .ok (keys, aliases)) :
    keys ≠ [] ∧ Proper (keys.map Pool.Secret.asStr) := by
  unfold keysOf at accepted
  obtain ⟨_, nonempty, accepted⟩ := bind_ok accepted
  obtain ⟨⟨texts, named⟩, listed, accepted⟩ := bind_ok accepted
  obtain ⟨_, distinct, accepted⟩ := bind_ok accepted
  have nonempty := reject_ok nonempty
  have distinct := reject_ok distinct
  obtain ⟨length, given⟩ := keysFrom_ok listed
  cases accepted
  have texted : (texts.map Pool.Secret.mk).map Pool.Secret.asStr = texts := by
    rw [List.map_map]
    exact List.map_id texts
  refine ⟨?_, ?_⟩
  · intro empty
    have none : (raw.keys.getD []).length = 0 := by rw [← length, List.map_eq_nil_iff.mp empty]; rfl
    rw [List.length_eq_zero_iff.mp none] at nonempty
    cases nonempty
  · rw [texted]
    exact ⟨by simpa using distinct, given⟩

/-- The bounds on failure handling that validation guarantees. -/
structure PolicyBounds (handling : KeyFailureHandling) : Prop where
  initial : 0 < handling.backoffInitial
  ordered : handling.backoffInitial ≤ handling.backoffMax
  threshold : 0 < handling.breakerThreshold
  narrow : handling.breakerThreshold ≤ u32Max
  cooldown : 0 < handling.breakerCooldown
  attempts : 1 ≤ handling.maxAttempts ∧ handling.maxAttempts ≤ 2

/-- Accepted failure handling is bounded. -/
theorem keyFailureHandlingOf_ok {handling : KeyFailureHandling}
    (accepted : keyFailureHandlingOf raw = .ok handling) : PolicyBounds handling := by
  unfold keyFailureHandlingOf at accepted
  obtain ⟨_, _, accepted⟩ := bind_ok accepted
  obtain ⟨backoffInitial, initial, accepted⟩ := bind_ok accepted
  obtain ⟨backoffMax, _, accepted⟩ := bind_ok accepted
  obtain ⟨_, ordered, accepted⟩ := bind_ok accepted
  obtain ⟨_, _, accepted⟩ := bind_ok accepted
  obtain ⟨_, threshold, accepted⟩ := bind_ok accepted
  obtain ⟨_, narrow, accepted⟩ := bind_ok accepted
  obtain ⟨breakerCooldown, cooldown, accepted⟩ := bind_ok accepted
  obtain ⟨_, attempts, accepted⟩ := bind_ok accepted
  have initial := positiveSeconds_ok initial
  have ordered := reject_ok ordered
  have threshold := reject_ok threshold
  have narrow := reject_ok narrow
  have cooldown := positiveSeconds_ok cooldown
  have attempts := reject_ok attempts
  simp only [Bool.or_eq_false_iff, decide_eq_false_iff_not] at ordered threshold narrow attempts
  cases accepted
  constructor
  · exact initial
  · dsimp only
    omega
  · dsimp only
    omega
  · dsimp only
    omega
  · exact cooldown
  · dsimp only
    omega

/-- An accepted audit queue has room. -/
theorem auditOf_ok {audit : Configuration.Audit} (accepted : auditOf raw = .ok audit) :
    1 ≤ audit.queueCapacity := by
  unfold auditOf at accepted
  obtain ⟨_, positive, accepted⟩ := bind_ok accepted
  have positive := reject_ok positive
  simp only [decide_eq_false_iff_not] at positive
  cases accepted
  exact Nat.pos_of_ne_zero positive

/-- Accepted timeouts of a model are positive. -/
theorem modelEventTimeoutsFrom_ok {first inter : Nat}
    {policies : List (String × RawEventTimeouts)} {timeouts : List (String × Gateway.EventTimeouts)}
    (accepted : modelEventTimeoutsFrom first inter policies = .ok timeouts) :
    ∀ entry ∈ timeouts, 0 < entry.2.firstEventTimeout ∧ 0 < entry.2.interEventTimeout := by
  induction policies generalizing timeouts with
  | nil =>
    cases accepted
    intro entry member
    cases member
  | cons policy rest inductionHypothesis =>
    obtain ⟨model, given⟩ := policy
    unfold modelEventTimeoutsFrom at accepted
    obtain ⟨_, _, accepted⟩ := bind_ok accepted
    obtain ⟨_, positive, accepted⟩ := bind_ok accepted
    obtain ⟨later, following, accepted⟩ := bind_ok accepted
    have positive := reject_ok positive
    simp only [Bool.or_eq_false_iff, decide_eq_false_iff_not] at positive
    cases accepted
    intro entry member
    rcases List.mem_cons.mp member with rfl | inside
    · exact ⟨Nat.pos_of_ne_zero positive.1, Nat.pos_of_ne_zero positive.2⟩
    · exact inductionHypothesis following entry inside

/-- The bounds on the listener and its streams that validation guarantees. -/
structure ServerBounds (server : Server) : Prop where
  headers : 8192 ≤ server.maxHeaderBytes
  headerList : server.maxHeaderBytes ≤ u32Max
  timeouts : ∀ entry ∈ server.modelEventTimeouts,
    0 < entry.2.firstEventTimeout ∧ 0 < entry.2.interEventTimeout
  connections : server.maxConnections ≤ maxConnectionsCeiling

/-- Accepted settings of the listener are bounded. -/
theorem serverOf_ok {server : Server} (accepted : serverOf raw = .ok server) :
    ServerBounds server := by
  unfold serverOf at accepted
  obtain ⟨readHeaderTimeout, _, accepted⟩ := bind_ok accepted
  obtain ⟨_, headers, accepted⟩ := bind_ok accepted
  obtain ⟨_, headerList, accepted⟩ := bind_ok accepted
  obtain ⟨bodyReadTimeout, _, accepted⟩ := bind_ok accepted
  obtain ⟨upstreamResponseHeaderTimeout, _, accepted⟩ := bind_ok accepted
  obtain ⟨firstEventTimeout, _, accepted⟩ := bind_ok accepted
  obtain ⟨interEventTimeout, _, accepted⟩ := bind_ok accepted
  obtain ⟨modelEventTimeouts, timeouts, accepted⟩ := bind_ok accepted
  obtain ⟨upstreamErrorBodyTimeout, _, accepted⟩ := bind_ok accepted
  obtain ⟨responseWriteTimeout, _, accepted⟩ := bind_ok accepted
  obtain ⟨_, _, accepted⟩ := bind_ok accepted
  obtain ⟨_, connections, accepted⟩ := bind_ok accepted
  have headers := reject_ok headers
  have headerList := reject_ok headerList
  have connections := reject_ok connections
  simp only [decide_eq_false_iff_not] at headers headerList connections
  cases accepted
  constructor
  · dsimp only
    omega
  · dsimp only
    omega
  · exact modelEventTimeoutsFrom_ok timeouts
  · dsimp only
    omega

/-! ## Startup succeeds -/

/-- Everything that a startup asks of a configuration. -/
structure Ready (config : Config) : Prop where
  policy : (poolPolicy config).validate = .ok ()
  keys : config.keys ≠ []
  breakerThreshold : config.keyFailureHandling.breakerThreshold ≤ u32Max
  maxBodyBytes : config.limits.maxBodyBytes ≤ u32Max
  maxHeaderBytes : 8192 ≤ config.server.maxHeaderBytes ∧ config.server.maxHeaderBytes ≤ u32Max
  admission : 0 < config.limits.maxConcurrency ∧ 0 < config.limits.queueWaitTimeout
  budget : 0 < config.limits.maxInflightBodyBytes ∧
    config.limits.maxBodyBytes ≤ config.limits.maxInflightBodyBytes
  semaphores : ∀ size ∈ semaphoreSizes config, size ≤ maxPermits
  audit : 1 ≤ config.audit.queueCapacity
  upstreamKeys : Proper (config.keys.map Pool.Secret.asStr)
  gatewayNames : Proper (config.gatewayKeys.map fun key => key.name)
  gatewayTokens : Proper (config.gatewayKeys.map fun key => key.token.asStr)
  eventTimeouts : ∀ entry ∈ config.server.modelEventTimeouts,
    0 < entry.2.firstEventTimeout ∧ 0 < entry.2.interEventTimeout
  loopback : config.listen.ip.isLoopback = true

/-- The checks on failure handling are the checks of the pool. -/
theorem policy_valid (bounds : PolicyBounds config.keyFailureHandling) :
    (poolPolicy config).validate = .ok () := by
  have initial := bounds.initial
  have ordered := bounds.ordered
  have threshold := bounds.threshold
  have cooldown := bounds.cooldown
  have attempts := bounds.attempts
  unfold PoolPolicy.validate poolPolicy
  dsimp only
  rw [if_neg (by omega), if_neg (by omega), if_neg (by omega), if_neg (by omega),
    if_neg (by decide), if_neg (fun failed => failed attempts)]

/-- An accepted configuration is ready to start from. -/
theorem tryFrom_ready (accepted : tryFrom libraries raw = .ok config) : Ready config := by
  have parts := tryFrom_parts accepted
  have handling := keyFailureHandlingOf_ok parts.keyFailureHandling
  obtain ⟨admission, bodies⟩ := limitsOf_bounds parts.limits
  have server := serverOf_ok parts.server
  obtain ⟨nonempty, keys⟩ := keysOf_ok parts.keys
  obtain ⟨names, tokens⟩ := gatewayKeysOf_ok parts.gatewayKeys
  have positive := bodies.positive
  have fits := bodies.fits
  have narrow := bodies.narrow
  constructor
  · exact policy_valid handling
  · exact nonempty
  · exact handling.narrow
  · omega
  · exact ⟨server.headers, server.headerList⟩
  · exact ⟨admission.concurrency, admission.waits⟩
  · exact ⟨by omega, fits⟩
  · have concurrency := admission.concurrencyPermits
    have connections := server.connections
    have wide : u32Max ≤ maxPermits := by decide
    have ceiling : maxConnectionsCeiling ≤ maxPermits := by decide
    have streams : maxStreams config.limits.maxConcurrency ≤ maxPermits := by
      have one : 1 ≤ maxPermits := by decide
      unfold maxStreams
      omega
    intro size member
    simp only [semaphoreSizes, List.mem_cons, List.not_mem_nil, or_false] at member
    rcases member with rfl | rfl | rfl | rfl | rfl
    · exact concurrency
    · exact admission.queuePermits
    · omega
    · exact streams
    · omega
  · exact auditOf_ok parts.audit
  · exact keys
  · exact names
  · exact tokens
  · exact server.timeouts
  · exact listenOf_ok parts.listen

/-- An assertion that holds passes. -/
theorem require_true {condition : Bool} (holds : condition = true) :
    require condition = .ok () := by
  rw [holds]
  rfl

/-- A number in range is converted. -/
theorem expectU32_ok {value : Nat} (narrow : value ≤ u32Max) : expectU32 value = .ok value := by
  rw [expectU32, require_true (decide_eq_true narrow)]
  rfl

/-- A semaphore of a size that can be counted is built. -/
theorem newSemaphore_ok {permits : Nat} (counted : permits ≤ maxPermits) :
    newSemaphore permits = .ok (.new permits) := by
  rw [newSemaphore, require_true (decide_eq_true counted)]
  rfl

/-- The queue of bounded limits is built. -/
theorem newAdmissionQueue_ok {limits : Limits} (bounds : limits.AdmissionBounds) :
    newAdmissionQueue limits.maxConcurrency limits.maxQueue limits.queueWaitTimeout =
      .ok (.new limits.maxConcurrency limits.maxQueue limits.queueWaitTimeout) := by
  rw [newAdmissionQueue, require_true (decide_eq_true bounds.concurrency),
    require_true (decide_eq_true bounds.waits), newSemaphore_ok bounds.concurrencyPermits,
    newSemaphore_ok bounds.queuePermits]
  rfl

/-- A step that succeeds leaves the rest to succeed. -/
theorem bind_exists {Value Result : Type} {first : Except StartupError Value}
    {next : Value → Except StartupError Result} {value : Value} (given : first = .ok value)
    (rest : ∃ result, next value = .ok result) : ∃ result, (first >>= next) = .ok result := by
  rw [given]
  exact rest

/-- The policy is the one that the configuration states. -/
theorem ready_policy (ready : Ready config) :
    assemblePolicy config = .ok (poolPolicy config) := by
  rw [assemblePolicy, expectU32_ok ready.breakerThreshold]
  rfl

/-- The constructors of `assemble` succeed for a configuration that is ready. -/
theorem ready_assembles {Record : Type} (ready : Ready config) (fingerprint : String → String)
    (contents : List UInt8) :
    ∃ runtime : AppRuntime Record, assemble fingerprint (.ok contents) config = .ok runtime := by
  have sized : ∀ size ∈ semaphoreSizes config, newSemaphore size = .ok (.new size) :=
    fun size member => newSemaphore_ok (ready.semaphores size member)
  have admission : config.limits.AdmissionBounds :=
    ⟨ready.admission.1, ready.semaphores _ (by simp [semaphoreSizes]),
      ready.semaphores _ (by simp [semaphoreSizes]), ready.admission.2⟩
  have policy := ready_policy ready
  have pool : PoolState.withJitter fingerprint config.keys (poolPolicy config) =
      .ok { entries := config.keys.map (Pool.KeyEntry.fresh fingerprint),
            cursor := 0, nextId := 0 } := by
    rw [PoolState.withJitter, ready.policy]
    simp [ready.keys, bind, Except.bind, pure, Except.pure]
  have budget : newBodyBudget config.limits.maxInflightBodyBytes config.limits.maxBodyBytes =
      .ok ⟨.new config.limits.maxInflightBodyBytes, config.limits.maxBodyBytes,
        config.limits.maxInflightBodyBytes⟩ := by
    rw [newBodyBudget, require_true (decide_eq_true ready.budget.1),
      require_true (decide_eq_true ready.budget.2), sized _ (by simp [semaphoreSizes])]
    rfl
  obtain ⟨service, started⟩ : ∃ service : Audit.Service Record,
      Audit.Service.start (.ok contents) config.audit.queueCapacity = .ok service := by
    have positive := ready.audit
    rw [Audit.Service.start, Audit.Service.spawn, if_neg (by omega)]
    exact ⟨_, rfl⟩
  have streams := sized (maxStreams config.limits.maxConcurrency) (by simp [semaphoreSizes])
  refine bind_exists policy ?_
  refine bind_exists (by rw [pool]; rfl) ?_
  refine bind_exists (newAdmissionQueue_ok admission) ?_
  refine bind_exists (by rw [started]; rfl) ?_
  refine bind_exists (expectU32_ok ready.maxBodyBytes) ?_
  refine bind_exists budget ?_
  refine bind_exists streams ?_
  exact ⟨_, rfl⟩

/-- The listener of a ready configuration is built. -/
theorem ready_listens (ready : Ready config) :
    buildBuilder (.fromSettings config.server) =
        .ok (config.server.maxHeaderBytes, config.server.maxHeaderBytes) ∧
      newSemaphore config.server.maxConnections = .ok (.new config.server.maxConnections) := by
  constructor
  · unfold buildBuilder Http1Limits.fromSettings
    dsimp only
    rw [require_true (decide_eq_true ready.maxHeaderBytes.1), expectU32_ok ready.maxHeaderBytes.2]
    rfl
  · exact newSemaphore_ok (ready.semaphores _ (by simp [semaphoreSizes]))

/-! ## What was assembled -/

/-- An assertion that passes holds. -/
theorem require_ok {condition : Bool} {done : Unit} (passed : require condition = .ok done) :
    condition = true := by
  cases condition with
  | true => rfl
  | false => cases passed

/-- A converted number was in range and is the same. -/
theorem expectU32_eq {value number : Nat} (converted : expectU32 value = .ok number) :
    value ≤ u32Max ∧ number = value := by
  obtain ⟨_, narrow, same⟩ := bind_ok converted
  cases same
  exact ⟨of_decide_eq_true (require_ok narrow), rfl⟩

/-- A semaphore that is built has the size that was asked for. -/
theorem newSemaphore_eq {permits : Nat} {semaphore : Semaphore Nat}
    (built : newSemaphore permits = .ok semaphore) : semaphore = .new permits := by
  obtain ⟨_, _, same⟩ := bind_ok built
  cases same
  rfl

/-- What is built with the assertions of `BodyBudget::new` passes them. -/
theorem newBodyBudget_eq {capacity permitsPerRequest : Nat} {budget : BodyBudget}
    (built : newBodyBudget capacity permitsPerRequest = .ok budget) :
    BodyBudget.new capacity permitsPerRequest = some budget := by
  obtain ⟨_, positive, built⟩ := bind_ok built
  obtain ⟨_, fits, built⟩ := bind_ok built
  obtain ⟨semaphore, sized, same⟩ := bind_ok built
  obtain rfl := newSemaphore_eq sized
  cases same
  exact if_pos ⟨of_decide_eq_true (require_ok positive), of_decide_eq_true (require_ok fits)⟩

/-- A changed error leaves a result as it is. -/
theorem mapError_ok {Error Value : Type} {result : Except Error Value}
    {change : Error → StartupError} {value : Value} (ended : result.mapError change = .ok value) :
    result = .ok value := by
  cases result with
  | error kind => cases ended
  | ok given =>
    cases ended
    rfl

/-- What an assembled gateway consists of: a new pool under the policy of the
configuration, its runtime state, the budget of the bodies and the timeouts. -/
structure Assembled {Record : Type} (fingerprint : String → String) (config : Config)
    (app : AppRuntime Record) : Prop where
  pool : PoolState.withJitter fingerprint config.keys (poolPolicy config) = .ok app.pool
  runtime : app.runtime = (RuntimeConfigSnapshot.fromConfig config).runtimeState config.models
  bodyBudget : BodyBudget.assemble config.limits = some app.bodyBudget
  gateway : app.gateway = assembleGateway config

/-- Every gateway that is assembled consists of these parts.

Proof: invert the chain of constructors. The conversions return their argument, so the pool
has the policy of the configuration, and the assertions are the conditions under which the
budget exists. -/
theorem assemble_parts {Record : Type} {fingerprint : String → String}
    {opened : Except IoError (List UInt8)} {runtime : AppRuntime Record}
    (assembled : assemble fingerprint opened config = .ok runtime) :
    Assembled fingerprint config runtime := by
  obtain ⟨policy, converted, assembled⟩ := bind_ok assembled
  obtain ⟨pool, pooled, assembled⟩ := bind_ok assembled
  obtain ⟨queue, _, assembled⟩ := bind_ok assembled
  obtain ⟨audit, _, assembled⟩ := bind_ok assembled
  obtain ⟨permitsPerRequest, permitted, assembled⟩ := bind_ok assembled
  obtain ⟨bodyBudget, budgeted, assembled⟩ := bind_ok assembled
  obtain ⟨streamSlots, _, assembled⟩ := bind_ok assembled
  cases assembled
  obtain ⟨threshold, narrow, same⟩ := bind_ok converted
  obtain ⟨_, rfl⟩ := expectU32_eq narrow
  cases same
  obtain ⟨narrow, rfl⟩ := expectU32_eq permitted
  exact ⟨mapError_ok pooled, rfl, (if_pos narrow).trans (newBodyBudget_eq budgeted), rfl⟩

/-- The service whose reloads are followed starts with the pool and the runtime state of
the assembled gateway. -/
theorem Assembled.deployed {Contents Record : Type} {deployment : Deployment Contents}
    {runtime : AppRuntime Record}
    (parts : Assembled deployment.fingerprint deployment.initial runtime) (file : Contents) :
    ∃ service, deployment.assemble file = .ok service ∧
      service.store.system.pool = runtime.pool ∧ service.store.runtime = runtime.runtime := by
  refine ⟨deployment.started file runtime.pool, ?_, rfl, parts.runtime.symm⟩
  rw [Deployment.assemble, parts.pool]
  rfl

/-- An accepted configuration meets every precondition of the startup, and the startup
does not fail once the audit file is open.

Proof: the validation gives the bounds that each constructor asserts. -/
theorem accepted_config_starts {Record : Type} {libraries : Libraries} {raw : RawConfig}
    {config : Config} (accepted : tryFrom libraries raw = .ok config) :
    Ready config ∧
      (∀ contents, ∃ runtime : AppRuntime Record,
        assemble libraries.fingerprint (.ok contents) config = .ok runtime) ∧
      buildBuilder (.fromSettings config.server) =
        .ok (config.server.maxHeaderBytes, config.server.maxHeaderBytes) ∧
      newSemaphore config.server.maxConnections = .ok (.new config.server.maxConnections) := by
  have ready := tryFrom_ready accepted
  exact ⟨ready, fun contents => ready_assembles ready _ contents, ready_listens ready⟩

/-- A document with credentials of both kinds and a bound of its own for one model. -/
def sampleRaw : RawConfig where
  gatewayKeys := some [⟨"ci", "t1"⟩, ⟨"dev", "t2"⟩]
  keys := some [.plain "a", .named "b" (some "spare")]
  server := some { modelEventTimeouts := [("m", { interEventTimeoutSeconds := some 5 })] }

/-- The sample document is accepted, and the gateway starts. -/
theorem accepted_config_starts_sample :
    ∃ config, tryFrom Reload.sampleLibraries sampleRaw = .ok config ∧ Ready config ∧
      ∃ runtime : AppRuntime Bool,
        assemble Reload.sampleLibraries.fingerprint (.ok []) config = .ok runtime := by
  have valid : (tryFrom Reload.sampleLibraries sampleRaw).isOk = true := by decide +kernel
  cases accepted : tryFrom Reload.sampleLibraries sampleRaw with
  | error kind =>
    rw [accepted] at valid
    cases valid
  | ok config =>
    obtain ⟨ready, starts, _⟩ := accepted_config_starts accepted
    exact ⟨config, rfl, ready, starts []⟩

end Orihsus.Startup
