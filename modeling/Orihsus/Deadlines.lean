import Orihsus.AuditRuns
import Orihsus.Reads
import Orihsus.Startup

/-!
# Deadlines in the range of an instant

An `Instant` counts seconds in an `i64`, and adding a duration that leads out of its range
panics. The pool clamps every duration to `MAX_COOLDOWN` before it adds it. The event
deadlines of a stream are bare sums with the configured time between two events, global or
of a model, for which validation knows no upper bound. The sums are listed as they are
computed: those of the pool beside its operations, those of a stream by its pump.

Timeouts that are handed to the runtime as durations saturate there and are no sums here.
-/

namespace Orihsus.Pool

/-- The last instant: all seconds of an `i64` and all but one nanosecond of the next. -/
def instantMax : Nat := (2 ^ 63 - 1) * 1000000000 + 999999999

/-- An addition of a duration to an instant. -/
structure InstantSum where
  now : Nat
  duration : Nat
  deriving DecidableEq, Repr

/-- `Instant::checked_add` has a result. -/
def InstantSum.fits (sum : InstantSum) : Bool := sum.now + sum.duration ≤ instantMax

/-- A short sum from a past instant fits if the clock has room. -/
theorem InstantSum.fits_within {sum : InstantSum} {clock bound : Nat} (past : sum.now ≤ clock)
    (short : sum.duration ≤ bound) (room : clock + bound ≤ instantMax) : sum.fits = true :=
  decide_eq_true (Nat.le_trans (Nat.add_le_add past short) room)

/-! ## The sums of the pool -/

/-- The sum of `deadline_after`. -/
def clamped (now cooldown : Nat) : InstantSum := ⟨now, min cooldown maxCooldown⟩

/-- The sums of `report_failure` on the key it finds. -/
def KeyEntry.failureSums (policy : PoolPolicy) (jitter : Nat → Nat) (entry : KeyEntry)
    (failure : Failure) (now : Nat) : List InstantSum :=
  match failure with
  | .usageLimit _ cooldown => [clamped now cooldown]
  | .rateLimited retryAfter | .unavailable retryAfter =>
      [clamped now (entry.retryCooldown policy jitter retryAfter).1]
  | .server => []
  | .network =>
      if policy.breakerThreshold ≤ entry.consecutiveFailures + 1 then
        [clamped now policy.breakerCooldown]
      else []

/-- The sums of `try_select_unused`: only the claim of a recovering key has one. -/
def RequestAttempts.claimSums (policy : PoolPolicy) (attempts : RequestAttempts)
    (state : PoolState) (now : Nat) : List InstantSum :=
  match (attempts.candidates.find? (attempts.eligible state now)).bind fun candidate =>
    state.lookup candidate.fingerprint with
  | none => []
  | some entry => if entry.halfOpen then [clamped now policy.breakerCooldown] else []

namespace System

/-- The sums that an operation computes. -/
def sums (policy : PoolPolicy) (system : System) : Action → List InstantSum
  | .request _ => [clamped system.clock policy.waitTimeout]
  | .nextImmediate request =>
      match system.callers[request]? with
      | none => []
      | some caller =>
          if caller.attempts.max ≤ caller.attempts.used.length then []
          else caller.attempts.claimSums policy system.pool system.clock
  | .advance request =>
      match system.callers[request]? with
      | some ⟨attempts, .selecting⟩ => attempts.claimSums policy system.pool system.clock
      | _ => []
  | .reportFailure selection failure jitter =>
      match system.pool.lookup selection.fingerprint with
      | none => []
      | some entry => entry.failureSums policy jitter failure system.clock
  -- The deadline is computed before the key is looked for.
  | .reportProactiveCooldown _ cooldown read => [clamped read cooldown]
  | .reportLivenessFailure selection _ =>
      match system.pool.lookup selection.fingerprint with
      | none => []
      | some _ => [clamped system.clock policy.backoffInitial]
  | .tick _ | .setModel _ _ | .next _ | .reportSuccess _ | .replaceKeys _ => []

variable {policy : PoolPolicy} {fingerprint : String → String} {system : System}
  {call : Action} {sum : InstantSum}

/-- A sum of a cooldown that is clamped. -/
def Clamped (clock : Nat) (sum : InstantSum) : Prop :=
  sum.now ≤ clock ∧ sum.duration ≤ maxCooldown

/-- A clamped sum by itself. -/
theorem clamped_singleton {now cooldown clock : Nat} (past : now ≤ clock)
    (member : sum ∈ [clamped now cooldown]) : Clamped clock sum := by
  rw [List.mem_singleton.mp member]
  exact ⟨past, Nat.min_le_right _ _⟩

/-- The sums of a failure report are clamped. -/
theorem failureSums_clamped {entry : KeyEntry} {jitter : Nat → Nat} {failure : Failure} {now : Nat}
    (member : sum ∈ entry.failureSums policy jitter failure now) : Clamped now sum := by
  cases failure with
  | usageLimit | rateLimited | unavailable => exact clamped_singleton (Nat.le_refl _) member
  | server => cases member
  | network =>
    unfold KeyEntry.failureSums at member
    dsimp only at member
    split at member
    · exact clamped_singleton (Nat.le_refl _) member
    · cases member

/-- So are those of a claim. -/
theorem claimSums_clamped {attempts : RequestAttempts} {state : PoolState} {now : Nat}
    (member : sum ∈ attempts.claimSums policy state now) : Clamped now sum := by
  unfold RequestAttempts.claimSums at member
  split at member
  · cases member
  · split at member
    · exact clamped_singleton (Nat.le_refl _) member
    · cases member

/-- An operation that is enabled only adds clamped durations. -/
theorem sums_clamped {result : System × Option AttemptResult}
    (enabled : system.perform policy fingerprint call = some result)
    (member : sum ∈ system.sums policy call) : Clamped system.clock sum := by
  unfold sums at member
  cases call with
  | request model => exact clamped_singleton (Nat.le_refl _) member
  | nextImmediate request =>
    dsimp only at member
    split at member
    · cases member
    · split at member
      · cases member
      · exact claimSums_clamped member
  | advance request =>
    dsimp only at member
    split at member
    · exact claimSums_clamped member
    · cases member
  | reportFailure selection failure jitter =>
    dsimp only at member
    split at member
    · cases member
    · exact failureSums_clamped member
  | reportProactiveCooldown target cooldown read =>
    obtain ⟨past, _⟩ := Runs.guard_bind.mp enabled
    exact clamped_singleton past member
  | reportLivenessFailure selection model =>
    dsimp only at member
    split at member
    · cases member
    · exact clamped_singleton (Nat.le_refl _) member
  | tick | setModel | next | reportSuccess | replaceKeys => cases member

/-- The sums of the pool fit exactly as long as `MAX_COOLDOWN` does. -/
theorem sums_fit_iff :
    (∀ call result, system.perform policy fingerprint call = some result →
        ∀ sum ∈ system.sums policy call, sum.fits = true) ↔
      system.clock + maxCooldown ≤ instantMax := by
  constructor
  · intro fit
    have enabled : system.perform policy fingerprint
        (.reportProactiveCooldown "" maxCooldown system.clock) = some
          (system.withPool (system.pool.reportProactiveCooldown "" maxCooldown system.clock)) :=
      Runs.guard_bind.mpr ⟨Nat.le_refl _, rfl⟩
    have longest := fit _ _ enabled (clamped system.clock maxCooldown) (List.mem_singleton_self _)
    exact of_decide_eq_true longest
  · intro room call result enabled sum member
    obtain ⟨past, short⟩ := sums_clamped enabled member
    exact InstantSum.fits_within past short room

end System

end Orihsus.Pool

namespace Orihsus.Gateway

open Pool (InstantSum PoolPolicy Selection System instantMax maxCooldown)
open Orihsus.Configuration (Config RawConfig tryFrom)

/-! ## The sums of a stream -/

/-- The sums of the task of `stream_response`. -/
def streamSums (reading : Reading) (timeouts : IoTimeouts) (prepared : PreparedResponse)
    (attemptStart requestStart now : Nat) (client : List ClientTurn) : List InstantSum :=
  (streamResponse reading timeouts prepared attemptStart requestStart now
    client).1.deadlines.map fun added => ⟨added.1, added.2⟩

section

variable {reading : Reading} {plan : PumpPlan} {state : Pumping} {sum : InstantSum}

/-- A parser of events, as opposed to one that never completes any. -/
def StreamUsageParser.isSse : StreamUsageParser → Bool
  | .sse _ => true
  | .json _ => false

/-- A parser stays of its kind. -/
theorem push_isSse (parser : StreamUsageParser) (bytes : List UInt8) :
    (parser.push reading bytes).1.isSse = parser.isSse := by
  cases parser <;> rfl

/-- An event is only completed by a parser of events. -/
theorem push_events {parser : StreamUsageParser} {bytes : List UInt8}
    (completed : 0 < (parser.push reading bytes).2) : parser.isSse = true := by
  cases parser with
  | sse parser => rfl
  | json parser => exact absurd completed (Nat.lt_irrefl 0)

/-- What a pump adds to instants: the idle time, and only where events are parsed. -/
structure Schedules (plan : PumpPlan) (before after : Pumping) : Prop where
  parser : after.parser.isSse = before.parser.isSse
  kept : ∀ added ∈ before.deadlines, added ∈ after.deadlines
  added : ∀ added ∈ after.deadlines, added ∈ before.deadlines ∨
    plan.idle = some added.2 ∧ before.parser.isSse = true

/-- A part of the pump that computes no deadline. -/
theorem Schedules.still {after : Pumping} (parser : after.parser.isSse = state.parser.isSse)
    (same : after.deadlines = state.deadlines) : Schedules plan state after := by
  refine ⟨parser, ?_, ?_⟩
  · rw [same]
    exact fun _ member => member
  · rw [same]
    exact fun _ member => .inl member

/-- One part of the pump after the other. -/
theorem Schedules.trans {between after : Pumping} (earlier : Schedules plan state between)
    (later : Schedules plan between after) : Schedules plan state after := by
  refine ⟨later.parser.trans earlier.parser, ?_, ?_⟩
  · exact fun added member => later.kept added (earlier.kept added member)
  · intro added member
    rcases later.added added member with before | ⟨idle, events⟩
    · exact earlier.added added before
    · exact .inr ⟨idle, earlier.parser ▸ events⟩

/-- A chunk of the live stream has a new deadline if it completes an event. -/
theorem counted_schedules (arrival : Arrival) (rest : Body) (bytes : List UInt8) :
    Schedules plan state ((state.received arrival rest).counted reading plan bytes) := by
  refine ⟨push_isSse _ bytes, fun added member => List.mem_append_left _ member, ?_⟩
  intro added member
  rcases List.mem_append.mp member with before | own
  · exact .inl before
  · obtain ⟨idle, given, rfl⟩ := Option.map_eq_some_iff.mp (Option.mem_toList.mp own)
    split at given
    · rename_i completed
      exact .inr ⟨given, push_events completed⟩
    · cases given

/-- An offer computes no deadline. -/
theorem offer_schedules {after : Pumping} {bytes : List UInt8} {result : Option PumpResult}
    (offered : state.offer plan bytes = (after, result)) : Schedules plan state after := by
  rcases offer_cases plan state bytes with ⟨_, _, taken⟩ | ⟨_, _, _, stops, _⟩
  · rw [taken] at offered
    cases offered
    exact .still rfl rfl
  · rw [stops] at offered
    cases offered
    exact .still rfl rfl

/-- The live stream adds the idle time, and only where events are parsed. -/
theorem pumpLoop_schedules (eventDeadline : Option Nat) (body : Body) :
    Schedules plan state (pumpLoop reading plan state eventDeadline body).1 := by
  refine pumpLoop_rule (motive := fun state _ ended => Schedules plan state ended.1) ?_ ?_ ?_ ?_ ?_
    state eventDeadline body
  · exact fun _ _ _ => .still rfl rfl
  · exact fun _ _ _ _ => .still rfl rfl
  · exact fun _ _ _ _ _ _ => .still rfl rfl
  · intro state arrival rest bytes stopped result _ _ offered
    exact (counted_schedules arrival rest bytes).trans (offer_schedules offered)
  · intro state arrival rest bytes sent ended _ _ offered onward
    exact ((counted_schedules arrival rest bytes).trans (offer_schedules offered)).trans onward

/-- The prefetched chunks compute no deadline. -/
theorem sendPrefetched_keeps (prefetched : List (List UInt8)) :
    (sendPrefetched reading plan state prefetched).1.parser.isSse = state.parser.isSse ∧
      (sendPrefetched reading plan state prefetched).1.deadlines = state.deadlines := by
  induction prefetched generalizing state with
  | nil => exact ⟨rfl, rfl⟩
  | cons bytes rest inductionHypothesis =>
    have pushed : (state.observe reading plan bytes).parser.isSse = state.parser.isSse :=
      push_isSse state.parser bytes
    unfold sendPrefetched
    rcases offer_cases plan (state.observe reading plan bytes) bytes with
      ⟨_, _, taken⟩ | ⟨_, _, _, stops, _⟩
    · rw [taken]
      exact ⟨inductionHypothesis.1.trans pushed, inductionHypothesis.2⟩
    · rw [stops]
      exact ⟨pushed, rfl⟩

/-- A stream adds the time between two events, and no other response adds anything. -/
theorem streamSums_interEvent {timeouts : IoTimeouts} {prepared : PreparedResponse}
    {attemptStart requestStart now : Nat} {client : List ClientTurn}
    (member : sum ∈ streamSums reading timeouts prepared attemptStart requestStart now client) :
    prepared.streaming = true ∧ sum.duration = prepared.interEventTimeout := by
  obtain ⟨added, computed, rfl⟩ := List.mem_map.mp member
  generalize makes : streamPlan timeouts prepared attemptStart requestStart = plan
  have idle (streaming : prepared.streaming = true) (given : plan.idle = some added.2) :
      prepared.streaming = true ∧ added.2 = prepared.interEventTimeout := by
    rw [← makes] at given
    simp only [streamPlan, streaming, if_true, Option.some.injEq] at given
    exact ⟨streaming, given.symm⟩
  have parses (events : (streamParser prepared).isSse = true) : prepared.streaming = true := by
    unfold streamParser at events
    split at events
    · assumption
    · cases events
  unfold streamResponse pumpUpstream at computed
  rw [makes] at computed
  dsimp only at computed
  obtain ⟨parser, none⟩ := @sendPrefetched_keeps reading plan
    (Pumping.start plan (streamParser prepared) now client prepared.upstream) plan.prefetched
  split at computed
  · rename_i sent sends
    rw [sends] at parser none
    rcases (pumpLoop_schedules _ _).added added computed with first | ⟨given, events⟩
    · rcases List.mem_append.mp first with before | own
      · rw [show sent.deadlines = [] from none] at before
        cases before
      · obtain ⟨_, given, rfl⟩ := Option.map_eq_some_iff.mp (Option.mem_toList.mp own)
        split at given
        · rename_i streaming
          rw [← makes] at streaming
          exact idle streaming given
        · cases given
    · exact idle (parses (parser.symm.trans events)) given
  · rename_i stopped result stops
    rw [stops] at none
    rw [show stopped.deadlines = [] from none] at computed
    cases computed

/-- A client that takes every chunk at once. -/
def Pumping.Prompt (state : Pumping) : Prop := ∀ turn ∈ state.client, turn = .ready 0

/-- A prompt client is ready at once. -/
theorem Pumping.Prompt.turn (prompt : state.Prompt) : state.turn = .ready 0 := by
  unfold Pumping.turn
  cases client : state.client with
  | nil => rfl
  | cons turn rest => exact prompt turn (client ▸ List.mem_cons_self)

/-- It does not go away. -/
theorem Pumping.Prompt.stays (prompt : state.Prompt) : state.turn ≠ .gone := by
  rw [prompt.turn]
  exact nofun

/-- It takes every chunk. -/
theorem Pumping.Prompt.offer (prompt : state.Prompt) (bytes : List UInt8) :
    state.offer plan bytes =
      ({ state.awaited with delivered := state.delivered ++ [bytes] }, none) := by
  rw [Pumping.offer, prompt.turn]
  rfl

/-- The parser after the prefetched chunks. -/
def pushChunks (reading : Reading) (parser : StreamUsageParser) (chunks : List (List UInt8)) :
    StreamUsageParser :=
  chunks.foldl (fun parser bytes => (parser.push reading bytes).1) parser

/-- A client that takes every chunk at once does not hold the pump up. -/
theorem sendPrefetched_prompt (prefetched : List (List UInt8)) (prompt : state.Prompt) :
    ∃ sent, sendPrefetched reading plan state prefetched = (sent, none) ∧
      sent.now = state.now ∧ sent.Prompt ∧
      sent.parser = pushChunks reading state.parser prefetched := by
  induction prefetched generalizing state with
  | nil => exact ⟨state, rfl, rfl, prompt, rfl⟩
  | cons bytes rest inductionHypothesis =>
    have observed : (state.observe reading plan bytes).Prompt := prompt
    unfold sendPrefetched
    rw [observed.offer]
    exact inductionHypothesis fun turn member => prompt turn (List.mem_of_mem_tail member)

/-- A stream computes its first deadline as soon as it starts. -/
theorem streamSums_first {timeouts : IoTimeouts} {prepared : PreparedResponse}
    {attemptStart requestStart now : Nat} (streaming : prepared.streaming = true) :
    ⟨now, prepared.interEventTimeout⟩ ∈
      streamSums reading timeouts prepared attemptStart requestStart now [] := by
  generalize makes : streamPlan timeouts prepared attemptStart requestStart = plan
  have prompt : (Pumping.start plan (streamParser prepared) now [] prepared.upstream).Prompt :=
    List.forall_mem_nil _
  obtain ⟨sent, sends, instant, _⟩ :=
    @sendPrefetched_prompt reading plan _ plan.prefetched prompt
  refine List.mem_map.mpr ⟨(now, prepared.interEventTimeout), ?_, rfl⟩
  unfold streamResponse pumpUpstream
  rw [makes]
  dsimp only
  rw [sends]
  refine (pumpLoop_schedules _ _).kept _ (List.mem_append_right _ ?_)
  rw [← makes, show sent.now = now from instant]
  simp only [streamPlan, streaming, if_true, Option.map_some, Option.toList_some,
    List.mem_singleton]

end

/-! ## Configurations -/

/-- The gateway was assembled from a configuration that was accepted. -/
structure Serves (libraries : Configuration.Libraries) (raw : RawConfig) (config : Config)
    (setup : Setup) : Prop where
  accepted : tryFrom libraries raw = .ok config
  assembled : ∃ (Record : Type) (opened : Except Audit.IoError (List UInt8))
    (runtime : Startup.AppRuntime Record),
    Startup.assemble libraries.fingerprint opened config = .ok runtime ∧
      setup.gateway = runtime.gateway
  policy : Startup.assemblePolicy config = .ok setup.policy

/-- Its timeouts are those of the configuration. -/
theorem Serves.gateway {libraries : Configuration.Libraries} {raw : RawConfig} {config : Config}
    {setup : Setup} (serves : Serves libraries raw config setup) :
    setup.gateway = Startup.assembleGateway config := by
  obtain ⟨_, _, runtime, assembled, same⟩ := serves.assembled
  exact same.trans (Startup.assemble_parts assembled).gateway

/-- The configured times between two events, global and by model. -/
def interEventTimeouts (config : Config) : List Nat :=
  config.server.interEventTimeout ::
    config.server.modelEventTimeouts.map fun entry => entry.2.interEventTimeout

/-- From this instant on there is room for the longest cooldown and for every configured
time between two events. -/
def roomy (config : Config) (clock : Nat) : Bool :=
  (maxCooldown :: interEventTimeouts config).all fun duration => clock + duration ≤ instantMax

/-- What is looked up is listed. -/
theorem lookup_mem {Value : Type} {name : String} {value : Value} {entries : List (String × Value)}
    (found : entries.lookup name = some value) : (name, value) ∈ entries := by
  obtain ⟨front, back, rfl, _⟩ := List.lookup_eq_some_iff.mp found
  exact List.mem_append_right _ List.mem_cons_self

/-- The time between two events that a model gets is a configured one. -/
theorem eventTimeoutsFor_configured (config : Config) (model : String) :
    ((Startup.assembleGateway config).eventTimeoutsFor model).interEventTimeout ∈
      interEventTimeouts config := by
  unfold GatewayState.eventTimeoutsFor
  cases found : (Startup.assembleGateway config).modelEventTimeouts.lookup model with
  | none => exact List.mem_cons_self
  | some timeouts =>
    exact List.mem_cons_of_mem _ (List.mem_map.mpr ⟨_, lookup_mem found, rfl⟩)

/-- A prepared stream has the time between two events it was given. -/
theorem prepareResponse_interEvent {reading : Reading} {response : Response}
    {timeouts : EventTimeouts} {bufferCap attemptStart now : Nat} {prepared : PreparedResponse}
    (ready : (prepareResponse reading response timeouts bufferCap attemptStart now).2 =
      .ok prepared) : prepared.interEventTimeout = timeouts.interEventTimeout := by
  unfold prepareResponse at ready
  dsimp only at ready
  split at ready
  · cases ready
    rfl
  · split at ready
    · cases ready
      rfl
    · cases ready

/-! ## Runs -/

namespace Handler

variable {handler : Handler} {first last : Handling}
  {trace : List (Runs.Transition Handling HandlerAction)}
  {libraries : Configuration.Libraries} {raw : RawConfig} {config : Config}

/-- Every sum of the next operation on the pool, whoever performs it, is an instant, and so
is every sum that the task of the stream has computed by now, whatever its client does. -/
structure Representable (handler : Handler) (handling : Handling) : Prop where
  pool : ∀ call result,
    handling.proxy.system.perform handler.setup.policy handler.setup.fingerprint call =
        some result →
      ∀ sum ∈ handling.proxy.system.sums handler.setup.policy call, sum.fits = true
  stream : ∀ prepared fingerprint selection attemptStart spawned client,
    handling.station = .streaming prepared fingerprint selection attemptStart spawned →
      ∀ sum ∈ streamSums handler.setup.libraries.reading handler.setup.gateway.timeouts prepared
        attemptStart handling.proxy.requestStart spawned client,
        sum.now ≤ handling.proxy.system.clock → sum.fits = true

/-- A stream has a configured time between two events. -/
theorem streaming_configured (serves : Serves libraries raw config handler.setup)
    (arrives : Arrives handler first) (run : Runs.Run handler.Step first trace last)
    {prepared : PreparedResponse} {fingerprint : String} {selection : Selection}
    {attemptStart spawned : Nat}
    (streaming : last.station = .streaming prepared fingerprint selection attemptStart spawned) :
    prepared.interEventTimeout ∈ interEventTimeouts config := by
  obtain ⟨finished, _⟩ := (run_kept arrives run).streaming _ _ _ _ _ streaming
  obtain ⟨taken, _, response, _, _, _, _, _, ready⟩ :=
    Setup.run_commits arrives.fresh (run_loop run) finished
  rw [prepareResponse_interEvent ready, serves.gateway]
  exact eventTimeoutsFor_configured config _

/-- What is representable leaves room for the longest cooldown, and for the time between two
events where a stream starts. -/
theorem Representable.room {handling : Handling} (fits : Representable handler handling) :
    handling.proxy.system.clock + maxCooldown ≤ instantMax ∧
      ∀ prepared fingerprint selection attemptStart spawned,
        handling.station = .streaming prepared fingerprint selection attemptStart spawned →
          prepared.streaming = true → spawned ≤ handling.proxy.system.clock →
            spawned + prepared.interEventTimeout ≤ instantMax := by
  refine ⟨System.sums_fit_iff.mp fits.pool, ?_⟩
  intro prepared fingerprint selection attemptStart spawned station streaming past
  exact of_decide_eq_true
    (fits.stream _ _ _ _ _ [] station _ (streamSums_first streaming) past)

/-- In every run of a gateway that serves an accepted configuration, all deadlines are
instants as long as the configured times have room after the clock. The room is needed:
for the longest cooldown always, and for the time between two events when a stream starts.

Proof: every sum adds at most a configured time to an instant that has passed. -/
theorem deadlines_representable (serves : Serves libraries raw config handler.setup)
    (arrives : Arrives handler first) (run : Runs.Run handler.Step first trace last) :
    (roomy config last.proxy.system.clock = true → Representable handler last) ∧
      (Representable handler last →
        last.proxy.system.clock + maxCooldown ≤ instantMax ∧
          ∀ prepared fingerprint selection attemptStart spawned,
            last.station = .streaming prepared fingerprint selection attemptStart spawned →
              prepared.streaming = true → spawned ≤ last.proxy.system.clock →
                spawned + prepared.interEventTimeout ≤ instantMax) := by
  refine ⟨?_, Representable.room⟩
  intro room
  rw [roomy, List.all_eq_true] at room
  constructor
  · exact System.sums_fit_iff.mpr (of_decide_eq_true (room maxCooldown List.mem_cons_self))
  · intro prepared fingerprint selection attemptStart spawned client station sum member past
    obtain ⟨_, duration⟩ := streamSums_interEvent member
    have configured := streaming_configured serves arrives run station
    exact InstantSum.fits_within past (Nat.le_of_eq duration)
      (of_decide_eq_true (room _ (List.mem_cons_of_mem _ configured)))

/-- A document with three keys and a time between two events. -/
def timedRaw (seconds : Nat) : RawConfig where
  gatewayKeys := some [⟨"dev", "old"⟩]
  keys := some [.plain "a", .plain "b", .plain "c"]
  server := some { interEventTimeoutSeconds := some seconds }

/-- The configuration in a result. -/
def configOf : Except Configuration.ErrorKind Config → Config
  | .ok config => config
  | .error _ => Reload.sampleConfig

/-- The configuration in a result that is one. -/
theorem configOf_ok {result : Except Configuration.ErrorKind Config}
    (valid : result.isOk = true) : result = .ok (configOf result) := by
  cases result with
  | ok config => rfl
  | error kind => cases valid

/-- What the document is accepted as. -/
def timedConfig (seconds : Nat) : Config :=
  configOf (tryFrom Reload.sampleLibraries (timedRaw seconds))

/-- The gateway that serves it. -/
def timedHandler (seconds : Nat) : Handler :=
  { sampleHandler with
    setup := { sampleHandler.setup with
      gateway := Startup.assembleGateway (timedConfig seconds)
      policy := Reload.poolPolicy (timedConfig seconds) } }

/-- The sample serves its document. -/
theorem timedHandler_serves {seconds : Nat}
    (valid : (tryFrom Reload.sampleLibraries (timedRaw seconds)).isOk = true) :
    Serves Reload.sampleLibraries (timedRaw seconds) (timedConfig seconds)
      (timedHandler seconds).setup := by
  have accepted : tryFrom Reload.sampleLibraries (timedRaw seconds) =
      .ok (timedConfig seconds) := configOf_ok valid
  have ready := Startup.tryFrom_ready accepted
  obtain ⟨runtime, assembled⟩ :=
    @Startup.ready_assembles _ Unit ready Reload.sampleLibraries.fingerprint []
  refine ⟨accepted, ⟨Unit, _, runtime, assembled, ?_⟩, Startup.ready_policy ready⟩
  exact (Startup.assemble_parts assembled).gateway.symm

/-- Its request arrives as one does. -/
theorem timedHandler_arrives {seconds : Nat}
    (valid : (Reload.poolPolicy (timedConfig seconds)).validate = .ok ()) :
    Arrives (timedHandler seconds) sampleHandling :=
  ⟨System.started_initial _ System.sampleFingerprint valid (by decide), ⟨rfl, rfl⟩, rfl, rfl, rfl⟩

/-- A stream has just been spawned. -/
def spawnedStream : List HandlerAction :=
  sampleEntry ++
    [.attempt .choose, .attempt .advance, .other (.tick 5),
      .attempt (.conclude (.responded 3 Setup.sampleStream) 0 id), .finalize true]

end Handler

/-- A stream was spawned by now, and its first deadline is no instant. -/
def Station.overflows (clock : Nat) : Station → Bool
  | .streaming prepared _ _ _ spawned =>
      prepared.streaming && decide (spawned ≤ clock) &&
        decide (instantMax < spawned + prepared.interEventTimeout)
  | _ => false

/-- The test in words. -/
theorem Station.overflows_iff {station : Station} {clock : Nat} :
    station.overflows clock = true ↔ ∃ prepared fingerprint selection attemptStart spawned,
      station = .streaming prepared fingerprint selection attemptStart spawned ∧
        prepared.streaming = true ∧ spawned ≤ clock ∧
        instantMax < spawned + prepared.interEventTimeout := by
  constructor
  · intro spawns
    cases station with
    | streaming prepared fingerprint selection attemptStart spawned =>
      simp only [overflows, Bool.and_eq_true, decide_eq_true_eq] at spawns
      obtain ⟨⟨streams, past⟩, beyond⟩ := spawns
      exact ⟨_, _, _, _, _, rfl, streams, past, beyond⟩
    | _ => cases spawns
  · rintro ⟨prepared, _, _, _, spawned, rfl, streaming, past, beyond⟩
    simp only [Station.overflows, streaming, past, beyond, decide_true, Bool.and_self]

namespace Handler

/-- The longest time that can be written: `u64::MAX` seconds. -/
def endless : Nat := 18446744073709551615

/-- With the longest time between two events the configuration is accepted, and the first
stream it serves computes a deadline that is no instant. -/
theorem first_stream_overflows :
    Serves Reload.sampleLibraries (timedRaw endless) (timedConfig endless)
        (timedHandler endless).setup ∧
      Arrives (timedHandler endless) sampleHandling ∧
      (Runs.record (timedHandler endless).perform sampleHandling spawnedStream).isSome ∧
      ¬ Representable (timedHandler endless)
        (Runs.reached (timedHandler endless).perform sampleHandling spawnedStream) := by
  refine ⟨timedHandler_serves (by decide +kernel), timedHandler_arrives (by decide +kernel),
    by decide +kernel, ?_⟩
  intro fits
  have spawned :
      (Runs.reached (timedHandler endless).perform sampleHandling spawnedStream).station.overflows
        (Runs.reached (timedHandler endless).perform sampleHandling
          spawnedStream).proxy.system.clock = true := by
    decide +kernel
  obtain ⟨prepared, fingerprint, selection, attemptStart, instant, station, streaming, past,
    overflows⟩ := Station.overflows_iff.mp spawned
  have room := fits.room.2 _ _ _ _ _ station streaming past
  omega

/-- With ninety seconds between two events the same stream is in range. -/
theorem deadlines_representable_ninety :
    roomy (timedConfig 90)
        (Runs.reached (timedHandler 90).perform sampleHandling
          spawnedStream).proxy.system.clock = true ∧
      Representable (timedHandler 90)
        (Runs.reached (timedHandler 90).perform sampleHandling spawnedStream) := by
  have enabled : (Runs.record (timedHandler 90).perform sampleHandling spawnedStream).isSome := by
    decide +kernel
  have room : roomy (timedConfig 90)
      (Runs.reached (timedHandler 90).perform sampleHandling
        spawnedStream).proxy.system.clock = true := by
    decide +kernel
  exact ⟨room, (deadlines_representable (timedHandler_serves (by decide +kernel))
    (timedHandler_arrives (by decide +kernel)) (Runs.replay_run enabled)).1 room⟩

end Handler

end Orihsus.Gateway
