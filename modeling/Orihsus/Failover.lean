import Orihsus.Attempts
import Orihsus.Upstream

/-!
# The failover loop

The attempt loop of `proxy_request` in `src/gateway.rs`: which selection function
it calls, what each upstream exchange makes of an attempt, what it reports to the
pool and what it answers with. One request is followed; everything else that may
happen to the pool in the meantime, by other requests, reloads, the usage monitor
and the clock, is an arbitrary step that leaves this request's tracker alone.

A call of `next` gives up the processor between its steps, as `PoolRuns` has it.
An exchange with the upstream is one step, taken at any instant after it is over.
-/

namespace Orihsus.Gateway

open Pool (AttemptResult Failure PoolPolicy Selection System)

/-- `IoTimeouts`. -/
structure IoTimeouts where
  bodyRead : Nat
  upstreamHeader : Nat
  firstEvent : Nat
  interEvent : Nat
  upstreamErrorBody : Nat
  responseWrite : Nat
  deriving DecidableEq, Repr

/-- The part of `GatewayState` that a request reads. -/
structure GatewayState where
  timeouts : IoTimeouts
  modelEventTimeouts : List (String × EventTimeouts)

/-- `event_timeouts_for`. -/
def GatewayState.eventTimeoutsFor (state : GatewayState) (model : String) : EventTimeouts :=
  (state.modelEventTimeouts.lookup model).getD
    { firstEventTimeout := state.timeouts.firstEvent
      interEventTimeout := state.timeouts.interEvent }

/-- The library functions an attempt calls. -/
structure Libraries where
  reading : Reading
  parseHttpDate : List Char → Option Int

/-- `SSE_EVENT_CAP`. -/
def sseEventCap : Nat := 256 * 1024

/-! ## Audit summaries -/

structure AttemptSummary where
  attemptNumber : Nat
  keyFingerprint : String
  responseHeaderLatency : Option Nat
  firstByteLatency : Option Nat
  firstEventLatency : Option Nat
  upstreamBytes : Nat
  upstreamChunks : Nat
  upstreamEvents : Nat
  lastActivityOffset : Option Nat
  precommit : Bool
  committed : Bool
  terminalReason : AttemptTerminalReason
  failoverTarget : Option String
  deriving DecidableEq, Repr

/-- `new_attempt_summary`. -/
def newAttemptSummary (attemptNumber : Nat) (keyFingerprint : String)
    (responseHeaderLatency : Option Nat) (terminalReason : AttemptTerminalReason) :
    AttemptSummary where
  attemptNumber := attemptNumber
  keyFingerprint := keyFingerprint
  responseHeaderLatency := responseHeaderLatency
  firstByteLatency := none
  firstEventLatency := none
  upstreamBytes := 0
  upstreamChunks := 0
  upstreamEvents := 0
  lastActivityOffset := none
  precommit := true
  committed := false
  terminalReason := terminalReason
  failoverTarget := none

/-- `MAX_AUDIT_ATTEMPTS`. -/
def maxAuditAttempts : Nat := 2

/-- `AttemptSummaries::push`. -/
def pushSummary (attempts : List AttemptSummary) (summary : AttemptSummary) :
    List AttemptSummary :=
  if attempts.length < maxAuditAttempts then attempts ++ [summary] else attempts

/-- `observe_consumed_error`. -/
def observeConsumedError (consumed : ConsumedResponse) (summary : AttemptSummary) :
    AttemptSummary :=
  { summary with
    firstByteLatency := consumed.firstByteLatency
    upstreamBytes := consumed.upstreamBytes
    upstreamChunks := consumed.upstreamChunks
    lastActivityOffset := consumed.lastActivityOffset }

/-- What a failed prefetch leaves in its summary. -/
def observePrefetchFailure (failure : PrefetchFailure) (summary : AttemptSummary) :
    AttemptSummary :=
  { summary with
    firstByteLatency := failure.firstByteLatency
    upstreamBytes := failure.upstreamBytes
    upstreamChunks := failure.upstreamChunks
    lastActivityOffset := failure.lastActivityOffset
    terminalReason := failure.reason }

/-- What a committed response leaves in its summary. -/
def observeForwarded (prepared : PreparedResponse) (summary : AttemptSummary) : AttemptSummary :=
  { summary with
    firstByteLatency := prepared.firstByteLatency
    firstEventLatency := prepared.firstEventLatency
    precommit := false
    committed := true
    terminalReason := .forwarded }

/-- The previous attempt names the key its failover went to. -/
def nameFailoverTarget (fingerprint : String) (previous : AttemptSummary) : AttemptSummary :=
  if previous.precommit && previous.failoverTarget.isNone then
    { previous with failoverTarget := some fingerprint }
  else previous

/-! ## One attempt -/

/-- What the upstream does with a request: nothing, a transport error, or a
response whose head arrives at an instant. -/
inductive Exchange where
  | silent
  | failed (time : Nat)
  | responded (time : Nat) (response : Response)
  deriving DecidableEq, Repr

/-- A report to the pool about a selection. -/
inductive Report where
  | failure (failure : Failure)
  | livenessFailure
  deriving DecidableEq, Repr

/-- Where an attempt leaves the loop: it goes on, with a report and perhaps a saved
response, or it commits a response. -/
inductive Verdict where
  | retry (report : Option Report) (saved : Option ConsumedResponse)
  | forward (prepared : PreparedResponse)
  deriving DecidableEq, Repr

/-- An attempt that is over: the instant, the audit summaries and the verdict. -/
structure Concluded where
  time : Nat
  attempts : List AttemptSummary
  verdict : Verdict
  deriving DecidableEq, Repr

/-- What an attempt knows when its request is sent. -/
structure Attempt where
  fingerprint : String
  model : String
  attemptStart : Nat
  requestStart : Nat
  attempts : List AttemptSummary

namespace Attempt

variable (state : GatewayState) (libraries : Libraries) (attempt : Attempt)

/-- The summaries after this attempt's own is pushed. -/
def record (responseHeaderLatency : Option Nat) (reason : AttemptTerminalReason) :
    List AttemptSummary :=
  pushSummary attempt.attempts
    (newAttemptSummary (attempt.attempts.length + 1) attempt.fingerprint
      responseHeaderLatency reason)

/-- The branch of a retryable status. The body is read within its bound; a body
that stalls or breaks is reported and not saved, one that was read is reported by
what it says and saved. -/
def rejected (now : Nat) (response : Response) (attempts : List AttemptSummary)
    (unreadable : Failure) (classified : ConsumedResponse → Failure) : Concluded :=
  match consumeClassifyBody response state.timeouts.upstreamErrorBody attempt.attemptStart
      attempt.requestStart now with
  | ⟨time, _, none⟩ => ⟨time, attempts, .retry (some (.failure unreadable)) none⟩
  | ⟨time, _, some consumed⟩ =>
      ⟨time, attempts.modifyLast (observeConsumedError consumed),
        .retry (some (.failure (classified consumed))) (some consumed)⟩

/-- The failure a 429 with a readable body is. -/
def rateLimitFailure (retryAfter : Option Nat) (consumed : ConsumedResponse) : Failure :=
  match classifyErrorBody libraries.reading.parseJson consumed.body with
  | .usageLimit dimension cooldown => .usageLimit dimension cooldown
  | .generic => .rateLimited retryAfter

/-- The report of a failed prefetch. -/
def prefetchReport : AttemptTerminalReason → Option Report
  | .networkError => some (.failure .network)
  | .noFirstEvent | .endBeforeFirstEvent => some .livenessFailure
  | _ => none

/-- `is_auth_unavailable`. -/
def isAuthUnavailable (status : Nat) : Bool := status = 401 || status = 403

/-- `StatusCode::is_server_error`. -/
def isServerError (status : Nat) : Bool := 500 ≤ status && status < 600

/-- An attempt whose response head arrived at `now`; `wall` is the system clock. -/
def respond (wall : Int) (now : Nat) (response : Response) : Concluded :=
  let attempts := attempt.record (some (now - attempt.attemptStart)) .retryableResponse
  let retryAfter := (response.headers.get "retry-after").bind fun value =>
    parseRetryAfter libraries.parseHttpDate value wall
  if response.status = 429 then
    attempt.rejected state now response attempts (.rateLimited retryAfter)
      (rateLimitFailure libraries retryAfter)
  else if isAuthUnavailable response.status then
    attempt.rejected state now response attempts (.unavailable retryAfter)
      (fun _ => .unavailable retryAfter)
  else if isServerError response.status then
    attempt.rejected state now response attempts .server (fun _ => .server)
  else
    match prepareResponse libraries.reading response (state.eventTimeoutsFor attempt.model)
        sseEventCap attempt.attemptStart now with
    | (time, .error failure) =>
        ⟨time, attempts.modifyLast (observePrefetchFailure failure),
          .retry (prefetchReport failure.reason) none⟩
    | (time, .ok prepared) =>
        ⟨time, attempts.modifyLast (observeForwarded prepared), .forward prepared⟩

/-- One attempt from the send to the verdict. -/
def conclude (wall : Int) (exchange : Exchange) : Concluded :=
  let deadline := attempt.attemptStart + state.timeouts.upstreamHeader
  let timedOut : Concluded :=
    ⟨deadline, attempt.record none .responseHeaderTimeout, .retry (some (.failure .network)) none⟩
  match exchange with
  | .silent => timedOut
  | .failed time =>
      if time ≤ deadline then
        let now := max attempt.attemptStart time
        ⟨now, attempt.record (some (now - attempt.attemptStart)) .networkError,
          .retry (some (.failure .network)) none⟩
      else timedOut
  | .responded time response =>
      if time ≤ deadline then
        attempt.respond state libraries wall (max attempt.attemptStart time) response
      else timedOut

end Attempt

/-! ## The loop -/

/-- `FinalOutcome`. -/
inductive FinalOutcome where
  | unavailable (retryAfter : Nat)
  | lastResponse (saved : Option (ConsumedResponse × String))
  | forward (prepared : PreparedResponse) (fingerprint : String) (selection : Selection)
      (attemptStart : Nat)
  deriving DecidableEq, Repr

/-- Where the request stands: before the loop, at its top, inside a call of `next`,
waiting for an upstream, or past it. -/
inductive Stage where
  | preparing
  | choosing
  | calling
  | sending (selection : Selection) (attemptStart : Nat)
  | finished (outcome : FinalOutcome)
  deriving DecidableEq, Repr

/-- One proxied request and the pool it shares. -/
structure Proxy where
  system : System
  stage : Stage
  model : String
  requestStart : Nat
  lastResponse : Option (ConsumedResponse × String)
  attempts : List AttemptSummary
  deriving DecidableEq, Repr

/-- A step of the loop, or of anyone else. The system clock and the jitter are
drawn when an attempt is over. -/
inductive ProxyAction where
  | other (action : Pool.Action)
  | enter (model : String)
  | choose
  | advance
  | conclude (exchange : Exchange) (wall : Int) (jitter : Nat → Nat)

/-- The request whose tracker an action uses. -/
def calledRequest : Pool.Action → Option Nat
  | .setModel request _ | .next request | .nextImmediate request | .advance request => some request
  | _ => none

/-- The pool method a report calls. -/
def Report.action (selection : Selection) (model : String) (jitter : Nat → Nat) :
    Report → Pool.Action
  | .failure reported => .reportFailure selection reported jitter
  | .livenessFailure => .reportLivenessFailure selection model

/-- What is fixed for a run: the gateway, its libraries, the pool's policy and
fingerprint, and the position of the followed request among the pool's. -/
structure Setup where
  gateway : GatewayState
  libraries : Libraries
  policy : PoolPolicy
  fingerprint : String → String
  request : Nat

namespace Proxy

/-- The attempt in flight on a selection. -/
def attempt (proxy : Proxy) (selection : Selection) (attemptStart : Nat) : Attempt where
  fingerprint := selection.fingerprint
  model := proxy.model
  attemptStart := attemptStart
  requestStart := proxy.requestStart
  attempts := proxy.attempts

/-- The loop after an answer of the pool; without one the call goes on. -/
def answered (proxy : Proxy) (system : System) : Option AttemptResult → Proxy
  | none => { proxy with system := system, stage := .calling }
  | some (.selected selection) =>
      { proxy with
        system := system
        stage := .sending selection system.clock
        attempts := proxy.attempts.modifyLast (nameFailoverTarget selection.fingerprint) }
  | some (.unavailable retryAfter) =>
      { proxy with system := system, stage := .finished (.unavailable retryAfter) }
  | some .exhausted =>
      { proxy with system := system, stage := .finished (.lastResponse proxy.lastResponse) }

/-- The loop after an attempt on a selection. -/
def settled (proxy : Proxy) (system : System) (selection : Selection) (attemptStart : Nat)
    (concluded : Concluded) : Proxy :=
  match concluded.verdict with
  | .retry _ saved =>
      { proxy with
        system := system
        stage := .choosing
        lastResponse := (saved.map fun consumed => (consumed, selection.fingerprint)).or
          proxy.lastResponse
        attempts := concluded.attempts }
  | .forward prepared =>
      { proxy with
        system := system
        stage := .finished (.forward prepared selection.fingerprint selection attemptStart)
        attempts := concluded.attempts }

end Proxy

/-- The report a verdict makes. -/
def Verdict.report : Verdict → Option Report
  | .retry report _ => report
  | .forward _ => none

/-- The response a verdict saves. -/
def Verdict.saved : Verdict → Option ConsumedResponse
  | .retry _ saved => saved
  | .forward _ => none

namespace Setup

variable (setup : Setup)

/-- How the attempt in flight ends, given what the upstream does. -/
def concluded (proxy : Proxy) (selection : Selection) (attemptStart : Nat) (wall : Int)
    (exchange : Exchange) : Concluded :=
  (proxy.attempt selection attemptStart).conclude setup.gateway setup.libraries wall exchange

/-- The selection function of the loop: only a request with nothing saved waits. -/
def choice (proxy : Proxy) : Pool.Action :=
  if proxy.lastResponse.isSome then .nextImmediate setup.request else .next setup.request

/-- The call a step makes on the pool. -/
def poolAction (proxy : Proxy) : ProxyAction → Option Pool.Action
  | .other action => some action
  | .enter model => some (.setModel setup.request model)
  | .choose => some (setup.choice proxy)
  | .advance => some (.advance setup.request)
  | .conclude exchange wall jitter =>
      match proxy.stage with
      | .sending selection attemptStart =>
          (setup.concluded proxy selection attemptStart wall exchange).verdict.report.map
            (Report.action selection proxy.model jitter)
      | _ => none

/-- A step is possible where the loop stands. -/
def enabled (proxy : Proxy) : ProxyAction → Bool
  | .other action => calledRequest action ≠ some setup.request
  | .enter _ => proxy.stage = .preparing
  | .choose => proxy.stage = .choosing
  | .advance => proxy.stage = .calling
  | .conclude exchange wall _ =>
      match proxy.stage with
      | .sending selection attemptStart =>
          (setup.concluded proxy selection attemptStart wall exchange).time ≤ proxy.system.clock
      | _ => false

/-- The loop after a step that left this system and this answer. -/
def follow (proxy : Proxy) (system : System) (answer : Option AttemptResult) :
    ProxyAction → Proxy
  | .other _ => { proxy with system := system }
  | .enter model => { proxy with system := system, stage := .choosing, model := model }
  | .choose | .advance => proxy.answered system answer
  | .conclude exchange wall _ =>
      match proxy.stage with
      | .sending selection attemptStart =>
          proxy.settled system selection attemptStart
            (setup.concluded proxy selection attemptStart wall exchange)
      | _ => proxy

/-- One step, if it is enabled. -/
def perform (proxy : Proxy) (action : ProxyAction) : Option Proxy :=
  if setup.enabled proxy action then
    match setup.poolAction proxy action with
    | none => some (setup.follow proxy proxy.system none action)
    | some call =>
        (proxy.system.perform setup.policy setup.fingerprint call).map fun result =>
          setup.follow proxy result.1 result.2 action
  else none

/-- The step relation of the runs. -/
def Step (before : Proxy) (action : ProxyAction) (after : Proxy) : Prop :=
  setup.perform before action = some after

end Setup

/-! ## Inversion of one step -/

namespace Attempt

variable {state : GatewayState} {libraries : Libraries} {attempt : Attempt} {now : Nat}
  {response : Response} {wall : Int} {exchange : Exchange}

/-- A verdict that lets the loop go on makes a report. -/
def Reports (verdict : Verdict) : Prop :=
  ∀ report saved, verdict = .retry report saved → report.isSome

/-- A report is made. -/
theorem reports_some {report : Report} {saved : Option ConsumedResponse} :
    Reports (.retry (some report) saved) := by
  intro other kept same
  cases same
  rfl

/-- A rejection is reported. -/
theorem rejected_reports {attempts : List AttemptSummary} {unreadable : Failure}
    {classified : ConsumedResponse → Failure} :
    Reports (attempt.rejected state now response attempts unreadable classified).verdict := by
  unfold rejected
  split
  · exact reports_some
  · exact reports_some

/-- So is every response. -/
theorem respond_reports :
    Reports (attempt.respond state libraries wall now response).verdict := by
  unfold respond
  dsimp only
  split
  · exact rejected_reports
  · split
    · exact rejected_reports
    · split
      · exact rejected_reports
      · split
        · -- The prefetch fails for the three reasons that have a report.
          rename_i time failure failed
          have known : PrefetchReason failure.reason :=
            prepareResponse_reason (congrArg Prod.snd failed)
          rcases known with network | silent | ended
          · rw [network]
            exact reports_some
          · rw [silent]
            exact reports_some
          · rw [ended]
            exact reports_some
        · intro report saved impossible
          cases impossible

/-- Every attempt that is not forwarded makes a report. -/
theorem conclude_reports :
    Reports (attempt.conclude state libraries wall exchange).verdict := by
  unfold conclude
  cases exchange with
  | silent => exact reports_some
  | failed time =>
    dsimp only
    split
    · exact reports_some
    · exact reports_some
  | responded time response =>
    dsimp only
    split
    · exact respond_reports
    · exact reports_some

end Attempt

namespace Setup

variable (setup : Setup)

/-- Every way a step can go. An attempt that is over is reported or forwarded. -/
inductive Turns (before : Proxy) : ProxyAction → Proxy → Prop
  | other {action : Pool.Action} {system : System} {answer : Option AttemptResult}
      (foreign : calledRequest action ≠ some setup.request)
      (performed : before.system.perform setup.policy setup.fingerprint action =
        some (system, answer)) :
      Turns before (.other action) { before with system := system }
  | entered {model : String} {system : System} {answer : Option AttemptResult}
      (preparing : before.stage = .preparing)
      (performed : before.system.perform setup.policy setup.fingerprint
        (.setModel setup.request model) = some (system, answer)) :
      Turns before (.enter model)
        { before with system := system, stage := .choosing, model := model }
  | chosen {system : System} {answer : Option AttemptResult}
      (choosing : before.stage = .choosing)
      (performed : before.system.perform setup.policy setup.fingerprint (setup.choice before) =
        some (system, answer)) :
      Turns before .choose (before.answered system answer)
  | advanced {system : System} {answer : Option AttemptResult}
      (calling : before.stage = .calling)
      (performed : before.system.perform setup.policy setup.fingerprint
        (.advance setup.request) = some (system, answer)) :
      Turns before .advance (before.answered system answer)
  | retried {selection : Selection} {attemptStart : Nat} {exchange : Exchange} {wall : Int}
      {jitter : Nat → Nat} {report : Report} {saved : Option ConsumedResponse} {system : System}
      {answer : Option AttemptResult}
      (sending : before.stage = .sending selection attemptStart)
      (verdict : (setup.concluded before selection attemptStart wall exchange).verdict =
        .retry (some report) saved)
      (performed : before.system.perform setup.policy setup.fingerprint
        (report.action selection before.model jitter) = some (system, answer)) :
      Turns before (.conclude exchange wall jitter)
        (before.settled system selection attemptStart
          (setup.concluded before selection attemptStart wall exchange))
  | forwarded {selection : Selection} {attemptStart : Nat} {exchange : Exchange} {wall : Int}
      {jitter : Nat → Nat} {prepared : PreparedResponse}
      (sending : before.stage = .sending selection attemptStart)
      (verdict : (setup.concluded before selection attemptStart wall exchange).verdict =
        .forward prepared) :
      Turns before (.conclude exchange wall jitter)
        (before.settled before.system selection attemptStart
          (setup.concluded before selection attemptStart wall exchange))

variable {setup} {before after : Proxy} {action : ProxyAction}

/-- The inversion of a step that makes a call on the pool. -/
theorem perform_call {call : Pool.Action} (stepped : setup.Step before action after)
    (calls : setup.poolAction before action = some call) :
    ∃ system answer, before.system.perform setup.policy setup.fingerprint call =
        some (system, answer) ∧ after = setup.follow before system answer action := by
  unfold Step perform at stepped
  split at stepped
  · rw [calls] at stepped
    obtain ⟨⟨system, answer⟩, performed, rfl⟩ := Option.map_eq_some_iff.mp stepped
    exact ⟨system, answer, performed, rfl⟩
  · cases stepped

/-- A step was enabled. -/
theorem step_enabled (stepped : setup.Step before action after) :
    setup.enabled before action = true := by
  unfold Step perform at stepped
  split at stepped
  · assumption
  · cases stepped

/-- The inversion of a step. -/
theorem step_turns (stepped : setup.Step before action after) :
    setup.Turns before action after := by
  have enabled := step_enabled stepped
  cases action with
  | other action =>
    obtain ⟨system, answer, performed, rfl⟩ := perform_call stepped rfl
    exact .other (by simpa [Setup.enabled] using enabled) performed
  | enter model =>
    obtain ⟨system, answer, performed, rfl⟩ := perform_call stepped rfl
    exact .entered (by simpa [Setup.enabled] using enabled) performed
  | choose =>
    obtain ⟨system, answer, performed, rfl⟩ := perform_call stepped rfl
    exact .chosen (by simpa [Setup.enabled] using enabled) performed
  | advance =>
    obtain ⟨system, answer, performed, rfl⟩ := perform_call stepped rfl
    exact .advanced (by simpa [Setup.enabled] using enabled) performed
  | conclude exchange wall jitter =>
    cases stage : before.stage with
    | preparing | choosing | calling | finished => simp [Setup.enabled, stage] at enabled
    | sending selection attemptStart =>
      have follows (system : System) (answer : Option AttemptResult) :
          setup.follow before system answer (.conclude exchange wall jitter) =
            before.settled system selection attemptStart
              (setup.concluded before selection attemptStart wall exchange) := by
        simp only [Setup.follow, stage]
      cases verdict : (setup.concluded before selection attemptStart wall exchange).verdict with
      | retry report saved =>
        obtain ⟨made, rfl⟩ := Option.isSome_iff_exists.mp
          (Attempt.conclude_reports report saved verdict)
        have calls : setup.poolAction before (.conclude exchange wall jitter) =
            some (made.action selection before.model jitter) := by
          simp only [Setup.poolAction, stage, verdict, Verdict.report, Option.map_some]
        obtain ⟨system, answer, performed, rfl⟩ := perform_call stepped calls
        rw [follows]
        exact .retried stage verdict performed
      | forward prepared =>
        have quiet : setup.poolAction before (.conclude exchange wall jitter) = none := by
          simp only [Setup.poolAction, stage, verdict, Verdict.report, Option.map_none]
        unfold Step perform at stepped
        rw [if_pos enabled, quiet] at stepped
        dsimp only at stepped
        rw [follows] at stepped
        cases stepped
        exact .forwarded stage verdict

end Setup

end Orihsus.Gateway
