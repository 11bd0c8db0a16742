import Orihsus.Forward
import Orihsus.Queue
import Orihsus.Streaming

/-!
# Answers and audit records

The answers that `src/gateway.rs` makes by itself, the rewrite of a saved upstream error,
and the audit records of `record_audit` and `record_audit_rejected_with_context`. The JSON
serializer is library code and stays a parameter, and so is the generator of request ids.
The float in which `retry_after_secs` rounds is exact here.
-/

namespace Orihsus.Gateway

open Queue (AdmissionError)

/-! ## Answers -/

/-- What a client receives. -/
structure ClientResponse where
  status : Nat
  headers : HeaderMap
  body : List UInt8
  deriving DecidableEq, Repr

/-- `HeaderMap::insert`. -/
def HeaderMap.insert (headers : HeaderMap) (name : String) (value : List UInt8) : HeaderMap :=
  headers.filter (fun header => header.1 != name.toList) ++ [(name.toList, value)]

/-- The document of `openai_error`. -/
def errorDocument (message errorType : String) (code : Option String) : Json :=
  .object [("error", .object
    [("message", .string message), ("type", .string errorType), ("param", .null),
      ("code", (code.map Json.string).getD .null)])]

/-- The text of a number. -/
def numberBytes (number : Nat) : List UInt8 := Text.asBytes (toString number).toList

section

variable (render : Json → List UInt8)

/-- `openai_error`. -/
def openaiError (status : Nat) (message errorType : String) (code : Option String) :
    ClientResponse where
  status := status
  headers := [("content-type".toList, Text.asBytes "application/json".toList)]
  body := render (errorDocument message errorType code)

/-- An answer with a Retry-After of its own. -/
def ClientResponse.retryAfter (response : ClientResponse) (seconds : Nat) : ClientResponse :=
  { response with headers := response.headers.insert "retry-after" (numberBytes seconds) }

/-- `service_unavailable`. -/
def serviceUnavailable (retryAfterSecs : Option Nat) : ClientResponse :=
  let response := openaiError render 503 "Service Unavailable" "service_unavailable" none
  (retryAfterSecs.map response.retryAfter).getD response

/-- `rate_limited`. -/
def rateLimited (retryAfterSecs : Nat) : ClientResponse :=
  (openaiError render 429 "All upstream keys are temporarily rate limited" "rate_limit_error"
    (some "upstream_keys_unavailable")).retryAfter retryAfterSecs

/-- `unauthorized`. -/
def unauthorized : ClientResponse :=
  openaiError render 401 "Incorrect API key provided" "authentication_error"
    (some "invalid_api_key")

/-- The answer to a body without a configured model. -/
def invalidModel : ClientResponse :=
  openaiError render 400 "Model must be one of the configured models" "invalid_request_error"
    (some "invalid_model")

/-- `queue_error_response`. -/
def queueErrorResponse : AdmissionError → ClientResponse
  | .full => serviceUnavailable render (some 1)
  | .timeout => serviceUnavailable render (some 1)
  | .closed => serviceUnavailable render (some 1)

/-- `retry_after_secs`: whole seconds, rounded up, and at least one. -/
def retryAfterSecs (duration : Nat) : Nat := max 1 ((duration + (10 ^ 9 - 1)) / 10 ^ 9)

/-- The message, type and code that stand for an upstream status. -/
def sanitizedTexts (status : Nat) : String × String × String :=
  if status = 429 then ("Upstream rate limit exceeded", "rate_limit_error", "rate_limit")
  else if Attempt.isAuthUnavailable status then
    ("Upstream authentication failed", "authentication_error", "upstream_authentication")
  else ("Upstream service error", "upstream_error", "upstream_error")

/-- The answer of `finalize_consumed_error`. Its Retry-After is copied as it came. -/
def sanitizedError (requestId : String) (consumed : ConsumedResponse) : ClientResponse :=
  let (message, errorType, code) := sanitizedTexts consumed.status
  let response := openaiError render consumed.status message errorType (some code)
  let headers := response.headers.insert "x-request-id" (Text.asBytes requestId.toList)
  let copied := if consumed.status = 429 then consumed.headers.get "retry-after" else none
  { response with headers := (copied.map (headers.insert "retry-after")).getD headers }

end

/-- The head of `stream_response`'s answer. -/
def streamHead (requestId : String) (prepared : PreparedResponse) : HeaderMap :=
  prepared.headers ++ [("x-request-id".toList, Text.asBytes requestId.toList)]

/-- The loop of `stream_response` that copies the headers. A value without a name is one
of the last name, and the `expect` fails if there was none. -/
def copyHeaders (lastName : Option (List Char)) :
    List (Option (List Char) × List UInt8) → Option HeaderMap
  | [] => some []
  | (name, value) :: rest =>
      match name.or lastName with
      | none => none
      | some name => (copyHeaders (some name) rest).map ((name, value) :: ·)

/-- The head of `stream_response`'s answer, as its loop builds it. -/
def buildHead (requestId : String) (filtered : HeaderMap) : Option HeaderMap :=
  (copyHeaders none filtered.intoIter).map
    (· ++ [("x-request-id".toList, Text.asBytes requestId.toList)])

/-- The loop copies every value under its own name. -/
theorem copyHeaders_intoIter (headers : HeaderMap) (last : Option (List Char)) :
    copyHeaders last (headers.intoIterAfter last) = some headers := by
  induction headers generalizing last with
  | nil => rfl
  | cons header rest inductionHypothesis =>
    obtain ⟨name, value⟩ := header
    have named : (if last = some name then none else some name).or last = some name := by
      by_cases same : last = some name
      · rw [if_pos same, same]
        rfl
      · rw [if_neg same]
        rfl
    simp only [HeaderMap.intoIterAfter, copyHeaders, named, inductionHypothesis, Option.map_some]

/-- The head is always built. -/
theorem buildHead_eq (requestId : String) (prepared : PreparedResponse) :
    buildHead requestId prepared.headers = some (streamHead requestId prepared) := by
  rw [buildHead, HeaderMap.intoIter, copyHeaders_intoIter]
  rfl

/-- What the head of a forwarded response should hold: the values of the names that may
pass, and the gateway's own request id. -/
structure Forwards (requestId : String) (upstream head : HeaderMap) : Prop where
  copied : ∀ name, name ≠ "x-request-id" →
    head.getAll name = if Forwardable upstream name then upstream.getAll name else []
  identified : head.getAll "x-request-id" = [Text.asBytes requestId.toList]

/-- The values of a name in the head: what the filter lets through, and then the id. -/
theorem streamHead_getAll {requestId : String} {prepared : PreparedResponse} {upstream : HeaderMap}
    (filtered : prepared.headers = filterResponseHeaders upstream) (name : String) :
    (streamHead requestId prepared).getAll name =
      (if Forwardable upstream name then upstream.getAll name else []) ++
        if name = "x-request-id" then [Text.asBytes requestId.toList] else [] := by
  rw [streamHead, HeaderMap.getAll_append, filtered, filterResponseHeaders_getAll]
  congr 1
  by_cases same : name = "x-request-id"
  · rw [if_pos same, same]
    rfl
  · have different : ("x-request-id".toList == name.toList) = false := by
      rw [beq_eq_false_iff_ne]
      exact fun equal => same (String.toList_injective equal).symm
    rw [if_neg same, HeaderMap.getAll, List.filter_cons, different]
    rfl

/-- The builder appends the request id after the headers of the upstream. So the id is the
only one if the upstream sends none, or one that its own Connection header withholds.

Proof: the values of every header of the head are computed, those of the request id last. -/
theorem forwarded_head_exact_iff {reading : Reading} {response : Response}
    {timeouts : EventTimeouts} {bufferCap attemptStart now : Nat} {prepared : PreparedResponse}
    (committed : (prepareResponse reading response timeouts bufferCap attemptStart now).2 =
      .ok prepared) (requestId : String) :
    ∃ head, buildHead requestId prepared.headers = some head ∧
      (Forwards requestId response.headers head ↔
        (response.headers.containsKey "x-request-id" = true →
          "x-request-id".toList ∈ connectionNamedHeaders response.headers)) := by
  have values := @streamHead_getAll requestId _ _ (prepareResponse_head committed).2
  have passing : Forwardable response.headers "x-request-id" ↔
      "x-request-id".toList ∉ connectionNamedHeaders response.headers :=
    forwardable_iff (by decide) (by decide) (by decide)
  refine ⟨streamHead requestId prepared, buildHead_eq requestId prepared, ?_, ?_⟩
  · intro forwards present
    by_contra unnamed
    have own := forwards.identified
    rw [values, if_pos (passing.mpr unnamed), if_pos rfl] at own
    exact HeaderMap.containsKey_iff.mp present (List.append_left_eq_self.mp own)
  · intro withheld
    constructor
    · intro name other
      rw [values, if_neg other, List.append_nil]
    · rw [values, if_pos rfl]
      by_cases passes : Forwardable response.headers "x-request-id"
      · have absent : response.headers.getAll "x-request-id" = [] := by
          by_contra present
          exact passing.mp passes (withheld (HeaderMap.containsKey_iff.mpr present))
        rw [absent, ite_self]
        rfl
      · rw [if_neg passes]
        rfl

/-- A plain answer of the upstream with two cookies and a request id. -/
def taggedAnswer (connection : List (List Char × List UInt8)) : Response where
  status := 200
  headers := connection ++ [("set-cookie".toList, [49]), ("set-cookie".toList, [50]),
    ("x-request-id".toList, [117])]
  body := []

/-- The answer as `prepare_response` hands it on. -/
def taggedPrepared (connection : List (List Char × List UInt8)) : PreparedResponse where
  status := 200
  headers := filterResponseHeaders (taggedAnswer connection).headers
  streaming := false
  upstream := []
  prefetched := []
  firstByteLatency := none
  firstEventLatency := none
  interEventTimeout := 1

/-- The upstream's request id stands before the gateway's own. -/
theorem upstream_request_id_first :
    (prepareResponse SseUsageParser.sampleReading (taggedAnswer []) ⟨1, 1⟩ 64 0 0).2 =
        .ok (taggedPrepared []) ∧
      buildHead "g" (taggedPrepared []).headers = some (streamHead "g" (taggedPrepared [])) ∧
      (streamHead "g" (taggedPrepared [])).getAll "x-request-id" = [[117], [103]] ∧
      ¬ Forwards "g" (taggedAnswer []).headers (streamHead "g" (taggedPrepared [])) := by
  have both : (streamHead "g" (taggedPrepared [])).getAll "x-request-id" = [[117], [103]] := by
    decide +kernel
  refine ⟨by decide +kernel, buildHead_eq _ _, both, fun forwards => ?_⟩
  have only := forwards.identified
  rw [both] at only
  revert only
  decide

/-- A request id that Connection lists is withheld. -/
theorem forwarded_head_exact_withheld :
    ∃ head, buildHead "g" (taggedPrepared
        [("connection".toList, Text.asBytes "X-Request-Id".toList)]).headers = some head ∧
      Forwards "g" (taggedAnswer
        [("connection".toList, Text.asBytes "X-Request-Id".toList)]).headers head := by
  have committed : (prepareResponse SseUsageParser.sampleReading
      (taggedAnswer [("connection".toList, Text.asBytes "X-Request-Id".toList)]) ⟨1, 1⟩ 64 0 0).2 =
        .ok (taggedPrepared [("connection".toList, Text.asBytes "X-Request-Id".toList)]) := by
    decide +kernel
  obtain ⟨head, built, exact⟩ := forwarded_head_exact_iff committed "g"
  refine ⟨head, built, exact.mpr fun _ => ?_⟩
  decide +kernel

/-- `request_id_for`: the client's own if it is well formed. -/
def requestIdFor (headers : HeaderMap) (generated : String) : String :=
  match ((headers.get "x-request-id").bind toStr).map Text.trim with
  | some candidate =>
      if !candidate.isEmpty && decide ((Text.asBytes candidate).length ≤ 128) &&
          candidate.all (fun character =>
            character.isAlphanum || "-_.".toList.contains character) then
        String.ofList candidate
      else generated
  | none => generated

/-! ## Audit records -/

/-- `AuditOutcome`. -/
inductive AuditOutcome where
  | completed
  | upstreamError
  | clientCancel
  | eventIdleTimeout
  deriving DecidableEq, Repr

structure AuditRecord where
  timestamp : Int
  requestId : String
  model : Option String
  keyFingerprint : Option String
  gatewayKey : Option String
  inputTokens : Option Nat
  cachedTokens : Option Nat
  uncachedTokens : Option Nat
  cacheWriteTokens : Option Nat
  outputTokens : Option Nat
  reasoningTokens : Option Nat
  status : Nat
  outcome : Option AuditOutcome
  latency : Nat
  opencodeSessionId : Option String
  opencodeProjectId : Option String
  opencodeRequestId : Option String
  attempts : List AttemptSummary
  deriving DecidableEq, Repr

/-- `record_audit`, at an instant of the system clock. -/
def recordAudit (timestamp : Int) (requestId model keyFingerprint : String)
    (usage : Option RequestUsage) (status latency : Nat) (outcome : Option AuditOutcome)
    (audit : RequestAudit) : AuditRecord where
  timestamp := timestamp
  requestId := requestId
  model := some model
  keyFingerprint := some keyFingerprint
  gatewayKey := audit.gatewayKey
  inputTokens := usage.map RequestUsage.inputTokens
  cachedTokens := usage.map RequestUsage.cachedTokens
  uncachedTokens := usage.map RequestUsage.uncachedTokens
  cacheWriteTokens := usage.bind RequestUsage.cacheWriteTokens
  outputTokens := usage.map RequestUsage.outputTokens
  reasoningTokens := usage.bind RequestUsage.reasoningTokens
  status := status
  outcome := outcome
  latency := latency
  opencodeSessionId := audit.opencodeSessionId
  opencodeProjectId := audit.opencodeProjectId
  opencodeRequestId := audit.opencodeRequestId
  attempts := audit.attempts

/-- `record_audit_rejected_with_context`, at an instant of the system clock. -/
def recordAuditRejectedWithContext (timestamp : Int) (requestId : String) (status latency : Nat)
    (audit : RequestAudit) : AuditRecord where
  timestamp := timestamp
  requestId := requestId
  model := none
  keyFingerprint := none
  gatewayKey := audit.gatewayKey
  inputTokens := none
  cachedTokens := none
  uncachedTokens := none
  cacheWriteTokens := none
  outputTokens := none
  reasoningTokens := none
  status := status
  outcome := none
  latency := latency
  opencodeSessionId := audit.opencodeSessionId
  opencodeProjectId := audit.opencodeProjectId
  opencodeRequestId := audit.opencodeRequestId
  attempts := audit.attempts

/-- What the end of a stream leaves in the last summary. -/
def observePumped (result : PumpResult) (summary : AttemptSummary) : AttemptSummary :=
  { summary with
    firstByteLatency := result.metrics.firstByteLatency
    firstEventLatency := result.metrics.firstEventLatency
    upstreamBytes := result.metrics.upstreamBytes
    upstreamChunks := result.metrics.upstreamChunks
    upstreamEvents := result.metrics.upstreamEvents
    lastActivityOffset := result.metrics.lastActivityOffset
    terminalReason :=
      match result.outcome with
      | .completed => .completed
      | .upstreamError => .upstreamError
      | .clientCancel => .clientCancel
      | .eventIdleTimeout => .eventIdleTimeout }

/-- The outcome that the audit line records of a stream. -/
def PumpOutcome.audited : PumpOutcome → AuditOutcome
  | .completed => .completed
  | .upstreamError => .upstreamError
  | .clientCancel => .clientCancel
  | .eventIdleTimeout => .eventIdleTimeout

end Orihsus.Gateway
