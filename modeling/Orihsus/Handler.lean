import Orihsus.Answers

/-!
# The handler of a proxied request

`proxy_request` of `src/gateway.rs` from the arrival of a request to its answer and, for a
forwarded response, to the end of the task that streams it. One request is followed. Its
loop of attempts is the machine of `Failover`, and every step that touches the pool is a
step of that machine; what other requests, reloads and the clock do falls between any two
steps.

How admission and the body come to their results is modelled in `Queue` and `BodyBudget`;
here the results are arbitrary. The position of the request's tracker among the pool's is
fixed for a run, and the tracker is created when that position is the next one. A client
that goes away drops the handler where it awaits something, and then nothing is answered.
-/

namespace Orihsus.Gateway

open Pool (Secret Selection System)
open Queue (AdmissionError)

/-- How the body phase ends. -/
inductive BodyRead where
  | complete (body : List UInt8)
  | tooLarge
  | invalid
  | timedOut
  deriving DecidableEq, Repr

/-- Where the handler stands. `reading` has the instant at which the read of the body times
out. In `streaming` the head is sent and the task runs; `streamed` holds the whole answer once
the task is over. -/
inductive Station where
  | arriving (progress : Progress)
  | reading (snapshot : RuntimeState) (identity : GatewayIdentity) (deadline : Nat)
  | buffered (snapshot : RuntimeState) (identity : GatewayIdentity) (body : List UInt8)
  | attempting (snapshot : RuntimeState) (identity : GatewayIdentity) (body : List UInt8)
  | streaming (prepared : PreparedResponse) (fingerprint : String) (selection : Selection)
      (attemptStart : Nat) (spawned : Nat)
  | answered (response : ClientResponse)
  | streamed (response : ClientResponse)
  | dropped
  deriving DecidableEq, Repr

/-- The request with everything it shares. The summaries of its attempts are those of the
loop; `records` is what has been offered to the audit sink. -/
structure Handling where
  proxy : Proxy
  runtime : RuntimeState
  wall : Int
  audit : RequestAudit
  records : List AuditRecord
  station : Station
  deriving DecidableEq, Repr

/-- A step of the handler or of its task, or of anyone else. -/
inductive HandlerAction where
  | check
  | recheck
  | admission (result : Except AdmissionError Unit)
  | serve
  | read (result : BodyRead)
  | look
  | attempt (action : ProxyAction)
  | finalize (slotFree : Bool)
  | pump (client : List ClientTurn) (jitter : Nat → Nat)
  | cancel
  | other (action : Pool.Action)
  | update (state : RuntimeState)
  | updateWithKeys (keys : List Secret) (state : RuntimeState)
  | setWall (wall : Int)

/-- What is fixed for a run: the gateway, the request and the library functions. -/
structure Handler where
  setup : Setup
  headers : HeaderMap
  api : UpstreamApi
  generatedId : String
  render : Json → List UInt8

namespace Handling

/-- The audit context with the summaries so far. -/
def requestAudit (handling : Handling) : RequestAudit :=
  { handling.audit with attempts := handling.proxy.attempts }

/-- The time since the request arrived. -/
def latency (handling : Handling) : Nat :=
  handling.proxy.system.clock - handling.proxy.requestStart

/-- Offer a record to the audit sink. -/
def record (handling : Handling) (offered : AuditRecord) : Handling :=
  { handling with records := handling.records ++ [offered] }

/-- Answer with a whole response. -/
def answer (handling : Handling) (response : ClientResponse) : Handling :=
  { handling with station := .answered response }

end Handling

namespace Handler

variable (handler : Handler)

/-- The request as its credential checks see it. -/
def client : Client where
  policy := handler.setup.policy
  fingerprint := handler.setup.fingerprint
  headers := handler.headers
  api := handler.api

def requestId : String := requestIdFor handler.headers handler.generatedId

/-- Audit a request that is rejected with a status of the gateway's own. -/
def recordRejected (handling : Handling) (status : Nat) : Handling :=
  handling.record (recordAuditRejectedWithContext handling.wall handler.requestId status
    handling.latency handling.requestAudit)

/-- Audit a request that is answered by an upstream response of a key. -/
def recordServed (handling : Handling) (fingerprint : String) (status : Nat) : Handling :=
  handling.record (recordAudit handling.wall handler.requestId handling.proxy.model fingerprint none
    status handling.latency none handling.requestAudit)

/-! ## Up to the body -/

/-- After a half of `check_proxy_auth`. Only the second check's identity is recorded. -/
def checked (handling : Handling) : Progress → Handling
  | .rejected status =>
      (handler.recordRejected handling status).answer (unauthorized handler.render)
  | .revalidated identity =>
      { handling with
        audit := { handling.audit with gatewayKey := some identity.name }
        station := .arriving (.revalidated identity) }
  | progress => { handling with station := .arriving progress }

/-- After `queue.acquire`. -/
def admitted (handling : Handling) : Except AdmissionError Unit → Handling
  | .ok () => { handling with station := .arriving (.checking .second) }
  | .error error =>
      (handler.recordRejected handling 503).answer (queueErrorResponse handler.render error)

/-- After the body phase. -/
def bodyRead (handling : Handling) (snapshot : RuntimeState) (identity : GatewayIdentity) :
    BodyRead → Handling
  | .complete body => { handling with station := .buffered snapshot identity body }
  | .tooLarge =>
      (handler.recordRejected handling 413).answer
        (openaiError handler.render 413 "Request body too large" "invalid_request_error" none)
  | .invalid =>
      (handler.recordRejected handling 400).answer
        (openaiError handler.render 400 "Invalid request body" "invalid_request_error" none)
  | .timedOut =>
      (handler.recordRejected handling 503).answer (serviceUnavailable handler.render (some 1))

/-- The model that a body names, if the snapshot allows it. -/
def acceptedModel (snapshot : RuntimeState) (body : List UInt8) : Option String :=
  (extractModel handler.setup.libraries.reading.parseJson body).filter (modelAllowed snapshot)

/-- After `extract_model` and the comparison with the configured models. -/
def looked (handling : Handling) (snapshot : RuntimeState) (identity : GatewayIdentity)
    (body : List UInt8) : Option Handling :=
  match extractModel handler.setup.libraries.reading.parseJson body with
  | none => some ((handler.recordRejected handling 400).answer (invalidModel handler.render))
  | some model =>
      if modelAllowed snapshot model then
        (handler.setup.perform handling.proxy (.enter model)).map fun proxy =>
          { handling with
            proxy := proxy
            audit := handling.audit.withSession handler.headers identity.fallbackSessionId
            station := .attempting snapshot identity body }
      else some ((handler.recordRejected handling 400).answer (invalidModel handler.render))

/-! ## The attempts and the answer -/

/-- An attempt whose request cannot be built fails where it starts. -/
def sendable (snapshot : RuntimeState) (identity : GatewayIdentity) (body : List UInt8)
    (proxy : Proxy) : ProxyAction → Bool
  | .conclude exchange _ _ =>
      match proxy.stage with
      | .sending selection attemptStart =>
          (forwardRequest selection handler.headers identity.fallbackSessionId body
            snapshot.baseUrl handler.api).isSome || exchange = .failed attemptStart
      | _ => false
  | .choose | .advance => true
  | .enter _ | .other _ => false

/-- `finalize_consumed_error`. -/
def finalizeConsumedError (handling : Handling) (consumed : ConsumedResponse)
    (fingerprint : String) : Handling :=
  (handler.recordServed handling fingerprint consumed.status).answer
    (sanitizedError handler.render handler.requestId consumed)

/-- `finalize_response`: a stream needs a slot. -/
def finalizeResponse (handling : Handling) (slotFree : Bool) (prepared : PreparedResponse)
    (fingerprint : String) (selection : Selection) (attemptStart : Nat) : Handling :=
  if prepared.streaming && !slotFree then
    (handler.recordServed handling fingerprint 503).answer
      (serviceUnavailable handler.render (some 1))
  else
    { handling with
      station := .streaming prepared fingerprint selection attemptStart
        handling.proxy.system.clock }

/-- After the loop. -/
def finalized (handling : Handling) (slotFree : Bool) : FinalOutcome → Handling
  | .unavailable retryAfter =>
      (handler.recordRejected handling 429).answer
        (rateLimited handler.render (retryAfterSecs retryAfter))
  | .lastResponse none =>
      (handler.recordRejected handling 503).answer (serviceUnavailable handler.render (some 1))
  | .lastResponse (some (consumed, fingerprint)) =>
      handler.finalizeConsumedError handling consumed fingerprint
  | .forward prepared fingerprint selection attemptStart =>
      handler.finalizeResponse handling slotFree prepared fingerprint selection attemptStart

/-- The report that the end of a stream makes, if it makes one. -/
def pumpReport (selection : Selection) (model : String) (jitter : Nat → Nat) :
    PumpOutcome → Option Pool.Action
  | .completed => some (.reportSuccess selection)
  | .upstreamError => some (.reportFailure selection .network jitter)
  | .clientCancel => none
  | .eventIdleTimeout => some (.reportLivenessFailure selection model)

/-- The end of the task: the report to the pool, the record and the whole answer. -/
def pumped (handling : Handling) (proxy : Proxy) (prepared : PreparedResponse)
    (fingerprint : String) (ended : Pumping) (result : PumpResult) : Handling :=
  let reported := { handling with proxy := proxy }
  let usage :=
    match result.outcome with
    | .completed => ended.parser.usage handler.setup.libraries.reading
    | _ => none
  let audit := { reported.requestAudit with
    attempts := reported.proxy.attempts.modifyLast (observePumped result) }
  let recorded := reported.record (recordAudit reported.wall handler.requestId reported.proxy.model
    fingerprint usage prepared.status reported.latency (some result.outcome.audited) audit)
  { recorded with
    station := .streamed
      { status := prepared.status
        headers := streamHead handler.requestId prepared
        body := ended.delivered.flatten } }

/-- The task of a stream, for a client. -/
def streamEnd (handling : Handling) (prepared : PreparedResponse) (attemptStart spawned : Nat)
    (client : List ClientTurn) : Pumping × Option PumpResult :=
  streamResponse handler.setup.libraries.reading handler.setup.gateway.timeouts prepared
    attemptStart handling.proxy.requestStart spawned client

/-- The task comes to its end once the clock has got there. -/
def streamedTo (handling : Handling) (prepared : PreparedResponse) (fingerprint : String)
    (selection : Selection) (attemptStart spawned : Nat) (client : List ClientTurn)
    (jitter : Nat → Nat) : Option Handling :=
  match handler.streamEnd handling prepared attemptStart spawned client with
  | (_, none) => none
  | (ended, some result) =>
      if ended.now ≤ handling.proxy.system.clock then
        match pumpReport selection handling.proxy.model jitter result.outcome with
        | none =>
            some (handler.pumped handling handling.proxy prepared fingerprint ended result)
        | some report =>
            (handler.setup.perform handling.proxy (.other report)).map fun proxy =>
              handler.pumped handling proxy prepared fingerprint ended result
      else none

/-! ## Steps -/

/-- The handler awaits something there, so a client that goes away drops it. -/
def awaits (handling : Handling) : Bool :=
  match handling.station with
  | .arriving .queued | .reading _ _ _ => true
  | .attempting _ _ _ =>
      match handling.proxy.stage with
      | .calling | .sending _ _ => true
      | _ => false
  | _ => false

/-- One step, if it is enabled. A refused reload changes nothing. -/
def perform (handling : Handling) : HandlerAction → Option Handling
  | .check =>
      match handling.station with
      | .arriving (.checking pass) =>
          some (handler.checked handling (handler.client.checked handling.runtime pass))
      | _ => none
  | .recheck =>
      match handling.station with
      | .arriving (.rechecking pass) =>
          some (handler.checked handling (handler.client.rechecked handling.runtime pass))
      | _ => none
  | .admission result =>
      match handling.station with
      | .arriving .queued => some (handler.admitted handling result)
      | _ => none
  | .serve =>
      match handling.station with
      | .arriving (.revalidated identity) =>
          if handling.proxy.system.callers.length = handler.setup.request then
            (handler.setup.perform handling.proxy (.other (.request none))).map fun proxy =>
              { handling with
                proxy := proxy
                station := .reading handling.runtime identity
                  (handling.proxy.system.clock + handler.setup.gateway.timeouts.bodyRead) }
          else none
      | _ => none
  | .read result =>
      match handling.station with
      | .reading snapshot identity deadline =>
          -- Only the bound times the read out; any other result may come before it.
          if result = .timedOut ∧ handling.proxy.system.clock < deadline then none
          else some (handler.bodyRead handling snapshot identity result)
      | _ => none
  | .look =>
      match handling.station with
      | .buffered snapshot identity body => handler.looked handling snapshot identity body
      | _ => none
  | .attempt action =>
      match handling.station with
      | .attempting snapshot identity body =>
          if handler.sendable snapshot identity body handling.proxy action then
            (handler.setup.perform handling.proxy action).map fun proxy =>
              { handling with proxy := proxy }
          else none
      | _ => none
  | .finalize slotFree =>
      match handling.station, handling.proxy.stage with
      | .attempting _ _ _, .finished outcome => some (handler.finalized handling slotFree outcome)
      | _, _ => none
  | .pump client jitter =>
      match handling.station with
      | .streaming prepared fingerprint selection attemptStart spawned =>
          handler.streamedTo handling prepared fingerprint selection attemptStart spawned client
            jitter
      | _ => none
  | .cancel => if awaits handling then some { handling with station := .dropped } else none
  | .other action =>
      (handler.setup.perform handling.proxy (.other action)).map fun proxy =>
        { handling with proxy := proxy }
  | .update state => some { handling with runtime := state }
  | .updateWithKeys keys state =>
      (handler.setup.perform handling.proxy (.other (.replaceKeys keys))).map fun proxy =>
        { handling with
          proxy := proxy
          runtime :=
            match handling.proxy.system.pool.replaceKeys handler.setup.fingerprint keys with
            | .ok _ => state
            | .error _ => handling.runtime }
  | .setWall wall => some { handling with wall := wall }

/-- The step relation of the runs. -/
def Step (before : Handling) (action : HandlerAction) (after : Handling) : Prop :=
  handler.perform before action = some after

end Handler

end Orihsus.Gateway
