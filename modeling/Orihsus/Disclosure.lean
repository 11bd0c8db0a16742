import Orihsus.AuditRuns

/-!
# What an upstream error discloses

Two runs of the handler that differ only in retryable upstream errors. The runs take the
same steps at the same instants, and where one attempt ends with an upstream error in both,
the two responses agree on what the gateway is meant to use of them: their status, how the
read of the body ends, its classification and the parsed Retry-After.

What the gateway keeps of such a response and may still show is its disclosed part. Every
step of the handler commutes with forgetting the rest, so that the runs stay equal up to
it. The disclosed part has the raw text of a Retry-After on 429, whether or not it could be
parsed, and that is where two runs can come apart.
-/

namespace Orihsus.Gateway

open Pool (AttemptResult Failure Selection System)

/-! ## The disclosed part -/

/-- What `finalize_consumed_error` reads of a saved response. -/
def ConsumedResponse.disclosed (consumed : ConsumedResponse) : ConsumedResponse where
  status := consumed.status
  headers :=
    if consumed.status = 429 then
      (consumed.headers.get "retry-after").toList.map fun value => ("retry-after".toList, value)
    else []
  body := .oversized
  firstByteLatency := none
  upstreamBytes := 0
  upstreamChunks := 0
  lastActivityOffset := none

/-- A saved response and the key it came from, of which only the first is reduced. -/
def disclosedSaved (saved : ConsumedResponse × String) : ConsumedResponse × String :=
  (saved.1.disclosed, saved.2)

def FinalOutcome.disclosed : FinalOutcome → FinalOutcome
  | .lastResponse saved => .lastResponse (saved.map disclosedSaved)
  | outcome => outcome

def Stage.disclosed : Stage → Stage
  | .finished outcome => .finished outcome.disclosed
  | stage => stage

/-- The loop without its summaries and with the disclosed part of what it has saved. -/
def Proxy.disclosed (proxy : Proxy) : Proxy :=
  { proxy with
    stage := proxy.stage.disclosed
    lastResponse := proxy.lastResponse.map disclosedSaved
    attempts := [] }

/-- The handler without its audit records. -/
def Handling.disclosed (handling : Handling) : Handling :=
  { handling with
    proxy := handling.proxy.disclosed
    records := [] }

/-- A disclosed response keeps its Retry-After. -/
theorem disclosed_get (consumed : ConsumedResponse) (limited : consumed.status = 429) :
    consumed.disclosed.headers.get "retry-after" = consumed.headers.get "retry-after" := by
  simp only [ConsumedResponse.disclosed, if_pos limited]
  cases consumed.headers.get "retry-after" with
  | none => rfl
  | some value => simp [HeaderMap.get]

@[simp] theorem ConsumedResponse.disclosed_twice (consumed : ConsumedResponse) :
    consumed.disclosed.disclosed = consumed.disclosed := by
  by_cases limited : consumed.status = 429
  · have read := disclosed_get consumed limited
    unfold ConsumedResponse.disclosed at read ⊢
    simp only [if_pos limited] at read ⊢
    rw [read]
  · simp [ConsumedResponse.disclosed, limited]

@[simp] theorem disclosedSaved_twice : disclosedSaved ∘ disclosedSaved = disclosedSaved := by
  funext saved
  simp [disclosedSaved]

@[simp] theorem FinalOutcome.disclosed_twice (outcome : FinalOutcome) :
    outcome.disclosed.disclosed = outcome.disclosed := by
  cases outcome with
  | lastResponse saved => simp [FinalOutcome.disclosed]
  | _ => rfl

@[simp] theorem Stage.disclosed_twice (stage : Stage) :
    stage.disclosed.disclosed = stage.disclosed := by
  cases stage with
  | finished outcome => simp [Stage.disclosed]
  | _ => rfl

@[simp] theorem Proxy.disclosed_twice (proxy : Proxy) :
    proxy.disclosed.disclosed = proxy.disclosed := by
  simp [Proxy.disclosed]

/-- The rewrite of an upstream error reads nothing else. -/
theorem sanitizedError_disclosed (render : Json → List UInt8) (requestId : String)
    (consumed : ConsumedResponse) :
    sanitizedError render requestId consumed.disclosed =
      sanitizedError render requestId consumed := by
  have status : consumed.disclosed.status = consumed.status := rfl
  unfold sanitizedError
  by_cases limited : consumed.status = 429
  · simp only [status, limited, if_true, disclosed_get consumed limited]
  · simp only [status, limited, if_false]

/-! ## The loop commutes with forgetting the rest -/

namespace Attempt

variable {state : GatewayState} {libraries : Libraries}

/-- The attempt without the summaries before it. -/
def unsummarised (attempt : Attempt) : Attempt := { attempt with attempts := [] }

/-- An attempt does not read the summaries before it. -/
theorem rejected_unsummarised (attempt : Attempt) (now : Nat) (response : Response)
    (attempts others : List AttemptSummary) (unreadable : Failure)
    (classified : ConsumedResponse → Failure) :
    (attempt.unsummarised.rejected state now response others unreadable classified).time =
        (attempt.rejected state now response attempts unreadable classified).time ∧
      (attempt.unsummarised.rejected state now response others unreadable classified).verdict =
        (attempt.rejected state now response attempts unreadable classified).verdict := by
  unfold rejected unsummarised
  dsimp only
  split
  · exact ⟨rfl, rfl⟩
  · exact ⟨rfl, rfl⟩

/-- Nor does the response to it. -/
theorem respond_unsummarised (attempt : Attempt) (wall : Int) (now : Nat) (response : Response) :
    (attempt.unsummarised.respond state libraries wall now response).time =
        (attempt.respond state libraries wall now response).time ∧
      (attempt.unsummarised.respond state libraries wall now response).verdict =
        (attempt.respond state libraries wall now response).verdict := by
  unfold respond
  dsimp only
  split
  · exact rejected_unsummarised ..
  · split
    · exact rejected_unsummarised ..
    · split
      · exact rejected_unsummarised ..
      · unfold unsummarised
        dsimp only
        split
        · exact ⟨rfl, rfl⟩
        · exact ⟨rfl, rfl⟩

/-- When an attempt ends and with what verdict does not depend on the summaries. -/
theorem conclude_unsummarised (attempt : Attempt) (wall : Int) (exchange : Exchange) :
    (attempt.unsummarised.conclude state libraries wall exchange).time =
        (attempt.conclude state libraries wall exchange).time ∧
      (attempt.unsummarised.conclude state libraries wall exchange).verdict =
        (attempt.conclude state libraries wall exchange).verdict := by
  unfold conclude
  have start : attempt.unsummarised.attemptStart = attempt.attemptStart := rfl
  cases exchange with
  | silent => exact ⟨rfl, rfl⟩
  | failed time =>
    by_cases inTime : time ≤ attempt.attemptStart + state.timeouts.upstreamHeader
    · simp only [start, if_pos inTime, and_self]
    · simp only [start, if_neg inTime, and_self]
  | responded time response =>
    by_cases inTime : time ≤ attempt.attemptStart + state.timeouts.upstreamHeader
    · simp only [start, if_pos inTime]
      exact respond_unsummarised ..
    · simp only [start, if_neg inTime, and_self]

end Attempt

namespace Setup

variable (setup : Setup) (proxy : Proxy)

/-- Nor does its end. -/
theorem concluded_disclosed (selection : Selection) (attemptStart : Nat) (wall : Int)
    (exchange : Exchange) :
    (setup.concluded proxy.disclosed selection attemptStart wall exchange).time =
        (setup.concluded proxy selection attemptStart wall exchange).time ∧
      (setup.concluded proxy.disclosed selection attemptStart wall exchange).verdict =
        (setup.concluded proxy selection attemptStart wall exchange).verdict :=
  Attempt.conclude_unsummarised (proxy.attempt selection attemptStart) wall exchange

/-- What is hidden disables no step. -/
theorem enabled_disclosed (action : ProxyAction) :
    setup.enabled proxy.disclosed action = setup.enabled proxy action := by
  have stage : proxy.disclosed.stage = proxy.stage.disclosed := rfl
  have clock : proxy.disclosed.system = proxy.system := rfl
  cases action with
  | other action => rfl
  | enter | choose | advance =>
    cases standing : proxy.stage <;> simp [enabled, stage, standing, Stage.disclosed]
  | conclude exchange wall jitter =>
    cases standing : proxy.stage with
    | sending selection attemptStart =>
      simp only [enabled, stage, standing, Stage.disclosed, clock,
        (concluded_disclosed setup proxy selection attemptStart wall exchange).1]
    | _ => simp only [enabled, stage, standing, Stage.disclosed]

/-- Nor does it change what the pool is told. -/
theorem poolAction_disclosed (action : ProxyAction) :
    setup.poolAction proxy.disclosed action = setup.poolAction proxy action := by
  have stage : proxy.disclosed.stage = proxy.stage.disclosed := rfl
  cases action with
  | choose =>
    have held : proxy.disclosed.lastResponse.isSome = proxy.lastResponse.isSome :=
      Option.isSome_map
    simp only [poolAction, choice, held]
  | conclude exchange wall jitter =>
    cases standing : proxy.stage with
    | sending selection attemptStart =>
      have model : proxy.disclosed.model = proxy.model := rfl
      simp only [poolAction, stage, standing, Stage.disclosed, model,
        (concluded_disclosed setup proxy selection attemptStart wall exchange).2]
    | _ => simp only [poolAction, stage, standing, Stage.disclosed]
  | _ => rfl

/-- Nor what the loop makes of the answer. -/
theorem answered_disclosed (system : System) (answer : Option AttemptResult) :
    (proxy.disclosed.answered system answer).disclosed =
      (proxy.answered system answer).disclosed := by
  rcases answer with _ | answer
  · simp [Proxy.answered, Proxy.disclosed, Stage.disclosed]
  · cases answer <;>
      simp [Proxy.answered, Proxy.disclosed, Stage.disclosed, FinalOutcome.disclosed]

/-- The loop after an attempt that lets it go on. -/
theorem follow_retry {proxy : Proxy} {selection : Selection} {attemptStart : Nat}
    {exchange : Exchange} {wall : Int} {report : Option Report} {saved : Option ConsumedResponse}
    (sending : proxy.stage = .sending selection attemptStart)
    (verdict : (setup.concluded proxy selection attemptStart wall exchange).verdict =
      .retry report saved) (system : System) (answer : Option AttemptResult)
    (jitter : Nat → Nat) :
    (setup.follow proxy system answer (.conclude exchange wall jitter)).disclosed =
      { proxy.disclosed with
        system := system
        stage := .choosing
        lastResponse :=
          (saved.map fun consumed => (consumed.disclosed, selection.fingerprint)).or
            proxy.disclosed.lastResponse } := by
  simp only [follow, sending, Proxy.settled, verdict, Proxy.disclosed, Stage.disclosed]
  cases saved with
  | none => simp
  | some consumed => simp [disclosedSaved]

/-- Nor any step of the loop. -/
theorem follow_disclosed (system : System) (answer : Option AttemptResult)
    (action : ProxyAction) :
    (setup.follow proxy.disclosed system answer action).disclosed =
      (setup.follow proxy system answer action).disclosed := by
  cases action with
  | other action => simp [follow, Proxy.disclosed]
  | enter model => simp [follow, Proxy.disclosed, Stage.disclosed]
  | choose | advance => exact answered_disclosed proxy system answer
  | conclude exchange wall jitter =>
    cases standing : proxy.stage with
    | sending selection attemptStart =>
      have stage : proxy.disclosed.stage = .sending selection attemptStart := by
        simp [Proxy.disclosed, standing, Stage.disclosed]
      have same := (concluded_disclosed setup proxy selection attemptStart wall exchange).2
      cases verdict : (setup.concluded proxy selection attemptStart wall exchange).verdict with
      | retry report saved =>
        rw [follow_retry setup standing verdict, follow_retry setup stage (same.trans verdict)]
        simp
      | forward prepared =>
        simp only [follow, standing, stage, Proxy.settled, same, verdict]
        simp [Proxy.disclosed, Stage.disclosed, FinalOutcome.disclosed]
    | _ =>
      simp [follow, standing, Proxy.disclosed, Stage.disclosed]

/-- A step of the loop commutes with forgetting the rest. -/
theorem perform_disclosed (action : ProxyAction) :
    (setup.perform proxy.disclosed action).map Proxy.disclosed =
      (setup.perform proxy action).map Proxy.disclosed := by
  have system : proxy.disclosed.system = proxy.system := rfl
  unfold perform
  rw [enabled_disclosed, poolAction_disclosed, system]
  split
  · split
    · rw [Option.map_some, Option.map_some, follow_disclosed]
    · rw [Option.map_map, Option.map_map]
      congr 1
      funext result
      exact follow_disclosed setup proxy result.1 result.2 action
  · rfl

end Setup

/-! ## So does the handler -/

namespace Handler

variable (handler : Handler) (handling : Handling)

/-- Whatever is recorded, the client gets the same answer. -/
theorem answer_disclosed (record other : AuditRecord) (response : ClientResponse) :
    ((handling.disclosed.record other).answer response).disclosed =
      ((handling.record record).answer response).disclosed := by
  simp [Handling.record, Handling.answer, Handling.disclosed]

/-- A check sees nothing that is hidden. -/
theorem checked_disclosed (progress : Progress) :
    (handler.checked handling.disclosed progress).disclosed =
      (handler.checked handling progress).disclosed := by
  cases progress with
  | rejected status => exact answer_disclosed ..
  | _ => simp [checked, Handling.disclosed]

/-- Nor does admission. -/
theorem admitted_disclosed (result : Except Queue.AdmissionError Unit) :
    (handler.admitted handling.disclosed result).disclosed =
      (handler.admitted handling result).disclosed := by
  cases result with
  | ok entered => simp [admitted, Handling.disclosed]
  | error refused => exact answer_disclosed ..

/-- Nor does the read of the body. -/
theorem bodyRead_disclosed (snapshot : RuntimeState) (identity : GatewayIdentity)
    (result : BodyRead) :
    (handler.bodyRead handling.disclosed snapshot identity result).disclosed =
      (handler.bodyRead handling snapshot identity result).disclosed := by
  cases result with
  | complete body => simp [bodyRead, Handling.disclosed]
  | _ => exact answer_disclosed ..

/-- A step of the loop inside a step of the handler. -/
theorem map_disclosed {left right : Option Proxy} {build rebuild : Proxy → Handling}
    (same : left.map Proxy.disclosed = right.map Proxy.disclosed)
    (built : ∀ proxy other, proxy.disclosed = other.disclosed →
      (build proxy).disclosed = (rebuild other).disclosed) :
    (left.map build).map Handling.disclosed = (right.map rebuild).map Handling.disclosed := by
  cases left with
  | none =>
    cases right with
    | none => rfl
    | some other => cases same
  | some proxy =>
    cases right with
    | none => cases same
    | some other => exact congrArg some (built proxy other (Option.some.inj same))

/-- Nor does the look at it. -/
theorem looked_disclosed (snapshot : RuntimeState) (identity : GatewayIdentity)
    (body : List UInt8) :
    (handler.looked handling.disclosed snapshot identity body).map Handling.disclosed =
      (handler.looked handling snapshot identity body).map Handling.disclosed := by
  unfold looked
  split
  · exact congrArg some (answer_disclosed ..)
  · split
    · refine map_disclosed (Setup.perform_disclosed ..) ?_
      intro proxy other same
      simp [Handling.disclosed, same]
    · exact congrArg some (answer_disclosed ..)

/-- Nor does the test whether a request can be built. -/
theorem sendable_disclosed (snapshot : RuntimeState) (identity : GatewayIdentity)
    (body : List UInt8) (proxy : Proxy) (action : ProxyAction) :
    handler.sendable snapshot identity body proxy.disclosed action =
      handler.sendable snapshot identity body proxy action := by
  have stage : proxy.disclosed.stage = proxy.stage.disclosed := rfl
  cases action with
  | conclude exchange wall jitter =>
    cases standing : proxy.stage <;> simp only [sendable, stage, standing, Stage.disclosed]
  | _ => rfl

/-- Every outcome of the loop is answered by its disclosed part. -/
theorem finalized_disclosed (slotFree : Bool) (outcome : FinalOutcome) :
    (handler.finalized handling.disclosed slotFree outcome.disclosed).disclosed =
      (handler.finalized handling slotFree outcome).disclosed := by
  cases outcome with
  | unavailable retryAfter => exact answer_disclosed ..
  | lastResponse saved =>
    cases saved with
    | none => exact answer_disclosed ..
    | some response =>
      simp only [FinalOutcome.disclosed, Option.map_some, disclosedSaved, finalized,
        finalizeConsumedError, sanitizedError_disclosed]
      exact answer_disclosed ..
  | forward prepared fingerprint selection attemptStart =>
    have clock : handling.disclosed.proxy.system = handling.proxy.system := rfl
    simp only [FinalOutcome.disclosed, finalized, finalizeResponse]
    split
    · exact answer_disclosed ..
    · simp [Handling.disclosed, Proxy.disclosed]

/-- Nor does the end of a stream. -/
theorem pumped_disclosed {proxy other : Proxy} (same : proxy.disclosed = other.disclosed)
    (prepared : PreparedResponse) (fingerprint : String) (ended : Pumping) (result : PumpResult) :
    (handler.pumped handling.disclosed proxy prepared fingerprint ended result).disclosed =
      (handler.pumped handling other prepared fingerprint ended result).disclosed := by
  simp [pumped, Handling.record, Handling.disclosed, same]

/-- Nor does the stream. -/
theorem streamedTo_disclosed (prepared : PreparedResponse) (fingerprint : String)
    (selection : Selection) (attemptStart spawned : Nat) (client : List ClientTurn)
    (jitter : Nat → Nat) :
    (handler.streamedTo handling.disclosed prepared fingerprint selection attemptStart spawned
        client jitter).map Handling.disclosed =
      (handler.streamedTo handling prepared fingerprint selection attemptStart spawned client
        jitter).map Handling.disclosed := by
  have stream : handler.streamEnd handling.disclosed prepared attemptStart spawned client =
      handler.streamEnd handling prepared attemptStart spawned client := rfl
  have clock : handling.disclosed.proxy.system = handling.proxy.system := rfl
  have model : handling.disclosed.proxy.model = handling.proxy.model := rfl
  unfold streamedTo
  rw [stream, clock, model]
  split
  · rfl
  · split
    · split
      · refine congrArg some (pumped_disclosed handler handling ?_ _ _ _ _)
        simp [Handling.disclosed]
      · refine map_disclosed (Setup.perform_disclosed ..) ?_
        intro proxy other same
        exact pumped_disclosed handler handling same _ _ _ _
    · rfl

/-- Nor does a client that goes away. -/
theorem awaits_disclosed : awaits handling.disclosed = awaits handling := by
  have station : handling.disclosed.station = handling.station := rfl
  have stage : handling.disclosed.proxy.stage = handling.proxy.stage.disclosed := rfl
  unfold awaits
  rw [station, stage]
  cases handling.proxy.stage <;> rfl

/-- A step of the handler commutes with forgetting the rest. -/
theorem perform_disclosed (action : HandlerAction) :
    (handler.perform handling.disclosed action).map Handling.disclosed =
      (handler.perform handling action).map Handling.disclosed := by
  have station : handling.disclosed.station = handling.station := rfl
  have runtime : handling.disclosed.runtime = handling.runtime := rfl
  have system : handling.disclosed.proxy.system = handling.proxy.system := rfl
  have stage : handling.disclosed.proxy.stage = handling.proxy.stage.disclosed := rfl
  cases action with
  | check | recheck =>
    simp only [perform, station, runtime]
    split
    · exact congrArg some (checked_disclosed ..)
    · rfl
  | admission result =>
    simp only [perform, station]
    split
    · exact congrArg some (admitted_disclosed ..)
    · rfl
  | serve =>
    simp only [perform, station, runtime, system]
    split
    · split
      · refine map_disclosed (Setup.perform_disclosed ..) ?_
        intro proxy other same
        simp [Handling.disclosed, same]
      · rfl
    · rfl
  | read result =>
    simp only [perform, station]
    split
    · rw [show handling.disclosed.proxy.system.clock = handling.proxy.system.clock from rfl]
      split
      · rfl
      · exact congrArg some (bodyRead_disclosed ..)
    · rfl
  | look =>
    simp only [perform, station]
    split
    · exact looked_disclosed ..
    · rfl
  | attempt action =>
    have sendable (snapshot : RuntimeState) (identity : GatewayIdentity) (body : List UInt8) :
        handler.sendable snapshot identity body handling.disclosed.proxy action =
          handler.sendable snapshot identity body handling.proxy action :=
      sendable_disclosed handler snapshot identity body handling.proxy action
    simp only [perform, station, sendable]
    split
    · split
      · refine map_disclosed (Setup.perform_disclosed ..) ?_
        intro proxy other same
        simp [Handling.disclosed, same]
      · rfl
    · rfl
  | finalize slotFree =>
    simp only [perform, station, stage]
    cases handling.station with
    | attempting snapshot identity body =>
      cases handling.proxy.stage with
      | finished outcome => exact congrArg some (finalized_disclosed ..)
      | _ => rfl
    | _ => rfl
  | pump client jitter =>
    simp only [perform, station]
    split
    · exact streamedTo_disclosed ..
    · rfl
  | cancel =>
    simp only [perform, awaits_disclosed]
    split
    · simp [Handling.disclosed]
    · rfl
  | other action =>
    refine map_disclosed (Setup.perform_disclosed ..) ?_
    intro proxy other same
    simp [Handling.disclosed, same]
  | update | setWall => simp [perform, Handling.disclosed]
  | updateWithKeys keys state =>
    refine map_disclosed (Setup.perform_disclosed ..) ?_
    intro proxy other same
    simp only [Handling.disclosed, same]
    rfl

end Handler

/-! ## Agreeing responses -/

/-- The Retry-After of a response, as it is parsed. -/
def Response.retryAfter (libraries : Libraries) (wall : Int) (response : Response) : Option Nat :=
  (response.headers.get "retry-after").bind fun value =>
    parseRetryAfter libraries.parseHttpDate value wall

/-- What the bounded read of an error body leaves, if it comes to an end. -/
def Attempt.errorRead (state : GatewayState) (attempt : Attempt) (now : Nat) (response : Response) :
    Option ConsumedResponse :=
  (consumeClassifyBody response state.timeouts.upstreamErrorBody attempt.attemptStart
    attempt.requestStart now).result

/-- Two retryable responses to one attempt agree on all that the gateway is meant to use of
them. They may differ in their bodies, in all headers but Connection and Retry-After, and in
the text of a Retry-After that cannot be parsed. -/
structure Agrees (setup : Setup) (attempt : Attempt) (now : Nat) (wall : Int)
    (left right : Response) : Prop where
  status : left.status = right.status
  retryable : Attempt.retryable left.status = true
  read : (attempt.errorRead setup.gateway now left).isSome =
    (attempt.errorRead setup.gateway now right).isSome
  classified : left.status = 429 →
    (attempt.errorRead setup.gateway now left).map (fun consumed =>
        classifyErrorBody setup.libraries.reading.parseJson consumed.body) =
      (attempt.errorRead setup.gateway now right).map (fun consumed =>
        classifyErrorBody setup.libraries.reading.parseJson consumed.body)
  parsed : left.retryAfter setup.libraries wall = right.retryAfter setup.libraries wall
  text : (left.retryAfter setup.libraries wall).isSome →
    left.headers.get "retry-after" = right.headers.get "retry-after"
  connection : left.headers.getAll "connection" = right.headers.getAll "connection"

/-- The Retry-After of a 429 is absent, withheld by the Connection header, or valid. -/
def Validated (libraries : Libraries) (wall : Int) (response : Response) : Prop :=
  response.status = 429 →
    response.headers.get "retry-after" = none ∨
      "retry-after".toList ∈ connectionNamedHeaders response.headers ∨
      (response.retryAfter libraries wall).isSome

/-- The read of an error body leaves the head as it is. -/
theorem consumeLoop_head {attemptStart requestStart deadline now : Nat}
    {read consumed : ConsumedResponse} {buffered : List UInt8} {body : Body}
    (done : (consumeLoop attemptStart requestStart deadline read buffered now body).result =
      some consumed) : consumed.status = read.status ∧ consumed.headers = read.headers := by
  induction body generalizing read buffered now with
  | nil => cases done
  | cons arrival rest inductionHypothesis =>
    unfold consumeLoop at done
    split at done
    · dsimp only at done
      split at done
      · cases done
      · cases done
        exact ⟨rfl, rfl⟩
      · split at done
        · have kept := inductionHypothesis done
          exact kept
        · cases done
          exact ⟨rfl, rfl⟩
    · cases done

/-- What is saved of a response has its status and its filtered headers. -/
theorem errorRead_head {state : GatewayState} {attempt : Attempt} {now : Nat} {response : Response}
    {consumed : ConsumedResponse} (done : attempt.errorRead state now response = some consumed) :
    consumed.status = response.status ∧
      consumed.headers = filterResponseHeaders response.headers :=
  consumeLoop_head done

/-- The filter withholds a Retry-After only if the Connection header names it. -/
theorem filterResponseHeaders_retryAfter (headers : HeaderMap) :
    HeaderMap.get (filterResponseHeaders headers) "retry-after" =
      if "retry-after".toList ∈ connectionNamedHeaders headers then none
      else headers.get "retry-after" := by
  have passing : Forwardable headers "retry-after" ↔
      "retry-after".toList ∉ connectionNamedHeaders headers :=
    forwardable_iff (by decide) (by decide) (by decide)
  rw [HeaderMap.get_eq_head, filterResponseHeaders_getAll]
  by_cases named : "retry-after".toList ∈ connectionNamedHeaders headers
  · rw [if_pos named, if_neg fun passes => passing.mp passes named]
    rfl
  · rw [if_neg named, if_pos (passing.mpr named), HeaderMap.get_eq_head]

/-- Verdicts that make the same report and save responses with one disclosed part. -/
def Twins (left right : Verdict) : Prop :=
  ∃ report saved kept, left = .retry (some report) saved ∧ right = .retry (some report) kept ∧
    saved.map ConsumedResponse.disclosed = kept.map ConsumedResponse.disclosed

namespace Attempt

variable {setup : Setup} {attempt : Attempt} {now time : Nat} {wall : Int} {left right : Response}

/-- Valid responses that agree have one disclosed part. -/
theorem disclosed_agree (agrees : Agrees setup attempt now wall left right)
    (valid : Validated setup.libraries wall left) (validated : Validated setup.libraries wall right)
    {saved kept : ConsumedResponse}
    (read : attempt.errorRead setup.gateway now left = some saved)
    (reread : attempt.errorRead setup.gateway now right = some kept) :
    saved.disclosed = kept.disclosed := by
  obtain ⟨status, headers⟩ := errorRead_head read
  obtain ⟨other, others⟩ := errorRead_head reread
  have equal : saved.status = kept.status := status.trans (agrees.status.trans other.symm)
  have named : connectionNamedHeaders left.headers = connectionNamedHeaders right.headers := by
    rw [connectionNamedHeaders, connectionNamedHeaders, agrees.connection]
  by_cases limited : saved.status = 429
  · have copied : saved.headers.get "retry-after" = kept.headers.get "retry-after" := by
      rw [headers, others, filterResponseHeaders_retryAfter, filterResponseHeaders_retryAfter,
        named]
      split
      · rfl
      · rename_i unnamed
        -- A text that is shown is one that was parsed, and then both are the same.
        rcases valid (status.symm.trans limited) with absent | listed | parsed
        · rcases validated (other.symm.trans (equal.symm.trans limited)) with none | listed | parsed
          · rw [absent, none]
          · exact absurd listed unnamed
          · refine agrees.text ?_
            rw [agrees.parsed]
            exact parsed
        · rw [named] at listed
          exact absurd listed unnamed
        · exact agrees.text parsed
    unfold ConsumedResponse.disclosed
    rw [equal, copied]
  · have unlimited : ¬ kept.status = 429 := fun same => limited (equal.trans same)
    unfold ConsumedResponse.disclosed
    rw [if_neg limited, if_neg unlimited, equal]

/-- Attempts that are rejected for agreeing responses are twins. -/
theorem rejected_agree (agrees : Agrees setup attempt now wall left right)
    (valid : Validated setup.libraries wall left) (validated : Validated setup.libraries wall right)
    {attempts others : List AttemptSummary} {unreadable : Failure}
    {classified reclassified : ConsumedResponse → Failure}
    (same : ∀ saved kept, attempt.errorRead setup.gateway now left = some saved →
      attempt.errorRead setup.gateway now right = some kept →
        classified saved = reclassified kept) :
    Twins (attempt.rejected setup.gateway now left attempts unreadable classified).verdict
      (attempt.rejected setup.gateway now right others unreadable reclassified).verdict := by
  have read := agrees.read
  have disclosed := @disclosed_agree _ _ _ _ _ _ agrees valid validated
  unfold errorRead at read disclosed same
  unfold rejected
  generalize consumeClassifyBody left setup.gateway.timeouts.upstreamErrorBody attempt.attemptStart
    attempt.requestStart now = first at read disclosed same ⊢
  generalize consumeClassifyBody right setup.gateway.timeouts.upstreamErrorBody attempt.attemptStart
    attempt.requestStart now = second at read disclosed same ⊢
  obtain ⟨_, _, _ | saved⟩ := first
  · obtain ⟨_, _, _ | kept⟩ := second
    · exact ⟨_, none, none, rfl, rfl, rfl⟩
    · cases read
  · obtain ⟨_, _, _ | kept⟩ := second
    · cases read
    · refine ⟨_, some saved, some kept, rfl, ?_, congrArg some (disclosed rfl rfl)⟩
      dsimp only
      rw [same saved kept rfl rfl]

/-- Agreeing responses make the same report. -/
theorem respond_agree (agrees : Agrees setup attempt now wall left right)
    (valid : Validated setup.libraries wall left)
    (validated : Validated setup.libraries wall right) :
    Twins (attempt.respond setup.gateway setup.libraries wall now left).verdict
      (attempt.respond setup.gateway setup.libraries wall now right).verdict := by
  have parsed := agrees.parsed
  unfold Response.retryAfter at parsed
  unfold respond
  dsimp only
  rw [← agrees.status, parsed]
  split
  · rename_i limited
    refine rejected_agree agrees valid validated ?_
    intro saved kept read reread
    have classified := agrees.classified limited
    rw [read, reread, Option.map_some, Option.map_some] at classified
    unfold rateLimitFailure
    rw [Option.some.inj classified]
  · rename_i unlimited
    split
    · exact rejected_agree agrees valid validated fun _ _ _ _ => rfl
    · rename_i authorised
      split
      · exact rejected_agree agrees valid validated fun _ _ _ _ => rfl
      · rename_i healthy
        have refused := agrees.retryable
        simp [retryable, unlimited, authorised, healthy] at refused

/-- So does an attempt, in time or not. -/
theorem conclude_agree
    (agrees : Agrees setup attempt (max attempt.attemptStart time) wall left right)
    (valid : Validated setup.libraries wall left)
    (validated : Validated setup.libraries wall right) :
    Twins (attempt.conclude setup.gateway setup.libraries wall (.responded time left)).verdict
      (attempt.conclude setup.gateway setup.libraries wall (.responded time right)).verdict := by
  unfold conclude
  dsimp only
  split
  · exact respond_agree agrees valid validated
  · exact ⟨_, none, none, rfl, rfl, rfl⟩

end Attempt

namespace Setup

variable {setup : Setup} {left right after other : Proxy} {time : Nat} {wall : Int}
  {response counter : Response} {jitter : Nat → Nat} {selection : Selection} {attemptStart : Nat}

/-- Only an attempt in flight ends. -/
theorem conclude_sending {exchange : Exchange}
    (stepped : setup.Step left (.conclude exchange wall jitter) after) :
    ∃ selection attemptStart, left.stage = .sending selection attemptStart := by
  have turns := step_turns stepped
  cases turns with
  | retried sending | forwarded sending => exact ⟨_, _, sending⟩

/-- Two loops with one disclosed part keep it when their attempts end with responses that
agree. -/
theorem conclude_twins (related : left.disclosed = right.disclosed)
    (sending : left.stage = .sending selection attemptStart)
    (agrees : Agrees setup (left.attempt selection attemptStart) (max attemptStart time) wall
      response counter)
    (valid : Validated setup.libraries wall response)
    (validated : Validated setup.libraries wall counter)
    (stepped : setup.Step left (.conclude (.responded time response) wall jitter) after)
    (mirrored : setup.Step right (.conclude (.responded time counter) wall jitter) other) :
    after.disclosed = other.disclosed := by
  have stage : right.stage = .sending selection attemptStart := by
    have same : left.stage.disclosed = right.stage.disclosed := congrArg Proxy.stage related
    rw [sending] at same
    cases standing : right.stage <;> rw [standing] at same <;> cases same
    rfl
  have system : left.disclosed.system = right.disclosed.system := congrArg Proxy.system related
  have model : left.disclosed.model = right.disclosed.model := congrArg Proxy.model related
  change left.system = right.system at system
  change left.model = right.model at model
  obtain ⟨report, saved, kept, verdict, mirror, same⟩ :=
    Attempt.conclude_agree agrees valid validated
  have reverdict : (setup.concluded right selection attemptStart wall
      (.responded time counter)).verdict = .retry (some report) kept := by
    rw [← (concluded_disclosed setup right selection attemptStart wall _).2, ← related,
      (concluded_disclosed setup left selection attemptStart wall _).2]
    exact mirror
  have verdict : (setup.concluded left selection attemptStart wall
      (.responded time response)).verdict = .retry (some report) saved := verdict
  have calls : setup.poolAction left (.conclude (.responded time response) wall jitter) =
      some (report.action selection left.model jitter) := by
    simp only [poolAction, sending, verdict, Verdict.report, Option.map_some]
  have recalls : setup.poolAction right (.conclude (.responded time counter) wall jitter) =
      some (report.action selection right.model jitter) := by
    simp only [poolAction, stage, reverdict, Verdict.report, Option.map_some]
  obtain ⟨reached, answer, performed, rfl⟩ := perform_call stepped calls
  obtain ⟨rereached, reanswer, reperformed, rfl⟩ := perform_call mirrored recalls
  rw [← system, ← model, performed] at reperformed
  cases reperformed
  have retained : (saved.map fun consumed => (consumed.disclosed, selection.fingerprint)) =
      kept.map fun consumed => (consumed.disclosed, selection.fingerprint) := by
    have tagged := congrArg (Option.map fun shown => (shown, selection.fingerprint)) same
    rw [Option.map_map, Option.map_map] at tagged
    exact tagged
  rw [follow_retry setup sending verdict, follow_retry setup stage reverdict, related, retained]

end Setup

/-! ## Two runs -/

namespace Handler

variable {handler : Handler} {first left right : Handling}
  {trace mirror : List (Runs.Transition Handling HandlerAction)}

/-- Two steps of the two runs: the same one, or the ends of an attempt with retryable
responses that agree. -/
inductive Alike (handler : Handler) (taken counter : Runs.Transition Handling HandlerAction) : Prop
  | same (label : taken.label = counter.label)
  | rejected {time : Nat} {response other : Response} {wall : Int} {jitter : Nat → Nat}
      (label : taken.label = .attempt (.conclude (.responded time response) wall jitter))
      (relabel : counter.label = .attempt (.conclude (.responded time other) wall jitter))
      (agrees : ∀ selection attemptStart,
        taken.before.proxy.stage = .sending selection attemptStart →
          Agrees handler.setup (taken.before.proxy.attempt selection attemptStart)
            (max attemptStart time) wall response other)

/-- Every 429 that an attempt of the run ends with has a Retry-After that may be shown. -/
def AllValidated (handler : Handler) (trace : List (Runs.Transition Handling HandlerAction)) :
    Prop :=
  ∀ taken ∈ trace, ∀ time response wall jitter,
    taken.label = .attempt (.conclude (.responded time response) wall jitter) →
      Validated handler.setup.libraries wall response

/-- The inversion of a step inside the loop. -/
theorem attempt_inv {before after : Handling} {action : ProxyAction}
    (stepped : handler.Step before (.attempt action) after) :
    handler.setup.Step before.proxy action after.proxy ∧
      after = { before with proxy := after.proxy } := by
  simp only [Step, perform] at stepped
  split at stepped
  · split at stepped
    · obtain ⟨proxy, performed, rfl⟩ := Option.map_eq_some_iff.mp stepped
      exact ⟨performed, rfl⟩
    · cases stepped
  · cases stepped

/-- The same step keeps a disclosed part. -/
theorem step_same {before after other final : Handling} {action : HandlerAction}
    (related : before.disclosed = other.disclosed) (stepped : handler.Step before action after)
    (mirrored : handler.Step other action final) : after.disclosed = final.disclosed := by
  have own := perform_disclosed handler before action
  have counter := perform_disclosed handler other action
  rw [related, counter, mirrored, stepped] at own
  exact (Option.some.inj own).symm

/-- Steps that are alike lead to handlers that are alike. -/
theorem step_alike {taken counter : Runs.Transition Handling HandlerAction}
    (alike : Alike handler taken counter)
    (valid : ∀ time response wall jitter,
      taken.label = .attempt (.conclude (.responded time response) wall jitter) →
        Validated handler.setup.libraries wall response)
    (validated : ∀ time response wall jitter,
      counter.label = .attempt (.conclude (.responded time response) wall jitter) →
        Validated handler.setup.libraries wall response)
    (stepped : handler.Step taken.before taken.label taken.after)
    (mirrored : handler.Step counter.before counter.label counter.after)
    (related : taken.before.disclosed = counter.before.disclosed) :
    taken.after.disclosed = counter.after.disclosed := by
  cases alike with
  | same label =>
    rw [← label] at mirrored
    exact step_same related stepped mirrored
  | rejected label relabel agrees =>
    rw [label] at stepped
    rw [relabel] at mirrored
    obtain ⟨looped, settled⟩ := attempt_inv stepped
    obtain ⟨relooped, resettled⟩ := attempt_inv mirrored
    obtain ⟨selection, attemptStart, sending⟩ := Setup.conclude_sending looped
    have proxies : taken.after.proxy.disclosed = counter.after.proxy.disclosed :=
      Setup.conclude_twins (congrArg Handling.proxy related) sending
        (agrees selection attemptStart sending) (valid _ _ _ _ label) (validated _ _ _ _ relabel)
        looped relooped
    rw [settled, resettled]
    unfold Handling.disclosed at related ⊢
    simp only [Handling.mk.injEq] at related ⊢
    exact ⟨proxies, related.2⟩

/-- An upstream error discloses its status and a valid Retry-After. Two runs from one state
that differ only in retryable responses, which agree on their status, on how the read of
their bodies ends, on their classification and on the parsed Retry-After, leave the client
with the same answer, provided that no 429 of theirs has a Retry-After that is neither valid
nor withheld.

Proof: step by step, the two runs agree on all that is disclosed. -/
theorem errors_sanitized (run : Runs.Run handler.Step first trace left)
    (rerun : Runs.Run handler.Step first mirror right)
    (alike : List.Forall₂ (Alike handler) trace mirror)
    (valid : AllValidated handler trace) (validated : AllValidated handler mirror) :
    left.station = right.station := by
  have related : left.disclosed = right.disclosed :=
    run.related rerun alike (fun before other => before.disclosed = other.disclosed) rfl
      fun taken member counter inside pair stepped mirrored =>
        step_alike pair (valid taken member) (validated counter inside) stepped mirrored
  have stations := congrArg Handling.station related
  exact stations

/-- A 429 with this Retry-After and with a detail in another header and in its body. -/
def limited (retryAfter detail : String) : Response where
  status := 429
  headers :=
    [("retry-after".toList, Text.asBytes retryAfter.toList),
      ("x-detail".toList, Text.asBytes detail.toList)]
  body := [⟨1, .chunk (Text.asBytes detail.toList)⟩, ⟨2, .ended⟩]

/-- The first key answers with a 429 that is returned, as the second does not answer. -/
def limitedAnswer (response : Response) : List HandlerAction :=
  (sampleEntry ++ [.attempt .choose, .attempt .advance, .other (.tick 2)]) ++
    .attempt (.conclude (.responded 1 response) 0 id) ::
      [.attempt .choose, .other (.tick 10), .attempt (.conclude .silent 0 id), .attempt .choose,
        .finalize true]

/-- The answer of a run that takes these steps. -/
def sampleAnswer (actions : List HandlerAction) : Option ClientResponse :=
  match (Runs.reached sampleHandler.perform sampleHandling actions).station with
  | .answered response => some response
  | _ => none

/-- The status and the Retry-After of such an answer. -/
def sampleHead (actions : List HandlerAction) : Option (Nat × Option (List UInt8)) :=
  (sampleAnswer actions).map fun response =>
    (response.status, response.headers.get "retry-after")

/-- The body of such a 429 is read to its end, whenever the read starts. -/
theorem limited_read {retryAfter detail : String}
    (small : (Text.asBytes detail.toList).length ≤ errorClassifyCap) (attempt : Attempt)
    (now : Nat) :
    (attempt.errorRead sampleHandler.setup.gateway now (limited retryAfter detail)).map
      ConsumedResponse.body = some (.buffered (Text.asBytes detail.toList)) := by
  have bound : sampleHandler.setup.gateway.timeouts.upstreamErrorBody = 10 := rfl
  simp [Attempt.errorRead, consumeClassifyBody, limited, consumeLoop, Arrival.inTime, bound, small]

/-- Two such responses agree if they are classified alike and their Retry-After agree. -/
theorem limited_agrees {text retext detail other : String}
    (small : (Text.asBytes detail.toList).length ≤ errorClassifyCap)
    (fits : (Text.asBytes other.toList).length ≤ errorClassifyCap)
    (classified : classifyErrorBody sampleHandler.setup.libraries.reading.parseJson
        (.buffered (Text.asBytes detail.toList)) =
      classifyErrorBody sampleHandler.setup.libraries.reading.parseJson
        (.buffered (Text.asBytes other.toList)))
    (parsed : (limited text detail).retryAfter sampleHandler.setup.libraries 0 =
      (limited retext other).retryAfter sampleHandler.setup.libraries 0)
    (same : ((limited text detail).retryAfter sampleHandler.setup.libraries 0).isSome →
      text = retext) (attempt : Attempt) (now : Nat) :
    Agrees sampleHandler.setup attempt now 0 (limited text detail) (limited retext other) := by
  obtain ⟨saved, read, body⟩ := Option.map_eq_some_iff.mp
    (@limited_read text detail small attempt now)
  obtain ⟨kept, reread, rebody⟩ := Option.map_eq_some_iff.mp
    (@limited_read retext other fits attempt now)
  refine ⟨rfl, rfl, ?_, ?_, parsed, ?_, ?_⟩
  · rw [read, reread]
    rfl
  · intro _
    rw [read, reread, Option.map_some, Option.map_some, body, rebody, classified]
  · intro valid
    rw [same valid]
    simp [limited, HeaderMap.get]
  · simp [limited, HeaderMap.getAll]

/-- Runs that differ in such a response only are alike. -/
theorem limited_alike {response other : Response}
    (agrees : ∀ attempt now, Agrees sampleHandler.setup attempt now 0 response other)
    (enabled : (Runs.record sampleHandler.perform sampleHandling (limitedAnswer response)).isSome)
    (reenabled : (Runs.record sampleHandler.perform sampleHandling (limitedAnswer other)).isSome) :
    List.Forall₂ (Alike sampleHandler)
      (Runs.steps sampleHandler.perform sampleHandling (limitedAnswer response))
      (Runs.steps sampleHandler.perform sampleHandling (limitedAnswer other)) := by
  let Pair (label counter : HandlerAction) : Prop :=
    label = counter ∨ label = .attempt (.conclude (.responded 1 response) 0 id) ∧
      counter = .attempt (.conclude (.responded 1 other) 0 id)
  have pairs : List.Forall₂ Pair (limitedAnswer response) (limitedAnswer other) := by
    refine List.rel_append (List.forall₂_same.mpr fun _ _ => .inl rfl) ?_
    exact .cons (.inr ⟨rfl, rfl⟩) (List.forall₂_same.mpr fun _ _ => .inl rfl)
  refine (Runs.steps_pairs pairs enabled reenabled).imp ?_
  rintro taken counter (same | ⟨label, relabel⟩)
  · exact .same same
  · exact .rejected label relabel fun _ _ _ => agrees _ _

/-- Every 429 of such a run is the one that it returns. -/
theorem limited_validated {response : Response}
    (valid : Validated sampleHandler.setup.libraries 0 response) :
    AllValidated sampleHandler
      (Runs.steps sampleHandler.perform sampleHandling (limitedAnswer response)) := by
  intro taken member time ended wall jitter label
  have listed : taken.label ∈ limitedAnswer response := Runs.steps_label member
  rw [label] at listed
  obtain ⟨⟨_, rfl⟩, rfl, _⟩ : (time = 1 ∧ ended = response) ∧ wall = 0 ∧ jitter = id := by
    simpa [limitedAnswer, sampleEntry] using listed
  exact valid

/-- The details of a 429 with a valid Retry-After stay hidden. -/
theorem errors_sanitized_limited :
    sampleHead (limitedAnswer (limited "5" "one")) = some (429, some (Text.asBytes "5".toList)) ∧
      sampleAnswer (limitedAnswer (limited "5" "one")) =
        sampleAnswer (limitedAnswer (limited "5" "two")) := by
  have enabled : (Runs.record sampleHandler.perform sampleHandling
      (limitedAnswer (limited "5" "one"))).isSome := by decide +kernel
  have reenabled : (Runs.record sampleHandler.perform sampleHandling
      (limitedAnswer (limited "5" "two"))).isSome := by decide +kernel
  have agrees := @limited_agrees "5" "5" "one" "two" (by decide +kernel) (by decide +kernel)
    (by decide +kernel) (by decide +kernel) (fun _ => rfl)
  have stations := errors_sanitized (Runs.replay_run enabled) (Runs.replay_run reenabled)
    (limited_alike agrees enabled reenabled)
    (limited_validated fun _ => .inr (.inr (by decide +kernel)))
    (limited_validated fun _ => .inr (.inr (by decide +kernel)))
  refine ⟨by decide +kernel, ?_⟩
  unfold sampleAnswer
  rw [stations]

/-- A Retry-After that cannot be parsed reaches the client as it came. -/
theorem raw_retry_after_disclosed :
    let first := limitedAnswer (limited "x" "d")
    let second := limitedAnswer (limited "y" "d")
    Runs.Run sampleHandler.Step sampleHandling
        (Runs.steps sampleHandler.perform sampleHandling first)
        (Runs.reached sampleHandler.perform sampleHandling first) ∧
      Runs.Run sampleHandler.Step sampleHandling
        (Runs.steps sampleHandler.perform sampleHandling second)
        (Runs.reached sampleHandler.perform sampleHandling second) ∧
      List.Forall₂ (Alike sampleHandler) (Runs.steps sampleHandler.perform sampleHandling first)
        (Runs.steps sampleHandler.perform sampleHandling second) ∧
      sampleHead first = some (429, some (Text.asBytes "x".toList)) ∧
      sampleHead second = some (429, some (Text.asBytes "y".toList)) := by
  have enabled : (Runs.record sampleHandler.perform sampleHandling
      (limitedAnswer (limited "x" "d"))).isSome := by decide +kernel
  have reenabled : (Runs.record sampleHandler.perform sampleHandling
      (limitedAnswer (limited "y" "d"))).isSome := by decide +kernel
  have agrees := @limited_agrees "x" "y" "d" "d" (by decide +kernel) (by decide +kernel) rfl
    (by decide +kernel) (by decide +kernel)
  exact ⟨Runs.replay_run enabled, Runs.replay_run reenabled, limited_alike agrees enabled reenabled,
    by decide +kernel, by decide +kernel⟩

end Handler

end Orihsus.Gateway
