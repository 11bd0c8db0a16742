import Orihsus.FailoverRuns

/-!
# Streaming a committed response

`pump_upstream` of `src/gateway.rs` sends the prefetched chunks of a committed
response to the client and then every chunk as it arrives, while a parser on the
side looks for token usage. It gives up on a client that does not take a chunk in
time, and the task around it drops it at whatever it awaits when the client goes
away. A send that is dropped has not happened.

The client is a script with one entry for each time the pump awaits something; a
client with no entries left takes every chunk at once.
-/

namespace Orihsus.Gateway

open Pool (Selection System)

/-! ## The parsers on the side -/

/-- `JSON_USAGE_CAP`. -/
def jsonUsageCap : Nat := 64 * 1024

structure JsonUsageParser where
  buf : List UInt8
  cap : Nat
  overflowed : Bool
  deriving DecidableEq, Repr

namespace JsonUsageParser

def new (cap : Nat) : JsonUsageParser where
  buf := []
  cap := cap
  overflowed := false

/-- `JsonUsageParser::push`. A body that outgrows the cap is forgotten. -/
def push (parser : JsonUsageParser) (chunk : List UInt8) : JsonUsageParser :=
  if parser.overflowed then parser
  else if chunk.length ≤ parser.cap - parser.buf.length then
    { parser with buf := parser.buf ++ chunk }
  else { parser with buf := [], overflowed := true }

def usage (reading : Reading) (parser : JsonUsageParser) : Option RequestUsage :=
  if parser.overflowed then none else extractUsage reading.parseJson parser.buf

end JsonUsageParser

inductive StreamUsageParser where
  | sse (parser : SseUsageParser)
  | json (parser : JsonUsageParser)
  deriving DecidableEq, Repr

namespace StreamUsageParser

/-- `StreamUsageParser::push`, with the number of completed events. -/
def push (reading : Reading) : StreamUsageParser → List UInt8 → StreamUsageParser × Nat
  | .sse parser, chunk => ((parser.push reading chunk).1 |> .sse, (parser.push reading chunk).2)
  | .json parser, chunk => (.json (parser.push chunk), 0)

def usage (reading : Reading) : StreamUsageParser → Option RequestUsage
  | .sse parser => parser.usage
  | .json parser => parser.usage reading

end StreamUsageParser

/-! ## The pump -/

inductive PumpOutcome where
  | completed
  | upstreamError
  | clientCancel
  | eventIdleTimeout
  deriving DecidableEq, Repr

structure PumpMetrics where
  firstByteLatency : Option Nat
  firstEventLatency : Option Nat
  upstreamBytes : Nat
  upstreamChunks : Nat
  upstreamEvents : Nat
  lastActivityOffset : Option Nat
  deriving DecidableEq, Repr

structure PumpResult where
  outcome : PumpOutcome
  metrics : PumpMetrics
  deriving DecidableEq, Repr

/-- `PumpResult::cancelled`: the pump was dropped, and its metrics with it. -/
def PumpResult.cancelled : PumpResult where
  outcome := .clientCancel
  metrics := ⟨none, none, 0, 0, 0, none⟩

structure PumpPlan where
  idle : Option Nat
  writeBudget : Nat
  attemptStart : Nat
  requestStart : Nat
  prefetched : List (List UInt8)
  initialFirstByteLatency : Option Nat
  initialFirstEventLatency : Option Nat
  streaming : Bool
  deriving DecidableEq, Repr

/-- What the client does while the pump awaits something: it takes an offered chunk
after a delay, never takes it, or goes away. The `select!` of the task polls its branches in
no fixed order, so a client that goes away is noticed in one of two ways: `gone` if the task
hears of it first and drops the pump, `closed` if the send of the pump finds the channel
closed before that. Only the former can end a read. -/
inductive ClientTurn where
  | ready (delay : Nat)
  | refuses
  | closed
  | gone
  deriving DecidableEq, Repr

/-- The delay after which a chunk is taken within a budget, if it is. -/
def ClientTurn.takes (budget : Nat) : ClientTurn → Option Nat
  | .ready delay => if delay ≤ budget then some delay else none
  | _ => none

/-- The pump between two awaits. `upstream` is what is left of the body, and `delivered` what
the client channel was handed. `deadlines` are the event deadlines that were computed, each as
an instant and the duration added to it. -/
structure Pumping where
  now : Nat
  parser : StreamUsageParser
  metrics : PumpMetrics
  upstream : Body
  deadlines : List (Nat × Nat)
  delivered : List (List UInt8)
  client : List ClientTurn
  deriving DecidableEq, Repr

namespace Pumping

/-- The client's behaviour at the next await. -/
def turn (state : Pumping) : ClientTurn := state.client.headD (.ready 0)

/-- Past one await. -/
def awaited (state : Pumping) : Pumping := { state with client := state.client.tail }

/-- Past an await that came to an end at this instant. -/
def waitedTo (state : Pumping) (instant : Nat) : Pumping :=
  { state.awaited with now := max state.now instant }

/-- `send_with_timeout` within the task: the state after it, and the result if the
pump stops there. An offer that is not taken is given up when its budget is spent, and one to
a closed channel at once. -/
def offer (plan : PumpPlan) (state : Pumping) (bytes : List UInt8) :
    Pumping × Option PumpResult :=
  match state.turn with
  | .gone => (state.awaited, some .cancelled)
  | .closed => (state.awaited, some ⟨.clientCancel, state.metrics⟩)
  | .refuses => (state.waitedTo (state.now + plan.writeBudget), some ⟨.clientCancel, state.metrics⟩)
  | .ready delay =>
      if delay ≤ plan.writeBudget then
        ({ state.awaited with
            now := state.now + delay
            delivered := state.delivered ++ [bytes] }, none)
      else (state.waitedTo (state.now + plan.writeBudget), some ⟨.clientCancel, state.metrics⟩)

/-- The parser and the counters after one more chunk. -/
def observe (reading : Reading) (plan : PumpPlan) (state : Pumping) (bytes : List UInt8) :
    Pumping :=
  let pushed := state.parser.push reading bytes
  { state with
    parser := pushed.1
    metrics := { state.metrics with
      upstreamBytes := state.metrics.upstreamBytes + bytes.length
      upstreamChunks := state.metrics.upstreamChunks + 1
      upstreamEvents := state.metrics.upstreamEvents + pushed.2
      lastActivityOffset := some (state.now - plan.requestStart) } }

/-- The latencies that a chunk of the live stream may be the first to set. -/
def observeLatency (plan : PumpPlan) (state : Pumping) (events : Nat) : Pumping :=
  let elapsed := state.now - plan.attemptStart
  { state with
    metrics := { state.metrics with
      firstByteLatency := state.metrics.firstByteLatency.or (some elapsed)
      firstEventLatency :=
        if 0 < events then state.metrics.firstEventLatency.or (some elapsed)
        else state.metrics.firstEventLatency } }

/-- Past the addition of an idle time to the instant, if there is one to add. -/
def schedule (state : Pumping) (idle : Option Nat) : Pumping :=
  { state with deadlines := state.deadlines ++ (idle.map (state.now, ·)).toList }

/-- Past the read of an item that came in time, with the rest of the body behind it. -/
def received (state : Pumping) (arrival : Arrival) (rest : Body) : Pumping :=
  { state.awaited with now := max state.now arrival.time, upstream := rest }

/-- The counters and the event deadline after a chunk of the live stream. Only a completed
event moves the deadline. -/
def counted (reading : Reading) (plan : PumpPlan) (state : Pumping) (bytes : List UInt8) :
    Pumping :=
  let events := (state.parser.push reading bytes).2
  ((state.observe reading plan bytes).observeLatency plan events).schedule
    (if 0 < events then plan.idle else none)

end Pumping

/-- The loop of `pump_upstream` over the prefetched chunks. -/
def sendPrefetched (reading : Reading) (plan : PumpPlan) (state : Pumping) :
    List (List UInt8) → Pumping × Option PumpResult
  | [] => (state, none)
  | bytes :: rest =>
      match (state.observe reading plan bytes).offer plan bytes with
      | (sent, none) => sendPrefetched reading plan sent rest
      | (stopped, some result) => (stopped, some result)

/-- The bound on the next read, with the outcome of missing it: the event deadline
of a stream, or the idle time of any other body. -/
def readBound (plan : PumpPlan) (now : Nat) (eventDeadline : Option Nat) :
    Option (Nat × PumpOutcome) :=
  match eventDeadline, plan.idle with
  | some deadline, _ => some (deadline, .eventIdleTimeout)
  | none, some idle => some (now + idle, .upstreamError)
  | none, none => none

/-- A read that misses its bound: the pump ends at the bound with its outcome. Without
a bound it waits for ever. -/
def Pumping.missed (state : Pumping) (bound : Option (Nat × PumpOutcome)) :
    Pumping × Option PumpResult :=
  (state.waitedTo ((bound.map Prod.fst).getD state.now),
    bound.map fun bound => ⟨bound.2, state.metrics⟩)

/-- The loop of `pump_upstream` over the live stream. -/
def pumpLoop (reading : Reading) (plan : PumpPlan) (state : Pumping)
    (eventDeadline : Option Nat) : Body → Pumping × Option PumpResult
  | [] =>
      if state.turn = .gone then (state.awaited, some .cancelled)
      else
        state.missed (readBound plan state.now eventDeadline)
  | arrival :: rest =>
      if state.turn = .gone then (state.awaited, some .cancelled)
      else
        let bound := readBound plan state.now eventDeadline
        if bound.all (fun bound => arrival.inTime state.now bound.1) then
          let received := state.received arrival rest
          match arrival.event with
          | .failed => (received, some ⟨.upstreamError, received.metrics⟩)
          | .ended => (received, some ⟨.completed, received.metrics⟩)
          | .chunk bytes =>
              let events := (received.parser.push reading bytes).2
              let deadline :=
                if 0 < events then plan.idle.map (received.now + ·) else eventDeadline
              match (received.counted reading plan bytes).offer plan bytes with
              | (sent, none) => pumpLoop reading plan sent deadline rest
              | (stopped, some result) => (stopped, some result)
        else state.missed bound

/-- The pump before its first await. -/
def Pumping.start (plan : PumpPlan) (parser : StreamUsageParser) (now : Nat)
    (client : List ClientTurn) (upstream : Body) : Pumping where
  now := now
  parser := parser
  metrics := ⟨plan.initialFirstByteLatency, plan.initialFirstEventLatency, 0, 0, 0, none⟩
  upstream := upstream
  deadlines := []
  delivered := []
  client := client

/-- `pump_upstream`. -/
def pumpUpstream (reading : Reading) (plan : PumpPlan) (parser : StreamUsageParser) (now : Nat)
    (client : List ClientTurn) (upstream : Body) : Pumping × Option PumpResult :=
  let start := Pumping.start plan parser now client upstream
  match sendPrefetched reading plan start plan.prefetched with
  | (sent, none) =>
      let idle := if plan.streaming then plan.idle else none
      pumpLoop reading plan (sent.schedule idle) (idle.map (sent.now + ·)) upstream
  | (stopped, some result) => (stopped, some result)

/-- The plan that the task of `stream_response` makes for a prepared response. -/
def streamPlan (timeouts : IoTimeouts) (prepared : PreparedResponse)
    (attemptStart requestStart : Nat) : PumpPlan where
  idle := some (if prepared.streaming then prepared.interEventTimeout
    else timeouts.upstreamErrorBody)
  writeBudget := timeouts.responseWrite
  attemptStart := attemptStart
  requestStart := requestStart
  prefetched := prepared.prefetched
  initialFirstByteLatency := prepared.firstByteLatency
  initialFirstEventLatency := prepared.firstEventLatency
  streaming := prepared.streaming

/-- The parser that `finalize_response` picks. -/
def streamParser (prepared : PreparedResponse) : StreamUsageParser :=
  if prepared.streaming then .sse (SseUsageParser.new sseEventCap)
  else .json (JsonUsageParser.new jsonUsageCap)

/-- The task of `stream_response`, from an instant on and with a client. -/
def streamResponse (reading : Reading) (timeouts : IoTimeouts) (prepared : PreparedResponse)
    (attemptStart requestStart now : Nat) (client : List ClientTurn) :
    Pumping × Option PumpResult :=
  pumpUpstream reading (streamPlan timeouts prepared attemptStart requestStart)
    (streamParser prepared) now client prepared.upstream

/-! ## What reaches the client -/

variable {reading : Reading} {plan : PumpPlan}

/-- What a pump has delivered in the end is a prefix of what it had delivered and
what was ahead, and all of it if the outcome is a completed stream. -/
def Relays (delivered ahead : List UInt8) (ended : Pumping × Option PumpResult) : Prop :=
  ended.1.delivered.flatten <+: delivered ++ ahead ∧
    ∀ result, ended.2 = some result → result.outcome = .completed →
      ended.1.delivered.flatten = delivered ++ ahead

/-- A pump that stops short of the end has relayed what it had delivered. -/
theorem relays_stopped (state : Pumping) (ahead : List UInt8) {result : Option PumpResult}
    (short : ∀ ended, result = some ended → ended.outcome ≠ .completed) :
    Relays state.delivered.flatten ahead (state, result) := by
  refine ⟨List.prefix_append _ _, ?_⟩
  intro ended same completed
  exact absurd completed (short ended same)

/-- An offered chunk is taken, or the pump stops there, with its own metrics unless the task
has dropped it. -/
theorem offer_cases (plan : PumpPlan) (state : Pumping) (bytes : List UInt8) :
    (∃ delay, state.turn.takes plan.writeBudget = some delay ∧ state.offer plan bytes =
        ({ state.awaited with
            now := state.now + delay
            delivered := state.delivered ++ [bytes] }, none)) ∨
      ∃ instant result, state.turn.takes plan.writeBudget = none ∧ state.offer plan bytes =
          ({ state.awaited with now := instant }, some result) ∧
        result.outcome = .clientCancel ∧ result.metrics =
          if state.turn = .gone then PumpResult.cancelled.metrics else state.metrics := by
  unfold Pumping.offer
  cases turn : state.turn with
  | gone | closed | refuses => exact .inr ⟨_, _, rfl, rfl, rfl, rfl⟩
  | ready delay =>
    dsimp only [ClientTurn.takes]
    split
    · exact .inl ⟨delay, rfl, rfl⟩
    · exact .inr ⟨_, _, rfl, rfl, rfl, rfl⟩

/-- An offer reads nothing. -/
theorem offer_upstream {state after : Pumping} {bytes : List UInt8} {result : Option PumpResult}
    (offered : state.offer plan bytes = (after, result)) : after.upstream = state.upstream := by
  rcases offer_cases plan state bytes with ⟨_, _, taken⟩ | ⟨_, _, _, stops, _⟩
  · rw [taken] at offered
    cases offered
    rfl
  · rw [stops] at offered
    cases offered
    rfl

/-- An offer that is taken does not go back in time. -/
theorem offer_now {state after : Pumping} {bytes : List UInt8}
    (offered : state.offer plan bytes = (after, none)) : state.now ≤ after.now := by
  rcases offer_cases plan state bytes with ⟨delay, _, taken⟩ | ⟨_, _, _, stops, _⟩
  · rw [taken] at offered
    cases offered
    exact Nat.le_add_right _ _
  · rw [stops] at offered
    cases offered

/-- An offered chunk is delivered whole, or not at all and the client is given up. -/
theorem offer_delivers (plan : PumpPlan) (state : Pumping) (bytes : List UInt8) :
    (∃ sent, state.offer plan bytes = (sent, none) ∧
        sent.delivered.flatten = state.delivered.flatten ++ bytes) ∨
      ∃ stopped result, state.offer plan bytes = (stopped, some result) ∧
        stopped.delivered = state.delivered ∧ result.outcome = .clientCancel := by
  rcases offer_cases plan state bytes with
    ⟨delay, _, taken⟩ | ⟨instant, result, _, stops, cancelled, _⟩
  · exact .inl ⟨_, taken, by simp⟩
  · exact .inr ⟨_, result, stops, rfl, cancelled⟩

/-- The prefetched chunks are delivered in order, all of them or a first part. -/
theorem sendPrefetched_delivers (reading : Reading) (plan : PumpPlan) (state : Pumping)
    (prefetched : List (List UInt8)) :
    (∃ sent, sendPrefetched reading plan state prefetched = (sent, none) ∧
        sent.delivered.flatten = state.delivered.flatten ++ prefetched.flatten) ∨
      ∃ stopped result, sendPrefetched reading plan state prefetched = (stopped, some result) ∧
        stopped.delivered.flatten <+: state.delivered.flatten ++ prefetched.flatten ∧
        result.outcome = .clientCancel := by
  induction prefetched generalizing state with
  | nil => exact .inl ⟨state, rfl, by simp⟩
  | cons bytes rest inductionHypothesis =>
    unfold sendPrefetched
    have whole : (state.observe reading plan bytes).delivered = state.delivered := rfl
    rcases offer_delivers plan (state.observe reading plan bytes) bytes with
      ⟨sent, offered, longer⟩ | ⟨stopped, result, offered, same, cancelled⟩
    · rw [offered]
      rw [whole] at longer
      rcases inductionHypothesis sent with
        ⟨last, sentAll, all⟩ | ⟨stopped, result, stops, part, cancelled⟩
      · refine .inl ⟨last, sentAll, ?_⟩
        rw [all, longer, List.flatten_cons, List.append_assoc]
      · refine .inr ⟨stopped, result, stops, ?_, cancelled⟩
        rw [longer, List.append_assoc] at part
        exact part
    · rw [offered]
      refine .inr ⟨stopped, result, rfl, ?_, cancelled⟩
      rw [same, whole]
      exact List.prefix_append _ _

/-- A dropped pump is no completed stream. -/
theorem cancelled_short (ended : PumpResult) (same : some PumpResult.cancelled = some ended) :
    ended.outcome ≠ .completed := by
  cases same
  decide

/-- Missing the bound of a read is no completed stream. -/
theorem readBound_short {now : Nat} {eventDeadline : Option Nat} {metrics : PumpMetrics}
    {ended : PumpResult}
    (missed : ((readBound plan now eventDeadline).map fun bound =>
      (⟨bound.2, metrics⟩ : PumpResult)) = some ended) : ended.outcome ≠ .completed := by
  unfold readBound at missed
  split at missed
  · cases missed
    simp
  · cases missed
    simp
  · cases missed

/-- The end of a read without a chunk leaves the metrics. -/
theorem missed_own {metrics : PumpMetrics} {bound : Option (Nat × PumpOutcome)}
    (ended : PumpResult)
    (same : (bound.map fun bound => (⟨bound.2, metrics⟩ : PumpResult)) = some ended) :
    ended.metrics = metrics := by
  obtain ⟨_, _, rfl⟩ := Option.map_eq_some_iff.mp same
  rfl

/-- What holds of every way the live stream can go on holds of the whole of it: the task is
cancelled, a bound is missed, the body is over, a chunk is not taken, or it is taken and the
pump reads on. -/
theorem pumpLoop_rule {motive : Pumping → Body → Pumping × Option PumpResult → Prop}
    (cancelled : ∀ state body, state.turn = .gone →
      motive state body (state.awaited, some .cancelled))
    (missed : ∀ state body eventDeadline, state.turn ≠ .gone →
      motive state body (state.missed (readBound plan state.now eventDeadline)))
    (finished : ∀ state arrival rest outcome, state.turn ≠ .gone →
      (∀ bytes, arrival.event ≠ .chunk bytes) →
        motive state (arrival :: rest) (state.received arrival rest, some ⟨outcome, state.metrics⟩))
    (stopped : ∀ state arrival rest bytes stopped result, state.turn ≠ .gone →
      arrival.event = .chunk bytes →
        ((state.received arrival rest).counted reading plan bytes).offer plan bytes =
          (stopped, some result) → motive state (arrival :: rest) (stopped, some result))
    (sent : ∀ state arrival rest bytes sent ended, state.turn ≠ .gone →
      arrival.event = .chunk bytes →
        ((state.received arrival rest).counted reading plan bytes).offer plan bytes =
          (sent, none) → motive sent rest ended → motive state (arrival :: rest) ended)
    (state : Pumping) (eventDeadline : Option Nat) (body : Body) :
    motive state body (pumpLoop reading plan state eventDeadline body) := by
  induction body generalizing state eventDeadline with
  | nil =>
    unfold pumpLoop
    by_cases gone : state.turn = .gone
    · rw [if_pos gone]
      exact cancelled state [] gone
    · rw [if_neg gone]
      exact missed state [] _ gone
  | cons arrival rest inductionHypothesis =>
    unfold pumpLoop
    by_cases gone : state.turn = .gone
    · rw [if_pos gone]
      exact cancelled state _ gone
    · rw [if_neg gone]
      dsimp only
      split
      · cases event : arrival.event with
        | failed | ended => exact finished state arrival rest _ gone (by rw [event]; exact nofun)
        | chunk bytes =>
          dsimp only
          split
          · rename_i offered
            exact sent state arrival rest bytes _ _ gone event offered (inductionHypothesis _ _)
          · rename_i offered
            exact stopped state arrival rest bytes _ _ gone event offered
      · exact missed state _ _ gone

/-- The live stream is relayed. -/
theorem pumpLoop_relays (reading : Reading) (plan : PumpPlan) (state : Pumping)
    (eventDeadline : Option Nat) (body : Body) :
    Relays state.delivered.flatten (bodyBytes body)
      (pumpLoop reading plan state eventDeadline body) := by
  refine pumpLoop_rule (motive := fun state body ended =>
    Relays state.delivered.flatten (bodyBytes body) ended) ?_ ?_ ?_ ?_ ?_ state eventDeadline body
  · intro state body _
    exact relays_stopped state.awaited _ cancelled_short
  · intro state body eventDeadline _
    exact relays_stopped (state.waitedTo _) _ fun ended missed => readBound_short missed
  · intro state arrival rest outcome _ quiet
    have nothing : bodyBytes (arrival :: rest) = [] := by
      unfold bodyBytes
      split
      · rename_i bytes event
        exact absurd event (quiet bytes)
      · rfl
      · rfl
    rw [nothing]
    have same : (state.received arrival rest).delivered.flatten =
        state.delivered.flatten ++ [] := (List.append_nil _).symm
    exact ⟨same ▸ List.prefix_rfl, fun _ _ _ => same⟩
  · intro state arrival rest bytes stopped result _ _ offered
    rcases offer_delivers plan ((state.received arrival rest).counted reading plan bytes) bytes with
      ⟨_, taken, _⟩ | ⟨_, _, stops, kept, cancelled⟩
    · rw [taken] at offered
      cases offered
    · rw [stops] at offered
      cases offered
      rw [show state.delivered = stopped.delivered from kept.symm]
      refine relays_stopped stopped _ ?_
      rintro ended ⟨⟩
      rw [cancelled]
      decide
  · intro state arrival rest bytes sent ended _ event offered onward
    have ahead : bodyBytes (arrival :: rest) = bytes ++ bodyBytes rest := by
      rw [bodyBytes, event]
    rcases offer_delivers plan ((state.received arrival rest).counted reading plan bytes) bytes with
      ⟨_, taken, longer⟩ | ⟨_, _, stops, _⟩
    · rw [taken] at offered
      cases offered
      rw [longer, Relays, List.append_assoc] at onward
      rw [ahead]
      exact onward
    · rw [stops] at offered
      cases offered

/-- The prefetched chunks and the live stream are relayed as one. -/
theorem pumpUpstream_relays (reading : Reading) (plan : PumpPlan) (parser : StreamUsageParser)
    (now : Nat) (client : List ClientTurn) (upstream : Body) :
    Relays [] (plan.prefetched.flatten ++ bodyBytes upstream)
      (pumpUpstream reading plan parser now client upstream) := by
  unfold pumpUpstream
  dsimp only
  generalize begun : Pumping.start plan parser now client upstream = start
  have empty : start.delivered = [] := by
    rw [← begun]
    rfl
  rcases sendPrefetched_delivers reading plan start plan.prefetched with
    ⟨sent, sends, all⟩ | ⟨stopped, result, stops, part, cancelled⟩
  · rw [sends]
    rw [empty, List.flatten_nil, List.nil_append] at all
    dsimp only
    generalize (if plan.streaming then plan.idle else none) = idle
    have onward := pumpLoop_relays reading plan (sent.schedule idle) (idle.map (sent.now + ·))
      upstream
    rw [show (sent.schedule idle).delivered = sent.delivered from rfl, all] at onward
    exact onward
  · rw [stops]
    rw [empty, List.flatten_nil, List.nil_append] at part
    refine ⟨part.trans (List.prefix_append _ _), ?_⟩
    intro ended same completed
    cases same
    rw [cancelled] at completed
    cases completed

/-- A pump whose reads are bounded comes to an end. -/
theorem pumpLoop_ends (bounded : plan.idle.isSome) (state : Pumping) (eventDeadline : Option Nat)
    (body : Body) : (pumpLoop reading plan state eventDeadline body).2.isSome := by
  have limited (now : Nat) (deadline : Option Nat) : (readBound plan now deadline).isSome := by
    unfold readBound
    split
    · rfl
    · rfl
    · rename_i unbounded
      rw [unbounded] at bounded
      cases bounded
  refine pumpLoop_rule (motive := fun _ _ ended => ended.2.isSome = true) ?_ ?_ ?_ ?_ ?_ state
    eventDeadline body
  · exact fun _ _ _ => rfl
  · intro state body eventDeadline _
    rw [Pumping.missed, Option.isSome_map]
    exact limited _ _
  · exact fun _ _ _ _ _ _ => rfl
  · exact fun _ _ _ _ _ _ _ _ _ => rfl
  · exact fun _ _ _ _ _ _ _ _ _ onward => onward

/-- The task of a forwarded response comes to an end, whatever the client does. -/
theorem streamResponse_ends (reading : Reading) (timeouts : IoTimeouts)
    (prepared : PreparedResponse) (attemptStart requestStart now : Nat) (client : List ClientTurn) :
    (streamResponse reading timeouts prepared attemptStart requestStart now client).2.isSome := by
  unfold streamResponse pumpUpstream
  dsimp only
  split
  · exact pumpLoop_ends rfl _ _ _
  · rfl

/-! ## The winning attempt -/

namespace Setup

variable {setup : Setup} {before first last : Proxy}
  {trace : List (Runs.Transition Proxy ProxyAction)}

/-- The step that committed a response: the attempt in flight on the selection was
answered by this response, and its prefetch succeeded. -/
def Commits (setup : Setup) (taken : Runs.Transition Proxy ProxyAction) (response : Response)
    (prepared : PreparedResponse) (selection : Selection) (attemptStart : Nat) : Prop :=
  taken.before.stage = .sending selection attemptStart ∧
    ∃ time wall jitter, taken.label = .conclude (.responded time response) wall jitter ∧
      (prepareResponse setup.libraries.reading response
        (setup.gateway.eventTimeoutsFor taken.before.model) sseEventCap attemptStart
        (max attemptStart time)).2 = .ok prepared

/-- Only a prepared response is forwarded. -/
theorem respond_forward {state : GatewayState} {libraries : Libraries} {attempt : Attempt}
    {wall : Int} {now : Nat} {response : Response} {prepared : PreparedResponse}
    (forwards : (attempt.respond state libraries wall now response).verdict = .forward prepared) :
    (prepareResponse libraries.reading response (state.eventTimeoutsFor attempt.model) sseEventCap
      attempt.attemptStart now).2 = .ok prepared := by
  have retries {attempts : List AttemptSummary} {unreadable : Pool.Failure}
      {classified : ConsumedResponse → Pool.Failure} :
      (attempt.rejected state now response attempts unreadable classified).verdict ≠
        .forward prepared := by
    unfold Attempt.rejected
    split <;> simp
  unfold Attempt.respond at forwards
  dsimp only at forwards
  split at forwards
  · exact absurd forwards retries
  · split at forwards
    · exact absurd forwards retries
    · split at forwards
      · exact absurd forwards retries
      · split at forwards
        · cases forwards
        · rename_i found
          cases forwards
          rw [found]

/-- An attempt that is forwarded was answered in time. -/
theorem conclude_forward {state : GatewayState} {libraries : Libraries} {attempt : Attempt}
    {wall : Int} {exchange : Exchange} {prepared : PreparedResponse}
    (forwards : (attempt.conclude state libraries wall exchange).verdict = .forward prepared) :
    ∃ time response, exchange = .responded time response ∧
      (prepareResponse libraries.reading response (state.eventTimeoutsFor attempt.model)
        sseEventCap attempt.attemptStart (max attempt.attemptStart time)).2 = .ok prepared := by
  unfold Attempt.conclude at forwards
  cases exchange with
  | silent => cases forwards
  | failed time =>
    dsimp only at forwards
    split at forwards <;> cases forwards
  | responded time response =>
    dsimp only at forwards
    split at forwards
    · exact ⟨time, response, rfl, respond_forward forwards⟩
    · cases forwards

/-- A loop that ends by forwarding has committed that response in one of its steps. -/
theorem run_commits (fresh : Fresh first) (run : Runs.Run setup.Step first trace last)
    {prepared : PreparedResponse} {fingerprint : String} {selection : Selection}
    {attemptStart : Nat}
    (finished : last.stage =
      .finished (.forward prepared fingerprint selection attemptStart)) :
    ∃ taken ∈ trace, ∃ response, Commits setup taken response prepared selection attemptStart := by
  induction run with
  | start =>
    rw [fresh.1] at finished
    cases finished
  | @extend shorter current next label earlier stepped inductionHypothesis =>
    have onward (same : current.stage =
        .finished (.forward prepared fingerprint selection attemptStart)) :
        ∃ taken ∈ shorter ++ [⟨current, label, next⟩], ∃ response,
          Commits setup taken response prepared selection attemptStart := by
      obtain ⟨taken, member, commits⟩ := inductionHypothesis same
      exact ⟨taken, List.mem_append_left _ member, commits⟩
    have turns := step_turns stepped
    cases turns with
    | other foreign performed => exact onward finished
    | entered preparing performed => cases finished
    | @chosen system answer | @advanced system answer =>
      rcases answer with _ | answer
      · cases finished
      · cases answer <;> cases finished
    | retried sending verdict performed =>
      simp only [Proxy.settled, verdict] at finished
      cases finished
    | @forwarded other start exchange wall jitter committed sending verdict =>
      simp only [Proxy.settled, verdict] at finished
      cases finished
      obtain ⟨time, response, rfl, found⟩ := conclude_forward verdict
      exact ⟨_, List.mem_append_right _ (List.mem_singleton_self _), response, sending, time, wall,
        jitter, rfl, found⟩

/-- A response is streamed verbatim across the prefetch handoff. In every run that
ends by forwarding, one step committed a response, and for every client and every
instant the task starts at, what is handed to the client channel is a prefix of the
bytes of that response alone, in order; it is all of them when the outcome is
`Completed`, and the task does come to an outcome. The prefetch of any response,
cut after any number of arrivals, keeps no more than its cap, and neither does the
parser that looks for its first event.

Proof: the committing step fixes the prefetched bytes, and the pump hands on what it reads. -/
theorem streamed_verbatim (fresh : Fresh first) (run : Runs.Run setup.Step first trace last)
    {prepared : PreparedResponse} {fingerprint : String} {selection : Selection}
    {attemptStart : Nat}
    (finished : last.stage =
      .finished (.forward prepared fingerprint selection attemptStart)) :
    (∃ taken ∈ trace, ∃ response, Commits setup taken response prepared selection attemptStart ∧
        ∀ now client,
          let ended := streamResponse setup.libraries.reading setup.gateway.timeouts prepared
            attemptStart last.requestStart now client
          ended.1.delivered.flatten <+: bodyBytes response.body ∧
            ∃ result, ended.2 = some result ∧ (result.outcome = .completed →
              ended.1.delivered.flatten = bodyBytes response.body)) ∧
      ∀ (response : Response) (timeouts : EventTimeouts) (bufferCap start now count : Nat),
        let held := (prefetch setup.libraries.reading
          { response with body := response.body.take count } timeouts bufferCap start now).held
        held.prefetched.flatten.length ≤ bufferCap ∧
          held.detector.eventBuf.length ≤ bufferCap := by
  constructor
  · obtain ⟨taken, member, response, commits⟩ := run_commits fresh run finished
    refine ⟨taken, member, response, commits, ?_⟩
    intro now client
    obtain ⟨_, _, _, _, _, found⟩ := commits
    have verbatim := prepareResponse_verbatim found
    have ends := streamResponse_ends setup.libraries.reading setup.gateway.timeouts
      prepared attemptStart last.requestStart now client
    obtain ⟨result, outcome⟩ := Option.isSome_iff_exists.mp ends
    have relays := pumpUpstream_relays setup.libraries.reading
      (streamPlan setup.gateway.timeouts prepared attemptStart last.requestStart)
      (streamParser prepared) now client prepared.upstream
    have whole : (streamPlan setup.gateway.timeouts prepared attemptStart
        last.requestStart).prefetched = prepared.prefetched := rfl
    rw [whole, verbatim] at relays
    exact ⟨relays.1, result, outcome, relays.2 result outcome⟩
  · intro response timeouts bufferCap start now count
    exact ⟨prefetch_lawful.fits, prefetch_lawful.detector⟩

/-- A stream of two events, cut between them. -/
def sampleStream : Response where
  status := 200
  headers := [("content-type".toList, Text.asBytes "text/event-stream".toList)]
  body :=
    [⟨4, .chunk (Text.asBytes "data: u\n\n".toList)⟩,
      ⟨8, .chunk (Text.asBytes "data: [DONE]\n\n".toList)⟩, ⟨9, .ended⟩]

/-- The stream as it is committed, with its first event prefetched. -/
def samplePrepared : PreparedResponse where
  status := 200
  headers := sampleStream.headers
  streaming := true
  upstream := sampleStream.body.tail
  prefetched := [Text.asBytes "data: u\n\n".toList]
  firstByteLatency := some 2
  firstEventLatency := some 2
  interEventTimeout := 10

/-- The first key answers with a 503, the second with the stream. -/
def rejectedThenStreamed : List ProxyAction :=
  [.other (.request none), .enter "m", .choose, .advance, .other (.tick 2),
    .conclude (.responded 1 ⟨503, [], [⟨2, .ended⟩]⟩) 0 id, .choose, .other (.tick 5),
    .conclude (.responded 3 sampleStream) 0 id]

/-- A client that takes every chunk receives the stream of the second key. -/
theorem streamed_verbatim_sample :
    let trace := Runs.steps sampleSetup.perform sampleProxy rejectedThenStreamed
    let ended := streamResponse sampleSetup.libraries.reading sampleSetup.gateway.timeouts
      samplePrepared 2 0 7 []
    ended.1.delivered.flatten = Text.asBytes "data: u\n\ndata: [DONE]\n\n".toList ∧
      ∃ taken ∈ trace, ∃ response,
        Commits sampleSetup taken response samplePrepared ⟨"b", ⟨"b"⟩, 1⟩ 2 ∧
          ended.1.delivered.flatten = bodyBytes response.body := by
  have enabled : (Runs.record sampleSetup.perform sampleProxy rejectedThenStreamed).isSome := by
    decide +kernel
  have finished : (Runs.reached sampleSetup.perform sampleProxy rejectedThenStreamed).stage =
      .finished (.forward samplePrepared "b" ⟨"b", ⟨"b"⟩, 1⟩ 2) := by decide +kernel
  have started : (Runs.reached sampleSetup.perform sampleProxy
      rejectedThenStreamed).requestStart = 0 := by decide +kernel
  have completed : (streamResponse sampleSetup.libraries.reading sampleSetup.gateway.timeouts
      samplePrepared 2 0 7 []).2.map PumpResult.outcome = some .completed := by decide +kernel
  obtain ⟨⟨taken, member, response, commits, delivers⟩, _⟩ :=
    streamed_verbatim ⟨rfl, rfl⟩ (Runs.replay_run enabled) finished
  obtain ⟨_, result, outcome, whole⟩ := delivers 7 []
  rw [started] at outcome whole
  rw [outcome] at completed
  refine ⟨by decide +kernel, taken, member, response, commits, whole ?_⟩
  simpa using completed

end Setup

end Orihsus.Gateway
