import Orihsus.Headers
import Orihsus.RateLimit
import Orihsus.Sse

/-!
# Reading upstream responses

An upstream body is a schedule: what arrives, and when. Every reader of
`src/gateway.rs` polls it under a deadline, and a poll looks at the body before it
looks at the clock, so an item that is ready is taken even at the deadline. This
module has the two readers that run before anything is sent to the client: the
prefetch of an event stream and the bounded read of an error body.

Lengths and counts are natural numbers; no body reaches the width of their types.
-/

namespace Orihsus.Gateway

/-- What the next poll of a body yields. -/
inductive BodyEvent where
  | chunk (bytes : List UInt8)
  | failed
  | ended
  deriving DecidableEq, Repr

/-- An event of a body with the instant it becomes ready. -/
structure Arrival where
  time : Nat
  event : BodyEvent
  deriving DecidableEq, Repr

/-- The schedule of a body. Nothing arrives after the last entry. -/
abbrev Body := List Arrival

/-- The bytes a body carries before it ends or fails. -/
def bodyBytes : Body → List UInt8
  | [] => []
  | arrival :: rest =>
      match arrival.event with
      | .chunk bytes => bytes ++ bodyBytes rest
      | .failed | .ended => []

/-- An upstream response, its head and its body still to come. -/
structure Response where
  status : Nat
  headers : HeaderMap
  body : Body
  deriving DecidableEq, Repr

/-- A poll that starts at `now` takes an arrival that is ready by then or by the
deadline; otherwise it times out. -/
def Arrival.inTime (arrival : Arrival) (now deadline : Nat) : Bool :=
  arrival.time ≤ now || arrival.time ≤ deadline

/-- A poll before the deadline takes an arrival exactly if it is over by the deadline. -/
theorem inTime_iff {arrival : Arrival} {now deadline : Nat} (ahead : now ≤ deadline) :
    arrival.inTime now deadline = true ↔ max now arrival.time ≤ deadline := by
  unfold Arrival.inTime
  rw [Bool.or_eq_true, decide_eq_true_eq, decide_eq_true_eq]
  omega

/-- `AttemptTerminalReason`. -/
inductive AttemptTerminalReason where
  | completed
  | responseHeaderTimeout
  | networkError
  | retryableResponse
  | forwarded
  | upstreamError
  | clientCancel
  | noFirstEvent
  | eventIdleTimeout
  | endBeforeFirstEvent
  deriving DecidableEq, Repr

/-- `EventTimeouts`. -/
structure EventTimeouts where
  firstEventTimeout : Nat
  interEventTimeout : Nat
  deriving DecidableEq, Repr

/-! ## The prefetch of an event stream -/

/-- `is_streaming`. -/
def isStreaming (response : Response) : Bool :=
  ((response.headers.get "content-type").bind toStr).any fun text =>
    "text/event-stream".toList.isPrefixOf (Text.toAsciiLowercase text)

/-- A response that may be committed, with the chunks already read from it. -/
structure PreparedResponse where
  status : Nat
  headers : HeaderMap
  streaming : Bool
  upstream : Body
  prefetched : List (List UInt8)
  firstByteLatency : Option Nat
  firstEventLatency : Option Nat
  interEventTimeout : Nat
  deriving DecidableEq, Repr

structure PrefetchFailure where
  reason : AttemptTerminalReason
  firstByteLatency : Option Nat
  upstreamBytes : Nat
  upstreamChunks : Nat
  lastActivityOffset : Option Nat
  deriving DecidableEq, Repr

/-- What the prefetch loop holds between two polls. -/
structure Prefetch where
  detector : SseUsageParser
  prefetched : List (List UInt8)
  total : Nat
  chunks : Nat
  firstByteLatency : Option Nat
  deriving DecidableEq, Repr

namespace Prefetch

/-- Before the first poll. -/
def start (bufferCap : Nat) : Prefetch where
  detector := SseUsageParser.new bufferCap
  prefetched := []
  total := 0
  chunks := 0
  firstByteLatency := none

/-- The counters after one more chunk, before the cap is checked. -/
def count (held : Prefetch) (bytes : List UInt8) (elapsed : Nat) : Prefetch :=
  { held with
    total := held.total + bytes.length
    chunks := held.chunks + 1
    firstByteLatency := held.firstByteLatency.or (some elapsed) }

/-- A chunk within the cap is shown to the detector and kept. -/
def keep (reading : Reading) (held : Prefetch) (bytes : List UInt8) : Prefetch :=
  { held with
    detector := (held.detector.push reading bytes).1
    prefetched := held.prefetched ++ [bytes] }

end Prefetch

/-- How the prefetch loop ended: when, with what it held, with what is left of the
body, and with the latency of the first event or the reason there is none. -/
structure PrefetchEnd where
  time : Nat
  held : Prefetch
  rest : Body
  result : Except AttemptTerminalReason Nat

/-- The loop of `prepare_response` under its deadline. -/
def prefetchLoop (reading : Reading) (bufferCap attemptStart deadline : Nat) (held : Prefetch)
    (now : Nat) : Body → PrefetchEnd
  | [] => ⟨max now deadline, held, [], .error .noFirstEvent⟩
  | arrival :: rest =>
      if arrival.inTime now deadline then
        let time := max now arrival.time
        match arrival.event with
        | .chunk bytes =>
            let elapsed := time - attemptStart
            let counted := held.count bytes elapsed
            -- The chunk that passes the cap is dropped with the attempt.
            if bufferCap < counted.total then ⟨time, counted, rest, .error .endBeforeFirstEvent⟩
            else
              let kept := counted.keep reading bytes
              if 0 < (held.detector.push reading bytes).2 then ⟨time, kept, rest, .ok elapsed⟩
              else prefetchLoop reading bufferCap attemptStart deadline kept time rest
        | .failed => ⟨time, held, rest, .error .networkError⟩
        | .ended => ⟨time, held, rest, .error .endBeforeFirstEvent⟩
      else ⟨max now deadline, held, arrival :: rest, .error .noFirstEvent⟩

/-- The prefetch of a response that starts at `now`. -/
def prefetch (reading : Reading) (response : Response) (timeouts : EventTimeouts)
    (bufferCap attemptStart now : Nat) : PrefetchEnd :=
  prefetchLoop reading bufferCap attemptStart (now + timeouts.firstEventTimeout)
    (Prefetch.start bufferCap) now response.body

/-- `prepare_response`, with the instant it returns. -/
def prepareResponse (reading : Reading) (response : Response) (timeouts : EventTimeouts)
    (bufferCap attemptStart now : Nat) : Nat × Except PrefetchFailure PreparedResponse :=
  let headers := filterResponseHeaders response.headers
  if !isStreaming response then
    (now, .ok {
      status := response.status
      headers := headers
      streaming := false
      upstream := response.body
      prefetched := []
      firstByteLatency := none
      firstEventLatency := none
      interEventTimeout := timeouts.interEventTimeout })
  else
    let ended := prefetch reading response timeouts bufferCap attemptStart now
    (ended.time, match ended.result with
      | .ok firstEventLatency => .ok {
          status := response.status
          headers := headers
          streaming := true
          upstream := ended.rest
          prefetched := ended.held.prefetched
          firstByteLatency := ended.held.firstByteLatency
          firstEventLatency := some firstEventLatency
          interEventTimeout := timeouts.interEventTimeout }
      | .error reason => .error {
          reason := reason
          firstByteLatency := ended.held.firstByteLatency
          upstreamBytes := ended.held.total
          upstreamChunks := ended.held.chunks
          lastActivityOffset := ended.held.firstByteLatency })

/-! ## The bounded read of an error body -/

/-- `ERROR_CLASSIFY_CAP`. -/
def errorClassifyCap : Nat := 64 * 1024

inductive ErrorBody where
  | buffered (bytes : List UInt8)
  | oversized
  deriving DecidableEq, Repr

/-- An upstream error response whose body was consumed for classification. -/
structure ConsumedResponse where
  status : Nat
  headers : HeaderMap
  body : ErrorBody
  firstByteLatency : Option Nat
  upstreamBytes : Nat
  upstreamChunks : Nat
  lastActivityOffset : Option Nat
  deriving DecidableEq, Repr

/-- How the read of an error body ended: when, with what is left of the body, and with the
response if the read came to an end of its own. -/
structure ErrorEnd where
  time : Nat
  rest : Body
  result : Option ConsumedResponse

/-- The loop of `consume_error_response` under the deadline that
`consume_classify_body` puts on it. `read` is the response as it would be returned
with the bytes buffered so far. -/
def consumeLoop (attemptStart requestStart deadline : Nat) (read : ConsumedResponse)
    (buffered : List UInt8) (now : Nat) : Body → ErrorEnd
  | [] => ⟨max now deadline, [], none⟩
  | arrival :: rest =>
      if arrival.inTime now deadline then
        let time := max now arrival.time
        match arrival.event with
        | .failed => ⟨time, rest, none⟩
        | .ended => ⟨time, rest, some { read with body := .buffered buffered }⟩
        | .chunk bytes =>
            let counted := { read with
              firstByteLatency := read.firstByteLatency.or (some (time - attemptStart))
              upstreamBytes := read.upstreamBytes + bytes.length
              upstreamChunks := read.upstreamChunks + 1
              lastActivityOffset := some (time - requestStart) }
            if bytes.length ≤ errorClassifyCap - buffered.length then
              consumeLoop attemptStart requestStart deadline counted (buffered ++ bytes) time rest
            else ⟨time, rest, some { counted with body := .oversized }⟩
      else ⟨max now deadline, arrival :: rest, none⟩

/-- `consume_classify_body`. -/
def consumeClassifyBody (response : Response) (timeout attemptStart requestStart now : Nat) :
    ErrorEnd :=
  consumeLoop attemptStart requestStart (now + timeout)
    { status := response.status
      headers := filterResponseHeaders response.headers
      body := .buffered []
      firstByteLatency := none
      upstreamBytes := 0
      upstreamChunks := 0
      lastActivityOffset := none }
    [] now response.body

/-- `classify_error_body`. -/
def classifyErrorBody (parseJson : List UInt8 → Option Json) : ErrorBody → RateLimitKind
  | .buffered bytes => classify429 parseJson bytes false
  | .oversized => .generic

/-! ## What the prefetch leaves -/

namespace SseUsageParser

variable {reading : Reading} {parser : SseUsageParser}

/-- A parser that holds no more than its cap, which is this one. -/
def Within (cap : Nat) (parser : SseUsageParser) : Prop :=
  parser.eventCap = cap ∧ parser.eventBuf.length ≤ cap

/-- A byte stays within the cap. -/
theorem pushByte_within {cap : Nat} (byte : UInt8) (within : parser.Within cap) :
    (parser.pushByte reading byte).Within cap := by
  obtain ⟨capped, bounded⟩ := within
  unfold pushByte
  dsimp only
  split
  · exact ⟨capped, Nat.zero_le _⟩
  · split
    · exact ⟨capped, bounded⟩
    · split
      · rename_i room
        refine ⟨capped, ?_⟩
        rw [List.length_append, List.length_singleton, ← capped]
        exact room
      · exact ⟨capped, bounded⟩

/-- No chunk makes the parser hold more than its cap. -/
theorem push_within {cap : Nat} (chunk : List UInt8) (within : parser.Within cap) :
    (parser.push reading chunk).1.Within cap := by
  change (chunk.foldl (pushByte reading) parser).Within cap
  induction chunk generalizing parser with
  | nil => exact within
  | cons byte rest inductionHypothesis => exact inductionHypothesis (pushByte_within byte within)

end SseUsageParser

variable {reading : Reading} {bufferCap attemptStart deadline : Nat}

namespace Prefetch

/-- The kept chunks are what was counted and fit the cap, and so does the event
that the detector is assembling. -/
structure Bounded (bufferCap : Nat) (held : Prefetch) : Prop where
  counted : held.prefetched.flatten.length = held.total
  fits : held.prefetched.flatten.length ≤ bufferCap
  detector : held.detector.Within bufferCap

/-- An empty buffer is bounded. -/
theorem start_bounded : Bounded bufferCap (start bufferCap) :=
  ⟨rfl, Nat.zero_le _, rfl, Nat.zero_le _⟩

/-- A chunk that does not pass the cap keeps the buffers bounded. -/
theorem keep_bounded (reading : Reading) {held : Prefetch} {bytes : List UInt8} {elapsed : Nat}
    (bounded : Bounded bufferCap held)
    (fits : ¬ bufferCap < (held.count bytes elapsed).total) :
    Bounded bufferCap ((held.count bytes elapsed).keep reading bytes) := by
  have longer : (held.prefetched ++ [bytes]).flatten.length = held.total + bytes.length := by
    rw [List.flatten_append, List.length_append, bounded.counted, List.flatten_singleton]
  refine ⟨longer, ?_, SseUsageParser.push_within bytes bounded.detector⟩
  exact Nat.le_trans (Nat.le_of_eq longer) (Nat.le_of_not_lt fits)

end Prefetch

/-- The reasons a prefetch fails for. -/
def PrefetchReason (reason : AttemptTerminalReason) : Prop :=
  reason = .networkError ∨ reason = .noFirstEvent ∨ reason = .endBeforeFirstEvent

/-- What a prefetch that started with some chunks held and some body ahead leaves.
On success no byte is lost between the held chunks and the rest of the body; the
buffers are within the cap however it ended. -/
structure PrefetchEnd.Lawful (bufferCap : Nat) (held : Prefetch) (body : Body)
    (ended : PrefetchEnd) : Prop where
  verbatim : ∀ latency, ended.result = .ok latency →
    ended.held.prefetched.flatten ++ bodyBytes ended.rest =
      held.prefetched.flatten ++ bodyBytes body
  fits : ended.held.prefetched.flatten.length ≤ bufferCap
  detector : ended.held.detector.eventBuf.length ≤ bufferCap
  reason : ∀ reason, ended.result = .error reason → PrefetchReason reason

/-- A prefetch that fails keeps no promise about bytes, only its reason. -/
theorem PrefetchEnd.Lawful.error {held left : Prefetch} {body rest : Body} {time : Nat}
    {reason : AttemptTerminalReason} (fits : left.prefetched.flatten.length ≤ bufferCap)
    (detector : left.detector.eventBuf.length ≤ bufferCap) (known : PrefetchReason reason) :
    PrefetchEnd.Lawful bufferCap held body ⟨time, left, rest, .error reason⟩ := by
  refine ⟨?_, fits, detector, ?_⟩
  · intro latency impossible
    cases impossible
  · intro other same
    cases same
    exact known

/-- Every run of the prefetch loop is lawful. -/
theorem prefetchLoop_lawful {held : Prefetch} (bounded : held.Bounded bufferCap) (now : Nat)
    (body : Body) :
    (prefetchLoop reading bufferCap attemptStart deadline held now body).Lawful
      bufferCap held body := by
  induction body generalizing held now with
  | nil => exact .error bounded.fits bounded.detector.2 (.inr (.inl rfl))
  | cons arrival rest inductionHypothesis =>
    unfold prefetchLoop
    split
    · cases event : arrival.event with
      | failed => exact .error bounded.fits bounded.detector.2 (.inl rfl)
      | ended => exact .error bounded.fits bounded.detector.2 (.inr (.inr rfl))
      | chunk bytes =>
        dsimp only
        -- What is held after this chunk and what is left of the body meet where
        -- they met before it.
        have meets : ((held.count bytes (max now arrival.time - attemptStart)).keep reading
              bytes).prefetched.flatten ++ bodyBytes rest =
            held.prefetched.flatten ++ bodyBytes (arrival :: rest) := by
          simp [Prefetch.keep, Prefetch.count, bodyBytes, event]
        split
        · exact .error bounded.fits bounded.detector.2 (.inr (.inr rfl))
        · rename_i fits
          have kept := Prefetch.keep_bounded reading bounded fits
          split
          · refine ⟨fun _ _ => meets, kept.fits, kept.detector.2, ?_⟩
            intro reason impossible
            cases impossible
          · have onward := inductionHypothesis kept (max now arrival.time)
            refine ⟨?_, onward.fits, onward.detector, onward.reason⟩
            intro latency committed
            exact (onward.verbatim latency committed).trans meets
    · exact .error bounded.fits bounded.detector.2 (.inr (.inl rfl))

variable {response : Response} {timeouts : EventTimeouts} {now : Nat}

/-- The prefetch keeps the law. -/
theorem prefetch_lawful :
    (prefetch reading response timeouts bufferCap attemptStart now).Lawful bufferCap
      (Prefetch.start bufferCap) response.body :=
  prefetchLoop_lawful Prefetch.start_bounded now response.body

/-- The prefetched chunks and the rest of the stream are the response's bytes. -/
theorem prepareResponse_verbatim {prepared : PreparedResponse}
    (committed : (prepareResponse reading response timeouts bufferCap attemptStart now).2 =
      .ok prepared) :
    prepared.prefetched.flatten ++ bodyBytes prepared.upstream = bodyBytes response.body := by
  unfold prepareResponse at committed
  dsimp only at committed
  split at committed
  · cases committed
    rfl
  · split at committed
    · rename_i latency found
      cases committed
      exact prefetch_lawful.verbatim latency found
    · cases committed

/-- A prepared response has the status of the upstream and the filtered headers. -/
theorem prepareResponse_head {prepared : PreparedResponse}
    (committed : (prepareResponse reading response timeouts bufferCap attemptStart now).2 =
      .ok prepared) :
    prepared.status = response.status ∧
      prepared.headers = filterResponseHeaders response.headers := by
  unfold prepareResponse at committed
  dsimp only at committed
  split at committed
  · cases committed
    exact ⟨rfl, rfl⟩
  · split at committed
    · cases committed
      exact ⟨rfl, rfl⟩
    · cases committed

/-- A response that is not committed has one of three reasons. -/
theorem prepareResponse_reason {failure : PrefetchFailure}
    (failed : (prepareResponse reading response timeouts bufferCap attemptStart now).2 =
      .error failure) : PrefetchReason failure.reason := by
  unfold prepareResponse at failed
  dsimp only at failed
  split at failed
  · cases failed
  · split at failed
    · cases failed
    · rename_i reason found
      cases failed
      exact prefetch_lawful.reason reason found

end Orihsus.Gateway
