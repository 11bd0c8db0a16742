import Orihsus.Streaming

/-!
# What is received from an upstream body

Every reader of an upstream body leaves the part that it has not polled, and counts what it
has. What was received is therefore a matter of the body alone: its chunks up to that part,
with the instants at which they arrived. The laws say what the counters of each reader are
worth, measured by these chunks.

A stream has two readers. The prefetch reads its first chunks and hands them over, and the
pump counts them when it offers them to the client, before it reads on. It is behind when the
client is slow, so it may count a chunk later than it arrived; and what it has counted is lost
when the task drops it with its client.
-/

namespace Orihsus.Gateway

/-- A chunk of an upstream body with the instant of its arrival. -/
structure ChunkArrival where
  time : Nat
  bytes : List UInt8
  deriving DecidableEq, Repr

/-- The chunks of a body whose first one does not arrive before the given instant. They arrive
in their order, so none is there before an earlier one. -/
def arrivals (since : Nat) : Body → List ChunkArrival
  | [] => []
  | arrival :: rest =>
      match arrival.event with
      | .chunk bytes => ⟨max since arrival.time, bytes⟩ :: arrivals (max since arrival.time) rest
      | .failed | .ended => []

/-- The part of a body that was polled when the rest was left. -/
def polled (body rest : Body) : Body := body.take (body.length - rest.length)

/-- The number of bytes in chunks. -/
def bytesIn (chunks : List ChunkArrival) : Nat := (chunks.flatMap ChunkArrival.bytes).length

/-- The bytes of chunks and more chunks. -/
theorem bytesIn_append (earlier later : List ChunkArrival) :
    bytesIn (earlier ++ later) = bytesIn earlier + bytesIn later := by
  rw [bytesIn, List.flatMap_append, List.length_append]
  rfl

/-- The bytes of one chunk. -/
theorem bytesIn_singleton (chunk : ChunkArrival) : bytesIn [chunk] = chunk.bytes.length := by
  rw [bytesIn, List.flatMap_singleton]

/-- The bytes of a chunk and of those after it. -/
theorem bytesIn_cons (chunk : ChunkArrival) (chunks : List ChunkArrival) :
    bytesIn (chunk :: chunks) = chunk.bytes.length + bytesIn chunks := by
  rw [← bytesIn_singleton chunk, ← bytesIn_append]
  rfl

/-- Nothing was polled of a body that was left as it is. -/
theorem polled_self (body : Body) : polled body body = [] := by
  rw [polled, Nat.sub_self, List.take_zero]

/-- An item that was polled before the others. -/
theorem polled_cons {arrival : Arrival} {body rest : Body} (left : rest <:+ body) :
    polled (arrival :: body) rest = arrival :: polled body rest := by
  rw [polled, List.length_cons, Nat.succ_sub left.length_le, List.take_succ_cons]
  rfl

/-- Chunks arrive one after the other. -/
theorem arrivals_chain (since : Nat) (body : Body) :
    (since :: (arrivals since body).map ChunkArrival.time).IsChain (· ≤ ·) := by
  induction body generalizing since with
  | nil => exact List.IsChain.singleton _
  | cons arrival rest inductionHypothesis =>
    unfold arrivals
    cases arrival.event with
    | failed | ended => exact List.IsChain.singleton _
    | chunk bytes =>
      rw [List.map_cons, List.isChain_cons_cons]
      exact ⟨Nat.le_max_left _ _, inductionHypothesis _⟩

/-- No chunk arrives before the first may. -/
theorem arrivals_since {since : Nat} {body : Body} {chunk : ChunkArrival}
    (member : chunk ∈ arrivals since body) : since ≤ chunk.time := by
  have chain := arrivals_chain since body
  rw [List.isChain_iff_pairwise, List.pairwise_cons] at chain
  exact chain.1 _ (List.mem_map_of_mem member)

/-- The counters of a summary: bytes, chunks, and the last activity. -/
structure Counters where
  bytes : Nat
  chunks : Nat
  last : Option Nat
  deriving DecidableEq, Repr

namespace Counters

/-- The counters of an attempt that has read nothing. -/
def zero : Counters := ⟨0, 0, none⟩

/-- The counters after more chunks; activity is measured from `start`. -/
def add (start : Nat) (counters : Counters) (chunks : List ChunkArrival) : Counters where
  bytes := counters.bytes + bytesIn chunks
  chunks := counters.chunks + chunks.length
  last := (chunks.getLast?.map fun chunk => chunk.time - start).or counters.last

variable {start : Nat} {counters : Counters} {chunk other : ChunkArrival}
  {chunks later : List ChunkArrival}

/-- No chunks change nothing. -/
theorem add_nil : counters.add start [] = counters := rfl

/-- One chunk sets the last activity. -/
theorem add_one (chunk : ChunkArrival) : counters.add start [chunk] =
    ⟨counters.bytes + chunk.bytes.length, counters.chunks + 1, some (chunk.time - start)⟩ := by
  rw [add, bytesIn_singleton]
  rfl

/-- One chunk after the other counts as both. -/
theorem add_cons (chunk : ChunkArrival) (chunks : List ChunkArrival) :
    (counters.add start [chunk]).add start chunks = counters.add start (chunk :: chunks) := by
  rw [add_one]
  cases chunks with
  | nil => rw [add_nil, add_one]
  | cons next rest =>
    simp only [add, bytesIn_cons chunk, List.length_cons, List.getLast?_cons,
      Option.map_some, Option.getD_some, Option.some_or, Nat.add_assoc, Nat.add_comm 1]

/-- Counters that count a chunk are not those of an attempt that has read nothing. -/
theorem zero_ne_add : Counters.zero ≠ counters.add start (chunk :: later) := by
  intro same
  have none : 0 = counters.chunks + (later.length + 1) := congrArg Counters.chunks same
  omega

/-- The instant of a chunk does not show if another one follows it. -/
theorem add_retimed (nonempty : later ≠ []) (same : chunk.bytes = other.bytes) :
    counters.add start (chunk :: later) = counters.add start (other :: later) := by
  obtain ⟨next, rest, rfl⟩ := List.exists_cons_of_ne_nil nonempty
  simp only [add, bytesIn_cons, same, List.length_cons, List.getLast?_cons_cons]

/-- The last of the counted chunks has its instant exactly if it is timed by its arrival. -/
theorem add_timed_iff {now : Nat} (started : start ≤ chunk.time) (late : chunk.time ≤ now) :
    counters.add start [⟨now, chunk.bytes⟩] = counters.add start [chunk] ↔ now = chunk.time := by
  rw [add_one, add_one]
  simp only [Counters.mk.injEq, true_and, Option.some.injEq]
  omega

end Counters

/-- The counters of an error response that was consumed. -/
def ConsumedResponse.counters (consumed : ConsumedResponse) : Counters :=
  ⟨consumed.upstreamBytes, consumed.upstreamChunks, consumed.lastActivityOffset⟩

/-- The counters of a pump. -/
def PumpMetrics.counters (metrics : PumpMetrics) : Counters :=
  ⟨metrics.upstreamBytes, metrics.upstreamChunks, metrics.lastActivityOffset⟩

/-! ## Error bodies -/

/-- The read of an error body leaves the end of it. -/
theorem consumeLoop_rest {attemptStart requestStart deadline : Nat} {read : ConsumedResponse}
    {buffered : List UInt8} {now : Nat} {body : Body} :
    (consumeLoop attemptStart requestStart deadline read buffered now body).rest <:+ body := by
  induction body generalizing read buffered now with
  | nil => exact List.suffix_rfl
  | cons arrival rest inductionHypothesis =>
    unfold consumeLoop
    split
    · cases arrival.event with
      | failed | ended => exact List.suffix_cons _ _
      | chunk bytes =>
        dsimp only
        split
        · exact inductionHypothesis.trans (List.suffix_cons _ _)
        · exact List.suffix_cons _ _
    · exact List.suffix_rfl

/-- An error body that is consumed is counted as it was received. -/
theorem consumeLoop_counts {attemptStart requestStart deadline : Nat}
    {read consumed : ConsumedResponse} {buffered : List UInt8} {now : Nat} {body : Body}
    (done : (consumeLoop attemptStart requestStart deadline read buffered now body).result =
      some consumed) :
    consumed.counters = read.counters.add requestStart (arrivals now (polled body
      (consumeLoop attemptStart requestStart deadline read buffered now body).rest)) := by
  induction body generalizing read buffered now with
  | nil => cases done
  | cons arrival rest inductionHypothesis =>
    unfold consumeLoop at done ⊢
    split at done
    · rename_i inTime
      rw [if_pos inTime]
      cases event : arrival.event with
      | failed =>
        simp only [event] at done
        cases done
      | ended =>
        simp only [event] at done
        cases done
        rw [polled_cons List.suffix_rfl, polled_self, arrivals, event]
        rfl
      | chunk bytes =>
        simp only [event] at done
        dsimp only
        split at done
        · rename_i fits
          rw [if_pos fits, polled_cons consumeLoop_rest, arrivals, event, ← Counters.add_cons,
            Counters.add_one]
          exact inductionHypothesis done
        · rename_i large
          rw [if_neg large]
          cases done
          rw [polled_cons List.suffix_rfl, polled_self, arrivals, event, ← Counters.add_cons,
            Counters.add_one]
          rfl
    · cases done

/-- An error body ends, or passes the room that is left for it, before the deadline. -/
def readable (deadline room now : Nat) : Body → Bool
  | [] => false
  | arrival :: rest =>
      arrival.inTime now deadline &&
        match arrival.event with
        | .failed => false
        | .ended => true
        | .chunk bytes =>
            decide (room < bytes.length) ||
              readable deadline (room - bytes.length) (max now arrival.time) rest

/-- An error body is consumed exactly if it is readable. -/
theorem consumeLoop_readable {attemptStart requestStart deadline : Nat}
    {read : ConsumedResponse} {buffered : List UInt8} {now : Nat} {body : Body} :
    (consumeLoop attemptStart requestStart deadline read buffered now body).result.isSome =
      readable deadline (errorClassifyCap - buffered.length) now body := by
  induction body generalizing read buffered now with
  | nil => rfl
  | cons arrival rest inductionHypothesis =>
    unfold consumeLoop readable
    cases inTime : arrival.inTime now deadline with
    | false => rfl
    | true =>
      rw [if_pos rfl, Bool.true_and]
      cases event : arrival.event with
      | failed | ended => rfl
      | chunk bytes =>
        dsimp only
        by_cases fits : bytes.length ≤ errorClassifyCap - buffered.length
        · rw [if_pos fits, decide_eq_false (Nat.not_lt.mpr fits), Bool.false_or,
            inductionHypothesis, List.length_append, Nat.sub_add_eq]
        · rw [if_neg fits, decide_eq_true (Nat.lt_of_not_le fits)]
          rfl

/-! ## The prefetch -/

section

variable {reading : Reading} {bufferCap attemptStart deadline now : Nat} {held : Prefetch}
  {body : Body}

/-- What the prefetch holds in the end, measured by the chunks it has received. Of the last
activity it knows nothing, only of the first. If it succeeds, the rest of the body goes on
arriving from its end. -/
structure Prefetched (attemptStart now : Nat) (before : Prefetch) (body : Body)
    (ended : PrefetchEnd) : Prop where
  rest : ended.rest <:+ body
  total : ended.held.total = before.total + bytesIn (arrivals now (polled body ended.rest))
  chunks : ended.held.chunks = before.chunks + (arrivals now (polled body ended.rest)).length
  first : ended.held.firstByteLatency = before.firstByteLatency.or
    ((arrivals now (polled body ended.rest)).head?.map fun chunk => chunk.time - attemptStart)
  kept : ∀ latency, ended.result = .ok latency → ended.held.prefetched =
    before.prefetched ++ (arrivals now (polled body ended.rest)).map ChunkArrival.bytes
  past : ∀ chunk ∈ arrivals now (polled body ended.rest), chunk.time ≤ ended.time
  onward : ∀ latency, ended.result = .ok latency → ∀ later, later <:+ ended.rest →
    arrivals now (polled body later) =
      arrivals now (polled body ended.rest) ++ arrivals ended.time (polled ended.rest later)

/-- A prefetch that fails before the next chunk. -/
theorem prefetched_failed {rest : Body} {reason : AttemptTerminalReason} {time : Nat}
    (left : rest <:+ body) (quiet : arrivals now (polled body rest) = []) :
    Prefetched attemptStart now held body ⟨time, held, rest, .error reason⟩ := by
  refine ⟨left, ?_, ?_, ?_, nofun, ?_, nofun⟩
  · rw [quiet]
    rfl
  · rw [quiet]
    rfl
  · rw [quiet]
    exact Option.or_none.symm
  · rw [quiet]
    nofun

/-- A prefetch that is over with the chunk that it has just read. -/
theorem prefetched_over {counted : Prefetch} {rest : Body}
    {result : Except AttemptTerminalReason Nat} {time : Nat} :
    Prefetched attemptStart time counted rest ⟨time, counted, rest, result⟩ := by
  have quiet : arrivals time (polled rest rest) = [] := by
    rw [polled_self]
    rfl
  refine ⟨List.suffix_rfl, ?_, ?_, ?_, ?_, ?_, ?_⟩
  · rw [quiet]
    rfl
  · rw [quiet]
    rfl
  · rw [quiet]
    exact Option.or_none.symm
  · intro _ _
    rw [quiet]
    exact (List.append_nil _).symm
  · rw [quiet]
    nofun
  · intro _ _ later _
    rw [quiet]
    rfl

/-- One more chunk before the rest of the prefetch. -/
theorem Prefetched.cons {before counted : Prefetch} {arrival : Arrival} {bytes : List UInt8}
    {rest : Body} {ended : PrefetchEnd} (event : arrival.event = .chunk bytes)
    (totalled : counted.total = before.total + bytes.length)
    (chunked : counted.chunks = before.chunks + 1)
    (first : counted.firstByteLatency =
      before.firstByteLatency.or (some (max now arrival.time - attemptStart)))
    (retained : ∀ latency, ended.result = .ok latency →
      counted.prefetched = before.prefetched ++ [bytes])
    (passes : max now arrival.time ≤ ended.time)
    (later : Prefetched attemptStart (max now arrival.time) counted rest ended) :
    Prefetched attemptStart now before (arrival :: rest) ended := by
  have chunks : arrivals now (polled (arrival :: rest) ended.rest) =
      ⟨max now arrival.time, bytes⟩ ::
        arrivals (max now arrival.time) (polled rest ended.rest) := by
    rw [polled_cons later.rest, arrivals, event]
  refine ⟨later.rest.trans (List.suffix_cons _ _), ?_, ?_, ?_, ?_, ?_, ?_⟩
  · rw [chunks, bytesIn_cons, later.total, totalled, Nat.add_assoc]
  · rw [chunks, later.chunks, chunked, List.length_cons, Nat.add_assoc, Nat.add_comm 1]
  · rw [chunks, later.first, first, Option.or_assoc, Option.some_or]
    rfl
  · intro latency succeeds
    rw [chunks, later.kept latency succeeds, retained latency succeeds, List.append_assoc]
    rfl
  · intro chunk member
    rw [chunks] at member
    rcases List.mem_cons.mp member with rfl | inside
    · exact passes
    · exact later.past chunk inside
  · intro latency succeeds left suffix
    rw [chunks, polled_cons (suffix.trans later.rest), arrivals, event, List.cons_append,
      ← later.onward latency succeeds left suffix]

/-- A prefetch does not end before it starts. -/
theorem prefetchLoop_time :
    now ≤ (prefetchLoop reading bufferCap attemptStart deadline held now body).time := by
  induction body generalizing held now with
  | nil => exact Nat.le_max_left _ _
  | cons arrival rest inductionHypothesis =>
    unfold prefetchLoop
    split
    · cases arrival.event with
      | failed | ended => exact Nat.le_max_left _ _
      | chunk bytes =>
        dsimp only
        split
        · exact Nat.le_max_left _ _
        · split
          · exact Nat.le_max_left _ _
          · exact Nat.le_trans (Nat.le_max_left _ _) inductionHypothesis
    · exact Nat.le_max_left _ _

/-- What the loop of the prefetch leaves. -/
theorem prefetchLoop_prefetched : Prefetched attemptStart now held body
    (prefetchLoop reading bufferCap attemptStart deadline held now body) := by
  induction body generalizing held now with
  | nil => exact prefetched_failed List.suffix_rfl rfl
  | cons arrival rest inductionHypothesis =>
    unfold prefetchLoop
    by_cases inTime : arrival.inTime now deadline = true
    · rw [if_pos inTime]
      cases event : arrival.event with
      | failed | ended =>
        refine prefetched_failed (List.suffix_cons _ _) ?_
        rw [polled_cons List.suffix_rfl, arrivals, event]
      | chunk bytes =>
        dsimp only
        split
        · refine .cons event rfl rfl rfl ?_ (Nat.le_refl _) prefetched_over
          intro latency impossible
          cases impossible
        · split
          · exact .cons event rfl rfl rfl (fun _ _ => rfl) (Nat.le_refl _) prefetched_over
          · exact .cons event rfl rfl rfl (fun _ _ => rfl) prefetchLoop_time inductionHypothesis
    · rw [if_neg inTime]
      refine prefetched_failed List.suffix_rfl ?_
      rw [polled_self]
      rfl

variable {response : Response} {timeouts : EventTimeouts}

/-- What `prepareResponse` leaves of a body. Only a stream is read before it is forwarded. -/
def prepareRest (reading : Reading) (response : Response) (timeouts : EventTimeouts)
    (bufferCap attemptStart now : Nat) : Body :=
  if isStreaming response then
    (prefetch reading response timeouts bufferCap attemptStart now).rest
  else response.body

/-- A prepared response holds what was received of it, and the rest of it goes on arriving. -/
structure Prepares (now time : Nat) (body : Body) (prepared : PreparedResponse) : Prop where
  rest : prepared.upstream <:+ body
  kept : prepared.prefetched =
    (arrivals now (polled body prepared.upstream)).map ChunkArrival.bytes
  past : ∀ chunk ∈ arrivals now (polled body prepared.upstream), chunk.time ≤ time
  since : now ≤ time
  onward : ∀ later, later <:+ prepared.upstream → arrivals now (polled body later) =
    arrivals now (polled body prepared.upstream) ++
      arrivals time (polled prepared.upstream later)

/-- A response that is prepared was received as it was read. -/
theorem prepareResponse_prepares {prepared : PreparedResponse}
    (ready : (prepareResponse reading response timeouts bufferCap attemptStart now).2 =
      .ok prepared) :
    Prepares now (prepareResponse reading response timeouts bufferCap attemptStart now).1
      response.body prepared := by
  unfold prepareResponse at ready ⊢
  cases streaming : isStreaming response with
  | false =>
    simp only [streaming, Bool.not_false, if_true] at ready
    cases ready
    have quiet : arrivals now (polled response.body response.body) = [] := by
      rw [polled_self]
      rfl
    refine ⟨List.suffix_rfl, ?_, ?_, Nat.le_refl _, ?_⟩
    · rw [quiet]
      rfl
    · rw [quiet]
      nofun
    · intro later _
      rw [quiet]
      rfl
  | true =>
    simp only [streaming, Bool.not_true, Bool.false_eq_true, if_false] at ready ⊢
    have prefetched : Prefetched attemptStart now (Prefetch.start bufferCap) response.body
      (prefetch reading response timeouts bufferCap attemptStart now) := prefetchLoop_prefetched
    split at ready
    · rename_i latency succeeds
      cases ready
      exact ⟨prefetched.rest, prefetched.kept latency succeeds, prefetched.past,
        prefetchLoop_time, prefetched.onward latency succeeds⟩
    · cases ready

/-- A failed prefetch counts what it has received, but takes the first for the last
activity. -/
theorem prepareResponse_failure {failure : PrefetchFailure}
    (failed : (prepareResponse reading response timeouts bufferCap attemptStart now).2 =
      .error failure) {chunks : List ChunkArrival}
    (received : arrivals now (polled response.body
      (prepareRest reading response timeouts bufferCap attemptStart now)) = chunks) :
    failure.upstreamBytes = bytesIn chunks ∧ failure.upstreamChunks = chunks.length ∧
      failure.lastActivityOffset =
        chunks.head?.map fun chunk => chunk.time - attemptStart := by
  unfold prepareResponse at failed
  unfold prepareRest at received
  cases streaming : isStreaming response with
  | false =>
    simp only [streaming, Bool.not_false, if_true] at failed
    cases failed
  | true =>
    simp only [streaming, Bool.not_true, Bool.false_eq_true, if_false] at failed
    rw [if_pos streaming] at received
    have prefetched : Prefetched attemptStart now (Prefetch.start bufferCap) response.body
      (prefetch reading response timeouts bufferCap attemptStart now) := prefetchLoop_prefetched
    subst received
    split at failed
    · cases failed
    · cases failed
      refine ⟨?_, ?_, ?_⟩
      · exact prefetched.total.trans (Nat.zero_add _)
      · exact prefetched.chunks.trans (Nat.zero_add _)
      · exact prefetched.first.trans Option.none_or

end

/-! ## Streams -/

/-- The pump counts the chunks of a stream as they are received. `prefetched` of them are handed
over at the start, and the turns are those of the client, one for each offer of a chunk and one
before it for each read. From the instant `ready` on, the client takes every chunk but the last
within the budget; the last one finds the pump waiting for it; and the task does not hear
after it that the client is gone, during its offer or during the read that follows if the
client takes it. -/
def accounted (budget : Nat) (prefetched ready : Nat) (client : List ClientTurn) :
    List ChunkArrival → Bool
  | [] => client.headD (.ready 0) ≠ .gone
  | chunk :: later =>
      let offers := if prefetched = 0 then client.tail else client
      (!later.isEmpty || decide (ready ≤ chunk.time)) &&
        match (offers.headD (.ready 0)).takes budget with
        | some delay =>
            accounted budget (prefetched - 1) (max ready chunk.time + delay) offers.tail later
        | none => later.isEmpty && decide (offers.headD (.ready 0) ≠ .gone)

/-- What the end of a pump has to do with the chunks that it counted from a state on. -/
structure Accounts (plan : PumpPlan) (prefetched : Nat) (state : Pumping)
    (chunks : List ChunkArrival) (ended : Pumping × Option PumpResult) : Prop where
  delivered : ended.1.delivered.flatten.length ≤
    state.delivered.flatten.length + bytesIn chunks
  idle : chunks = [] → ∀ result, ended.2 = some result → result.metrics =
    if state.turn = .gone then PumpResult.cancelled.metrics else state.metrics
  exact_iff : chunks ≠ [] → ∀ result, ended.2 = some result →
    (result.metrics.counters = state.metrics.counters.add plan.requestStart chunks ↔
      accounted plan.writeBudget prefetched state.now state.client chunks = true)

section

variable {reading : Reading} {plan : PumpPlan} {state observed : Pumping} {prefetched : Nat}
  {chunk : ChunkArrival} {later : List ChunkArrival}
  {ended : Pumping × Option PumpResult}

/-- A pump that receives nothing more. -/
theorem accounts_idle {chunks : List ChunkArrival} (quiet : chunks = [])
    (delivered : ended.1.delivered = state.delivered)
    (own : ∀ result, ended.2 = some result → result.metrics =
      if state.turn = .gone then PumpResult.cancelled.metrics else state.metrics) :
    Accounts plan prefetched state chunks ended := by
  refine ⟨?_, fun _ => own, fun nonempty => absurd quiet nonempty⟩
  rw [delivered]
  exact Nat.le_add_right _ _

/-- A chunk that has been counted, before it is offered. `offers` are the turns that are left
to the client then. -/
structure Observed (plan : PumpPlan) (prefetched : Nat) (state : Pumping) (chunk : ChunkArrival)
    (observed : Pumping) : Prop where
  counted : observed.metrics.counters =
    state.metrics.counters.add plan.requestStart [⟨observed.now, chunk.bytes⟩]
  now : observed.now = max state.now chunk.time
  client : observed.client = if prefetched = 0 then state.client.tail else state.client
  delivered : observed.delivered = state.delivered
  started : plan.requestStart ≤ chunk.time

/-- A chunk of the live stream is counted when it is read. -/
theorem received_observed (reading : Reading) (arrival : Arrival) (rest : Body)
    (bytes : List UInt8) {since : Nat} (ready : since ≤ state.now)
    (started : plan.requestStart ≤ since) :
    Observed plan 0 state ⟨max since arrival.time, bytes⟩
      ((state.received arrival rest).counted reading plan bytes) := by
  refine ⟨?_, ?_, rfl, rfl, Nat.le_trans started (Nat.le_max_left _ _)⟩
  · rw [Counters.add_one]
    rfl
  · show max state.now arrival.time = max state.now (max since arrival.time)
    omega

/-- A chunk that the client does not take is the last that counts.

Proof: the metrics of the pump are its own unless the task drops it. They count the chunk and
none of those that were received behind it, at the instant of the offer. -/
theorem accounts_stopped (seen : Observed plan prefetched state chunk observed)
    {stopped : Pumping} {result : PumpResult}
    (offered : observed.offer plan chunk.bytes = (stopped, some result)) :
    Accounts plan prefetched state (chunk :: later) (stopped, some result) := by
  rcases offer_cases plan observed chunk.bytes with
    ⟨delay, _, taken⟩ | ⟨instant, left, refused, stops, _, own⟩
  · rw [taken] at offered
    cases offered
  rw [stops] at offered
  cases offered
  refine ⟨?_, nofun, ?_⟩
  · show observed.delivered.flatten.length ≤ _
    rw [seen.delivered]
    exact Nat.le_add_right _ _
  · rintro _ _ ⟨⟩
    unfold accounted
    dsimp only
    rw [← seen.client, show observed.client.headD (.ready 0) = observed.turn from rfl, refused, own]
    by_cases gone : observed.turn = .gone
    · rw [if_pos gone]
      simp only [gone, ne_eq, not_true_eq_false, decide_false, Bool.and_false, Bool.false_eq_true,
        iff_false]
      exact Counters.zero_ne_add
    · rw [if_neg gone, seen.counted]
      simp only [gone, ne_eq, not_false_eq_true, decide_true, Bool.and_true]
      cases later with
      | nil =>
        rw [Counters.add_timed_iff seen.started (by rw [seen.now]; exact Nat.le_max_right _ _),
          seen.now]
        simp only [List.isEmpty_nil, Bool.not_true, Bool.false_or, Bool.and_true,
          decide_eq_true_eq]
        omega
      | cons next rest =>
        simp only [List.isEmpty_cons, Bool.and_false, Bool.false_eq_true, iff_false]
        intro same
        have fewer := congrArg Counters.chunks same
        simp only [Counters.add, List.length_cons, List.length_nil] at fewer
        omega

/-- A chunk that the client takes counts together with those after it.

Proof: if others follow, they set the last activity, and the instant at which this one was
counted does not show. If none follows, the pump still has to end with its own metrics. -/
theorem accounts_taken (seen : Observed plan prefetched state chunk observed) {sent : Pumping}
    (offered : observed.offer plan chunk.bytes = (sent, none))
    (onward : Accounts plan (prefetched - 1) sent later ended) :
    Accounts plan prefetched state (chunk :: later) ended := by
  rcases offer_cases plan observed chunk.bytes with
    ⟨delay, takes, taken⟩ | ⟨instant, left, refused, stops, _⟩
  swap
  · rw [stops] at offered
    cases offered
  rw [taken] at offered
  cases offered
  have relayed := onward.delivered
  refine ⟨?_, nofun, ?_⟩
  · simp only [seen.delivered, List.flatten_append, List.flatten_singleton,
      List.length_append] at relayed
    rw [bytesIn_cons]
    omega
  · intro _ result ends
    unfold accounted
    dsimp only
    rw [← seen.client, show observed.client.headD (.ready 0) = observed.turn from rfl, takes,
      ← seen.now]
    dsimp only
    cases later with
    | nil =>
      have own := onward.idle rfl result ends
      rw [own, accounted]
      simp only [List.isEmpty_nil, Bool.not_true, Bool.false_or, Bool.and_eq_true,
        decide_eq_true_eq]
      show (if observed.awaited.turn = .gone then _ else observed.metrics).counters = _ ↔
        _ ∧ observed.awaited.turn ≠ .gone
      by_cases gone : observed.awaited.turn = .gone
      · rw [if_pos gone]
        exact ⟨fun same => absurd same Counters.zero_ne_add, fun both => absurd gone both.2⟩
      · rw [if_neg gone, seen.counted,
          Counters.add_timed_iff seen.started (by rw [seen.now]; exact Nat.le_max_right _ _),
          seen.now]
        constructor
        · intro same
          exact ⟨by omega, gone⟩
        · rintro ⟨early, _⟩
          omega
    | cons next rest =>
      have both := onward.exact_iff (List.cons_ne_nil _ _) result ends
      have counted : (observed.metrics.counters.add plan.requestStart (next :: rest)) =
          state.metrics.counters.add plan.requestStart (chunk :: next :: rest) := by
        rw [seen.counted, Counters.add_cons]
        exact Counters.add_retimed (List.cons_ne_nil _ _) rfl
      rw [← counted]
      simp only [List.isEmpty_cons, Bool.not_false, Bool.true_or, Bool.true_and]
      exact both

/-- The live stream is accounted for by what is received of it.

Proof: by the ways the stream can go on. An item is read at its arrival or when the pump is
ready, whichever is later; a chunk is counted then and offered, and the end of the stream, a
failure or a bound that is missed leave the metrics as they are. -/
theorem pumpLoop_accounts (eventDeadline : Option Nat) {body : Body} {since : Nat}
    (left : state.upstream = body) (ready : since ≤ state.now)
    (started : plan.requestStart ≤ since) :
    (pumpLoop reading plan state eventDeadline body).1.upstream <:+ body ∧
      Accounts plan 0 state
        (arrivals since (polled body (pumpLoop reading plan state eventDeadline body).1.upstream))
        (pumpLoop reading plan state eventDeadline body) := by
  refine pumpLoop_rule (motive := fun state body ended =>
    ∀ since, state.upstream = body → since ≤ state.now → plan.requestStart ≤ since →
      ended.1.upstream <:+ body ∧
        Accounts plan 0 state (arrivals since (polled body ended.1.upstream)) ended)
    ?_ ?_ ?_ ?_ ?_ state eventDeadline body since left ready started
  · intro state body gone since left _ _
    refine ⟨left ▸ List.suffix_rfl, accounts_idle ?_ rfl ?_⟩
    · rw [show state.awaited.upstream = body from left, polled_self]
      rfl
    · rintro result ⟨⟩
      rw [if_pos gone]
  · intro state body eventDeadline stays since left _ _
    refine ⟨left ▸ List.suffix_rfl, accounts_idle ?_ rfl ?_⟩
    · rw [show (state.missed _).1.upstream = body from left, polled_self]
      rfl
    · intro result missed
      rw [if_neg stays]
      exact missed_own result missed
  · intro state arrival rest outcome stays quiet since _ _ _
    refine ⟨List.suffix_cons _ _, accounts_idle ?_ rfl ?_⟩
    · rw [show (state.received arrival rest).upstream = rest from rfl,
        polled_cons List.suffix_rfl, arrivals]
      cases event : arrival.event with
      | chunk bytes => exact absurd event (quiet bytes)
      | failed | ended => rfl
    · rintro result ⟨⟩
      rw [if_neg stays]
  · intro state arrival rest bytes stopped result _ event offered since _ ready started
    have seen := received_observed reading arrival rest bytes ready started
    have left : stopped.upstream = rest := offer_upstream offered
    rw [left, polled_cons List.suffix_rfl, polled_self, arrivals, event]
    exact ⟨List.suffix_cons _ _, accounts_stopped seen offered⟩
  · intro state arrival rest bytes sent ended _ event offered onward since _ ready started
    have seen := received_observed reading arrival rest bytes ready started
    obtain ⟨suffix, accounts⟩ := onward (max since arrival.time) (offer_upstream offered)
      (Nat.le_trans (by rw [seen.now]; exact Nat.le_max_right _ _) (offer_now offered))
      (Nat.le_trans started (Nat.le_max_left _ _))
    rw [polled_cons suffix, arrivals, event]
    exact ⟨suffix.trans (List.suffix_cons _ _), accounts_taken seen offered accounts⟩

/-- A stream is accounted for by the chunks that are handed over at its start and those that
are received of the rest.

Proof: by induction on the chunks handed over, each of which is counted when it is offered,
long after its arrival. The pump reads on only if the client takes all of them. -/
theorem handedOver_accounts {chunks : List ChunkArrival} {body : Body} {since : Nat}
    {idle : Option Nat}
    (past : ∀ chunk ∈ chunks, plan.requestStart ≤ chunk.time ∧ chunk.time ≤ since)
    (left : state.upstream = body) (ready : since ≤ state.now)
    (started : plan.requestStart ≤ since)
    (sends : ∀ sent, sendPrefetched reading plan state (chunks.map ChunkArrival.bytes) =
      (sent, none) → ended =
        pumpLoop reading plan (sent.schedule idle) (idle.map (sent.now + ·)) body)
    (stops : ∀ stopped result, sendPrefetched reading plan state
      (chunks.map ChunkArrival.bytes) = (stopped, some result) → ended = (stopped, some result)) :
    ended.1.upstream <:+ body ∧ Accounts plan chunks.length state
      (chunks ++ arrivals since (polled body ended.1.upstream)) ended := by
  induction chunks generalizing state with
  | nil =>
    rw [sends state rfl]
    obtain ⟨suffix, onward⟩ := @pumpLoop_accounts reading plan (state.schedule idle)
      (idle.map (state.now + ·)) body since left ready started
    exact ⟨suffix, onward.delivered, onward.idle, onward.exact_iff⟩
  | cons chunk rest inductionHypothesis =>
    obtain ⟨early, arrived⟩ := past chunk List.mem_cons_self
    have seen : Observed plan (rest.length + 1) state chunk
        (state.observe reading plan chunk.bytes) := by
      refine ⟨?_, ?_, (if_neg (Nat.succ_ne_zero _)).symm, rfl, early⟩
      · rw [Counters.add_one]
        rfl
      · exact (Nat.max_eq_left (Nat.le_trans arrived ready)).symm
    rcases offer_cases plan (state.observe reading plan chunk.bytes) chunk.bytes with
      ⟨delay, _, taken⟩ | ⟨late, result, _, refused, _⟩
    · simp only [List.map_cons, sendPrefetched, taken] at sends stops
      obtain ⟨suffix, onward⟩ := inductionHypothesis
        (fun other member => past other (List.mem_cons_of_mem _ member)) (by exact left)
        (by exact Nat.le_trans ready (Nat.le_add_right _ _)) sends stops
      exact ⟨suffix, accounts_taken seen taken onward⟩
    · simp only [List.map_cons, sendPrefetched, refused] at stops
      rw [stops _ _ rfl]
      exact ⟨by rw [← left]; exact List.suffix_rfl, accounts_stopped seen refused⟩

/-- The task of a stream is accounted for by what was received of its response. -/
theorem streamResponse_accounts {timeouts : IoTimeouts} {prepared : PreparedResponse}
    {attemptStart requestStart now time spawned : Nat} {client : List ClientTurn} {body : Body}
    (prepares : Prepares now time body prepared) (started : requestStart ≤ now)
    (ready : time ≤ spawned)
    (ends : streamResponse reading timeouts prepared attemptStart requestStart spawned client =
      ended) :
    ended.1.delivered.flatten.length ≤ bytesIn (arrivals now (polled body ended.1.upstream)) ∧
      ∀ result, ended.2 = some result →
        (result.metrics.counters =
            Counters.zero.add requestStart (arrivals now (polled body ended.1.upstream)) ↔
          (arrivals now (polled body ended.1.upstream) = [] ∨
            accounted timeouts.responseWrite prepared.prefetched.length spawned client
              (arrivals now (polled body ended.1.upstream)) = true)) := by
  generalize makes : streamPlan timeouts prepared attemptStart requestStart = plan
  have pumped : pumpUpstream reading plan (streamParser prepared) spawned client
      prepared.upstream = ended := by
    rw [← makes]
    exact ends
  unfold pumpUpstream at pumped
  dsimp only at pumped
  have kept : plan.prefetched =
      (arrivals now (polled body prepared.upstream)).map ChunkArrival.bytes := by
    rw [← makes]
    exact prepares.kept
  rw [kept] at pumped
  have began : plan.requestStart = requestStart := by
    rw [← makes]
    rfl
  obtain ⟨suffix, accounts⟩ := @handedOver_accounts reading plan
    (Pumping.start plan (streamParser prepared) spawned client prepared.upstream) ended
    (arrivals now (polled body prepared.upstream)) prepared.upstream time
    (if plan.streaming then plan.idle else none)
    (by
      intro chunk member
      rw [began]
      exact ⟨Nat.le_trans started (arrivals_since member), prepares.past chunk member⟩)
    rfl ready (began ▸ Nat.le_trans started prepares.since)
    (by
      intro sent taken
      rw [← pumped, taken])
    (by
      intro stopped result refused
      rw [← pumped, refused])
  have count : (arrivals now (polled body prepared.upstream)).length =
      prepared.prefetched.length := by
    rw [prepares.kept, List.length_map]
  rw [← prepares.onward _ suffix, count] at accounts
  have budget : plan.writeBudget = timeouts.responseWrite := by
    rw [← makes]
    rfl
  refine ⟨?_, ?_⟩
  · have delivered := accounts.delivered
    exact Nat.le_trans delivered (Nat.le_of_eq (Nat.zero_add _))
  · intro result finishes
    by_cases quiet : arrivals now (polled body ended.1.upstream) = []
    · refine iff_of_true ?_ (.inl quiet)
      rw [quiet, accounts.idle quiet result finishes]
      split <;> rfl
    · rw [or_iff_right quiet, ← budget, ← began]
      exact accounts.exact_iff quiet result finishes

end

end Orihsus.Gateway
