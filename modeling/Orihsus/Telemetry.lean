import Orihsus.Endings
import Orihsus.Reads

/-!
# The telemetry of the attempts

The record of a request says of each attempt how many bytes and chunks were received from its
response, and when the last of them arrived. The counts are right as long as nothing comes
between the arrivals and the record, and six things can: an error body that is given up is not
counted at all; a prefetch that fails leaves its first activity for its last, measured from
the attempt; a stream without a slot leaves nothing; prefetched chunks count when they are
offered to the client, and those behind a chunk that it does not take not at all; a chunk that
arrives while a slow client keeps the pump waiting is timed by its read; and a client that goes
away takes the counts of its stream with it, unless the pump finds the channel closed.
-/

namespace Orihsus.Gateway

/-- The counters of a summary. -/
def AttemptSummary.counters (summary : AttemptSummary) : Counters :=
  ⟨summary.upstreamBytes, summary.upstreamChunks, summary.lastActivityOffset⟩

namespace EndedAttempt

variable (setup : Setup) (ended : EndedAttempt) (pump : Option (Nat × List ClientTurn))

/-- What is never polled of a response whose head came at the given instant: what the last
reader of its body leaves. -/
def unread (now : Nat) (response : Response) : Body :=
  if Attempt.retryable response.status then
    (consumeClassifyBody response setup.gateway.timeouts.upstreamErrorBody
      ended.attempt.attemptStart ended.attempt.requestStart now).rest
  else
    match (ended.concluded setup).verdict, pump with
    | .forward prepared, some (spawned, client) =>
        (streamResponse setup.libraries.reading setup.gateway.timeouts prepared
          ended.attempt.attemptStart ended.attempt.requestStart spawned client).1.upstream
    | _, _ =>
        prepareRest setup.libraries.reading response
          (setup.gateway.eventTimeoutsFor ended.attempt.model) sseEventCap
          ended.attempt.attemptStart now

/-- Everything that is received of the response, by the instants of its arrival. -/
def received : List ChunkArrival :=
  match ended.attempt.heard setup.gateway ended.exchange with
  | none => []
  | some (now, response) =>
      arrivals now (polled response.body (ended.unread setup pump now response))

/-- Nothing comes between what is received of the response and the counters of the attempt:
nothing was received, or the path that the attempt takes counts it and times it right. -/
def undistorted : Bool :=
  let received := ended.received setup pump
  received.isEmpty ||
    match ended.attempt.heard setup.gateway ended.exchange with
    | none => true
    | some (now, response) =>
        if Attempt.retryable response.status then
          readable (now + setup.gateway.timeouts.upstreamErrorBody) errorClassifyCap now
            response.body
        else
          match (ended.concluded setup).verdict, pump with
          | .retry _ _, _ =>
              decide (ended.attempt.attemptStart = ended.attempt.requestStart) &&
                decide (received.head?.map ChunkArrival.time =
                  received.getLast?.map ChunkArrival.time)
          | .forward _, none => false
          | .forward prepared, some (spawned, client) =>
              accounted setup.gateway.timeouts.responseWrite prepared.prefetched.length spawned
                client received

/-- The counters in the summary of the attempt: those of its stream, if there is one. -/
def counters : Counters :=
  match (ended.concluded setup).verdict, pump with
  | .forward prepared, some (spawned, client) =>
      match (streamResponse setup.libraries.reading setup.gateway.timeouts prepared
        ended.attempt.attemptStart ended.attempt.requestStart spawned client).2 with
      | some result => result.metrics.counters
      | none => (ended.summary setup).counters
  | _, _ => (ended.summary setup).counters

end EndedAttempt

/-! ## Counters and arrivals -/

section

variable {start attemptStart now : Nat} {chunks : List ChunkArrival}

/-- The counters of an attempt that has counted nothing are right if nothing was received. -/
theorem zero_exact_iff :
    Counters.zero = Counters.zero.add start chunks ↔ chunks.isEmpty = true := by
  cases chunks with
  | nil => exact ⟨fun _ => rfl, fun _ => rfl⟩
  | cons chunk later => exact ⟨fun same => absurd same Counters.zero_ne_add, nofun⟩

/-- Of chunks that follow each other, the first is not later than the last. -/
theorem head_le_last {first : ChunkArrival} {later : List ChunkArrival}
    (times : ((first :: later).map ChunkArrival.time).IsChain (· ≤ ·)) {last : ChunkArrival}
    (final : (first :: later).getLast? = some last) : first.time ≤ last.time := by
  rw [List.isChain_iff_pairwise, List.map_cons, List.pairwise_cons] at times
  rcases List.mem_cons.mp (List.mem_of_getLast? final) with rfl | after
  · exact Nat.le_refl _
  · exact times.1 _ (List.mem_map_of_mem after)

/-- The first activity since the attempt is the last activity since the request only if
both start together and all chunks arrive at once. -/
theorem first_last_iff (started : start ≤ attemptStart) (sent : attemptStart ≤ now)
    (times : (now :: chunks.map ChunkArrival.time).IsChain (· ≤ ·)) :
    (⟨bytesIn chunks, chunks.length, chunks.head?.map fun chunk => chunk.time - attemptStart⟩ =
        Counters.zero.add start chunks) ↔
      (chunks.isEmpty || (decide (attemptStart = start) &&
        decide (chunks.head?.map ChunkArrival.time =
          chunks.getLast?.map ChunkArrival.time))) = true := by
  cases chunks with
  | nil => exact ⟨fun _ => rfl, fun _ => rfl⟩
  | cons first later =>
    obtain ⟨last, final⟩ : ∃ last, (first :: later).getLast? = some last :=
      ⟨_, List.getLast?_eq_some_getLast (List.cons_ne_nil _ _)⟩
    rw [List.map_cons, List.isChain_cons_cons, ← List.map_cons] at times
    have ordered := head_le_last times.2 final
    have sentFirst : now ≤ first.time := times.1
    simp only [Counters.add, Counters.zero, final, Counters.mk.injEq, Nat.zero_add, true_and,
      List.head?_cons, Option.map_some, Option.some_or, Option.some.injEq, List.isEmpty_cons,
      Bool.false_or, Bool.and_eq_true, decide_eq_true_eq]
    omega

end

/-! ## One attempt -/

/-- An error response is consumed exactly if its body is readable. -/
theorem consume_readable (response : Response) (timeout attemptStart requestStart now : Nat) :
    (consumeClassifyBody response timeout attemptStart requestStart now).result.isSome =
      readable (now + timeout) errorClassifyCap now response.body :=
  consumeLoop_readable

namespace EndedAttempt

variable {setup : Setup} {ended : EndedAttempt} {pump : Option (Nat × List ClientTurn)}
  {now : Nat} {response : Response} {prepared : PreparedResponse}

/-- What is received of a response that is heard. -/
theorem received_heard
    (answered : ended.attempt.heard setup.gateway ended.exchange = some (now, response)) :
    ended.received setup pump =
      arrivals now (polled response.body (ended.unread setup pump now response)) := by
  unfold received
  rw [answered]

/-- A response is not heard before the attempt starts. -/
theorem heard_after
    (answered : ended.attempt.heard setup.gateway ended.exchange = some (now, response)) :
    ended.attempt.attemptStart ≤ now := by
  unfold Attempt.heard at answered
  split at answered
  · split at answered
    · cases answered
      exact Nat.le_max_left _ _
    · cases answered
  · cases answered

/-- An attempt that forwards its response is over when the response is prepared. -/
theorem forwarded_time
    (answered : ended.attempt.heard setup.gateway ended.exchange = some (now, response))
    (usable : Attempt.retryable response.status = false) :
    (ended.concluded setup).time = (prepareResponse setup.libraries.reading response
      (setup.gateway.eventTimeoutsFor ended.attempt.model) sseEventCap
      ended.attempt.attemptStart now).1 := by
  unfold Attempt.heard at answered
  split at answered
  · rename_i time found exchanged
    split at answered
    · rename_i inTime
      cases answered
      unfold concluded Attempt.conclude
      rw [exchanged]
      dsimp only
      unfold Attempt.retryable at usable
      simp only [Bool.or_eq_false_iff, decide_eq_false_iff_not] at usable
      obtain ⟨⟨limited, denied⟩, failing⟩ := usable
      rw [if_pos inTime, Attempt.respond, if_neg limited, denied, failing,
        if_neg Bool.false_ne_true, if_neg Bool.false_ne_true]
      split <;> rename_i prepares <;> rw [prepares]
    · cases answered
  · cases answered

/-- An attempt that is retried has its own counters. -/
theorem counters_retried {report : Option Report} {saved : Option ConsumedResponse}
    (verdict : (ended.concluded setup).verdict = .retry report saved) :
    ended.counters setup pump = (ended.summary setup).counters := by
  unfold counters
  rw [verdict]

/-- The counters of an attempt that is retried are those that its own end leaves. -/
theorem retried_exact_iff (started : ended.attempt.requestStart ≤ ended.attempt.attemptStart)
    {summary : AttemptSummary} {report : Option Report} {saved : Option ConsumedResponse}
    (ending : Attempt.Ending setup.gateway setup.libraries ended.attempt ended.exchange summary
      (.retry report saved))
    (verdict : (ended.concluded setup).verdict = .retry report saved) :
    summary.counters =
        Counters.zero.add ended.attempt.requestStart (ended.received setup pump) ↔
      ended.undistorted setup pump = true := by
  unfold undistorted
  cases ending with
  | unheard latency reason quiet =>
    unfold received
    rw [quiet]
    exact ⟨fun _ => rfl, fun _ => rfl⟩
  | @unreadable now response failure answered refused cut =>
    have cutShort := consume_readable response setup.gateway.timeouts.upstreamErrorBody
      ended.attempt.attemptStart ended.attempt.requestStart now
    rw [cut] at cutShort
    rw [answered]
    dsimp only
    rw [if_pos refused, ← cutShort, Option.isSome_none, Bool.or_false]
    exact zero_exact_iff
  | @rejected now response consumed failure answered refused read =>
    have whole := consume_readable response setup.gateway.timeouts.upstreamErrorBody
      ended.attempt.attemptStart ended.attempt.requestStart now
    rw [read] at whole
    rw [answered, received_heard answered]
    unfold unread
    dsimp only
    rw [if_pos refused, if_pos refused, ← whole, Option.isSome_some, Bool.or_true]
    exact ⟨fun _ => rfl, fun _ => consumeLoop_counts read⟩
  | @unprepared now response failure answered usable failed =>
    have heard := @received_heard setup ended pump now response answered
    unfold unread at heard
    rw [if_neg (Bool.eq_false_iff.mp usable), verdict] at heard
    obtain ⟨bytes, count, first⟩ := prepareResponse_failure failed heard.symm
    have counters : (observePrefetchFailure failure (ended.attempt.summary
        (some (now - ended.attempt.attemptStart)) .retryableResponse)).counters =
        ⟨failure.upstreamBytes, failure.upstreamChunks, failure.lastActivityOffset⟩ := rfl
    rw [answered, verdict, counters, bytes, count, first]
    dsimp only
    rw [if_neg (Bool.eq_false_iff.mp usable)]
    refine first_last_iff started (heard_after answered) ?_
    rw [heard]
    exact arrivals_chain _ _

/-- An attempt whose response is streamed has the counters of the stream. -/
theorem counters_streamed {spawned : Nat} {client : List ClientTurn}
    {result : PumpResult} (verdict : (ended.concluded setup).verdict = .forward prepared)
    (ends : (streamResponse setup.libraries.reading setup.gateway.timeouts prepared
      ended.attempt.attemptStart ended.attempt.requestStart spawned client).2 = some result) :
    ended.counters setup (some (spawned, client)) = result.metrics.counters := by
  unfold counters
  rw [verdict]
  dsimp only
  rw [ends]

/-- A forwarded response that finds no slot leaves no counters. -/
theorem unstreamed_exact_iff
    (ending : Attempt.Ending setup.gateway setup.libraries ended.attempt ended.exchange
      (ended.summary setup) (.forward prepared))
    (verdict : (ended.concluded setup).verdict = .forward prepared) :
    ended.counters setup none =
        Counters.zero.add ended.attempt.requestStart (ended.received setup none) ↔
      ended.undistorted setup none = true := by
  unfold counters undistorted
  rw [verdict]
  dsimp only
  generalize ended.summary setup = summary at ending
  cases ending with
  | forwarded answered usable ready =>
    rw [answered]
    dsimp only
    rw [if_neg (Bool.eq_false_iff.mp usable), Bool.or_false]
    exact zero_exact_iff

/-- What a stream has to do with what is received of its response. -/
theorem streamed_accounts (started : ended.attempt.requestStart ≤ ended.attempt.attemptStart)
    {summary : AttemptSummary} {spawned : Nat} {client : List ClientTurn}
    (spawnedAfter : (ended.concluded setup).time ≤ spawned)
    (ending : Attempt.Ending setup.gateway setup.libraries ended.attempt ended.exchange summary
      (.forward prepared))
    (verdict : (ended.concluded setup).verdict = .forward prepared)
    {pumped : Pumping × Option PumpResult}
    (ends : streamResponse setup.libraries.reading setup.gateway.timeouts prepared
      ended.attempt.attemptStart ended.attempt.requestStart spawned client = pumped) :
    pumped.1.delivered.flatten.length ≤
        bytesIn (ended.received setup (some (spawned, client))) ∧
      ∀ result, pumped.2 = some result →
        (result.metrics.counters = Counters.zero.add ended.attempt.requestStart
            (ended.received setup (some (spawned, client))) ↔
          ended.undistorted setup (some (spawned, client)) = true) := by
  cases ending with
  | @forwarded now response _ answered usable ready =>
    have heard := @received_heard setup ended (some (spawned, client)) now response answered
    unfold unread at heard
    rw [if_neg (Bool.eq_false_iff.mp usable), verdict] at heard
    dsimp only at heard
    rw [ends] at heard
    rw [forwarded_time answered usable] at spawnedAfter
    have accounts := streamResponse_accounts (prepareResponse_prepares ready)
      (Nat.le_trans started (heard_after answered)) spawnedAfter ends
    rw [← heard] at accounts
    refine ⟨accounts.1, ?_⟩
    intro result finishes
    unfold undistorted
    rw [accounts.2 result finishes, answered, verdict]
    dsimp only
    rw [if_neg (Bool.eq_false_iff.mp usable), Bool.or_eq_true, List.isEmpty_iff]

/-- The counters of an attempt are exact if and only if nothing distorts them. -/
theorem counters_exact_iff (room : ended.attempt.attempts.length < maxAuditAttempts)
    (started : ended.attempt.requestStart ≤ ended.attempt.attemptStart)
    (spawnedAfter : ∀ spawned client, pump = some (spawned, client) →
      (ended.concluded setup).time ≤ spawned) :
    ended.counters setup pump =
        Counters.zero.add ended.attempt.requestStart (ended.received setup pump) ↔
      ended.undistorted setup pump = true := by
  have ending := (@Setup.ended_summary setup ended room).2
  cases verdict : (ended.concluded setup).verdict with
  | retry report saved =>
    rw [verdict] at ending
    rw [counters_retried verdict]
    exact retried_exact_iff started ending verdict
  | forward prepared =>
    rw [verdict] at ending
    cases pump with
    | none => exact unstreamed_exact_iff ending verdict
    | some task =>
      obtain ⟨spawned, client⟩ := task
      obtain ⟨result, ends⟩ := Option.isSome_iff_exists.mp
        (streamResponse_ends setup.libraries.reading setup.gateway.timeouts prepared
          ended.attempt.attemptStart ended.attempt.requestStart spawned client)
      rw [counters_streamed verdict ends]
      exact (streamed_accounts started (spawnedAfter spawned client rfl) ending verdict rfl).2
        result ends

end EndedAttempt

/-! ## Runs -/

namespace Handler

variable {handler : Handler} {before after first last : Handling} {action : HandlerAction}
  {trace : List (Runs.Transition Handling HandlerAction)}

/-- The bytes of an attempt's response that the client was given. -/
def relayed (handler : Handler) (handling : Handling) (ended : EndedAttempt) : List UInt8 :=
  match (ended.concluded handler.setup).verdict, handling.station with
  | .forward _, .streamed answer => answer.body
  | _, _ => []

/-- The summary of an attempt counts what was received from its response, and no less than
the client was given of it. -/
def Exact (handler : Handler) (trace : List (Runs.Transition Handling HandlerAction))
    (handling : Handling) (ended : EndedAttempt) (summary : AttemptSummary) : Prop :=
  summary.counters = Counters.zero.add handling.proxy.requestStart
      (ended.received handler.setup (pumps trace).head?) ∧
    (relayed handler handling ended).length ≤ summary.upstreamBytes

/-- The task of a stream is spawned at the clock. -/
theorem attempting_spawned {snapshot : RuntimeState} {identity : GatewayIdentity}
    {body : List UInt8} {prepared : PreparedResponse} {fingerprint : String}
    {selection : Pool.Selection} {attemptStart spawned : Nat}
    (attempting : before.station = .attempting snapshot identity body)
    (stepped : handler.Step before action after)
    (streaming : after.station = .streaming prepared fingerprint selection attemptStart spawned) :
    spawned = before.proxy.system.clock := by
  rcases attempting_step attempting stepped with same | dropped |
    ⟨slotFree, outcome, rfl, finished, rfl⟩
  · rw [same, attempting] at streaming
    cases streaming
  · rw [dropped] at streaming
    cases streaming
  · cases outcome with
    | unavailable retryAfter => cases streaming
    | lastResponse saved =>
      rcases saved with _ | ⟨consumed, key⟩ <;> cases streaming
    | forward found key chosen start =>
      simp only [finalized, finalizeResponse] at streaming
      split at streaming
      · cases streaming
      · cases streaming
        rfl

/-- Every attempt that is over was over by an instant. -/
def OverBy (handler : Handler) (trace : List (Runs.Transition Handling HandlerAction))
    (instant : Nat) : Prop :=
  ∀ ended ∈ Setup.endings (handler.loop trace), (ended.concluded handler.setup).time ≤ instant

/-- No task is spawned before the attempts of its request are over. -/
structure Spawned (handler : Handler) (trace : List (Runs.Transition Handling HandlerAction))
    (handling : Handling) : Prop where
  streaming : ∀ prepared fingerprint selection attemptStart spawned,
    handling.station = .streaming prepared fingerprint selection attemptStart spawned →
      OverBy handler trace spawned
  pumped : ∀ task ∈ pumps trace, OverBy handler trace task.1

/-- A step that ends no attempt. -/
theorem endings_still (unended : ∀ exchange wall jitter,
      handler.loopAction before action ≠ some (.conclude exchange wall jitter)) :
    Setup.endings (handler.loop (trace ++ [⟨before, action, after⟩])) =
      Setup.endings (handler.loop trace) := by
  unfold loop
  rw [Runs.filterMap_extend, loopTaken]
  cases calls : handler.loopAction before action with
  | none => rw [Option.map_none, Option.toList_none, List.append_nil]
  | some call =>
    rw [Option.map_some, Option.toList_some, Setup.endings_extend]
    cases call with
    | conclude exchange wall jitter => exact absurd calls (unended exchange wall jitter)
    | _ => exact List.append_nil _

/-- An attempt only ends in the loop. -/
theorem ending_attempting (stepped : handler.Step before action after) {exchange : Exchange}
    {wall : Int} {jitter : Nat → Nat}
    (ends : handler.loopAction before action = some (.conclude exchange wall jitter)) :
    after.station = before.station ∧
      ∃ snapshot identity body, before.station = .attempting snapshot identity body := by
  cases step_moves stepped with
  | walks quiet | rejects status response quiet | serves status response quiet =>
    rw [ends] at quiet; cases quiet
  | pumps streaming reports =>
    rcases reports with ⟨quiet, _⟩ | ⟨report, other, _⟩
    · rw [ends] at quiet
      cases quiet
    · rw [ends] at other
      cases other
  | calls takes looped unrecorded calls =>
    rw [ends] at takes
    cases takes
    generalize reached : after.station = station at calls
    cases calls with
    | attempts attempting own => exact ⟨rfl, _, _, _, attempting⟩

/-- A step keeps the tasks behind the attempts. -/
theorem step_spawned (stepped : handler.Step before action after)
    (told : Told handler trace before)
    (concluded : OverBy handler trace before.proxy.system.clock)
    (spawned : Spawned handler trace before) :
    Spawned handler (trace ++ [⟨before, action, after⟩]) after := by
  by_cases ending : ∃ exchange wall jitter,
      handler.loopAction before action = some (.conclude exchange wall jitter)
  -- An attempt ends: the request is still in the loop, and no task has been spawned.
  · obtain ⟨_, _, _, ends⟩ := ending
    obtain ⟨still, snapshot, identity, body, attempting⟩ := ending_attempting stepped ends
    constructor
    · rw [still, attempting]
      intro _ _ _ _ _ streaming
      cases streaming
    · have unpumped : pumpedBy ⟨before, action, after⟩ = none := by
        simp only [pumpedBy, attempting]
      have unstreamed answer : before.station ≠ .streamed answer := by
        rw [attempting]
        exact Station.noConfusion
      rw [pumps_extend, unpumped, told.unpumped unstreamed]
      intro pump member
      cases member
  · have unended : Setup.endings (handler.loop (trace ++ [⟨before, action, after⟩])) =
        Setup.endings (handler.loop trace) :=
      endings_still fun exchange wall jitter ends => ending ⟨exchange, wall, jitter, ends⟩
    -- A walk comes to a stream by staying in it, or from the attempts.
    have walked (walks : Walks before after.station) (prepared : PreparedResponse)
        (fingerprint : String) (selection : Pool.Selection) (attemptStart instant : Nat)
        (streaming : after.station =
          .streaming prepared fingerprint selection attemptStart instant) :
        OverBy handler trace instant := by
      generalize reached : after.station = station at walks
      cases walks with
      | stays => exact spawned.streaming _ _ _ _ _ (reached.symm.trans streaming)
      | nears early still =>
        rw [← reached, streaming] at still
        cases still
      | drops unanswered =>
        rw [streaming] at reached
        cases reached
      | streams attempting finished =>
        rw [attempting_spawned attempting stepped streaming]
        exact concluded
    constructor
    · unfold OverBy
      rw [unended]
      intro prepared fingerprint selection attemptStart instant streaming
      cases step_moves stepped with
      | walks quiet same unrecorded walks => exact walked walks _ _ _ _ _ streaming
      | calls takes looped unrecorded calls =>
        generalize reached : after.station = station at calls
        cases calls with
        | outside call walks =>
          subst reached
          exact walked walks _ _ _ _ _ streaming
        | enters buffered accepted =>
          rw [streaming] at reached
          cases reached
        | attempts attempting own =>
          rw [streaming, attempting] at reached
          cases reached
      | rejects | serves | pumps streaming => cases streaming
    · unfold OverBy
      rw [unended, pumps_extend]
      intro task member
      rcases List.mem_append.mp member with earlier | new
      · exact spawned.pumped task earlier
      · unfold pumpedBy at new
        split at new
        · rename_i streaming
          rw [List.mem_singleton.mp new]
          exact spawned.streaming _ _ _ _ _ streaming
        · cases new

/-- In every run of a request its tasks are spawned after its attempts. -/
theorem run_spawned (arrives : Arrives handler first)
    (run : Runs.Run handler.Step first trace last) : Spawned handler trace last := by
  induction run with
  | start =>
    refine ⟨?_, nofun⟩
    rw [arrives.arriving]
    nofun
  | extend earlier stepped inductionHypothesis =>
    exact step_spawned stepped (run_told arrives earlier) (Setup.run_concluded (run_loop earlier))
      inductionHypothesis

/-! ## The counters of a record -/

/-- Without a stream the counters of an attempt are those of its summary. -/
theorem counters_unstreamed (setup : Setup) (ended : EndedAttempt) :
    ended.counters setup none = (ended.summary setup).counters := by
  unfold EndedAttempt.counters
  cases (ended.concluded setup).verdict with
  | retry | forward => rfl

/-- A request that a stream answers is recorded with the counters of the stream. -/
theorem streamed_counters {answer : ClientResponse} {prepared : PreparedResponse} {spawned : Nat}
    {client : List ClientTurn} {record : AuditRecord} {handling : Handling}
    (recounted : handler.setup.Recounted (handler.loop trace) handling.proxy)
    (timed : Setup.Timed (handler.loop trace) handling.proxy)
    (streamed : StreamedBy handler handling answer prepared spawned client)
    (alone : handling.records = [record]) :
    record.attempts.map AttemptSummary.counters =
      (Setup.endings (handler.loop trace)).map fun ended =>
        ended.counters handler.setup (some (spawned, client)) := by
  obtain ⟨_, _, _, _, result, found, finished, ends, recorded, copied, _⟩ := streamed
  have same : record = found := by
    rw [alone] at recorded
    exact List.singleton_inj.mp recorded
  subst same
  have looped : handling.proxy.attempts.map AttemptSummary.counters =
      (Setup.endings (handler.loop trace)).map fun ended =>
        (ended.summary handler.setup).counters := recounted.shown fun _ => rfl
  obtain ⟨earlier, final, split, forwards, start, others⟩ := recounted.forwarded _ _ _ _ finished
  have request := (timed.ended final (by rw [split]; exact List.mem_append_right _ (by simp))).1
  rw [split, List.map_append, List.map_singleton] at looped ⊢
  rw [← start, ← request] at ends
  have last : final.counters handler.setup (some (spawned, client)) = result.metrics.counters :=
    EndedAttempt.counters_streamed forwards (by rw [ends])
  have prior : earlier.map (fun ended => ended.counters handler.setup (some (spawned, client))) =
      earlier.map fun ended => (ended.summary handler.setup).counters := by
    refine List.map_congr_left ?_
    intro other member
    cases verdict : (other.concluded handler.setup).verdict with
    | retry report saved => exact EndedAttempt.counters_retried verdict
    | forward found => exact absurd verdict (others other member found)
  rw [last, prior, copied]
  rcases List.eq_nil_or_concat handling.proxy.attempts with none | ⟨init, previous, all⟩
  · rw [none] at looped
    cases List.append_eq_nil_iff.mp looped.symm with
    | intro _ impossible => cases impossible
  · rw [all, List.concat_eq_append, List.map_append, List.map_singleton] at looped
    rw [all, List.concat_eq_append, List.modifyLast_concat, List.map_append, List.map_singleton,
      (List.append_inj' looped rfl).1]
    rfl

/-- The record of a request holds the counters of its attempts. -/
theorem run_counters (arrives : Arrives handler first)
    (started : first.proxy.requestStart ≤ first.proxy.system.clock)
    (run : Runs.Run handler.Step first trace last) (settled : last.station.settled = true) :
    ∃ record, last.records = [record] ∧ record.attempts.map AttemptSummary.counters =
      (Setup.endings (handler.loop trace)).map fun ended =>
        ended.counters handler.setup (pumps trace).head? := by
  have recounted := Setup.run_recounted arrives.initial arrives.fresh arrives.unattempted
    (run_loop run)
  have timed := Setup.run_timed (run_loop run) started arrives.fresh
  have told := run_told arrives run
  cases station : last.station with
  | answered response =>
    obtain ⟨record, alone, copied⟩ := told.answered response station
    have unpumped := told.unpumped (by rw [station]; exact fun _ same => Station.noConfusion same)
    refine ⟨record, alone, ?_⟩
    rw [copied, unpumped, List.head?_nil]
    simp only [counters_unstreamed]
    exact recounted.shown fun _ => rfl
  | streamed answer =>
    obtain ⟨prepared, spawned, client, pumped, streamed⟩ := told.streamed answer station
    have ⟨_, _, _, _, _, record, _, _, alone, _, _⟩ := streamed
    refine ⟨record, alone, ?_⟩
    rw [pumped, List.head?_cons]
    exact streamed_counters recounted timed streamed alone
  | _ =>
    rw [station] at settled
    cases settled

/-- The client is given no more of a response than was received. -/
theorem relayed_received (arrives : Arrives handler first)
    (started : first.proxy.requestStart ≤ first.proxy.system.clock)
    (run : Runs.Run handler.Step first trace last) {ended : EndedAttempt}
    (member : ended ∈ Setup.endings (handler.loop trace)) :
    (relayed handler last ended).length ≤
      bytesIn (ended.received handler.setup (pumps trace).head?) := by
  have recounted := Setup.run_recounted arrives.initial arrives.fresh arrives.unattempted
    (run_loop run)
  have timed := Setup.run_timed (run_loop run) started arrives.fresh
  have told := run_told arrives run
  unfold relayed
  split
  · rename_i prepared answer verdict station
    obtain ⟨_, spawned, client, pumped, streamed⟩ := told.streamed answer station
    obtain ⟨_, _, _, final, _, _, finished, ends, _, _, rfl⟩ := streamed
    obtain ⟨forwards, start⟩ := recounted.sole finished member verdict
    have ending := (@Setup.ended_summary handler.setup ended (recounted.rooms ended member)).2
    rw [forwards] at ending
    rw [← start, ← (timed.ended ended member).1] at ends
    have late := (run_spawned arrives run).pumped (spawned, client)
      (by rw [pumped]; exact List.mem_cons_self) ended member
    obtain ⟨request, sent⟩ := timed.ended ended member
    rw [pumped, List.head?_cons]
    exact (EndedAttempt.streamed_accounts (by rw [request]; exact sent) late ending forwards
      ends).1
  · exact Nat.zero_le _

/-- The telemetry of an attempt is exact if and only if nothing comes between its reads and
its record.

Proof: the counters recount the reads of each attempt, and are compared with the exact ones. -/
theorem telemetry_exact_iff (arrives : Arrives handler first)
    (started : first.proxy.requestStart ≤ first.proxy.system.clock)
    (run : Runs.Run handler.Step first trace last) (settled : last.station.settled = true) :
    ∃ record, last.records = [record] ∧
      record.attempts.length = (Setup.endings (handler.loop trace)).length ∧
      ∀ (index : Nat) ended, (Setup.endings (handler.loop trace))[index]? = some ended →
        ∃ summary, record.attempts[index]? = some summary ∧
          (Exact handler trace last ended summary ↔
            ended.undistorted handler.setup (pumps trace).head? = true) := by
  have recounted := Setup.run_recounted arrives.initial arrives.fresh arrives.unattempted
    (run_loop run)
  have timed := Setup.run_timed (run_loop run) started arrives.fresh
  obtain ⟨record, alone, counted⟩ := run_counters arrives started run settled
  refine ⟨record, alone, ?_, ?_⟩
  · have same := congrArg List.length counted
    rw [List.length_map, List.length_map] at same
    exact same
  · intro index ended found
    have member := List.mem_of_getElem? found
    have same := congrArg (fun counters => counters[index]?) counted
    simp only [List.getElem?_map, found, Option.map_some] at same
    obtain ⟨summary, present, counters⟩ := Option.map_eq_some_iff.mp same
    refine ⟨summary, present, ?_⟩
    obtain ⟨request, sent⟩ := timed.ended ended member
    have exactly := @EndedAttempt.counters_exact_iff handler.setup ended (pumps trace).head?
      (recounted.rooms ended member) (by rw [request]; exact sent) (by
        intro spawned client pumped
        exact (run_spawned arrives run).pumped _ (List.mem_of_head? pumped) ended member)
    rw [request, ← counters] at exactly
    rw [← exactly, Exact]
    constructor
    · rintro ⟨counts, _⟩
      exact counts
    · intro counts
      have bytes : summary.upstreamBytes =
          0 + bytesIn (ended.received handler.setup (pumps trace).head?) :=
        congrArg Counters.bytes counts
      refine ⟨counts, ?_⟩
      rw [bytes, Nat.zero_add]
      exact relayed_received arrives started run member

/-- The client of the stream goes away after it has taken both of its chunks. -/
def abandonedStream : List HandlerAction :=
  sampleEntry ++
    [.attempt .choose, .attempt .advance, .other (.tick 2),
      .attempt (.conclude (.responded 1 ⟨503, [], [⟨2, .ended⟩]⟩) 0 id), .attempt .choose,
      .other (.tick 5), .attempt (.conclude (.responded 3 Setup.sampleStream) 0 id),
      .finalize true, .other (.tick 9), .pump [.ready 0, .ready 0, .ready 0, .gone] id]

/-- Of the 23 bytes that the client was given the record knows nothing. -/
theorem abandoned_stream_uncounted :
    let trace := Runs.steps sampleHandler.perform sampleHandling abandonedStream
    let last := Runs.reached sampleHandler.perform sampleHandling abandonedStream
    (Runs.record sampleHandler.perform sampleHandling abandonedStream).isSome ∧
      ∃ record summary ended, last.records = [record] ∧ record.attempts[1]? = some summary ∧
        (Setup.endings (sampleHandler.loop trace))[1]? = some ended ∧
        (relayed sampleHandler last ended).length = 23 ∧ summary.counters = Counters.zero ∧
        ¬ Exact sampleHandler trace last ended summary := by
  intro trace last
  have known : (last.records.map fun record =>
      record.attempts[1]?.map AttemptSummary.counters) = [some Counters.zero] := by decide +kernel
  have given : ((Setup.endings (sampleHandler.loop trace))[1]?.map fun ended =>
      (relayed sampleHandler last ended).length) = some 23 := by decide +kernel
  obtain ⟨record, alone, counted⟩ := List.map_eq_singleton_iff.mp known
  obtain ⟨summary, present, counters⟩ := Option.map_eq_some_iff.mp counted
  obtain ⟨ended, found, length⟩ := Option.map_eq_some_iff.mp given
  refine ⟨by decide +kernel, record, summary, ended, alone, present, found, length, counters, ?_⟩
  rintro ⟨_, covered⟩
  have bytes : summary.upstreamBytes = 0 := congrArg Counters.bytes counters
  rw [length, bytes] at covered
  exact absurd covered (by decide)

/-- A client that stays until the end of the stream has all of it counted. -/
theorem telemetry_exact_streamed :
    let trace := Runs.steps sampleHandler.perform sampleHandling streamedAnswer
    let last := Runs.reached sampleHandler.perform sampleHandling streamedAnswer
    ∃ record, last.records = [record] ∧
      record.attempts.map AttemptSummary.counters = [⟨0, 0, none⟩, ⟨23, 2, some 8⟩] ∧
      ∀ (index : Nat) ended,
        (Setup.endings (sampleHandler.loop trace))[index]? = some ended →
          ∃ summary, record.attempts[index]? = some summary ∧
            Exact sampleHandler trace last ended summary := by
  intro trace last
  have enabled : (Runs.record sampleHandler.perform sampleHandling streamedAnswer).isSome := by
    decide +kernel
  have plain : ((Setup.endings (sampleHandler.loop trace)).all fun ended =>
      ended.undistorted sampleHandler.setup (pumps trace).head?) = true := by decide +kernel
  have known : last.records.map (fun record => record.attempts.map AttemptSummary.counters) =
      [[⟨0, 0, none⟩, ⟨23, 2, some 8⟩]] := by decide +kernel
  obtain ⟨record, alone, _, each⟩ := telemetry_exact_iff sampleHandling_arrives (by decide +kernel)
    (Runs.replay_run enabled) (by decide +kernel)
  rw [alone, List.map_singleton, List.singleton_inj] at known
  refine ⟨record, alone, known, ?_⟩
  intro index ended found
  obtain ⟨summary, present, exactly⟩ := each index ended found
  exact ⟨summary, present,
    exactly.mpr (List.all_eq_true.mp plain ended (List.mem_of_getElem? found))⟩

end Handler

end Orihsus.Gateway
