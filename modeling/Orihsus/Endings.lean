import Orihsus.AuditRuns
import Orihsus.PoolInvariant

/-!
# Where the summaries of a record come from

Each summary of a record is attributed to the attempt that left it. The attempts that are
over are read off the steps of the loop, and how each of them ended is said by `Ending`.
What happens to a summary afterwards is little: the next request names its key in it, and
the end of a stream fills in the last one.
-/

namespace Orihsus.Gateway

open Pool (AttemptResult Selection System)

/-- An attempt that is over: what it knew when it was sent, and what the upstream did. -/
structure EndedAttempt where
  attempt : Attempt
  wall : Int
  exchange : Exchange

/-- How the attempt ended. -/
def EndedAttempt.concluded (setup : Setup) (ended : EndedAttempt) : Concluded :=
  ended.attempt.conclude setup.gateway setup.libraries ended.wall ended.exchange

/-- The summary that the attempt left. -/
def EndedAttempt.summary (setup : Setup) (ended : EndedAttempt) : AttemptSummary :=
  (ended.concluded setup).attempts.getLast?.getD (ended.attempt.summary none .completed)

/-- A summary without the key of the next request. -/
def AttemptSummary.untargeted (summary : AttemptSummary) : AttemptSummary :=
  { summary with failoverTarget := none }

/-- Changing the last element of a list where it does not show. -/
theorem map_modifyLast {Value Shown : Type} {shown : Value → Shown} {change : Value → Value}
    (hidden : ∀ value, shown (change value) = shown value) (values : List Value) :
    (values.modifyLast change).map shown = values.map shown := by
  rcases List.eq_nil_or_concat values with rfl | ⟨earlier, value, rfl⟩
  · rfl
  · rw [List.concat_eq_append, List.modifyLast_concat, List.map_append, List.map_append,
      List.map_singleton, List.map_singleton, hidden]

/-- A failover target is no part of the rest of a summary. -/
theorem untargeted_named (fingerprint : String) (summary : AttemptSummary) :
    (nameFailoverTarget fingerprint summary).untargeted = summary.untargeted := by
  unfold nameFailoverTarget
  split <;> rfl

namespace Setup

variable {setup : Setup} {before after first last : Proxy} {action : ProxyAction}
  {trace : List (Runs.Transition Proxy ProxyAction)} {ended : EndedAttempt}

/-! ## The attempts of a loop -/

/-- The attempt that a step of the loop ends. -/
def endedBy (taken : Runs.Transition Proxy ProxyAction) : Option EndedAttempt :=
  match taken.label, taken.before.stage with
  | .conclude exchange wall _, .sending selection attemptStart =>
      some ⟨taken.before.attempt selection attemptStart, wall, exchange⟩
  | _, _ => none

/-- The attempts of a run that are over, in order. -/
def endings (trace : List (Runs.Transition Proxy ProxyAction)) : List EndedAttempt :=
  trace.filterMap Setup.endedBy

/-- The endings with one more step. -/
theorem endings_extend (taken : Runs.Transition Proxy ProxyAction) :
    endings (trace ++ [taken]) = endings trace ++ (Setup.endedBy taken).toList :=
  Runs.filterMap_extend _ trace taken

/-- Its upstream response is the one that is forwarded. -/
def Forwarded (setup : Setup) (ended : EndedAttempt) (prepared : PreparedResponse) : Prop :=
  (ended.concluded setup).verdict = .forward prepared

/-- The summaries of a loop are those of the attempts that are over. At most the last of
them is forwarded, and then the loop is over. -/
structure Recounted (setup : Setup) (trace : List (Runs.Transition Proxy ProxyAction))
    (proxy : Proxy) : Prop where
  summaries : proxy.attempts.map AttemptSummary.untargeted =
    (endings trace).map (EndedAttempt.summary setup)
  rooms : ∀ ended ∈ endings trace, ended.attempt.attempts.length < maxAuditAttempts
  retried : proxy.stage.committed = false →
    ∀ ended ∈ endings trace, ∀ prepared, ¬ setup.Forwarded ended prepared
  forwarded : ∀ prepared fingerprint selection attemptStart,
    proxy.stage = .finished (.forward prepared fingerprint selection attemptStart) →
      ∃ earlier ended, endings trace = earlier ++ [ended] ∧ setup.Forwarded ended prepared ∧
        ended.attempt.attemptStart = attemptStart ∧
        ∀ other ∈ earlier, ∀ prepared, ¬ setup.Forwarded other prepared

/-- Whatever does not read the next key is the same in the loop as in its attempts. -/
theorem Recounted.shown {proxy : Proxy} {Shown : Type} {shown : AttemptSummary → Shown}
    (recounted : Recounted setup trace proxy)
    (blind : ∀ summary, shown summary.untargeted = shown summary) :
    proxy.attempts.map shown =
      (endings trace).map fun ended => shown (ended.summary setup) := by
  have unaimed : (proxy.attempts.map AttemptSummary.untargeted).map shown =
      proxy.attempts.map shown := by
    rw [List.map_map]
    exact List.map_congr_left fun summary _ => blind summary
  rw [← unaimed, recounted.summaries, List.map_map]
  rfl

/-- Where the loop ends by forwarding, an attempt that is forwarded is the one it ends with. -/
theorem Recounted.sole {proxy : Proxy} {prepared other : PreparedResponse} {fingerprint : String}
    {selection : Selection} {attemptStart : Nat} (recounted : Recounted setup trace proxy)
    (finished : proxy.stage = .finished (.forward prepared fingerprint selection attemptStart))
    (member : ended ∈ endings trace) (forwards : setup.Forwarded ended other) :
    setup.Forwarded ended prepared ∧ ended.attempt.attemptStart = attemptStart := by
  obtain ⟨earlier, final, split, forwarded, start, others⟩ :=
    recounted.forwarded _ _ _ _ finished
  rw [split] at member
  rcases List.mem_append.mp member with prior | new
  · exact absurd forwards (others ended prior other)
  · rw [List.mem_singleton.mp new]
    exact ⟨forwarded, start⟩

/-- An attempt leaves a summary that tells how it ended. -/
theorem ended_summary (room : ended.attempt.attempts.length < maxAuditAttempts) :
    (ended.concluded setup).attempts = ended.attempt.attempts ++ [ended.summary setup] ∧
      Attempt.Ending setup.gateway setup.libraries ended.attempt ended.exchange
        (ended.summary setup) (ended.concluded setup).verdict := by
  obtain ⟨summary, pushed, ending⟩ :
      Attempt.EndsIn setup.gateway setup.libraries ended.attempt ended.exchange
        (ended.concluded setup) := Attempt.conclude_endsIn room
  have own : ended.summary setup = summary := by
    rw [EndedAttempt.summary, pushed, List.getLast?_concat]
    rfl
  rw [own]
  exact ⟨pushed, ending⟩

/-- A step that ends no attempt and leaves the summaries and the commitment. -/
theorem Recounted.quiet (recounted : Recounted setup trace before)
    (unended : Setup.endedBy ⟨before, action, after⟩ = none)
    (kept : after.attempts.map AttemptSummary.untargeted =
      before.attempts.map AttemptSummary.untargeted)
    (stage : after.stage = before.stage ∨
      before.stage.committed = false ∧ after.stage.committed = false) :
    Recounted setup (trace ++ [⟨before, action, after⟩]) after := by
  have same : endings (trace ++ [⟨before, action, after⟩]) = endings trace := by
    rw [endings_extend, unended, Option.toList_none, List.append_nil]
  constructor
  · rw [same, kept]
    exact recounted.summaries
  · rw [same]
    exact recounted.rooms
  · rw [same]
    intro uncommitted
    rcases stage with still | ⟨open_, _⟩
    · exact recounted.retried (by rw [← still]; exact uncommitted)
    · exact recounted.retried open_
  · rw [same]
    intro prepared fingerprint selection attemptStart finished
    rcases stage with still | ⟨_, uncommitted⟩
    · exact recounted.forwarded _ _ _ _ (still.symm.trans finished)
    · rw [finished] at uncommitted
      cases uncommitted

/-- An answer of the pool commits nothing. -/
theorem answered_recounted {system : System} {answer : Option AttemptResult}
    (recounted : Recounted setup trace before) (uncommitted : before.stage.committed = false)
    (turn : action = .choose ∨ action = .advance) :
    Recounted setup (trace ++ [⟨before, action, before.answered system answer⟩])
      (before.answered system answer) := by
  have unended : Setup.endedBy ⟨before, action, before.answered system answer⟩ = none := by
    rcases turn with rfl | rfl <;> rfl
  rcases answer with _ | answer
  · exact recounted.quiet unended rfl (.inr ⟨uncommitted, rfl⟩)
  · cases answer with
    | selected selection =>
      exact recounted.quiet unended (map_modifyLast (untargeted_named _) _)
        (.inr ⟨uncommitted, rfl⟩)
    | unavailable | exhausted => exact recounted.quiet unended rfl (.inr ⟨uncommitted, rfl⟩)

/-- An attempt that is over joins the others with its summary. -/
theorem settled_recounted {system : System} {selection : Selection} {attemptStart : Nat}
    {wall : Int} {exchange : Exchange} {jitter : Nat → Nat}
    (recounted : Recounted setup trace before)
    (sending : before.stage = .sending selection attemptStart)
    (room : before.attempts.length < maxAuditAttempts)
    (settles : after = before.settled system selection attemptStart
      (setup.concluded before selection attemptStart wall exchange)) :
    Recounted setup (trace ++ [⟨before, .conclude exchange wall jitter, after⟩]) after := by
  let past : EndedAttempt := ⟨before.attempt selection attemptStart, wall, exchange⟩
  have earlier : ∀ other ∈ endings trace, ∀ prepared, ¬ setup.Forwarded other prepared :=
    recounted.retried (by rw [sending]; rfl)
  have grown : endings (trace ++ [⟨before, .conclude exchange wall jitter, after⟩]) =
      endings trace ++ [past] := by
    have ends : Setup.endedBy ⟨before, .conclude exchange wall jitter, after⟩ = some past := by
      simp only [Setup.endedBy, sending, past]
    rw [endings_extend, ends, Option.toList_some]
  obtain ⟨pushed, ending⟩ := @ended_summary setup past room
  have target : (past.summary setup).untargeted = past.summary setup := by
    have none : (past.summary setup).failoverTarget = none := ending.summed.target
    rw [AttemptSummary.untargeted, ← none]
  have attempts : after.attempts = before.attempts ++ [past.summary setup] := by
    rw [settles, Proxy.settled]
    split <;> exact pushed
  constructor
  · rw [grown, attempts, List.map_append, List.map_append, recounted.summaries, List.map_singleton,
      List.map_singleton, target]
  · rw [grown]
    intro other member
    rcases List.mem_append.mp member with prior | new
    · exact recounted.rooms other prior
    · rw [List.mem_singleton.mp new]
      exact room
  · rw [grown]
    intro uncommitted other member
    rcases List.mem_append.mp member with prior | new
    · exact earlier other prior
    · rw [List.mem_singleton.mp new]
      intro prepared forwards
      have verdict : (setup.concluded before selection attemptStart wall exchange).verdict =
        .forward prepared := forwards
      rw [settles, Proxy.settled, verdict] at uncommitted
      cases uncommitted
  · rw [grown]
    intro prepared fingerprint chosen start finished
    suffices known : setup.Forwarded past prepared ∧ attemptStart = start from
      ⟨endings trace, past, rfl, known.1, known.2, earlier⟩
    rw [settles, Proxy.settled] at finished
    cases verdict : (setup.concluded before selection attemptStart wall exchange).verdict with
    | retry report saved =>
      rw [verdict] at finished
      cases finished
    | forward found =>
      rw [verdict] at finished
      cases finished
      exact ⟨verdict, rfl⟩

/-- The summaries recount every attempt that is over. -/
theorem step_recounted (stepped : setup.Step before action after)
    (room : before.stage.inFlight = 1 → before.attempts.length < maxAuditAttempts)
    (recounted : Recounted setup trace before) :
    Recounted setup (trace ++ [⟨before, action, after⟩]) after := by
  have turns := step_turns stepped
  cases turns with
  | other foreign performed => exact recounted.quiet rfl rfl (.inl rfl)
  | entered preparing performed =>
    exact recounted.quiet rfl rfl (.inr ⟨by rw [preparing]; rfl, rfl⟩)
  | chosen choosing performed =>
    exact answered_recounted recounted (by rw [choosing]; rfl) (.inl rfl)
  | advanced calling performed =>
    exact answered_recounted recounted (by rw [calling]; rfl) (.inr rfl)
  | retried sending | forwarded sending =>
    exact settled_recounted recounted sending (room (by rw [sending]; rfl)) rfl

/-- In every run of a fresh loop on a fresh pool each summary is the one of its attempt. -/
theorem run_recounted (initial : System.Initial setup.policy setup.fingerprint first.system)
    (fresh : Fresh first) (unattempted : first.attempts = [])
    (run : Runs.Run setup.Step first trace last) : Recounted setup trace last := by
  induction run with
  | start =>
    refine ⟨by rw [unattempted]; rfl, nofun, fun _ => nofun, ?_⟩
    intro prepared fingerprint selection attemptStart finished
    rw [fresh.1] at finished
    cases finished
  | extend earlier stepped inductionHypothesis =>
    refine step_recounted stepped ?_ inductionHypothesis
    intro sending
    have count := (run_tallied initial fresh unattempted earlier).count
    have bounded := sends_bounded initial earlier
    omega

/-! ## Instants -/

/-- An attempt does not start before its request, and nothing lies ahead of the clock. -/
structure Timed (trace : List (Runs.Transition Proxy ProxyAction)) (proxy : Proxy) : Prop where
  started : proxy.requestStart ≤ proxy.system.clock
  sent : ∀ selection attemptStart, proxy.stage = .sending selection attemptStart →
    proxy.requestStart ≤ attemptStart
  ended : ∀ ended ∈ endings trace, ended.attempt.requestStart = proxy.requestStart ∧
    proxy.requestStart ≤ ended.attempt.attemptStart

/-- What an answer of the pool does to the instants. -/
theorem answered_instants (proxy : Proxy) (system : System) (answer : Option AttemptResult) :
    (proxy.answered system answer).system = system ∧
      (proxy.answered system answer).requestStart = proxy.requestStart ∧
      ∀ selection attemptStart, (proxy.answered system answer).stage =
        .sending selection attemptStart → attemptStart = system.clock := by
  rcases answer with _ | answer
  · exact ⟨rfl, rfl, nofun⟩
  · cases answer with
    | selected selection =>
      refine ⟨rfl, rfl, ?_⟩
      intro chosen attemptStart sending
      cases sending
      rfl
    | unavailable | exhausted => exact ⟨rfl, rfl, nofun⟩

/-- What the end of an attempt does to them. -/
theorem settled_instants (proxy : Proxy) (system : System) (selection : Selection)
    (attemptStart : Nat) (concluded : Concluded) :
    (proxy.settled system selection attemptStart concluded).system = system ∧
      (proxy.settled system selection attemptStart concluded).requestStart = proxy.requestStart ∧
      ∀ chosen start, (proxy.settled system selection attemptStart concluded).stage ≠
        .sending chosen start := by
  unfold Proxy.settled
  split
  · exact ⟨rfl, rfl, nofun⟩
  · exact ⟨rfl, rfl, nofun⟩

/-- No action on the pool sets the clock back. -/
theorem performed_clock {call : Pool.Action} {system : System} {answer : Option AttemptResult}
    (performed : before.system.perform setup.policy setup.fingerprint call =
      some (system, answer)) : before.system.clock ≤ system.clock := by
  refine System.clock_le (?_ : System.Step setup.policy setup.fingerprint before.system call system)
  unfold System.Step
  rw [performed]
  rfl

/-- A step keeps the instant of the request, and the clock never goes back. -/
theorem step_instants (stepped : setup.Step before action after) :
    after.requestStart = before.requestStart ∧ before.system.clock ≤ after.system.clock ∧
      ∀ selection attemptStart, after.stage = .sending selection attemptStart →
        before.stage = .sending selection attemptStart ∨ attemptStart = after.system.clock := by
  have turns := step_turns stepped
  cases turns with
  | other foreign performed =>
    exact ⟨rfl, performed_clock performed, fun _ _ sending => .inl sending⟩
  | entered preparing performed => exact ⟨rfl, performed_clock performed, nofun⟩
  | @chosen system answer choosing performed | @advanced system answer calling performed =>
    obtain ⟨same, start, sent⟩ := answered_instants before system answer
    rw [same]
    exact ⟨start, performed_clock performed, fun _ _ sending => .inr (sent _ _ sending)⟩
  | retried sending verdict performed =>
    obtain ⟨same, start, unsent⟩ := settled_instants before _ _ _ _
    rw [same]
    exact ⟨start, performed_clock performed, fun _ _ sending => absurd sending (unsent _ _)⟩
  | forwarded sending verdict =>
    obtain ⟨same, start, unsent⟩ := settled_instants before _ _ _ _
    rw [same]
    exact ⟨start, Nat.le_refl _, fun _ _ sending => absurd sending (unsent _ _)⟩

/-- The instants of the summaries are in order. -/
theorem step_timed (stepped : setup.Step before action after) (timed : Timed trace before) :
    Timed (trace ++ [⟨before, action, after⟩]) after := by
  obtain ⟨start, later, sends⟩ := step_instants stepped
  have started : after.requestStart ≤ after.system.clock := by
    rw [start]
    exact Nat.le_trans timed.started later
  refine ⟨started, ?_, ?_⟩
  · intro selection attemptStart sending
    rcases sends selection attemptStart sending with still | now
    · rw [start]
      exact timed.sent selection attemptStart still
    · rw [now]
      exact started
  · intro ended member
    rw [endings_extend] at member
    rw [start]
    rcases List.mem_append.mp member with prior | new
    · exact timed.ended ended prior
    · unfold Setup.endedBy at new
      split at new
      · rename_i sending
        rw [List.mem_singleton.mp new]
        exact ⟨rfl, timed.sent _ _ sending⟩
      · cases new

/-- So they are in every run. -/
theorem run_timed (run : Runs.Run setup.Step first trace last)
    (started : first.requestStart ≤ first.system.clock) (fresh : Fresh first) :
    Timed trace last := by
  induction run with
  | start =>
    refine ⟨started, ?_, nofun⟩
    intro selection attemptStart sending
    rw [fresh.1] at sending
    cases sending
  | extend earlier stepped inductionHypothesis => exact step_timed stepped inductionHypothesis

/-- The clock has come to the end of an attempt when it is over. -/
theorem step_concluded (stepped : setup.Step before action after)
    (concluded : ∀ ended ∈ endings trace, (ended.concluded setup).time ≤ before.system.clock) :
    ∀ ended ∈ endings (trace ++ [⟨before, action, after⟩]),
      (ended.concluded setup).time ≤ after.system.clock := by
  intro ended member
  refine Nat.le_trans ?_ (step_instants stepped).2.1
  rw [endings_extend] at member
  rcases List.mem_append.mp member with prior | new
  · exact concluded ended prior
  · unfold Setup.endedBy at new
    split at new
    · rename_i label sending
      rw [List.mem_singleton.mp new]
      dsimp only at label sending
      subst label
      unfold Step perform at stepped
      split at stepped
      · rename_i enabled
        simp only [Setup.enabled, sending, decide_eq_true_eq] at enabled
        exact enabled
      · cases stepped
    · cases new

/-- In every run no attempt is over ahead of the clock. -/
theorem run_concluded (run : Runs.Run setup.Step first trace last) :
    ∀ ended ∈ endings trace, (ended.concluded setup).time ≤ last.system.clock := by
  induction run with
  | start => exact nofun
  | extend earlier stepped inductionHypothesis => exact step_concluded stepped inductionHypothesis

end Setup

namespace Handler

variable {handler : Handler} {before after first last : Handling} {action : HandlerAction}
  {trace : List (Runs.Transition Handling HandlerAction)}

/-! ## The summaries of a record -/

/-- The task that a step brings to its end: when it was spawned, and its client. -/
def pumpedBy (taken : Runs.Transition Handling HandlerAction) :
    Option (Nat × List ClientTurn) :=
  match taken.label, taken.before.station with
  | .pump client _, .streaming _ _ _ _ spawned => some (spawned, client)
  | _, _ => none

/-- The tasks of a run that have come to their end. -/
def pumps (trace : List (Runs.Transition Handling HandlerAction)) :
    List (Nat × List ClientTurn) :=
  trace.filterMap pumpedBy

/-- The tasks with one more step. -/
theorem pumps_extend (taken : Runs.Transition Handling HandlerAction) :
    pumps (trace ++ [taken]) = pumps trace ++ (pumpedBy taken).toList :=
  Runs.filterMap_extend _ trace taken

/-- An answer was streamed by a task, which filled in the last summary of the record. -/
def StreamedBy (handler : Handler) (handling : Handling) (answer : ClientResponse)
    (prepared : PreparedResponse) (spawned : Nat) (client : List ClientTurn) : Prop :=
  ∃ fingerprint selection attemptStart ended result record,
    handling.proxy.stage = .finished (.forward prepared fingerprint selection attemptStart) ∧
      streamResponse handler.setup.libraries.reading handler.setup.gateway.timeouts prepared
        attemptStart handling.proxy.requestStart spawned client = (ended, some result) ∧
      handling.records = [record] ∧
      record.attempts = handling.proxy.attempts.modifyLast (observePumped result) ∧
      answer = ⟨prepared.status, streamHead handler.requestId prepared, ended.delivered.flatten⟩

/-- What the record of a request holds of its attempts: the summaries of the loop, with
the last one filled in if the answer was streamed. -/
structure Told (handler : Handler) (trace : List (Runs.Transition Handling HandlerAction))
    (handling : Handling) : Prop where
  unpumped : (∀ answer, handling.station ≠ .streamed answer) → pumps trace = []
  answered : ∀ response, handling.station = .answered response →
    ∃ record, handling.records = [record] ∧ record.attempts = handling.proxy.attempts
  streamed : ∀ answer, handling.station = .streamed answer →
    ∃ prepared spawned client, pumps trace = [(spawned, client)] ∧
      StreamedBy handler handling answer prepared spawned client

/-- From the loop a request is only finalized or dropped. -/
theorem attempting_step {snapshot : RuntimeState} {identity : GatewayIdentity}
    {body : List UInt8} (attempting : before.station = .attempting snapshot identity body)
    (stepped : handler.Step before action after) :
    after.station = before.station ∨ after.station = .dropped ∨
      ∃ slotFree outcome, action = .finalize slotFree ∧
        before.proxy.stage = .finished outcome ∧
        after = handler.finalized before slotFree outcome := by
  unfold Step perform at stepped
  cases action with
  | attempt call =>
    simp only [attempting] at stepped
    split at stepped
    · obtain ⟨proxy, _, rfl⟩ := Option.map_eq_some_iff.mp stepped
      exact .inl attempting.symm
    · cases stepped
  | finalize slotFree =>
    dsimp only at stepped
    split at stepped
    · rename_i finished
      cases stepped
      exact .inr (.inr ⟨slotFree, _, rfl, finished, rfl⟩)
    · cases stepped
  | cancel =>
    dsimp only at stepped
    split at stepped
    · cases stepped
      exact .inr (.inl rfl)
    · cases stepped
  | other | updateWithKeys =>
    obtain ⟨proxy, _, rfl⟩ := Option.map_eq_some_iff.mp stepped
    exact .inl rfl
  | update | setWall =>
    cases stepped
    exact .inl rfl
  | check | recheck | admission | serve | read | look | pump =>
    simp only [attempting] at stepped
    cases stepped

/-- A step that leaves the request where it is. -/
theorem Told.still (told : Told handler trace before)
    (unpumped : pumpedBy ⟨before, action, after⟩ = none)
    (station : after.station = before.station) (records : after.records = before.records)
    (stage : after.proxy.stage = before.proxy.stage)
    (attempts : after.proxy.attempts = before.proxy.attempts)
    (start : after.proxy.requestStart = before.proxy.requestStart) :
    Told handler (trace ++ [⟨before, action, after⟩]) after := by
  have same : pumps (trace ++ [⟨before, action, after⟩]) = pumps trace := by
    rw [pumps_extend, unpumped, Option.toList_none, List.append_nil]
  constructor
  · rw [station, same]
    exact told.unpumped
  · rw [station, records, attempts]
    exact told.answered
  · rw [station, same]
    intro answer streamed
    obtain ⟨prepared, spawned, client, alone, streams⟩ := told.streamed answer streamed
    refine ⟨prepared, spawned, client, alone, ?_⟩
    unfold StreamedBy
    rw [stage, attempts, start, records]
    exact streams

/-- A step to a station where nothing has been told yet. -/
theorem Told.quiet (told : Told handler trace before)
    (unpumped : pumpedBy ⟨before, action, after⟩ = none)
    (unstreamed : ∀ answer, before.station ≠ .streamed answer)
    (unsettled : after.station.settled = false) :
    Told handler (trace ++ [⟨before, action, after⟩]) after := by
  have none : pumps (trace ++ [⟨before, action, after⟩]) = [] := by
    rw [pumps_extend, unpumped, Option.toList_none, List.append_nil]
    exact told.unpumped unstreamed
  refine ⟨fun _ => none, ?_, ?_⟩
  · intro response answered
    rw [answered] at unsettled
    cases unsettled
  · intro answer streamed
    rw [streamed] at unsettled
    cases unsettled

/-- A step that answers copies the summaries of the loop. -/
theorem Told.answer (told : Told handler trace before)
    (unpumped : pumpedBy ⟨before, action, after⟩ = none)
    (unstreamed : ∀ answer, before.station ≠ .streamed answer) (unrecorded : before.records = [])
    {record : AuditRecord} {response : ClientResponse}
    (station : after.station = .answered response)
    (recorded : after.records = before.records ++ [record])
    (attempts : record.attempts = after.proxy.attempts) :
    Told handler (trace ++ [⟨before, action, after⟩]) after := by
  have none : pumps (trace ++ [⟨before, action, after⟩]) = [] := by
    rw [pumps_extend, unpumped, Option.toList_none, List.append_nil]
    exact told.unpumped unstreamed
  refine ⟨fun _ => none, ?_, ?_⟩
  · intro _ _
    rw [recorded, unrecorded]
    exact ⟨record, rfl, attempts⟩
  · rw [station]
    nofun

/-- The end of the task of a stream. -/
theorem Told.pump {client : List ClientTurn} {jitter : Nat → Nat}
    (told : Told handler trace before) (kept : Kept handler trace before)
    (stepped : handler.Step before (.pump client jitter) after) :
    Told handler (trace ++ [⟨before, .pump client jitter, after⟩]) after := by
  unfold Step perform at stepped
  dsimp only at stepped
  split at stepped
  · rename_i prepared fingerprint selection attemptStart spawned streaming
    obtain ⟨finished, _⟩ := kept.streaming _ _ _ _ _ streaming
    have unrecorded := kept.unanswered (by rw [streaming]; rfl)
    have earlier := told.unpumped (by rw [streaming]; exact nofun)
    have pumped : pumps (trace ++ [⟨before, .pump client jitter, after⟩]) =
        [(spawned, client)] := by
      rw [pumps_extend, earlier]
      simp only [pumpedBy, streaming, Option.toList_some, List.nil_append]
    unfold streamedTo at stepped
    split at stepped
    · cases stepped
    · rename_i ended result ends
      -- The report to the pool leaves what the record is made of.
      have closes (proxy : Proxy) (stage : proxy.stage = before.proxy.stage)
          (start : proxy.requestStart = before.proxy.requestStart)
          (reached : after = handler.pumped before proxy prepared fingerprint ended result) :
          Told handler (trace ++ [⟨before, .pump client jitter, after⟩]) after := by
        subst reached
        refine ⟨fun none => absurd rfl (none _), nofun, ?_⟩
        intro answer streamed
        cases streamed
        obtain ⟨record, recorded, copied⟩ : ∃ record,
            (handler.pumped before proxy prepared fingerprint ended result).records =
              before.records ++ [record] ∧
            record.attempts = proxy.attempts.modifyLast (observePumped result) := ⟨_, rfl, rfl⟩
        rw [unrecorded] at recorded
        refine ⟨prepared, spawned, client, pumped, fingerprint, selection, attemptStart, ended,
          result, record, stage.trans finished, ?_, recorded, copied, rfl⟩
        exact start.symm ▸ ends
      split at stepped
      · split at stepped
        · cases stepped
          exact closes before.proxy rfl rfl rfl
        · obtain ⟨proxy, performed, rfl⟩ := Option.map_eq_some_iff.mp stepped
          exact closes proxy (Setup.other_keeps performed).1 (Setup.step_instants performed).1 rfl
      · cases stepped
  · cases stepped

/-- A step that is not the end of a task, and does not advance the attempts. -/
theorem Told.walk (told : Told handler trace before)
    (unpumped : pumpedBy ⟨before, action, after⟩ = none) (walks : Walks before after.station)
    (records : after.records = before.records)
    (stage : after.proxy.stage = before.proxy.stage)
    (attempts : after.proxy.attempts = before.proxy.attempts)
    (start : after.proxy.requestStart = before.proxy.requestStart) :
    Told handler (trace ++ [⟨before, action, after⟩]) after := by
  generalize reached : after.station = station at walks
  cases walks with
  | stays => exact told.still unpumped reached records stage attempts start
  | nears early still =>
    refine told.quiet unpumped ?_ (by rw [reached]; exact Station.early_unsettled still)
    intro answer streamed
    rw [streamed] at early
    cases early
  | drops unanswered =>
    refine told.quiet unpumped ?_ (by rw [reached]; rfl)
    intro answer streamed
    rw [streamed] at unanswered
    cases unanswered
  | streams attempting finished spawned =>
    exact told.quiet unpumped (by rw [attempting]; exact nofun) (by rw [reached]; rfl)

/-- The record tells what the run did. -/
theorem step_told (stepped : handler.Step before action after) (kept : Kept handler trace before)
    (told : Told handler trace before) :
    Told handler (trace ++ [⟨before, action, after⟩]) after := by
  by_cases pumping : ∃ client jitter, action = .pump client jitter
  · obtain ⟨client, jitter, rfl⟩ := pumping
    exact told.pump kept stepped
  · have unpumped : pumpedBy ⟨before, action, after⟩ = none := by
      cases action with
      | pump client jitter => exact absurd ⟨client, jitter, rfl⟩ pumping
      | _ => rfl
    cases step_moves stepped with
    | walks quiet same unrecorded walks =>
      exact told.walk unpumped walks unrecorded (by rw [same]) (by rw [same]) (by rw [same])
    | @calls _ call _ takes looped unrecorded calls =>
      generalize reached : after.station = station at calls
      cases calls with
      | outside call walks =>
        obtain ⟨stage, _, attempts⟩ := Setup.other_keeps looped
        subst reached
        exact told.walk unpumped walks unrecorded stage attempts (Setup.step_instants looped).1
      | enters buffered accepted =>
        exact told.quiet unpumped (by rw [buffered]; exact nofun) (by rw [reached]; rfl)
      | attempts attempting own =>
        exact told.quiet unpumped (by rw [attempting]; exact nofun)
          (by rw [reached, attempting]; rfl)
    | rejects status response quiet rests =>
      have unsettled := (kept.rests rests).2
      refine told.answer unpumped ?_ (kept.unanswered unsettled) rfl rfl rfl
      intro answer streamed
      rw [streamed] at unsettled
      cases unsettled
    | serves status response quiet attempting ends =>
      exact told.answer unpumped (by rw [attempting]; exact nofun)
        (kept.unanswered (by rw [attempting]; rfl)) rfl rfl rfl
    | @pumps client jitter => exact absurd ⟨client, jitter, rfl⟩ pumping

/-- In every run of a request the record holds the summaries of its loop. -/
theorem run_told (arrives : Arrives handler first)
    (run : Runs.Run handler.Step first trace last) : Told handler trace last := by
  induction run with
  | start =>
    refine ⟨fun _ => rfl, ?_, ?_⟩
    · rw [arrives.arriving]
      nofun
    · rw [arrives.arriving]
      nofun
  | extend earlier stepped inductionHypothesis =>
    exact step_told stepped (run_kept arrives earlier) inductionHypothesis

end Handler

end Orihsus.Gateway
