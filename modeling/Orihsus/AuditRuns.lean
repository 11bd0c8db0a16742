import Orihsus.Handler
import Orihsus.Summaries

/-!
# The audit record of a request

Over every run of the handler a request that has been answered has exactly one audit
record, and its summaries mirror the upstream requests that were sent. The steps that the
handler takes in the failover loop are a run of the loop, so that the laws of the loop hold
of every request; what the handler adds is where it records and what it records.
-/

namespace Orihsus.Gateway

open Pool (AttemptResult Selection System)

/-- The request has been answered in full. -/
def Station.settled : Station → Bool
  | .answered _ | .streamed _ => true
  | _ => false

/-- The loop has not been entered. -/
def Station.early : Station → Bool
  | .arriving _ | .reading _ _ _ | .buffered _ _ _ => true
  | _ => false

/-- An early request has no answer. -/
theorem Station.early_unsettled {station : Station} (early : station.early = true) :
    station.settled = false := by
  cases station with
  | answered | streamed => cases early
  | _ => rfl

namespace Handler

/-! ## The loop inside the handler -/

section

variable (handler : Handler)

/-- The step of the loop that a step of the handler takes. -/
def loopAction (handling : Handling) : HandlerAction → Option ProxyAction
  | .serve => some (.other (.request none))
  | .look =>
      match handling.station with
      | .buffered snapshot _ body => (handler.acceptedModel snapshot body).map ProxyAction.enter
      | _ => none
  | .attempt action => some action
  | .pump client jitter =>
      match handling.station with
      | .streaming prepared _ selection attemptStart spawned =>
          ((handler.streamEnd handling prepared attemptStart spawned client).2.bind fun result =>
            pumpReport selection handling.proxy.model jitter result.outcome).map ProxyAction.other
      | _ => none
  | .other action => some (.other action)
  | .updateWithKeys keys _ => some (.other (.replaceKeys keys))
  | _ => none

/-- The loop's part of a step. -/
def loopTaken (taken : Runs.Transition Handling HandlerAction) :
    Option (Runs.Transition Proxy ProxyAction) :=
  (handler.loopAction taken.before taken.label).map fun action =>
    ⟨taken.before.proxy, action, taken.after.proxy⟩

/-- The loop's part of a run. -/
def loop (trace : List (Runs.Transition Handling HandlerAction)) :
    List (Runs.Transition Proxy ProxyAction) :=
  trace.filterMap handler.loopTaken

end

/-! ## Inversion of one step -/

/-- Where a step that does not advance the attempts takes the request. -/
inductive Walks (before : Handling) : Station → Prop
  | stays : Walks before before.station
  | nears {station : Station} (early : before.station.early = true)
      (still : station.early = true) : Walks before station
  | drops (unanswered : before.station.settled = false) : Walks before .dropped
  | streams {snapshot : RuntimeState} {identity : GatewayIdentity} {body : List UInt8}
      {prepared : PreparedResponse} {fingerprint : String} {selection : Selection}
      {attemptStart : Nat} (attempting : before.station = .attempting snapshot identity body)
      (finished : before.proxy.stage =
        .finished (.forward prepared fingerprint selection attemptStart)) (spawned : Nat) :
      Walks before (.streaming prepared fingerprint selection attemptStart spawned)

/-- The request is answered by the gateway itself: before the loop, or after it. -/
inductive Rests (before : Handling) : Prop
  | early (early : before.station.early = true)
  | after {snapshot : RuntimeState} {identity : GatewayIdentity} {body : List UInt8}
      {outcome : FinalOutcome} (attempting : before.station = .attempting snapshot identity body)
      (finished : before.proxy.stage = .finished outcome)

/-- The loop is over with a response of this key. -/
inductive Ends (before : Handling) (fingerprint : String) : Prop
  | returned {consumed : ConsumedResponse}
      (finished : before.proxy.stage = .finished (.lastResponse (some (consumed, fingerprint))))
  | forwarded {prepared : PreparedResponse} {selection : Selection} {attemptStart : Nat}
      (finished : before.proxy.stage =
        .finished (.forward prepared fingerprint selection attemptStart))

variable {handler : Handler} {before after first last : Handling} {action : HandlerAction}
  {trace : List (Runs.Transition Handling HandlerAction)}
  {identity : GatewayIdentity} {snapshot : RuntimeState} {body : List UInt8}
  {prepared : PreparedResponse} {selection : Selection} {model : String} {fingerprint : String}

/-- What a step of the loop is for the handler. -/
inductive Calls (handler : Handler) (before : Handling) :
    HandlerAction → ProxyAction → Station → Prop
  | outside {label : HandlerAction} {station : Station} (action : Pool.Action)
      (walks : Walks before station) : Calls handler before label (.other action) station
  | enters {snapshot : RuntimeState} {identity : GatewayIdentity} {body : List UInt8}
      {model : String} (buffered : before.station = .buffered snapshot identity body)
      (accepted : handler.acceptedModel snapshot body = some model) :
      Calls handler before .look (.enter model) (.attempting snapshot identity body)
  | attempts {label : HandlerAction} {action : ProxyAction} {snapshot : RuntimeState}
      {identity : GatewayIdentity} {body : List UInt8}
      (attempting : before.station = .attempting snapshot identity body)
      (own : ∀ model, action ≠ .enter model) : Calls handler before label action before.station

/-- Every way a step can go. -/
inductive Moves (handler : Handler) (before : Handling) : HandlerAction → Handling → Prop
  | walks {action : HandlerAction} {after : Handling}
      (quiet : handler.loopAction before action = none) (same : after.proxy = before.proxy)
      (unrecorded : after.records = before.records) (walks : Walks before after.station) :
      Moves handler before action after
  | calls {action : HandlerAction} {call : ProxyAction} {after : Handling}
      (takes : handler.loopAction before action = some call)
      (stepped : handler.setup.Step before.proxy call after.proxy)
      (unrecorded : after.records = before.records)
      (calls : Calls handler before action call after.station) : Moves handler before action after
  | rejects {action : HandlerAction} (status : Nat) (response : ClientResponse)
      (quiet : handler.loopAction before action = none) (rests : Rests before) :
      Moves handler before action ((handler.recordRejected before status).answer response)
  | serves {action : HandlerAction} {snapshot : RuntimeState} {identity : GatewayIdentity}
      {body : List UInt8} {fingerprint : String} (status : Nat) (response : ClientResponse)
      (quiet : handler.loopAction before action = none)
      (attempting : before.station = .attempting snapshot identity body)
      (ends : Ends before fingerprint) :
      Moves handler before action ((handler.recordServed before fingerprint status).answer response)
  | pumps {client : List ClientTurn} {jitter : Nat → Nat} {prepared : PreparedResponse}
      {fingerprint : String} {selection : Selection} {attemptStart spawned : Nat} {proxy : Proxy}
      {ended : Pumping} {result : PumpResult}
      (streaming : before.station = .streaming prepared fingerprint selection attemptStart spawned)
      (reports : handler.loopAction before (.pump client jitter) = none ∧ proxy = before.proxy ∨
        ∃ report, handler.loopAction before (.pump client jitter) = some (.other report) ∧
          handler.setup.Step before.proxy (.other report) proxy) :
      Moves handler before (.pump client jitter)
        (handler.pumped before proxy prepared fingerprint ended result)

/-- A half of a credential check. -/
theorem checked_moves {progress : Progress} (quiet : handler.loopAction before action = none)
    (early : before.station.early = true) :
    Moves handler before action (handler.checked before progress) := by
  cases progress with
  | rejected status => exact .rejects status _ quiet (.early early)
  | _ => exact .walks quiet rfl rfl (.nears early rfl)

/-- A body that was read is buffered or rejected. -/
theorem bodyRead_moves {result : BodyRead}
    (quiet : handler.loopAction before action = none) (early : before.station.early = true) :
    Moves handler before action (handler.bodyRead before snapshot identity result) := by
  cases result with
  | complete body => exact .walks quiet rfl rfl (.nears early rfl)
  | tooLarge => exact .rejects 413 _ quiet (.early early)
  | invalid => exact .rejects 400 _ quiet (.early early)
  | timedOut => exact .rejects 503 _ quiet (.early early)

/-- The model decides whether the loop is entered. -/
theorem looked_moves (buffered : before.station = .buffered snapshot identity body)
    (stepped : handler.looked before snapshot identity body = some after) :
    Moves handler before .look after := by
  have early : before.station.early = true := by rw [buffered]; rfl
  have takes : handler.loopAction before .look =
      (handler.acceptedModel snapshot body).map ProxyAction.enter := by
    simp only [loopAction, buffered]
  unfold looked at stepped
  split at stepped
  · rename_i absent
    have quiet : handler.loopAction before .look = none := by
      rw [takes, acceptedModel, absent]
      rfl
    cases stepped
    exact .rejects 400 _ quiet (.early early)
  · rename_i model found
    split at stepped
    · rename_i allowed
      have accepted : handler.acceptedModel snapshot body = some model := by
        rw [acceptedModel, found, Option.filter_some, if_pos allowed]
      obtain ⟨proxy, performed, rfl⟩ := Option.map_eq_some_iff.mp stepped
      rw [accepted] at takes
      exact .calls takes performed rfl (.enters buffered accepted)
    · rename_i refused
      have quiet : handler.loopAction before .look = none := by
        rw [takes, acceptedModel, found, Option.filter_some, if_neg refused]
        rfl
      cases stepped
      exact .rejects 400 _ quiet (.early early)

/-- Every outcome of the loop is answered, or streamed. -/
theorem finalized_moves {outcome : FinalOutcome} {slotFree : Bool}
    (attempting : before.station = .attempting snapshot identity body)
    (finished : before.proxy.stage = .finished outcome) :
    Moves handler before (.finalize slotFree) (handler.finalized before slotFree outcome) := by
  cases outcome with
  | unavailable retryAfter => exact .rejects 429 _ rfl (.after attempting finished)
  | lastResponse saved =>
    cases saved with
    | none => exact .rejects 503 _ rfl (.after attempting finished)
    | some response => exact .serves _ _ rfl attempting (.returned finished)
  | forward prepared fingerprint selection attemptStart =>
    unfold finalized finalizeResponse
    dsimp only
    split
    · exact .serves 503 _ rfl attempting (.forwarded finished)
    · exact .walks rfl rfl rfl (.streams attempting finished _)

/-- A stream that has come to its end is recorded. -/
theorem streamedTo_moves {client : List ClientTurn} {jitter : Nat → Nat}
    {attemptStart spawned : Nat}
    (streaming : before.station = .streaming prepared fingerprint selection attemptStart spawned)
    (stepped : handler.streamedTo before prepared fingerprint selection attemptStart spawned client
      jitter = some after) : Moves handler before (.pump client jitter) after := by
  have takes : handler.loopAction before (.pump client jitter) =
      ((handler.streamEnd before prepared attemptStart spawned client).2.bind fun result =>
        pumpReport selection before.proxy.model jitter result.outcome).map ProxyAction.other := by
    simp only [loopAction, streaming]
  unfold streamedTo at stepped
  split at stepped
  · cases stepped
  · rename_i ended result ends
    rw [ends, Option.bind_some] at takes
    split at stepped
    · split at stepped
      · rename_i silent
        rw [silent] at takes
        cases stepped
        exact .pumps streaming (.inl ⟨takes, rfl⟩)
      · rename_i report reports
        rw [reports] at takes
        obtain ⟨proxy, performed, rfl⟩ := Option.map_eq_some_iff.mp stepped
        exact .pumps streaming (.inr ⟨report, takes, performed⟩)
    · cases stepped

/-- A handler is only dropped while it is at work. -/
theorem awaits_unanswered (awaiting : awaits before = true) : before.station.settled = false := by
  unfold awaits at awaiting
  cases station : before.station with
  | answered | streamed => simp [station] at awaiting
  | _ => rfl

/-- The loop of a handler enters no model by itself. -/
theorem sendable_own {proxy : Proxy} {call : ProxyAction}
    (sendable : handler.sendable snapshot identity body proxy call = true) (model : String) :
    call ≠ .enter model := by
  rintro rfl
  cases sendable

/-- The inversion of a step. -/
theorem step_moves (stepped : handler.Step before action after) :
    Moves handler before action after := by
  unfold Step perform at stepped
  cases action with
  | check | recheck =>
    dsimp only at stepped
    split at stepped
    · rename_i arriving
      cases stepped
      exact checked_moves rfl (by rw [arriving]; rfl)
    · cases stepped
  | admission result =>
    dsimp only at stepped
    split at stepped
    · rename_i queued
      have early : before.station.early = true := by rw [queued]; rfl
      cases stepped
      cases result with
      | ok entered => exact .walks rfl rfl rfl (.nears early rfl)
      | error refused => exact .rejects 503 _ rfl (.early early)
    · cases stepped
  | serve =>
    dsimp only at stepped
    split at stepped
    · rename_i identity arriving
      split at stepped
      · obtain ⟨proxy, performed, rfl⟩ := Option.map_eq_some_iff.mp stepped
        exact .calls rfl performed rfl (.outside _ (.nears (by rw [arriving]; rfl) rfl))
      · cases stepped
    · cases stepped
  | read result =>
    dsimp only at stepped
    split at stepped
    · rename_i reading
      split at stepped
      · cases stepped
      · cases stepped
        exact bodyRead_moves rfl (by rw [reading]; rfl)
    · cases stepped
  | look =>
    dsimp only at stepped
    split at stepped
    · rename_i buffered
      exact looked_moves buffered stepped
    · cases stepped
  | attempt call =>
    dsimp only at stepped
    split at stepped
    · rename_i attempting
      split at stepped
      · rename_i sendable
        obtain ⟨proxy, performed, rfl⟩ := Option.map_eq_some_iff.mp stepped
        exact .calls rfl performed rfl (.attempts attempting (sendable_own sendable))
      · cases stepped
    · cases stepped
  | finalize slotFree =>
    dsimp only at stepped
    split at stepped
    · rename_i attempting finished
      cases stepped
      exact finalized_moves attempting finished
    · cases stepped
  | pump client jitter =>
    dsimp only at stepped
    split at stepped
    · rename_i streaming
      exact streamedTo_moves streaming stepped
    · cases stepped
  | cancel =>
    dsimp only at stepped
    split at stepped
    · rename_i awaiting
      cases stepped
      exact .walks rfl rfl rfl (.drops (awaits_unanswered awaiting))
    · cases stepped
  | other | updateWithKeys =>
    obtain ⟨proxy, performed, rfl⟩ := Option.map_eq_some_iff.mp stepped
    exact .calls rfl performed rfl (.outside _ .stays)
  | update | setWall =>
    cases stepped
    exact .walks rfl rfl rfl .stays

/-- A step of the handler is a step of the loop, or leaves the loop alone. -/
theorem step_loop (stepped : handler.Step before action after) :
    (∃ call, handler.loopAction before action = some call ∧
        handler.setup.Step before.proxy call after.proxy) ∨
      handler.loopAction before action = none ∧ after.proxy = before.proxy := by
  have moves := step_moves stepped
  cases moves with
  | walks quiet same unrecorded walks => exact .inr ⟨quiet, same⟩
  | calls takes looped unrecorded calls => exact .inl ⟨_, takes, looped⟩
  | rejects status response quiet | serves status response quiet => exact .inr ⟨quiet, rfl⟩
  | pumps streaming reports =>
    rcases reports with ⟨quiet, same⟩ | ⟨report, takes, looped⟩
    · exact .inr ⟨quiet, same⟩
    · exact .inl ⟨_, takes, looped⟩

/-- The loop's part of one more step. -/
theorem loop_extend (taken : Runs.Transition Handling HandlerAction) :
    handler.loop (trace ++ [taken]) = handler.loop trace ++ (handler.loopTaken taken).toList :=
  Runs.filterMap_extend _ trace taken

/-- The steps that a run of the handler takes in the loop are a run of the loop. -/
theorem run_loop (run : Runs.Run handler.Step first trace last) :
    Runs.Run handler.setup.Step first.proxy (handler.loop trace) last.proxy := by
  induction run with
  | start => exact .start
  | extend earlier stepped inductionHypothesis =>
    rw [loop_extend]
    rcases step_loop stepped with ⟨call, takes, looped⟩ | ⟨quiet, same⟩
    · simp only [loopTaken, takes, Option.map_some, Option.toList_some]
      exact inductionHypothesis.extend looped
    · simp only [loopTaken, quiet, Option.map_none, Option.toList_none, List.append_nil]
      rw [same]
      exact inductionHypothesis

/-! ## What the handler knows -/

/-- The handler has accepted this model for the request. -/
def Accepted (handler : Handler) (trace : List (Runs.Transition Handling HandlerAction))
    (model : String) : Prop :=
  ∃ taken ∈ trace, taken.label = .look ∧ ∃ snapshot identity body,
    taken.before.station = .buffered snapshot identity body ∧
      handler.acceptedModel snapshot body = some model

/-- A record mirrors the request: its summaries are those of the requests that were sent,
and a model and a key stand in it only together, the model accepted and the key answered. -/
structure Mirrored (handler : Handler) (trace : List (Runs.Transition Handling HandlerAction))
    (record : AuditRecord) : Prop where
  summaries : Summarised handler.setup.fingerprint (Setup.sends (handler.loop trace))
    record.attempts
  together : record.model.isSome = record.keyFingerprint.isSome
  accepted : ∀ model, record.model = some model → Accepted handler trace model
  obtained : ∀ fingerprint, record.keyFingerprint = some fingerprint →
    Setup.Responded handler.setup (handler.loop trace) fingerprint

/-- What holds of a request after a run. -/
structure Kept (handler : Handler) (trace : List (Runs.Transition Handling HandlerAction))
    (handling : Handling) : Prop where
  early : handling.station.early = true → handling.proxy.stage = .preparing
  attempting : ∀ snapshot identity body,
    handling.station = .attempting snapshot identity body →
      Accepted handler trace handling.proxy.model
  streaming : ∀ prepared fingerprint selection attemptStart spawned,
    handling.station = .streaming prepared fingerprint selection attemptStart spawned →
      handling.proxy.stage = .finished (.forward prepared fingerprint selection attemptStart) ∧
        Accepted handler trace handling.proxy.model
  unanswered : handling.station.settled = false → handling.records = []
  answered : handling.station.settled = true →
    ∃ record, handling.records = [record] ∧ Mirrored handler trace record

variable {taken : Runs.Transition Handling HandlerAction}

/-- An accepted model stays accepted. -/
theorem Accepted.extend (accepted : Accepted handler trace model)
    (taken : Runs.Transition Handling HandlerAction) :
    Accepted handler (trace ++ [taken]) model := by
  obtain ⟨looked, member, rest⟩ := accepted
  exact ⟨looked, List.mem_append_left _ member, rest⟩

/-- A response that was heard stays so. -/
theorem responded_extend
    (responded : Setup.Responded handler.setup (handler.loop trace) fingerprint)
    (taken : Runs.Transition Handling HandlerAction) :
    Setup.Responded handler.setup (handler.loop (trace ++ [taken])) fingerprint := by
  rw [loop_extend]
  cases handler.loopTaken taken with
  | none =>
    rw [Option.toList_none, List.append_nil]
    exact responded
  | some looped => exact responded.extend looped

/-- A step that leaves the loop alone, or is taken outside it, sends nothing. -/
theorem loop_unsent
    (outside : handler.loopAction taken.before taken.label = none ∨
      ∃ call, handler.loopAction taken.before taken.label = some (.other call)) :
    Setup.sends (handler.loop (trace ++ [taken])) = Setup.sends (handler.loop trace) := by
  rw [loop_extend]
  rcases outside with quiet | ⟨call, takes⟩
  · rw [loopTaken, quiet, Option.map_none, Option.toList_none, List.append_nil]
  · rw [loopTaken, takes, Option.map_some, Option.toList_some, Setup.sends_extend]
    exact List.append_nil _

/-- A record mirrors the run while nothing more is sent. -/
theorem Mirrored.extend {record : AuditRecord} (mirrored : Mirrored handler trace record)
    (unsent : Setup.sends (handler.loop (trace ++ [taken])) = Setup.sends (handler.loop trace)) :
    Mirrored handler (trace ++ [taken]) record := by
  refine ⟨?_, mirrored.together, ?_, ?_⟩
  · rw [unsent]
    exact mirrored.summaries
  · intro model present
    exact (mirrored.accepted model present).extend taken
  · intro fingerprint present
    exact responded_extend (mirrored.obtained fingerprint present) taken

/-! ## One step -/

/-- A step that leaves the request without an answer records nothing, so only the place of the
handler is left to compare. -/
theorem Kept.pending (kept : Kept handler trace before)
    (unanswered : before.station.settled = false) (still : after.station.settled = false)
    (unrecorded : after.records = before.records)
    (early : after.station.early = true → after.proxy.stage = .preparing)
    (attempting : ∀ snapshot identity body,
      after.station = .attempting snapshot identity body →
        Accepted handler (trace ++ [taken]) after.proxy.model)
    (streaming : ∀ prepared fingerprint selection attemptStart spawned,
      after.station = .streaming prepared fingerprint selection attemptStart spawned →
        after.proxy.stage = .finished (.forward prepared fingerprint selection attemptStart) ∧
          Accepted handler (trace ++ [taken]) after.proxy.model) :
    Kept handler (trace ++ [taken]) after where
  early := early
  attempting := attempting
  streaming := streaming
  unanswered := by
    intro _
    rw [unrecorded]
    exact kept.unanswered unanswered
  answered := by
    rw [still]
    nofun

/-- A step that does not advance the attempts. -/
theorem Kept.walk (kept : Kept handler trace before) (walks : Walks before after.station)
    (stage : after.proxy.stage = before.proxy.stage)
    (model : after.proxy.model = before.proxy.model)
    (unrecorded : after.records = before.records)
    (unsent : Setup.sends (handler.loop (trace ++ [taken])) = Setup.sends (handler.loop trace)) :
    Kept handler (trace ++ [taken]) after := by
  generalize reached : after.station = station at walks
  cases walks with
  | stays =>
    constructor
    · rw [reached, stage]
      exact kept.early
    · intro snapshot identity body attempting
      rw [model]
      exact (kept.attempting _ _ _ (reached.symm.trans attempting)).extend taken
    · intro prepared fingerprint selection attemptStart spawned streaming
      obtain ⟨finished, accepted⟩ := kept.streaming _ _ _ _ _ (reached.symm.trans streaming)
      rw [stage, model]
      exact ⟨finished, accepted.extend taken⟩
    · rw [reached, unrecorded]
      exact kept.unanswered
    · rw [reached, unrecorded]
      intro settled
      obtain ⟨record, alone, mirrored⟩ := kept.answered settled
      exact ⟨record, alone, mirrored.extend unsent⟩
  | nears early still =>
    subst reached
    refine kept.pending (Station.early_unsettled early) (Station.early_unsettled still)
      unrecorded ?_ ?_ ?_
    · intro _
      rw [stage]
      exact kept.early early
    · intro snapshot identity body attempting
      rw [attempting] at still
      cases still
    · intro prepared fingerprint selection attemptStart spawned streaming
      rw [streaming] at still
      cases still
  | drops unanswered =>
    refine kept.pending unanswered (by rw [reached]; rfl) unrecorded ?_ ?_ ?_
    · rw [reached]
      nofun
    · rw [reached]
      nofun
    · rw [reached]
      nofun
  | streams attempting finished spawned =>
    have unanswered : before.station.settled = false := by
      rw [attempting]
      rfl
    refine kept.pending unanswered (by rw [reached]; rfl) unrecorded ?_ ?_ ?_
    · rw [reached]
      nofun
    · rw [reached]
      nofun
    · intro prepared fingerprint selection attemptStart start streaming
      rw [reached] at streaming
      cases streaming
      rw [stage, model]
      exact ⟨finished, (kept.attempting _ _ _ attempting).extend taken⟩

/-- A step that leaves the request in the loop. -/
theorem Kept.attempt
    (kept : Kept handler trace before) (unanswered : before.station.settled = false)
    (reached : after.station = .attempting snapshot identity body)
    (unrecorded : after.records = before.records)
    (accepted : Accepted handler (trace ++ [taken]) after.proxy.model) :
    Kept handler (trace ++ [taken]) after := by
  refine kept.pending unanswered (by rw [reached]; rfl) unrecorded ?_ ?_ ?_
  · rw [reached]
    nofun
  · intro _ _ _ _
    exact accepted
  · rw [reached]
    nofun

/-- A step that answers records once. -/
theorem Kept.record {record : AuditRecord} (kept : Kept handler trace before)
    (unanswered : before.station.settled = false) (settled : after.station.settled = true)
    (recorded : after.records = before.records ++ [record])
    (mirrored : Mirrored handler (trace ++ [taken]) record) :
    Kept handler (trace ++ [taken]) after := by
  constructor
  · intro early
    rw [Station.early_unsettled early] at settled
    cases settled
  · intro snapshot identity body attempting
    rw [attempting] at settled
    cases settled
  · intro prepared fingerprint selection attemptStart spawned streaming
    rw [streaming] at settled
    cases settled
  · rw [settled]
    nofun
  · intro _
    rw [recorded, kept.unanswered unanswered]
    exact ⟨record, rfl, mirrored⟩

/-- The loop rests where the gateway answers by itself. -/
theorem Kept.rests (kept : Kept handler trace before) (rests : Rests before) :
    before.proxy.stage.inFlight = 0 ∧ before.station.settled = false := by
  cases rests with
  | early early => exact ⟨by rw [kept.early early]; rfl, Station.early_unsettled early⟩
  | after attempting finished => exact ⟨by rw [finished]; rfl, by rw [attempting]; rfl⟩

end Handler

namespace Setup

variable {setup : Setup} {before after : Proxy} {call : ProxyAction}

/-- A step outside the loop leaves its stage, its model and its summaries. -/
theorem other_keeps {action : Pool.Action} (stepped : setup.Step before (.other action) after) :
    after.stage = before.stage ∧ after.model = before.model ∧
      after.attempts = before.attempts := by
  have turns := step_turns stepped
  cases turns with
  | other foreign performed => exact ⟨rfl, rfl, rfl⟩

/-- An answer of the pool leaves the model. -/
theorem answered_model (system : System) (answer : Option AttemptResult) :
    (before.answered system answer).model = before.model := by
  rcases answer with _ | answer
  · rfl
  · cases answer <;> rfl

/-- So does the end of an attempt. -/
theorem settled_model (system : System) (selection : Selection) (attemptStart : Nat)
    (concluded : Concluded) :
    (before.settled system selection attemptStart concluded).model = before.model := by
  unfold Proxy.settled
  split <;> rfl

/-- The model is set once, where the loop is entered. -/
theorem step_model (stepped : setup.Step before call after) (own : ∀ model, call ≠ .enter model) :
    after.model = before.model := by
  have turns := step_turns stepped
  cases turns with
  | other foreign performed => rfl
  | @entered model system answer preparing performed => exact absurd rfl (own model)
  | chosen | advanced => exact answered_model ..
  | retried | forwarded => exact settled_model ..

/-- The loop is entered with its model. -/
theorem enter_model {model : String} (stepped : setup.Step before (.enter model) after) :
    after.model = model := by
  have turns := step_turns stepped
  cases turns with
  | entered preparing performed => rfl

end Setup

namespace Handler

variable {handler : Handler} {before after first last : Handling} {action : HandlerAction}
  {trace : List (Runs.Transition Handling HandlerAction)}

/-- The record of an upstream response mirrors the request. -/
theorem mirrored_served {requestId fingerprint : String} {timestamp : Int} {status latency : Nat}
    {usage : Option RequestUsage} {outcome : Option AuditOutcome} {audit : RequestAudit}
    {model : String}
    (summaries : Summarised handler.setup.fingerprint (Setup.sends (handler.loop trace))
      audit.attempts)
    (accepted : Accepted handler trace model)
    (responded : Setup.Responded handler.setup (handler.loop trace) fingerprint) :
    Mirrored handler trace (recordAudit timestamp requestId model fingerprint usage status latency
      outcome audit) := by
  refine ⟨summaries, rfl, ?_, ?_⟩
  · intro other present
    cases present
    exact accepted
  · intro other present
    cases present
    exact responded

/-- A step keeps what is known of the request. -/
theorem step_kept (stepped : handler.Step before action after) (kept : Kept handler trace before)
    (summarised : after.proxy.stage.inFlight = 0 → Summarised handler.setup.fingerprint
      (Setup.sends (handler.loop (trace ++ [⟨before, action, after⟩]))) after.proxy.attempts)
    (obtained : Setup.Obtained handler.setup (handler.loop (trace ++ [⟨before, action, after⟩]))
      after.proxy) :
    Kept handler (trace ++ [⟨before, action, after⟩]) after := by
  have moves := step_moves stepped
  cases moves with
  | walks quiet same unrecorded walks =>
    exact kept.walk walks (by rw [same]) (by rw [same]) unrecorded (loop_unsent (.inl quiet))
  | @calls _ call _ takes looped unrecorded calls =>
    generalize reached : after.station = station at calls
    cases calls with
    | outside action walks =>
      obtain ⟨stage, model, _⟩ := Setup.other_keeps looped
      subst reached
      exact kept.walk walks stage model unrecorded (loop_unsent (.inr ⟨action, takes⟩))
    | enters buffered accepted =>
      refine kept.attempt (by rw [buffered]; rfl) reached unrecorded ?_
      rw [Setup.enter_model looped]
      exact ⟨_, List.mem_append_right _ (List.mem_singleton_self _), rfl, _, _, _, buffered,
        accepted⟩
    | attempts attempting own =>
      refine kept.attempt (by rw [attempting]; rfl) (reached.trans attempting) unrecorded ?_
      rw [Setup.step_model looped own]
      exact (kept.attempting _ _ _ attempting).extend _
  | rejects status response quiet rests =>
    obtain ⟨resting, unanswered⟩ := kept.rests rests
    exact kept.record unanswered rfl rfl ⟨summarised resting, rfl, nofun, nofun⟩
  | @serves _ snapshot identity body fingerprint status response quiet attempting ends =>
    have accepted := (kept.attempting _ _ _ attempting).extend ⟨before, action,
      (handler.recordServed before fingerprint status).answer response⟩
    refine kept.record (by rw [attempting]; rfl) rfl rfl ?_
    cases ends with
    | returned finished =>
      have resting : before.proxy.stage.inFlight = 0 := by rw [finished]; rfl
      exact mirrored_served (summarised resting) accepted (obtained.returned _ _ finished)
    | forwarded finished =>
      have resting : before.proxy.stage.inFlight = 0 := by rw [finished]; rfl
      exact mirrored_served (summarised resting) accepted (obtained.forwarded _ _ _ _ finished).1
  | @pumps client jitter prepared fingerprint selection attemptStart spawned proxy ended result
      streaming reports =>
    obtain ⟨finished, accepted⟩ := kept.streaming _ _ _ _ _ streaming
    obtain ⟨stage, model⟩ :
        proxy.stage = before.proxy.stage ∧ proxy.model = before.proxy.model := by
      rcases reports with ⟨_, rfl⟩ | ⟨report, _, looped⟩
      · exact ⟨rfl, rfl⟩
      · obtain ⟨stage, model, _⟩ := Setup.other_keeps looped
        exact ⟨stage, model⟩
    have resting : proxy.stage.inFlight = 0 := by
      rw [stage, finished]
      rfl
    refine kept.record (by rw [streaming]; rfl) rfl rfl (mirrored_served ?_ ?_ ?_)
    · exact (summarised resting).observed (fun _ => rfl) (fun _ => rfl) (fun _ => rfl)
    · change Accepted handler _ proxy.model
      rw [model]
      exact accepted.extend _
    · exact (obtained.forwarded _ _ _ _ (stage.trans finished)).1

/-! ## Runs -/

/-- A request that arrives at a gateway, with a pool that has just been built. -/
structure Arrives (handler : Handler) (first : Handling) : Prop where
  initial : System.Initial handler.setup.policy handler.setup.fingerprint first.proxy.system
  fresh : Setup.Fresh first.proxy
  unattempted : first.proxy.attempts = []
  arriving : first.station = .arriving (.checking .first)
  unrecorded : first.records = []

/-- What a handler keeps it keeps in every run. -/
theorem run_kept (arrives : Arrives handler first) (run : Runs.Run handler.Step first trace last) :
    Kept handler trace last := by
  induction run with
  | start =>
    constructor
    · intro _
      exact arrives.fresh.1
    · rw [arrives.arriving]
      nofun
    · rw [arrives.arriving]
      nofun
    · intro _
      exact arrives.unrecorded
    · rw [arrives.arriving]
      nofun
  | extend earlier stepped inductionHypothesis =>
    have looped := run_loop (earlier.extend stepped)
    exact step_kept stepped inductionHypothesis
      (Setup.run_summarised arrives.initial arrives.fresh arrives.unattempted looped)
      (Setup.run_obtained arrives.fresh looped)

/-- The report at the end of a stream is accepted by the pool. -/
theorem pumpReport_accepted (handler : Handler) {selection : Selection} {model : String}
    {jitter : Nat → Nat} {outcome : PumpOutcome} {report : Pool.Action} {proxy : Proxy}
    (reports : pumpReport selection model jitter outcome = some report)
    (issued : selection ∈ proxy.system.issued) :
    ∃ reported, handler.setup.Step proxy (.other report) reported := by
  have accepted : calledRequest report = none ∧ ∃ result, proxy.system.perform
      handler.setup.policy handler.setup.fingerprint report = some result := by
    cases outcome with
    | completed | upstreamError =>
      cases reports
      exact ⟨rfl, _, Runs.guard_bind.mpr ⟨issued, rfl⟩⟩
    | clientCancel => cases reports
    | eventIdleTimeout =>
      cases reports
      exact ⟨rfl, _, Runs.guard_bind.mpr ⟨issued, rfl⟩⟩
  obtain ⟨foreign, result, performed⟩ := accepted
  refine ⟨{ proxy with system := result.1 }, ?_⟩
  simp [Setup.Step, Setup.perform, Setup.enabled, Setup.poolAction, Setup.follow, foreign,
    performed]

/-- The task of a stream can always come to its end, whatever its client does. -/
theorem stream_ends {prepared : PreparedResponse} {fingerprint : String} {selection : Selection}
    {attemptStart spawned : Nat}
    (streaming : last.station = .streaming prepared fingerprint selection attemptStart spawned)
    (issued : selection ∈ last.proxy.system.issued) (client : List ClientTurn)
    (jitter : Nat → Nat) :
    ∃ elapsed ticked ended, handler.Step last (.other (.tick elapsed)) ticked ∧
      handler.Step ticked (.pump client jitter) ended ∧ ended.station.settled = true := by
  obtain ⟨result, completes⟩ : ∃ result,
      (handler.streamEnd last prepared attemptStart spawned client).2 = some result :=
    Option.isSome_iff_exists.mp (streamResponse_ends _ _ _ _ _ _ _)
  let finish := (handler.streamEnd last prepared attemptStart spawned client).1
  let ticked : Handling := { last with
    proxy := { last.proxy with
      system := { last.proxy.system with clock := last.proxy.system.clock + finish.now } } }
  have ticks : handler.Step last (.other (.tick finish.now)) ticked := by
    simp [Step, perform, Setup.perform, Setup.enabled, Setup.poolAction, Setup.follow,
      System.perform, calledRequest, ticked]
  have ends : handler.streamEnd ticked prepared attemptStart spawned client =
      (finish, some result) := Prod.ext rfl completes
  have due : finish.now ≤ ticked.proxy.system.clock := Nat.le_add_left _ _
  have reached (ended : Handling)
      (same : handler.streamedTo ticked prepared fingerprint selection attemptStart spawned client
        jitter = some ended) : handler.Step ticked (.pump client jitter) ended := by
    have standing : ticked.station = .streaming prepared fingerprint selection attemptStart
        spawned := streaming
    simp only [Step, perform, standing]
    exact same
  unfold streamedTo at reached
  rw [ends] at reached
  simp only [if_pos due] at reached
  cases reports : pumpReport selection ticked.proxy.model jitter result.outcome with
  | none =>
    rw [reports] at reached
    exact ⟨finish.now, ticked, _, ticks, reached _ rfl, rfl⟩
  | some report =>
    rw [reports] at reached
    have held : selection ∈ ticked.proxy.system.issued := issued
    obtain ⟨proxy, reported⟩ := pumpReport_accepted handler reports held
    let ended := handler.pumped ticked proxy prepared fingerprint finish result
    refine ⟨finish.now, ticked, ended, ticks, reached ended ?_, rfl⟩
    exact Option.map_eq_some_iff.mpr ⟨proxy, reported, rfl⟩

/-- One record for every answer. In every run of a request from its arrival at a fresh
gateway, whatever the client, the upstreams and everyone else do:

* a request that has not been answered in full has no record;
* one that has been answered has exactly one, which mirrors the request: one summary for
  each upstream request sent, in order, numbered from one, with the fingerprint of the key
  that was used and naming the key of the next summary, and none in the last; a model and a
  key stand in it only together, and only if the model was accepted and the key answered;
* and an answer that is being streamed can always come to its end, where it is recorded.

Proof: by the invariant of the handler; the task of a stream always comes to an outcome. -/
theorem one_record_per_answer (arrives : Arrives handler first)
    (run : Runs.Run handler.Step first trace last) :
    (last.station.settled = false → last.records = []) ∧
      (last.station.settled = true →
        ∃ record, last.records = [record] ∧ Mirrored handler trace record) ∧
      ∀ prepared fingerprint selection attemptStart spawned,
        last.station = .streaming prepared fingerprint selection attemptStart spawned →
          ∀ client jitter, ∃ elapsed ticked ended,
            handler.Step last (.other (.tick elapsed)) ticked ∧
              handler.Step ticked (.pump client jitter) ended ∧ ended.station.settled = true := by
  have kept := run_kept arrives run
  refine ⟨kept.unanswered, kept.answered, ?_⟩
  intro prepared fingerprint selection attemptStart spawned streaming
  obtain ⟨finished, _⟩ := kept.streaming _ _ _ _ _ streaming
  have obtained := Setup.run_obtained arrives.fresh (run_loop run)
  exact stream_ends streaming (obtained.forwarded _ _ _ _ finished).2

/-- A gateway whose library reads the body `m` as a request for the model of that name. -/
def sampleHandler : Handler where
  setup := { Setup.sampleSetup with
    libraries := { Setup.sampleSetup.libraries with
      reading := { SseUsageParser.sampleReading with
        parseJson := fun bytes =>
          if bytes = Text.asBytes ['m'] then some (.object [("model", .string "m")])
          else SseUsageParser.sampleReading.parseJson bytes } } }
  headers := [("authorization".toList, Text.asBytes "Bearer old".toList)]
  api := .chatCompletions
  generatedId := "r"
  render := fun _ => []

/-- The request as it arrives. -/
def sampleHandling : Handling where
  proxy := Setup.sampleProxy
  runtime := Client.runtimeOf "old"
  wall := 0
  audit := RequestAudit.fromHeaders sampleHandler.headers
  records := []
  station := .arriving (.checking .first)

/-- The sample arrives as a request does. -/
theorem sampleHandling_arrives : Arrives sampleHandler sampleHandling :=
  ⟨System.started_initial System.samplePolicy System.sampleFingerprint rfl (by simp),
    ⟨rfl, rfl⟩, rfl, rfl, rfl⟩

/-- The steps up to the loop. -/
def sampleEntry : List HandlerAction :=
  [.check, .admission (.ok ()), .check, .serve, .read (.complete (Text.asBytes ['m'])), .look]

/-- The first key answers with a 503, the second with a stream that the client takes. -/
def streamedAnswer : List HandlerAction :=
  sampleEntry ++
    [.attempt .choose, .attempt .advance, .other (.tick 2),
      .attempt (.conclude (.responded 1 ⟨503, [], [⟨2, .ended⟩]⟩) 0 id), .attempt .choose,
      .other (.tick 5), .attempt (.conclude (.responded 3 Setup.sampleStream) 0 id),
      .finalize true, .other (.tick 9), .pump [] id]

/-- The one record of the stream has a summary for each of its two requests. -/
theorem one_record_per_answer_streamed :
    let trace := Runs.steps sampleHandler.perform sampleHandling streamedAnswer
    let last := Runs.reached sampleHandler.perform sampleHandling streamedAnswer
    ∃ record, last.records = [record] ∧ record.keyFingerprint = some "b" ∧
      record.attempts.map AttemptSummary.keyFingerprint = ["a", "b"] ∧
      Summarised System.sampleFingerprint (Setup.sends (sampleHandler.loop trace))
        record.attempts ∧
      Accepted sampleHandler trace "m" := by
  have enabled : (Runs.record sampleHandler.perform sampleHandling streamedAnswer).isSome := by
    decide +kernel
  have settled : (Runs.reached sampleHandler.perform sampleHandling
      streamedAnswer).station.settled = true := by decide +kernel
  obtain ⟨record, alone, mirrored⟩ :=
    (one_record_per_answer sampleHandling_arrives (Runs.replay_run enabled)).2.1 settled
  have known : (Runs.reached sampleHandler.perform sampleHandling
      streamedAnswer).records.map (fun record =>
        (record.keyFingerprint, record.model, record.attempts.map AttemptSummary.keyFingerprint)) =
        [(some "b", some "m", ["a", "b"])] := by decide +kernel
  rw [alone, List.map_singleton, List.singleton_inj, Prod.mk.injEq, Prod.mk.injEq] at known
  obtain ⟨key, model, keys⟩ := known
  exact ⟨record, alone, key, keys, mirrored.summaries, mirrored.accepted "m" model⟩

end Handler

end Orihsus.Gateway
