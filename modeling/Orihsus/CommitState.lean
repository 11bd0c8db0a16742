import Orihsus.Endings

/-!
# The commit state of the attempts

A summary is marked as committed where its response is prepared, before the request is
finalized. An event stream then still needs a slot, and without one the gateway answers
with an error of its own, over a record that holds a committed attempt. In every other run
the marks are true: an attempt is committed exactly if the client was sent its upstream
response.

An upstream error that is returned after the last attempt is rewritten as a whole; it is an
answer of the gateway, and its attempt is not committed.
-/

namespace Orihsus.Gateway

/-- The summary of an attempt is committed exactly if its response is forwarded. -/
theorem Attempt.Ending.marks {state : GatewayState} {libraries : Libraries} {attempt : Attempt}
    {exchange : Exchange} {pushed : AttemptSummary} {verdict : Verdict}
    (ending : Ending state libraries attempt exchange pushed verdict) :
    (pushed.committed = true ∧ pushed.precommit = false) ↔
      ∃ prepared, verdict = .forward prepared := by
  cases ending with
  | unheard | unreadable | rejected | unprepared =>
    constructor
    · rintro ⟨committed, _⟩
      cases committed
    · rintro ⟨_, impossible⟩
      cases impossible
  | forwarded => exact ⟨fun _ => ⟨_, rfl⟩, fun _ => ⟨rfl, rfl⟩⟩

/-- The response that an attempt forwards is the one it was answered with. -/
theorem Attempt.Ending.upstream {state : GatewayState} {libraries : Libraries} {attempt : Attempt}
    {exchange : Exchange} {pushed : AttemptSummary} {prepared : PreparedResponse}
    (ending : Ending state libraries attempt exchange pushed (.forward prepared)) :
    ∃ now upstream, attempt.heard state exchange = some (now, upstream) ∧
      prepared.status = upstream.status ∧
      prepared.headers = filterResponseHeaders upstream.headers ∧
      prepared.prefetched.flatten ++ bodyBytes prepared.upstream = bodyBytes upstream.body := by
  cases ending with
  | forwarded answered usable ready =>
    obtain ⟨status, headers⟩ := prepareResponse_head ready
    exact ⟨_, _, answered, status, headers, prepareResponse_verbatim ready⟩

/-- The summary is marked as committed. -/
def AttemptSummary.mark (summary : AttemptSummary) : Bool :=
  summary.committed && !summary.precommit

/-- The mark in words. -/
theorem AttemptSummary.mark_iff {summary : AttemptSummary} :
    summary.mark = true ↔ summary.committed = true ∧ summary.precommit = false := by
  rw [mark, Bool.and_eq_true, Bool.not_eq_true']

/-- What the client is sent of an upstream response: its status, its headers as they are
filtered, and its body or a first part of it. -/
def Relayed (requestId : String) (upstream : Response) (answer : ClientResponse) : Prop :=
  answer.status = upstream.status ∧
    answer.headers = filterResponseHeaders upstream.headers ++
      [("x-request-id".toList, Text.asBytes requestId.toList)] ∧
    answer.body <+: bodyBytes upstream.body

/-- The gateway has answered by itself. -/
def Station.isAnswered : Station → Bool
  | .answered _ => true
  | _ => false

/-- The gateway has answered by itself although a response was committed. -/
def Handling.overruled (handling : Handling) : Bool :=
  handling.station.isAnswered && handling.proxy.stage.committed

namespace Handler

variable {handler : Handler} {before after first last : Handling} {action : HandlerAction}
  {trace : List (Runs.Transition Handling HandlerAction)} {index : Nat}
  {record : AuditRecord}

/-- The answer of the client is the upstream response of the attempt with this index. -/
def Returns (handler : Handler) (trace : List (Runs.Transition Handling HandlerAction))
    (handling : Handling) (index : Nat) : Prop :=
  ∃ ended now upstream prepared answer,
    (Setup.endings (handler.loop trace))[index]? = some ended ∧
      ended.attempt.heard handler.setup.gateway ended.exchange = some (now, upstream) ∧
      handler.setup.Forwarded ended prepared ∧ handling.station = .streamed answer ∧
      Relayed handler.requestId upstream answer

/-- The commit state in a record is true. -/
def Truthful (handler : Handler) (trace : List (Runs.Transition Handling HandlerAction))
    (handling : Handling) (record : AuditRecord) : Prop :=
  ∀ index summary, record.attempts[index]? = some summary →
    ((summary.committed = true ∧ summary.precommit = false) ↔
      Returns handler trace handling index)

/-- The step finds no slot for a stream that has been prepared. -/
def exhausted (taken : Runs.Transition Handling HandlerAction) : Bool :=
  match taken.label, taken.before.proxy.stage with
  | .finalize false, .finished (.forward prepared _ _ _) => prepared.streaming
  | _, _ => false

/-! ## Answers without a slot -/

/-- A step that does not advance the attempts does not answer. -/
theorem Walks.isAnswered {station : Station} (walks : Walks before station) :
    station.isAnswered = before.station.isAnswered := by
  cases walks with
  | stays => rfl
  | nears early still =>
    have unanswered {place : Station} (place_early : place.early = true) :
        place.isAnswered = false := by
      cases place with
      | answered response => cases place_early
      | _ => rfl
    rw [unanswered early, unanswered still]
  | drops unanswered =>
    cases place : before.station with
    | answered response =>
      rw [place] at unanswered
      cases unanswered
    | _ => rfl
  | streams attempting finished spawned =>
    rw [attempting]
    rfl

/-- A stream that finds no slot is answered by the gateway. -/
theorem exhausted_overrules (stepped : handler.Step before action after)
    (full : exhausted ⟨before, action, after⟩ = true) : after.overruled = true := by
  unfold exhausted at full
  split at full
  · rename_i prepared fingerprint selection attemptStart label stage
    dsimp only at label stage
    subst label
    unfold Step perform at stepped
    dsimp only at stepped
    split at stepped
    · rename_i outcome _ finished
      rw [stage] at finished
      cases finished
      cases stepped
      simp only [finalized, finalizeResponse, full, Bool.not_false, Bool.and_self, if_true]
      simp only [Handling.overruled, Handling.answer, recordServed, Handling.record, stage]
      rfl
    · cases stepped
  · cases full

/-- After the loop the gateway answers by itself over a committed response only if the
stream found no slot. -/
theorem attempting_overruled {snapshot : RuntimeState} {identity : GatewayIdentity}
    {body : List UInt8} (attempting : before.station = .attempting snapshot identity body)
    (stepped : handler.Step before action after)
    (slotted : exhausted ⟨before, action, after⟩ = false) : after.overruled = false := by
  unfold Handling.overruled
  rcases attempting_step attempting stepped with same | dropped |
    ⟨slotFree, outcome, rfl, finished, rfl⟩
  · rw [same, attempting]
    rfl
  · rw [dropped]
    rfl
  · cases outcome with
    | unavailable retryAfter =>
      have stage : (handler.finalized before slotFree (.unavailable retryAfter)).proxy.stage =
        .finished (.unavailable retryAfter) := finished
      rw [stage]
      exact Bool.and_false _
    | lastResponse saved =>
      have stage : (handler.finalized before slotFree (.lastResponse saved)).proxy.stage =
          .finished (.lastResponse saved) := by
        rcases saved with _ | ⟨consumed, key⟩ <;> exact finished
      rw [stage]
      exact Bool.and_false _
    | forward prepared fingerprint selection attemptStart =>
      unfold finalized finalizeResponse
      dsimp only
      split
      · rename_i full
        obtain ⟨streaming, taken⟩ := Bool.and_eq_true_iff.mp full
        rw [Bool.not_eq_true'] at taken
        subst taken
        simp only [exhausted, finished, streaming] at slotted
        cases slotted
      · rfl

/-- A step outside the loop leaves it as it is whether a response was overruled. -/
theorem walked_overruled (walks : Walks before after.station)
    (stage : after.proxy.stage = before.proxy.stage) : after.overruled = before.overruled := by
  rw [Handling.overruled, Handling.overruled, walks.isAnswered, stage]

/-- A step overrules a response only if a stream finds no slot at it. -/
theorem step_overruled (stepped : handler.Step before action after)
    (kept : Kept handler trace before) (slotted : exhausted ⟨before, action, after⟩ = false) :
    after.overruled = before.overruled := by
  cases step_moves stepped with
  | walks quiet same unrecorded walks => exact walked_overruled walks (by rw [same])
  | @calls _ call _ takes looped unrecorded calls =>
    generalize reached : after.station = station at calls
    cases calls with
    | outside call walks =>
      subst reached
      exact walked_overruled walks (Setup.other_keeps looped).1
    | enters buffered accepted =>
      rw [Handling.overruled, Handling.overruled, reached, buffered]
      rfl
    | attempts attempting own =>
      rw [Handling.overruled, Handling.overruled, reached, attempting]
      rfl
  | rejects status response quiet rests =>
    cases rests with
    | early early =>
      have preparing := kept.early early
      have unanswered : before.overruled = false := by
        rw [Handling.overruled, preparing]
        exact Bool.and_false _
      rw [unanswered, Handling.overruled]
      simp only [Handling.answer, recordRejected, Handling.record, preparing]
      rfl
    | after attempting finished =>
      rw [attempting_overruled attempting stepped slotted, Handling.overruled, attempting]
      rfl
  | serves status response quiet attempting ends =>
    rw [attempting_overruled attempting stepped slotted, Handling.overruled, attempting]
    rfl
  | pumps streaming reports =>
    rw [Handling.overruled, Handling.overruled, streaming]
    rfl

/-- Once a response is overruled it stays so. -/
theorem step_overrules (stepped : handler.Step before action after)
    (kept : Kept handler trace before) :
    after.overruled = (before.overruled || exhausted ⟨before, action, after⟩) := by
  cases full : exhausted ⟨before, action, after⟩ with
  | false => rw [Bool.or_false, step_overruled stepped kept full]
  | true => rw [Bool.or_true, exhausted_overrules stepped full]

/-- A committed response is overruled in a run exactly if a stream found no slot. -/
theorem run_overruled (arrives : Arrives handler first)
    (run : Runs.Run handler.Step first trace last) : last.overruled = trace.any exhausted := by
  induction run with
  | start =>
    rw [Handling.overruled, arrives.arriving]
    rfl
  | extend earlier stepped inductionHypothesis =>
    rw [step_overrules stepped (run_kept arrives earlier), inductionHypothesis, List.any_append,
      List.any_cons, List.any_nil, Bool.or_false]

/-! ## The answer and the record -/

/-- A streamed answer is a first part of the prepared response. -/
theorem streamed_relayed {handling : Handling} {answer : ClientResponse}
    {prepared : PreparedResponse} {upstream : Response} {spawned : Nat} {client : List ClientTurn}
    (streamed : StreamedBy handler handling answer prepared spawned client)
    (status : prepared.status = upstream.status)
    (headers : prepared.headers = filterResponseHeaders upstream.headers)
    (verbatim : prepared.prefetched.flatten ++ bodyBytes prepared.upstream =
      bodyBytes upstream.body) : Relayed handler.requestId upstream answer := by
  obtain ⟨fingerprint, selection, attemptStart, ended, result, record, _, ends, _, _, rfl⟩ :=
    streamed
  have relays := pumpUpstream_relays handler.setup.libraries.reading
    (streamPlan handler.setup.gateway.timeouts prepared attemptStart handling.proxy.requestStart)
    (streamParser prepared) spawned client prepared.upstream
  refine ⟨status, ?_, ?_⟩
  · rw [← headers]
    rfl
  · have delivered := relays.1
    rw [streamResponse] at ends
    rw [ends] at delivered
    exact verbatim ▸ delivered

section

variable (recounted : handler.setup.Recounted (handler.loop trace) last.proxy)
  (copied : record.attempts.map AttemptSummary.mark =
    last.proxy.attempts.map AttemptSummary.mark)

include recounted copied

/-- A mark in the record is the one of its attempt. -/
theorem record_marks :
    record.attempts.map AttemptSummary.mark =
      (Setup.endings (handler.loop trace)).map fun ended =>
        (ended.summary handler.setup).mark := by
  rw [copied]
  exact recounted.shown fun _ => rfl

/-- A summary of the record belongs to an attempt, and is marked exactly if that attempt
is forwarded. -/
theorem marked_iff {summary : AttemptSummary} (present : record.attempts[index]? = some summary) :
    ∃ ended, (Setup.endings (handler.loop trace))[index]? = some ended ∧
      (summary.mark = true ↔ ∃ prepared, handler.setup.Forwarded ended prepared) := by
  have same := congrArg (fun marks => marks[index]?) (record_marks recounted copied)
  simp only [List.getElem?_map, present, Option.map_some] at same
  obtain ⟨ended, found, mark⟩ := Option.map_eq_some_iff.mp same.symm
  have room := recounted.rooms ended (List.mem_of_getElem? found)
  refine ⟨ended, found, ?_⟩
  rw [← mark, AttemptSummary.mark_iff]
  exact (Setup.ended_summary room).2.marks

/-- A forwarded attempt has a summary in the record, which is marked. -/
theorem forwarded_marked {ended : EndedAttempt} {prepared : PreparedResponse}
    (found : (Setup.endings (handler.loop trace))[index]? = some ended)
    (forwards : handler.setup.Forwarded ended prepared) :
    ∃ summary, record.attempts[index]? = some summary ∧ summary.mark = true := by
  have same := congrArg (fun marks => marks[index]?) (record_marks recounted copied)
  simp only [List.getElem?_map, found, Option.map_some] at same
  obtain ⟨summary, present, mark⟩ := Option.map_eq_some_iff.mp same
  have room := recounted.rooms ended (List.mem_of_getElem? found)
  refine ⟨summary, present, ?_⟩
  rw [mark, AttemptSummary.mark_iff]
  exact (Setup.ended_summary room).2.marks.mpr ⟨prepared, forwards⟩

/-- An answer of the gateway's own is truthfully recorded exactly if it overrules nothing. -/
theorem answered_truthful {response : ClientResponse}
    (station : last.station = .answered response) :
    Truthful handler trace last record ↔ last.overruled = false := by
  have unreturned (index : Nat) : ¬ Returns handler trace last index := by
    rintro ⟨_, _, _, _, _, _, _, _, streamed, _⟩
    rw [station] at streamed
    cases streamed
  have answered : last.overruled = last.proxy.stage.committed := by
    rw [Handling.overruled, station]
    rfl
  rw [answered]
  constructor
  · intro truthful
    by_contra committed
    rw [Bool.not_eq_false] at committed
    obtain ⟨prepared, fingerprint, selection, attemptStart, finished⟩ :
        ∃ prepared fingerprint selection attemptStart, last.proxy.stage =
          .finished (.forward prepared fingerprint selection attemptStart) := by
      unfold Stage.committed at committed
      split at committed
      · exact ⟨_, _, _, _, by assumption⟩
      · cases committed
    obtain ⟨earlier, ended, split, forwards, _⟩ := recounted.forwarded _ _ _ _ finished
    have found : (Setup.endings (handler.loop trace))[earlier.length]? = some ended := by
      rw [split]
      exact List.getElem?_concat_length
    obtain ⟨summary, present, mark⟩ := forwarded_marked recounted copied found forwards
    exact unreturned _ ((truthful _ summary present).mp (AttemptSummary.mark_iff.mp mark))
  · intro uncommitted index summary present
    obtain ⟨ended, found, marked⟩ := marked_iff recounted copied present
    constructor
    · intro committed
      obtain ⟨prepared, forwards⟩ := marked.mp (AttemptSummary.mark_iff.mpr committed)
      exact absurd forwards
        (recounted.retried uncommitted ended (List.mem_of_getElem? found) prepared)
    · intro returned
      exact absurd returned (unreturned index)

/-- A streamed answer is always truthfully recorded. -/
theorem streamed_truthful {answer : ClientResponse} {prepared : PreparedResponse} {spawned : Nat}
    {client : List ClientTurn} (station : last.station = .streamed answer)
    (streamed : StreamedBy handler last answer prepared spawned client) :
    Truthful handler trace last record := by
  intro index summary present
  obtain ⟨ended, found, marked⟩ := marked_iff recounted copied present
  have member := List.mem_of_getElem? found
  have ⟨_, _, _, _, _, _, finished, _⟩ := streamed
  constructor
  · intro committed
    obtain ⟨other, forwarded⟩ := marked.mp (AttemptSummary.mark_iff.mpr committed)
    obtain ⟨forwards, _⟩ := recounted.sole finished member forwarded
    have ending := (@Setup.ended_summary handler.setup ended (recounted.rooms ended member)).2
    rw [forwards] at ending
    obtain ⟨now, upstream, answered, status, headers, verbatim⟩ := ending.upstream
    exact ⟨ended, now, upstream, prepared, answer, found, answered, forwards, station,
      streamed_relayed streamed status headers verbatim⟩
  · rintro ⟨other, _, _, forwarded, _, place, _, forwards, _, _⟩
    rw [found] at place
    cases place
    exact AttemptSummary.mark_iff.mp (marked.mpr ⟨forwarded, forwards⟩)

end

/-- The commit state of a record is true exactly if no stream of the request found all
slots taken: an attempt is committed if and only if the client was sent its response.

Proof: the marks recount the attempts, and only an answer without a slot overrules them. -/
theorem commit_state_truthful_iff (arrives : Arrives handler first)
    (run : Runs.Run handler.Step first trace last) (settled : last.station.settled = true) :
    ∃ record, last.records = [record] ∧
      (Truthful handler trace last record ↔ ∀ taken ∈ trace, exhausted taken = false) := by
  have recounted := Setup.run_recounted arrives.initial arrives.fresh arrives.unattempted
    (run_loop run)
  have told := run_told arrives run
  have overruled : last.overruled = false ↔ ∀ taken ∈ trace, exhausted taken = false := by
    rw [run_overruled arrives run, List.any_eq_false]
    simp only [Bool.not_eq_true]
  cases station : last.station with
  | answered response =>
    obtain ⟨record, alone, copied⟩ := told.answered response station
    refine ⟨record, alone, ?_⟩
    rw [answered_truthful recounted (congrArg (List.map _) copied) station, overruled]
  | streamed answer =>
    obtain ⟨prepared, spawned, client, _, streamed⟩ := told.streamed answer station
    have ⟨_, _, _, _, result, record, _, _, alone, copied, _⟩ := streamed
    refine ⟨record, alone, ?_⟩
    have hidden (summary : AttemptSummary) : (observePumped result summary).mark = summary.mark :=
      rfl
    have marks : record.attempts.map AttemptSummary.mark =
        last.proxy.attempts.map AttemptSummary.mark := by
      rw [copied]
      exact map_modifyLast hidden _
    have unanswered : last.overruled = false := by
      rw [Handling.overruled, station]
      rfl
    exact ⟨fun _ => overruled.mp unanswered,
      fun _ => streamed_truthful recounted marks station streamed⟩
  | _ =>
    rw [station] at settled
    cases settled

/-- The first key answers with a 503, the second with a stream for which no slot is free. -/
def slotlessAnswer : List HandlerAction :=
  sampleEntry ++
    [.attempt .choose, .attempt .advance, .other (.tick 2),
      .attempt (.conclude (.responded 1 ⟨503, [], [⟨2, .ended⟩]⟩) 0 id), .attempt .choose,
      .other (.tick 5), .attempt (.conclude (.responded 3 Setup.sampleStream) 0 id),
      .finalize false]

/-- The attempt is marked committed, and the client is told 503. -/
theorem slotless_answer_committed :
    (Runs.record sampleHandler.perform sampleHandling slotlessAnswer).isSome ∧
      (Runs.reached sampleHandler.perform sampleHandling slotlessAnswer).station =
        .answered (serviceUnavailable sampleHandler.render (some 1)) ∧
      ∃ record,
        (Runs.reached sampleHandler.perform sampleHandling slotlessAnswer).records = [record] ∧
        record.status = 503 ∧ record.attempts.map AttemptSummary.committed = [false, true] ∧
        ¬ Truthful sampleHandler (Runs.steps sampleHandler.perform sampleHandling slotlessAnswer)
          (Runs.reached sampleHandler.perform sampleHandling slotlessAnswer) record := by
  have station : (Runs.reached sampleHandler.perform sampleHandling slotlessAnswer).station =
      .answered (serviceUnavailable sampleHandler.render (some 1)) := by decide +kernel
  have known : (Runs.reached sampleHandler.perform sampleHandling
      slotlessAnswer).records.map (fun record =>
        (record.status, record.attempts.map AttemptSummary.committed,
        record.attempts.map AttemptSummary.mark)) =
      [(503, [false, true], [false, true])] := by decide +kernel
  obtain ⟨record, alone, facts⟩ := List.map_eq_singleton_iff.mp known
  rw [Prod.mk.injEq, Prod.mk.injEq] at facts
  obtain ⟨status, committed, marks⟩ := facts
  refine ⟨by decide +kernel, station, record, alone, status, committed, ?_⟩
  intro truthful
  have second := congrArg (fun marks => marks[1]?) marks
  rw [List.getElem?_map] at second
  obtain ⟨summary, present, mark⟩ := Option.map_eq_some_iff.mp second
  obtain ⟨_, _, _, _, _, _, _, _, streamed, _⟩ :=
    (truthful 1 summary present).mp (AttemptSummary.mark_iff.mp mark)
  rw [station] at streamed
  cases streamed

/-- The stream that finds a slot is truthfully recorded. -/
theorem commit_state_truthful_streamed :
    ∃ record,
      (Runs.reached sampleHandler.perform sampleHandling streamedAnswer).records = [record] ∧
      Truthful sampleHandler (Runs.steps sampleHandler.perform sampleHandling streamedAnswer)
        (Runs.reached sampleHandler.perform sampleHandling streamedAnswer) record := by
  have enabled : (Runs.record sampleHandler.perform sampleHandling streamedAnswer).isSome := by
    decide +kernel
  obtain ⟨record, alone, truthful⟩ :=
    commit_state_truthful_iff sampleHandling_arrives (Runs.replay_run enabled) (by decide +kernel)
  exact ⟨record, alone, truthful.mpr (by decide +kernel)⟩

end Handler

end Orihsus.Gateway
