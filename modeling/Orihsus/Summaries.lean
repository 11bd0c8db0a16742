import Mathlib.Data.List.ModifyLast
import Orihsus.FailoverRuns

/-!
# The summaries of the attempts

Over every run of the failover loop the audit summaries mirror the requests it sent: one
for each, in order, with its number and its key, and each names the key that the next
request went to. The summary of the request at hand is pushed when its attempt is over;
until then only the one before it names its key. Whatever the loop ends with, it names a
key that answered.
-/

namespace Orihsus.Pool.System

/-- A pool is only built with a policy of at most two attempts. -/
theorem initial_attempts {policy : PoolPolicy} {fingerprint : String → String} {first : System}
    (initial : Initial policy fingerprint first) : policy.maxAttempts ≤ 2 := by
  obtain ⟨keys, built, _⟩ := initial
  obtain ⟨_, _, _, valid⟩ := PoolState.withJitter_ok policy fingerprint built
  by_contra more
  have outside : ¬ (1 ≤ policy.maxAttempts ∧ policy.maxAttempts ≤ 2) := fun within => more within.2
  unfold PoolPolicy.validate at valid
  repeat' split at valid
  all_goals cases valid

end Orihsus.Pool.System

namespace Orihsus.Gateway

open Pool (AttemptResult Selection System)

/-- The summaries are those of the first requests, in order. -/
def Mirrors (sends : List Selection) (attempts : List AttemptSummary) : Prop :=
  ∀ index summary, attempts[index]? = some summary →
    summary.attemptNumber = index + 1 ∧
      sends[index]?.map Selection.fingerprint = some summary.keyFingerprint ∧
      summary.failoverTarget = sends[index + 1]?.map Selection.fingerprint

/-- The requests that are sent and whose attempt is not over. -/
def Stage.inFlight : Stage → Nat
  | .sending _ _ => 1
  | _ => 0

/-- The loop has committed a response. -/
def Stage.committed : Stage → Bool
  | .finished (.forward _ _ _ _) => true
  | _ => false

/-- The summaries of a loop that has sent these requests. -/
structure Tallied (sends : List Selection) (proxy : Proxy) : Prop where
  count : proxy.attempts.length + proxy.stage.inFlight = sends.length
  mirrors : Mirrors sends proxy.attempts
  precommit : proxy.stage.committed = false → ∀ summary ∈ proxy.attempts, summary.precommit = true

/-! ## One attempt pushes one summary -/

namespace Attempt

variable {state : GatewayState} {libraries : Libraries} {attempt : Attempt} {now : Nat}
  {response : Response} {wall : Int} {exchange : Exchange}

/-- The summary of this attempt, as it stands when the attempt ends with a verdict. -/
structure Summed (attempt : Attempt) (verdict : Verdict) (summary : AttemptSummary) : Prop where
  number : summary.attemptNumber = attempt.attempts.length + 1
  key : summary.keyFingerprint = attempt.fingerprint
  target : summary.failoverTarget = none
  precommit : (∀ prepared, verdict ≠ .forward prepared) → summary.precommit = true

/-- The attempt adds its own summary to those before it. -/
def Pushes (attempt : Attempt) (concluded : Concluded) : Prop :=
  ∃ summary, concluded.attempts = attempt.attempts ++ [summary] ∧
    Summed attempt concluded.verdict summary

/-- The summary that the attempt pushes. -/
def summary (attempt : Attempt) (latency : Option Nat) (reason : AttemptTerminalReason) :
    AttemptSummary :=
  newAttemptSummary (attempt.attempts.length + 1) attempt.fingerprint latency reason

/-- The response whose head arrives in time, with the instant of its arrival. -/
def heard (state : GatewayState) (attempt : Attempt) : Exchange → Option (Nat × Response)
  | .responded time response =>
      if time ≤ attempt.attemptStart + state.timeouts.upstreamHeader then
        some (max attempt.attemptStart time, response)
      else none
  | _ => none

/-- The statuses that are never forwarded. -/
def retryable (status : Nat) : Bool :=
  status = 429 || isAuthUnavailable status || isServerError status

/-- Every way an attempt can end, with its summary as it stands then. -/
inductive Ending (state : GatewayState) (libraries : Libraries) (attempt : Attempt)
    (exchange : Exchange) : AttemptSummary → Verdict → Prop
  | unheard (latency : Option Nat) (reason : AttemptTerminalReason)
      (quiet : attempt.heard state exchange = none) :
      Ending state libraries attempt exchange (attempt.summary latency reason)
        (.retry (some (.failure .network)) none)
  | unreadable {now : Nat} {response : Response} (failure : Pool.Failure)
      (answered : attempt.heard state exchange = some (now, response))
      (refused : retryable response.status = true)
      (cut : (consumeClassifyBody response state.timeouts.upstreamErrorBody attempt.attemptStart
        attempt.requestStart now).result = none) :
      Ending state libraries attempt exchange
        (attempt.summary (some (now - attempt.attemptStart)) .retryableResponse)
        (.retry (some (.failure failure)) none)
  | rejected {now : Nat} {response : Response} {consumed : ConsumedResponse}
      (failure : Pool.Failure) (answered : attempt.heard state exchange = some (now, response))
      (refused : retryable response.status = true)
      (read : (consumeClassifyBody response state.timeouts.upstreamErrorBody attempt.attemptStart
        attempt.requestStart now).result = some consumed) :
      Ending state libraries attempt exchange
        (observeConsumedError consumed
          (attempt.summary (some (now - attempt.attemptStart)) .retryableResponse))
        (.retry (some (.failure failure)) (some consumed))
  | unprepared {now : Nat} {response : Response} {failure : PrefetchFailure}
      (answered : attempt.heard state exchange = some (now, response))
      (usable : retryable response.status = false)
      (failed : (prepareResponse libraries.reading response (state.eventTimeoutsFor attempt.model)
        sseEventCap attempt.attemptStart now).2 = .error failure) :
      Ending state libraries attempt exchange
        (observePrefetchFailure failure
          (attempt.summary (some (now - attempt.attemptStart)) .retryableResponse))
        (.retry (prefetchReport failure.reason) none)
  | forwarded {now : Nat} {response : Response} {prepared : PreparedResponse}
      (answered : attempt.heard state exchange = some (now, response))
      (usable : retryable response.status = false)
      (ready : (prepareResponse libraries.reading response (state.eventTimeoutsFor attempt.model)
        sseEventCap attempt.attemptStart now).2 = .ok prepared) :
      Ending state libraries attempt exchange
        (observeForwarded prepared
          (attempt.summary (some (now - attempt.attemptStart)) .retryableResponse))
        (.forward prepared)

/-- The attempt pushes one summary, and ends in one of these ways. -/
def EndsIn (state : GatewayState) (libraries : Libraries) (attempt : Attempt)
    (exchange : Exchange) (concluded : Concluded) : Prop :=
  ∃ summary, concluded.attempts = attempt.attempts ++ [summary] ∧
    Ending state libraries attempt exchange summary concluded.verdict

/-- The summary of an ending. -/
theorem Ending.summed {pushed : AttemptSummary} {verdict : Verdict}
    (ending : Ending state libraries attempt exchange pushed verdict) :
    Summed attempt verdict pushed := by
  cases ending with
  | unheard | unreadable | rejected | unprepared => exact ⟨rfl, rfl, rfl, fun _ => rfl⟩
  | forwarded => exact ⟨rfl, rfl, rfl, fun retried => absurd rfl (retried _)⟩

variable (room : attempt.attempts.length < maxAuditAttempts)

include room

/-- With room a summary is pushed. -/
theorem record_eq (latency : Option Nat) (reason : AttemptTerminalReason) :
    attempt.record latency reason = attempt.attempts ++ [attempt.summary latency reason] := by
  rw [record, pushSummary, if_pos room]
  rfl

/-- A new summary that is filled in. -/
theorem record_observed (latency : Option Nat) (reason : AttemptTerminalReason)
    (observe : AttemptSummary → AttemptSummary) :
    (attempt.record latency reason).modifyLast observe =
      attempt.attempts ++ [observe (attempt.summary latency reason)] := by
  rw [record_eq room, List.modifyLast_concat]

/-- How a rejection ends. -/
theorem rejected_endsIn (answered : attempt.heard state exchange = some (now, response))
    (refused : retryable response.status = true) {unreadable : Pool.Failure}
    {classified : ConsumedResponse → Pool.Failure} :
    EndsIn state libraries attempt exchange (attempt.rejected state now response
      (attempt.record (some (now - attempt.attemptStart)) .retryableResponse) unreadable
      classified) := by
  unfold rejected
  split
  · rename_i found
    exact ⟨_, record_eq room _ _, .unreadable _ answered refused (by rw [found])⟩
  · rename_i found
    exact ⟨_, record_observed room _ _ _, .rejected _ answered refused (by rw [found])⟩

/-- How a response ends. -/
theorem respond_endsIn (answered : attempt.heard state exchange = some (now, response)) :
    EndsIn state libraries attempt exchange
      (attempt.respond state libraries wall now response) := by
  unfold respond
  dsimp only
  split
  · rename_i limited
    exact rejected_endsIn room answered (by simp [retryable, limited])
  · rename_i unlimited
    split
    · rename_i unavailable
      exact rejected_endsIn room answered (by simp [retryable, unavailable])
    · rename_i available
      split
      · rename_i broken
        exact rejected_endsIn room answered (by simp [retryable, broken])
      · rename_i sound
        have usable : retryable response.status = false := by
          simp [retryable, unlimited, available, sound]
        split
        · rename_i found
          exact ⟨_, record_observed room _ _ _, .unprepared answered usable (by rw [found])⟩
        · rename_i found
          exact ⟨_, record_observed room _ _ _, .forwarded answered usable (by rw [found])⟩

/-- Every attempt pushes one summary, however it ends. -/
theorem conclude_endsIn :
    EndsIn state libraries attempt exchange (attempt.conclude state libraries wall exchange) := by
  unfold conclude
  cases exchange with
  | silent => exact ⟨_, record_eq room _ _, .unheard _ _ rfl⟩
  | failed time =>
    dsimp only
    split
    · exact ⟨_, record_eq room _ _, .unheard _ _ rfl⟩
    · exact ⟨_, record_eq room _ _, .unheard _ _ rfl⟩
  | responded time response =>
    dsimp only
    split
    · rename_i inTime
      exact respond_endsIn room (if_pos inTime)
    · rename_i late
      exact ⟨_, record_eq room _ _, .unheard _ _ (if_neg late)⟩

/-- Every attempt is summed up. -/
theorem conclude_pushes : attempt.Pushes (attempt.conclude state libraries wall exchange) := by
  obtain ⟨pushed, recorded, ending⟩ := conclude_endsIn room
  exact ⟨pushed, recorded, ending.summed⟩

end Attempt

/-! ## The list of summaries -/

variable {requests : List Selection} {attempts : List AttemptSummary}

/-- The empty list mirrors. -/
theorem Mirrors.nil (requests : List Selection) : Mirrors requests [] := by
  intro index summary found
  rw [List.getElem?_nil] at found
  cases found

/-- Naming the key of the next request in the last summary. -/
theorem Mirrors.name (mirrors : Mirrors requests attempts)
    (precommit : ∀ summary ∈ attempts, summary.precommit = true)
    (count : attempts.length = requests.length) (selection : Selection) :
    Mirrors (requests ++ [selection])
        (attempts.modifyLast (nameFailoverTarget selection.fingerprint)) ∧
      (attempts.modifyLast (nameFailoverTarget selection.fingerprint)).length = attempts.length ∧
      ∀ summary ∈ attempts.modifyLast (nameFailoverTarget selection.fingerprint),
        summary.precommit = true := by
  rcases List.eq_nil_or_concat attempts with rfl | ⟨earlier, previous, rfl⟩
  · exact ⟨Mirrors.nil _, rfl, fun _ member => absurd member List.not_mem_nil⟩
  · rw [List.concat_eq_append] at mirrors precommit count ⊢
    have last : (earlier ++ [previous])[earlier.length]? = some previous := by simp
    obtain ⟨number, key, target⟩ := mirrors _ _ last
    have length : earlier.length + 1 = requests.length := by simpa using count
    have unnamed : previous.failoverTarget = none := by
      rw [target, List.getElem?_eq_none (by omega)]
      rfl
    have open_ : previous.precommit = true := precommit previous (by simp)
    have named : nameFailoverTarget selection.fingerprint previous =
        { previous with failoverTarget := some selection.fingerprint } := by
      simp [nameFailoverTarget, open_, unnamed]
    rw [List.modifyLast_concat, named]
    refine ⟨?_, by simp, ?_⟩
    · intro index summary found
      have bound : index < earlier.length + 1 := by
        have inside := (List.getElem?_eq_some_iff.mp found).1
        simpa using inside
      rw [List.getElem?_append_left (by omega : index < requests.length)]
      by_cases final : index = earlier.length
      · subst final
        have same : summary = { previous with failoverTarget := some selection.fingerprint } := by
          simpa using found.symm
        subst same
        refine ⟨number, key, ?_⟩
        rw [length, List.getElem?_concat_length]
        rfl
      · have inside : index < earlier.length := by omega
        rw [List.getElem?_append_left inside] at found
        have before : (earlier ++ [previous])[index]? = some summary := by
          rw [List.getElem?_append_left inside]
          exact found
        rw [List.getElem?_append_left (by omega : index + 1 < requests.length)]
        exact mirrors index summary before
    · intro summary member
      rcases List.mem_append.mp member with prior | new
      · exact precommit summary (List.mem_append_left _ prior)
      · rw [List.mem_singleton.mp new]
        exact open_

/-- Pushing the summary of the last request. -/
theorem Mirrors.push (mirrors : Mirrors requests attempts)
    (count : attempts.length + 1 = requests.length) {selection : Selection}
    (last : requests.getLast? = some selection) {summary : AttemptSummary}
    (number : summary.attemptNumber = attempts.length + 1)
    (key : summary.keyFingerprint = selection.fingerprint)
    (target : summary.failoverTarget = none) :
    Mirrors requests (attempts ++ [summary]) := by
  intro index found present
  by_cases inside : index < attempts.length
  · rw [List.getElem?_append_left inside] at present
    exact mirrors index found present
  · have bound : index < (attempts ++ [summary]).length := (List.getElem?_eq_some_iff.mp present).1
    have final : index = attempts.length := by
      rw [List.length_append, List.length_singleton] at bound
      omega
    subst final
    have same : found = summary := by simpa using present.symm
    subst same
    have sent : requests[attempts.length]? = some selection := by
      rw [List.getLast?_eq_getElem?, ← count, Nat.add_sub_cancel] at last
      exact last
    have next : requests[attempts.length + 1]? = none := List.getElem?_eq_none (by omega)
    rw [sent, next, number, key, target]
    exact ⟨rfl, rfl, rfl⟩

/-- The summaries of all requests: each with its number and the fingerprint of the key
that was used, and naming the key of the next summary. -/
structure Summarised (print : String → String) (requests : List Selection)
    (attempts : List AttemptSummary) : Prop where
  count : attempts.length = requests.length
  each : ∀ index summary, attempts[index]? = some summary →
    summary.attemptNumber = index + 1 ∧
      (requests[index]?.map fun selection => print selection.key.asStr) =
        some summary.keyFingerprint ∧
      summary.failoverTarget = attempts[index + 1]?.map AttemptSummary.keyFingerprint

/-- Once no request is in flight, the summaries name each other. -/
theorem Mirrors.summarised {print : String → String} (mirrors : Mirrors requests attempts)
    (count : attempts.length = requests.length)
    (printed : ∀ selection ∈ requests, selection.fingerprint = print selection.key.asStr) :
    Summarised print requests attempts := by
  refine ⟨count, ?_⟩
  intro index summary found
  obtain ⟨number, key, target⟩ := mirrors index summary found
  refine ⟨number, ?_, ?_⟩
  · obtain ⟨selection, sent, same⟩ := Option.map_eq_some_iff.mp key
    rw [sent, Option.map_some, ← printed selection (List.mem_of_getElem? sent), same]
  · rw [target]
    cases next : attempts[index + 1]? with
    | none =>
      have beyond : requests.length ≤ index + 1 := by
        rw [← count]
        exact List.getElem?_eq_none_iff.mp next
      rw [List.getElem?_eq_none beyond]
      rfl
    | some following =>
      rw [(mirrors (index + 1) following next).2.1]
      rfl

/-- What the last summary says of its number, its key and its target stays when the rest of
it is filled in. -/
theorem Summarised.observed {print : String → String} {observe : AttemptSummary → AttemptSummary}
    (summarised : Summarised print requests attempts)
    (number : ∀ summary, (observe summary).attemptNumber = summary.attemptNumber)
    (key : ∀ summary, (observe summary).keyFingerprint = summary.keyFingerprint)
    (target : ∀ summary, (observe summary).failoverTarget = summary.failoverTarget) :
    Summarised print requests (attempts.modifyLast observe) := by
  rcases List.eq_nil_or_concat attempts with rfl | ⟨earlier, final, rfl⟩
  · exact summarised
  · rw [List.concat_eq_append] at summarised ⊢
    rw [List.modifyLast_concat]
    -- Both lists agree on the keys, wherever they are read.
    have keys (index : Nat) :
        (earlier ++ [observe final])[index]?.map AttemptSummary.keyFingerprint =
        (earlier ++ [final])[index]?.map AttemptSummary.keyFingerprint := by
      rw [← List.getElem?_map, ← List.getElem?_map, List.map_append, List.map_append,
        List.map_singleton, List.map_singleton, key]
    refine ⟨by simpa using summarised.count, ?_⟩
    intro index summary found
    rw [keys]
    by_cases inside : index < earlier.length
    · rw [List.getElem?_append_left inside] at found
      refine summarised.each index summary ?_
      rw [List.getElem?_append_left inside]
      exact found
    · have bound : index < (earlier ++ [observe final]).length :=
        (List.getElem?_eq_some_iff.mp found).1
      have last : index = earlier.length := by
        rw [List.length_append, List.length_singleton] at bound
        omega
      subst last
      obtain ⟨numbered, keyed, named⟩ :=
        summarised.each earlier.length final List.getElem?_concat_length
      have same : summary = observe final := by simpa using found.symm
      rw [same, number, key, target]
      exact ⟨numbered, keyed, named⟩

/-! ## Runs -/

namespace Setup

variable {setup : Setup} {before after first last : Proxy} {action : ProxyAction}
  {trace : List (Runs.Transition Proxy ProxyAction)}
  {selection : Selection} {system : System} {fingerprint : String}

/-- A fresh pool lets a request send no more than the audit line has room for. -/
theorem sends_bounded (initial : System.Initial setup.policy setup.fingerprint first.system)
    (run : Runs.Run setup.Step first trace last) : (sends trace).length ≤ maxAuditAttempts := by
  have limit := System.initial_attempts initial
  obtain ⟨_, _, none, _⟩ := initial
  obtain ⟨bounded, _⟩ := System.selections_bounded none (run_pool run) setup.request
  rw [← sends_selections run] at bounded
  exact Nat.le_trans bounded limit

/-- An answer of the pool keeps the summaries; a request that is sent is named by the
summary before it. -/
theorem turned_tallied {requests : List Selection}
    {answer : Option AttemptResult} (tallied : Tallied requests before)
    (rests : before.stage.inFlight = 0) (uncommitted : before.stage.committed = false)
    (turn : action = .choose ∨ action = .advance) :
    Tallied (requests ++ (sent ⟨before, action, before.answered system answer⟩).toList)
      (before.answered system answer) := by
  have count := tallied.count
  have precommit := tallied.precommit uncommitted
  rw [rests] at count
  rcases answer with _ | answer
  · have quiet : sent ⟨before, action, before.answered system none⟩ = none := by
      rcases turn with rfl | rfl <;> rfl
    rw [quiet, Option.toList_none, List.append_nil]
    exact ⟨count, tallied.mirrors, fun _ => precommit⟩
  · cases answer with
    | selected selection =>
      have sends : sent ⟨before, action, before.answered system (some (.selected selection))⟩ =
          some selection := by
        rcases turn with rfl | rfl <;> rfl
      obtain ⟨mirrors, length, named⟩ := tallied.mirrors.name precommit count selection
      rw [sends, Option.toList_some]
      refine ⟨?_, mirrors, fun _ => named⟩
      simp only [Proxy.answered, Stage.inFlight, length, List.length_append, List.length_singleton]
      omega
    | unavailable retryAfter =>
      have quiet : sent ⟨before, action,
          before.answered system (some (.unavailable retryAfter))⟩ = none := by
        rcases turn with rfl | rfl <;> rfl
      rw [quiet, Option.toList_none, List.append_nil]
      exact ⟨count, tallied.mirrors, fun _ => precommit⟩
    | exhausted =>
      have quiet : sent ⟨before, action, before.answered system (some .exhausted)⟩ = none := by
        rcases turn with rfl | rfl <;> rfl
      rw [quiet, Option.toList_none, List.append_nil]
      exact ⟨count, tallied.mirrors, fun _ => precommit⟩

/-- An attempt that is over has its summary. -/
theorem settled_tallied {requests : List Selection}
    {attemptStart : Nat} {wall : Int} {exchange : Exchange} (tallied : Tallied requests before)
    (sending : before.stage = .sending selection attemptStart)
    (last : requests.getLast? = some selection) (bounded : requests.length ≤ maxAuditAttempts) :
    Tallied requests (before.settled system selection attemptStart
      (setup.concluded before selection attemptStart wall exchange)) := by
  have count := tallied.count
  have precommit := tallied.precommit (by rw [sending]; rfl)
  rw [sending] at count
  have room : before.attempts.length < maxAuditAttempts := by
    simp only [Stage.inFlight] at count
    omega
  obtain ⟨summary, pushed, summed⟩ :
      Attempt.Pushes (before.attempt selection attemptStart)
        (setup.concluded before selection attemptStart wall exchange) :=
    Attempt.conclude_pushes room
  have mirrors : Mirrors requests (before.attempts ++ [summary]) :=
    tallied.mirrors.push count last summed.number summed.key summed.target
  have grown : (before.attempts ++ [summary]).length + 0 = requests.length := by
    rw [List.length_append, List.length_singleton]
    exact count
  have same : (setup.concluded before selection attemptStart wall exchange).attempts =
      before.attempts ++ [summary] := pushed
  unfold Proxy.settled
  cases verdict : (setup.concluded before selection attemptStart wall exchange).verdict with
  | retry report saved =>
    refine ⟨same ▸ grown, same ▸ mirrors, ?_⟩
    intro _ other member
    rw [same] at member
    rcases List.mem_append.mp member with prior | new
    · exact precommit other prior
    · rw [List.mem_singleton.mp new]
      exact summed.precommit (by rw [verdict]; nofun)
  | forward prepared => exact ⟨same ▸ grown, same ▸ mirrors, nofun⟩

/-- A step keeps the summaries in line with what has been sent. -/
theorem step_tallied (stepped : setup.Step before action after) (ledger : Ledger setup trace before)
    (bounded : (sends (trace ++ [⟨before, action, after⟩])).length ≤ maxAuditAttempts)
    (tallied : Tallied (sends trace) before) :
    Tallied (sends (trace ++ [⟨before, action, after⟩])) after := by
  rw [sends_extend] at bounded ⊢
  have turns := step_turns stepped
  cases turns with
  | other foreign performed =>
    simp only [sent, Option.toList_none, List.append_nil]
    exact ⟨tallied.count, tallied.mirrors, tallied.precommit⟩
  | entered preparing performed =>
    have count := tallied.count
    rw [preparing] at count
    simp only [sent, Option.toList_none, List.append_nil]
    exact ⟨count, tallied.mirrors, fun _ => tallied.precommit (by rw [preparing]; rfl)⟩
  | chosen choosing performed =>
    exact turned_tallied tallied (by rw [choosing]; rfl) (by rw [choosing]; rfl) (.inl rfl)
  | advanced calling performed =>
    exact turned_tallied tallied (by rw [calling]; rfl) (by rw [calling]; rfl) (.inr rfl)
  | @retried selection attemptStart exchange wall jitter report saved system answer sending verdict
      performed =>
    simp only [sent, Option.toList_none, List.append_nil] at bounded ⊢
    refine settled_tallied tallied sending ?_ bounded
    rw [ledger.settled, sending, Stage.unreported, List.getLast?_concat]
  | @forwarded selection attemptStart exchange wall jitter prepared sending verdict =>
    simp only [sent, Option.toList_none, List.append_nil] at bounded ⊢
    refine settled_tallied tallied sending ?_ bounded
    rw [ledger.settled, sending, Stage.unreported, List.getLast?_concat]

/-- In every run of a fresh loop on a fresh pool the summaries mirror the requests. -/
theorem run_tallied (initial : System.Initial setup.policy setup.fingerprint first.system)
    (fresh : Fresh first) (unattempted : first.attempts = [])
    (run : Runs.Run setup.Step first trace last) : Tallied (sends trace) last := by
  induction run with
  | start =>
    obtain ⟨preparing, _⟩ := fresh
    refine ⟨?_, ?_, ?_⟩
    · rw [preparing, unattempted]
      rfl
    · rw [unattempted]
      exact Mirrors.nil _
    · rw [unattempted]
      exact fun _ _ member => absurd member List.not_mem_nil
  | extend earlier stepped inductionHypothesis =>
    exact step_tallied stepped (run_ledger fresh earlier)
      (sends_bounded initial (earlier.extend stepped)) inductionHypothesis

/-- Between two attempts of a run the summaries are complete. -/
theorem run_summarised (initial : System.Initial setup.policy setup.fingerprint first.system)
    (fresh : Fresh first) (unattempted : first.attempts = [])
    (run : Runs.Run setup.Step first trace last) (rests : last.stage.inFlight = 0) :
    Summarised setup.fingerprint (sends trace) last.attempts := by
  have tallied := run_tallied initial fresh unattempted run
  have count := tallied.count
  rw [rests] at count
  exact tallied.mirrors.summarised count fun _ => sends_printed initial run

/-! ## The responses of a run -/

/-- Some attempt on this key was answered in time. -/
def Responded (setup : Setup) (trace : List (Runs.Transition Proxy ProxyAction))
    (fingerprint : String) : Prop :=
  ∃ taken ∈ trace, ∃ selection attemptStart time response wall jitter,
    taken.before.stage = .sending selection attemptStart ∧
      selection.fingerprint = fingerprint ∧
      taken.label = .conclude (.responded time response) wall jitter ∧
      time ≤ attemptStart + setup.gateway.timeouts.upstreamHeader

/-- Whatever the loop holds or ends with is a response that it obtained from the key it
names, and the selection of a committed one has been handed out. -/
structure Obtained (setup : Setup) (trace : List (Runs.Transition Proxy ProxyAction))
    (proxy : Proxy) : Prop where
  saved : ∀ consumed fingerprint, proxy.lastResponse = some (consumed, fingerprint) →
    Responded setup trace fingerprint
  returned : ∀ consumed fingerprint,
    proxy.stage = .finished (.lastResponse (some (consumed, fingerprint))) →
      Responded setup trace fingerprint
  forwarded : ∀ prepared fingerprint selection attemptStart,
    proxy.stage = .finished (.forward prepared fingerprint selection attemptStart) →
      Responded setup trace fingerprint ∧ selection ∈ proxy.system.issued

/-- A response stays heard. -/
theorem Responded.extend (responded : Responded setup trace fingerprint)
    (taken : Runs.Transition Proxy ProxyAction) :
    Responded setup (trace ++ [taken]) fingerprint := by
  obtain ⟨answering, member, rest⟩ := responded
  exact ⟨answering, List.mem_append_left _ member, rest⟩

/-- Only a response that arrives in time is saved or forwarded. -/
theorem conclude_responded {state : GatewayState} {libraries : Libraries} {attempt : Attempt}
    {wall : Int} {exchange : Exchange}
    (answered : (attempt.conclude state libraries wall exchange).verdict.saved.isSome ∨
      ∃ prepared, (attempt.conclude state libraries wall exchange).verdict = .forward prepared) :
    ∃ time response, exchange = .responded time response ∧
      time ≤ attempt.attemptStart + state.timeouts.upstreamHeader := by
  unfold Attempt.conclude at answered
  cases exchange with
  | silent => rcases answered with impossible | ⟨_, impossible⟩ <;> cases impossible
  | failed time =>
    dsimp only at answered
    split at answered
    · rcases answered with impossible | ⟨_, impossible⟩ <;> cases impossible
    · rcases answered with impossible | ⟨_, impossible⟩ <;> cases impossible
  | responded time response =>
    dsimp only at answered
    split at answered
    · exact ⟨time, response, rfl, by assumption⟩
    · rcases answered with impossible | ⟨_, impossible⟩ <;> cases impossible

/-- The step that ends an attempt with a response obtains it. -/
theorem settled_responded {attemptStart : Nat} {exchange : Exchange}
    {wall : Int} {jitter : Nat → Nat}
    (sending : before.stage = .sending selection attemptStart)
    (answered : (setup.concluded before selection attemptStart wall exchange).verdict.saved.isSome ∨
      ∃ prepared, (setup.concluded before selection attemptStart wall exchange).verdict =
        .forward prepared) :
    Responded setup (trace ++ [⟨before, .conclude exchange wall jitter, after⟩])
      selection.fingerprint := by
  obtain ⟨time, response, rfl, inTime⟩ := conclude_responded answered
  exact ⟨_, List.mem_append_right _ (List.mem_singleton_self _), selection, attemptStart, time,
    response, wall, jitter, sending, rfl, rfl, inTime⟩

/-- A loop that is not over has only its saved response. -/
theorem Obtained.running {proxy : Proxy}
    (saved : ∀ consumed fingerprint, proxy.lastResponse = some (consumed, fingerprint) →
      Responded setup trace fingerprint)
    (running : ∀ outcome, proxy.stage ≠ .finished outcome) : Obtained setup trace proxy := by
  refine ⟨saved, ?_, ?_⟩
  · intro consumed fingerprint finished
    exact absurd finished (running _)
  · intro prepared fingerprint selection attemptStart finished
    exact absurd finished (running _)

/-- An answer of the pool ends the loop with what it has saved, or not at all. -/
theorem answered_obtained {answer : Option AttemptResult}
    (saved : ∀ consumed fingerprint, before.lastResponse = some (consumed, fingerprint) →
      Responded setup trace fingerprint) :
    Obtained setup trace (before.answered system answer) := by
  rcases answer with _ | answer
  · refine .running saved ?_
    intro outcome finished
    cases finished
  · cases answer with
    | selected selection =>
      refine .running saved ?_
      intro outcome finished
      cases finished
    | unavailable retryAfter =>
      refine ⟨saved, ?_, ?_⟩
      · intro consumed fingerprint finished
        cases finished
      · intro prepared fingerprint selection attemptStart finished
        cases finished
    | exhausted =>
      refine ⟨saved, ?_, ?_⟩
      · intro consumed fingerprint finished
        injection finished with returned
        injection returned with same
        exact saved consumed fingerprint same
      · intro prepared fingerprint selection attemptStart finished
        cases finished

/-- What is forwarded was obtained. -/
theorem step_obtained (stepped : setup.Step before action after)
    (ledger : Ledger setup trace before) (obtained : Obtained setup trace before) :
    Obtained setup (trace ++ [⟨before, action, after⟩]) after := by
  have saved : ∀ consumed fingerprint, before.lastResponse = some (consumed, fingerprint) →
      Responded setup (trace ++ [⟨before, action, after⟩]) fingerprint := by
    intro consumed fingerprint held
    exact (obtained.saved consumed fingerprint held).extend _
  have turns := step_turns stepped
  cases turns with
  | other foreign performed =>
    refine ⟨saved, ?_, ?_⟩
    · intro consumed fingerprint finished
      exact (obtained.returned consumed fingerprint finished).extend _
    · intro prepared fingerprint selection attemptStart finished
      obtain ⟨responded, issued⟩ := obtained.forwarded _ _ _ _ finished
      exact ⟨responded.extend _, System.issued_kept performed issued⟩
  | entered preparing performed =>
    refine .running saved ?_
    intro outcome finished
    cases finished
  | chosen | advanced => exact answered_obtained saved
  | @retried selection attemptStart exchange wall jitter report kept system answer sending verdict
      performed =>
    simp only [Proxy.settled, verdict] at saved ⊢
    refine .running ?_ ?_
    · intro consumed fingerprint held
      cases kept with
      | none => exact saved consumed fingerprint held
      | some response =>
        simp only [Option.map_some, Option.some_or, Option.some.injEq, Prod.mk.injEq] at held
        rw [← held.2]
        exact settled_responded sending (.inl (by rw [verdict]; rfl))
    · intro outcome finished
      cases finished
  | @forwarded selection attemptStart exchange wall jitter prepared sending verdict =>
    simp only [Proxy.settled, verdict] at saved ⊢
    refine ⟨saved, ?_, ?_⟩
    · intro consumed fingerprint finished
      cases finished
    · intro committed fingerprint chosen start finished
      injection finished with forwards
      injection forwards with _ printed same _
      subst printed same
      exact ⟨settled_responded sending (.inr ⟨prepared, verdict⟩),
        ledger.issued selection attemptStart sending⟩

/-- So it is in every run. -/
theorem run_obtained (fresh : Fresh first) (run : Runs.Run setup.Step first trace last) :
    Obtained setup trace last := by
  induction run with
  | start =>
    obtain ⟨preparing, nothing⟩ := fresh
    refine .running ?_ ?_
    · intro consumed fingerprint held
      rw [nothing] at held
      cases held
    · intro outcome finished
      rw [preparing] at finished
      cases finished
  | extend earlier stepped inductionHypothesis =>
    exact step_obtained stepped (run_ledger fresh earlier) inductionHypothesis

end Setup

end Orihsus.Gateway
