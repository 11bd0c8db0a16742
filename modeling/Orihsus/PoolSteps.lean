import Orihsus.PoolRuns

/-!
# Inversion of one step

What a selection establishes, and every way a step of the system can go, each
with its guards and the whole state it leaves. The laws of runs case on these
forms; none of them unfolds the step function again.
-/

namespace Orihsus.Pool

namespace RequestAttempts

variable (policy : PoolPolicy) (attempts : RequestAttempts) (state : PoolState) (now : Nat)

/-- Eligibility in words: an unused candidate whose live entry cools neither
globally nor for the request's model. -/
theorem eligible_iff (candidate : RequestCandidate) :
    attempts.eligible state now candidate = true ↔
      candidate.fingerprint ∉ attempts.used ∧
        ∃ entry, state.lookup candidate.fingerprint = some entry ∧
          entry.isCooling now = false ∧ entry.isLivenessCooling attempts.model now = false := by
  unfold eligible
  by_cases used : candidate.fingerprint ∈ attempts.used
  · simp [used]
  · cases found : state.lookup candidate.fingerprint with
    | none | some => simp [used]

/-- A candidate that is not eligible was used, or its live entry cools. -/
theorem ineligible_iff (candidate : RequestCandidate) :
    attempts.eligible state now candidate = false ↔
      (candidate.fingerprint ∉ attempts.used →
        ∀ entry, state.lookup candidate.fingerprint = some entry →
          entry.isCooling now = true ∨ entry.isLivenessCooling attempts.model now = true) := by
  rw [← not_iff_not, Bool.not_eq_false, eligible_iff]
  simp only [Classical.not_imp, not_forall, not_or, Bool.not_eq_true]

/-- A selection is an eligible candidate preceded by no eligible one, with the
next id, and its only effect is the claim and the id. -/
theorem trySelectUnused_some {selection : Selection} {claimed : PoolState}
    (selected : attempts.trySelectUnused policy state now = some (selection, claimed)) :
    (∃ passed rest, attempts.candidates =
        passed ++ ⟨selection.fingerprint, selection.key⟩ :: rest ∧
        ∀ candidate ∈ passed, attempts.eligible state now candidate = false) ∧
      attempts.eligible state now ⟨selection.fingerprint, selection.key⟩ = true ∧
      selection.id = state.nextId ∧
      claimed = { state.adjust selection.fingerprint
          (fun entry => entry.claim policy state.nextId now) with
        nextId := state.nextId + 1 } := by
  unfold trySelectUnused at selected
  split at selected
  · cases selected
  · rename_i candidate found
    cases selected
    obtain ⟨eligible, passed, rest, whole, ineligible⟩ := List.find?_eq_some_iff_append.mp found
    refine ⟨⟨passed, rest, whole, fun earlier member => ?_⟩, eligible, rfl, rfl⟩
    simpa using ineligible earlier member

/-- A try fails exactly when no candidate is eligible. -/
theorem trySelectUnused_none :
    attempts.trySelectUnused policy state now = none ↔
      ∀ candidate ∈ attempts.candidates, attempts.eligible state now candidate = false := by
  unfold trySelectUnused
  split
  · rename_i missing
    simpa using missing
  · rename_i candidate found
    obtain ⟨eligible, _⟩ := List.find?_eq_some_iff_append.mp found
    refine iff_of_false (by simp) (fun none => ?_)
    rw [none candidate (List.mem_of_find?_eq_some found)] at eligible
    cases eligible

end RequestAttempts

/-- The steps of a call that select nothing, by the phase they leave. `spent`
and `began` start a call, `unlucky` is an immediate call that finds nothing, and
the others are the turns of the loop of `next`. -/
inductive QuietStep (policy : PoolPolicy) (state : PoolState) (now : Nat)
    (attempts : RequestAttempts) : CallPhase → CallPhase → Option AttemptResult → Prop
  | spent (full : attempts.max ≤ attempts.used.length) :
      QuietStep policy state now attempts .idle .idle (some .exhausted)
  | began (room : attempts.used.length < attempts.max) :
      QuietStep policy state now attempts .idle .selecting none
  | unlucky (missed : attempts.trySelectUnused policy state now = none) :
      QuietStep policy state now attempts .idle .idle (some .exhausted)
  | missed (missed : attempts.trySelectUnused policy state now = none) :
      QuietStep policy state now attempts .selecting .missed none
  | drained (none : attempts.hasUnused = false) :
      QuietStep policy state now attempts .missed .idle (some .exhausted)
  | timed (unused : attempts.hasUnused = true) :
      QuietStep policy state now attempts .missed (.recovering now) none
  | late {read : Nat} (overdue : attempts.deadline ≤ read) :
      QuietStep policy state now attempts (.recovering read) .idle
        (some (.unavailable ((attempts.earliestRecovery state now).getD read - read)))
  | stranded {read : Nat} (early : read < attempts.deadline)
      (nothing : attempts.earliestRecovery state now = none) :
      QuietStep policy state now attempts (.recovering read) .idle (some (.unavailable 0))
  | retried {read recovery : Nat} (early : read < attempts.deadline)
      (earliest : attempts.earliestRecovery state now = some recovery)
      (passed : recovery ≤ read) :
      QuietStep policy state now attempts (.recovering read) .selecting none
  | slept {read recovery : Nat} (early : read < attempts.deadline)
      (earliest : attempts.earliestRecovery state now = some recovery)
      (ahead : read < recovery) :
      QuietStep policy state now attempts (.recovering read)
        (.sleeping (min recovery attempts.deadline)) none
  | woke {wake : Nat} (due : wake ≤ now) :
      QuietStep policy state now attempts (.sleeping wake) .selecting none

/-- A quiet step answers with no selection. -/
theorem QuietStep.not_selected {policy : PoolPolicy} {state : PoolState} {now : Nat}
    {attempts : RequestAttempts} {phase next : CallPhase} {answer : Option AttemptResult}
    {selection : Selection} (step : QuietStep policy state now attempts phase next answer) :
    answer ≠ some (.selected selection) := by
  rintro rfl
  cases step

namespace System

variable (policy : PoolPolicy) (fingerprint : String → String)

/-- Every way a step can go. A selection is made by an immediate call or by the
selecting turn of `next`; a call's other steps leave the pool and the tracker as
they are. -/
inductive Performs (before : System) : Action → System → Option AttemptResult → Prop
  | tick (elapsed : Nat) :
      Performs before (.tick elapsed) { before with clock := before.clock + elapsed } none
  | request (model : Option String) :
      Performs before (.request model)
        { before with callers := before.callers ++
            [⟨before.pool.requestWithModel policy model before.clock, .idle⟩] } none
  | setModel {request : Nat} {caller : Caller} (model : String)
      (waiting : before.callers[request]? = some caller) (idle : caller.phase = .idle) :
      Performs before (.setModel request model)
        { before with
          callers := before.callers.set request ⟨caller.attempts.setModel model, .idle⟩ } none
  | quiet {action : Action} {request : Nat} {caller : Caller} {phase : CallPhase}
      {answer : Option AttemptResult}
      (call : action = .next request ∨ action = .nextImmediate request ∨ action = .advance request)
      (waiting : before.callers[request]? = some caller)
      (step : QuietStep policy before.pool before.clock caller.attempts caller.phase phase answer) :
      Performs before action
        { before with callers := before.callers.set request ⟨caller.attempts, phase⟩ } answer
  | selected {action : Action} {request : Nat} {caller : Caller} {selection : Selection}
      {claimed : PoolState}
      (call : action = .nextImmediate request ∨ action = .advance request)
      (waiting : before.callers[request]? = some caller)
      (room : caller.attempts.used.length < caller.attempts.max ∨ caller.phase = .selecting)
      (tried : caller.attempts.trySelectUnused policy before.pool before.clock =
        some (selection, claimed)) :
      Performs before action
        { before with
          pool := claimed
          callers := before.callers.set request ⟨caller.attempts.markUsed selection, .idle⟩
          issued := before.issued ++ [selection] }
        (some (.selected selection))
  | succeeded {selection : Selection} (issued : selection ∈ before.issued) :
      Performs before (.reportSuccess selection)
        { before with pool := before.pool.reportSuccess selection } none
  | failed {selection : Selection} {failure : Failure} {jitter : Nat → Nat}
      (issued : selection ∈ before.issued) :
      Performs before (.reportFailure selection failure jitter)
        { before with
          pool := before.pool.reportFailure policy jitter selection failure before.clock } none
  | cooled {target : String} {cooldown : Nat} {read : Nat} (past : read ≤ before.clock) :
      Performs before (.reportProactiveCooldown target cooldown read)
        { before with pool := before.pool.reportProactiveCooldown target cooldown read } none
  | slowed {selection : Selection} {model : String} (issued : selection ∈ before.issued) :
      Performs before (.reportLivenessFailure selection model)
        { before with
          pool := before.pool.reportLivenessFailure policy selection model before.clock } none
  | reloaded {keys : List Secret} {pool : PoolState}
      (replaced : before.pool.replaceKeys fingerprint keys = .ok pool) :
      Performs before (.replaceKeys keys) { before with pool := pool } none
  | refused {keys : List Secret} {error : PoolError}
      (rejected : before.pool.replaceKeys fingerprint keys = .error error) :
      Performs before (.replaceKeys keys) before none

variable {policy fingerprint} {before after : System} {action : Action}
  {given : Option AttemptResult}
  {selection : Selection} {request : Nat} {caller : Caller}

/-- A quiet step records no selection. -/
theorem called_quiet (request : Nat) (caller : Caller) {answer : Option AttemptResult}
    (nothing : answered answer = []) :
    (before.called request caller before.pool answer).1 =
      { before with callers := before.callers.set request caller } := by
  simp [called, nothing]

/-- Every turn of the loop of `next` is a selection or a quiet step. -/
theorem advance_cases {caller advanced : Caller} {pool : PoolState}
    {answer : Option AttemptResult} (waiting : before.callers[request]? = some caller)
    (turned : caller.advance policy before.pool before.clock = some (advanced, pool, answer)) :
    Performs policy fingerprint before (.advance request)
      (before.called request advanced pool answer).1 answer := by
  have quietly {phase : CallPhase} {answer : Option AttemptResult} (nothing : answered answer = [])
      (step : QuietStep policy before.pool before.clock caller.attempts caller.phase phase answer) :
      Performs policy fingerprint before (.advance request)
        (before.called request ⟨caller.attempts, phase⟩ before.pool answer).1 answer := by
    rw [called_quiet request _ nothing]
    exact .quiet (.inr (.inr rfl)) waiting step
  cases phase : caller.phase with
  | idle => simp [Caller.advance, phase] at turned
  | selecting =>
    cases tried : caller.attempts.trySelectUnused policy before.pool before.clock with
    | none =>
      simp only [Caller.advance, phase, tried, Option.some.injEq, Prod.mk.injEq] at turned
      obtain ⟨rfl, rfl, rfl⟩ := turned
      exact quietly rfl (phase ▸ .missed tried)
    | some result =>
      simp only [Caller.advance, phase, tried, Option.some.injEq, Prod.mk.injEq] at turned
      obtain ⟨rfl, rfl, rfl⟩ := turned
      exact .selected (.inr rfl) waiting (.inr phase) tried
  | missed =>
    simp only [Caller.advance, phase] at turned
    split at turned
    · rename_i unused
      obtain ⟨rfl, rfl, rfl⟩ := Prod.mk.inj (Option.some.inj turned) |>.imp_right Prod.mk.inj
      exact quietly rfl (phase ▸ .timed unused)
    · rename_i none
      obtain ⟨rfl, rfl, rfl⟩ := Prod.mk.inj (Option.some.inj turned) |>.imp_right Prod.mk.inj
      exact quietly rfl (phase ▸ .drained (by simpa using none))
  | recovering read =>
    simp only [Caller.advance, phase] at turned
    split at turned
    · rename_i overdue
      obtain ⟨rfl, rfl, rfl⟩ := Prod.mk.inj (Option.some.inj turned) |>.imp_right Prod.mk.inj
      exact quietly rfl (phase ▸ .late overdue)
    · rename_i early
      split at turned
      · rename_i nothing
        obtain ⟨rfl, rfl, rfl⟩ := Prod.mk.inj (Option.some.inj turned) |>.imp_right Prod.mk.inj
        exact quietly rfl (phase ▸ .stranded (Nat.lt_of_not_le early) nothing)
      · rename_i recovery earliest
        split at turned
        · rename_i passed
          obtain ⟨rfl, rfl, rfl⟩ := Prod.mk.inj (Option.some.inj turned) |>.imp_right Prod.mk.inj
          exact quietly rfl (phase ▸ .retried (Nat.lt_of_not_le early) earliest passed)
        · rename_i ahead
          obtain ⟨rfl, rfl, rfl⟩ := Prod.mk.inj (Option.some.inj turned) |>.imp_right Prod.mk.inj
          exact quietly rfl
            (phase ▸ .slept (Nat.lt_of_not_le early) earliest (Nat.lt_of_not_le ahead))
  | sleeping wake =>
    simp only [Caller.advance, phase] at turned
    split at turned
    · rename_i due
      obtain ⟨rfl, rfl, rfl⟩ := Prod.mk.inj (Option.some.inj turned) |>.imp_right Prod.mk.inj
      exact quietly rfl (phase ▸ .woke due)
    · cases turned

/-- An immediate call selects or finds nothing. -/
theorem nextImmediate_cases
    (waiting : before.callers[request]? = some caller) (idle : caller.phase = .idle) :
    let result := caller.attempts.nextImmediate policy before.pool before.clock
    Performs policy fingerprint before (.nextImmediate request)
      (before.called request ⟨result.1, .idle⟩ result.2.1 (some result.2.2)).1
      (some result.2.2) := by
  obtain ⟨attempts, phase⟩ := caller
  dsimp only at idle ⊢
  subst idle
  unfold RequestAttempts.nextImmediate
  split
  · rename_i full
    rw [called_quiet request _ rfl]
    exact .quiet (.inr (.inl rfl)) waiting (.spent full)
  · rename_i room
    cases tried : attempts.trySelectUnused policy before.pool before.clock with
    | none =>
      rw [called_quiet request _ rfl]
      exact .quiet (.inr (.inl rfl)) waiting (.unlucky tried)
    | some result =>
      exact .selected (.inl rfl) waiting (.inl (Nat.lt_of_not_le room)) tried

/-- The start of a call of `next` selects nothing. -/
theorem next_cases
    (waiting : before.callers[request]? = some caller) (idle : caller.phase = .idle) :
    Performs policy fingerprint before (.next request)
      (before.called request caller.next.1 before.pool caller.next.2).1 caller.next.2 := by
  obtain ⟨attempts, phase⟩ := caller
  dsimp only at idle
  subst idle
  unfold Caller.next
  split
  · rename_i full
    rw [called_quiet request _ rfl]
    exact .quiet (.inl rfl) waiting (.spent full)
  · rename_i room
    rw [called_quiet request _ rfl]
    exact .quiet (.inl rfl) waiting (.began (Nat.lt_of_not_le room))

/-- The inversion of a step. -/
theorem perform_cases
    (performed : before.perform policy fingerprint action = some (after, given)) :
    Performs policy fingerprint before action after given := by
  cases action with
  | tick elapsed => cases performed; exact .tick elapsed
  | request model => cases performed; exact .request model
  | setModel request model =>
    obtain ⟨caller, waiting, rest⟩ := Option.bind_eq_some_iff.mp performed
    obtain ⟨idle, done⟩ := Runs.guard_bind.mp rest
    cases done
    change Performs policy fingerprint before _
      (before.called request ⟨caller.attempts.setModel model, .idle⟩ before.pool none).1 none
    rw [called_quiet request _ rfl]
    exact .setModel model waiting idle
  | next request =>
    obtain ⟨caller, waiting, rest⟩ := Option.bind_eq_some_iff.mp performed
    obtain ⟨idle, done⟩ := Runs.guard_bind.mp rest
    cases done
    exact next_cases waiting idle
  | nextImmediate request =>
    obtain ⟨caller, waiting, rest⟩ := Option.bind_eq_some_iff.mp performed
    obtain ⟨idle, done⟩ := Runs.guard_bind.mp rest
    cases done
    exact nextImmediate_cases waiting idle
  | advance request =>
    obtain ⟨caller, waiting, rest⟩ := Option.bind_eq_some_iff.mp performed
    obtain ⟨⟨advanced, pool, answer⟩, turned, done⟩ := Option.bind_eq_some_iff.mp rest
    cases done
    exact advance_cases waiting turned
  | reportSuccess selection =>
    obtain ⟨issued, done⟩ := Runs.guard_bind.mp performed
    cases done
    exact .succeeded issued
  | reportFailure selection failure jitter =>
    obtain ⟨issued, done⟩ := Runs.guard_bind.mp performed
    cases done
    exact .failed issued
  | reportProactiveCooldown target cooldown read =>
    obtain ⟨past, done⟩ := Runs.guard_bind.mp performed
    cases done
    exact .cooled past
  | reportLivenessFailure selection model =>
    obtain ⟨issued, done⟩ := Runs.guard_bind.mp performed
    cases done
    exact .slowed issued
  | replaceKeys keys =>
    simp only [perform] at performed
    split at performed
    · rename_i pool replaced
      cases performed
      exact .reloaded replaced
    · rename_i error rejected
      cases performed
      exact .refused rejected

/-- Every step goes one of these ways, with the answer it gives. -/
theorem step_cases (stepped : Step policy fingerprint before action after) :
    Performs policy fingerprint before action after (before.answer policy fingerprint action) := by
  obtain ⟨⟨left, given⟩, performed, rfl⟩ := Option.map_eq_some_iff.mp stepped
  have answers : before.answer policy fingerprint action = given := by
    simp [answer, performed]
  rw [answers]
  exact perform_cases performed

/-- A step that answers with a selection is a successful try of one request. -/
theorem step_selected (stepped : Step policy fingerprint before action after)
    (answered : before.answer policy fingerprint action = some (.selected selection)) :
    ∃ request caller claimed, (action = .nextImmediate request ∨ action = .advance request) ∧
      before.callers[request]? = some caller ∧
      (caller.attempts.used.length < caller.attempts.max ∨ caller.phase = .selecting) ∧
      caller.attempts.trySelectUnused policy before.pool before.clock = some (selection, claimed) ∧
      after = { before with
        pool := claimed
        callers := before.callers.set request ⟨caller.attempts.markUsed selection, .idle⟩
        issued := before.issued ++ [selection] } := by
  have performs := step_cases stepped
  rw [answered] at performs
  cases performs with
  | quiet call waiting step => exact False.elim (step.not_selected rfl)
  | selected call waiting room tried => exact ⟨_, _, _, call, waiting, room, tried, rfl⟩

end System

end Orihsus.Pool
