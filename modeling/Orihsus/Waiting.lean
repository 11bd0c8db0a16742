import Orihsus.PoolInvariant
import Orihsus.Recovery

/-!
# What a call of `next` waits for

A call that finds nothing to select computes when the first of its captured keys recovers:
the least deadline still ahead, where the deadline of a key is the later of its global one
and the one for the request's model. Past its own deadline the call answers with the time
until then; before it, the call sleeps until then.

The answer is exact when nothing comes between the failed try and the second lock. The
sleep is not: whether anything is left to try is read off the captured keys, and the time
to wake off the live pool, over used and unused keys alike. Once a reload has removed the
unused keys, a call sleeps until a key recovers that it may not use again.
-/

namespace Orihsus.Pool

namespace RequestAttempts

variable {attempts : RequestAttempts} {state : PoolState} {candidate : RequestCandidate}
  {entry : KeyEntry} {now instant recovery : Nat}

/-- A live key is blocked exactly until its recovery deadline. -/
theorem blocked_iff (found : state.lookup candidate.fingerprint = some entry) :
    entry.blocked attempts.model instant = true ↔
      ∃ deadline, attempts.recoveryDeadline state candidate = some deadline ∧
        instant < deadline := by
  have ahead (modelled : Option Nat)
      (read : entry.isLivenessCooling attempts.model instant =
        modelled.any (fun deadline => instant < deadline))
      (bound : attempts.model.bind (fun model => entry.livenessCooling.lookup model) = modelled) :
      entry.blocked attempts.model instant = true ↔
        ∃ deadline, attempts.recoveryDeadline state candidate = some deadline ∧
          instant < deadline := by
    unfold recoveryDeadline KeyEntry.blocked KeyEntry.isCooling
    rw [found, read]
    dsimp only
    rw [bound]
    cases entry.coolingUntil with
    | none =>
      cases modelled with
      | none | some => simp
    | some globally =>
      cases modelled with
      | none => simp
      | some later =>
        have latest : instant < Nat.max globally later ↔ instant < globally ∨ instant < later := by
          show instant < Max.max globally later ↔ _
          omega
        simp [latest]
  cases named : attempts.model with
  | none =>
    rw [← named]
    exact ahead none (by simp [KeyEntry.isLivenessCooling, named]) (by simp [named])
  | some model =>
    rw [← named]
    exact ahead (entry.livenessCooling.lookup model)
      (by simp [KeyEntry.isLivenessCooling, named]) (by simp [named])

/-- Only a live key has a recovery deadline. -/
theorem recoveryDeadline_live {deadline : Nat}
    (recovers : attempts.recoveryDeadline state candidate = some deadline) :
    ∃ entry, state.lookup candidate.fingerprint = some entry := by
  cases found : state.lookup candidate.fingerprint with
  | none => simp [recoveryDeadline, found] at recovers
  | some entry => exact ⟨entry, rfl⟩

/-- The earliest recovery is a deadline still ahead, and there is no earlier one. -/
theorem earliestRecovery_some (earliest : attempts.earliestRecovery state now = some recovery) :
    (∃ candidate ∈ attempts.candidates,
        attempts.recoveryDeadline state candidate = some recovery) ∧ now < recovery ∧
      ∀ candidate ∈ attempts.candidates, ∀ deadline,
        attempts.recoveryDeadline state candidate = some deadline → now < deadline →
          recovery ≤ deadline := by
  obtain ⟨member, least⟩ := List.min?_eq_some_iff.mp earliest
  obtain ⟨listed, ahead⟩ := List.mem_filter.mp member
  refine ⟨List.mem_filterMap.mp listed, of_decide_eq_true ahead, ?_⟩
  intro candidate captured deadline recovers later
  exact least deadline (List.mem_filter.mpr
    ⟨List.mem_filterMap.mpr ⟨candidate, captured, recovers⟩, decide_eq_true later⟩)

/-- There is no recovery to wait for exactly when no captured key has a deadline ahead. -/
theorem earliestRecovery_isSome :
    (attempts.earliestRecovery state now).isSome = true ↔
      ∃ candidate ∈ attempts.candidates, ∃ deadline,
        attempts.recoveryDeadline state candidate = some deadline ∧ now < deadline := by
  rw [earliestRecovery, List.isSome_min?_iff]
  constructor
  · intro ahead
    obtain ⟨deadline, member⟩ := List.exists_mem_of_ne_nil _ ahead
    obtain ⟨listed, ahead⟩ := List.mem_filter.mp member
    obtain ⟨candidate, captured, recovers⟩ := List.mem_filterMap.mp listed
    exact ⟨candidate, captured, deadline, recovers, of_decide_eq_true ahead⟩
  · rintro ⟨candidate, captured, deadline, recovers, ahead⟩
    exact List.ne_nil_of_mem (List.mem_filter.mpr
      ⟨List.mem_filterMap.mpr ⟨candidate, captured, recovers⟩, decide_eq_true ahead⟩)

/-- The recovery deadline of a key is one of its deadlines. -/
theorem recoveryDeadline_le {horizon deadline : Nat}
    (found : state.lookup candidate.fingerprint = some entry) (formed : entry.WellFormed horizon)
    (recovers : attempts.recoveryDeadline state candidate = some deadline) :
    deadline ≤ horizon := by
  have modelled {later : Nat}
      (read : attempts.model.bind (fun model => entry.livenessCooling.lookup model) =
        some later) : later ≤ horizon := by
    obtain ⟨model, _, cooled⟩ := Option.bind_eq_some_iff.mp read
    obtain ⟨front, back, whole, _⟩ := List.lookup_eq_some_iff.mp cooled
    refine formed.models (model, later) ?_
    rw [whole]
    exact List.mem_append_right _ List.mem_cons_self
  unfold recoveryDeadline at recovers
  rw [found] at recovers
  dsimp only at recovers
  split at recovers
  · rename_i globally later cooling read
    cases recovers
    exact Nat.max_le.mpr ⟨formed.deadline globally cooling, modelled read⟩
  · rename_i globally cooling _
    cases recovers
    exact formed.deadline _ cooling
  · rename_i later _ read
    cases recovers
    exact modelled read
  · cases recovers

end RequestAttempts

namespace System

variable {policy : PoolPolicy} {fingerprint : String → String} {before after first last : System}
  {action : Action} {asked : String} {entry : KeyEntry} {request : Nat} {caller : Caller}
  {attempts : RequestAttempts} {trace : List (Runs.Transition System Action)}

/-! ## Deadlines ahead of the clock -/

/-- No key cools for longer than the ceiling, counted from now. -/
def WithinCeiling (system : System) : Prop :=
  ∀ asked entry, system.pool.lookup asked = some entry →
    entry.WellFormed (system.clock + maxCooldown)

/-- A proactive report reads the clock before it takes the lock. -/
theorem proactive_past {target : String} {cooldown read : Nat}
    (stepped : Step policy fingerprint before (.reportProactiveCooldown target cooldown read)
      after) :
    read ≤ before.clock := by
  obtain ⟨_, performed, _⟩ := Option.map_eq_some_iff.mp stepped
  exact (Runs.guard_bind.mp performed).1

/-- A transition of a key sets no deadline beyond the ceiling. -/
theorem touches_formed {event : KeyEvent} (stepped : Step policy fingerprint before action after)
    (touches : Touches policy fingerprint before action asked event)
    (formed : entry.WellFormed (before.clock + maxCooldown)) :
    (event.apply policy fingerprint before.clock entry).WellFormed
      (before.clock + maxCooldown) := by
  cases touches with
  | kept action asked => exact formed
  | succeeded selection issued => exact formed.success selection.id
  | failed selection failure jitter issued => exact formed.failure (Nat.le_refl _) failure
  | cooled target cooldown read =>
    have past := proactive_past stepped
    exact formed.proactive
      (Nat.le_trans (deadlineAfter_le _ _) (Nat.add_le_add_right past maxCooldown))
  | claimed answered drawn available => exact formed.claimed (Nat.le_refl _)
  | slowed selection model => exact formed.liveness model (deadlineAfter_le _ _)
  | @relisted keys key listed => exact formed.carried key

/-- No wait is above the ceiling. -/
theorem step_withinCeiling (stepped : Step policy fingerprint before action after)
    (within : WithinCeiling before) : WithinCeiling after := by
  intro asked left present
  have later : before.clock + maxCooldown ≤ after.clock + maxCooldown :=
    Nat.add_le_add_right (clock_le stepped) _
  rcases step_found stepped present with ⟨entry, event, found, touches, rfl⟩ | ⟨_, key, rfl⟩
  · exact (touches_formed stepped touches (within asked entry found)).mono later
  · exact KeyEntry.WellFormed.fresh key

/-- In every state of every run the deadlines are within the ceiling. -/
theorem run_withinCeiling (initial : Initial policy fingerprint first)
    (run : Runs.Run (Step policy fingerprint) first trace last) : WithinCeiling last := by
  refine run.invariant WithinCeiling ?_ fun _ _ _ => step_withinCeiling
  obtain ⟨keys, built, _, _⟩ := initial
  obtain ⟨entries, _, _, _⟩ := PoolState.withJitter_ok policy fingerprint built
  intro asked entry found
  obtain ⟨member, _⟩ := FirstMatch.lookup_some found
  rw [entries] at member
  obtain ⟨key, _, rfl⟩ := List.mem_map.mp member
  exact KeyEntry.WellFormed.fresh key

/-! ## The turns of a call -/

/-- A turn of a call, with its answer. -/
theorem step_advance (stepped : Step policy fingerprint before (.advance request) after)
    (waiting : before.callers[request]? = some caller) :
    ∃ advanced pool, caller.advance policy before.pool before.clock =
        some (advanced, pool, before.answer policy fingerprint (.advance request)) ∧
      after = (before.called request advanced pool
        (before.answer policy fingerprint (.advance request))).1 := by
  obtain ⟨⟨left, given⟩, performed, rfl⟩ := Option.map_eq_some_iff.mp stepped
  have answers : before.answer policy fingerprint (.advance request) = given := by
    simp [answer, performed]
  obtain ⟨other, held, rest⟩ := Option.bind_eq_some_iff.mp performed
  obtain ⟨⟨advanced, pool, answer⟩, turned, done⟩ := Option.bind_eq_some_iff.mp rest
  obtain rfl : caller = other := Option.some.inj (waiting.symm.trans held)
  cases done
  rw [answers]
  exact ⟨advanced, pool, turned, rfl⟩

/-- The caller that a turn leaves. -/
theorem called_caller {left : Caller} {pool : PoolState} {answer : Option AttemptResult}
    (waiting : before.callers[request]? = some caller) :
    (before.called request left pool answer).1.callers[request]? = some left := by
  simp only [called, callers_set waiting, if_true]

/-- A call that comes to its second lock without being disturbed has tried in vain, on the
pool and at the time that it still finds. -/
theorem undisturbed_turn {missed recovering left : System}
    (waiting : before.callers[request]? = some ⟨attempts, .selecting⟩)
    (tried : Step policy fingerprint before (.advance request) missed)
    (timed : Step policy fingerprint missed (.advance request) recovering)
    (stepped : Step policy fingerprint recovering (.advance request) left) :
    attempts.trySelectUnused policy before.pool before.clock = none ∧
      recovering.pool = before.pool ∧ recovering.clock = before.clock ∧
      recovering.callers[request]? = some ⟨attempts, .recovering before.clock⟩ := by
  have ended {system next : System} {tracker : RequestAttempts}
      (idle : system.callers[request]? = some ⟨tracker, .idle⟩)
      (onward : Step policy fingerprint system (.advance request) next) : False := by
    obtain ⟨_, _, turned, _⟩ := step_advance onward idle
    cases turned
  obtain ⟨advanced, pool, turned, rfl⟩ := step_advance tried waiting
  generalize before.answer policy fingerprint (.advance request) = answer at *
  cases selects : attempts.trySelectUnused policy before.pool before.clock with
  | some result =>
    simp only [Caller.advance, selects, Option.some.injEq, Prod.mk.injEq] at turned
    obtain ⟨rfl, rfl, rfl⟩ := turned
    exact (ended (called_caller waiting) timed).elim
  | none =>
    simp only [Caller.advance, selects, Option.some.injEq, Prod.mk.injEq] at turned
    obtain ⟨rfl, rfl, rfl⟩ := turned
    have second : (before.called request ⟨attempts, .missed⟩ before.pool none).1.callers[request]? =
        some ⟨attempts, .missed⟩ := called_caller waiting
    obtain ⟨advanced, pool, turned, rfl⟩ := step_advance timed second
    generalize answer policy fingerprint _ (.advance request) = answer at *
    by_cases unused : attempts.hasUnused = true
    · simp only [Caller.advance, unused, if_true, Option.some.injEq, Prod.mk.injEq] at turned
      obtain ⟨rfl, rfl, rfl⟩ := turned
      exact ⟨rfl, rfl, rfl, called_caller second⟩
    · simp only [Caller.advance, unused, if_false, Option.some.injEq, Prod.mk.injEq,
        Bool.false_eq_true] at turned
      obtain ⟨rfl, rfl, rfl⟩ := turned
      exact (ended (called_caller second) stepped).elim

/-- The second lock reads the pool and leaves it as it is. -/
theorem second_lock_pool {read now : Nat} {state pool : PoolState} {advanced : Caller}
    {answer : Option AttemptResult}
    (turned : Caller.advance policy ⟨attempts, .recovering read⟩ state now =
      some (advanced, pool, answer)) : pool = state := by
  simp only [Caller.advance] at turned
  split at turned
  · cases turned
    rfl
  · split at turned
    · cases turned
      rfl
    · split at turned <;> cases turned <;> rfl

/-- A positive answer of the second lock is the time until the earliest recovery. -/
theorem positive_answer {read retryAfter : Nat} (positive : 0 < retryAfter)
    (waiting : before.callers[request]? = some ⟨attempts, .recovering read⟩)
    (stepped : Step policy fingerprint before (.advance request) after)
    (answered : before.answer policy fingerprint (.advance request) =
      some (.unavailable retryAfter)) :
    ∃ recovery, attempts.earliestRecovery before.pool before.clock = some recovery ∧
      recovery = read + retryAfter := by
  obtain ⟨advanced, pool, turned, _⟩ := step_advance stepped waiting
  rw [answered] at turned
  simp only [Caller.advance] at turned
  cases earliest : attempts.earliestRecovery before.pool before.clock with
  | none =>
    rw [earliest] at turned
    split at turned
    · simp only [Option.some.injEq, Prod.mk.injEq, AttemptResult.unavailable.injEq,
        Option.getD_none] at turned
      omega
    · simp only [Option.some.injEq, Prod.mk.injEq, AttemptResult.unavailable.injEq] at turned
      omega
  | some recovery =>
    rw [earliest] at turned
    refine ⟨recovery, rfl, ?_⟩
    split at turned
    · simp only [Option.some.injEq, Prod.mk.injEq, AttemptResult.unavailable.injEq,
        Option.getD_some] at turned
      omega
    · dsimp only at turned
      split at turned <;> simp at turned

/-- A live key can be captured by a new request. -/
theorem captured_anew (found : before.pool.lookup asked = some entry) :
    entry.candidate ∈ before.pool.candidates := by
  rw [PoolState.candidates_rotate]
  exact List.mem_map_of_mem (List.mem_rotate.mpr (FirstMatch.lookup_some found).1)

/-- The Retry-After of a wait that has come to its end is exact. In every state that a run
reaches, a call that tries in vain, reads the clock and takes its second lock without being
disturbed, and then answers with a positive time, has no unused key that is selectable at
any instant before that time is over; when it is over, one of its captured keys is
selectable by a new request for the same model; and the time is within the ceiling on
cooldowns.

Proof: the answer is the least deadline ahead: before it every unused key is blocked, at it one
is free. -/
theorem retry_after_exact {missed recovering left : System} {retryAfter : Nat}
    (initial : Initial policy fingerprint first)
    (run : Runs.Run (Step policy fingerprint) first trace before)
    (waiting : before.callers[request]? = some ⟨attempts, .selecting⟩)
    (tried : Step policy fingerprint before (.advance request) missed)
    (timed : Step policy fingerprint missed (.advance request) recovering)
    (stepped : Step policy fingerprint recovering (.advance request) left)
    (answered : recovering.answer policy fingerprint (.advance request) =
      some (.unavailable retryAfter))
    (positive : 0 < retryAfter) :
    (∀ instant, before.clock ≤ instant → instant < before.clock + retryAfter →
        ∀ candidate ∈ attempts.candidates,
          attempts.eligible left.pool instant candidate = false) ∧
      (∃ candidate ∈ attempts.candidates,
        ∃ captured ∈ (left.pool.requestWithModel policy attempts.model
            (before.clock + retryAfter)).candidates,
          captured.fingerprint = candidate.fingerprint ∧
            (left.pool.requestWithModel policy attempts.model
              (before.clock + retryAfter)).eligible left.pool (before.clock + retryAfter)
                captured = true) ∧
      retryAfter ≤ maxCooldown := by
  obtain ⟨nothing, samePool, sameClock, second⟩ := undisturbed_turn waiting tried timed stepped
  obtain ⟨recovery, earliest, ends⟩ := positive_answer positive second stepped answered
  rw [samePool, sameClock] at earliest
  obtain ⟨⟨recovered, listed, recovers⟩, _, least⟩ :=
    RequestAttempts.earliestRecovery_some earliest
  have leftPool : left.pool = before.pool := by
    obtain ⟨advanced, pool, turned, rfl⟩ := step_advance stepped second
    exact (second_lock_pool turned).trans samePool
  rw [leftPool, ← ends]
  refine ⟨?_, ?_, ?_⟩
  · intro instant from_ until_ candidate member
    rw [RequestAttempts.ineligible_iff]
    intro unused entry found
    have blocked : entry.blocked attempts.model before.clock = true := by
      have refused :=
        (RequestAttempts.trySelectUnused_none policy _ _ _).mp nothing candidate member
      rw [KeyEntry.blocked, Bool.or_eq_true]
      exact (RequestAttempts.ineligible_iff _ _ _ _).mp refused unused entry found
    obtain ⟨deadline, own, ahead⟩ := (RequestAttempts.blocked_iff found).mp blocked
    have still : instant < deadline :=
      Nat.lt_of_lt_of_le until_ (least candidate member deadline own ahead)
    have blockedThen := (RequestAttempts.blocked_iff found).mpr ⟨deadline, own, still⟩
    rwa [KeyEntry.blocked, Bool.or_eq_true] at blockedThen
  · obtain ⟨entry, found⟩ := RequestAttempts.recoveryDeadline_live recovers
    have free : entry.blocked attempts.model recovery = false := by
      rw [← Bool.not_eq_true, RequestAttempts.blocked_iff found]
      rintro ⟨deadline, own, ahead⟩
      rw [recovers] at own
      cases own
      exact Nat.lt_irrefl _ ahead
    rw [KeyEntry.blocked, Bool.or_eq_false_iff] at free
    have same : entry.fingerprint = recovered.fingerprint := (FirstMatch.lookup_some found).2
    refine ⟨recovered, listed, entry.candidate, captured_anew found, same, ?_⟩
    rw [RequestAttempts.eligible_iff]
    refine ⟨List.not_mem_nil, entry, ?_, free⟩
    show before.pool.lookup entry.fingerprint = some entry
    rw [same]
    exact found
  · obtain ⟨entry, found⟩ := RequestAttempts.recoveryDeadline_live recovers
    have formed := run_withinCeiling initial run _ entry found
    have within := RequestAttempts.recoveryDeadline_le found formed recovers
    omega

/-- The only key is limited for a hundred units, and a second request outlasts its wait. -/
def outwaited : List Action :=
  [.request none, .request none, .nextImmediate 0,
    .reportFailure (leaseOfA 0) (.usageLimit .weekly 100) (fun base => base), .next 1, .tick 40]

/-- The second request is about to try for the last time. -/
def outwaitedA : System := Runs.reached sampleNext onlyA outwaited

/-- It answers that the key is back in sixty units, which it is and not earlier. -/
theorem retry_after_exact_outwaited :
    (Runs.reached sampleNext outwaitedA [.advance 1, .advance 1]).answer samplePolicy
        sampleFingerprint (.advance 1) = some (.unavailable 60) ∧ outwaitedA.clock = 40 ∧
      (∀ instant, 40 ≤ instant → instant < 100 → ∀ candidate ∈ onlyA.pool.candidates,
        (onlyA.pool.requestWithModel samplePolicy none 0).eligible
          (Runs.reached sampleNext outwaitedA
            [.advance 1, .advance 1, .advance 1]).pool instant candidate = false) ∧
      60 ≤ maxCooldown := by
  have run : Runs.Run (Step samplePolicy sampleFingerprint) onlyA
      (Runs.steps sampleNext onlyA outwaited) outwaitedA :=
    Runs.replay_run (by decide +kernel)
  have waiting : outwaitedA.callers[1]? =
      some ⟨onlyA.pool.requestWithModel samplePolicy none 0, .selecting⟩ := by decide +kernel
  have tried : Step samplePolicy sampleFingerprint outwaitedA (.advance 1)
      (Runs.reached sampleNext outwaitedA [.advance 1]) := by decide +kernel
  have timed : Step samplePolicy sampleFingerprint
      (Runs.reached sampleNext outwaitedA [.advance 1]) (.advance 1)
      (Runs.reached sampleNext outwaitedA [.advance 1, .advance 1]) := by
    decide +kernel
  have stepped : Step samplePolicy sampleFingerprint
      (Runs.reached sampleNext outwaitedA [.advance 1, .advance 1]) (.advance 1)
      (Runs.reached sampleNext outwaitedA [.advance 1, .advance 1, .advance 1]) := by
    decide +kernel
  have answered : (Runs.reached sampleNext outwaitedA
      [.advance 1, .advance 1]).answer samplePolicy sampleFingerprint (.advance 1) =
        some (.unavailable 60) := by decide +kernel
  have clock : outwaitedA.clock = 40 := by decide +kernel
  obtain ⟨blocked, _, within⟩ := retry_after_exact
    (started_initial samplePolicy sampleFingerprint rfl (by simp)) run waiting tried timed stepped
    answered (by decide)
  rw [clock] at blocked
  exact ⟨answered, clock, blocked, within⟩

/-! ## The sleep -/

/-- A call that has read the clock did so in the past. -/
def ReadPast (request : Nat) (system : System) : Prop :=
  ∀ caller, system.callers[request]? = some caller →
    ∀ read, caller.phase = .recovering read → read ≤ system.clock

/-- No reading is ahead of the clock. -/
theorem step_readPast (stepped : Step policy fingerprint before action after)
    (past : ReadPast request before) : ReadPast request after := by
  intro left present read phase
  rcases step_phase stepped present with held | idle | ⟨caller, answer, _, _, _, step⟩
  · exact Nat.le_trans (past left held read phase) (clock_le stepped)
  · rw [phase] at idle
    cases idle
  · rw [phase] at step
    generalize caller.phase = current at step
    cases step with
    | timed unused => exact clock_le stepped

/-- A captured key that the request has not used is in the live pool. -/
def UnusedLive (attempts : RequestAttempts) (system : System) : Prop :=
  ∃ candidate ∈ attempts.candidates, candidate.fingerprint ∉ attempts.used ∧
    ∃ entry, system.pool.lookup candidate.fingerprint = some entry

/-- Such a key is cooling, globally or for the model of the request. -/
def UnusedCooling (attempts : RequestAttempts) (system : System) : Prop :=
  ∃ candidate ∈ attempts.candidates, candidate.fingerprint ∉ attempts.used ∧
    ∃ entry, system.pool.lookup candidate.fingerprint = some entry ∧
      entry.blocked attempts.model system.clock = true

/-- There is time left to wait and a captured key with a deadline ahead, used or not. -/
def RecoveryAhead (attempts : RequestAttempts) (read : Nat) (system : System) : Prop :=
  read < attempts.deadline ∧ ∃ candidate ∈ attempts.candidates, ∃ deadline,
    attempts.recoveryDeadline system.pool candidate = some deadline ∧ system.clock < deadline

/-- The call of the request has gone to sleep. -/
def Sleeps (request : Nat) (system : System) : Prop :=
  ∃ caller wake, system.callers[request]? = some caller ∧ caller.phase = .sleeping wake

/-- What the second lock decides: the call sleeps when a recovery is ahead, and otherwise
answers at once. -/
theorem second_lock_iff {read : Nat} (past : read ≤ before.clock)
    (waiting : before.callers[request]? = some ⟨attempts, .recovering read⟩)
    (stepped : Step policy fingerprint before (.advance request) after) :
    (Sleeps request after ↔ RecoveryAhead attempts read before) ∧
      ((∃ retryAfter, before.answer policy fingerprint (.advance request) =
        some (.unavailable retryAfter)) ↔ ¬ RecoveryAhead attempts read before) := by
  obtain ⟨advanced, pool, turned, rfl⟩ := step_advance stepped waiting
  have sleeps : Sleeps request (before.called request advanced pool
      (before.answer policy fingerprint (.advance request))).1 ↔
        ∃ wake, advanced.phase = .sleeping wake := by
    unfold Sleeps
    rw [called_caller waiting]
    simp
  rw [sleeps]
  unfold RecoveryAhead
  rw [← RequestAttempts.earliestRecovery_isSome]
  simp only [Caller.advance] at turned
  split at turned
  · rename_i overdue
    obtain ⟨rfl, rfl, answers⟩ := Prod.mk.inj (Option.some.inj turned) |>.imp_right Prod.mk.inj
    rw [← answers]
    have late : ¬ read < attempts.deadline := Nat.not_lt.mpr overdue
    simp [late]
  · rename_i early
    have inTime : read < attempts.deadline := Nat.lt_of_not_le early
    split at turned
    · rename_i nothing
      obtain ⟨rfl, rfl, answers⟩ := Prod.mk.inj (Option.some.inj turned) |>.imp_right Prod.mk.inj
      rw [← answers, nothing]
      simp
    · rename_i recovery earliest
      have ahead := (RequestAttempts.earliestRecovery_some earliest).2.1
      rw [if_neg (by omega)] at turned
      obtain ⟨rfl, rfl, answers⟩ := Prod.mk.inj (Option.some.inj turned) |>.imp_right Prod.mk.inj
      rw [← answers, earliest]
      simp [inTime]

/-- What `next` sleeps for. In every run from a fresh pool in which no step frees an unused
key of the request between a failed try and the second lock, a call at its second lock goes
to sleep only with an unused key cooling in the live pool, exactly if some unused key is
still in the live pool or no recovery is ahead at all. The call answers at once exactly if
no recovery is ahead, whatever has become of the unused keys: with all of them removed, a
used key that cools keeps it asleep.

Proof: the second lock is computed, and in the run no unused key is eligible at it. -/
theorem sleeps_for_unused_iff {earlier later : List (Runs.Transition System Action)}
    {taken : Runs.Transition System Action} {read : Nat}
    (initial : Initial policy fingerprint first)
    (run : Runs.Run (Step policy fingerprint) first (earlier ++ taken :: later) last)
    (unfreed : ∀ step ∈ earlier, ∀ caller, step.before.callers[request]? = some caller →
      BetweenLocks caller.phase → ¬ Frees fingerprint caller.attempts step.before step.label)
    (called : taken.label = .advance request)
    (waiting : taken.before.callers[request]? = some ⟨attempts, .recovering read⟩) :
    ((Sleeps request taken.after → UnusedCooling attempts taken.before) ↔
        UnusedLive attempts taken.before ∨ ¬ RecoveryAhead attempts read taken.before) ∧
      ((∃ retryAfter, taken.before.answer policy fingerprint taken.label =
          some (.unavailable retryAfter)) ↔ ¬ RecoveryAhead attempts read taken.before) := by
  obtain ⟨upTo, stepped, _⟩ := run.split
  rw [called] at stepped ⊢
  have valid := initial_backoff initial
  obtain ⟨_, _, none, _⟩ := initial
  have waits : Waits request taken.before :=
    upTo.preserved (Waits request) (fun caller present => by simp [none] at present)
      fun step member stepped => step_waits valid stepped (unfreed step member)
  have past : ReadPast request taken.before :=
    upTo.invariant (ReadPast request) (fun caller present => by simp [none] at present)
      fun _ _ _ => step_readPast
  have decided := second_lock_iff (past _ waiting read rfl) waiting stepped
  refine ⟨?_, decided.2⟩
  rw [decided.1]
  constructor
  · intro usable
    by_cases ahead : RecoveryAhead attempts read taken.before
    · obtain ⟨candidate, member, unused, entry, found, _⟩ := usable ahead
      exact .inl ⟨candidate, member, unused, entry, found⟩
    · exact .inr ahead
  · rintro (⟨candidate, member, unused, entry, found⟩ | nothing) ahead
    · have refused := waits _ waiting trivial candidate member
      exact ⟨candidate, member, unused, entry, found,
        ineligible_unselectable.mp refused unused entry found⟩
    · exact absurd ahead nothing

/-- A system of two keys. -/
def freshAB : System := started sampleFingerprint [⟨"a"⟩, ⟨"b"⟩]

/-- A request uses the first key, which is then rate limited; something happens to the other
key; and the request asks again and comes to its second lock. -/
def askedAgain (other : Action) : List Action :=
  [.request none, .nextImmediate 0,
    .reportFailure (leaseOfA 0) (.rateLimited (some 10)) (fun base => base), other,
    .next 0, .advance 0, .advance 0]

/-- The tracker of the request. -/
def usedA : RequestAttempts :=
  (freshAB.pool.requestWithModel samplePolicy none 0).markUsed (leaseOfA 0)

/-- A reload removes the other key. -/
def removedB : System :=
  Runs.reached sampleNext freshAB (askedAgain (.replaceKeys [⟨"a"⟩]))

/-- With the only unused key removed the call sleeps until the used one recovers. -/
theorem sleeps_for_used_key :
    ∃ (trace : List (Runs.Transition System Action)) (taken : Runs.Transition System Action),
      Initial samplePolicy sampleFingerprint freshAB ∧
      Runs.Run (Step samplePolicy sampleFingerprint) freshAB trace taken.after ∧ taken ∈ trace ∧
      taken.label = .advance 0 ∧ taken.before = removedB ∧
      taken.before.callers[0]? = some ⟨usedA, .recovering 0⟩ ∧
      taken.after.callers[0]? = some ⟨usedA, .sleeping 10⟩ ∧
      usedA.used = ["a"] ∧ ¬ UnusedLive usedA taken.before ∧
      ¬ UnusedCooling usedA taken.before := by
  have asked : (Runs.record sampleNext freshAB
      (askedAgain (.replaceKeys [⟨"a"⟩]))).isSome := by decide +kernel
  have slept : Step samplePolicy sampleFingerprint removedB (.advance 0)
      (Runs.reached sampleNext removedB [.advance 0]) := by decide +kernel
  have gone : ¬ UnusedLive usedA removedB := by
    have removed : ∀ candidate ∈ usedA.candidates, candidate.fingerprint ∉ usedA.used →
        removedB.pool.lookup candidate.fingerprint = none := by decide +kernel
    rintro ⟨candidate, member, unused, entry, found⟩
    rw [removed candidate member unused] at found
    cases found
  refine ⟨_, ⟨removedB, .advance 0, _⟩, started_initial _ _ rfl (by simp),
    (Runs.replay_run asked).extend slept,
    List.mem_append_right _ (List.mem_singleton_self _), rfl, rfl,
    by decide +kernel, by decide +kernel, by decide +kernel, gone, ?_⟩
  rintro ⟨candidate, member, unused, entry, found, _⟩
  exact gone ⟨candidate, member, unused, entry, found⟩

/-- The other key is cooled by the usage monitor. -/
def cooledB : System :=
  Runs.reached sampleNext freshAB
    (askedAgain (.reportProactiveCooldown "b" 20 0))

/-- The call sleeps, and the unused key is what it sleeps for. -/
theorem sleeps_for_unused_iff_cooled :
    Sleeps 0 (Runs.reached sampleNext cooledB [.advance 0]) ∧
      UnusedCooling usedA cooledB := by
  have asked : (Runs.record sampleNext freshAB
      (askedAgain (.reportProactiveCooldown "b" 20 0))).isSome := by decide +kernel
  have slept : Step samplePolicy sampleFingerprint cooledB (.advance 0)
      (Runs.reached sampleNext cooledB [.advance 0]) := by decide +kernel
  have sleeps : Sleeps 0 (Runs.reached sampleNext cooledB [.advance 0]) :=
    ⟨⟨usedA, .sleeping 10⟩, 10, by decide +kernel, rfl⟩
  have live : UnusedLive usedA cooledB :=
    ⟨⟨"b", ⟨"b"⟩⟩, by decide +kernel, by decide +kernel,
      { (KeyEntry.fresh sampleFingerprint ⟨"b"⟩).cool 20 .proactiveUsage 1 with
        lastFailureBy := some 1 }, by decide +kernel⟩
  have decided := sleeps_for_unused_iff
    (started_initial samplePolicy sampleFingerprint rfl (by simp))
    ((Runs.replay_run asked).join slept .start) ?_ rfl
    (show cooledB.callers[0]? = some ⟨usedA, .recovering 0⟩ by decide +kernel)
  · exact ⟨sleeps, decided.1.mpr (.inl live) sleeps⟩
  · intro step member caller held between
    have label := Runs.steps_label member
    rintro ⟨_, _, _, ⟨_, _, same, _⟩ | ⟨_, _, same, _⟩ | ⟨_, same, _⟩⟩ <;>
      simp [askedAgain, same] at label

end System

end Orihsus.Pool
