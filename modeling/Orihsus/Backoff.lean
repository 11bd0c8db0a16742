import Orihsus.StaleReports

/-!
# How far ahead a report cools a key

A 429 or a 401/403 without a positive Retry-After cools for a backoff: the initial
one doubled once for every earlier step, twenty times at most, spread by the jitter
and cut to the largest. The loop of `backoff_at` stops early and saturates; neither
can be seen in its value, because a `Duration` never exceeds `Duration::MAX`. A stated
cooldown is taken as it stands. Every deadline is clamped to the ceiling on cooldowns.

The step is a `u32` that the release build increments without a check. It grows by one
at every value but the last, from which it falls back to zero.
-/

namespace Orihsus.Pool

/-- The backoff of a step in exact arithmetic. -/
def exactBackoff (policy : PoolPolicy) (step : Nat) : Nat :=
  min policy.backoffMax (policy.backoffInitial * 2 ^ min step 20)

/-- The cooldown a report states itself: a usage limit's, or a positive Retry-After. -/
def Failure.stated : Failure → Option Nat
  | .usageLimit _ cooldown => some cooldown
  | .rateLimited retryAfter | .unavailable retryAfter => retryAfter.filter (fun given => 0 < given)
  | .server | .network => none

/-- A report that leaves the cooldown to the backoff. -/
def Failure.backsOff (failure : Failure) : Prop :=
  (∃ retryAfter, failure = .rateLimited retryAfter ∨ failure = .unavailable retryAfter) ∧
    failure.stated = none

variable {policy : PoolPolicy}

/-- Saturation is not seen below the largest backoff. -/
theorem doubled_within (typed : policy.backoffMax ≤ durationMax) (duration : Nat) :
    min (saturatingMul duration 2) policy.backoffMax = min (duration * 2) policy.backoffMax := by
  unfold saturatingMul
  omega

/-- The doubling loop, capped, computes the exact power. A duration that has reached the
largest backoff stays above it however often it is doubled. -/
theorem backoffLoop_exact (typed : policy.backoffMax ≤ durationMax) (remaining duration : Nat) :
    min (backoffLoop policy remaining duration) policy.backoffMax =
      min policy.backoffMax (duration * 2 ^ remaining) := by
  induction remaining generalizing duration with
  | zero =>
    rw [backoffLoop, Nat.pow_zero, Nat.mul_one]
    exact Nat.min_comm _ _
  | succ remaining inductionHypothesis =>
    have grown (start : Nat) : start ≤ start * 2 ^ remaining :=
      Nat.le_mul_of_pos_right start (Nat.two_pow_pos remaining)
    have shifted : duration * 2 ^ (remaining + 1) = duration * 2 * 2 ^ remaining := by
      rw [Nat.pow_succ', Nat.mul_assoc]
    rw [shifted]
    by_cases reached : policy.backoffMax ≤ duration
    · have further := grown (duration * 2)
      rw [backoffLoop, if_pos reached]
      omega
    · rw [backoffLoop, if_neg reached, doubled_within typed, inductionHypothesis]
      by_cases below : duration * 2 ≤ policy.backoffMax
      · rw [Nat.min_eq_left below]
      · have above : policy.backoffMax ≤ duration * 2 := by omega
        have capped := grown policy.backoffMax
        have further := grown (duration * 2)
        rw [Nat.min_eq_right above]
        omega

/-- The saturation never shows. -/
theorem backoffAt_exact (typed : policy.backoffMax ≤ durationMax) (step : Nat) :
    backoffAt policy step = exactBackoff policy step :=
  backoffLoop_exact typed (min step 20) policy.backoffInitial

/-- A later step never backs off less. -/
theorem exactBackoff_mono {step later : Nat} (ordered : step ≤ later) :
    exactBackoff policy step ≤ exactBackoff policy later := by
  have exponents : min step 20 ≤ min later 20 := by omega
  have powers : policy.backoffInitial * 2 ^ min step 20 ≤
      policy.backoffInitial * 2 ^ min later 20 :=
    Nat.mul_le_mul_left _ (Nat.pow_le_pow_right (by decide) exponents)
  unfold exactBackoff
  omega

/-- The backoff is bounded. -/
theorem exactBackoff_le (step : Nat) : exactBackoff policy step ≤ policy.backoffMax :=
  Nat.min_le_left _ _

/-- Only the last step wraps. -/
theorem nextStep_exact_iff {step : Nat} (typed : step < 2 ^ 32) :
    nextStep step = step + 1 ↔ step ≠ 2 ^ 32 - 1 := by
  unfold nextStep
  constructor
  · rintro grown rfl
    revert grown
    decide
  · intro below
    exact Nat.mod_eq_of_lt (by omega)

namespace KeyEntry

variable {jitter : Nat → Nat} {entry : KeyEntry} {id now : Nat} {reason : CoolingReason}
  {retryAfter : Option Nat}

/-- A positive Retry-After is the cooldown; any other leaves it to the jittered backoff. -/
theorem retryCooldown_stated {cooldown : Nat}
    (stated : retryAfter.filter (fun given => 0 < given) = some cooldown) :
    entry.retryCooldown policy jitter retryAfter = (cooldown, false) := by
  cases retryAfter with
  | none => cases stated
  | some given =>
    obtain ⟨same, positive⟩ := Option.filter_eq_some_iff.mp stated
    cases same
    simp only [retryCooldown, if_pos (of_decide_eq_true positive)]

/-- Unstated, the backoff is used. -/
theorem retryCooldown_backoff (unstated : retryAfter.filter (fun given => 0 < given) = none) :
    entry.retryCooldown policy jitter retryAfter =
      (min (jitter (backoffAt policy entry.backoffStep)) policy.backoffMax, true) := by
  cases retryAfter with
  | none => rfl
  | some given =>
    have zero : ¬ 0 < given := by
      intro positive
      rw [Option.filter_some, if_pos (decide_eq_true positive)] at unstated
      cases unstated
    simp only [retryCooldown, if_neg zero]

/-- What a report that is not absorbed writes, in terms of the cooldown it computes. -/
theorem recordRetry_effective
    (effective : entry.absorbs
      (deadlineAfter now (entry.retryCooldown policy jitter retryAfter).1) = false) :
    (entry.recordRetry policy jitter id reason retryAfter now).1.coolingUntil =
        some (deadlineAfter now (entry.retryCooldown policy jitter retryAfter).1) ∧
      (entry.recordRetry policy jitter id reason retryAfter now).1.backoffStep =
        if (entry.retryCooldown policy jitter retryAfter).2 then nextStep entry.backoffStep
        else entry.backoffStep := by
  unfold recordRetry
  dsimp only
  rw [if_neg (by simpa using effective)]
  exact ⟨rfl, rfl⟩

/-- A report that backs off and is not absorbed cools for the jittered backoff. -/
theorem recordFailure_backsOff {failure : Failure} (typed : policy.backoffMax ≤ durationMax)
    (backs : failure.backsOff)
    (effective : entry.takesEffect policy jitter failure now = true) :
    (entry.recordFailure policy jitter id failure now).1.coolingUntil =
        some (deadlineAfter now
          (min (jitter (exactBackoff policy entry.backoffStep)) policy.backoffMax)) ∧
      (entry.recordFailure policy jitter id failure now).1.backoffStep =
        nextStep entry.backoffStep := by
  -- The two kinds of report differ in the reason they record only.
  have retried (reason : CoolingReason) (retryAfter : Option Nat)
      (unstated : retryAfter.filter (fun given => 0 < given) = none)
      (open_ : entry.absorbs
        (deadlineAfter now (entry.retryCooldown policy jitter retryAfter).1) = false) :
      (entry.recordRetry policy jitter id reason retryAfter now).1.coolingUntil =
          some (deadlineAfter now
            (min (jitter (exactBackoff policy entry.backoffStep)) policy.backoffMax)) ∧
        (entry.recordRetry policy jitter id reason retryAfter now).1.backoffStep =
          nextStep entry.backoffStep := by
    obtain ⟨cooled, stepped⟩ :=
      @recordRetry_effective policy jitter entry id now reason retryAfter open_
    rw [retryCooldown_backoff unstated, backoffAt_exact typed] at cooled stepped
    exact ⟨cooled, stepped⟩
  obtain ⟨⟨retryAfter, rfl | rfl⟩, unstated⟩ := backs
  · exact retried .rateLimited retryAfter unstated (by simpa [takesEffect] using effective)
  · exact retried .unavailable retryAfter unstated (by simpa [takesEffect] using effective)

/-- A report that states its cooldown and is not absorbed. -/
theorem recordFailure_stated {failure : Failure} {cooldown : Nat}
    (stated : failure.stated = some cooldown)
    (effective : entry.takesEffect policy jitter failure now = true) :
    (entry.recordFailure policy jitter id failure now).1.coolingUntil =
        some (now + min cooldown maxCooldown) ∧
      (entry.recordFailure policy jitter id failure now).1.backoffStep = entry.backoffStep := by
  have retried (reason : CoolingReason) (retryAfter : Option Nat)
      (given : retryAfter.filter (fun given => 0 < given) = some cooldown)
      (open_ : entry.absorbs
        (deadlineAfter now (entry.retryCooldown policy jitter retryAfter).1) = false) :
      (entry.recordRetry policy jitter id reason retryAfter now).1.coolingUntil =
          some (now + min cooldown maxCooldown) ∧
        (entry.recordRetry policy jitter id reason retryAfter now).1.backoffStep =
          entry.backoffStep := by
    obtain ⟨cooled, stepped⟩ :=
      @recordRetry_effective policy jitter entry id now reason retryAfter open_
    rw [retryCooldown_stated given] at cooled stepped
    exact ⟨cooled, stepped⟩
  cases failure with
  | usageLimit dimension given =>
    cases stated
    simp only [recordFailure]
    rw [if_neg (by simpa [takesEffect] using effective)]
    exact ⟨rfl, rfl⟩
  | rateLimited | unavailable => exact retried _ _ stated (by simpa [takesEffect] using effective)
  | server | network => cases stated

end KeyEntry

namespace System

variable {fingerprint : String → String} {before after : System} {selection : Selection}
  {failure : Failure} {jitter : Nat → Nat} {entry : KeyEntry}

/-- The magnitude of a cooldown. A 429 or 401/403 without a positive Retry-After that is
not absorbed cools its key for at least the exact backoff of its step and at most the
largest one, and the step is the next one of its type, one more unless it is the last; the
exact backoff is what the loop computes and never falls from one step to the next. A
positive Retry-After or a usage limit cools for exactly what it states and leaves the
step alone. Everything is clamped to the ceiling on cooldowns.

Proof: the report is computed, and the doubling loop is compared with the exact power. -/
theorem cooldown_magnitude (typed : policy.backoffMax ≤ durationMax)
    (counted : entry.backoffStep < 2 ^ 32) (spreads : ∀ base, base ≤ jitter base)
    (stepped : Step policy fingerprint before (.reportFailure selection failure jitter) after)
    (found : before.pool.lookup selection.fingerprint = some entry)
    (effective : entry.takesEffect policy jitter failure before.clock = true) :
    ∃ left, after.pool.lookup selection.fingerprint = some left ∧
      (failure.backsOff →
        (∃ deadline, left.coolingUntil = some deadline ∧
          before.clock + min (exactBackoff policy entry.backoffStep) maxCooldown ≤ deadline ∧
          deadline ≤ before.clock + min policy.backoffMax maxCooldown) ∧
        left.backoffStep = nextStep entry.backoffStep ∧
        (left.backoffStep = entry.backoffStep + 1 ↔ entry.backoffStep ≠ 2 ^ 32 - 1)) ∧
      (∀ cooldown, failure.stated = some cooldown →
        left.coolingUntil = some (before.clock + min cooldown maxCooldown) ∧
          left.backoffStep = entry.backoffStep) ∧
      (∀ step, backoffAt policy step = exactBackoff policy step) ∧
      ∀ step later, step ≤ later → exactBackoff policy step ≤ exactBackoff policy later := by
  refine ⟨_, step_failed stepped found, ?_, ?_, backoffAt_exact typed,
    fun _ _ => exactBackoff_mono⟩
  · intro backs
    obtain ⟨cooled, grown⟩ := KeyEntry.recordFailure_backsOff typed backs effective
    have spread := spreads (exactBackoff policy entry.backoffStep)
    have capped := @exactBackoff_le policy entry.backoffStep
    refine ⟨⟨_, cooled, ?_, ?_⟩, grown, ?_⟩
    · unfold deadlineAfter
      omega
    · unfold deadlineAfter
      omega
    · rw [grown]
      exact nextStep_exact_iff counted
  · intro cooldown stated
    exact KeyEntry.recordFailure_stated stated effective

/-- One request leases the only key. -/
def leasedOnlyA : System :=
  Runs.reached sampleNext onlyA [.request none, .nextImmediate 0]

/-- A rate limit that says nothing about when to come back. -/
def plainLimit : Action := .reportFailure (leaseOfA 0) (.rateLimited none) id

/-- The first plain rate limit cools the key for the initial backoff. -/
theorem cooldown_magnitude_plain :
    ∃ left, (Runs.reached sampleNext leasedOnlyA [plainLimit]).pool.lookup "a" =
        some left ∧ left.backoffStep = 1 ∧
      ∃ deadline, left.coolingUntil = some deadline ∧ 5 ≤ deadline ∧ deadline ≤ 60 := by
  have limited : Step samplePolicy sampleFingerprint leasedOnlyA plainLimit
      (Runs.reached sampleNext leasedOnlyA [plainLimit]) := by decide +kernel
  have found : leasedOnlyA.pool.lookup (leaseOfA 0).fingerprint =
      some (KeyEntry.fresh sampleFingerprint ⟨"a"⟩) := by decide +kernel
  obtain ⟨left, present, backs, _⟩ := cooldown_magnitude (by decide) (by decide)
    (fun base => Nat.le_refl base) limited found (by decide +kernel)
  obtain ⟨bounds, _, grown⟩ := backs ⟨⟨none, .inl rfl⟩, rfl⟩
  exact ⟨left, present, grown.mpr (by decide), bounds⟩

/-- The only key with the last step its type can hold. -/
def lastStepA : System :=
  { leasedOnlyA with
    pool := leasedOnlyA.pool.adjust "a" fun entry => { entry with backoffStep := 2 ^ 32 - 1 } }

/-- From the last value of its type the step falls back to zero. -/
theorem last_step_wraps :
    ∃ entry left, lastStepA.pool.lookup "a" = some entry ∧ entry.backoffStep = 2 ^ 32 - 1 ∧
      samplePolicy.validate = .ok () ∧
      Step samplePolicy sampleFingerprint lastStepA plainLimit
        (Runs.reached sampleNext lastStepA [plainLimit]) ∧
      entry.takesEffect samplePolicy id (.rateLimited none) lastStepA.clock = true ∧
      (Runs.reached sampleNext lastStepA [plainLimit]).pool.lookup "a" =
        some left ∧ left.backoffStep = 0 ∧ left.backoffStep ≠ entry.backoffStep + 1 := by
  refine ⟨{ KeyEntry.fresh sampleFingerprint ⟨"a"⟩ with backoffStep := 2 ^ 32 - 1 },
    { (KeyEntry.fresh sampleFingerprint ⟨"a"⟩).cool 60 .rateLimited 0 with
      lastFailureBy := some 0 }, ?_⟩
  decide +kernel

end System

end Orihsus.Pool
