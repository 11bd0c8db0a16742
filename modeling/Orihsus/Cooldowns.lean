import Orihsus.KeySteps

/-!
# Cooldowns only grow, and probes of a recovering key are spaced

Six transitions write a key's deadline. Four failure kinds and the proactive
report first compare it with the existing one; the claim of a half-open key
overwrites it, but only after the selector found the existing one in the past.
So the deadline of a key never goes back except by an accepted success.

The single-probe rule rests on nothing else. A claim sets a deadline one breaker
cooldown ahead, no report about the outstanding probe can bring it closer, and
the next selector has to wait for it.
-/

namespace Orihsus.Pool

namespace KeyEntry

variable {policy : PoolPolicy} {jitter : Nat → Nat} {entry : KeyEntry}

/-- A reported deadline that is not absorbed is no earlier than the existing one. -/
theorem not_absorbed {deadline existing : Nat} (open_ : entry.absorbs deadline = false)
    (cooling : entry.coolingUntil = some existing) : existing ≤ deadline := by
  simpa [absorbs, cooling] using open_

/-- An existing later deadline absorbs a report. -/
theorem absorbed {deadline existing : Nat} (cooling : entry.coolingUntil = some existing)
    (sooner : deadline < existing) : entry.absorbs deadline = true := by
  simpa [absorbs, cooling] using sooner

/-- A deadline only moves on. -/
theorem recordProactive_later {id : Nat} {deadline existing : Nat}
    (cooling : entry.coolingUntil = some existing) :
    ∃ later, (entry.recordProactive id deadline).1.coolingUntil = some later ∧
      existing ≤ later := by
  unfold recordProactive
  split
  · exact ⟨existing, cooling, Nat.le_refl _⟩
  · rename_i open_
    exact ⟨deadline, rfl, not_absorbed (by simpa using open_) cooling⟩

/-- So it does by a retry. -/
theorem recordRetry_later {id : Nat} {reason : CoolingReason} {retryAfter : Option Nat}
    {now existing : Nat} (cooling : entry.coolingUntil = some existing) :
    ∃ later, (entry.recordRetry policy jitter id reason retryAfter now).1.coolingUntil =
      some later ∧ existing ≤ later := by
  unfold recordRetry
  dsimp only
  split
  · exact ⟨existing, cooling, Nat.le_refl _⟩
  · rename_i open_
    exact ⟨_, rfl, not_absorbed (by simpa using open_) cooling⟩

/-- No failure report shortens a cooldown. A network failure below the breaker
threshold, or absorbed at it, only counts. -/
theorem recordFailure_later {id : Nat} {failure : Failure} {now existing : Nat}
    (cooling : entry.coolingUntil = some existing) :
    ∃ later, (entry.recordFailure policy jitter id failure now).1.coolingUntil = some later ∧
      existing ≤ later := by
  cases failure with
  | usageLimit dimension cooldown =>
    simp only [recordFailure]
    split
    · exact ⟨existing, cooling, Nat.le_refl _⟩
    · rename_i open_
      exact ⟨_, rfl, not_absorbed (by simpa using open_) cooling⟩
  | rateLimited | unavailable => exact recordRetry_later cooling
  | server => exact ⟨existing, cooling, Nat.le_refl _⟩
  | network =>
    simp only [recordFailure]
    split
    · split
      · exact ⟨existing, cooling, Nat.le_refl _⟩
      · rename_i open_
        refine ⟨_, rfl, ?_⟩
        simpa [absorbs, cooling] using open_
    · exact ⟨existing, cooling, Nat.le_refl _⟩

/-- A claim may overwrite the deadline because the key was not cooling. -/
theorem claim_later {id : Nat} {now existing : Nat} (available : entry.isCooling now = false)
    (cooling : entry.coolingUntil = some existing) :
    ∃ later, (entry.claim policy id now).coolingUntil = some later ∧ existing ≤ later := by
  have past : existing ≤ now := by simpa [isCooling, cooling] using available
  unfold claim
  split
  · refine ⟨_, rfl, ?_⟩
    simp only [deadlineAfter]
    omega
  · exact ⟨existing, cooling, Nat.le_refl _⟩

/-- The half-open marker survives every failure report: no arm clears it. -/
theorem recordFailure_halfOpen {id : Nat} {failure : Failure} {now : Nat}
    (recovering : entry.halfOpen = true) :
    (entry.recordFailure policy jitter id failure now).1.halfOpen = true := by
  have retried (reason : CoolingReason) (retryAfter : Option Nat) :
      (entry.recordRetry policy jitter id reason retryAfter now).1.halfOpen = true := by
    unfold recordRetry
    dsimp only
    split <;> exact recovering
  cases failure with
  | usageLimit dimension cooldown =>
    simp only [recordFailure]
    split <;> exact recovering
  | rateLimited | unavailable => exact retried _ _
  | server => exact recovering
  | network =>
    simp only [recordFailure]
    split
    · split
      · exact recovering
      · rfl
    · exact recovering

end KeyEntry

namespace System

variable {policy : PoolPolicy} {fingerprint : String → String} {before after : System}
  {action : Action} {asked : String} {entry : KeyEntry}

/-- A success report on the key that is not ignored as stale. -/
def AcceptedSuccess (before : System) (action : Action) (asked : String) : Prop :=
  ∃ selection entry, action = .reportSuccess selection ∧ selection.fingerprint = asked ∧
    before.pool.lookup asked = some entry ∧ entry.ignoresSuccess selection.id = false

/-- A reload that is carried out and does not list the key. -/
def Drops (fingerprint : String → String) (action : Action) (asked : String) : Prop :=
  ∃ keys, action = .replaceKeys keys ∧ keys ≠ [] ∧ ∀ key ∈ keys, fingerprint key.asStr ≠ asked

/-- The deadline of a key, if it is in the pool and has one. -/
def coolingUntil (system : System) (asked : String) : Option Nat :=
  (system.pool.lookup asked).bind KeyEntry.coolingUntil

/-- A success that is not accepted is ignored. -/
theorem ignored_of_not_accepted {selection : Selection}
    (found : before.pool.lookup selection.fingerprint = some entry)
    (rejected : ¬ AcceptedSuccess before (.reportSuccess selection) selection.fingerprint) :
    entry.recordSuccess selection.id = entry := by
  have ignored : entry.ignoresSuccess selection.id = true := by
    by_contra accepted
    exact rejected ⟨selection, entry, rfl, rfl, found, by simpa using accepted⟩
  simp [KeyEntry.recordSuccess, ignored]

/-- Apart from an accepted success, no transition brings a key's deadline
closer or removes it. -/
theorem touches_later {event : KeyEvent} {existing : Nat}
    (touches : Touches policy fingerprint before action asked event)
    (found : before.pool.lookup asked = some entry)
    (rejected : ¬ AcceptedSuccess before action asked)
    (cooling : entry.coolingUntil = some existing) :
    ∃ later, (event.apply policy fingerprint before.clock entry).coolingUntil = some later ∧
      existing ≤ later := by
  cases touches with
  | kept action asked => exact ⟨existing, cooling, Nat.le_refl _⟩
  | succeeded selection issued =>
    simp only [KeyEvent.apply, ignored_of_not_accepted found rejected]
    exact ⟨existing, cooling, Nat.le_refl _⟩
  | failed selection failure jitter issued => exact KeyEntry.recordFailure_later cooling
  | cooled target cooldown read => exact KeyEntry.recordProactive_later cooling
  | claimed answered drawn available => exact KeyEntry.claim_later (available entry found) cooling
  | slowed | relisted => exact ⟨existing, cooling, Nat.le_refl _⟩

/-- Apart from an accepted success, no transition clears the half-open marker. -/
theorem touches_halfOpen {event : KeyEvent}
    (touches : Touches policy fingerprint before action asked event)
    (found : before.pool.lookup asked = some entry)
    (rejected : ¬ AcceptedSuccess before action asked) (recovering : entry.halfOpen = true) :
    (event.apply policy fingerprint before.clock entry).halfOpen = true := by
  cases touches with
  | kept action asked => exact recovering
  | succeeded selection issued =>
    simpa only [KeyEvent.apply, ignored_of_not_accepted found rejected] using recovering
  | failed selection failure jitter issued => exact KeyEntry.recordFailure_halfOpen recovering
  | cooled target cooldown read =>
    simp only [KeyEvent.apply, KeyEntry.recordProactive]
    split <;> exact recovering
  | claimed answered drawn available =>
    simp only [KeyEvent.apply, KeyEntry.claim, recovering, if_true, KeyEntry.cool]
  | slowed | relisted => exact recovering

/-- A key that no carried-out reload drops makes one transition. -/
theorem step_listed (stepped : Step policy fingerprint before action after)
    (listed : ¬ Drops fingerprint action asked) (found : before.pool.lookup asked = some entry) :
    ∃ event, Touches policy fingerprint before action asked event ∧
      after.pool.lookup asked = some (event.apply policy fingerprint before.clock entry) := by
  rcases step_entry stepped found with ⟨gone, keys, rfl, unlisted⟩ | transition
  · -- An empty list is refused, so the key could not have gone.
    exfalso
    have empty : keys = [] := by
      by_contra nonempty
      exact listed ⟨keys, rfl, nonempty, unlisted⟩
    subst empty
    have same : before = after := by simpa [Step, perform, PoolState.replaceKeys] using stepped
    rw [same] at found
    simp [gone] at found
  · exact transition

/-- One step's law for the deadline of any key. -/
theorem step_later {existing : Nat} (stepped : Step policy fingerprint before action after)
    (rejected : ¬ AcceptedSuccess before action asked) (listed : ¬ Drops fingerprint action asked)
    (cooling : before.coolingUntil asked = some existing) :
    ∃ later, after.coolingUntil asked = some later ∧ existing ≤ later := by
  obtain ⟨entry, found, deadline⟩ := Option.bind_eq_some_iff.mp cooling
  obtain ⟨event, touches, kept⟩ := step_listed stepped listed found
  obtain ⟨later, extended, grown⟩ := touches_later touches found rejected deadline
  exact ⟨later, by simp [coolingUntil, kept, extended], grown⟩

/-- The deadline a 429, 401/403, usage-limit or proactive report asks for. The
backoff depends on the key it finds; a 5xx asks for none, and a network failure
counts towards the breaker instead. -/
def reportedDeadline (policy : PoolPolicy) (before : System) (entry : KeyEntry) :
    Action → Option (String × Nat)
  | .reportFailure selection (.usageLimit _ cooldown) _ =>
      some (selection.fingerprint, deadlineAfter before.clock cooldown)
  | .reportFailure selection (.rateLimited retryAfter) jitter =>
      some (selection.fingerprint,
        deadlineAfter before.clock (entry.retryCooldown policy jitter retryAfter).1)
  | .reportFailure selection (.unavailable retryAfter) jitter =>
      some (selection.fingerprint,
        deadlineAfter before.clock (entry.retryCooldown policy jitter retryAfter).1)
  | .reportProactiveCooldown target cooldown read => some (target, deadlineAfter read cooldown)
  | _ => none

/-- A report that asks for an earlier deadline than the key has leaves the whole
entry as it was. -/
theorem step_absorbed {deadline existing : Nat}
    (stepped : Step policy fingerprint before action after)
    (found : before.pool.lookup asked = some entry)
    (reported : reportedDeadline policy before entry action = some (asked, deadline))
    (cooling : entry.coolingUntil = some existing) (sooner : deadline < existing) :
    after.pool.lookup asked = some entry := by
  have absorbs : entry.absorbs deadline = true := KeyEntry.absorbed cooling sooner
  rcases step_entry stepped found with ⟨_, keys, rfl, _⟩ | ⟨event, touches, kept⟩
  · simp [reportedDeadline] at reported
  · rw [kept]
    cases touches with
    | kept action asked => rfl
    | succeeded selection issued => simp [reportedDeadline] at reported
    | failed selection failure jitter issued =>
      cases failure with
      | usageLimit dimension cooldown =>
        obtain rfl : deadlineAfter before.clock cooldown = deadline := by
          simpa [reportedDeadline] using reported
        simp [KeyEvent.apply, KeyEntry.recordFailure, absorbs]
      | rateLimited retryAfter | unavailable retryAfter =>
        obtain rfl : deadlineAfter before.clock
            (entry.retryCooldown policy jitter retryAfter).1 = deadline := by
          simpa [reportedDeadline] using reported
        simp [KeyEvent.apply, KeyEntry.recordFailure, KeyEntry.recordRetry, absorbs]
      | server | network => simp [reportedDeadline] at reported
    | cooled target cooldown read =>
      obtain rfl : deadlineAfter read cooldown = deadline := by
        simpa [reportedDeadline] using reported
      simp [KeyEvent.apply, KeyEntry.recordProactive, absorbs]
    | claimed answered drawn available =>
      obtain ⟨request, _, _, rfl | rfl, _⟩ := step_selected stepped answered
      · simp [reportedDeadline] at reported
      · simp [reportedDeadline] at reported
    | slowed | relisted => simp [reportedDeadline] at reported

variable {first last : System} {trace : List (Runs.Transition System Action)}

/-- Cooldowns are never shortened by anything but an accepted success. In every
run, at every step and for every key, the deadline after the step is at least the
deadline before it, unless the step is a success on that key that is not ignored
as stale or a reload that drops the key. A 429, 401/403, usage-limit or proactive
report that asks for an earlier deadline leaves every field of the key alone.

Proof: by inversion of the step that touches the key. -/
theorem cooldown_never_shortened
    (run : Runs.Run (Step policy fingerprint) first trace last)
    (taken : Runs.Transition System Action) (member : taken ∈ trace) (asked : String) :
    (¬ AcceptedSuccess taken.before taken.label asked → ¬ Drops fingerprint taken.label asked →
        ∀ existing, taken.before.coolingUntil asked = some existing →
          ∃ later, taken.after.coolingUntil asked = some later ∧ existing ≤ later) ∧
      ∀ entry deadline existing, taken.before.pool.lookup asked = some entry →
        reportedDeadline policy taken.before entry taken.label = some (asked, deadline) →
        entry.coolingUntil = some existing → deadline < existing →
        taken.after.pool.lookup asked = some entry := by
  have stepped := (run.recorded member).2
  refine ⟨fun rejected listed existing => step_later stepped rejected listed, ?_⟩
  intro entry deadline existing found reported cooling sooner
  exact step_absorbed stepped found reported cooling sooner

/-- A weekly limit of forty units is reported for the only key. -/
def limitedA : System :=
  Runs.reached sampleNext onlyA
    [.request none, .nextImmediate 0,
      .reportFailure (leaseOfA 0) (.usageLimit .weekly 40) (fun base => base)]

/-- A rate limit of ten units, reported while the weekly limit holds. -/
def shortLimit : Action := .reportFailure (leaseOfA 0) (.rateLimited (some 10)) (fun base => base)

/-- A short rate limit leaves a weekly limit, and the whole key, as it was. -/
theorem cooldown_never_shortened_limited :
    ∃ entry, limitedA.pool.lookup "a" = some entry ∧ entry.coolingUntil = some 40 ∧
      (Runs.reached sampleNext limitedA [shortLimit]).pool.lookup "a" = some entry ∧
      ∃ later, (Runs.reached sampleNext limitedA [shortLimit]).coolingUntil "a" =
        some later ∧ 40 ≤ later := by
  have enabled : Step samplePolicy sampleFingerprint limitedA shortLimit
      (Runs.reached sampleNext limitedA [shortLimit]) := by decide +kernel
  have run : Runs.Run (Step samplePolicy sampleFingerprint) limitedA
      [⟨limitedA, shortLimit, Runs.reached sampleNext limitedA [shortLimit]⟩] _ :=
    Runs.Run.start.extend enabled
  obtain ⟨grows, absorbed⟩ := cooldown_never_shortened run _ (List.mem_singleton_self _) "a"
  have found : limitedA.pool.lookup "a" = some
      { (KeyEntry.fresh sampleFingerprint ⟨"a"⟩).cool 40 .usageLimit 0 with
        lastFailureBy := some 0 } := by decide +kernel
  refine ⟨_, found, rfl, absorbed _ 10 40 found (by decide +kernel) rfl (by decide), ?_⟩
  refine grows ?_ ?_ 40 (by decide +kernel)
  · rintro ⟨selection, entry, succeeded, _⟩
    simp [shortLimit] at succeeded
  · rintro ⟨keys, dropped, _⟩
    simp [shortLimit] at dropped

/-- A successful try leaves the key it finds with its claim. -/
theorem selected_claims {selection : Selection}
    (stepped : Step policy fingerprint before action after)
    (answered : before.answer policy fingerprint action = some (.selected selection))
    (found : before.pool.lookup selection.fingerprint = some entry) :
    after.pool.lookup selection.fingerprint =
      some (entry.claim policy selection.id before.clock) := by
  obtain ⟨request, caller, claimed, _, _, _, tried, rfl⟩ := step_selected stepped answered
  obtain ⟨_, _, drawn, rfl⟩ := RequestAttempts.trySelectUnused_some _ _ _ _ tried
  have seen := before.pool.lookup_adjust selection.fingerprint selection.fingerprint _
    (fun entry => entry.claim_candidate policy before.pool.nextId before.clock)
  rw [if_pos rfl, found, Option.map_some] at seen
  rw [drawn]
  exact seen

/-- A successful try of a half-open key leaves it cooling for a whole breaker
cooldown from the time of the try. -/
theorem probe_claims {selection : Selection} (stepped : Step policy fingerprint before action after)
    (answered : before.answer policy fingerprint action = some (.selected selection))
    (found : before.pool.lookup selection.fingerprint = some entry)
    (recovering : entry.halfOpen = true) :
    after.coolingUntil selection.fingerprint =
      some (deadlineAfter before.clock policy.breakerCooldown) := by
  have claimed : (entry.claim policy selection.id before.clock).coolingUntil =
      some (deadlineAfter before.clock policy.breakerCooldown) := by
    simp [KeyEntry.claim, recovering, KeyEntry.cool]
  exact Option.bind_eq_some_iff.mpr ⟨_, selected_claims stepped answered found, claimed⟩

/-- A key that is selected has no deadline ahead. -/
theorem selected_not_cooling {selection : Selection} {existing : Nat}
    (stepped : Step policy fingerprint before action after)
    (answered : before.answer policy fingerprint action = some (.selected selection))
    (cooling : before.coolingUntil selection.fingerprint = some existing) :
    existing ≤ before.clock := by
  obtain ⟨request, caller, claimed, _, _, _, tried, _⟩ := step_selected stepped answered
  obtain ⟨_, eligible, _, _⟩ := RequestAttempts.trySelectUnused_some _ _ _ _ tried
  obtain ⟨_, entry, found, available, _⟩ := (RequestAttempts.eligible_iff _ _ _ _).mp eligible
  have deadline : entry.coolingUntil = some existing := by
    simpa [coolingUntil, found] using cooling
  simpa [KeyEntry.isCooling, deadline] using available

/-- A run that neither accepts a success on a key nor drops it keeps its deadline
at or after what it was. -/
theorem run_later {existing : Nat} (run : Runs.Run (Step policy fingerprint) first trace last)
    (rejected : ∀ taken ∈ trace, ¬ AcceptedSuccess taken.before taken.label asked)
    (listed : ∀ taken ∈ trace, ¬ Drops fingerprint taken.label asked)
    (cooling : first.coolingUntil asked = some existing) :
    ∃ later, last.coolingUntil asked = some later ∧ existing ≤ later := by
  refine run.preserved (fun system =>
    ∃ later, system.coolingUntil asked = some later ∧ existing ≤ later)
    ⟨existing, cooling, Nat.le_refl _⟩ ?_
  rintro taken member stepped ⟨current, cooled, grown⟩
  obtain ⟨later, extended, further⟩ :=
    step_later stepped (rejected taken member) (listed taken member) cooled
  exact ⟨later, extended, Nat.le_trans grown further⟩

/-- Half-open probes are spaced. In every run, two selections of a key that was
half-open when the first was made are at least one breaker cooldown apart, when
no success on the key is accepted between them and no reload drops it; whether
and what the first probe reports makes no difference. And at every step the
marker of a key that stays in the pool is cleared by an accepted success only.

Proof: the claim of a probe sets the deadline, the run keeps it, and no cooling key is selected. -/
theorem half_open_probes_spaced
    (run : Runs.Run (Step policy fingerprint) first trace last) (asked : String) :
    (∀ (earlier between later : List (Runs.Transition System Action))
        (probe again : Runs.Transition System Action) (one two : Selection) (entry : KeyEntry),
        trace = earlier ++ probe :: (between ++ again :: later) →
        probe.before.answer policy fingerprint probe.label = some (.selected one) →
        again.before.answer policy fingerprint again.label = some (.selected two) →
        one.fingerprint = asked → two.fingerprint = asked →
        probe.before.pool.lookup asked = some entry → entry.halfOpen = true →
        (∀ taken ∈ between, ¬ AcceptedSuccess taken.before taken.label asked) →
        (∀ taken ∈ between, ¬ Drops fingerprint taken.label asked) →
        probe.before.clock + min policy.breakerCooldown maxCooldown ≤ again.before.clock) ∧
      ∀ taken ∈ trace, ∀ entry left, taken.before.pool.lookup asked = some entry →
        entry.halfOpen = true → ¬ AcceptedSuccess taken.before taken.label asked →
        taken.after.pool.lookup asked = some left → left.halfOpen = true := by
  constructor
  · rintro earlier between later probe again one two entry rfl probed reselected rfl same found
      recovering rejected listed
    obtain ⟨_, probing, rest⟩ := run.split
    obtain ⟨outstanding, selecting, _⟩ := rest.split
    have claimed := probe_claims probing probed found recovering
    obtain ⟨deadline, held, grown⟩ := run_later outstanding rejected listed claimed
    rw [← same] at held
    exact Nat.le_trans grown (selected_not_cooling selecting reselected held)
  · intro taken member entry left found recovering rejected present
    have stepped := (run.recorded member).2
    rcases step_entry stepped found with ⟨gone, _⟩ | ⟨event, touches, kept⟩
    · rw [gone] at present
      cases present
    · obtain rfl : _ = left := Option.some.inj (kept.symm.trans present)
      exact touches_halfOpen touches found rejected recovering

/-- Two network failures trip the breaker of the only key, and its cooldown passes. -/
def trippedA : System :=
  Runs.reached sampleNext onlyA
    [.request none, .request none, .request none, .request none,
      .nextImmediate 0, .nextImmediate 1,
      .reportFailure (leaseOfA 0) .network (fun base => base),
      .reportFailure (leaseOfA 1) .network (fun base => base), .tick 60]

/-- The key is probed. -/
def probedA : System := Runs.reached sampleNext trippedA [.nextImmediate 2]

/-- The probe fails and a whole breaker cooldown passes. -/
def probeFails : List Action :=
  [.reportFailure (leaseOfA 2) .network (fun base => base), .tick 60]

/-- The key may be probed again. -/
def recoveredA : System := Runs.reached sampleNext probedA probeFails

/-- The key is probed again. -/
def reprobedA : System := Runs.reached sampleNext recoveredA [.nextImmediate 3]

/-- The two probes of this key are sixty units apart. -/
theorem half_open_probes_spaced_tripped :
    trippedA.clock + min samplePolicy.breakerCooldown maxCooldown ≤ recoveredA.clock := by
  have probed : Step samplePolicy sampleFingerprint trippedA (.nextImmediate 2) probedA := by
    decide +kernel
  have waited : (Runs.record sampleNext probedA probeFails).isSome := by
    decide +kernel
  have again : Step samplePolicy sampleFingerprint recoveredA (.nextImmediate 3) reprobedA := by
    decide +kernel
  have onward : Runs.Run (Step samplePolicy sampleFingerprint) probedA
      (Runs.steps sampleNext probedA probeFails ++
        [⟨recoveredA, .nextImmediate 3, reprobedA⟩]) reprobedA :=
    (Runs.replay_run waited).join again .start
  have run : Runs.Run (Step samplePolicy sampleFingerprint) trippedA
      ([] ++ ⟨trippedA, .nextImmediate 2, probedA⟩ :: _) reprobedA :=
    Runs.Run.start.join probed onward
  have found : trippedA.pool.lookup "a" = some
      { (KeyEntry.fresh sampleFingerprint ⟨"a"⟩).cool 60 .circuitBreaker 1 with
        lastFailureBy := some 1
        halfOpen := true } := by decide +kernel
  refine (half_open_probes_spaced run "a").1 [] _ [] _ _ (leaseOfA 2) (leaseOfA 3) _ rfl
    (by decide +kernel) (by decide +kernel) rfl rfl found rfl ?_ ?_
  · rintro step member ⟨selection, entry, succeeded, _⟩
    have label := Runs.steps_label member
    simp [probeFails, succeeded] at label
  · rintro step member ⟨keys, dropped, _⟩
    have label := Runs.steps_label member
    simp [probeFails, dropped] at label

end System

end Orihsus.Pool
